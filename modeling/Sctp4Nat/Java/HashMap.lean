import Mathlib.Data.List.Pairwise
import Mathlib.Data.List.Perm.Basic

/-! # `java.util.concurrent.ConcurrentHashMap`

A map is the list of its entries, no two of which have equal keys. Keys are compared with their
own `equals`, which may identify keys that are different objects; a `put` on an equal key keeps
the key that is there. The order in which a map is iterated is not the order of the list: an
`Iteration` stands for the order of one traversal. -/

namespace Sctp4Nat

/-- Java's `equals` on a class of keys, with the laws of its contract. -/
class JavaEq (K : Type*) where
  equals : K → K → Bool
  equals_refl : ∀ a, equals a a = true
  equals_symm : ∀ {a b}, equals a b = true → equals b a = true
  equals_trans : ∀ {a b c}, equals a b = true → equals b c = true → equals a c = true

export JavaEq (equals equals_refl equals_symm equals_trans)

/-- Objects that are equal when they are the same value. -/
instance : JavaEq Nat where
  equals a b := a == b
  equals_refl := by simp
  equals_symm h := beq_iff_eq.mpr (beq_iff_eq.mp h).symm
  equals_trans h h' := beq_iff_eq.mpr ((beq_iff_eq.mp h).trans (beq_iff_eq.mp h'))

/-- The order of one traversal of a collection. -/
structure Iteration (α : Type*) where
  order : List α → List α
  perm : ∀ l, (order l).Perm l

def Iteration.id {α : Type*} : Iteration α := ⟨fun l => l, fun _ => .refl _⟩

@[simp] theorem Iteration.mem_order {α : Type*} (it : Iteration α) {a : α} {l : List α} :
    a ∈ it.order l ↔ a ∈ l :=
  (it.perm l).mem_iff

structure ConcurrentHashMap (K V : Type*) [JavaEq K] where
  entries : List (K × V)
  distinct : entries.Pairwise fun a b => equals a.1 b.1 = false

namespace ConcurrentHashMap

variable {K V : Type*} [JavaEq K]

def empty : ConcurrentHashMap K V := ⟨[], .nil⟩

def get (m : ConcurrentHashMap K V) (k : K) : Option V :=
  (m.entries.find? fun e => equals k e.1).map Prod.snd

def containsKey (m : ConcurrentHashMap K V) (k : K) : Bool := m.entries.any fun e => equals k e.1

/-- `contains`, which looks for a value. -/
def contains [DecidableEq V] (m : ConcurrentHashMap K V) (v : V) : Bool :=
  m.entries.any fun e => e.2 = v

def values (m : ConcurrentHashMap K V) : List V := m.entries.map Prod.snd

def size (m : ConcurrentHashMap K V) : Nat := m.entries.length

/-- Replace the value of the entry of `k`. -/
def replaceValue (k : K) (v : V) (e : K × V) : K × V := if equals k e.1 then (e.1, v) else e

@[simp] theorem replaceValue_fst (k : K) (v : V) (e : K × V) : (replaceValue k v e).1 = e.1 := by
  unfold replaceValue; split <;> rfl

def put (m : ConcurrentHashMap K V) (k : K) (v : V) : ConcurrentHashMap K V :=
  if h : m.containsKey k = true then
    ⟨m.entries.map (replaceValue k v),
      List.pairwise_map.mpr (m.distinct.imp fun hab => by simpa using hab)⟩
  else
    ⟨m.entries ++ [(k, v)], by
      refine List.pairwise_append.mpr ⟨m.distinct, List.pairwise_singleton .., fun a ha b hb => ?_⟩
      cases List.mem_singleton.mp hb
      refine Bool.eq_false_iff.mpr fun he => h ?_
      exact List.any_eq_true.mpr ⟨a, ha, equals_symm he⟩⟩

/-- Remove the entries whose key the argument of `remove` is equal to. -/
def removeIf (m : ConcurrentHashMap K V) (p : K → Bool) : ConcurrentHashMap K V :=
  ⟨m.entries.filter fun e => !p e.1, m.distinct.filter _⟩

def remove (m : ConcurrentHashMap K V) (k : K) : ConcurrentHashMap K V := m.removeIf (equals k)

variable {m : ConcurrentHashMap K V} {k k' : K} {v v' : V}

theorem containsKey_iff : m.containsKey k = true ↔ ∃ e ∈ m.entries, equals k e.1 = true :=
  List.any_eq_true

/-- Two entries with equal keys are the same entry. -/
theorem entry_unique {a b : K × V} (ha : a ∈ m.entries) (hb : b ∈ m.entries)
    (h : equals a.1 b.1 = true) : a = b := by
  have : Std.Symm fun a b : K × V => equals a.1 b.1 = false := by
    refine ⟨fun a b hab => Bool.eq_false_iff.mpr fun hba => ?_⟩
    rw [equals_symm hba] at hab
    cases hab
  by_contra hne
  rw [m.distinct.forall ha hb hne] at h
  cases h

theorem nodup (m : ConcurrentHashMap K V) : m.entries.Nodup := by
  refine m.distinct.imp fun hab he => ?_
  rw [he, equals_refl] at hab
  cases hab

theorem get_eq_some_iff :
    m.get k = some v ↔ ∃ k', equals k k' = true ∧ (k', v) ∈ m.entries := by
  simp only [get, Option.map_eq_some_iff]
  constructor
  · rintro ⟨e, he, rfl⟩
    exact ⟨e.1, by simpa using List.find?_some he, List.mem_of_find?_eq_some he⟩
  · rintro ⟨k', hk, hmem⟩
    cases hf : m.entries.find? fun e => equals k e.1 with
    | none =>
      have := List.find?_eq_none.mp hf _ hmem
      exact absurd hk this
    | some e =>
      have he : equals k e.1 = true := by simpa using List.find?_some hf
      have := entry_unique (List.mem_of_find?_eq_some hf) hmem (equals_trans (equals_symm he) hk)
      exact ⟨e, rfl, by rw [this]⟩

theorem containsKey_eq_isSome : m.containsKey k = (m.get k).isSome := by
  rw [Bool.eq_iff_iff, containsKey_iff, Option.isSome_iff_exists]
  constructor
  · rintro ⟨e, he, hk⟩
    exact ⟨e.2, get_eq_some_iff.mpr ⟨e.1, hk, he⟩⟩
  · rintro ⟨v, hv⟩
    obtain ⟨k', hk, hmem⟩ := get_eq_some_iff.mp hv
    exact ⟨_, hmem, hk⟩

/-- An entry after `put`: one of another key, or the one of `k` with the new value. -/
theorem mem_put {e : K × V} : e ∈ (m.put k v).entries ↔
    (e ∈ m.entries ∧ equals k e.1 = false) ∨
      (equals k e.1 = true ∧ e.2 = v ∧
        ((∃ w, (e.1, w) ∈ m.entries) ∨ m.containsKey k = false ∧ e.1 = k)) := by
  unfold put
  split
  · rename_i hc
    simp only [List.mem_map, hc, Bool.true_eq_false, false_and, or_false]
    constructor
    · rintro ⟨e', hmem, rfl⟩
      unfold replaceValue
      split
      · rename_i he; exact .inr ⟨he, rfl, e'.2, hmem⟩
      · rename_i he; exact .inl ⟨hmem, by simpa using he⟩
    · rintro (⟨hmem, he⟩ | ⟨he, rfl, w, hmem⟩)
      · exact ⟨e, hmem, by simp [replaceValue, he]⟩
      · exact ⟨_, hmem, by simp [replaceValue, he]⟩
  · rename_i hc
    have hnone : ∀ e' ∈ m.entries, equals k e'.1 = false := fun e' he' =>
      Bool.eq_false_iff.mpr fun he => hc (containsKey_iff.mpr ⟨e', he', he⟩)
    simp only [List.mem_append, List.mem_singleton, hc, true_and]
    constructor
    · rintro (hmem | rfl)
      · exact .inl ⟨hmem, hnone e hmem⟩
      · exact .inr ⟨equals_refl k, rfl, .inr rfl⟩
    · rintro (⟨hmem, _⟩ | ⟨he, rfl, ⟨w, hmem⟩ | rfl⟩)
      · exact .inl hmem
      · rw [hnone _ hmem] at he; cases he
      · exact .inr rfl

theorem get_put : (m.put k v).get k' = if equals k k' = true then some v else m.get k' := by
  split
  · rename_i h
    refine get_eq_some_iff.mpr ?_
    by_cases hc : m.containsKey k = true
    · obtain ⟨e, he, hk⟩ := containsKey_iff.mp hc
      exact ⟨e.1, equals_trans (equals_symm h) hk, mem_put.mpr (.inr ⟨hk, rfl, .inl ⟨e.2, he⟩⟩)⟩
    · exact ⟨k, equals_symm h,
        mem_put.mpr (.inr ⟨equals_refl k, rfl, .inr ⟨by simpa using hc, rfl⟩⟩)⟩
  · rename_i h
    -- an entry for `k'` is not one for `k`
    have hne : ∀ a, equals k' a = true → equals k a = false := fun a ha =>
      Bool.eq_false_iff.mpr fun hk => h (equals_trans hk (equals_symm ha))
    refine Option.ext fun w => ?_
    rw [get_eq_some_iff, get_eq_some_iff]
    refine exists_congr fun a => and_congr_right fun ha => ?_
    simp [mem_put, hne a ha]

/-- A `put` on a new key adds one entry. -/
theorem mem_put_of_fresh {e : K × V} (h : m.containsKey k = false) :
    e ∈ (m.put k v).entries ↔ e ∈ m.entries ∨ e = (k, v) := by
  unfold put
  rw [dif_neg (by simp [h]), List.mem_append, List.mem_singleton]

/-- A property that equal keys share, if it holds of the entries before a `put`, holds of those
after it just when it holds of the new one. -/
theorem forall_mem_put {R : K → V → Prop} (hR : ∀ a b v, equals a b = true → R a v → R b v)
    (h : ∀ e ∈ m.entries, R e.1 e.2) : (∀ e ∈ (m.put k v).entries, R e.1 e.2) ↔ R k v := by
  constructor
  · intro h'
    have hget : (m.put k v).get k = some v := by rw [get_put, if_pos (equals_refl k)]
    obtain ⟨k', hk, hmem⟩ := get_eq_some_iff.mp hget
    exact hR k' k v (equals_symm hk) (h' _ hmem)
  · intro hk e he
    rcases mem_put.mp he with ⟨hmem, _⟩ | ⟨hke, rfl, _⟩
    · exact h e hmem
    · exact hR k e.1 e.2 hke hk

theorem containsKey_put : (m.put k v).containsKey k' = (equals k k' || m.containsKey k') := by
  rw [containsKey_eq_isSome, containsKey_eq_isSome, get_put]
  cases equals k k' <;> simp

theorem mem_removeIf {p : K → Bool} {e : K × V} :
    e ∈ (m.removeIf p).entries ↔ e ∈ m.entries ∧ p e.1 = false := by
  simp [removeIf]

theorem get_remove : (m.remove k).get k' = if equals k k' = true then none else m.get k' := by
  refine Option.ext fun w => ?_
  split
  · rename_i h
    simp only [get_eq_some_iff, remove, mem_removeIf, reduceCtorEq, iff_false]
    rintro ⟨a, ha, _, hk⟩
    rw [equals_trans h ha] at hk
    cases hk
  · rename_i h
    rw [get_eq_some_iff, get_eq_some_iff]
    refine exists_congr fun a => and_congr_right fun ha => ?_
    have : equals k a = false :=
      Bool.eq_false_iff.mpr fun hk => h (equals_trans hk (equals_symm ha))
    simp [remove, mem_removeIf, this]

/-- A `remove` whose argument is equal to no key changes nothing. -/
theorem removeIf_eq_self {p : K → Bool} (h : ∀ e ∈ m.entries, p e.1 = false) :
    m.removeIf p = m := by
  have : m.entries.filter (fun e => !p e.1) = m.entries :=
    List.filter_eq_self.mpr fun e he => by simp [h e he]
  cases m
  simpa [removeIf] using this

theorem remove_of_not_containsKey (h : m.containsKey k = false) : m.remove k = m :=
  removeIf_eq_self fun _ he => Bool.eq_false_iff.mpr fun hk =>
    Bool.eq_false_iff.mp h (containsKey_iff.mpr ⟨_, he, hk⟩)

theorem containsKey_remove_self : (m.remove k).containsKey k = false := by
  rw [containsKey_eq_isSome, get_remove, if_pos (equals_refl k)]
  rfl

theorem remove_eq_self_iff : m.remove k = m ↔ m.containsKey k = false :=
  ⟨fun h => h ▸ containsKey_remove_self, remove_of_not_containsKey⟩

/-- A `remove` takes back what a `put` has stored, and the entry that was there before with it. -/
theorem remove_put : (m.put k v).remove k = m.remove k := by
  have hentries : (m.put k v).entries.filter (fun e => !equals k e.1) =
      m.entries.filter fun e => !equals k e.1 := by
    unfold put
    split
    · rw [List.filter_map]
      have hpred : (fun e : K × V => !equals k e.1) ∘ replaceValue k v =
          fun e => !equals k e.1 := funext fun e => by simp
      rw [hpred]
      refine List.map_congr_left (fun e he => ?_) |>.trans (List.map_id _)
      have hk : equals k e.1 = false := by simpa using (List.mem_filter.mp he).2
      simp [replaceValue, hk]
    · simp [List.filter_append, equals_refl]
  simp only [remove, removeIf, hentries]

/-- A `put` keeps the entries of other keys, and adds one for its own. -/
theorem size_le_size_put : m.size ≤ (m.put k v).size := by
  unfold put
  split <;> simp [size]

theorem mem_values {v : V} : v ∈ m.values ↔ ∃ k, (k, v) ∈ m.entries := by
  simp [values]

/-- The values under other keys than `k`. -/
def valuesApart (m : ConcurrentHashMap K V) (k : K) : List V := (m.remove k).values

theorem mem_valuesApart :
    v ∈ m.valuesApart k ↔ ∃ k', (k', v) ∈ m.entries ∧ equals k k' = false := by
  simp [valuesApart, mem_values, remove, mem_removeIf]

/-- After a `put` the map has the new value and those under other keys. -/
theorem mem_values_put : v' ∈ (m.put k v).values ↔ v' = v ∨ v' ∈ m.valuesApart k := by
  rw [mem_values, mem_valuesApart]
  constructor
  · rintro ⟨k', hmem⟩
    rcases mem_put.mp hmem with h | ⟨_, h, _⟩
    · exact .inr ⟨k', h⟩
    · exact .inl h
  · rintro (rfl | ⟨k', h⟩)
    · have hget : (m.put k v').get k = some v' := by rw [get_put, if_pos (equals_refl k)]
      obtain ⟨k', _, hmem⟩ := get_eq_some_iff.mp hget
      exact ⟨k', hmem⟩
    · exact ⟨k', mem_put.mpr (.inl h)⟩

/-- A `put` leaves the values under other keys as they are. -/
theorem mem_valuesApart_put : v' ∈ (m.put k v).valuesApart k ↔ v' ∈ m.valuesApart k := by
  rw [mem_valuesApart, mem_valuesApart]
  refine exists_congr fun k' => and_congr_left fun hk => ?_
  rw [mem_put]
  simp [hk]

/-- A value is under `k` or under another key. -/
theorem mem_values_iff : v ∈ m.values ↔ m.get k = some v ∨ v ∈ m.valuesApart k := by
  rw [mem_values, mem_valuesApart, get_eq_some_iff]
  constructor
  · rintro ⟨k', hmem⟩
    cases hk : equals k k' with
    | true => exact .inl ⟨k', hk, hmem⟩
    | false => exact .inr ⟨k', hmem, hk⟩
  · rintro (⟨k', _, hmem⟩ | ⟨k', hmem, _⟩) <;> exact ⟨k', hmem⟩

theorem contains_iff [DecidableEq V] : m.contains v = true ↔ v ∈ m.values := by
  simp [contains, mem_values]

end ConcurrentHashMap

end Sctp4Nat
