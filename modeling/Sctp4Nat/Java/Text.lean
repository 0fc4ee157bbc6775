import Mathlib.Data.List.Infix

/-! # Words in formatted text

A search for a keyword in a text that was put together from literals and formatted numbers. The
keyword consists of characters of one class (`Word`), the numbers and some of the literals have
no character of it (`Gap`), so the keyword lies on one side of a gap: it is found in the text
exactly when it is found in one of the other literals. -/

namespace Sctp4Nat.Text

section
variable {α : Type*} {p : α → Bool} {str a b t : List α} {c : α}

/-- A keyword: not empty, and all its characters in the class `p`. -/
structure Word (p : α → Bool) (str : List α) : Prop where
  ne_nil : str ≠ []
  all : ∀ c ∈ str, p c = true

/-- A part of a text without characters of the class `p`. -/
def Gap (p : α → Bool) (t : List α) : Prop := ∀ c ∈ t, p c = false

instance (p : α → Bool) (t : List α) : Decidable (Gap p t) :=
  decidable_of_iff (t.all (fun c => !p c) = true) (by simp [Gap])

theorem Gap.append (ha : Gap p a) (hb : Gap p b) : Gap p (a ++ b) := by
  intro c hc
  rcases List.mem_append.mp hc with hc | hc
  · exact ha c hc
  · exact hb c hc

theorem Gap.cons (hc : p c = false) (ht : Gap p t) : Gap p (c :: t) := by
  intro d hd
  rcases List.mem_cons.mp hd with rfl | hd
  · exact hc
  · exact ht d hd

theorem gap_intercalate {parts : List (List α)} (hc : p c = false)
    (h : ∀ t ∈ parts, Gap p t) : Gap p ([c].intercalate parts) := by
  induction parts with
  | nil => exact fun d hd => absurd hd List.not_mem_nil
  | cons t parts ih =>
    obtain ⟨ht, hparts⟩ := List.forall_mem_cons.mp h
    cases parts with
    | nil => simpa using ht
    | cons u parts =>
      rw [List.intercalate_cons_cons, List.append_assoc]
      exact ht.append (.cons hc (ih hparts))

/-- What begins with characters of the class does not reach past a separator. -/
theorem prefix_append_cons (hall : ∀ c ∈ str, p c = true) (hc : p c = false) :
    str <+: a ++ c :: b ↔ str <+: a := by
  induction a generalizing str with
  | nil =>
    rw [List.nil_append, List.prefix_nil, List.prefix_cons_iff]
    constructor
    · rintro (h | ⟨t, rfl, _⟩)
      · exact h
      · rw [hall c List.mem_cons_self] at hc
        cases hc
    · exact .inl
  | cons x a ih =>
    rw [List.cons_append, List.prefix_cons_iff, List.prefix_cons_iff]
    refine or_congr_right (exists_congr fun t => and_congr_right fun he => ?_)
    subst he
    exact ih fun d hd => hall d (List.mem_cons_of_mem _ hd)

theorem Word.infix_append_cons (h : Word p str) (hc : p c = false) :
    str <:+: a ++ c :: b ↔ str <:+: a ∨ str <:+: b := by
  induction a with
  | nil =>
    have hnil : ¬ str <+: c :: b := fun hp =>
      h.ne_nil (List.prefix_nil.mp ((prefix_append_cons (a := []) h.all hc).mp hp))
    rw [List.nil_append, List.infix_cons_iff, List.infix_nil]
    simp [hnil, h.ne_nil]
  | cons x a ih =>
    have hprefix : str <+: x :: (a ++ c :: b) ↔ str <+: x :: a :=
      prefix_append_cons (a := x :: a) h.all hc
    rw [List.cons_append, List.infix_cons_iff, List.infix_cons_iff, ih, hprefix, or_assoc]

theorem Word.infix_gap_append (h : Word p str) (ht : Gap p t) :
    str <:+: t ++ b ↔ str <:+: b := by
  induction t with
  | nil => rfl
  | cons c t ih =>
    have hsplit := h.infix_append_cons (a := []) (b := t ++ b) (ht c List.mem_cons_self)
    rw [List.nil_append, List.infix_nil, or_iff_right h.ne_nil] at hsplit
    rw [List.cons_append, hsplit]
    exact ih fun d hd => ht d (List.mem_cons_of_mem _ hd)

/-- A keyword is found on one side of a gap or on the other. -/
theorem Word.infix_append_gap (h : Word p str) (ht : Gap p t) (hne : t ≠ []) :
    str <:+: a ++ (t ++ b) ↔ str <:+: a ∨ str <:+: b := by
  obtain ⟨c, t, rfl⟩ := List.exists_cons_of_ne_nil hne
  rw [List.cons_append, h.infix_append_cons (ht c List.mem_cons_self),
    h.infix_gap_append fun d hd => ht d (List.mem_cons_of_mem _ hd)]

theorem Word.infix_append_gap_right (h : Word p str) (ht : Gap p t) :
    str <:+: a ++ t ↔ str <:+: a := by
  cases t with
  | nil => rw [List.append_nil]
  | cons c t =>
    have hsplit := h.infix_append_gap (a := a) (b := []) ht (List.cons_ne_nil c t)
    rwa [List.append_nil, List.infix_nil, or_iff_left h.ne_nil] at hsplit

theorem Word.not_infix_gap (h : Word p str) (ht : Gap p t) : ¬ str <:+: t := by
  have := h.infix_gap_append (b := []) ht
  rw [List.append_nil, List.infix_nil] at this
  exact fun hi => h.ne_nil (this.mp hi)

end

/-! ## Formatted numbers -/

theorem exists_of_mem_toDigits {b n : Nat} (hb : 1 < b) (hc : c ∈ Nat.toDigits b n) :
    ∃ d < b, c = Nat.digitChar d := by
  induction n using Nat.strongRecOn with
  | ind n ih =>
    rw [Nat.toDigits_eq_if hb] at hc
    split at hc
    · exact ⟨n, ‹_›, List.mem_singleton.mp hc⟩
    · rcases List.mem_append.mp hc with hc | hc
      · exact ih (n / b) (Nat.div_lt_self (by omega) hb) hc
      · exact ⟨n % b, Nat.mod_lt _ (by omega), List.mem_singleton.mp hc⟩

/-- The digits of a number in a base up to sixteen are a gap for every class that has none of
them. -/
theorem gap_toDigits {p : Char → Bool} (hp : ∀ d < 16, p (Nat.digitChar d) = false) {b : Nat}
    (hb : 1 < b) (hb' : b ≤ 16) (n : Nat) : Gap p (Nat.toDigits b n) := by
  intro c hc
  obtain ⟨d, hd, rfl⟩ := exists_of_mem_toDigits hb hc
  exact hp d (by omega)

theorem digitChar_inj {d e : Nat} (hd : d < 16) (he : e < 16)
    (h : Nat.digitChar d = Nat.digitChar e) : d = e := by
  have hall : ∀ d < 16, ∀ e < 16, Nat.digitChar d = Nat.digitChar e → d = e := by decide
  exact hall d hd e he h

/-- In a base up to sixteen the digits determine the number. -/
theorem toDigits_inj {b m n : Nat} (hb : 1 < b) (hb' : b ≤ 16)
    (h : Nat.toDigits b m = Nat.toDigits b n) : m = n := by
  induction m using Nat.strongRecOn generalizing n with
  | ind m ih =>
    rw [Nat.toDigits_eq_if hb, Nat.toDigits_eq_if (n := n) hb] at h
    split at h <;> split at h
    · exact digitChar_inj (by omega) (by omega) (List.singleton_inj.mp h)
    · -- one digit against two or more
      have hlen := congrArg List.length h
      simp [Nat.toDigits_ne_nil] at hlen
    · have hlen := congrArg List.length h
      simp [Nat.toDigits_ne_nil] at hlen
    · obtain ⟨hdiv, hmod⟩ := List.append_inj' h rfl
      have hq := ih (m / b) (Nat.div_lt_self (by omega) hb) hdiv
      have hr := digitChar_inj (Nat.lt_of_lt_of_le (Nat.mod_lt m (by omega)) hb')
        (Nat.lt_of_lt_of_le (Nat.mod_lt n (by omega)) hb') (List.singleton_inj.mp hmod)
      rw [← Nat.div_add_mod m b, ← Nat.div_add_mod n b, hq, hr]

/-- Numbers between separators that are no digits are determined by the text. -/
theorem intercalate_toDigits_inj {sep : Char} (hsep : ∀ d < 16, Nat.digitChar d ≠ sep)
    {b k : Nat} (hb : 1 < b) (hb' : b ≤ 16) {f g : Nat → Nat}
    (h : [sep].intercalate ((List.range k).map fun i => Nat.toDigits b (f i)) =
      [sep].intercalate ((List.range k).map fun i => Nat.toDigits b (g i))) :
    ∀ i < k, f i = g i := by
  intro i hi
  have hfree : ∀ f : Nat → Nat, ∀ digits ∈ (List.range k).map fun i => Nat.toDigits b (f i),
      sep ∉ digits := by
    intro f digits hmem hs
    obtain ⟨j, _, rfl⟩ := List.mem_map.mp hmem
    obtain ⟨d, hd, he⟩ := exists_of_mem_toDigits hb hs
    exact hsep d (by omega) he.symm
  have hne : ∀ f : Nat → Nat, (List.range k).map (fun i => Nat.toDigits b (f i)) ≠ [] := by
    intro f hnil
    rw [List.map_eq_nil_iff, List.range_eq_nil] at hnil
    omega
  have hsplit := congrArg (List.splitOn sep) h
  rw [List.splitOn_intercalate sep (hfree f) (hne f),
    List.splitOn_intercalate sep (hfree g) (hne g)] at hsplit
  exact toDigits_inj hb hb' (List.map_inj_left.mp hsplit i (List.mem_range.mpr hi))

/-- What stands before the first separator, and what follows it, are determined by the text. -/
theorem append_inj_of_sep {α : Type*} {sep : α} {a a' b b' : List α} (ha : sep ∉ a)
    (ha' : sep ∉ a') (hb : b = [] ∨ ∃ t, b = sep :: t) (hb' : b' = [] ∨ ∃ t, b' = sep :: t)
    (h : a ++ b = a' ++ b') : a = a' ∧ b = b' := by
  induction a generalizing a' with
  | nil =>
    cases a' with
    | nil => exact ⟨rfl, h⟩
    | cons x a' =>
      rcases hb with rfl | ⟨t, rfl⟩
      · cases h
      · exact absurd ((List.cons.inj h).1 ▸ List.mem_cons_self) ha'
  | cons x a ih =>
    cases a' with
    | nil =>
      rcases hb' with rfl | ⟨t, rfl⟩
      · cases h
      · exact absurd ((List.cons.inj h).1 ▸ List.mem_cons_self) ha
    | cons x' a' =>
      obtain ⟨rfl, htail⟩ := List.cons.inj h
      obtain ⟨rfl, hbb⟩ := ih (fun hs => ha (List.mem_cons_of_mem _ hs))
        (fun hs => ha' (List.mem_cons_of_mem _ hs)) htail
      exact ⟨rfl, hbb⟩

end Sctp4Nat.Text
