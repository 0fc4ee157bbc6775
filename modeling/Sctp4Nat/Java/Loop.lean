import Mathlib.Logic.Relation

/-! # Methods that log, and their loops

A method that only writes to a log is the list of what it has written together with its outcome,
a value or an exception; what was written before an exception stays written. A `while` loop over
such a body need not end, so it runs on fuel, and `Halts` says that some fuel is enough. The
exact condition for a loop to end without an exception is about the states in which its test is
made (`halts_ok_iff`). -/

namespace Sctp4Nat

def Logged (ω ε α : Type) : Type := List ω × Except ε α

namespace Logged

variable {ω ε α β : Type}

instance : Monad (Logged ω ε) where
  pure a := ([], .ok a)
  bind m f := match m with
    | (out, .ok a) => (out ++ (f a).1, (f a).2)
    | (out, .error e) => (out, .error e)

def log (line : ω) : Logged ω ε Unit := ([line], .ok ())

def throw (e : ε) : Logged ω ε α := ([], .error e)

theorem bind_ok {m : Logged ω ε α} {f : α → Logged ω ε β} (h : m = (out, .ok a))
    (h' : f a = (out', r)) : m >>= f = (out ++ out', r) := by
  subst h
  change (out ++ (f a).1, (f a).2) = _
  rw [h']

theorem bind_ok_nil {m : Logged ω ε α} {f : α → Logged ω ε β} (h : m = ([], .ok a)) :
    m >>= f = f a := by
  subst h
  rfl

theorem log_bind (line : ω) (f : Unit → Logged ω ε β) (h : f () = (out, r)) :
    log line >>= f = (line :: out, r) :=
  bind_ok rfl h

/-- A sequence that has returned did so in each of its two parts. -/
theorem bind_eq_ok {m : Logged ω ε α} {f : α → Logged ω ε β} (h : m >>= f = (out, .ok b)) :
    ∃ out₁ a out₂, m = (out₁, .ok a) ∧ f a = (out₂, .ok b) := by
  obtain ⟨out₁, r⟩ := m
  cases r with
  | ok a =>
    have hr : (f a).2 = .ok b := congrArg Prod.snd h
    exact ⟨out₁, a, (f a).1, rfl, Prod.ext rfl hr⟩
  | error e => exact absurd (congrArg Prod.snd h) nofun

end Logged

/-! ## `while` -/

section

variable {σ ω ε : Type}

/-- A `while` loop, cut off after some iterations. -/
def whileLoop (test : σ → Bool) (body : σ → Logged ω ε σ) : Nat → σ → Option (Logged ω ε σ)
  | 0, _ => none
  | fuel + 1, s =>
    if test s then
      match body s with
      | (out, .ok s') => (whileLoop test body fuel s').map fun r => (out ++ r.1, r.2)
      | (out, .error e) => some (out, .error e)
    else some ([], .ok s)

/-- The loop ends with this log and this outcome. -/
def Halts (test : σ → Bool) (body : σ → Logged ω ε σ) (s : σ) (r : Logged ω ε σ) : Prop :=
  ∃ fuel, whileLoop test body fuel s = some r

/-- One iteration leads from one test to the next. -/
def Iterates (test : σ → Bool) (body : σ → Logged ω ε σ) (s s' : σ) : Prop :=
  test s = true ∧ ∃ out, body s = (out, .ok s')

/-- The states in which the test of a loop is made. -/
def Visits (test : σ → Bool) (body : σ → Logged ω ε σ) : σ → σ → Prop :=
  Relation.ReflTransGen (Iterates test body)

variable {test : σ → Bool} {body : σ → Logged ω ε σ} {s s' t : σ} {out out' : List ω}

theorem halts_of_not_test (h : test s = false) : Halts test body s ([], .ok s) :=
  ⟨1, by simp [whileLoop, h]⟩

/-- A loop that makes an iteration ends as it does from there on. -/
theorem halts_of_step (h : test s = true) (hb : body s = (out, .ok s'))
    (hr : Halts test body s' (out', .ok t)) : Halts test body s (out ++ out', .ok t) := by
  obtain ⟨fuel, hr⟩ := hr
  refine ⟨fuel + 1, ?_⟩
  simp only [whileLoop, h, if_true, hb, hr]
  rfl

/-- The loop has a body to run or it has not; this is how it ends in the two cases. -/
theorem Halts.cases (h : Halts test body s (out, .ok t)) :
    (test s = false ∧ out = [] ∧ t = s) ∨
      ∃ out₁ s' out₂, test s = true ∧ body s = (out₁, .ok s') ∧ out = out₁ ++ out₂ ∧
        Halts test body s' (out₂, .ok t) := by
  obtain ⟨fuel, h⟩ := h
  cases fuel with
  | zero => cases h
  | succ fuel =>
    rw [whileLoop] at h
    cases ht : test s with
    | false =>
      rw [ht] at h
      cases h
      exact .inl ⟨rfl, rfl, rfl⟩
    | true =>
      rw [ht, if_pos rfl] at h
      refine .inr ?_
      split at h
      · rename_i out₁ s' hb
        obtain ⟨⟨out₂, r⟩, hw, hr⟩ := Option.map_eq_some_iff.mp h
        cases hr
        exact ⟨out₁, s', out₂, rfl, hb, rfl, fuel, hw⟩
      · cases h

/-- A loop that ends does so from every state it visits. -/
theorem Halts.visits (h : Halts test body s (out, .ok t)) (hv : Visits test body s s') :
    ∃ out', Halts test body s' (out', .ok t) := by
  induction hv with
  | refl => exact ⟨out, h⟩
  | tail _ hs ih =>
    obtain ⟨ht, _, hb⟩ := hs
    obtain ⟨out', ih⟩ := ih
    rcases ih.cases with ⟨hf, -⟩ | ⟨_, _, out₂, -, hb', -, h'⟩
    · rw [ht] at hf
      cases hf
    · rw [hb] at hb'
      cases hb'
      exact ⟨out₂, h'⟩

/-- A body that leaves the state as it is is run for ever. -/
theorem not_halts_of_fixed (h : test s = true) (hb : body s = (out, .ok s)) (r : Logged ω ε σ) :
    ¬ Halts test body s r := by
  rintro ⟨fuel, hr⟩
  induction fuel generalizing r with
  | zero => cases hr
  | succ fuel ih =>
    simp only [whileLoop, h, if_true, hb] at hr
    obtain ⟨r', hr', -⟩ := Option.map_eq_some_iff.mp hr
    exact ih r' hr'

/-- The body ends without an exception wherever it is run, and each time lowers a measure. -/
theorem halts_of_measure (μ : σ → Nat)
    (h : ∀ s', Visits test body s s' → test s' = true →
      ∃ out s'', body s' = (out, .ok s'') ∧ μ s'' < μ s') :
    ∃ out t, Halts test body s (out, .ok t) := by
  induction hn : μ s using Nat.strongRecOn generalizing s with
  | ind n ih =>
    cases ht : test s with
    | false => exact ⟨[], s, halts_of_not_test ht⟩
    | true =>
      obtain ⟨out, s', hb, hlt⟩ := h s .refl ht
      have hstep : Iterates test body s s' := ⟨ht, out, hb⟩
      obtain ⟨out', t, hr⟩ := ih (μ s') (hn ▸ hlt) (fun s'' hv => h s'' (.head hstep hv)) rfl
      exact ⟨out ++ out', t, halts_of_step ht hb hr⟩

/-- For a body that lowers a measure or else leaves the state as it is: the loop ends without an
exception exactly when no iteration throws or leaves the state as it is. -/
theorem halts_ok_iff (μ : σ → Nat)
    (hμ : ∀ s out s', test s = true → body s = (out, .ok s') → s' = s ∨ μ s' < μ s) :
    (∃ out t, Halts test body s (out, .ok t)) ↔
      ∀ s', Visits test body s s' → test s' = true →
        ∃ out s'', body s' = (out, .ok s'') ∧ s'' ≠ s' := by
  constructor
  · rintro ⟨out, t, h⟩ s' hv ht
    obtain ⟨out', h'⟩ := h.visits hv
    rcases h'.cases with ⟨hf, -⟩ | ⟨out₁, s'', _, -, hb, -⟩
    · rw [ht] at hf
      cases hf
    · refine ⟨out₁, s'', hb, ?_⟩
      rintro rfl
      exact not_halts_of_fixed ht hb _ h'
  · intro h
    refine halts_of_measure μ fun s' hv ht => ?_
    obtain ⟨out, s'', hb, hne⟩ := h s' hv ht
    exact ⟨out, s'', hb, (hμ s' out s'' ht hb).resolve_left hne⟩

end

end Sctp4Nat
