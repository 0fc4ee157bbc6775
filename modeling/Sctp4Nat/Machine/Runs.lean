import Mathlib.Data.List.Chain

/-! # Runs of bits

The maximal runs of set bits, as intervals of their numbers in increasing order. They cover the set
bits and nothing else (`covers_runs`), and no two of them touch (`apart_runs`). The runs of a list
are those of its two parts, with the two runs at the seam made one when they touch
(`runs_append`). -/

namespace Sctp4Nat

/-- An interval before others, made one with the first of them if the two touch. -/
def pushRun (r : Nat × Nat) : List (Nat × Nat) → List (Nat × Nat)
  | [] => [r]
  | r' :: rs => if r.2 + 1 = r'.1 then (r.1, r'.2) :: rs else r :: r' :: rs

/-- Two lists of intervals, one after the other. -/
def joinRuns : List (Nat × Nat) → List (Nat × Nat) → List (Nat × Nat)
  | [], rs' => rs'
  | [r], rs' => pushRun r rs'
  | r :: r' :: rs, rs' => r :: joinRuns (r' :: rs) rs'

/-- The runs of a list whose first bit has the number `n`. -/
def runs (n : Nat) : List Bool → List (Nat × Nat)
  | [] => []
  | false :: bits => runs (n + 1) bits
  | true :: bits => pushRun (n, n) (runs (n + 1) bits)

/-- One of the intervals has the number. -/
def Covers (rs : List (Nat × Nat)) (k : Nat) : Prop := ∃ r ∈ rs, r.1 ≤ k ∧ k ≤ r.2

/-- Intervals in increasing order, with a number between any two of them. -/
structure Apart (rs : List (Nat × Nat)) : Prop where
  nonempty : ∀ r ∈ rs, r.1 ≤ r.2
  chain : rs.IsChain fun r r' => r.2 + 1 < r'.1

variable {n k : Nat} {bits bits' : List Bool} {r r' : Nat × Nat} {rs rs' : List (Nat × Nat)}

theorem not_covers_nil : ¬ Covers [] k := by
  rintro ⟨r, hr, _⟩
  cases hr

theorem covers_cons : Covers (r :: rs) k ↔ r.1 ≤ k ∧ k ≤ r.2 ∨ Covers rs k := by
  simp [Covers]

theorem Apart.of_cons (h : Apart (r :: rs)) : Apart rs :=
  ⟨fun r' hr' => h.nonempty r' (.tail _ hr'), h.chain.tail⟩

theorem Apart.cons (hr : r.1 ≤ r.2) (h : Apart rs) (hlt : ∀ r' ∈ rs.head?, r.2 + 1 < r'.1) :
    Apart (r :: rs) :=
  ⟨List.forall_mem_cons.mpr ⟨hr, h.nonempty⟩, List.isChain_cons.mpr ⟨hlt, h.chain⟩⟩

/-- The first interval after a push starts where the pushed one does. -/
theorem pushRun_eq (r : Nat × Nat) (rs : List (Nat × Nat)) :
    ∃ hi rest, pushRun r rs = (r.1, hi) :: rest := by
  cases rs with
  | nil => exact ⟨_, _, rfl⟩
  | cons r' rs =>
    rw [pushRun]
    split
    · exact ⟨_, _, rfl⟩
    · exact ⟨_, _, rfl⟩

theorem covers_pushRun (hr : r.1 ≤ r.2) (h : Apart rs) :
    Covers (pushRun r rs) k ↔ r.1 ≤ k ∧ k ≤ r.2 ∨ Covers rs k := by
  cases rs with
  | nil => exact covers_cons
  | cons r' rs =>
    have hr' := h.nonempty r' List.mem_cons_self
    rw [pushRun]
    split
    · rw [covers_cons, covers_cons, ← or_assoc]
      refine or_congr_left ?_
      omega
    · exact covers_cons

theorem Apart.pushRun (hr : r.1 ≤ r.2) (h : Apart rs) (hlt : ∀ r' ∈ rs.head?, r.2 < r'.1) :
    Apart (pushRun r rs) := by
  cases rs with
  | nil => exact .cons hr h fun r' hr' => absurd hr' (by simp)
  | cons r' rs =>
    have hr' := h.nonempty r' List.mem_cons_self
    have hlt := hlt r' rfl
    rw [Sctp4Nat.pushRun]
    split
    · refine .cons (Nat.le_trans hr (by omega)) h.of_cons ?_
      exact (List.isChain_cons.mp h.chain).1
    · refine .cons hr h fun r'' hr'' => ?_
      cases hr''
      omega

theorem le_of_mem_runs (h : r ∈ runs n bits) : n ≤ r.1 := by
  induction bits generalizing n r with
  | nil => cases h
  | cons b bits ih =>
    cases b with
    | false => exact Nat.le_of_succ_le (ih h)
    | true =>
      rw [runs] at h
      cases hrs : runs (n + 1) bits with
      | nil =>
        rw [hrs] at h
        cases List.mem_singleton.mp h
        exact Nat.le_refl n
      | cons r' rs =>
        rw [hrs, pushRun] at h
        split at h
        · rcases List.mem_cons.mp h with rfl | h
          · exact Nat.le_refl n
          · exact Nat.le_of_succ_le (ih (hrs ▸ .tail _ h))
        · rcases List.mem_cons.mp h with rfl | h
          · exact Nat.le_refl n
          · exact Nat.le_of_succ_le (ih (hrs ▸ h))

/-- Between two runs there is a bit that is not set. -/
theorem apart_runs (n : Nat) (bits : List Bool) : Apart (runs n bits) := by
  induction bits generalizing n with
  | nil => exact ⟨fun r hr => absurd hr List.not_mem_nil, .nil⟩
  | cons b bits ih =>
    cases b with
    | false => exact ih (n + 1)
    | true => exact (ih (n + 1)).pushRun (Nat.le_refl n) fun r' hr' =>
        le_of_mem_runs (List.mem_of_mem_head? hr')

/-- **The runs are the set bits.** -/
theorem covers_runs : Covers (runs n bits) k ↔ n ≤ k ∧ bits[k - n]? = some true := by
  induction bits generalizing n with
  | nil => simp [runs, not_covers_nil]
  | cons b bits ih =>
    -- the numbers after the first are those of the rest
    have hsucc : n + 1 ≤ k ∧ bits[k - (n + 1)]? = some true ↔
        n + 1 ≤ k ∧ (b :: bits)[k - n]? = some true := by
      refine and_congr_right fun hle => ?_
      rw [show k - n = k - (n + 1) + 1 by omega, List.getElem?_cons_succ]
    have hsplit : (n ≤ k ∧ (b :: bits)[k - n]? = some true) ↔
        (k = n ∧ b = true) ∨ (n + 1 ≤ k ∧ (b :: bits)[k - n]? = some true) := by
      rcases Nat.lt_trichotomy k n with h | rfl | h
      · simp [Nat.not_le.mpr h, Nat.ne_of_lt h, Nat.not_le.mpr (Nat.lt_succ_of_lt h)]
      · simp
      · simp [Nat.le_of_lt h, Nat.ne_of_gt h, Nat.succ_le_of_lt h]
    rw [hsplit, ← hsucc, ← ih]
    cases b with
    | false => simp [runs]
    | true =>
      rw [runs, covers_pushRun (Nat.le_refl n) (apart_runs ..), and_iff_left rfl]
      refine or_congr_left ?_
      exact ⟨fun h => Nat.le_antisymm h.2 h.1, fun h => ⟨Nat.le_of_eq h.symm, Nat.le_of_eq h⟩⟩

theorem lt_of_mem_runs (h : r ∈ runs n bits) : r.2 < n + bits.length := by
  have hle := (apart_runs n bits).nonempty r h
  obtain ⟨_, hbit⟩ := covers_runs.mp ⟨r, h, hle, Nat.le_refl _⟩
  have := (List.getElem?_eq_some_iff.mp hbit).1
  omega

/-! ## Two parts -/

theorem joinRuns_append_singleton (rs : List (Nat × Nat)) (r : Nat × Nat)
    (rs' : List (Nat × Nat)) : joinRuns (rs ++ [r]) rs' = rs ++ pushRun r rs' := by
  induction rs with
  | nil => rfl
  | cons r₀ rs ih =>
    cases rs with
    | nil => rfl
    | cons r₁ rs => rw [List.cons_append, List.cons_append, joinRuns, ← List.cons_append, ih]; rfl

theorem pushRun_of_touch {r s : Nat × Nat} (h : r.2 + 1 = s.1) (rs : List (Nat × Nat)) :
    pushRun r (s :: rs) = (r.1, s.2) :: rs := if_pos h

theorem pushRun_of_not_touch {r s : Nat × Nat} (h : r.2 + 1 ≠ s.1) (rs : List (Nat × Nat)) :
    pushRun r (s :: rs) = r :: s :: rs := if_neg h

theorem pushRun_pushRun (h : r.2 + 1 = r'.1) (rs : List (Nat × Nat)) :
    pushRun r (pushRun r' rs) = pushRun (r.1, r'.2) rs := by
  cases rs with
  | nil => exact pushRun_of_touch h []
  | cons r'' rs =>
    by_cases h' : r'.2 + 1 = r''.1
    · rw [pushRun_of_touch h', pushRun_of_touch (s := (r'.1, r''.2)) h,
        pushRun_of_touch (r := (r.1, r'.2)) h']
    · rw [pushRun_of_not_touch h', pushRun_of_touch h,
        pushRun_of_not_touch (r := (r.1, r'.2)) h']

theorem pushRun_joinRuns (r : Nat × Nat) (rs rs' : List (Nat × Nat)) :
    pushRun r (joinRuns rs rs') = joinRuns (pushRun r rs) rs' := by
  match rs with
  | [] => rfl
  | [r₁] =>
    by_cases h : r.2 + 1 = r₁.1
    · rw [pushRun_of_touch h, joinRuns, joinRuns, pushRun_pushRun h]
    · obtain ⟨hi, rest, heq⟩ := pushRun_eq r₁ rs'
      rw [pushRun_of_not_touch h, joinRuns, joinRuns, joinRuns, heq,
        pushRun_of_not_touch (s := (r₁.1, hi)) h]
  | r₁ :: r₂ :: rs =>
    by_cases h : r.2 + 1 = r₁.1
    · rw [pushRun_of_touch h, joinRuns, joinRuns, pushRun_of_touch h]
    · rw [pushRun_of_not_touch h, joinRuns, joinRuns, joinRuns, pushRun_of_not_touch h]

/-- **The runs of two parts.** -/
theorem runs_append (n : Nat) (bits bits' : List Bool) :
    runs n (bits ++ bits') = joinRuns (runs n bits) (runs (n + bits.length) bits') := by
  induction bits generalizing n with
  | nil => rfl
  | cons b bits ih =>
    have hlen : n + (b :: bits).length = n + 1 + bits.length := by
      rw [List.length_cons, Nat.add_assoc, Nat.add_comm 1]
    cases b with
    | false => rw [hlen]; exact ih (n + 1)
    | true => rw [List.cons_append, runs, runs, ih, pushRun_joinRuns, hlen]

/-- The last run ends at the last bit, if that is set. -/
theorem exists_runs_concat (n : Nat) (bits : List Bool) :
    ∃ rs lo, runs n (bits ++ [true]) = rs ++ [(lo, n + bits.length)] := by
  rw [runs_append]
  rcases List.eq_nil_or_concat (runs n bits) with h | ⟨rs, r, h⟩
  · exact ⟨[], n + bits.length, by rw [h]; rfl⟩
  · rw [h, List.concat_eq_append, joinRuns_append_singleton, runs, runs, pushRun, pushRun]
    split
    · exact ⟨rs, r.1, rfl⟩
    · exact ⟨rs ++ [r], n + bits.length, by simp⟩

/-- The first run starts at the first bit, if that is set. -/
theorem exists_runs_cons (n : Nat) (bits : List Bool) :
    ∃ hi rs, runs n (true :: bits) = (n, hi) :: rs :=
  pushRun_eq (n, n) (runs (n + 1) bits)

/-- Two parts that do not touch. -/
theorem runs_append_of_apart {n : Nat} {bits bits' : List Bool}
    (h : bits.getLast? = some true → bits'.head? ≠ some true) :
    runs n (bits ++ bits') = runs n bits ++ runs (n + bits.length) bits' := by
  rw [runs_append]
  rcases List.eq_nil_or_concat (runs n bits) with hnil | ⟨rs, r, hconcat⟩
  · rw [hnil]
    rfl
  rw [hconcat, List.concat_eq_append, joinRuns_append_singleton, List.append_assoc]
  cases hrs : runs (n + bits.length) bits' with
  | nil => rfl
  | cons r' rs' =>
    rw [pushRun_of_not_touch]
    · rfl
    intro htouch
    -- the run before ends at the last bit, and the one after starts at the first
    have hmem : r ∈ runs n bits := by rw [hconcat]; simp
    have hmem' : r' ∈ runs (n + bits.length) bits' := by rw [hrs]; exact List.mem_cons_self
    have hlt := lt_of_mem_runs hmem
    have hle := le_of_mem_runs hmem'
    have hle' := (apart_runs n bits).nonempty r hmem
    obtain ⟨-, hlast⟩ := covers_runs.mp ⟨r, hmem, hle', Nat.le_refl _⟩
    have hr' := (apart_runs _ bits').nonempty r' hmem'
    obtain ⟨-, hfirst⟩ := covers_runs.mp ⟨r', hmem', Nat.le_refl _, hr'⟩
    refine h ?_ ?_
    · rw [List.getLast?_eq_getElem?, ← hlast]
      congr 1
      omega
    · rw [List.head?_eq_getElem?, ← hfirst]
      congr 1
      omega

/-- Two parts that touch. -/
theorem runs_append_of_touch (n : Nat) (bits bits' : List Bool) :
    ∃ rs lo hi rs', runs n (bits ++ [true]) = rs ++ [(lo, n + bits.length)] ∧
      runs (n + (bits ++ [true]).length) (true :: bits') =
        (n + (bits ++ [true]).length, hi) :: rs' ∧
      runs n (bits ++ [true] ++ true :: bits') = rs ++ (lo, hi) :: rs' := by
  obtain ⟨rs, lo, hlast⟩ := exists_runs_concat n bits
  obtain ⟨hi, rs', hfirst⟩ := exists_runs_cons (n + (bits ++ [true]).length) bits'
  refine ⟨rs, lo, hi, rs', hlast, hfirst, ?_⟩
  rw [runs_append, hlast, hfirst, joinRuns_append_singleton, pushRun_of_touch]
  simp only [List.length_append, List.length_singleton]
  omega

/-- The runs of a list that is moved on. -/
theorem runs_add (n d : Nat) (bits : List Bool) :
    runs (n + d) bits = (runs n bits).map fun r => (r.1 + d, r.2 + d) := by
  induction bits generalizing n with
  | nil => rfl
  | cons b bits ih =>
    have hsucc : n + d + 1 = n + 1 + d := by omega
    cases b with
    | false => rw [runs, runs, hsucc, ih]
    | true =>
      rw [runs, runs, hsucc, ih]
      cases runs (n + 1) bits with
      | nil => rfl
      | cons r rs =>
        by_cases h : n + 1 = r.1
        · rw [pushRun_of_touch h, List.map_cons, pushRun_of_touch (by simp only; omega)]
          rfl
        · rw [pushRun_of_not_touch h, List.map_cons, pushRun_of_not_touch (by simp only; omega)]
          rfl

/-- What a part covers is covered by the whole. -/
theorem covers_of_initial {n k : Nat} {bits bits' : List Bool} (h : bits <+: bits')
    (hk : Covers (runs n bits) k) : Covers (runs n bits') k := by
  obtain ⟨rest, rfl⟩ := h
  obtain ⟨hle, hbit⟩ := covers_runs.mp hk
  have hlt := (List.getElem?_eq_some_iff.mp hbit).1
  exact covers_runs.mpr ⟨hle, by rw [List.getElem?_append_left hlt, hbit]⟩

/-! ## Intervals that are moved back -/

/-- The interval that starts `k` numbers before the next one. -/
def moveBack (k : Nat) (r : Nat × Nat) : Nat × Nat := (r.1 + 1 - k, r.2 + 1 - k)

theorem covers_map_moveBack {k x : Nat} {rs : List (Nat × Nat)} (h : ∀ r ∈ rs, k ≤ r.1) :
    Covers (rs.map (moveBack k)) x ↔ 0 < x ∧ Covers rs (x + k - 1) := by
  constructor
  · rintro ⟨_, hr, hle, hle'⟩
    obtain ⟨r, hmem, rfl⟩ := List.mem_map.mp hr
    have := h r hmem
    simp only [moveBack] at hle hle'
    exact ⟨by omega, r, hmem, by omega, by omega⟩
  · rintro ⟨hx, r, hr, hle, hle'⟩
    have := h r hr
    have hmoved : (moveBack k r).1 ≤ x ∧ x ≤ (moveBack k r).2 := by
      simp only [moveBack]
      omega
    exact ⟨_, List.mem_map_of_mem hr, hmoved⟩

theorem Apart.map_moveBack {k : Nat} {rs : List (Nat × Nat)} (ha : Apart rs)
    (h : ∀ r ∈ rs, k ≤ r.1) : Apart (rs.map (moveBack k)) := by
  induction rs with
  | nil => exact ha
  | cons r rs ih =>
    have hk := h r List.mem_cons_self
    have hr := ha.nonempty r List.mem_cons_self
    refine .cons (by simp only [moveBack]; omega)
      (ih ha.of_cons fun r' hr' => h r' (.tail _ hr')) fun r' hr' => ?_
    cases rs with
    | nil => cases hr'
    | cons r₁ rs =>
      cases hr'
      have hlt := (List.isChain_cons.mp ha.chain).1 r₁ rfl
      simp only [moveBack]
      omega

theorem Covers.of_initial {x : Nat} {rs rs' : List (Nat × Nat)} (h : rs <+: rs')
    (hx : Covers rs x) : Covers rs' x := by
  obtain ⟨r, hr, hle⟩ := hx
  exact ⟨r, h.subset hr, hle⟩

theorem Apart.of_initial {rs rs' : List (Nat × Nat)} (h : rs <+: rs') (ha : Apart rs') : Apart rs :=
  ⟨fun r hr => ha.nonempty r (h.subset hr), ha.chain.prefix h⟩

end Sctp4Nat
