import Sctp4Nat.Usrsctp.MappingArray

/-! # What the receiver has got

The chunks of an association have the numbers 1, 2, and so on, of which the TSN is the lower part.
`Rep` relates the state of the receiver to the numbers of the chunks that it has got. -/

namespace Sctp4Nat.MappingArray

open Serial (wrap)

/-! ## Numbers and TSNs -/

theorem tsnGt_wrap (z : Tsn) {m n : Nat} (h : m < n + 2 ^ 31) (h' : n < m + 2 ^ 31) :
    tsnGt (wrap z m) (wrap z n) = decide (n < m) :=
  Serial.gt_wrap (by decide) z h h'

theorem tsnGe_wrap (z : Tsn) {m n : Nat} (h : m < n + 2 ^ 31) (h' : n < m + 2 ^ 31) :
    tsnGe (wrap z m) (wrap z n) = decide (n ≤ m) :=
  Serial.ge_wrap (by decide) z h h'

theorem calcTsnToGap_eq (tsn mappingTsn : Tsn) :
    calcTsnToGap tsn mappingTsn = (tsn - mappingTsn).toNat := by
  rw [calcTsnToGap]
  split
  · rfl
  · simp only [maxTsn]
    bv_omega

theorem calcTsnToGap_wrap (z : Tsn) {m n : Nat} (h : n ≤ m) (hlt : m < n + 2 ^ 32) :
    calcTsnToGap (wrap z m) (wrap z n) = m - n := by
  rw [calcTsnToGap_eq, Serial.toNat_wrap_sub z h hlt]

theorem wrap_inj (z : Tsn) {m n : Nat} (h : m < n + 2 ^ 31) (h' : n < m + 2 ^ 31) :
    wrap z m = wrap z n ↔ m = n :=
  ⟨Serial.wrap_inj z (by omega) (by omega), congrArg _⟩

theorem eq_wrap_gap (z tsn : Tsn) (n : Nat) :
    tsn = wrap z (n + calcTsnToGap tsn (wrap z n)) := by
  rw [calcTsnToGap_eq, Serial.wrap_add, BitVec.ofNat_toNat, BitVec.setWidth_eq, BitVec.add_comm,
    BitVec.sub_add_cancel]

theorem wrap_sub_one (z : Tsn) {n : Nat} (h : 0 < n) : wrap z n - 1 = wrap z (n - 1) := by
  obtain ⟨m, rfl⟩ := Nat.exists_eq_succ_of_ne_zero (Nat.pos_iff_ne_zero.mp h)
  rw [Nat.succ_sub_one, Serial.wrap_succ, BitVec.add_sub_cancel]

/-! ## The numbers of a receiver -/

/-- The numbers of the chunks that a receiver has, and of the first bit of its arrays, the
cumulative TSN and the highest TSNs. -/
structure Numbers where
  accepted : List Nat
  held : List Nat
  /-- Up to here chunks were skipped by `FORWARD-TSN`. -/
  skipped : Nat
  base : Nat
  cum : Nat
  highestMap : Nat
  highestNrMap : Nat

/-- The receiver has accepted the chunk, or shall not wait for it any more. -/
def Numbers.Has (r : Numbers) (n : Nat) : Prop := 0 < n ∧ (n ≤ r.skipped ∨ n ∈ r.accepted)

/-- What `skipped` is for the number of the last chunk that was skipped. -/
def skippedTsn (z : Tsn) (n : Nat) : Option Tsn := if n = 0 then none else some (wrap z n)

/-- The two arrays exchanged. -/
def Asoc.swap (a : Asoc) : Asoc :=
  { a with
    mappingArray := a.nrMappingArray
    nrMappingArray := a.mappingArray
    highestTsnInsideMap := a.highestTsnInsideNrMap
    highestTsnInsideNrMap := a.highestTsnInsideMap }

def Numbers.swap (r : Numbers) : Numbers :=
  { r with highestMap := r.highestNrMap, highestNrMap := r.highestMap }

/-- The most bytes that an array grows to. -/
def maxSize : Nat := 1055

/-- The state of a receiver whose chunk number `n` has the TSN `wrap z n`. No TSN that it refers to
is `L` behind the cumulative TSN. -/
structure Rep (L : Nat) (z : Tsn) (a : Asoc) (r : Numbers) : Prop where
  size_eq : a.nrMappingArray.length = a.size
  size_le : a.size ≤ maxSize
  base : a.mappingArrayBaseTsn = wrap z r.base
  cum : a.cumulativeTsn = wrap z r.cum
  highestMap : a.highestTsnInsideMap = wrap z r.highestMap
  highestNrMap : a.highestTsnInsideNrMap = wrap z r.highestNrMap
  accepted : a.accepted = r.accepted.map (wrap z)
  held : a.held = r.held.map (wrap z)
  skipped : a.skipped = skippedTsn z r.skipped
  base_pos : 0 < r.base
  base_le : r.base ≤ r.cum + 1
  highestMap_lt : r.highestMap < r.base + 8 * a.size
  highestNrMap_lt : r.highestNrMap < r.base + 8 * a.size
  cum_le : r.cum ≤ r.highestMap ∨ r.cum ≤ r.highestNrMap
  /-- The arrays have the chunks that the receiver has. -/
  present : ∀ i < 8 * a.size, (a.isPresent i = true ↔ r.Has (r.base + i))
  window : ∀ n, r.Has n → n < r.base + 8 * a.size
  contiguous : ∀ n, 0 < n → n ≤ r.cum → r.Has n
  disjoint : ∀ i, a.mappingArray.test i = true → a.nrMappingArray.test i = false
  map_le : ∀ i, a.mappingArray.test i = true → r.base + i ≤ r.highestMap
  nrMap_le : ∀ i, a.nrMappingArray.test i = true → r.base + i ≤ r.highestNrMap
  /-- No chunk is accepted twice. -/
  nodup : r.accepted.Nodup
  accepted_pos : ∀ n ∈ r.accepted, 0 < n
  held_sub : ∀ n ∈ r.held, n ∈ r.accepted
  lag_map : r.cum < r.highestMap + L
  lag_nrMap : r.cum < r.highestNrMap + L
  lag_held : ∀ n ∈ r.held, r.cum < n + L

/-- The bound `L` up to which the comparisons of TSNs are right. -/
def near : Nat := 2 ^ 31 - 2 ^ 14

namespace Rep

variable {L M : Nat} {z : Tsn} {a : Asoc} {r : Numbers} {n : Nat}

theorem mono (h : Rep L z a r) (hL : L ≤ M) : Rep M z a r :=
  { h with
    lag_map := by have := h.lag_map; omega
    lag_nrMap := by have := h.lag_nrMap; omega
    lag_held := fun n hn => by have := h.lag_held n hn; omega }

/-- The bits are at most at the highest TSNs. -/
theorem le_highest (h : Rep L z a r) (hn : r.Has n) (hbase : r.base ≤ n) :
    n ≤ r.highestMap ∨ n ≤ r.highestNrMap := by
  obtain ⟨i, rfl⟩ := Nat.exists_eq_add_of_le hbase
  have hi : i < 8 * a.size := by have := h.window _ hn; omega
  have hbit := (h.present i hi).mpr hn
  rcases Bool.or_eq_true_iff.mp hbit with hbit | hbit
  · exact .inl (h.map_le i hbit)
  · exact .inr (h.nrMap_le i hbit)

theorem cum_lt (h : Rep L z a r) : r.cum < r.base + 8 * a.size := by
  have := h.cum_le
  have := h.highestMap_lt
  have := h.highestNrMap_lt
  omega

theorem isPresent_eq_false (h : Rep L z a r) {i : Nat} (hi : 8 * a.size ≤ i) :
    a.isPresent i = false := by
  rw [Asoc.isPresent, Bitmap.test_eq_false hi, Bitmap.test_eq_false (h.size_eq ▸ hi)]
  rfl

theorem expand (h : Rep L z a r) {needed : Nat} (hsize : a.size * 8 ≤ needed)
    (hneeded : needed < sctpMappingArray * 8) : Rep L z (a.expandMappingArray needed) r := by
  have htest : ∀ i, (a.expandMappingArray needed).isPresent i = a.isPresent i := fun i => by
    simp only [Asoc.expandMappingArray, Asoc.isPresent, Bitmap.test_append_empty]
  have hle : a.size ≤ (a.expandMappingArray needed).size := by
    simp [Asoc.expandMappingArray, Asoc.size]
  refine { h with
    size_eq := ?_, size_le := ?_, highestMap_lt := ?_, highestNrMap_lt := ?_, present := ?_
    window := ?_, disjoint := ?_, map_le := ?_, nrMap_le := ?_ }
  · have := h.size_eq
    simp only [Asoc.size] at this
    simp [Asoc.expandMappingArray, Asoc.size, this]
  · simp only [Asoc.expandMappingArray, Asoc.size, List.length_append, Bitmap.length_empty,
      sctpMappingArrayIncr, maxSize] at hsize ⊢
    simp only [sctpMappingArray] at hneeded
    omega
  · have := h.highestMap_lt
    omega
  · have := h.highestNrMap_lt
    omega
  · intro i hi
    rw [htest]
    rcases Nat.lt_or_ge i (8 * a.size) with hlt | hge
    · exact h.present i hlt
    · rw [h.isPresent_eq_false hge]
      refine iff_of_false Bool.false_ne_true fun hn => ?_
      have := h.window _ hn
      omega
  · intro n hn
    have := h.window n hn
    omega
  · simpa only [Asoc.expandMappingArray, Bitmap.test_append_empty] using h.disjoint
  · simpa only [Asoc.expandMappingArray, Bitmap.test_append_empty] using h.map_le
  · simpa only [Asoc.expandMappingArray, Bitmap.test_append_empty] using h.nrMap_le

/-! ### The two arrays exchanged -/

theorem swap (h : Rep L z a r) : Rep L z a.swap r.swap := by
  have hsize : a.swap.size = a.size := h.size_eq
  refine { h with
    size_eq := hsize.symm, size_le := hsize ▸ h.size_le, highestMap := h.highestNrMap
    highestNrMap := h.highestMap, highestMap_lt := hsize ▸ h.highestNrMap_lt
    highestNrMap_lt := hsize ▸ h.highestMap_lt, cum_le := h.cum_le.symm, present := ?_
    window := hsize ▸ h.window, disjoint := ?_, map_le := h.nrMap_le, nrMap_le := h.map_le
    lag_map := h.lag_nrMap, lag_nrMap := h.lag_map }
  · intro i hi
    rw [Asoc.isPresent, Bool.or_comm]
    exact h.present i (hsize ▸ hi)
  · intro i hi
    by_contra hmap
    have hmap : a.mappingArray.test i = true := by
      simpa only [Asoc.swap, Bool.not_eq_false] using hmap
    have hnr : a.nrMappingArray.test i = true := hi
    rw [h.disjoint i hmap] at hnr
    cases hnr

/-! ### A chunk is accepted -/

theorem has_accept {r' : Numbers} (hskip : r'.skipped = r.skipped)
    (hacc : r'.accepted = n :: r.accepted) (hn : 0 < n) (m : Nat) :
    r'.Has m ↔ m = n ∨ r.Has m := by
  rw [Numbers.Has, Numbers.Has, hskip, hacc, List.mem_cons]
  constructor
  · rintro ⟨hm, hle | rfl | hmem⟩
    · exact .inr ⟨hm, .inl hle⟩
    · exact .inl rfl
    · exact .inr ⟨hm, .inr hmem⟩
  · rintro (rfl | ⟨hm, hle | hmem⟩)
    · exact ⟨hn, .inr (.inl rfl)⟩
    · exact ⟨hm, .inl hle⟩
    · exact ⟨hm, .inr (.inr hmem)⟩

theorem highest_wrap {m n : Nat} {t : Tsn} (ht : t = wrap z m) (h : m < n + 2 ^ 31)
    (h' : n < m + 2 ^ 31) : (if tsnGt (wrap z n) t then wrap z n else t) = wrap z (max m n) := by
  rw [ht, tsnGt_wrap z h' h]
  by_cases hlt : m < n
  · rw [decide_eq_true hlt, if_pos rfl, Nat.max_eq_right (Nat.le_of_lt hlt)]
  · rw [decide_eq_false hlt, if_neg Bool.false_ne_true, Nat.max_eq_left (Nat.le_of_not_lt hlt)]

variable {i : Nat}

theorem bits_le (h : Rep L z a r) : 8 * a.size ≤ 2 ^ 14 - 2 ^ 12 := by
  have := h.size_le
  simp only [maxSize] at this
  omega

/-- `nr_mapping_array` gets the bit of a chunk that is new. -/
theorem mark_nrMap (h : Rep L z a r) (hL : L ≤ near) (hi : i < 8 * a.size)
    (hcum : r.cum < r.base + i) (hnew : ¬ r.Has (r.base + i)) {acc : List Nat} {skipped : Nat}
    (hhas : ∀ m, ({ r with accepted := acc, skipped } : Numbers).Has m ↔ m = r.base + i ∨ r.Has m)
    (hnodup : acc.Nodup) (hpos : ∀ m ∈ acc, 0 < m) (hheld : ∀ m ∈ r.held, m ∈ acc) :
    Rep L z
      (({ a with accepted := acc.map (wrap z), skipped := skippedTsn z skipped } : Asoc).markNrMap
        (wrap z (r.base + i)) i)
      { r with accepted := acc, skipped, highestNrMap := max r.highestNrMap (r.base + i) } := by
  have hi' : i < 8 * a.nrMappingArray.length := by rwa [h.size_eq]
  have htest : ∀ j, (a.nrMappingArray.insert i).test j =
      (decide (j = i) || a.nrMappingArray.test j) := fun j => Bitmap.test_insert hi'
  have hlag := h.lag_nrMap
  have hbits := h.bits_le
  have hbase := h.base_le
  have hlt := h.highestNrMap_lt
  simp only [near] at hL
  refine { h with
    size_eq := ?_, highestNrMap := ?_, accepted := rfl, skipped := rfl
    highestNrMap_lt := ?_, cum_le := ?_, present := ?_, window := ?_, contiguous := ?_
    disjoint := ?_, nrMap_le := ?_
    nodup := hnodup, accepted_pos := hpos, held_sub := hheld, lag_nrMap := ?_ }
  · exact (Bitmap.length_insert).trans h.size_eq
  · exact highest_wrap h.highestNrMap (by omega) (by omega)
  · exact Nat.max_lt.mpr ⟨hlt, Nat.add_lt_add_left hi _⟩
  · exact .inr (Nat.le_trans (Nat.le_of_lt hcum) (Nat.le_max_right ..))
  · intro j hj
    refine Iff.trans ?_ (hhas (r.base + j)).symm
    rw [Nat.add_right_inj, ← h.present j hj]
    simp only [Asoc.isPresent, Asoc.markNrMap, htest, Bool.or_eq_true, decide_eq_true_eq]
    exact or_left_comm
  · intro m hm
    rcases (hhas m).mp hm with rfl | hm
    · exact Nat.add_lt_add_left hi _
    · exact h.window m hm
  · exact fun m hm hle => (hhas m).mpr (.inr (h.contiguous m hm hle))
  · intro j hj
    simp only [Asoc.markNrMap, htest, Bool.or_eq_false_iff, decide_eq_false_iff_not]
    refine ⟨?_, h.disjoint j hj⟩
    rintro rfl
    exact hnew ((h.present j hi).mp (Bool.or_eq_true_iff.mpr (.inl hj)))
  · intro j hj
    simp only [Asoc.markNrMap, htest, Bool.or_eq_true, decide_eq_true_eq] at hj
    rcases hj with rfl | hj
    · exact Nat.le_max_right ..
    · exact Nat.le_trans (h.nrMap_le j hj) (Nat.le_max_left ..)
  · have := Nat.le_max_left r.highestNrMap (r.base + i)
    exact Nat.lt_of_lt_of_le hlag (Nat.add_le_add_right this L)

theorem accept_nrMap (h : Rep L z a r) (hL : L ≤ near) (hi : i < 8 * a.size)
    (hcum : r.cum < r.base + i) (hnew : ¬ r.Has (r.base + i)) :
    Rep L z ((a.accept (wrap z (r.base + i))).markNrMap (wrap z (r.base + i)) i)
      { r with
        accepted := (r.base + i) :: r.accepted
        highestNrMap := max r.highestNrMap (r.base + i) } := by
  have hpos : 0 < r.base + i := Nat.add_pos_left h.base_pos i
  have hhas : ∀ m, ({ r with accepted := (r.base + i) :: r.accepted } : Numbers).Has m ↔
      m = r.base + i ∨ r.Has m := has_accept rfl rfl hpos
  have hmark := h.mark_nrMap hL hi hcum hnew hhas
    (List.nodup_cons.mpr ⟨fun hmem => hnew ⟨hpos, .inr hmem⟩, h.nodup⟩)
    (List.forall_mem_cons.mpr ⟨hpos, h.accepted_pos⟩) fun m hm => .tail _ (h.held_sub m hm)
  rwa [List.map_cons, ← h.accepted, ← h.skipped] at hmark

theorem accept_map (h : Rep L z a r) (hL : L ≤ near) (hi : i < 8 * a.size)
    (hcum : r.cum < r.base + i) (hnew : ¬ r.Has (r.base + i)) :
    Rep L z ((a.accept (wrap z (r.base + i))).markMap (wrap z (r.base + i)) i)
      { r with
        accepted := (r.base + i) :: r.accepted
        highestMap := max r.highestMap (r.base + i) } :=
  (h.swap.accept_nrMap hL (Nat.lt_of_lt_of_eq hi (congrArg (8 * ·) h.size_eq.symm)) hcum hnew).swap

/-- The chunk that was accepted last is put in a queue. -/
theorem hold (h : Rep L z a r) (hn : n ∈ r.accepted) (hcum : r.cum < n + L) :
    Rep L z { a with held := wrap z n :: a.held } { r with held := n :: r.held } :=
  { h with
    held := by rw [h.held, List.map_cons]
    held_sub := List.forall_mem_cons.mpr ⟨hn, h.held_sub⟩
    lag_held := List.forall_mem_cons.mpr ⟨hcum, h.lag_held⟩ }

theorem updateCumAck (h : Rep L z a r) (hn : r.Has n) (hcum : r.cum < n) (hbase : r.base ≤ n) :
    ∃ cum, r.cum ≤ cum ∧ Rep (L + 1) z (a.updateCumAck (wrap z n)) { r with cum } := by
  have hlt := h.window n hn
  have hbits := h.bits_le
  have hle := h.base_le
  by_cases heq : n = r.cum + 1
  · subst heq
    have hwrap : wrap z (r.cum + 1) = a.cumulativeTsn + 1 := by rw [h.cum, Serial.wrap_succ]
    refine ⟨r.cum + 1, Nat.le_succ _, ?_⟩
    rw [Asoc.updateCumAck, if_pos hwrap]
    exact { h with
      cum := rfl
      base_le := Nat.le_succ_of_le hbase
      cum_le := h.le_highest hn hbase
      contiguous := fun m hm hmn => by
        rcases Nat.lt_or_eq_of_le hmn with hlt | rfl
        · exact h.contiguous m hm (Nat.le_of_lt_succ hlt)
        · exact hn
      lag_map := Nat.succ_lt_succ h.lag_map
      lag_nrMap := Nat.succ_lt_succ h.lag_nrMap
      lag_held := fun m hm => Nat.succ_lt_succ (h.lag_held m hm) }
  · have hwrap : wrap z n ≠ a.cumulativeTsn + 1 := by
      rw [h.cum, ← Serial.wrap_succ]
      exact fun hw => heq ((wrap_inj z (by omega) (by omega)).mp hw)
    refine ⟨r.cum, Nat.le_refl _, ?_⟩
    rw [Asoc.updateCumAck, if_neg hwrap]
    exact h.mono (Nat.le_succ L)

/-! ### A chunk is handed on -/

/-- The highest chunk below bit `fuel` that is in `mapping_array`. -/
theorem backDown_eq {base : Nat} (hbase : a.mappingArrayBaseTsn = wrap z base) (hpos : 0 < base)
    {fuel : Nat} (hfuel : fuel < 2 ^ 31) :
    ∃ m, a.backDown (wrap z (base + fuel - 1)) fuel = wrap z m ∧ base ≤ m + 1 ∧
      m + 1 ≤ base + fuel ∧ ∀ j < fuel, a.mappingArray.test j = true → base + j ≤ m := by
  induction fuel with
  | zero =>
    refine ⟨base - 1, ?_, by omega, by omega, fun j hj => absurd hj (Nat.not_lt_zero j)⟩
    rw [Asoc.backDown, hbase, wrap_sub_one z hpos]
  | succ fuel ih =>
    have hge : tsnGe (wrap z (base + fuel)) (wrap z base) = true := by
      rw [tsnGe_wrap z (by omega) (by omega)]
      exact decide_eq_true (Nat.le_add_right ..)
    rw [Nat.add_succ_sub_one, Asoc.backDown, hbase, if_pos hge,
      calcTsnToGap_wrap z (Nat.le_add_right ..) (by omega), Nat.add_sub_cancel_left]
    by_cases htest : a.mappingArray.test fuel = true
    · rw [if_pos htest]
      refine ⟨base + fuel, rfl, by omega, Nat.le_refl _, fun j hj _ => ?_⟩
      exact Nat.add_le_add_left (Nat.le_of_lt_succ hj) base
    · obtain ⟨m, hm, hle, hlt, hmax⟩ := ih (by omega)
      rw [if_neg htest, wrap_sub_one z (by omega), hm]
      refine ⟨m, rfl, hle, by omega, fun j hj hj' => ?_⟩
      rcases Nat.lt_or_eq_of_le (Nat.le_of_lt_succ hj) with hj | rfl
      · exact hmax j hj hj'
      · exact absurd hj' htest

/-- The bit of a chunk moves from `mapping_array` to `nr_mapping_array`; `m` is the highest TSN of
`mapping_array` from then on. -/
structure Moved (L : Nat) (z : Tsn) (a : Asoc) (r : Numbers) (i m : Nat) (a' : Asoc) : Prop where
  rest : a'.mappingArrayBaseTsn = a.mappingArrayBaseTsn ∧ a'.cumulativeTsn = a.cumulativeTsn ∧
    a'.accepted = a.accepted ∧ a'.held = a.held ∧ a'.skipped = a.skipped
  size : a'.size = a.size
  nr_size : a'.nrMappingArray.length = a.nrMappingArray.length
  test : ∀ j, a'.mappingArray.test j = (decide (j ≠ i) && a.mappingArray.test j)
  nr_test : ∀ j, a'.nrMappingArray.test j = (decide (j = i) || a.nrMappingArray.test j)
  highestMap : a'.highestTsnInsideMap = wrap z m
  highestNrMap : a'.highestTsnInsideNrMap = wrap z (max r.highestNrMap (r.base + i))
  lag : r.cum < m + L
  lt : m < r.base + 8 * a.size
  max : ∀ j, a'.mappingArray.test j = true → r.base + j ≤ m

theorem moved {m : Nat} {a' : Asoc} (h : Rep L z a r) (hi : i < 8 * a.size)
    (hcum : r.cum < r.base + i) (hmoved : Moved L z a r i m a') (hhas : r.Has (r.base + i)) :
    Rep L z a' { r with highestMap := m, highestNrMap := max r.highestNrMap (r.base + i) } := by
  obtain ⟨hbase', hcum', hacc', hheld', hskip'⟩ := hmoved.rest
  have hsize := hmoved.size
  have hbits := h.bits_le
  have hcumle := h.cum_le
  have hlt := h.highestMap_lt
  have hlt' := h.highestNrMap_lt
  refine
    { h with
      size_eq := hmoved.nr_size.trans (h.size_eq.trans hsize.symm)
      size_le := hsize ▸ h.size_le
      base := hbase'.trans h.base
      cum := hcum'.trans h.cum
      highestMap := hmoved.highestMap
      highestNrMap := hmoved.highestNrMap
      accepted := hacc'.trans h.accepted
      held := hheld'.trans h.held
      skipped := hskip'.trans h.skipped
      highestMap_lt := hsize ▸ hmoved.lt
      highestNrMap_lt := hsize ▸ Nat.max_lt.mpr ⟨hlt', Nat.add_lt_add_left hi _⟩
      cum_le := .inr (Nat.le_trans (Nat.le_of_lt hcum) (Nat.le_max_right ..))
      present := ?_
      window := hsize ▸ h.window
      disjoint := ?_
      map_le := hmoved.max
      nrMap_le := ?_
      lag_map := hmoved.lag
      lag_nrMap := ?_ }
  · intro j hj
    rw [Asoc.isPresent, hmoved.test, hmoved.nr_test]
    change _ ↔ r.Has (r.base + j)
    by_cases hji : j = i
    · subst hji
      simpa using hhas
    · rw [← h.present j (hsize ▸ hj), decide_eq_true hji, decide_eq_false hji, Bool.true_and,
        Bool.false_or, Asoc.isPresent]
  · intro j hj
    rw [hmoved.test, Bool.and_eq_true, decide_eq_true_eq] at hj
    rw [hmoved.nr_test, decide_eq_false hj.1, Bool.false_or]
    exact h.disjoint j hj.2
  · intro j hj
    rw [hmoved.nr_test, Bool.or_eq_true, decide_eq_true_eq] at hj
    rcases hj with rfl | hj
    · exact Nat.le_max_right ..
    · exact Nat.le_trans (h.nrMap_le j hj) (Nat.le_max_left ..)
  · have := Nat.le_max_left r.highestNrMap (r.base + i)
    exact Nat.lt_of_lt_of_le h.lag_nrMap (Nat.add_le_add_right this L)

/-- `sctp_mark_non_revokable` on a chunk behind the cumulative TSN. -/
theorem exists_moved (h : Rep L z a r) (hL : 2 ^ 14 ≤ L ∧ L ≤ near) (hi : i < 8 * a.size)
    (hcum : r.cum < r.base + i) :
    ∃ m, Moved L z a r i m (sctpMarkNonRevokable true (wrap z (r.base + i)) a) := by
  have hbits := h.bits_le
  have hle := h.base_le
  have hlagMap := h.lag_map
  have hlagNr := h.lag_nrMap
  have hltMap := h.highestMap_lt
  have hltNr := h.highestNrMap_lt
  simp only [near] at hL
  have hbehind : tsnGt (a.cumulativeTsn + 1) (wrap z (r.base + i)) = false := by
    rw [h.cum, ← Serial.wrap_succ, tsnGt_wrap z (by omega) (by omega)]
    exact decide_eq_false (by omega)
  have hgap : calcTsnToGap (wrap z (r.base + i)) a.mappingArrayBaseTsn = i := by
    rw [h.base, calcTsnToGap_wrap z (Nat.le_add_right ..) (by omega), Nat.add_sub_cancel_left]
  have hpred : wrap z (r.base + i) - 1 = wrap z (r.base + i - 1) :=
    wrap_sub_one z (by have := h.base_pos; omega)
  have hhigh := highest_wrap (n := r.base + i) h.highestNrMap (by omega) (by omega)
  have heq : wrap z (r.base + i) = a.highestTsnInsideMap ↔ r.base + i = r.highestMap := by
    rw [h.highestMap, wrap_inj z (by omega) (by omega)]
  let map := if a.mappingArray.test i then a.mappingArray.erase i else a.mappingArray
  let nr := if a.nrMappingArray.test i then a.nrMappingArray else a.nrMappingArray.insert i
  let a' : Asoc := { a with
    nrMappingArray := nr
    mappingArray := map
    highestTsnInsideNrMap := wrap z (max r.highestNrMap (r.base + i)) }
  have hmark : sctpMarkNonRevokable true (wrap z (r.base + i)) a =
      if r.base + i = r.highestMap then
        { a' with highestTsnInsideMap := a'.backDown (wrap z (r.base + i - 1)) i }
      else a' := by
    simp only [sctpMarkNonRevokable, hbehind, hgap, hpred, hhigh, heq, Bool.not_true,
      Bool.false_eq_true, if_false, a', map, nr]
  have htest : ∀ j, map.test j = (decide (j ≠ i) && a.mappingArray.test j) := fun _ =>
    Bitmap.test_ite_erase
  have hnr : ∀ j, nr.test j = (decide (j = i) || a.nrMappingArray.test j) := fun _ =>
    Bitmap.test_ite_insert (h.size_eq ▸ hi)
  have hlen : map.length = a.size := Bitmap.length_ite_erase
  have hlen' : nr.length = a.nrMappingArray.length := Bitmap.length_ite_insert
  have hle' : ∀ j, map.test j = true → j ≠ i ∧ r.base + j ≤ r.highestMap := fun j hj => by
    rw [htest, Bool.and_eq_true, decide_eq_true_eq] at hj
    exact ⟨hj.1, h.map_le j hj.2⟩
  rw [hmark]
  by_cases hn : r.base + i = r.highestMap
  · rw [if_pos hn]
    obtain ⟨m, hm, hle, hlt, hmax⟩ :=
      backDown_eq (a := a') (z := z) h.base h.base_pos (show i < 2 ^ 31 by omega)
    refine ⟨m, ⟨rfl, rfl, rfl, rfl, rfl⟩, hlen, hlen', htest, hnr, hm, rfl, by omega, by omega, ?_⟩
    intro j hj
    have := hle' j hj
    exact hmax j (by omega) hj
  · rw [if_neg hn]
    exact ⟨r.highestMap, ⟨rfl, rfl, rfl, rfl, rfl⟩, hlen, hlen', htest, hnr, h.highestMap, rfl,
      hlagMap, hltMap, fun j hj => (hle' j hj).2⟩

/-- A queue hands on a chunk that it has. -/
theorem markNonRevokable (h : Rep L z a r) (hL : 2 ^ 14 ≤ L ∧ L ≤ near) (drain : Bool)
    (hn : n ∈ r.held) : ∃ highestMap highestNrMap,
      Rep L z (sctpMarkNonRevokable drain (wrap z n) a) { r with highestMap, highestNrMap } := by
  have hhas : r.Has n := ⟨h.accepted_pos n (h.held_sub n hn), .inr (h.held_sub n hn)⟩
  have hlt := h.window n hhas
  have hlag := h.lag_held n hn
  have hbits := h.bits_le
  have hle := h.base_le
  have hnear := hL.2
  simp only [near] at hnear
  cases drain with
  | false => exact ⟨r.highestMap, r.highestNrMap, h⟩
  | true =>
    by_cases hcum : n ≤ r.cum
    · -- the cumulative TSN is past the chunk
      have hgt : tsnGt (a.cumulativeTsn + 1) (wrap z n) = true := by
        rw [h.cum, ← Serial.wrap_succ, tsnGt_wrap z (by omega) (by omega)]
        exact decide_eq_true (Nat.lt_succ_of_le hcum)
      rw [sctpMarkNonRevokable, Bool.not_true, if_neg Bool.false_ne_true, if_pos hgt]
      exact ⟨r.highestMap, r.highestNrMap, h⟩
    · obtain ⟨i, rfl⟩ := Nat.exists_eq_add_of_le (show r.base ≤ n by omega)
      have hi : i < 8 * a.size := Nat.lt_of_add_lt_add_left hlt
      obtain ⟨m, hmoved⟩ := h.exists_moved hL hi (Nat.lt_of_not_le hcum)
      exact ⟨m, _, h.moved hi (Nat.lt_of_not_le hcum) hmoved hhas⟩

theorem handOn_all (h : Rep L z a r) (hL : 2 ^ 14 ≤ L ∧ L ≤ near) (drain : Bool)
    {ready : List Tsn} {a' : Asoc} (hr : ready.foldlM (handOn drain) a = some a') :
    ∃ highestMap highestNrMap, Rep L z a' { r with highestMap, highestNrMap } := by
  induction ready generalizing a r with
  | nil =>
    cases hr
    exact ⟨r.highestMap, r.highestNrMap, h⟩
  | cons tsn ready ih =>
    rw [List.foldlM_cons] at hr
    obtain ⟨a₁, hstep, hr⟩ := Option.bind_eq_some_iff.mp hr
    obtain ⟨hmem, rfl⟩ := Option.ite_none_right_eq_some.mp hstep |>.imp_right Option.some.inj
    rw [h.held] at hmem
    obtain ⟨n, hn, rfl⟩ := List.mem_map.mp hmem
    obtain ⟨m, m', h₁⟩ := h.markNonRevokable hL drain hn
    obtain ⟨k, k', h₂⟩ := ih h₁ hr
    exact ⟨k, k', h₂⟩

end Rep

end Sctp4Nat.MappingArray
