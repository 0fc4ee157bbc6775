import Sctp4Nat.Usrsctp.Receiver

/-! # The arrays are moved on

The scan of the arrays finds the first chunk that is missing. The arrays are cleared, or moved on by
whole bytes, and have the same chunks as before; the cumulative TSN is then the number before that
chunk (`Rep.settled`). The branches of the source that print a warning are never taken. -/

namespace Sctp4Nat.MappingArray

open Serial (wrap)

theorem sctpMapLookupTab_spec : ∀ val : BitVec 8, val ≠ 0xff#8 →
    sctpMapLookupTab.getD val.toNat 0 < 8 ∧
      (∀ i < sctpMapLookupTab.getD val.toNat 0, val.getLsbD i = true) ∧
      val.getLsbD (sctpMapLookupTab.getD val.toNat 0) = false := by
  decide +kernel

/-- The scan ends at the first bit that is not set. -/
theorem scan_spec (m : Bitmap) : (scan m).1 = (scan m).2 / 8 ∧ (scan m).2 ≤ 8 * m.length ∧
    (∀ i < (scan m).2, m.test i = true) ∧ m.test (scan m).2 = false := by
  induction m with
  | nil => exact ⟨rfl, Nat.zero_le _, fun i hi => absurd hi (Nat.not_lt_zero i), rfl⟩
  | cons val m ih =>
    obtain ⟨hdiv, hle, hset, hclear⟩ := ih
    by_cases hval : val = 0xff#8
    · have hscan : scan (val :: m) = ((scan m).1 + 1, (scan m).2 + 8) := if_pos hval
      rw [hscan]
      refine ⟨by omega, by rw [List.length_cons]; omega, fun i hi => ?_, ?_⟩
      · rw [Bitmap.test_cons]
        split
        · rename_i hi8
          rw [hval]
          exact (by decide : ∀ i < 8, (0xff#8).getLsbD i = true) i hi8
        · exact hset _ (by omega)
      · rw [Bitmap.test_cons, if_neg (by omega), Nat.add_sub_cancel]
        exact hclear
    · have hscan : scan (val :: m) = (0, sctpMapLookupTab.getD val.toNat 0) := if_neg hval
      obtain ⟨hlt, hset, hclear⟩ := sctpMapLookupTab_spec val hval
      rw [hscan]
      refine ⟨(Nat.div_eq_of_lt hlt).symm, by rw [List.length_cons]; omega, fun i hi => ?_, ?_⟩
      · rw [Bitmap.test_cons, if_pos (Nat.lt_trans hi hlt)]
        exact hset i hi
      · rw [Bitmap.test_cons, if_pos hlt]
        exact hclear

namespace Rep

variable {L : Nat} {z : Tsn} {a : Asoc} {r : Numbers} {pos : Nat}

/-- The cumulative TSN after the arrays were scanned. -/
structure Scanned (a : Asoc) (r : Numbers) (pos : Nat) : Prop where
  pos_le : pos ≤ 8 * a.size
  cum_lt : r.cum < r.base + pos
  contiguous : ∀ n, 0 < n → n < r.base + pos → r.Has n
  next : ¬ r.Has (r.base + pos)
  le_highest : r.base + pos ≤ r.highestMap + 1 ∨ r.base + pos ≤ r.highestNrMap + 1

theorem scanned (h : Rep L z a r) :
    Scanned a r (scan (a.nrMappingArray.union a.mappingArray)).2 := by
  have hlen : a.mappingArray.length = a.nrMappingArray.length := h.size_eq.symm
  have htest : ∀ i, (a.nrMappingArray.union a.mappingArray).test i = a.isPresent i := fun i => by
    rw [Bitmap.test_union hlen, Bool.or_comm, Asoc.isPresent]
  obtain ⟨_, hle, hset, hclear⟩ := scan_spec (a.nrMappingArray.union a.mappingArray)
  rw [Bitmap.length_union hlen, h.size_eq] at hle
  generalize (scan (a.nrMappingArray.union a.mappingArray)).2 = pos at hle hset hclear ⊢
  have hnext : ¬ r.Has (r.base + pos) := fun hhas => by
    have hlt := Nat.lt_of_add_lt_add_left (h.window _ hhas)
    rw [htest, (h.present _ hlt).mpr hhas] at hclear
    cases hclear
  have hhas : ∀ i < pos, r.Has (r.base + i) := fun i hi =>
    (h.present i (Nat.lt_of_lt_of_le hi hle)).mp (htest i ▸ hset i hi)
  have hpos := h.base_pos
  have hcum : r.cum < r.base + pos := Nat.lt_of_not_le fun hle =>
    hnext (h.contiguous _ (by omega) hle)
  have hbase := h.base_le
  refine ⟨hle, hcum, fun n hn hlt => ?_, hnext, ?_⟩
  · by_cases hle : n ≤ r.cum
    · exact h.contiguous n hn hle
    · obtain ⟨i, rfl⟩ := Nat.exists_eq_add_of_le (show r.base ≤ n by omega)
      exact hhas i (Nat.lt_of_add_lt_add_left hlt)
  · rcases Nat.eq_zero_or_pos pos with h0 | h0
    · have := h.cum_le
      omega
    · have := h.le_highest (hhas _ (Nat.sub_lt h0 Nat.one_pos)) (Nat.le_add_right ..)
      omega

/-- The arrays are moved on by `d` bits. -/
structure MovedOn (M : Nat) (z : Tsn) (a : Asoc) (r : Numbers) (d : Nat) (a' : Asoc)
    (r' : Numbers) : Prop where
  same : r'.accepted = r.accepted ∧ r'.held = r.held ∧ r'.skipped = r.skipped ∧
    r'.base = r.base + d
  rest : a'.accepted = a.accepted ∧ a'.held = a.held ∧ a'.skipped = a.skipped
  size : a'.size = a.size
  nr_size : a'.nrMappingArray.length = a.nrMappingArray.length
  base : a'.mappingArrayBaseTsn = wrap z (r.base + d)
  cum : a'.cumulativeTsn = wrap z r'.cum
  highestMap : a'.highestTsnInsideMap = wrap z r'.highestMap
  highestNrMap : a'.highestTsnInsideNrMap = wrap z r'.highestNrMap
  test : ∀ i, a'.mappingArray.test i = a.mappingArray.test (i + d)
  nr_test : ∀ i, a'.nrMappingArray.test i = a.nrMappingArray.test (i + d)
  base_le : r.base + d ≤ r'.cum + 1
  contiguous : ∀ n, 0 < n → n ≤ r'.cum → r.Has n
  le_highest : r'.cum ≤ r'.highestMap ∨ r'.cum ≤ r'.highestNrMap
  highestMap_lt : r'.highestMap < r.base + d + 8 * a.size
  highestNrMap_lt : r'.highestNrMap < r.base + d + 8 * a.size
  map_le : ∀ i, a.mappingArray.test (i + d) = true → r.base + d + i ≤ r'.highestMap
  nrMap_le : ∀ i, a.nrMappingArray.test (i + d) = true → r.base + d + i ≤ r'.highestNrMap
  lag : ∀ n, n = r'.highestMap ∨ n = r'.highestNrMap ∨ n ∈ r.held → r'.cum < n + M

theorem movedOn {M d : Nat} {a' : Asoc} {r' : Numbers} (h : Rep L z a r)
    (hm : MovedOn M z a r d a' r') : Rep M z a' r' := by
  obtain ⟨hacc, hheld, hskip, hbase⟩ := hm.same
  have hsize := hm.size
  have hhas : ∀ n, r'.Has n ↔ r.Has n := fun n => by rw [Numbers.Has, Numbers.Has, hacc, hskip]
  have hpresent : ∀ i, a'.isPresent i = a.isPresent (i + d) := fun i => by
    rw [Asoc.isPresent, hm.test, hm.nr_test, Asoc.isPresent]
  exact
    { size_eq := hm.nr_size.trans (h.size_eq.trans hsize.symm)
      size_le := hsize ▸ h.size_le
      base := by rw [hbase, hm.base]
      cum := hm.cum
      highestMap := hm.highestMap
      highestNrMap := hm.highestNrMap
      accepted := by rw [hm.rest.1, h.accepted, hacc]
      held := by rw [hm.rest.2.1, h.held, hheld]
      skipped := by rw [hm.rest.2.2, h.skipped, hskip]
      base_pos := hbase ▸ Nat.lt_of_lt_of_le h.base_pos (Nat.le_add_right ..)
      base_le := hbase ▸ hm.base_le
      highestMap_lt := by rw [hbase, hsize]; exact hm.highestMap_lt
      highestNrMap_lt := by rw [hbase, hsize]; exact hm.highestNrMap_lt
      cum_le := hm.le_highest
      present := fun i _ => by
        rw [hpresent, hhas, hbase, Nat.add_assoc, Nat.add_comm d]
        by_cases hi : i + d < 8 * a.size
        · exact h.present _ hi
        · rw [h.isPresent_eq_false (Nat.le_of_not_lt hi)]
          exact iff_of_false Bool.false_ne_true fun hn =>
            hi (Nat.lt_of_add_lt_add_left (h.window _ hn))
      window := fun n hn => by
        have := h.window n ((hhas n).mp hn)
        rw [hbase, hsize]
        omega
      contiguous := fun n hn hle => (hhas n).mpr (hm.contiguous n hn hle)
      disjoint := fun i hi => by
        rw [hm.nr_test]
        exact h.disjoint _ (hm.test i ▸ hi)
      map_le := fun i hi => hbase ▸ hm.map_le i (hm.test i ▸ hi)
      nrMap_le := fun i hi => hbase ▸ hm.nrMap_le i (hm.nr_test i ▸ hi)
      nodup := hacc ▸ h.nodup
      accepted_pos := hacc ▸ h.accepted_pos
      held_sub := by rw [hacc, hheld]; exact h.held_sub
      lag_map := hm.lag _ (.inl rfl)
      lag_nrMap := hm.lag _ (.inr (.inl rfl))
      lag_held := fun n hn => hm.lag n (.inr (.inr (hheld ▸ hn))) }

theorem Scanned.lag (hs : Scanned a r pos) (h : Rep L z a r) {n : Nat} (hn : r.cum < n + L) :
    r.base + pos - 1 < n + (L + 2 ^ 14) := by
  have := h.bits_le
  have := h.base_le
  have := hs.pos_le
  omega

/-- The cumulative TSN moves on, and the arrays stay where they are. -/
theorem advance (h : Rep L z a r) {cum : Nat} (hle : r.cum ≤ cum)
    (hcont : ∀ n, 0 < n → n ≤ cum → r.Has n) (hhigh : cum ≤ r.highestMap ∨ cum ≤ r.highestNrMap) :
    Rep (L + 2 ^ 14) z { a with cumulativeTsn := wrap z cum } { r with cum } := by
  have hbits := h.bits_le
  have hbase := h.base_le
  have hmap := h.highestMap_lt
  have hnrMap := h.highestNrMap_lt
  have hlag : ∀ n, r.cum < n + L → cum < n + (L + 2 ^ 14) := fun n hn => by omega
  exact h.movedOn (d := 0)
    { same := ⟨rfl, rfl, rfl, rfl⟩
      rest := ⟨rfl, rfl, rfl⟩
      size := rfl
      nr_size := rfl
      base := h.base
      cum := rfl
      highestMap := h.highestMap
      highestNrMap := h.highestNrMap
      test := fun _ => rfl
      nr_test := fun _ => rfl
      base_le := Nat.le_trans h.base_le (Nat.succ_le_succ hle)
      contiguous := hcont
      le_highest := hhigh
      highestMap_lt := h.highestMap_lt
      highestNrMap_lt := h.highestNrMap_lt
      map_le := h.map_le
      nrMap_le := h.nrMap_le
      lag := by
        rintro n (rfl | rfl | hn)
        · exact hlag _ h.lag_map
        · exact hlag _ h.lag_nrMap
        · exact hlag n (h.lag_held n hn) }

theorem test_eq_false_of_lt {m : Bitmap} {size base highest i : Nat} (hlen : m.length = size)
    (hle : ∀ i, m.test i = true → base + i ≤ highest) (hi : highest < base + i ∨ 8 * size ≤ i) :
    m.test i = false := by
  rcases hi with hi | hi
  · by_contra htest
    have := hle i (by simpa using htest)
    omega
  · exact Bitmap.test_eq_false (hlen ▸ hi)

/-- All chunks of the arrays are up to the cumulative TSN. -/
theorem clear (h : Rep L z a r) (hL : 0 < L) (hs : Scanned a r pos)
    (hmap : r.highestMap < r.base + pos) (hnrMap : r.highestNrMap < r.base + pos) :
    let cum := r.base + pos - 1
    Rep (L + 2 ^ 14) z (({ a with cumulativeTsn := wrap z cum } : Asoc).clear pos)
      { r with base := r.base + pos, cum, highestMap := cum, highestNrMap := cum } := by
  intro cum
  have hpos := h.base_pos
  have hcum : cum + 1 = r.base + pos := by omega
  have hle := hs.pos_le
  -- what is left is clear, as the bits from `pos` on are
  have htest : ∀ m : Bitmap, m.length = a.size → (∀ i, pos ≤ i → m.test i = false) →
      ∀ i, (Bitmap.empty (min ((pos + 7) / 8) a.size) ++
        m.drop (min ((pos + 7) / 8) a.size)).test i = m.test (i + pos) := by
    intro m hlen hm i
    rw [Bitmap.test_clear, hm (i + pos) (Nat.le_add_left ..)]
    by_cases hi : pos ≤ i
    · rw [hm i hi, Bool.and_false]
    · rw [decide_eq_false (by omega), Bool.false_and]
  have hmin : min ((pos + 7) / 8) a.size ≤ a.size := Nat.min_le_right ..
  have hmap' : ∀ i, pos ≤ i → a.mappingArray.test i = false := fun i hi =>
    test_eq_false_of_lt rfl h.map_le (.inl (by omega))
  have hnrMap' : ∀ i, pos ≤ i → a.nrMappingArray.test i = false := fun i hi =>
    test_eq_false_of_lt h.size_eq h.nrMap_le (.inl (by omega))
  exact h.movedOn (d := pos)
    { same := ⟨rfl, rfl, rfl, rfl⟩
      rest := ⟨rfl, rfl, rfl⟩
      size := Bitmap.length_clear rfl hmin
      nr_size := (Bitmap.length_clear h.size_eq hmin).trans h.size_eq.symm
      base := by rw [← hcum]; exact (Serial.wrap_succ z cum).symm
      cum := rfl
      highestMap := rfl
      highestNrMap := rfl
      test := htest _ rfl hmap'
      nr_test := htest _ h.size_eq hnrMap'
      base_le := Nat.le_of_eq hcum.symm
      contiguous := fun n hn hle => hs.contiguous n hn (by simp only at hle; omega)
      le_highest := .inl (Nat.le_refl _)
      highestMap_lt := by simp only; omega
      highestNrMap_lt := by simp only; omega
      map_le := fun i hi => by rw [hmap' _ (Nat.le_add_left ..)] at hi; cases hi
      nrMap_le := fun i hi => by rw [hnrMap' _ (Nat.le_add_left ..)] at hi; cases hi
      lag := by
        rintro n (rfl | rfl | hn)
        · simp only; omega
        · simp only; omega
        · exact hs.lag h (h.lag_held n hn) }

/-- A highest TSN that was just before the arrays stays there. -/
theorem up_wrap {base highest k : Nat} {t : Tsn} (ht : t = wrap z highest)
    (hnear : highest < base + 2 ^ 30 ∧ base < highest + (2 ^ 31 - 1)) :
    (if t + 1 = wrap z base then t + BitVec.ofNat 32 (k * 8) else t) =
      wrap z (if highest + 1 = base then highest + 8 * k else highest) := by
  rw [ht, ← Serial.wrap_succ]
  by_cases heq : highest + 1 = base
  · rw [if_pos (congrArg _ heq), if_pos heq, Serial.wrap_add, Nat.mul_comm]
  · rw [if_neg fun hw => heq ((wrap_inj z (by omega) (by omega)).mp hw), if_neg heq]

/-- The bytes before the first that is not full are dropped. -/
theorem slide (h : Rep L z a r) (hL : L ≤ near) (hs : Scanned a r pos) {d : Nat}
    (hmap : r.highestMap < r.base + 8 * (d + pos / 8))
    (hnrMap : r.highestNrMap < r.base + 8 * (d + pos / 8))
    (hdistance : d + pos / 8 ≤ a.size) :
    let up := fun n => if n + 1 = r.base then n + 8 * (pos / 8) else n
    Rep (L + 2 ^ 14) z
      (({ a with cumulativeTsn := wrap z (r.base + pos - 1) } : Asoc).slide (pos / 8) d)
      { r with
        base := r.base + 8 * (pos / 8)
        cum := r.base + pos - 1
        highestMap := up r.highestMap
        highestNrMap := up r.highestNrMap } := by
  intro up
  have hpos := h.base_pos
  have hbase := h.base_le
  have hbits := h.bits_le
  have hle := hs.pos_le
  have hmaplt := h.highestMap_lt
  have hnrMaplt := h.highestNrMap_lt
  have hlag := h.lag_map
  have hlag' := h.lag_nrMap
  simp only [near] at hL
  have hup : ∀ n, n ≤ up n ∧ up n ≤ n + 8 * (pos / 8) := fun n => by
    simp only [up]
    split <;> omega
  have hup' : ∀ n i, r.base + (i + 8 * (pos / 8)) ≤ n → r.base + 8 * (pos / 8) + i ≤ up n :=
    fun n i hn => by have := (hup n).1; omega
  have hbase' : a.mappingArrayBaseTsn + BitVec.ofNat 32 (pos / 8 * 8) =
      wrap z (r.base + 8 * (pos / 8)) := by
    rw [h.base, Serial.wrap_add, Nat.mul_comm]
  exact h.movedOn (d := 8 * (pos / 8))
    { same := ⟨rfl, rfl, rfl, rfl⟩
      rest := ⟨rfl, rfl, rfl⟩
      size := Bitmap.length_move rfl hdistance
      nr_size := (Bitmap.length_move h.size_eq hdistance).trans h.size_eq.symm
      base := hbase'
      cum := rfl
      highestMap := by
        simp only [Asoc.slide, h.base]
        exact up_wrap h.highestMap (by omega)
      highestNrMap := by
        simp only [Asoc.slide, h.base]
        exact up_wrap h.highestNrMap (by omega)
      test := Bitmap.test_move_of_lt _ fun i hi =>
        test_eq_false_of_lt rfl h.map_le (.inl (by omega))
      nr_test := Bitmap.test_move_of_lt _ fun i hi =>
        test_eq_false_of_lt h.size_eq h.nrMap_le (.inl (by omega))
      base_le := by simp only; omega
      contiguous := fun n hn hle => hs.contiguous n hn (by simp only at hle; omega)
      le_highest := by
        have := hs.le_highest
        have := (hup r.highestMap).1
        have := (hup r.highestNrMap).1
        simp only
        omega
      highestMap_lt := by have := (hup r.highestMap).2; simp only; omega
      highestNrMap_lt := by have := (hup r.highestNrMap).2; simp only; omega
      map_le := fun i hi => hup' _ i (h.map_le _ hi)
      nrMap_le := fun i hi => hup' _ i (h.nrMap_le _ hi)
      lag := by
        rintro n (rfl | rfl | hn)
        · exact Nat.lt_of_lt_of_le (hs.lag h hlag) (Nat.add_le_add_right (hup _).1 _)
        · exact Nat.lt_of_lt_of_le (hs.lag h hlag') (Nat.add_le_add_right (hup _).1 _)
        · exact hs.lag h (h.lag_held n hn) }

theorem highestTsn_eq (h : Rep L z a r) (hL : L ≤ near) :
    a.highestTsn = wrap z (max r.highestMap r.highestNrMap) := by
  have hbits := h.bits_le
  have hbase := h.base_le
  have hmap := h.highestMap_lt
  have hnrMap := h.highestNrMap_lt
  have hlag := h.lag_map
  have hlag' := h.lag_nrMap
  simp only [near] at hL
  rw [Asoc.highestTsn, h.highestNrMap]
  exact highest_wrap h.highestMap (by omega) (by omega)

/-- The chunks are the same; the cumulative TSN is exact, and in the first byte of the arrays. -/
structure Settled (M : Nat) (z : Tsn) (a' : Asoc) (r r' : Numbers) : Prop where
  rep : Rep M z a' r'
  accepted : r'.accepted = r.accepted
  held : r'.held = r.held
  skipped : r'.skipped = r.skipped
  cum_le : r.cum ≤ r'.cum
  next : ¬ r'.Has (r'.cum + 1)
  cum_lt : r'.cum + 1 < r'.base + 8

theorem settled (h : Rep L z a r) (hL : 0 < L ∧ L ≤ near) :
    ∃ r', Settled (L + 2 ^ 14) z (sctpSlideMappingArrays a) r r' := by
  obtain ⟨hdiv, -⟩ := scan_spec (a.nrMappingArray.union a.mappingArray)
  have hs := h.scanned
  rw [sctpSlideMappingArrays]
  generalize scan (a.nrMappingArray.union a.mappingArray) = s at hdiv hs ⊢
  obtain ⟨slideFrom, pos⟩ := s
  simp only at hdiv hs ⊢
  subst hdiv
  have hpos := h.base_pos
  have hbits := h.bits_le
  have hle := hs.pos_le
  have hmap := h.highestMap_lt
  have hnrMap := h.highestNrMap_lt
  have hhigh := hs.le_highest
  have hcum : a.mappingArrayBaseTsn + BitVec.ofNat 32 pos - 1 = wrap z (r.base + pos - 1) := by
    rw [h.base, ← Serial.wrap_add, wrap_sub_one z (Nat.add_pos_left hpos pos)]
  obtain ⟨hL0, hL'⟩ := hL
  have hhighest : ({ a with cumulativeTsn := wrap z (r.base + pos - 1) } : Asoc).highestTsn =
      wrap z (max r.highestMap r.highestNrMap) := h.highestTsn_eq hL'
  have hL : L + 2 ^ 14 ≤ 2 ^ 31 := Nat.add_le_of_le_sub (by decide) hL'
  have hlag := Nat.lt_of_lt_of_le (hs.lag h h.lag_map) (Nat.add_le_add_left hL _)
  have hlag' := Nat.lt_of_lt_of_le (hs.lag h h.lag_nrMap) (Nat.add_le_add_left hL _)
  -- the cumulative TSN is not past both of the highest TSNs
  have hhuh : (tsnGt (wrap z (r.base + pos - 1)) a.highestTsnInsideMap &&
      tsnGt (wrap z (r.base + pos - 1)) a.highestTsnInsideNrMap) = false := by
    rw [h.highestMap, h.highestNrMap, tsnGt_wrap z (by omega) (by omega),
      tsnGt_wrap z (by omega) (by omega), ← Bool.decide_and]
    exact decide_eq_false (by omega)
  have hiff : wrap z (r.base + pos - 1) = wrap z (max r.highestMap r.highestNrMap) ↔
      r.base + pos - 1 = max r.highestMap r.highestNrMap := wrap_inj z (by omega) (by omega)
  have hcumle : r.cum ≤ r.base + pos - 1 := Nat.le_sub_one_of_lt hs.cum_lt
  have hnext : ¬ r.Has (r.base + pos - 1 + 1) := by
    rw [Nat.sub_add_cancel (Nat.add_pos_left hpos pos)]
    exact hs.next
  rw [hcum, hhuh, if_neg Bool.false_ne_true, hhighest]
  simp only [hiff, Bool.and_eq_true, decide_eq_true_eq, ge_iff_le]
  by_cases hall : r.base + pos - 1 = max r.highestMap r.highestNrMap ∧ 8 ≤ pos
  · rw [if_pos hall]
    have hclear := h.clear hL0 hs (by omega) (by omega)
    exact ⟨_, hclear, rfl, rfl, rfl, hcumle, hnext, by simp only; omega⟩
  rw [if_neg hall]
  by_cases h8 : 8 ≤ pos
  · rw [if_pos h8]
    have hgap : calcTsnToGap (wrap z (max r.highestMap r.highestNrMap)) a.mappingArrayBaseTsn =
        max r.highestMap r.highestNrMap - r.base := by
      rw [h.base, calcTsnToGap_wrap z (by omega) (by omega)]
    have hsize : ({ a with cumulativeTsn := wrap z (r.base + pos - 1) } : Asoc).size = a.size := rfl
    rw [hgap, hsize]
    generalize hmax : max r.highestMap r.highestNrMap = highest at *
    rw [if_neg (by omega), if_neg (by omega)]
    generalize hdistance : min ((highest - r.base) / 8) a.size - pos / 8 + 1 = distance
    have hslide := h.slide hL' hs (d := distance) (by omega) (by omega) (by omega)
    exact ⟨_, hslide, rfl, rfl, rfl, hcumle, hnext, by simp only; omega⟩
  · rw [if_neg h8]
    have hnone := h.advance hcumle (fun n hn hle => hs.contiguous n hn (by omega)) (by omega)
    exact ⟨_, hnone, rfl, rfl, rfl, hcumle, hnext, by simp only; omega⟩

end Rep

end Sctp4Nat.MappingArray
