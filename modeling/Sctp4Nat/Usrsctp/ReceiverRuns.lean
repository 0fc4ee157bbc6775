import Sctp4Nat.Usrsctp.SlideMappingArrays

/-! # Runs of the receiver

Every step of the receiver keeps `Rep`, and what it has got it keeps. -/

namespace Sctp4Nat.MappingArray

open Serial (wrap)

namespace Rep

variable {L : Nat} {z : Tsn} {a a' : Asoc} {r : Numbers} {n i : Nat} {tsn : Tsn}

theorem recordDup (h : Rep L z a r) (tsn : Tsn) : Rep L z (a.recordDup tsn) r := by
  rw [Asoc.recordDup]
  split
  · exact { h with }
  · exact h

/-- The number of a TSN that is not behind the cumulative TSN. -/
theorem number (h : Rep L z a r) (hbehind : tsnGe a.cumulativeTsn tsn = false)
    (hgap : calcTsnToGap tsn a.mappingArrayBaseTsn < 2 ^ 30) :
    tsn = wrap z (r.base + calcTsnToGap tsn a.mappingArrayBaseTsn) ∧
      r.cum < r.base + calcTsnToGap tsn a.mappingArrayBaseTsn := by
  have htsn : tsn = wrap z (r.base + calcTsnToGap tsn a.mappingArrayBaseTsn) := by
    rw [h.base]
    exact eq_wrap_gap z tsn r.base
  generalize calcTsnToGap tsn a.mappingArrayBaseTsn = gap at htsn hgap
  refine ⟨htsn, ?_⟩
  have hbase := h.base_le
  have hbits := h.bits_le
  have hlt := h.cum_lt
  rw [htsn, h.cum, tsnGe_wrap z (by omega) (by omega)] at hbehind
  exact Nat.lt_of_not_le (of_decide_eq_false hbehind)

/-! ### A `DATA` chunk arrives -/

/-- The chunk of bit `i` is accepted, and the cumulative TSN moves if it was the next one. -/
structure Took (M : Nat) (z : Tsn) (a' : Asoc) (r : Numbers) (i : Nat) (r' : Numbers) : Prop where
  rep : Rep M z a' r'
  cum_le : r.cum ≤ r'.cum
  skipped : r'.skipped = r.skipped
  accepted : r'.accepted = (r.base + i) :: r.accepted

theorem took_express (h : Rep L z a r) (hL : L ≤ near) (hi : i < 8 * a.size)
    (hcum : r.cum < r.base + i) (hnew : ¬ r.Has (r.base + i)) :
    ∃ r', Took (L + 1) z
      (((a.accept (wrap z (r.base + i))).markNrMap (wrap z (r.base + i)) i).updateCumAck
        (wrap z (r.base + i))) r i r' := by
  have haccept := h.accept_nrMap hL hi hcum hnew
  obtain ⟨cum, hle, hrep⟩ := haccept.updateCumAck (n := r.base + i)
    ⟨Nat.add_pos_left h.base_pos i, .inr List.mem_cons_self⟩ hcum (Nat.le_add_right ..)
  exact ⟨_, hrep, hle, rfl, rfl⟩

theorem took_queue (h : Rep L z a r) (hL : 2 ^ 14 ≤ L ∧ L ≤ near) (hi : i < 8 * a.size)
    (hcum : r.cum < r.base + i) (hnew : ¬ r.Has (r.base + i)) (drain : Bool) {ready : List Tsn}
    (ht : takeChunk drain (wrap z (r.base + i)) i a (.queue ready) = some a') :
    ∃ r', Took (L + 1) z a' r i r' := by
  obtain ⟨a₁, hready, rfl⟩ := Option.map_eq_some_iff.mp ht
  have hmark : ∃ highestMap highestNrMap, Rep L z
      (if drain then (a.accept (wrap z (r.base + i))).markMap (wrap z (r.base + i)) i
        else (a.accept (wrap z (r.base + i))).markNrMap (wrap z (r.base + i)) i)
      { r with accepted := (r.base + i) :: r.accepted, highestMap, highestNrMap } := by
    cases drain with
    | false => exact ⟨_, _, h.accept_nrMap hL.2 hi hcum hnew⟩
    | true => exact ⟨_, _, h.accept_map hL.2 hi hcum hnew⟩
  obtain ⟨m, m', hmark⟩ := hmark
  have hheld := hmark.hold (n := r.base + i) List.mem_cons_self (by simp only; omega)
  obtain ⟨m, m', hready⟩ := hheld.handOn_all hL drain hready
  obtain ⟨cum, hle, hrep⟩ := hready.updateCumAck (n := r.base + i)
    ⟨Nat.add_pos_left h.base_pos i, .inr List.mem_cons_self⟩ hcum (Nat.le_add_right ..)
  exact ⟨_, hrep, hle, rfl, rfl⟩

end Rep

/-- The chunk is accepted. -/
def Fate.accepts : Fate → Bool
  | .abort | .drop => false
  | .badStream | .express | .queue _ => true

/-- The chunk is new, the arrays reach to it or can grow so far, and its fate is to be accepted. -/
structure Takes (a : Asoc) (r : Numbers) (memory : Bool) (fate : Fate) (n : Nat) : Prop where
  new : ¬ r.Has n
  lt : n < r.base + sctpMappingArray * 8
  room : memory = true ∨ n < r.base + a.size * 8
  accepts : fate.accepts = true

namespace Rep

variable {L : Nat} {z : Tsn} {a a' : Asoc} {r : Numbers} {n i : Nat} {tsn : Tsn} {fate : Fate}

theorem took (h : Rep L z a r) (hL : 2 ^ 14 ≤ L ∧ L ≤ near) (hi : i < 8 * a.size)
    (hcum : r.cum < r.base + i) (hnew : ¬ r.Has (r.base + i)) (drain : Bool)
    (hfate : fate.accepts = true) (ht : takeChunk drain (wrap z (r.base + i)) i a fate = some a') :
    ∃ r', Took (L + 1) z a' r i r' := by
  cases fate with
  | abort => cases hfate
  | drop => cases hfate
  | badStream =>
    cases ht
    exact h.took_express hL.2 hi hcum hnew
  | express =>
    cases ht
    exact h.took_express hL.2 hi hcum hnew
  | queue ready => exact h.took_queue hL hi hcum hnew drain ht

theorem not_took (drain : Bool) (hfate : fate.accepts = false)
    (ht : takeChunk drain tsn i a fate = some a') : a' = a := by
  cases fate with
  | abort => cases ht
  | drop => cases ht; rfl
  | badStream => cases hfate
  | express => cases hfate
  | queue ready => cases hfate

/-- A chunk ahead of the cumulative TSN. -/
theorem data_ahead (h : Rep L z a r) (hL : 2 ^ 14 ≤ L ∧ L ≤ near) (hcum : r.cum < r.base + i)
    (hi : r.base + i < r.cum + 2 ^ 31) {drain memory : Bool}
    (hd : sctpProcessADataChunk drain memory (wrap z (r.base + i)) fate a = some a') :
    (¬ Takes a r memory fate (r.base + i) ∧ Rep L z a' r) ∨
      (Takes a r memory fate (r.base + i) ∧ ∃ r', Took (L + 1) z a' r i r') := by
  have hbase := h.base_le
  have hbits := h.bits_le
  have hlt := h.cum_lt
  have hbehind : tsnGe a.cumulativeTsn (wrap z (r.base + i)) = false := by
    rw [h.cum, tsnGe_wrap z (by omega) (by omega)]
    exact decide_eq_false (Nat.not_le_of_lt hcum)
  have hgap : calcTsnToGap (wrap z (r.base + i)) a.mappingArrayBaseTsn = i := by
    rw [h.base, calcTsnToGap_wrap z (Nat.le_add_right ..) (by omega), Nat.add_sub_cancel_left]
  rw [sctpProcessADataChunk, hbehind, if_neg Bool.false_ne_true] at hd
  simp only [hgap] at hd
  by_cases hmax : i ≥ sctpMappingArray * 8
  · rw [if_pos hmax] at hd
    cases hd
    exact .inl ⟨fun ht => Nat.not_lt_of_le hmax (Nat.lt_of_add_lt_add_left ht.lt), h⟩
  rw [if_neg hmax] at hd
  by_cases hroom : memory = true ∨ i < a.size * 8
  case neg =>
    rw [not_or, Bool.not_eq_true, Nat.not_lt] at hroom
    rw [if_pos (by rw [hroom.1, decide_eq_true hroom.2]; rfl)] at hd
    cases hd
    refine .inl ⟨fun ht => ?_, h⟩
    rcases ht.room with hm | hlt
    · exact Bool.false_ne_true (hroom.1.symm.trans hm)
    · exact Nat.not_lt_of_le hroom.2 (Nat.lt_of_add_lt_add_left hlt)
  have hgrow : ¬ (decide (i ≥ a.size * 8) && !memory) = true := by
    simpa using fun hge => hroom.resolve_right (Nat.not_lt_of_le hge)
  rw [if_neg hgrow] at hd
  -- the arrays that reach to the bit
  obtain ⟨b, hb, hrep, hib⟩ : ∃ b, (if i ≥ a.size * 8 then a.expandMappingArray i else a) = b ∧
      Rep L z b r ∧ i < 8 * b.size := by
    split
    · rename_i hsize
      refine ⟨_, rfl, h.expand hsize (Nat.lt_of_not_le hmax), ?_⟩
      simp only [Asoc.expandMappingArray, Asoc.size, List.length_append, Bitmap.length_empty,
        sctpMappingArrayIncr]
      omega
    · exact ⟨_, rfl, h, by omega⟩
  rw [hb] at hd
  by_cases hhas : r.Has (r.base + i)
  · rw [if_pos ((hrep.present i hib).mpr hhas)] at hd
    cases hd
    exact .inl ⟨fun ht => ht.new hhas, hrep.recordDup _⟩
  rw [if_neg fun hp => hhas ((hrep.present i hib).mp hp)] at hd
  cases hfate : fate.accepts with
  | false =>
    cases not_took drain hfate hd
    exact .inl ⟨fun ht => Bool.false_ne_true (hfate.symm.trans ht.accepts), hrep⟩
  | true =>
    refine .inr ⟨⟨hhas, Nat.add_lt_add_left (Nat.lt_of_not_le hmax) _, ?_, hfate⟩,
      hrep.took hL hib hcum hhas drain hfate hd⟩
    exact hroom.imp_right (Nat.add_lt_add_left · _)

end Rep

/-- What a receiver has got it keeps, and the cumulative TSN does not go back. -/
structure Numbers.Later (r r' : Numbers) : Prop where
  accepted : r.accepted <:+ r'.accepted
  skipped : r.skipped ≤ r'.skipped
  cum : r.cum ≤ r'.cum
  skipped_le : r.skipped ≤ r.cum → r'.skipped ≤ r'.cum

namespace Numbers.Later

variable {r r' r'' : Numbers}

theorem refl (r : Numbers) : Later r r :=
  ⟨List.suffix_rfl, Nat.le_refl _, Nat.le_refl _, id⟩

theorem trans (h : Later r r') (h' : Later r' r'') : Later r r'' :=
  ⟨h.accepted.trans h'.accepted, Nat.le_trans h.skipped h'.skipped, Nat.le_trans h.cum h'.cum,
    fun hle => h'.skipped_le (h.skipped_le hle)⟩

theorem of_skipped (haccepted : r.accepted <:+ r'.accepted) (hskipped : r'.skipped = r.skipped)
    (hcum : r.cum ≤ r'.cum) : Later r r' :=
  ⟨haccepted, Nat.le_of_eq hskipped.symm, hcum,
    fun hle => hskipped ▸ Nat.le_trans hle hcum⟩

end Numbers.Later

/-- Nothing is accepted or skipped. -/
structure Numbers.Same (r r' : Numbers) : Prop where
  accepted : r'.accepted = r.accepted
  skipped : r'.skipped = r.skipped
  cum_le : r.cum ≤ r'.cum

theorem Numbers.Same.later {r r' : Numbers} (h : r.Same r') : r.Later r' :=
  .of_skipped (h.accepted ▸ List.suffix_rfl) h.skipped h.cum_le

namespace Rep

variable {L : Nat} {z : Tsn} {a a' : Asoc} {r : Numbers} {n i : Nat} {tsn : Tsn} {fate : Fate}

theorem Took.later {M : Nat} {r' : Numbers} (h : Took M z a' r i r') : r.Later r' :=
  .of_skipped (h.accepted ▸ List.suffix_cons ..) h.skipped h.cum_le

theorem data (h : Rep L z a r) (hL : 2 ^ 14 ≤ L ∧ L ≤ near) {drain memory : Bool}
    (hd : sctpProcessADataChunk drain memory tsn fate a = some a') :
    ∃ r', Rep (L + 1) z a' r' ∧ r.Later r' := by
  by_cases hbehind : tsnGe a.cumulativeTsn tsn = true
  · rw [sctpProcessADataChunk, if_pos hbehind] at hd
    cases hd
    exact ⟨r, (h.recordDup tsn).mono (Nat.le_succ L), .refl r⟩
  rw [Bool.not_eq_true] at hbehind
  by_cases hfar : calcTsnToGap tsn a.mappingArrayBaseTsn ≥ sctpMappingArray * 8
  · rw [sctpProcessADataChunk, hbehind, if_neg Bool.false_ne_true] at hd
    simp only [if_pos hfar] at hd
    cases hd
    exact ⟨r, h.mono (Nat.le_succ L), .refl r⟩
  have hfar := Nat.lt_of_not_le hfar
  simp only [sctpMappingArray] at hfar
  obtain ⟨htsn, hcum⟩ := h.number hbehind (by omega)
  generalize calcTsnToGap tsn a.mappingArrayBaseTsn = i at htsn hcum hfar
  subst htsn
  have hbase := h.base_le
  rcases h.data_ahead hL hcum (by omega) hd with ⟨-, hrep⟩ | ⟨-, r', htook⟩
  · exact ⟨r, hrep.mono (Nat.le_succ L), .refl r⟩
  · exact ⟨r', htook.rep, htook.later⟩

/-! ### A `FORWARD-TSN` chunk arrives -/

theorem fill_cumulativeTsn (a : Asoc) (cum : Tsn) (skipped : Option Tsn) (i : Nat) :
    ({ a with cumulativeTsn := cum, skipped } : Asoc).fill i =
      { a.fill i with cumulativeTsn := cum, skipped } := by
  induction i with
  | zero => rfl
  | succ i ih =>
    have hp : ({ a.fill i with cumulativeTsn := cum, skipped } : Asoc).isPresent i =
        (a.fill i).isPresent i := rfl
    rw [Asoc.fill, Asoc.fill, ih]
    simp only [hp]
    split <;> rfl

theorem fill (h : Rep L z a r) (hL : L ≤ near) (hi : i ≤ 8 * a.size) :
    ∃ skipped highestNrMap, r.skipped ≤ skipped ∧ skipped < max (r.skipped + 1) (r.base + i) ∧
      (a.fill i).size = a.size ∧
      Rep L z { a.fill i with skipped := skippedTsn z skipped }
        { r with skipped, highestNrMap } ∧
      ∀ j < i, ({ r with skipped } : Numbers).Has (r.base + j) := by
  induction i with
  | zero =>
    exact ⟨r.skipped, r.highestNrMap, Nat.le_refl _, by omega, rfl, { h with skipped := rfl },
      fun j hj => absurd hj (Nat.not_lt_zero j)⟩
  | succ i ih =>
    obtain ⟨skipped, highestNrMap, hle, hlt, hsize, hrep, hhas⟩ := ih (Nat.le_of_succ_le hi)
    have hi' : i < 8 * (a.fill i).size := hsize ▸ hi
    rw [Asoc.fill]
    by_cases hp : (a.fill i).isPresent i = true
    · simp only [if_pos hp]
      refine ⟨skipped, highestNrMap, hle, by omega, hsize, hrep, fun j hj => ?_⟩
      rcases Nat.lt_or_eq_of_le (Nat.le_of_lt_succ hj) with hj | rfl
      · exact hhas j hj
      · exact (hrep.present j hi').mp hp
    · simp only [if_neg hp]
      have hnew : ¬ ({ r with skipped, highestNrMap } : Numbers).Has (r.base + i) :=
        fun hn => hp ((hrep.present i hi').mpr hn)
      have hpos : 0 < r.base + i := Nat.add_pos_left h.base_pos i
      have hcum : r.cum < r.base + i :=
        Nat.lt_of_not_le fun hle => hnew (hrep.contiguous _ hpos hle)
      have hskip : skipped ≤ r.base + i := Nat.le_of_not_le fun hle => hnew ⟨hpos, .inl hle⟩
      -- all chunks up to this one are there or are skipped
      have hadd : ∀ m, ({ r with skipped := r.base + i, highestNrMap } : Numbers).Has m ↔
          m = r.base + i ∨ ({ r with skipped, highestNrMap } : Numbers).Has m := by
        intro m
        constructor
        · rintro ⟨hm, hle | hmem⟩
          · by_cases hbase : m < r.base
            · exact .inr (hrep.contiguous m hm (by have := h.base_le; simp only; omega))
            obtain ⟨j, rfl⟩ := Nat.exists_eq_add_of_le (Nat.le_of_not_lt hbase)
            rcases Nat.lt_or_eq_of_le (Nat.le_of_add_le_add_left hle) with hj | rfl
            · exact .inr (hhas j hj)
            · exact .inl rfl
          · exact .inr ⟨hm, .inr hmem⟩
        · rintro (rfl | ⟨hm, hle | hmem⟩)
          · exact ⟨hpos, .inl (Nat.le_refl _)⟩
          · exact ⟨hm, .inl (Nat.le_trans hle hskip)⟩
          · exact ⟨hm, .inr hmem⟩
      have hmark := hrep.mark_nrMap hL hi' hcum hnew hadd hrep.nodup hrep.accepted_pos hrep.held_sub
      have htsn : (a.fill i).mappingArrayBaseTsn + BitVec.ofNat 32 i = wrap z (r.base + i) := by
        rw [hrep.base, Serial.wrap_add]
      rw [← hrep.accepted] at hmark
      rw [htsn]
      refine ⟨r.base + i, _, Nat.le_trans hle hskip, by omega, hsize, hmark, fun j hj => ?_⟩
      exact ⟨Nat.add_pos_left h.base_pos j, .inl (Nat.add_le_add_left (Nat.le_of_lt_succ hj) _)⟩

/-- Chunks that the receiver has all the same are skipped. -/
theorem skip (h : Rep L z a r) {c : Nat} (hskip : r.skipped ≤ c)
    (hcont : ∀ n, 0 < n → n ≤ c → r.Has n) :
    Rep L z { a with skipped := skippedTsn z c } { r with skipped := c } := by
  have hhas : ∀ n, ({ r with skipped := c } : Numbers).Has n ↔ r.Has n := fun n =>
    ⟨fun ⟨hn, hor⟩ => hor.elim (hcont n hn) fun hmem => ⟨hn, .inr hmem⟩,
      fun ⟨hn, hor⟩ => ⟨hn, hor.imp_left (Nat.le_trans · hskip)⟩⟩
  exact { h with
    skipped := rfl
    present := fun i hi => (h.present i hi).trans (hhas _).symm
    window := fun n hn => h.window n ((hhas n).mp hn)
    contiguous := fun n hn hle => (hhas n).mpr (h.contiguous n hn hle) }

/-- The arrays start anew after the chunk `c`, which they do not reach. -/
theorem reset (h : Rep L z a r) {c : Nat} (hc : r.base + 8 * a.size ≤ c)
    (hfar : c < r.base + 2 ^ 30) :
    Rep (L + 2 ^ 30) z
      { a with
        cumulativeTsn := wrap z c
        skipped := some (wrap z c)
        mappingArray := Bitmap.empty a.size
        nrMappingArray := Bitmap.empty a.size
        mappingArrayBaseTsn := wrap z c + 1
        highestTsnInsideMap := wrap z c
        highestTsnInsideNrMap := wrap z c }
      { r with skipped := c, base := c + 1, cum := c, highestMap := c, highestNrMap := c } := by
  have hacc : ∀ n ∈ r.accepted, n < c := fun n hn =>
    Nat.lt_of_lt_of_le (h.window n ⟨h.accepted_pos n hn, .inr hn⟩) hc
  have hc0 : c ≠ 0 := Nat.ne_of_gt (Nat.lt_of_lt_of_le h.base_pos (Nat.le_of_add_right_le hc))
  have hbase := h.base_le
  have hheld : ∀ n, r.cum < n + L → c < n + L + 2 ^ 30 := fun n hn => by omega
  have hlag : c < c + (L + 2 ^ 30) := Nat.lt_add_of_pos_right (Nat.add_pos_right L (by decide))
  refine
    { h with
      size_eq := (Bitmap.length_empty _).trans (Bitmap.length_empty _).symm
      size_le := Nat.le_trans (Nat.le_of_eq (Bitmap.length_empty _)) h.size_le
      base := (Serial.wrap_succ z c).symm
      cum := rfl
      highestMap := rfl
      highestNrMap := rfl
      skipped := (if_neg hc0).symm
      base_pos := Nat.succ_pos c
      base_le := Nat.le_refl _
      highestMap_lt := Nat.lt_of_lt_of_le (Nat.lt_succ_self c) (Nat.le_add_right ..)
      highestNrMap_lt := Nat.lt_of_lt_of_le (Nat.lt_succ_self c) (Nat.le_add_right ..)
      cum_le := .inl (Nat.le_refl c)
      present := fun i _ => ?_
      window := fun n hn => Nat.lt_add_right _ (Nat.lt_succ_of_le ?_)
      contiguous := fun n hn hle => ⟨hn, .inl hle⟩
      disjoint := fun i _ => Bitmap.test_empty ..
      map_le := fun i hi => absurd hi (by simp)
      nrMap_le := fun i hi => absurd hi (by simp)
      lag_map := hlag
      lag_nrMap := hlag
      lag_held := fun n hn => Nat.lt_of_lt_of_eq (hheld n (h.lag_held n hn)) (Nat.add_assoc ..) }
  · have hclear : ∀ b : Asoc, b.mappingArray = Bitmap.empty a.size →
        b.nrMappingArray = Bitmap.empty a.size → b.isPresent i = false := fun b hb hb' => by
      rw [Asoc.isPresent, hb, hb', Bitmap.test_empty, Bool.or_self]
    rw [hclear _ rfl rfl]
    refine iff_of_false Bool.false_ne_true ?_
    rintro ⟨-, hle | hmem⟩
    · exact Nat.not_lt_of_le hle (Nat.lt_of_lt_of_le (Nat.lt_succ_self c) (Nat.le_add_right ..))
    · exact Nat.not_le_of_lt (hacc _ hmem) (Nat.le_trans (Nat.le_succ c) (Nat.le_add_right ..))
  · exact hn.2.elim id fun hmem => Nat.le_of_lt (hacc n hmem)

theorem Settled.later {M : Nat} {r' : Numbers} (h : Settled M z a' r r') : r.Later r' :=
  .of_skipped (h.accepted ▸ List.suffix_rfl) h.skipped h.cum_le

theorem skipped_lt (h : Rep L z a r) : r.skipped < r.base + 8 * a.size := by
  rcases Nat.eq_zero_or_pos r.skipped with h0 | h0
  · have := h.base_pos
    omega
  · exact h.window _ ⟨h0, .inl (Nat.le_refl _)⟩

/-- The queues hand on what is ready, and the arrays are moved on. -/
theorem handOn_slide (h : Rep L z a r) (hL : 2 ^ 14 ≤ L ∧ L ≤ near) {drain : Bool}
    {ready : List Tsn}
    (hf : (ready.foldlM (handOn drain) a).map sctpSlideMappingArrays = some a') :
    ∃ r', Rep (L + 2 ^ 14) z a' r' ∧ r.Later r' := by
  obtain ⟨a₁, hready, rfl⟩ := Option.map_eq_some_iff.mp hf
  obtain ⟨m, m', h₁⟩ := h.handOn_all hL drain hready
  obtain ⟨r', hs⟩ := h₁.settled ⟨Nat.lt_of_lt_of_le (by decide) hL.1, hL.2⟩
  refine ⟨r', hs.rep, Numbers.Later.trans ?_ hs.later⟩
  exact .of_skipped List.suffix_rfl rfl (Nat.le_refl _)

theorem forwardTsn (h : Rep L z a r) (hL : 2 ^ 14 ≤ L ∧ L + 2 ^ 30 ≤ near) {drain : Bool}
    {newCumTsn : Tsn} {space : Nat} (hspace : space < 2 ^ 30) {ready : List Tsn}
    (hskipped : r.skipped ≤ r.cum)
    (hf : sctpHandleForwardTsn drain newCumTsn space ready a = some a') :
    ∃ r', Rep (L + 2 ^ 30 + 2 ^ 14) z a' r' ∧ r.Later r' := by
  have hbits := h.bits_le
  by_cases hbehind : tsnGe a.cumulativeTsn newCumTsn = true
  · rw [sctpHandleForwardTsn, if_pos hbehind] at hf
    cases hf
    exact ⟨r, h.mono (by omega), .refl r⟩
  rw [Bool.not_eq_true] at hbehind
  rw [sctpHandleForwardTsn, hbehind, if_neg Bool.false_ne_true] at hf
  have hnumber := h.number hbehind
  simp only at hf
  have hsize : ({ a with cumulativeTsn := newCumTsn, skipped := some newCumTsn } : Asoc).size =
      a.size := rfl
  rw [hsize] at hf
  generalize calcTsnToGap newCumTsn a.mappingArrayBaseTsn = gap at hf hnumber
  have hskip := h.skipped_lt
  by_cases hfar : gap ≥ a.size * 8
  · rw [if_pos hfar] at hf
    by_cases hroom : gap > space
    · rw [if_pos hroom] at hf
      cases hf
    rw [if_neg hroom] at hf
    obtain ⟨rfl, hcum⟩ := hnumber (by omega)
    have hreset := h.reset (c := r.base + gap) (by omega) (by omega)
    obtain ⟨r', hrep, hlater⟩ := hreset.handOn_slide (by omega) hf
    refine ⟨r', hrep, Numbers.Later.trans ?_ hlater⟩
    exact ⟨List.suffix_rfl, Nat.le_trans hskipped (Nat.le_of_lt hcum), Nat.le_of_lt hcum,
      fun _ => Nat.le_refl _⟩
  · rw [if_neg hfar, fill_cumulativeTsn] at hf
    obtain ⟨rfl, hcum⟩ := hnumber (by omega)
    obtain ⟨skipped, m, hle, hlt, hsize, hfill, hhas⟩ :=
      h.fill (i := gap + 1) (by omega) (by omega)
    have hcont : ∀ n, 0 < n → n ≤ r.base + gap →
        ({ r with skipped, highestNrMap := m } : Numbers).Has n := by
      intro n hn hle
      rcases Nat.lt_or_ge n r.base with hlt | hge
      · exact hfill.contiguous n hn (by have := h.base_le; simp only; omega)
      · obtain ⟨j, rfl⟩ := Nat.exists_eq_add_of_le hge
        exact hhas j (Nat.lt_succ_of_le (Nat.le_of_add_le_add_left hle))
    have hskip := hfill.skip (c := r.base + gap) (by simp only; omega) hcont
    have hcont' : ∀ n, 0 < n → n ≤ r.base + gap →
        ({ r with skipped := r.base + gap, highestNrMap := m } : Numbers).Has n :=
      fun n hn hle => ⟨hn, .inl hle⟩
    have hadvance := hskip.advance (Nat.le_of_lt hcum) hcont'
      (hfill.le_highest (hhas gap (Nat.lt_succ_self gap)) (Nat.le_add_right ..))
    have hsome : skippedTsn z (r.base + gap) = some (wrap z (r.base + gap)) := if_neg (by omega)
    rw [hsome] at hadvance
    obtain ⟨r', hrep, hlater⟩ := hadvance.handOn_slide (by omega) hf
    refine ⟨r', hrep.mono (by omega), Numbers.Later.trans ?_ hlater⟩
    exact ⟨List.suffix_rfl, Nat.le_trans hskipped (Nat.le_of_lt hcum), Nat.le_of_lt hcum,
      fun _ => Nat.le_refl _⟩

/-! ### Every step -/

theorem release (h : Rep L z a r) (tsn : Tsn) :
    ∃ held, Rep L z { a with held := a.held.erase tsn } { r with held } := by
  let held := r.held.eraseP ((tsn == ·) ∘ wrap z)
  have herase : a.held.erase tsn = held.map (wrap z) := by
    rw [h.held, List.erase_eq_eraseP, List.eraseP_map]
  have hsub : ∀ n ∈ held, n ∈ r.held := fun n hn => List.mem_of_mem_eraseP hn
  exact ⟨held, { h with
    held := herase
    held_sub := fun n hn => h.held_sub n (hsub n hn)
    lag_held := fun n hn => h.lag_held n (hsub n hn) }⟩

end Rep

/-- The bound `L` from which every step stays below `near`. -/
def close : Nat := 2 ^ 30 - 2 ^ 15

/-- No TSN that the receiver refers to is far behind the cumulative TSN. -/
def fresh (a : Asoc) : Prop :=
  ∀ tsn ∈ a.highestTsnInsideMap :: a.highestTsnInsideNrMap :: a.held,
    (a.cumulativeTsn - tsn).toInt < 2 ^ 30 - 2 ^ 15

instance (a : Asoc) : Decidable (fresh a) := List.decidableBAll _ _

namespace Rep

variable {L : Nat} {z : Tsn} {a a' : Asoc} {r : Numbers}

theorem of_fresh (h : Rep near z a r) (hf : fresh a) : Rep close z a r := by
  have hbits := h.bits_le
  have hlag : ∀ n, r.cum < n + near →
      (wrap z r.cum - wrap z n).toInt < 2 ^ 30 - 2 ^ 15 → r.cum < n + close := by
    intro n hn hclose
    simp only [near] at hn
    simp only [close]
    rcases Nat.lt_or_ge r.cum n with hlt | hge
    · omega
    · have hsub := Serial.toNat_wrap_sub z hge (by omega)
      rw [BitVec.toInt_eq_toNat_of_lt (by omega), hsub] at hclose
      omega
  rw [fresh, h.cum, h.highestMap, h.highestNrMap, h.held] at hf
  exact { h with
    lag_map := hlag _ h.lag_map (hf _ List.mem_cons_self)
    lag_nrMap := hlag _ h.lag_nrMap (hf _ (.tail _ List.mem_cons_self))
    lag_held := fun n hn => hlag n (h.lag_held n hn)
      (hf _ (.tail _ (.tail _ (List.mem_map_of_mem hn)))) }

/-- **What the receiver does by itself.** -/
theorem quiet (h : Rep near z a r) (hf : fresh a) {drain : Bool} {c : Choice}
    (hc : c.quiet = true) (he : exec drain a c = some a') : ∃ r', Rep near z a' r' ∧ r.Same r' := by
  have hclose := h.of_fresh hf
  cases c with
  | data => cases hc
  | forwardTsn => cases hc
  | handOn tsn =>
    have hready : [tsn].foldlM (handOn drain) a = some a' := by simpa [exec] using he
    obtain ⟨m, m', hrep⟩ := hclose.handOn_all (by decide) drain hready
    exact ⟨_, hrep.mono (by decide), rfl, rfl, Nat.le_refl _⟩
  | release tsn =>
    obtain ⟨-, he⟩ := Option.ite_none_right_eq_some.mp he
    cases he
    obtain ⟨held, hrep⟩ := h.release tsn
    exact ⟨_, hrep, rfl, rfl, Nat.le_refl _⟩
  | slide =>
    cases he
    obtain ⟨r', hs⟩ := hclose.settled (by decide)
    exact ⟨r', hs.rep.mono (by decide), hs.accepted, hs.skipped, hs.cum_le⟩

/-- **What a step does.** -/
theorem step (h : Rep near z a r) (hf : fresh a) (hskipped : r.skipped ≤ r.cum) {drain : Bool}
    {c : Choice} (he : exec drain a c = some a') : ∃ r', Rep near z a' r' ∧ r.Later r' := by
  cases hc : c.quiet with
  | true =>
    obtain ⟨r', hrep, hsame⟩ := h.quiet hf hc he
    exact ⟨r', hrep, hsame.later⟩
  | false =>
    have hclose := h.of_fresh hf
    cases c with
    | data memory tsn fate =>
      obtain ⟨r', hrep, hlater⟩ := hclose.data (by decide) he
      exact ⟨r', hrep.mono (by decide), hlater⟩
    | forwardTsn newCumTsn space ready =>
      obtain ⟨hspace, he⟩ := Option.ite_none_right_eq_some.mp he
      obtain ⟨r', hrep, hlater⟩ := hclose.forwardTsn (by decide) hspace hskipped he
      exact ⟨r', hrep.mono (by decide), hlater⟩
    | handOn => cases hc
    | release => cases hc
    | slide => cases hc

/-- A chunk arrives that is less than half of all TSNs away. -/
theorem data_at (h : Rep near z a r) (hf : fresh a) (hpos : 0 < n) (hn : n < r.cum + 2 ^ 31)
    (hn' : r.cum < n + 2 ^ 31) {drain memory : Bool} {fate : Fate}
    (he : exec drain a (.data memory (wrap z n) fate) = some a') :
    (¬ Takes a r memory fate n ∧ Rep near z a' r) ∨
      (Takes a r memory fate n ∧ ∃ r', Rep near z a' r' ∧ r'.skipped = r.skipped ∧
        r.cum ≤ r'.cum ∧ r'.accepted = n :: r.accepted) := by
  by_cases hcum : n ≤ r.cum
  · -- it is a duplicate
    have hbehind : tsnGe a.cumulativeTsn (wrap z n) = true := by
      rw [h.cum, tsnGe_wrap _ hn' hn]
      exact decide_eq_true hcum
    rw [exec, sctpProcessADataChunk, if_pos hbehind] at he
    cases he
    exact .inl ⟨fun ht => ht.new (h.contiguous n hpos hcum), h.recordDup _⟩
  · have hbase := h.base_le
    obtain ⟨i, rfl⟩ := Nat.exists_eq_add_of_le (show r.base ≤ n by omega)
    rcases (h.of_fresh hf).data_ahead (by decide) (Nat.lt_of_not_le hcum) hn he with
      ⟨hnot, hrep⟩ | ⟨htakes, r', htook⟩
    · exact .inl ⟨hnot, hrep.mono (by decide)⟩
    · exact .inr ⟨htakes, r', htook.rep.mono (by decide), htook.skipped, htook.cum_le,
        htook.accepted⟩

theorem init (initialTsn : Tsn) : Rep near (initialTsn - 1) (sctpProcessInit initialTsn)
    { accepted := [], held := [], skipped := 0, base := 1, cum := 0, highestMap := 0
      highestNrMap := 0 } where
  size_eq := rfl
  size_le := Nat.le_trans (Nat.le_of_eq (Bitmap.length_empty _)) (by decide)
  base := by rw [Serial.wrap_succ, Serial.wrap_zero, BitVec.sub_add_cancel]; rfl
  cum := (Serial.wrap_zero _).symm
  highestMap := (Serial.wrap_zero _).symm
  highestNrMap := (Serial.wrap_zero _).symm
  accepted := rfl
  held := rfl
  skipped := rfl
  base_pos := Nat.one_pos
  base_le := Nat.le_refl 1
  highestMap_lt := Nat.lt_add_right _ Nat.one_pos
  highestNrMap_lt := Nat.lt_add_right _ Nat.one_pos
  cum_le := .inl (Nat.le_refl 0)
  present := fun i _ => by
    rw [Asoc.isPresent, sctpProcessInit, Bitmap.test_empty, Bool.or_self]
    refine iff_of_false Bool.false_ne_true ?_
    rintro ⟨hpos, hle | hmem⟩
    · exact Nat.not_lt_of_le hle hpos
    · cases hmem
  window := fun n hn => absurd hn fun ⟨hpos, hor⟩ =>
    hor.elim (fun hle => Nat.not_lt_of_le hle hpos) (fun hmem => List.not_mem_nil hmem)
  contiguous := fun n hpos hle => absurd hpos (Nat.not_lt_of_le hle)
  disjoint := fun i _ => Bitmap.test_empty ..
  map_le := fun i hi => absurd hi (by simp [sctpProcessInit])
  nrMap_le := fun i hi => absurd hi (by simp [sctpProcessInit])
  nodup := .nil
  accepted_pos := fun n hn => absurd hn List.not_mem_nil
  held_sub := fun n hn => absurd hn List.not_mem_nil
  lag_map := by decide
  lag_nrMap := by decide
  lag_held := fun n hn => absurd hn List.not_mem_nil

end Rep

/-! ## Every run -/

/-- In every run in which no TSN falls far behind, the state has its numbers. -/
theorem exists_rep {drain : Bool} {initialTsn : Tsn} {a : Asoc}
    (h : ((receiver drain initialTsn).restrict fun a _ => fresh a).Reachable a) :
    ∃ r, Rep near (initialTsn - 1) a r ∧ r.skipped ≤ r.cum := by
  refine Machine.Reachable.restrict_invariant
    (P := fun a => ∃ r, Rep near (initialTsn - 1) a r ∧ r.skipped ≤ r.cum) ?_ ?_ h
  · rintro a rfl
    exact ⟨_, Rep.init initialTsn, Nat.le_refl 0⟩
  · rintro a c a' ⟨r, hrep, hskipped⟩ hf he
    obtain ⟨r', hrep', hlater⟩ := hrep.step hf hskipped he
    exact ⟨r', hrep', hlater.skipped_le hskipped⟩

/-- Chunks before and after the TSNs wrap around, of which the one with TSN 0 is missing. -/
def outOfOrder : List Choice := [
  .data true 0xffffffff#32 .express, .data true 1#32 (.queue []), .data true 0xfffffffe#32 .express,
  .data true 0xffffffff#32 .express, .slide]

end Sctp4Nat.MappingArray
