import Sctp4Nat.Usrsctp.Sack

/-! # What the sender learns from a SACK

The cumulative TSN of a SACK is exact, and its gap ack blocks are the chunks that were received
after it (`Rep.sent`). A missing chunk is never reported; when there is room, all others are, unless
the TSNs wrap around between the base of the arrays and the highest TSN: then none is. -/

namespace Sctp4Nat.MappingArray

open Serial (wrap)

/-! ## The bits that are reported -/

variable {L k siz : Nat} {z : Tsn} {a : Asoc} {r : Numbers}

theorem getLsbD_mask (k : Nat) {i : Nat} (hi : i < 8) :
    ((BitVec.allOnes 32 <<< k).setWidth 8).getLsbD i = decide (k ≤ i) := by
  rw [BitVec.getLsbD_setWidth, BitVec.getLsbD_shiftLeft, BitVec.getLsbD_allOnes]
  by_cases hk : k ≤ i
  · simp [hi, hk, Nat.not_lt_of_le hk]
    omega
  · simp [hk, Nat.lt_of_not_le hk]

/-- The bits that are reported are those of the arrays after the cumulative TSN. -/
theorem getElem?_bits_sackMap (hlen : a.nrMappingArray.length = a.size) (hsiz : siz ≤ a.size)
    (hk : k < 8) (i : Nat) :
    (sackMap a siz (1 - k)).bits[i]? = some true ↔
      i < 8 * siz ∧ k ≤ i ∧ a.isPresent i = true := by
  have hunion : ∀ j, Bitmap.test ((a.mappingArray.union a.nrMappingArray).take siz) j =
      (decide (j < 8 * siz) && a.isPresent j) := fun j => by
    rw [Bitmap.test_take, Bitmap.test_union hlen, Asoc.isPresent]
  have hlength : ((a.mappingArray.union a.nrMappingArray).take siz).length = siz := by
    rw [List.length_take, Bitmap.length_union hlen]
    exact Nat.min_eq_left hsiz
  have hshift : (1 - (1 - (k : Int))).toNat = k := by omega
  rw [Bitmap.getElem?_bits, sackMap, hshift]
  cases hbytes : (a.mappingArray.union a.nrMappingArray).take siz with
  | nil =>
    rw [hbytes] at hlength
    subst hlength
    simp
  | cons val rest =>
    rw [hbytes] at hlength hunion
    have hval := hunion i
    rw [Bitmap.test_cons] at hval
    rw [List.length_cons] at hlength
    simp only [List.length_cons, hlength, Bitmap.test_cons]
    by_cases hi : i < 8 * siz
    · rw [if_pos hi, Option.some.injEq]
      by_cases h8 : i < 8
      · rw [if_pos h8] at hval ⊢
        rw [BitVec.getLsbD_and, hval, getLsbD_mask k h8, decide_eq_true hi, Bool.true_and,
          Bool.and_eq_true, decide_eq_true_eq]
        exact ⟨fun h => ⟨hi, h.2, h.1⟩, fun h => ⟨h.2.2, h.2.1⟩⟩
      · rw [if_neg h8] at hval ⊢
        rw [hval, decide_eq_true hi, Bool.true_and]
        exact ⟨fun h => ⟨hi, by omega, h⟩, fun h => h.2.2⟩
    · rw [if_neg hi]
      simp [hi]

/-- The blocks as intervals of numbers. -/
def intervals (blocks : List GapAckBlock) : List (Nat × Nat) :=
  blocks.map fun block => (block.1.toNat, block.2.toNat)

theorem toNat_blockOf {r : Nat × Nat} (hk : k ≤ r.1) (hr : r.1 ≤ r.2) (hlt : r.2 < 2 ^ 15) :
    ((blockOf (1 - k) r).1.toNat, (blockOf (1 - k) r).2.toNat) = moveBack k r := by
  simp only [blockOf, moveBack, BitVec.toNat_ofInt, Prod.mk.injEq]
  omega

/-- The runs of a part of the bits are reported at their numbers. -/
theorem intervals_eq {bits bits' : List Bool} (hpre : bits' <+: bits)
    (hbits : ∀ i, bits[i]? = some true → k ≤ i ∧ i < 2 ^ 15) :
    (∀ r ∈ runs 0 bits', k ≤ r.1) ∧
      intervals ((runs 0 bits').map (blockOf (1 - k))) = (runs 0 bits').map (moveBack k) := by
  have hset : ∀ i, Covers (runs 0 bits') i → k ≤ i ∧ i < 2 ^ 15 := fun i hi =>
    hbits i (covers_runs.mp (covers_of_initial hpre hi)).2
  have hmem : ∀ r ∈ runs 0 bits', r.1 ≤ r.2 ∧ k ≤ r.1 ∧ r.2 < 2 ^ 15 := fun r hr => by
    have hle := (apart_runs 0 bits').nonempty r hr
    exact ⟨hle, (hset r.1 ⟨r, hr, Nat.le_refl _, hle⟩).1, (hset r.2 ⟨r, hr, hle, Nat.le_refl _⟩).2⟩
  refine ⟨fun r hr => (hmem r hr).2.1, ?_⟩
  rw [intervals, List.map_map]
  refine List.map_congr_left fun r hr => ?_
  obtain ⟨hle, hk, hlt⟩ := hmem r hr
  exact toNat_blockOf hk hle hlt

namespace Rep

theorem offset_eq (h : Rep L z a r) (hcum : r.cum + 1 < r.base + 8) :
    (if tsnGt a.mappingArrayBaseTsn a.cumulativeTsn then 1
      else (a.mappingArrayBaseTsn - a.cumulativeTsn).toInt) = 1 - (r.cum + 1 - r.base : Nat) := by
  have hbase := h.base_le
  rw [h.base, h.cum, tsnGt_wrap z (by omega) (by omega)]
  by_cases hlt : r.cum < r.base
  · rw [decide_eq_true hlt, if_pos rfl, show r.cum + 1 - r.base = 0 by omega]
    rfl
  · have hsub := Serial.toNat_wrap_sub z (Nat.le_of_not_lt hlt) (by omega)
    have hneg : wrap z r.base - wrap z r.cum = -(wrap z r.cum - wrap z r.base) := by
      rw [BitVec.neg_sub, BitVec.add_comm, BitVec.sub_eq_add_neg]
    rw [decide_eq_false hlt, if_neg Bool.false_ne_true, hneg, BitVec.toInt_eq_toNat_cond,
      BitVec.toNat_neg, hsub]
    split <;> omega

theorem highestTsn_eq' (h : Rep L z a r) (hL : L ≤ near) :
    (if tsnGt a.highestTsnInsideMap a.highestTsnInsideNrMap then a.highestTsnInsideMap
      else a.highestTsnInsideNrMap) = wrap z (max r.highestMap r.highestNrMap) := by
  rw [Nat.max_comm]
  exact h.swap.highestTsn_eq hL

/-- The bytes up to the highest TSN; none when it is numerically before the base. -/
theorem sackSize_eq {highest base : Nat} (h : base ≤ highest) (hlt : highest < base + 2 ^ 14) :
    sackSize (wrap z highest) (wrap z base) =
      if wrap z base < wrap z highest then (highest - base) / 8 + 1 else 0 := by
  rw [sackSize]
  split
  · have hsub := Serial.toNat_wrap_sub z h (by omega)
    rw [BitVec.toNat_add, BitVec.toNat_add, hsub]
    change ((highest - base + 1) % 2 ^ 32 + 7) % 2 ^ 32 / 8 = _
    omega
  · have hseven : maxTsn - wrap z highest + 1 + wrap z highest + 7 = 7#32 := by
      simp only [maxTsn]
      bv_omega
    rw [hseven]
    rfl

/-- What the gap ack blocks report. -/
structure Acks (space : Nat) (a : Asoc) (r : Numbers) (g : GapAck) : Prop where
  apart : Apart (intervals g.blocks.reverse)
  sound : ∀ x, Covers (intervals g.blocks.reverse) x → 0 < x ∧ r.Has (r.cum + x)
  complete : g.limitReached = false → a.mappingArrayBaseTsn < a.highestTsn →
    ∀ x, 0 < x → r.Has (r.cum + x) → Covers (intervals g.blocks.reverse) x
  none : ¬ a.mappingArrayBaseTsn < a.highestTsn → g.blocks = []
  full : g.limitReached = true → g.isFull space = true

theorem acks_nil (space : Nat) (a : Asoc) (r : Numbers)
    (hcomplete : a.mappingArrayBaseTsn < a.highestTsn → ∀ x, 0 < x → ¬ r.Has (r.cum + x)) :
    Acks space a r { blocks := [], start := 0, mergeable := false, limitReached := false } where
  apart := ⟨fun _ hr => absurd hr List.not_mem_nil, .nil⟩
  sound := fun _ hx => absurd hx not_covers_nil
  complete := fun _ hlt x hx hhas => absurd hhas (hcomplete hlt x hx)
  none := fun _ => rfl
  full := fun hl => absurd hl Bool.false_ne_true

theorem acks (h : Rep L z a r) (hL : L ≤ near) (hcum : r.cum + 1 < r.base + 8) (space : Nat) :
    Acks space a r (gapAcks space a) := by
  have hbits := h.bits_le
  have hbase := h.base_le
  have hmap := h.highestMap_lt
  have hnrMap := h.highestNrMap_lt
  have hmax : max r.highestMap r.highestNrMap < r.base + 8 * a.size := Nat.max_lt.mpr ⟨hmap, hnrMap⟩
  have hhighest := h.highestTsn_eq hL
  have hle : ∀ n, r.Has n → r.base ≤ n → n ≤ max r.highestMap r.highestNrMap := fun n hn hle => by
    have := h.le_highest hn hle
    omega
  have hgt : tsnGt (wrap z (max r.highestMap r.highestNrMap)) a.cumulativeTsn =
      decide (r.cum < max r.highestMap r.highestNrMap) := by
    have hlag := h.lag_map
    simp only [near] at hL
    rw [h.cum, tsnGt_wrap z (by omega) (by omega)]
  simp only [gapAcks, h.highestTsn_eq' hL, h.offset_eq hcum, hgt]
  generalize max r.highestMap r.highestNrMap = highest at *
  by_cases hgaps : r.cum < highest
  case neg =>
    rw [decide_eq_false hgaps, if_neg Bool.false_ne_true]
    refine acks_nil space a r fun _ x hx hhas => ?_
    have := hle _ hhas (by omega)
    omega
  rw [decide_eq_true hgaps, if_pos rfl, h.base, sackSize_eq (by omega) (by omega)]
  by_cases hlt : wrap z r.base < wrap z highest
  case neg =>
    rw [if_neg hlt]
    refine acks_nil space a r fun hlt' => ?_
    rw [h.base, hhighest] at hlt'
    exact absurd hlt' hlt
  rw [if_pos hlt]
  generalize hk : r.cum + 1 - r.base = k at *
  generalize hsiz : (highest - r.base) / 8 + 1 = siz at *
  have hset : ∀ i, (sackMap a siz (1 - k)).bits[i]? = some true ↔
      i < 8 * siz ∧ k ≤ i ∧ a.isPresent i = true :=
    getElem?_bits_sackMap h.size_eq (by omega) (by omega)
  have hbuilt : Built (1 - k) []
    { blocks := [], start := 0, mergeable := false, limitReached := false } := ⟨rfl, by simp, rfl⟩
  obtain ⟨bits', hpre, hbuilding, hall⟩ := hbuilt.addBytes space (sackMap a siz (1 - k))
  rw [List.nil_append] at hpre hall
  rw [List.length_nil, Nat.cast_zero, Int.add_zero] at hbuilding hall
  generalize addBytes space (1 - k) (sackMap a siz (1 - k)) _ = g at *
  obtain ⟨hmem, heq⟩ := intervals_eq hpre fun i hi => by
    have := (hset i).mp hi
    exact ⟨this.2.1, by omega⟩
  have hinit : intervals g.blocks.reverse <+: (runs 0 bits').map (moveBack k) :=
    heq ▸ hbuilding.prefix'.map _
  exact
    { apart := .of_initial hinit ((apart_runs 0 bits').map_moveBack hmem)
      sound := fun x hx => by
        obtain ⟨hpos, hcovers⟩ := (covers_map_moveBack hmem).mp (Covers.of_initial hinit hx)
        obtain ⟨hi, -, hpresent⟩ := (hset _).mp (covers_runs.mp (covers_of_initial hpre hcovers)).2
        have hhas := (h.present _ (by omega)).mp hpresent
        rw [show r.base + (x + k - 1 - 0) = r.cum + x by omega] at hhas
        exact ⟨hpos, hhas⟩
      complete := fun hl _ x hpos hhas => by
        rw [(hbuilding.built hl).blocks, heq]
        refine (covers_map_moveBack hmem).mpr ⟨hpos, covers_runs.mpr ⟨Nat.zero_le _, ?_⟩⟩
        have hlast := hle _ hhas (by omega)
        rw [hall hl, hset]
        refine ⟨by omega, by omega, (h.present _ (by omega)).mpr ?_⟩
        rwa [show r.base + (x + k - 1 - 0) = r.cum + x by omega]
      none := fun hnot => absurd hlt (by rwa [h.base, hhighest] at hnot)
      full := hbuilding.full }

/-- The SACK that a receiver sends; `a'` is its state afterwards. -/
structure Sent (space : Nat) (z : Tsn) (a' : Asoc) (r : Numbers) (cum : Nat) (sack : Sack) :
    Prop where
  cumTsnAck : sack.cumTsnAck = wrap z cum
  upTo : ∀ n, 0 < n → n ≤ cum → r.Has n
  next : ¬ r.Has (cum + 1)
  apart : Apart (intervals sack.gapAckBlks)
  sound : ∀ x, Covers (intervals sack.gapAckBlks) x → 0 < x ∧ r.Has (cum + x)
  complete : sizeofSackChunk + sizeofGapAckBlock * (sack.gapAckBlks.length + 1) ≤ space →
    a'.mappingArrayBaseTsn < a'.highestTsn →
    ∀ x, 0 < x → r.Has (cum + x) → Covers (intervals sack.gapAckBlks) x
  none : ¬ a'.mappingArrayBaseTsn < a'.highestTsn → sack.gapAckBlks = []

theorem sent (h : Rep L z a r) (hL : 0 < L ∧ L + 2 ^ 14 ≤ near) (space : Nat) :
    ∃ r', Rep (L + 2 ^ 14) z (sctpSendSack space a).2 r' ∧ r'.accepted = r.accepted ∧
      r'.skipped = r.skipped ∧ r.cum ≤ r'.cum ∧
      Sent space z (sctpSendSack space a).2 r r'.cum (sctpSendSack space a).1 := by
  obtain ⟨r', hs⟩ := h.settled ⟨hL.1, Nat.le_trans (Nat.le_add_right ..) hL.2⟩
  have hacks := hs.rep.acks hL.2 hs.cum_lt space
  have hhas : ∀ n, r'.Has n ↔ r.Has n := fun n => by
    rw [Numbers.Has, Numbers.Has, hs.accepted, hs.skipped]
  rw [sctpSendSack]
  generalize sctpSlideMappingArrays a = a₁ at hs hacks ⊢
  generalize gapAcks space a₁ = g at hacks ⊢
  have hsame : ∀ b : Asoc, b = (if g.limitReached then a₁ else { a₁ with dupTsns := [] }) →
      Rep (L + 2 ^ 14) z b r' ∧ b.mappingArrayBaseTsn = a₁.mappingArrayBaseTsn ∧
        b.highestTsn = a₁.highestTsn := by
    rintro b rfl
    split
    · exact ⟨hs.rep, rfl, rfl⟩
    · exact ⟨{ hs.rep with }, rfl, rfl⟩
  obtain ⟨hrep, hbase, hhighest⟩ := hsame _ rfl
  refine ⟨r', hrep, hs.accepted, hs.skipped, hs.cum_le, ?_⟩
  exact
    { cumTsnAck := hs.rep.cum
      upTo := fun n hn hle => (hhas n).mp (hs.rep.contiguous n hn hle)
      next := fun hn => hs.next ((hhas _).mpr hn)
      apart := hacks.apart
      sound := fun x hx => (hacks.sound x hx).imp_right (hhas _).mp
      complete := fun hroom hlt x hx hn => by
        rw [hbase, hhighest] at hlt
        refine hacks.complete ?_ hlt x hx ((hhas _).mpr hn)
        by_contra hl
        have hfull := of_decide_eq_true (hacks.full (by simpa using hl))
        rw [List.length_reverse, Nat.mul_succ, ← Nat.add_assoc] at hroom
        exact Nat.not_lt_of_le hroom hfull
      none := fun hnot => by
        rw [hbase, hhighest] at hnot
        rw [hacks.none hnot]
        rfl }

end Rep

/-! ## Every run -/

/-- **A SACK reports no chunk that is missing.** In every run, its cumulative TSN is exact, and its
gap ack blocks are apart and cover only chunks that were received. -/
theorem sack_sound {drain : Bool} {initialTsn : Tsn} {a : Asoc}
    (h : ((receiver drain initialTsn).restrict fun a _ => fresh a).Reachable a) (hf : fresh a)
    (space : Nat) :
    ∃ r cum, Rep near (initialTsn - 1) a r ∧
      (sctpSendSack space a).1.cumTsnAck = wrap (initialTsn - 1) cum ∧
      (∀ n, 0 < n → n ≤ cum → r.Has n) ∧ ¬ r.Has (cum + 1) ∧
      Apart (intervals (sctpSendSack space a).1.gapAckBlks) ∧
      ∀ x, Covers (intervals (sctpSendSack space a).1.gapAckBlks) x → r.Has (cum + x) := by
  obtain ⟨r, hrep, -⟩ := exists_rep h
  obtain ⟨r', -, -, -, -, hsent⟩ := (hrep.of_fresh hf).sent (by decide) space
  exact ⟨r, r'.cum, hrep, hsent.cumTsnAck, hsent.upTo, hsent.next, hsent.apart,
    fun x hx => (hsent.sound x hx).2⟩

/-- Chunks 5, 7, 8 and 10. -/
def withGaps : List Choice := [
  .data true 7#32 .express, .data true 5#32 (.queue [5#32]), .data true 10#32 (.queue []),
  .data true 8#32 .express]

theorem withGaps_sound : ∃ a : Asoc,
    (sctpSendSack 1000 a).1.gapAckBlks = [(2#16, 3#16), (5#16, 5#16)] ∧ ∃ (r : Numbers) (cum : Nat),
      (sctpSendSack 1000 a).1.cumTsnAck = wrap (5#32 - 1) cum ∧ ¬ r.Has (cum + 1) ∧
      ∀ x, Covers (intervals (sctpSendSack 1000 a).1.gapAckBlks) x → r.Has (cum + x) := by
  obtain ⟨a, h, hf, hgaps⟩ : ∃ a : Asoc,
      ((receiver true 5#32).restrict fun a _ => fresh a).Reachable a ∧ fresh a ∧
        (sctpSendSack 1000 a).1.gapAckBlks = [(2#16, 3#16), (5#16, 5#16)] :=
    Machine.Reachable.exists_run (.init rfl) withGaps (by decide +kernel)
  obtain ⟨r, cum, -, hcum, -, hnext, -, hsound⟩ := sack_sound h hf 1000
  exact ⟨a, hgaps, r, cum, hcum, hnext, hsound⟩

end Sctp4Nat.MappingArray
