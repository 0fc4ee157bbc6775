import Sctp4Nat.Usrsctp.ReceiverRuns
import Sctp4Nat.Usrsctp.SackArray

/-! # What a SACK reports

A SACK has the cumulative TSN and the gap ack blocks, which are built byte by byte from the mapping
arrays: the gaps of a byte are looked up in `sack_array`, and the last block is made longer when a
gap goes on in the next byte. The blocks are the runs of the chunks that were received, up to where
the room ends (`Built.addBytes`). -/

namespace Sctp4Nat.MappingArray

open Serial (wrap)

/-! ## `sctp_send_sack` -/

/-- The start and the end of a gap ack block, relative to the cumulative TSN. -/
abbrev GapAckBlock := BitVec 16 × BitVec 16

structure Sack where
  cumTsnAck : Tsn
  gapAckBlks : List GapAckBlock
  dupTsns : List Tsn

/-- The gap ack blocks before `gap_descriptor`, the last one first, and what is at
`gap_descriptor`. -/
structure GapAck where
  blocks : List GapAckBlock
  start : BitVec 16
  mergeable : Bool
  limitReached : Bool

def sizeofSackChunk : Nat := 16
def sizeofGapAckBlock : Nat := 4

/-- There is no room for one more block. -/
def GapAck.isFull (space : Nat) (g : GapAck) : Bool :=
  sizeofSackChunk + sizeofGapAckBlock * g.blocks.length + sizeofGapAckBlock > space

/-- The loop over the gaps of a byte. -/
def addGaps (space : Nat) (offset : Int) (rightEdge : Bool) : List (Nat × Nat) → GapAck → GapAck
  | [], g => g
  | gap :: gaps, g =>
    let start := if g.mergeable && rightEdge then g.start else BitVec.ofInt 16 (gap.1 + offset)
    let g := { g with
      mergeable := false
      blocks := (start, BitVec.ofInt 16 (gap.2 + offset)) :: g.blocks }
    if g.isFull space then { g with limitReached := true }
    else addGaps space offset rightEdge gaps g

def addByte (space : Nat) (offset : Int) (selector : SackTrack) (g : GapAck) : GapAck :=
  let g :=
    match g.mergeable && selector.rightEdge, g.blocks with
    | true, block :: blocks => { g with blocks, start := block.1 }
    | _, _ => g
  if selector.gaps = [] then { g with mergeable := false }
  else
    let g := addGaps space offset selector.rightEdge selector.gaps g
    if selector.leftEdge then { g with mergeable := true } else g

/-- The loop over the bytes. -/
def addBytes (space : Nat) (offset : Int) : Bitmap → GapAck → GapAck
  | [], g => g
  | val :: rest, g =>
    let g := addByte space offset (sackArray.getD val.toNat ⟨false, false, []⟩) g
    if g.limitReached then g else addBytes space (offset + 8) rest g

/-- The duplicates that there is room for. -/
def addDups (space used : Nat) : List Tsn → List Tsn
  | [] => []
  | tsn :: dups => tsn :: if used + 4 + 4 > space then [] else addDups space (used + 4) dups

/-- The number of bytes up to the highest TSN. -/
def sackSize (highestTsn base : Tsn) : Nat :=
  if base < highestTsn then (highestTsn - base + 1 + 7).toNat / 8
  else (maxTsn - highestTsn + 1 + highestTsn + 7).toNat / 8

/-- The bytes that are reported; in the first, the bits up to the cumulative TSN are cleared. -/
def sackMap (a : Asoc) (siz : Nat) (offset : Int) : Bitmap :=
  match (a.mappingArray.union a.nrMappingArray).take siz with
  | [] => []
  | val :: rest => (val &&& (BitVec.allOnes 32 <<< (1 - offset).toNat).setWidth 8) :: rest

/-- The gap ack blocks that `sctp_send_sack` writes. -/
def gapAcks (space : Nat) (a : Asoc) : GapAck :=
  let highestTsn :=
    if tsnGt a.highestTsnInsideMap a.highestTsnInsideNrMap then a.highestTsnInsideMap
    else a.highestTsnInsideNrMap
  let siz := sackSize highestTsn a.mappingArrayBaseTsn
  let offset :=
    if tsnGt a.mappingArrayBaseTsn a.cumulativeTsn then 1
    else (a.mappingArrayBaseTsn - a.cumulativeTsn).toInt
  let g : GapAck := { blocks := [], start := 0, mergeable := false, limitReached := false }
  if tsnGt highestTsn a.cumulativeTsn then addBytes space offset (sackMap a siz offset) g else g

/-- `sctp_send_sack`: the SACK that is queued, in `space` bytes. -/
def sctpSendSack (space : Nat) (a : Asoc) : Sack × Asoc :=
  let a := sctpSlideMappingArrays a
  let g := gapAcks space a
  let sack : Sack :=
    { cumTsnAck := a.cumulativeTsn
      gapAckBlks := g.blocks.reverse
      dupTsns :=
        if g.limitReached then []
        else addDups space (sizeofSackChunk + sizeofGapAckBlock * g.blocks.length) a.dupTsns }
  (sack, if g.limitReached then a else { a with dupTsns := [] })

/-! ## The blocks that are built -/

variable {space : Nat} {offset : Int} {bits : List Bool} {g : GapAck}

/-- The block of an interval. -/
def blockOf (offset : Int) (r : Nat × Nat) : GapAckBlock :=
  (BitVec.ofInt 16 (r.1 + offset), BitVec.ofInt 16 (r.2 + offset))

/-- Blocks are written one after the other, while there is room. -/
def GapAck.push (space : Nat) : List GapAckBlock → GapAck → GapAck
  | [], g => g
  | block :: blocks, g =>
    let g := { g with mergeable := false, blocks := block :: g.blocks }
    if g.isFull space then { g with limitReached := true } else push space blocks g

theorem addGaps_eq_push (rightEdge : Bool) (gaps : List (Nat × Nat))
    (h : (g.mergeable && rightEdge) = false) :
    addGaps space offset rightEdge gaps g = g.push space (gaps.map (blockOf offset)) := by
  induction gaps generalizing g with
  | nil => rfl
  | cons gap gaps ih =>
    have hrest := ih (g := { g with mergeable := false, blocks := blockOf offset gap :: g.blocks })
      (Bool.false_and _)
    rw [addGaps, h, List.map_cons, GapAck.push, ← hrest]
    rfl

/-- The first gap goes on where the last block ends. -/
theorem addGaps_eq_push_cons (gap : Nat × Nat) (gaps : List (Nat × Nat))
    (h : g.mergeable = true) :
    addGaps space offset true (gap :: gaps) g =
      g.push space ((g.start, (blockOf offset gap).2) :: gaps.map (blockOf offset)) := by
  rw [addGaps, h, GapAck.push]
  refine if_congr Iff.rfl rfl ?_
  exact addGaps_eq_push true gaps rfl

/-- What `push` makes of the blocks: all of them, or a part that leaves no room. -/
structure Pushed (space : Nat) (blocks : List GapAckBlock) (g g' : GapAck) : Prop where
  prefix' : g'.blocks.reverse <+: g.blocks.reverse ++ blocks
  all : g'.limitReached = false → g'.blocks.reverse = g.blocks.reverse ++ blocks
  full : g'.limitReached = true → g'.isFull space = true
  mergeable : blocks ≠ [] → g'.mergeable = false

theorem pushed (blocks : List GapAckBlock) (h : g.limitReached = false) :
    Pushed space blocks g (g.push space blocks) := by
  induction blocks generalizing g with
  | nil =>
    refine ⟨by simp [GapAck.push], fun _ => by simp [GapAck.push], fun hl => ?_, fun hne => ?_⟩
    · exact absurd (h.symm.trans hl) Bool.false_ne_true
    · exact absurd rfl hne
  | cons block blocks ih =>
    rw [GapAck.push]
    simp only
    split
    · rename_i hfull
      refine ⟨?_, fun hl => absurd hl (by simp), fun _ => hfull, fun _ => rfl⟩
      simp only [List.reverse_cons]
      exact (List.prefix_append_right_inj _).mpr ⟨blocks, rfl⟩
    · obtain ⟨hpre, hall, hfull, hmerge⟩ :=
        ih (g := { g with mergeable := false, blocks := block :: g.blocks }) h
      rw [List.reverse_cons, List.append_assoc] at hpre hall
      refine ⟨hpre, hall, hfull, fun _ => ?_⟩
      cases blocks with
      | nil => rfl
      | cons _ _ => exact hmerge (List.cons_ne_nil _ _)

theorem map_blockOf_runs (offset : Int) (n : Nat) (bits : List Bool) :
    (runs 0 bits).map (blockOf (offset + n)) = (runs n bits).map (blockOf offset) := by
  have hadd := runs_add 0 n bits
  rw [Nat.zero_add] at hadd
  rw [hadd, List.map_map]
  refine List.map_congr_left fun r _ => ?_
  simp only [blockOf, Function.comp_apply, Nat.cast_add]
  rw [show (r.1 : Int) + n + offset = r.1 + (offset + n) by omega,
    show (r.2 : Int) + n + offset = r.2 + (offset + n) by omega]

/-- The blocks are the runs of the bits so far. -/
structure Built (offset : Int) (bits : List Bool) (g : GapAck) : Prop where
  blocks : g.blocks.reverse = (runs 0 bits).map (blockOf offset)
  mergeable : g.mergeable = true ↔ bits.getLast? = some true
  room : g.limitReached = false

/-- What becomes of the blocks when there are more bits: the runs of all of them, or, when there is
no room, some of these; the last of which may be cut. -/
structure Building (space : Nat) (offset : Int) (bits : List Bool) (g : GapAck) : Prop where
  prefix' : g.blocks.reverse <+: (runs 0 bits).map (blockOf offset)
  built : g.limitReached = false → Built offset bits g
  full : g.limitReached = true → g.isFull space = true

theorem getLast?_append_bitsOf (bits : List Bool) (val : BitVec 8) :
    (bits ++ Bitmap.bitsOf val).getLast? = some (val.getLsbD 7) := by
  rw [List.getLast?_append]
  rfl

theorem building_of_pushed {val : BitVec 8} {blocks : List GapAckBlock} {g' : GapAck}
    (hp : Pushed space blocks g g') (hne : blocks ≠ [])
    (hall : g.blocks.reverse ++ blocks =
      (runs 0 (bits ++ Bitmap.bitsOf val)).map (blockOf offset)) :
    Building space offset (bits ++ Bitmap.bitsOf val)
      (if val.getLsbD 7 then { g' with mergeable := true } else g') := by
  have hlast := getLast?_append_bitsOf bits val
  cases hedge : val.getLsbD 7 with
  | false =>
    rw [if_neg Bool.false_ne_true]
    refine ⟨hall ▸ hp.prefix', fun hl => ⟨(hp.all hl).trans hall, ?_, hl⟩, hp.full⟩
    rw [hp.mergeable hne, hlast, hedge]
    simp
  | true =>
    rw [if_pos rfl]
    refine ⟨hall ▸ hp.prefix', fun hl => ⟨(hp.all hl).trans hall, ?_, hl⟩, hp.full⟩
    rw [hlast, hedge]
    simp

namespace Built

/-- The gaps of a byte that goes on with the last block. -/
theorem addByte_touch {val : BitVec 8} (h : Built offset (bits ++ [true]) g)
    (hedge : val.getLsbD 0 = true) :
    Building space offset (bits ++ [true] ++ Bitmap.bitsOf val)
      (addByte space (offset + (bits ++ [true]).length)
        ⟨val.getLsbD 0, val.getLsbD 7, runs 0 (Bitmap.bitsOf val)⟩ g) := by
  have hmerge : g.mergeable = true := h.mergeable.mpr (by simp)
  obtain ⟨rest, hval⟩ : ∃ rest, Bitmap.bitsOf val = true :: rest :=
    ⟨_, congrArg (· :: _) hedge⟩
  obtain ⟨rs, lo, hi, rs', hlast, hfirst, hruns⟩ := runs_append_of_touch 0 bits rest
  rw [← hval, Nat.zero_add] at hfirst
  rw [← hval] at hruns
  -- the last block is taken back
  have hblocks : g.blocks =
      blockOf offset (lo, 0 + bits.length) :: (rs.map (blockOf offset)).reverse := by
    have := congrArg List.reverse h.blocks
    simpa [hlast] using this
  obtain ⟨gap, gaps, hgaps⟩ : ∃ gap gaps, runs 0 (Bitmap.bitsOf val) = gap :: gaps := by
    rw [hval]
    obtain ⟨hi, rs, heq⟩ := exists_runs_cons 0 rest
    exact ⟨_, _, heq⟩
  have hmap := map_blockOf_runs offset (bits ++ [true]).length (Bitmap.bitsOf val)
  rw [hgaps, hfirst, List.map_cons, List.map_cons] at hmap
  obtain ⟨hgap, hmap⟩ := List.cons.inj hmap
  rw [addByte, hedge, hmerge, hblocks, hgaps]
  simp only [Bool.and_self, reduceCtorEq, if_false]
  rw [addGaps_eq_push_cons gap gaps, hmap, hgap]
  · refine building_of_pushed (pushed _ h.room) (List.cons_ne_nil _ _) ?_
    rw [hruns, List.reverse_reverse, List.map_append, List.map_cons]
    rfl
  · rfl

/-- The gaps of a byte that does not go on with the last block. -/
theorem addByte_apart {val : BitVec 8} (h : Built offset bits g)
    (hedge : (g.mergeable && val.getLsbD 0) = false) :
    Building space offset (bits ++ Bitmap.bitsOf val)
      (addByte space (offset + bits.length)
        ⟨val.getLsbD 0, val.getLsbD 7, runs 0 (Bitmap.bitsOf val)⟩ g) := by
  have hapart : bits.getLast? = some true → (Bitmap.bitsOf val).head? ≠ some true := by
    intro hlast hfirst
    rw [h.mergeable.mpr hlast, Bool.true_and] at hedge
    have hfirst : some (val.getLsbD 0) = some true := hfirst
    rw [hedge] at hfirst
    cases hfirst
  have hruns := runs_append_of_apart (n := 0) hapart
  rw [Nat.zero_add] at hruns
  have hmap := map_blockOf_runs offset bits.length (Bitmap.bitsOf val)
  rw [addByte]
  simp only [hedge]
  by_cases hgaps : runs 0 (Bitmap.bitsOf val) = []
  · -- the byte is zero
    rw [hgaps, List.map_nil] at hmap
    have hall : g.blocks.reverse =
        (runs 0 (bits ++ Bitmap.bitsOf val)).map (blockOf offset) := by
      rw [hruns, List.map_append, ← hmap, List.append_nil, h.blocks]
    rw [if_pos hgaps]
    refine ⟨hall ▸ List.prefix_rfl, fun hl => ⟨hall, ?_, hl⟩, fun hl => ?_⟩
    · have hclear : val.getLsbD 7 ≠ true := fun h7 => by
        obtain ⟨r, hr, -⟩ : Covers (runs 0 (Bitmap.bitsOf val)) 7 :=
          covers_runs.mpr ⟨Nat.zero_le 7, congrArg some h7⟩
        rw [hgaps] at hr
        cases hr
      rw [getLast?_append_bitsOf]
      simpa using hclear
    · exact absurd (h.room.symm.trans hl) Bool.false_ne_true
  · rw [if_neg hgaps, addGaps_eq_push _ _ hedge, hmap]
    refine building_of_pushed (pushed _ h.room) ?_ ?_
    · rw [← hmap]
      exact fun hnil => hgaps (List.map_eq_nil_iff.mp hnil)
    · rw [hruns, List.map_append, h.blocks]

theorem addByte (h : Built offset bits g) (space : Nat) (val : BitVec 8) :
    Building space offset (bits ++ Bitmap.bitsOf val)
      (MappingArray.addByte space (offset + bits.length)
        (sackArray.getD val.toNat ⟨false, false, []⟩) g) := by
  rw [sackArray_spec]
  cases hedge : g.mergeable && val.getLsbD 0 with
  | false => exact h.addByte_apart hedge
  | true =>
    obtain ⟨hmerge, hedge⟩ := Bool.and_eq_true_iff.mp hedge
    obtain ⟨init, rfl⟩ := List.getLast?_eq_some_iff.mp (h.mergeable.mp hmerge)
    exact h.addByte_touch hedge

/-- **The blocks are the runs of the bits**, as far as there is room. -/
theorem addBytes (h : Built offset bits g) (space : Nat) (m : Bitmap) :
    ∃ bits', bits' <+: bits ++ m.bits ∧
      Building space offset bits' (MappingArray.addBytes space (offset + bits.length) m g) ∧
      ((MappingArray.addBytes space (offset + bits.length) m g).limitReached = false →
        bits' = bits ++ m.bits) := by
  induction m generalizing bits g with
  | nil =>
    refine ⟨bits, List.prefix_append .., ⟨?_, fun _ => h, fun hl => ?_⟩, fun _ => ?_⟩
    · exact h.blocks ▸ List.prefix_rfl
    · exact absurd (h.room.symm.trans hl) Bool.false_ne_true
    · exact (List.append_nil bits).symm
  | cons val rest ih =>
    have hbyte := h.addByte space val
    have hbits : bits ++ Bitmap.bits (val :: rest) =
        bits ++ Bitmap.bitsOf val ++ Bitmap.bits rest := by
      rw [Bitmap.bits, List.flatMap_cons, ← List.append_assoc]
      rfl
    rw [MappingArray.addBytes, hbits]
    generalize MappingArray.addByte space (offset + bits.length)
      (sackArray.getD val.toNat ⟨false, false, []⟩) g = g' at hbyte
    cases hl : g'.limitReached with
    | true =>
      simp only [hl, if_true]
      exact ⟨_, List.prefix_append .., hbyte, fun hl' => absurd hl'.symm Bool.false_ne_true⟩
    | false =>
      have hnext := ih (hbyte.built hl)
      rw [List.length_append, Bitmap.length_bitsOf, Nat.cast_add, ← Int.add_assoc] at hnext
      simp only [Bool.false_eq_true, if_false]
      exact hnext

end Built

end Sctp4Nat.MappingArray
