import Sctp4Nat.Machine.Basic
import Sctp4Nat.Machine.Bitmap
import Sctp4Nat.Machine.Serial

/-! # The mapping arrays

A receiver of `DATA` chunks notes in two bitmaps which TSNs it has got: `nr_mapping_array` has the
chunks that it has handed on, `mapping_array` those that are still on the queues of the streams and
that it may give up. Both start at `mapping_array_base_tsn` and are moved on behind the cumulative
TSN. What the streams make of a chunk is a choice here (`Fate`), and so is when they hand it on.

In every run, with TSNs that come in any order, any number of times and wrap around, the arrays have
exactly the chunks that were accepted, no chunk is accepted twice, and no access is outside of an
array. -/

namespace Sctp4Nat.MappingArray

abbrev Tsn := BitVec 32

def maxTsn : Tsn := 0xffffffff#32
def sctpMappingArray : Nat := 512
def sctpInitialMappingArray : Nat := 16
def sctpMappingArrayIncr : Nat := 32
def sctpMaxDupTsns : Nat := 20

/-- `SCTP_TSN_GT`. -/
def tsnGt (a b : Tsn) : Bool := Serial.gt a b

/-- `SCTP_TSN_GE`. -/
def tsnGe (a b : Tsn) : Bool := Serial.ge a b

/-- `SCTP_CALC_TSN_TO_GAP`. -/
def calcTsnToGap (tsn mappingTsn : Tsn) : Nat :=
  if mappingTsn ≤ tsn then (tsn - mappingTsn).toNat else (maxTsn - mappingTsn + tsn + 1).toNat

/-- The number of set bits of a byte before the first that is not set. -/
def sctpMapLookupTab : List Nat := [
  0, 1, 0, 2, 0, 1, 0, 3, 0, 1, 0, 2, 0, 1, 0, 4, 0, 1, 0, 2, 0, 1, 0, 3, 0, 1, 0, 2, 0, 1, 0, 5,
  0, 1, 0, 2, 0, 1, 0, 3, 0, 1, 0, 2, 0, 1, 0, 4, 0, 1, 0, 2, 0, 1, 0, 3, 0, 1, 0, 2, 0, 1, 0, 6,
  0, 1, 0, 2, 0, 1, 0, 3, 0, 1, 0, 2, 0, 1, 0, 4, 0, 1, 0, 2, 0, 1, 0, 3, 0, 1, 0, 2, 0, 1, 0, 5,
  0, 1, 0, 2, 0, 1, 0, 3, 0, 1, 0, 2, 0, 1, 0, 4, 0, 1, 0, 2, 0, 1, 0, 3, 0, 1, 0, 2, 0, 1, 0, 7,
  0, 1, 0, 2, 0, 1, 0, 3, 0, 1, 0, 2, 0, 1, 0, 4, 0, 1, 0, 2, 0, 1, 0, 3, 0, 1, 0, 2, 0, 1, 0, 5,
  0, 1, 0, 2, 0, 1, 0, 3, 0, 1, 0, 2, 0, 1, 0, 4, 0, 1, 0, 2, 0, 1, 0, 3, 0, 1, 0, 2, 0, 1, 0, 6,
  0, 1, 0, 2, 0, 1, 0, 3, 0, 1, 0, 2, 0, 1, 0, 4, 0, 1, 0, 2, 0, 1, 0, 3, 0, 1, 0, 2, 0, 1, 0, 5,
  0, 1, 0, 2, 0, 1, 0, 3, 0, 1, 0, 2, 0, 1, 0, 4, 0, 1, 0, 2, 0, 1, 0, 3, 0, 1, 0, 2, 0, 1, 0, 8]

structure Asoc where
  mappingArray : Bitmap
  nrMappingArray : Bitmap
  mappingArrayBaseTsn : Tsn
  cumulativeTsn : Tsn
  highestTsnInsideMap : Tsn
  highestTsnInsideNrMap : Tsn
  dupTsns : List Tsn
  /-- The TSNs of the chunks on the queues of the streams. -/
  held : List Tsn
  /-- The chunks that were accepted, the newest first. -/
  accepted : List Tsn
  /-- Up to here the last `FORWARD-TSN` skipped what was missing. -/
  skipped : Option Tsn

/-- What becomes of a chunk that is new: the association is aborted; the chunk is for a stream that
does not exist; it is dropped, for want of room or memory; it goes to the reader at once; or it
goes to the queue of its stream, which hands on the chunks of `ready`. -/
inductive Fate
  | abort
  | badStream
  | drop
  | express
  | queue (ready : List Tsn)

namespace Asoc

variable (a : Asoc)

/-- `mapping_array_size`. -/
def size : Nat := a.mappingArray.length

def isPresent (gap : Nat) : Bool := a.mappingArray.test gap || a.nrMappingArray.test gap

def highestTsn : Tsn :=
  if tsnGt a.highestTsnInsideNrMap a.highestTsnInsideMap then a.highestTsnInsideNrMap
  else a.highestTsnInsideMap

/-- A duplicate is noted for the next SACK. -/
def recordDup (tsn : Tsn) : Asoc :=
  if a.dupTsns.length < sctpMaxDupTsns then { a with dupTsns := a.dupTsns ++ [tsn] } else a

def expandMappingArray (needed : Nat) : Asoc :=
  let more := Bitmap.empty ((needed + 7) / 8 + sctpMappingArrayIncr)
  { a with
    mappingArray := a.mappingArray ++ more
    nrMappingArray := a.nrMappingArray ++ more }

def markMap (tsn : Tsn) (gap : Nat) : Asoc :=
  { a with
    mappingArray := a.mappingArray.insert gap
    highestTsnInsideMap :=
      if tsnGt tsn a.highestTsnInsideMap then tsn else a.highestTsnInsideMap }

def markNrMap (tsn : Tsn) (gap : Nat) : Asoc :=
  { a with
    nrMappingArray := a.nrMappingArray.insert gap
    highestTsnInsideNrMap :=
      if tsnGt tsn a.highestTsnInsideNrMap then tsn else a.highestTsnInsideNrMap }

/-- The chunk of this TSN is accepted. -/
def accept (tsn : Tsn) : Asoc := { a with accepted := tsn :: a.accepted }

def updateCumAck (tsn : Tsn) : Asoc :=
  if tsn = a.cumulativeTsn + 1 then { a with cumulativeTsn := tsn } else a

/-- The highest TSN from `i` down to the base that is in `mapping_array`, in at most `fuel`
steps; the TSN before the base if there is none. -/
def backDown (i : Tsn) : Nat → Tsn
  | 0 => a.mappingArrayBaseTsn - 1
  | fuel + 1 =>
    if tsnGe i a.mappingArrayBaseTsn then
      if a.mappingArray.test (calcTsnToGap i a.mappingArrayBaseTsn) then i
      else backDown (i - 1) fuel
    else a.mappingArrayBaseTsn - 1

end Asoc

/-- `sctp_mark_non_revokable`; `drain` is `sctp_do_drain`. -/
def sctpMarkNonRevokable (drain : Bool) (tsn : Tsn) (a : Asoc) : Asoc :=
  if !drain then a
  else if tsnGt (a.cumulativeTsn + 1) tsn then a
  else
    let gap := calcTsnToGap tsn a.mappingArrayBaseTsn
    let inR := a.mappingArray.test gap
    let inNr := a.nrMappingArray.test gap
    let a := { a with
      nrMappingArray := if inNr then a.nrMappingArray else a.nrMappingArray.insert gap
      mappingArray := if inR then a.mappingArray.erase gap else a.mappingArray
      highestTsnInsideNrMap :=
        if tsnGt tsn a.highestTsnInsideNrMap then tsn else a.highestTsnInsideNrMap }
    if tsn = a.highestTsnInsideMap then { a with highestTsnInsideMap := a.backDown (tsn - 1) gap }
    else a

/-- The chunks that a queue hands on. -/
def handOn (drain : Bool) (a : Asoc) (tsn : Tsn) : Option Asoc :=
  if tsn ∈ a.held then some (sctpMarkNonRevokable drain tsn a) else none

/-- What `sctp_process_a_data_chunk` does with a chunk that is new, of bit `gap`; `none` when the
association is aborted. -/
def takeChunk (drain : Bool) (tsn : Tsn) (gap : Nat) (a : Asoc) : Fate → Option Asoc
  | .abort => none
  | .drop => some a
  | .badStream | .express => some (((a.accept tsn).markNrMap tsn gap).updateCumAck tsn)
  | .queue ready =>
    let a := a.accept tsn
    let a := if drain then a.markMap tsn gap else a.markNrMap tsn gap
    (ready.foldlM (handOn drain) { a with held := tsn :: a.held }).map (·.updateCumAck tsn)

/-- `sctp_process_a_data_chunk`, as far as it is about the mapping arrays. `memory` is whether the
arrays can grow. -/
def sctpProcessADataChunk (drain memory : Bool) (tsn : Tsn) (fate : Fate) (a : Asoc) :
    Option Asoc :=
  if tsnGe a.cumulativeTsn tsn then some (a.recordDup tsn)
  else
    let gap := calcTsnToGap tsn a.mappingArrayBaseTsn
    if gap ≥ sctpMappingArray * 8 then some a
    else if gap ≥ a.size * 8 && !memory then some a
    else
      let a := if gap ≥ a.size * 8 then a.expandMappingArray gap else a
      if a.isPresent gap then some (a.recordDup tsn) else takeChunk drain tsn gap a fate

/-- The loop of `sctp_slide_mapping_arrays` over the bytes: how many are full, and the number of
bits up to the first that is not set. -/
def scan : Bitmap → Nat × Nat
  | [] => (0, 0)
  | val :: rest =>
    if val = 0xff#8 then ((scan rest).1 + 1, (scan rest).2 + 8)
    else (0, sctpMapLookupTab.getD val.toNat 0)

/-- Both arrays are cleared up to the byte of the bit `at`. -/
def Asoc.clear (a : Asoc) (pos : Nat) : Asoc :=
  let clr := min ((pos + 7) / 8) a.size
  { a with
    mappingArray := Bitmap.empty clr ++ a.mappingArray.drop clr
    nrMappingArray := Bitmap.empty clr ++ a.nrMappingArray.drop clr
    mappingArrayBaseTsn := a.cumulativeTsn + 1
    highestTsnInsideMap := a.cumulativeTsn
    highestTsnInsideNrMap := a.cumulativeTsn }

/-- The `distance` bytes from `slideFrom` on move to the start of the arrays. -/
def Asoc.slide (a : Asoc) (slideFrom distance : Nat) : Asoc :=
  let base := a.mappingArrayBaseTsn
  let down : Bitmap → Bitmap := fun m =>
    (m.drop slideFrom).take distance ++ Bitmap.empty (a.size - distance)
  let up : Tsn → Tsn := fun highest =>
    if highest + 1 = base then highest + BitVec.ofNat 32 (slideFrom * 8) else highest
  { a with
    mappingArray := down a.mappingArray
    nrMappingArray := down a.nrMappingArray
    highestTsnInsideMap := up a.highestTsnInsideMap
    highestTsnInsideNrMap := up a.highestTsnInsideNrMap
    mappingArrayBaseTsn := base + BitVec.ofNat 32 (slideFrom * 8) }

def sctpSlideMappingArrays (a : Asoc) : Asoc :=
  let (slideFrom, pos) := scan (a.nrMappingArray.union a.mappingArray)
  let a := { a with cumulativeTsn := a.mappingArrayBaseTsn + BitVec.ofNat 32 pos - 1 }
  let a :=
    if tsnGt a.cumulativeTsn a.highestTsnInsideMap && tsnGt a.cumulativeTsn a.highestTsnInsideNrMap
    then { a with
      highestTsnInsideMap := a.cumulativeTsn
      highestTsnInsideNrMap := a.cumulativeTsn }
    else a
  if a.cumulativeTsn = a.highestTsn && pos ≥ 8 then a.clear pos
  else if pos ≥ 8 then
    let lgap := calcTsnToGap a.highestTsn a.mappingArrayBaseTsn
    let slideEnd := lgap / 8
    if slideEnd < slideFrom then a
    else
      let slideEnd := min slideEnd a.size
      let distance := slideEnd - slideFrom + 1
      if distance + slideFrom > a.size then a else a.slide slideFrom distance
  else a

/-- The TSNs up to the gap that are in neither array are put in `nr_mapping_array`. -/
def Asoc.fill (a : Asoc) : Nat → Asoc
  | 0 => a
  | i + 1 =>
    let a := a.fill i
    if a.isPresent i then a else a.markNrMap (a.mappingArrayBaseTsn + BitVec.ofNat 32 i) i

/-- `sctp_handle_forward_tsn`, up to where it clears up the streams, which hand on the chunks of
`ready`; `space` is what `sctp_sbspace` returns. -/
def sctpHandleForwardTsn (drain : Bool) (newCumTsn : Tsn) (space : Nat) (ready : List Tsn)
    (a : Asoc) : Option Asoc :=
  if tsnGe a.cumulativeTsn newCumTsn then some a
  else
    let gap := calcTsnToGap newCumTsn a.mappingArrayBaseTsn
    let a := { a with cumulativeTsn := newCumTsn, skipped := some newCumTsn }
    if gap ≥ a.size * 8 then
      if gap > space then none
      else
        (ready.foldlM (handOn drain) { a with
          mappingArray := Bitmap.empty a.size
          nrMappingArray := Bitmap.empty a.size
          mappingArrayBaseTsn := newCumTsn + 1
          highestTsnInsideMap := newCumTsn
          highestTsnInsideNrMap := newCumTsn }).map sctpSlideMappingArrays
    else (ready.foldlM (handOn drain) (a.fill (gap + 1))).map sctpSlideMappingArrays

/-- A `DATA` chunk or a `FORWARD-TSN` chunk arrives; a queue hands on a chunk or gives it away; the
arrays are moved on, as `sctp_sack_check` does. -/
inductive Choice
  | data (memory : Bool) (tsn : Tsn) (fate : Fate)
  | forwardTsn (newCumTsn : Tsn) (space : Nat) (ready : List Tsn)
  | handOn (tsn : Tsn)
  | release (tsn : Tsn)
  | slide

/-- No chunk arrives. -/
def Choice.quiet : Choice → Bool
  | .data .. | .forwardTsn .. => false
  | .handOn _ | .release _ | .slide => true

def exec (drain : Bool) (a : Asoc) : Choice → Option Asoc
  | .data memory tsn fate => sctpProcessADataChunk drain memory tsn fate a
  | .forwardTsn newCumTsn space ready =>
    if space < 2 ^ 30 then sctpHandleForwardTsn drain newCumTsn space ready a else none
  | .handOn tsn => handOn drain a tsn
  | .release tsn => if tsn ∈ a.held then some { a with held := a.held.erase tsn } else none
  | .slide => some (sctpSlideMappingArrays a)

/-- `sctp_process_init`, as far as it is about the mapping arrays. -/
def sctpProcessInit (initialTsn : Tsn) : Asoc where
  mappingArray := Bitmap.empty sctpInitialMappingArray
  nrMappingArray := Bitmap.empty sctpInitialMappingArray
  mappingArrayBaseTsn := initialTsn
  cumulativeTsn := initialTsn - 1
  highestTsnInsideMap := initialTsn - 1
  highestTsnInsideNrMap := initialTsn - 1
  dupTsns := []
  held := []
  accepted := []
  skipped := none

def receiver (drain : Bool) (initialTsn : Tsn) : Machine Asoc Choice where
  init a := a = sctpProcessInit initialTsn
  exec := exec drain

end Sctp4Nat.MappingArray
