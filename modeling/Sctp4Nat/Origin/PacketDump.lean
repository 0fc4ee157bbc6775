import Sctp4Nat.Java.ByteOrder
import Sctp4Nat.Java.Loop
import Sctp4Nat.Origin.SctpNotification

/-! # The packet dumper

`SctpSocket.debugSctpPacket` logs the common header of a packet and its chunks. The loop over the
chunks goes on by the length that each chunk gives for itself, without a look at it: a length of
0 keeps the loop where it is, and a chunk that is cut short is read past the end of the packet.
The causes of an ABORT chunk are walked until the offset into the packet, not into the chunk,
reaches the length of the chunk.

Offsets are natural numbers. The one sum that can leave the range of `int` is that at the end of
an iteration, and the difference that is tested next wraps back to its true value. -/

namespace Sctp4Nat.PacketDump

/-- What is written, line by line. -/
inductive Report
  | println (id : String)
  | header (srcPort dstPort : UInt16) (verificationTag checksum : UInt32)
  | chunk (chunkType chunkFlags : UInt8) (chunkLength : UInt16)
  | init (initTag aRwnd : UInt32) (nOutStream nInStream : UInt16) (initTSN : UInt32)
  | data (U B E : Bool) (TSN : UInt32) (streamIdS streamSeq : UInt16) (PPID : UInt32)
  | abort
  | noAbortCause
  | cause (causeCode causeLength : UInt16)
  deriving DecidableEq, Repr

/-- `Long.toHexString` and `Integer.toHexString` of a number that is not negative. -/
def toHexString (n : Nat) : String := String.ofList (Nat.toDigits 16 n)

def Report.text : Report → String
  | println id => id
  | header srcPort dstPort verificationTag checksum =>
    "SRC P: " ++ toString srcPort ++ " DST P: " ++ toString dstPort ++ " VTAG: 0x" ++
      toHexString verificationTag.toNat ++ " CHK: 0x" ++ toHexString checksum.toNat
  | chunk chunkType chunkFlags chunkLength =>
    "CH: " ++ toString chunkType ++ " FL: " ++ toString chunkFlags ++ " L: " ++
      toString chunkLength
  | init initTag aRwnd nOutStream nInStream initTSN =>
    "ITAG: 0x" ++ toHexString initTag.toNat ++ " a_rwnd: " ++ toString aRwnd ++
      " nOutStream: " ++ toString nOutStream ++ " nInStream: " ++ toString nInStream ++
      " initTSN: 0x" ++ toHexString initTSN.toNat
  | data U B E TSN streamIdS streamSeq PPID =>
    "U: " ++ toString U ++ " B: " ++ toString B ++ " E: " ++ toString E ++ " TSN: 0x" ++
      toHexString TSN.toNat ++ " SID: 0x" ++ toHexString streamIdS.toNat ++ " SSEQ: 0x" ++
      toHexString streamSeq.toNat ++ " PPID: 0x" ++ toHexString PPID.toNat
  | abort => "We have abort!!!"
  | noAbortCause => "No abort CAUSE!!!"
  | cause causeCode causeLength =>
    "Cause: " ++ toString causeCode ++ " L: " ++ toString causeLength

abbrev Dump (α : Type) := Logged Report ParseException α

open Logged (log throw)

/-- `buffer[i] & 0xFF`. -/
def byteAt (buffer : Bytes) (i : Nat) : Dump UInt8 :=
  match buffer[i]? with
  | some b => pure b
  | none => throw (.arrayIndexOutOfBounds i)

def bytesToLong (buffer : Bytes) (offset : Nat) : Dump UInt32 := do
  let fByte ← byteAt buffer offset
  let sByte ← byteAt buffer (offset + 1)
  let tByte ← byteAt buffer (offset + 2)
  let foByte ← byteAt buffer (offset + 3)
  pure (ofBe32 fByte sByte tByte foByte)

def bytesToShort (buffer : Bytes) (offset : Nat) : Dump UInt16 := do
  let fByte ← byteAt buffer offset
  let sByte ← byteAt buffer (offset + 1)
  pure (ofBe16 fByte sByte)

/-- The branch of an INIT chunk, with the offset behind its header. -/
def debugInit (packet : Bytes) (chunkLength offset : Nat) : Dump Nat := do
  let initTag ← bytesToLong packet offset
  let aRwnd ← bytesToLong packet (offset + 4)
  let nOutStream ← bytesToShort packet (offset + 8)
  let nInStream ← bytesToShort packet (offset + 10)
  let initTSN ← bytesToLong packet (offset + 12)
  log (.init initTag aRwnd nOutStream nInStream initTSN)
  pure (offset + 16 + chunkLength - 4 - 16)

/-- The branch of a DATA chunk. -/
def debugData (packet : Bytes) (chunkFlags : UInt8) (chunkLength offset : Nat) : Dump Nat := do
  let U := decide (chunkFlags &&& 0x4 > 0)
  let B := decide (chunkFlags &&& 0x2 > 0)
  let E := decide (chunkFlags &&& 0x1 > 0)
  let TSN ← bytesToLong packet offset
  let streamIdS ← bytesToShort packet (offset + 4)
  let streamSeq ← bytesToShort packet (offset + 6)
  let PPID ← bytesToLong packet (offset + 8)
  log (.data U B E TSN streamIdS streamSeq PPID)
  pure (offset + 12 + chunkLength - 4 - 12)

/-- The loop over the causes of an ABORT chunk. -/
def debugCauses (packet : Bytes) (chunkLength offset : Nat) : Dump Nat :=
  if offset < chunkLength then do
    let causeCode ← bytesToShort packet offset
    let causeLength ← bytesToShort packet (offset + 2)
    log (.cause causeCode causeLength)
    debugCauses packet chunkLength (offset + 4)
  else pure offset
termination_by chunkLength - offset

/-- The branch of an ABORT chunk. -/
def debugAbort (packet : Bytes) (chunkLength offset : Nat) : Dump Nat := do
  log .abort
  if offset ≥ chunkLength then
    log .noAbortCause
  debugCauses packet chunkLength offset

/-- One iteration of the loop in `debugChunks`, from an offset to the next. -/
def debugChunk (packet : Bytes) (offset : Nat) : Dump Nat := do
  let chunkType ← byteAt packet offset
  let chunkFlags ← byteAt packet (offset + 1)
  let chunkLength ← bytesToShort packet (offset + 2)
  log (.chunk chunkType chunkFlags chunkLength)
  if chunkType = 1 then
    debugInit packet chunkLength.toNat (offset + 4)
  else if chunkType = 0 then
    debugData packet chunkFlags chunkLength.toNat (offset + 4)
  else if chunkType = 6 then
    debugAbort packet chunkLength.toNat (offset + 4)
  else
    pure (offset + 4 + chunkLength.toNat - 4)

/-- `(packet.length - offset) >= 4`. -/
def chunkTest (packet : Bytes) (offset : Nat) : Bool := offset + 4 ≤ packet.length

/-- `debugChunks`, cut off after some iterations. -/
def debugChunks (packet : Bytes) (fuel : Nat) : Option (Dump Nat) :=
  whileLoop (chunkTest packet) (debugChunk packet) fuel 12

/-- The common header. -/
def debugHeader (packet : Bytes) : Dump Unit := do
  let srcPort ← bytesToShort packet 0
  let dstPort ← bytesToShort packet 2
  let verificationTag ← bytesToLong packet 4
  let checksum ← bytesToLong packet 8
  log (.header srcPort dstPort verificationTag checksum)

/-- `debugSctpPacket`, cut off after some iterations of the loop. -/
def debugSctpPacket (packet : Bytes) (id : String) (fuel : Nat) : Option (Dump Unit) :=
  if packet.length ≥ 12 then
    (debugChunks packet fuel).map fun chunks => do
      log (.println id)
      debugHeader packet
      let _ ← chunks
      pure ()
  else some (log (.println id))

/-! ## The fields of a packet -/

section

variable {packet : Bytes} {i : Nat}

def u8 (packet : Bytes) (i : Nat) : UInt8 := packet.getD i 0

def u16 (packet : Bytes) (i : Nat) : UInt16 := ofBe16 (u8 packet i) (u8 packet (i + 1))

def u32 (packet : Bytes) (i : Nat) : UInt32 :=
  ofBe32 (u8 packet i) (u8 packet (i + 1)) (u8 packet (i + 2)) (u8 packet (i + 3))

theorem byteAt_ok (h : i < packet.length) : byteAt packet i = ([], .ok (u8 packet i)) := by
  rw [byteAt, u8, List.getD_eq_getElem?_getD, List.getElem?_eq_getElem h]
  rfl

theorem lt_of_byteAt (h : byteAt packet i = (out, .ok b)) : i < packet.length := by
  rw [byteAt] at h
  by_contra hge
  rw [List.getElem?_eq_none (Nat.le_of_not_lt hge)] at h
  cases h

theorem bytesToShort_ok (h : i + 2 ≤ packet.length) :
    bytesToShort packet i = ([], .ok (u16 packet i)) := by
  unfold bytesToShort
  rw [Logged.bind_ok_nil (byteAt_ok (by omega)), Logged.bind_ok_nil (byteAt_ok (by omega))]
  rfl

theorem le_of_bytesToShort (h : bytesToShort packet i = (out, .ok x)) : i + 2 ≤ packet.length := by
  obtain ⟨_, _, _, -, h⟩ := Logged.bind_eq_ok h
  obtain ⟨_, _, _, h, -⟩ := Logged.bind_eq_ok h
  exact lt_of_byteAt h

theorem bytesToLong_ok (h : i + 4 ≤ packet.length) :
    bytesToLong packet i = ([], .ok (u32 packet i)) := by
  unfold bytesToLong
  rw [Logged.bind_ok_nil (byteAt_ok (by omega)), Logged.bind_ok_nil (byteAt_ok (by omega)),
    Logged.bind_ok_nil (byteAt_ok (by omega)), Logged.bind_ok_nil (byteAt_ok (by omega))]
  rfl

theorem le_of_bytesToLong (h : bytesToLong packet i = (out, .ok x)) : i + 4 ≤ packet.length := by
  obtain ⟨_, _, _, -, h⟩ := Logged.bind_eq_ok h
  obtain ⟨_, _, _, -, h⟩ := Logged.bind_eq_ok h
  obtain ⟨_, _, _, -, h⟩ := Logged.bind_eq_ok h
  obtain ⟨_, _, _, h, -⟩ := Logged.bind_eq_ok h
  exact lt_of_byteAt h

end

/-! ## One chunk -/

section

variable {packet : Bytes} {o L : Nat}

/-- What is logged of an INIT chunk, from the offset behind its header. -/
def initReport (packet : Bytes) (offset : Nat) : Report :=
  .init (u32 packet offset) (u32 packet (offset + 4)) (u16 packet (offset + 8))
    (u16 packet (offset + 10)) (u32 packet (offset + 12))

theorem debugInit_ok (h : o + 16 ≤ packet.length) :
    debugInit packet L o = ([initReport packet o], .ok (o + L - 4)) := by
  unfold debugInit
  rw [Logged.bind_ok_nil (bytesToLong_ok (by omega)),
    Logged.bind_ok_nil (bytesToLong_ok (by omega)),
    Logged.bind_ok_nil (bytesToShort_ok (by omega)),
    Logged.bind_ok_nil (bytesToShort_ok (by omega)),
    Logged.bind_ok_nil (bytesToLong_ok (by omega))]
  have hend : o + 16 + L - 4 - 16 = o + L - 4 := by omega
  rw [hend]
  rfl

theorem le_of_debugInit (h : debugInit packet L o = (out, .ok o')) : o + 16 ≤ packet.length := by
  obtain ⟨_, _, _, -, h⟩ := Logged.bind_eq_ok h
  obtain ⟨_, _, _, -, h⟩ := Logged.bind_eq_ok h
  obtain ⟨_, _, _, -, h⟩ := Logged.bind_eq_ok h
  obtain ⟨_, _, _, -, h⟩ := Logged.bind_eq_ok h
  obtain ⟨_, _, _, h, -⟩ := Logged.bind_eq_ok h
  exact le_of_bytesToLong h

/-- What is logged of a DATA chunk. -/
def dataReport (packet : Bytes) (chunkFlags : UInt8) (offset : Nat) : Report :=
  .data (chunkFlags &&& 0x4 > 0) (chunkFlags &&& 0x2 > 0) (chunkFlags &&& 0x1 > 0)
    (u32 packet offset) (u16 packet (offset + 4)) (u16 packet (offset + 6))
    (u32 packet (offset + 8))

theorem debugData_ok {chunkFlags : UInt8} (h : o + 12 ≤ packet.length) :
    debugData packet chunkFlags L o = ([dataReport packet chunkFlags o], .ok (o + L - 4)) := by
  unfold debugData
  rw [Logged.bind_ok_nil (bytesToLong_ok (by omega)),
    Logged.bind_ok_nil (bytesToShort_ok (by omega)),
    Logged.bind_ok_nil (bytesToShort_ok (by omega)),
    Logged.bind_ok_nil (bytesToLong_ok (by omega))]
  have hend : o + 12 + L - 4 - 12 = o + L - 4 := by omega
  rw [hend]
  rfl

theorem le_of_debugData {chunkFlags : UInt8}
    (h : debugData packet chunkFlags L o = (out, .ok o')) : o + 12 ≤ packet.length := by
  obtain ⟨_, _, _, -, h⟩ := Logged.bind_eq_ok h
  obtain ⟨_, _, _, -, h⟩ := Logged.bind_eq_ok h
  obtain ⟨_, _, _, -, h⟩ := Logged.bind_eq_ok h
  obtain ⟨_, _, _, h, -⟩ := Logged.bind_eq_ok h
  exact le_of_bytesToLong h

/-- Where the loop over the causes ends: at the first of its offsets that is not below the length
of the chunk. -/
def causesEnd (L o : Nat) : Nat := if o < L then o + (L - o + 3) / 4 * 4 else o

theorem causesEnd_of_lt (h : o < L) : causesEnd L o = causesEnd L (o + 4) := by
  rw [causesEnd, if_pos h, causesEnd]
  split <;> omega

theorem le_causesEnd : o ≤ causesEnd L o := by
  rw [causesEnd]
  split <;> omega

/-- A line about a chunk, or about the fields of one. -/
def Report.isVisit : Report → Bool
  | chunk .. | init .. | data .. => true
  | _ => false

/-- The loop over the causes ends, and reads all bytes up to its end. -/
theorem debugCauses_ok (h : causesEnd L o ≤ packet.length) :
    ∃ out, debugCauses packet L o = (out, .ok (causesEnd L o)) ∧
      out.filter Report.isVisit = [] := by
  fun_induction debugCauses packet L o with
  | case1 o hlt ih =>
    rw [causesEnd_of_lt hlt] at h ⊢
    have hle := le_causesEnd (L := L) (o := o + 4)
    obtain ⟨out, hrun, hout⟩ := ih h
    rw [Logged.bind_ok_nil (bytesToShort_ok (by omega)),
      Logged.bind_ok_nil (bytesToShort_ok (by omega)), Logged.log_bind _ _ hrun]
    exact ⟨_, rfl, hout⟩
  | case2 o hge =>
    rw [causesEnd, if_neg hge]
    exact ⟨[], rfl, rfl⟩

theorem le_of_debugCauses (ho : o ≤ packet.length)
    (h : debugCauses packet L o = (out, .ok o')) : causesEnd L o ≤ packet.length := by
  fun_induction debugCauses packet L o generalizing out with
  | case1 o hlt ih =>
    obtain ⟨_, _, _, -, h⟩ := Logged.bind_eq_ok h
    obtain ⟨_, _, _, hread, h⟩ := Logged.bind_eq_ok h
    obtain ⟨_, _, _, -, h⟩ := Logged.bind_eq_ok h
    rw [causesEnd_of_lt hlt]
    exact ih (le_of_bytesToShort hread) h
  | case2 o hge =>
    rw [causesEnd, if_neg hge]
    exact ho

theorem debugAbort_ok (h : causesEnd L o ≤ packet.length) :
    ∃ out, debugAbort packet L o = (out, .ok (causesEnd L o)) ∧
      out.filter Report.isVisit = [] := by
  obtain ⟨out, hrun, hout⟩ := debugCauses_ok h
  unfold debugAbort
  by_cases hge : o ≥ L
  · rw [if_pos hge]
    exact ⟨.abort :: .noAbortCause :: out, Logged.log_bind _ _ (Logged.log_bind _ _ hrun), hout⟩
  · rw [if_neg hge]
    exact ⟨.abort :: out, Logged.log_bind _ _ hrun, hout⟩

theorem le_of_debugAbort (ho : o ≤ packet.length)
    (h : debugAbort packet L o = (out, .ok o')) : causesEnd L o ≤ packet.length := by
  obtain ⟨_, _, _, -, h⟩ := Logged.bind_eq_ok h
  dsimp only at h
  split at h
  · obtain ⟨_, _, _, -, h⟩ := Logged.bind_eq_ok h
    exact le_of_debugCauses ho h
  · exact le_of_debugCauses ho h

/-- The length field of the chunk at `o`. -/
def chunkLength (packet : Bytes) (o : Nat) : Nat := (u16 packet (o + 2)).toNat

/-- Where the loop goes on after the chunk at `o`. -/
def chunkEnd (packet : Bytes) (o : Nat) : Nat :=
  if u8 packet o = 6 then causesEnd (chunkLength packet o) (o + 4) else o + chunkLength packet o

/-- All that is read of the chunk at `o` is in the packet. -/
def InBounds (packet : Bytes) (o : Nat) : Prop :=
  if u8 packet o = 1 then o + 20 ≤ packet.length
  else if u8 packet o = 0 then o + 16 ≤ packet.length
  else if u8 packet o = 6 then causesEnd (chunkLength packet o) (o + 4) ≤ packet.length
  else True

/-- The lines about the fields of the chunk at `o`. -/
def fieldReports (packet : Bytes) (o : Nat) : List Report :=
  if u8 packet o = 1 then [initReport packet (o + 4)]
  else if u8 packet o = 0 then [dataReport packet (u8 packet (o + 1)) (o + 4)]
  else []

/-- The lines about the chunk at `o` and its fields. -/
def visitReports (packet : Bytes) (o : Nat) : List Report :=
  .chunk (u8 packet o) (u8 packet (o + 1)) (u16 packet (o + 2)) :: fieldReports packet o

/-- The branch of the type of the chunk at `o`. -/
def debugFields (packet : Bytes) (o : Nat) : Dump Nat :=
  if u8 packet o = 1 then debugInit packet (chunkLength packet o) (o + 4)
  else if u8 packet o = 0 then
    debugData packet (u8 packet (o + 1)) (chunkLength packet o) (o + 4)
  else if u8 packet o = 6 then debugAbort packet (chunkLength packet o) (o + 4)
  else pure (o + 4 + chunkLength packet o - 4)

/-- An iteration reads the header of the chunk and takes the branch of its type. -/
theorem debugChunk_eq (ht : o + 4 ≤ packet.length) :
    debugChunk packet o =
      (log (.chunk (u8 packet o) (u8 packet (o + 1)) (u16 packet (o + 2))) >>= fun _ =>
        debugFields packet o) := by
  unfold debugChunk
  rw [Logged.bind_ok_nil (byteAt_ok (by omega)), Logged.bind_ok_nil (byteAt_ok (by omega)),
    Logged.bind_ok_nil (bytesToShort_ok (by omega))]
  rfl

theorem debugFields_ok (h : InBounds packet o) :
    ∃ out, debugFields packet o = (out, .ok (chunkEnd packet o)) ∧
      out.filter Report.isVisit = fieldReports packet o := by
  have hend : o + 4 + chunkLength packet o - 4 = o + chunkLength packet o := by omega
  unfold InBounds at h
  unfold debugFields fieldReports chunkEnd
  by_cases h1 : u8 packet o = 1
  · rw [if_pos h1] at h
    rw [if_pos h1, if_pos h1, if_neg (by rw [h1]; decide), debugInit_ok h, hend]
    exact ⟨_, rfl, rfl⟩
  rw [if_neg h1] at h
  rw [if_neg h1, if_neg h1]
  by_cases h0 : u8 packet o = 0
  · rw [if_pos h0] at h
    rw [if_pos h0, if_pos h0, if_neg (by rw [h0]; decide), debugData_ok h, hend]
    exact ⟨_, rfl, rfl⟩
  rw [if_neg h0] at h
  rw [if_neg h0, if_neg h0]
  by_cases h6 : u8 packet o = 6
  · rw [if_pos h6] at h
    rw [if_pos h6, if_pos h6]
    exact debugAbort_ok h
  · rw [if_neg h6, if_neg h6, hend]
    exact ⟨[], rfl, rfl⟩

/-- An iteration that stays in the packet logs the chunk and its fields, and goes on behind it. -/
theorem debugChunk_ok (ht : o + 4 ≤ packet.length) (h : InBounds packet o) :
    ∃ out, debugChunk packet o = (out, .ok (chunkEnd packet o)) ∧
      out.filter Report.isVisit = visitReports packet o := by
  obtain ⟨out, hrun, hout⟩ := debugFields_ok h
  rw [debugChunk_eq ht]
  refine ⟨_, Logged.log_bind _ _ hrun, ?_⟩
  rw [List.filter_cons_of_pos rfl, hout]
  rfl

theorem inBounds_of_debugChunk (ht : o + 4 ≤ packet.length)
    (h : debugChunk packet o = (out, .ok o')) : InBounds packet o := by
  rw [debugChunk_eq ht] at h
  obtain ⟨_, _, _, -, h⟩ := Logged.bind_eq_ok h
  unfold debugFields at h
  unfold InBounds
  split
  · rename_i h1
    rw [if_pos h1] at h
    exact le_of_debugInit h
  rename_i h1
  rw [if_neg h1] at h
  split
  · rename_i h0
    rw [if_pos h0] at h
    exact le_of_debugData h
  rename_i h0
  rw [if_neg h0] at h
  split
  · rename_i h6
    rw [if_pos h6] at h
    exact le_of_debugAbort ht h
  · trivial

theorem eq_chunkEnd_of_debugChunk (ht : o + 4 ≤ packet.length)
    (h : debugChunk packet o = (out, .ok o')) : o' = chunkEnd packet o := by
  obtain ⟨out', hrun, -⟩ := debugChunk_ok ht (inBounds_of_debugChunk ht h)
  rw [hrun] at h
  cases h
  rfl

/-- The loop never goes back, and stays where it is on a length field of 0 only. -/
theorem le_chunkEnd : o ≤ chunkEnd packet o := by
  unfold chunkEnd
  split
  · exact Nat.le_trans (Nat.le_add_right o 4) le_causesEnd
  · exact Nat.le_add_right ..

theorem chunkEnd_eq_self_iff :
    chunkEnd packet o = o ↔ u8 packet o ≠ 6 ∧ chunkLength packet o = 0 := by
  unfold chunkEnd
  split
  · rename_i h6
    have hle := le_causesEnd (L := chunkLength packet o) (o := o + 4)
    simp only [h6, ne_eq, not_true_eq_false, false_and, iff_false]
    omega
  · rename_i h6
    simp [h6]

end

/-! ## The loop over the chunks -/

/-- The offsets at which a chunk is looked for: the first one is behind the common header, and
each other one is where a chunk that has at least a header ends by its own account. -/
inductive ChunkAt (packet : Bytes) : Nat → Prop
  | first : ChunkAt packet 12
  | next : ChunkAt packet o → o + 4 ≤ packet.length → ChunkAt packet (chunkEnd packet o)

section

variable {packet : Bytes} {o : Nat}

/-- The chunk at `o` has the bytes that are read of it, and its length is not 0 unless it is an
ABORT chunk. -/
def Sound (packet : Bytes) (o : Nat) : Prop :=
  InBounds packet o ∧ (u8 packet o ≠ 6 → chunkLength packet o ≠ 0)

theorem chunkTest_iff : chunkTest packet o = true ↔ o + 4 ≤ packet.length := decide_eq_true_iff

theorem chunkTest_eq_false_iff : chunkTest packet o = false ↔ packet.length < o + 4 :=
  decide_eq_false_iff_not.trans Nat.not_le

/-- An iteration goes on behind the chunk exactly when the chunk is sound. -/
theorem sound_iff (ht : o + 4 ≤ packet.length) :
    Sound packet o ↔ ∃ out o', debugChunk packet o = (out, .ok o') ∧ o' ≠ o := by
  constructor
  · rintro ⟨hin, hlen⟩
    obtain ⟨out, hrun, -⟩ := debugChunk_ok ht hin
    refine ⟨out, _, hrun, fun heq => ?_⟩
    obtain ⟨h6, h0⟩ := chunkEnd_eq_self_iff.mp heq
    exact hlen h6 h0
  · rintro ⟨out, o', hrun, hne⟩
    refine ⟨inBounds_of_debugChunk ht hrun, fun h6 h0 => hne ?_⟩
    rw [eq_chunkEnd_of_debugChunk ht hrun]
    exact chunkEnd_eq_self_iff.mpr ⟨h6, h0⟩

theorem chunkAt_of_visits (h : Visits (chunkTest packet) (debugChunk packet) 12 o) :
    ChunkAt packet o := by
  induction h with
  | refl => exact .first
  | tail _ hs ih =>
    obtain ⟨ht, out, hrun⟩ := hs
    rw [chunkTest_iff] at ht
    obtain rfl := eq_chunkEnd_of_debugChunk ht hrun
    exact ih.next ht

/-- As long as the chunks are sound, the loop gets to each of them. -/
theorem visits_of_chunkAt
    (hs : ∀ o, Visits (chunkTest packet) (debugChunk packet) 12 o → o + 4 ≤ packet.length →
      Sound packet o)
    (h : ChunkAt packet o) : Visits (chunkTest packet) (debugChunk packet) 12 o := by
  induction h with
  | first => exact .refl
  | next _ ht ih =>
    obtain ⟨out, hrun, -⟩ := debugChunk_ok ht (hs _ ih ht).1
    exact ih.tail ⟨chunkTest_iff.mpr ht, out, hrun⟩

/-- `debugChunks` returns exactly when all chunks that it comes to are sound. -/
theorem debugChunks_returns_iff (packet : Bytes) :
    (∃ fuel out o, debugChunks packet fuel = some (out, .ok o)) ↔
      ∀ o, ChunkAt packet o → o + 4 ≤ packet.length → Sound packet o := by
  have hprogress : ∀ o out o', chunkTest packet o = true → debugChunk packet o = (out, .ok o') →
      o' = o ∨ packet.length - o' < packet.length - o := by
    intro o out o' ht hrun
    rw [chunkTest_iff] at ht
    rw [eq_chunkEnd_of_debugChunk ht hrun]
    have hle : o ≤ chunkEnd packet o := le_chunkEnd
    omega
  have hhalts : (∃ fuel out o, debugChunks packet fuel = some (out, .ok o)) ↔
      ∃ out o, Halts (chunkTest packet) (debugChunk packet) 12 (out, .ok o) := by
    constructor
    · rintro ⟨fuel, out, o, h⟩
      exact ⟨out, o, fuel, h⟩
    · rintro ⟨out, o, fuel, h⟩
      exact ⟨fuel, out, o, h⟩
  rw [hhalts, halts_ok_iff _ hprogress]
  constructor
  · intro h o hat ht
    have hs : ∀ o, Visits (chunkTest packet) (debugChunk packet) 12 o → o + 4 ≤ packet.length →
        Sound packet o := fun o hv ht => (sound_iff ht).mpr (h o hv (chunkTest_iff.mpr ht))
    exact hs o (visits_of_chunkAt hs hat) ht
  · intro h o hv ht
    rw [chunkTest_iff] at ht
    exact (sound_iff ht).mp (h o (chunkAt_of_visits hv) ht)

theorem debugHeader_ok (h : 12 ≤ packet.length) :
    ∃ out, debugHeader packet = (out, .ok ()) := by
  unfold debugHeader
  rw [Logged.bind_ok_nil (bytesToShort_ok (by omega)),
    Logged.bind_ok_nil (bytesToShort_ok (by omega)),
    Logged.bind_ok_nil (bytesToLong_ok (by omega)),
    Logged.bind_ok_nil (bytesToLong_ok (by omega))]
  exact ⟨_, rfl⟩

/-- What is logged before the chunks does not keep the method from returning. -/
theorem debugSctpPacket_of_le (h : 12 ≤ packet.length) (id : String) (fuel : Nat) :
    (∃ out, debugSctpPacket packet id fuel = some (out, .ok ())) ↔
      ∃ out o, debugChunks packet fuel = some (out, .ok o) := by
  obtain ⟨header, hheader⟩ := debugHeader_ok h
  rw [debugSctpPacket, if_pos h]
  constructor
  · rintro ⟨out, hrun⟩
    obtain ⟨chunks, hchunks, hrun⟩ := Option.map_eq_some_iff.mp hrun
    obtain ⟨_, _, _, -, hrun⟩ := Logged.bind_eq_ok hrun
    obtain ⟨_, _, _, -, hrun⟩ := Logged.bind_eq_ok hrun
    obtain ⟨out', o, _, hrun, -⟩ := Logged.bind_eq_ok hrun
    exact ⟨out', o, hchunks.trans (congrArg some hrun)⟩
  · rintro ⟨out, o, hchunks⟩
    rw [hchunks]
    exact ⟨_, congrArg some (Logged.log_bind _ _ (Logged.bind_ok hheader (Logged.bind_ok rfl rfl)))⟩

/-- **When the dumper returns.** `debugSctpPacket` ends without an exception exactly on the
packets that are shorter than a common header, and on those in which every chunk that it comes to,
going from chunk to chunk by their lengths, has the bytes that are read of it and, unless it is
an ABORT chunk, a length that is not 0. -/
theorem debugSctpPacket_returns_iff (packet : Bytes) (id : String) :
    (∃ fuel out, debugSctpPacket packet id fuel = some (out, .ok ())) ↔
      packet.length < 12 ∨ ∀ o, ChunkAt packet o → o + 4 ≤ packet.length → Sound packet o := by
  by_cases h : 12 ≤ packet.length
  · rw [or_iff_right (Nat.not_lt.mpr h), ← debugChunks_returns_iff]
    exact exists_congr fun fuel => debugSctpPacket_of_le h id fuel
  · refine iff_of_true ⟨0, [.println id], ?_⟩ (.inl (Nat.lt_of_not_le h))
    rw [debugSctpPacket, if_neg h]
    rfl

/-- A chunk of type 3 whose length field is 0. -/
def zeroLength : Bytes := List.replicate 12 0 ++ [3, 0, 0, 0]

/-- An INIT chunk of which only the header is there. -/
def cutInit : Bytes := List.replicate 12 0 ++ [1, 0, 0, 20]

/-- On a chunk whose length field is 0 the dumper never ends, and on an INIT chunk that is cut
short it reads outside the packet. -/
theorem dumper_fails :
    (∀ fuel, debugSctpPacket zeroLength "in" fuel = none) ∧
      (debugSctpPacket cutInit "in" 1).map Prod.snd =
        some (.error (.arrayIndexOutOfBounds 16)) := by
  constructor
  · intro fuel
    have hloop : debugChunks zeroLength fuel = none := by
      by_contra hne
      obtain ⟨r, hr⟩ := Option.ne_none_iff_exists'.mp hne
      have hbody : debugChunk zeroLength 12 = ([.chunk 3 0 0], .ok 12) := rfl
      have htest : chunkTest zeroLength 12 = true := by decide
      exact not_halts_of_fixed htest hbody r ⟨fuel, hr⟩
    rw [debugSctpPacket, if_pos (by decide), hloop, Option.map_none]
  · rfl

end

end Sctp4Nat.PacketDump
