import Mathlib.Algebra.Ring.Nat
import Sctp4Nat.Origin.PacketDump

/-! # The dumper on well-formed packets

The encoding of a list of chunks, each padded to a multiple of four bytes, and what `debugChunks`
makes of it. The loop goes on by the length field, which does not count the padding, and ends the
causes of an ABORT chunk too early; so the chunks are visited one by one exactly when no ABORT
chunk has a cause and only the last chunk is padded (`walks_iff`). -/

namespace Sctp4Nat.PacketDump

/-! ## Chunks on the wire -/

/-- An error cause of an ABORT chunk. -/
structure Cause where
  code : UInt16
  info : Bytes
  deriving DecidableEq, Repr

/-- How many bytes are missing to the next multiple of four. -/
def missing (length : Nat) : Nat := (4 - length % 4) % 4

def Cause.encode (c : Cause) : Bytes :=
  be16 c.code ++ be16 (UInt16.ofNat (4 + c.info.length)) ++ c.info

/-- The causes of a chunk, all but the last one padded. -/
def encodeCauses : List Cause → Bytes
  | [] => []
  | [c] => c.encode
  | c :: cs => c.encode ++ List.replicate (missing c.encode.length) 0 ++ encodeCauses cs

inductive Chunk
  | data (flags : UInt8) (TSN : UInt32) (streamId streamSeq : UInt16) (PPID : UInt32)
      (payload : Bytes)
  | init (flags : UInt8) (initTag aRwnd : UInt32) (nOutStream nInStream : UInt16)
      (initTSN : UInt32) (parameters : Bytes)
  | abort (flags : UInt8) (causes : List Cause)
  | other (type flags : UInt8) (h : type ≠ 0 ∧ type ≠ 1 ∧ type ≠ 6) (body : Bytes)

namespace Chunk

def type : Chunk → UInt8
  | data .. => 0
  | init .. => 1
  | abort .. => 6
  | other type .. => type

def flags : Chunk → UInt8
  | data flags .. | init flags .. | abort flags _ | other _ flags .. => flags

def body : Chunk → Bytes
  | data _ TSN streamId streamSeq PPID payload =>
    be32 TSN ++ be16 streamId ++ be16 streamSeq ++ be32 PPID ++ payload
  | init _ initTag aRwnd nOutStream nInStream initTSN parameters =>
    be32 initTag ++ be32 aRwnd ++ be16 nOutStream ++ be16 nInStream ++ be32 initTSN ++ parameters
  | abort _ causes => encodeCauses causes
  | other _ _ _ body => body

/-- The length of a chunk without its padding. -/
def length (c : Chunk) : Nat := 4 + c.body.length

def encode (c : Chunk) : Bytes :=
  c.type :: c.flags :: be16 (UInt16.ofNat c.length) ++ c.body

def causes : Chunk → List Cause
  | abort _ causes => causes
  | _ => []

/-- The lines about the fields of a chunk. -/
def fields : Chunk → List Report
  | data flags TSN streamId streamSeq PPID _ =>
    [.data (flags &&& 0x4 > 0) (flags &&& 0x2 > 0) (flags &&& 0x1 > 0) TSN streamId streamSeq PPID]
  | init _ initTag aRwnd nOutStream nInStream initTSN _ =>
    [.init initTag aRwnd nOutStream nInStream initTSN]
  | abort .. | other .. => []

/-- The lines that a reader of the log expects of a chunk. -/
def reports (c : Chunk) : List Report :=
  .chunk c.type c.flags (UInt16.ofNat c.length) :: c.fields

theorem length_encode (c : Chunk) : c.encode.length = c.length := by
  simp only [encode, be16, List.cons_append, List.nil_append, List.length_cons, length]
  omega

end Chunk

/-- A chunk with its padding. Its length can be given in the length field, and the padding
brings it to a multiple of four. -/
structure Padded where
  chunk : Chunk
  padding : Bytes
  size : chunk.length ≤ 65535
  aligned : padding.length = missing chunk.length

namespace Padded

def encode (p : Padded) : Bytes := p.chunk.encode ++ p.padding

theorem length_encode (p : Padded) : p.encode.length = p.chunk.length + p.padding.length := by
  rw [encode, List.length_append, Chunk.length_encode]

theorem length_padding_lt (p : Padded) : p.padding.length < 4 := by
  rw [p.aligned, missing]
  exact Nat.mod_lt _ (by decide)

end Padded

/-- A packet: the common header and the chunks. -/
def encodePacket (header : Vector UInt8 12) (ps : List Padded) : Bytes :=
  header.toList ++ ps.flatMap Padded.encode

/-- `debugChunks` ends, and its lines about chunks and fields are those of these chunks. -/
def Walks (packet : Bytes) (cs : List Chunk) : Prop :=
  ∃ fuel out o, debugChunks packet fuel = some (out, .ok o) ∧
    out.filter Report.isVisit = cs.flatMap Chunk.reports

/-! ## Reading in the middle of a packet -/

section

variable {before after xs : Bytes} {i : Nat}

theorem u8_append : u8 (before ++ xs) (before.length + i) = u8 xs i := by
  rw [u8, u8, List.getD_eq_getElem?_getD, List.getD_eq_getElem?_getD,
    List.getElem?_append_right (Nat.le_add_right ..), Nat.add_sub_cancel_left]

theorem u16_append : u16 (before ++ xs) (before.length + i) = u16 xs i := by
  rw [u16, u16, u8_append, Nat.add_assoc, u8_append]

theorem u32_append : u32 (before ++ xs) (before.length + i) = u32 xs i := by
  simp only [u32, Nat.add_assoc, u8_append]

theorem chunkLength_append :
    chunkLength (before ++ xs) (before.length + i) = chunkLength xs i := by
  rw [chunkLength, chunkLength, Nat.add_assoc, u16_append]

theorem visitReports_append :
    visitReports (before ++ xs) (before.length + i) = visitReports xs i := by
  simp only [visitReports, fieldReports, initReport, dataReport, Nat.add_assoc, u8_append,
    u16_append, u32_append]

end

namespace Chunk

variable (c : Chunk) (after : Bytes)

theorem u8_encode_zero : u8 (c.encode ++ after) 0 = c.type := rfl

theorem u16_encode : u16 (c.encode ++ after) 2 = UInt16.ofNat c.length := ofBe16_be16 _

theorem chunkLength_encode (h : c.length ≤ 65535) :
    chunkLength (c.encode ++ after) 0 = c.length := by
  rw [chunkLength, u16_encode, UInt16.toNat_ofNat']
  omega

theorem dataReport_encode (flags : UInt8) (after payload : Bytes) :
    dataReport ((data flags TSN streamId streamSeq PPID payload).encode ++ after) flags 4 =
      .data (flags &&& 0x4 > 0) (flags &&& 0x2 > 0) (flags &&& 0x1 > 0) TSN streamId streamSeq
        PPID := by
  have hTSN : u32 ((data flags TSN streamId streamSeq PPID payload).encode ++ after) 4 = TSN :=
    ofBe32_be32 TSN
  have hid : u16 ((data flags TSN streamId streamSeq PPID payload).encode ++ after) 8 = streamId :=
    ofBe16_be16 streamId
  have hseq : u16 ((data flags TSN streamId streamSeq PPID payload).encode ++ after) 10 =
      streamSeq := ofBe16_be16 streamSeq
  have hPPID : u32 ((data flags TSN streamId streamSeq PPID payload).encode ++ after) 12 = PPID :=
    ofBe32_be32 PPID
  rw [dataReport, hTSN, hid, hseq, hPPID]

theorem initReport_encode (flags : UInt8) (after parameters : Bytes) :
    initReport ((init flags initTag aRwnd nOutStream nInStream initTSN parameters).encode ++ after)
      4 = .init initTag aRwnd nOutStream nInStream initTSN := by
  have hTag : u32 ((init flags initTag aRwnd nOutStream nInStream initTSN parameters).encode ++
      after) 4 = initTag := ofBe32_be32 initTag
  have hRwnd : u32 ((init flags initTag aRwnd nOutStream nInStream initTSN parameters).encode ++
      after) 8 = aRwnd := ofBe32_be32 aRwnd
  have hOut : u16 ((init flags initTag aRwnd nOutStream nInStream initTSN parameters).encode ++
      after) 12 = nOutStream := ofBe16_be16 nOutStream
  have hIn : u16 ((init flags initTag aRwnd nOutStream nInStream initTSN parameters).encode ++
      after) 14 = nInStream := ofBe16_be16 nInStream
  have hTSN : u32 ((init flags initTag aRwnd nOutStream nInStream initTSN parameters).encode ++
      after) 16 = initTSN := ofBe32_be32 initTSN
  rw [initReport, hTag, hRwnd, hOut, hIn, hTSN]

/-- The lines about an encoded chunk are those of the chunk. -/
theorem visitReports_encode : visitReports (c.encode ++ after) 0 = c.reports := by
  have hfields : fieldReports (c.encode ++ after) 0 = c.fields := by
    cases c with
    | data flags TSN streamId streamSeq PPID payload =>
      exact congrArg (fun line => [line]) (dataReport_encode flags after payload)
    | init flags initTag aRwnd nOutStream nInStream initTSN parameters =>
      exact congrArg (fun line => [line]) (initReport_encode flags after parameters)
    | abort flags causes => rfl
    | other type flags h body =>
      rw [fieldReports, u8_encode_zero]
      change (if type = 1 then _ else if type = 0 then _ else []) = []
      rw [if_neg h.2.1, if_neg h.1]
  rw [visitReports, hfields, u8_encode_zero, u16_encode]
  rfl

variable (before : Bytes)

theorem u8_at : u8 (before ++ (c.encode ++ after)) before.length = c.type :=
  u8_append (i := 0)

theorem chunkLength_at (h : c.length ≤ 65535) :
    chunkLength (before ++ (c.encode ++ after)) before.length = c.length :=
  (chunkLength_append (i := 0)).trans (c.chunkLength_encode after h)

theorem visitReports_at :
    visitReports (before ++ (c.encode ++ after)) before.length = c.reports :=
  (visitReports_append (i := 0)).trans (c.visitReports_encode after)

theorem le_length_of_init (h : c.type = 1) : 20 ≤ c.length := by
  cases c with
  | init =>
    simp only [length, body, be32, be16, List.length_append, List.length_cons, List.length_nil]
    omega
  | other type flags hne body => exact absurd h hne.2.1
  | data => cases h
  | abort => cases h

theorem le_length_of_data (h : c.type = 0) : 16 ≤ c.length := by
  cases c with
  | data =>
    simp only [length, body, be32, be16, List.length_append, List.length_cons, List.length_nil]
    omega
  | other type flags hne body => exact absurd h hne.1
  | init => cases h
  | abort => cases h

/-- The loop goes on behind the chunk, and before its padding, if it is no ABORT chunk with
causes. -/
theorem chunkEnd_at (h : c.length ≤ 65535) (hc : c.causes = []) :
    chunkEnd (before ++ (c.encode ++ after)) before.length = before.length + c.length := by
  rw [chunkEnd, u8_at, chunkLength_at _ _ _ h]
  split
  · rename_i h6
    cases c with
    | abort flags causes =>
      cases hc
      exact if_neg (Nat.not_lt.mpr (Nat.le_add_left 4 before.length))
    | other type flags hne body => exact absurd h6 hne.2.2
    | data => cases h6
    | init => cases h6
  · rfl

theorem inBounds_at (h : c.length ≤ 65535) (hc : c.causes = []) :
    InBounds (before ++ (c.encode ++ after)) before.length := by
  have hlen : before.length + c.length ≤ (before ++ (c.encode ++ after)).length := by
    simp only [List.length_append, length_encode]
    omega
  have hend := c.chunkEnd_at after before h hc
  rw [chunkEnd, u8_at] at hend
  rw [InBounds, u8_at]
  split
  · rename_i h1
    have := c.le_length_of_init h1
    omega
  split
  · rename_i h0
    have := c.le_length_of_data h0
    omega
  split
  · rename_i h6
    rw [if_pos h6] at hend
    rw [hend]
    exact hlen
  · trivial

/-- The iteration at a chunk that is no ABORT chunk with causes. -/
theorem debugChunk_at (h : c.length ≤ 65535) (hc : c.causes = []) :
    chunkTest (before ++ (c.encode ++ after)) before.length = true ∧
      ∃ out, debugChunk (before ++ (c.encode ++ after)) before.length =
          (out, .ok (before.length + c.length)) ∧ out.filter Report.isVisit = c.reports := by
  have ht : before.length + 4 ≤ (before ++ (c.encode ++ after)).length := by
    simp only [List.length_append, length_encode, length]
    omega
  obtain ⟨out, hrun, hout⟩ := debugChunk_ok ht (c.inBounds_at after before h hc)
  rw [chunkEnd_at _ _ _ h hc] at hrun
  rw [visitReports_at] at hout
  exact ⟨chunkTest_iff.mpr ht, out, hrun, hout⟩

end Chunk

/-! ## Where the chunks are visited one by one -/

/-- No ABORT chunk has a cause, and only the last chunk may be padded. -/
def Walkable (ps : List Padded) : Prop :=
  (∀ p ∈ ps, p.chunk.causes = []) ∧ ∀ p ∈ ps.dropLast, p.padding = []

/-- The lines that a reader of the log expects. -/
def expected (ps : List Padded) : List Report := ps.flatMap fun p => p.chunk.reports

theorem encode_cons (before : Bytes) (p : Padded) (ps : List Padded) :
    before ++ (p :: ps).flatMap Padded.encode =
      before ++ (p.chunk.encode ++ (p.padding ++ ps.flatMap Padded.encode)) := by
  rw [List.flatMap_cons, Padded.encode, List.append_assoc]

/-- From the start of a chunk the loop walks the rest of the chunks. -/
theorem halts_of_walkable (ps : List Padded) (h : Walkable ps) (before : Bytes) :
    ∃ out o, Halts (chunkTest (before ++ ps.flatMap Padded.encode))
        (debugChunk (before ++ ps.flatMap Padded.encode)) before.length (out, .ok o) ∧
      out.filter Report.isVisit = expected ps := by
  induction ps generalizing before with
  | nil =>
    refine ⟨[], before.length, halts_of_not_test (chunkTest_eq_false_iff.mpr ?_), rfl⟩
    rw [List.flatMap_nil, List.append_nil]
    omega
  | cons p ps ih =>
    obtain ⟨hcauses, hpadding⟩ := h
    have hc := hcauses p List.mem_cons_self
    rw [encode_cons]
    obtain ⟨ht, out, hrun, hout⟩ := p.chunk.debugChunk_at
      (p.padding ++ ps.flatMap Padded.encode) before p.size hc
    cases ps with
    | nil =>
      -- what is left is the padding of the last chunk
      refine ⟨out ++ [], _, halts_of_step ht hrun (halts_of_not_test ?_), ?_⟩
      · have := p.length_padding_lt
        rw [chunkTest_eq_false_iff]
        simp only [List.flatMap_nil, List.length_append, List.length_nil, Chunk.length_encode]
        omega
      · rw [List.append_nil, hout]
        simp [expected]
    | cons q qs =>
      have hnil : p.padding = [] := hpadding p List.mem_cons_self
      have hrest : Walkable (q :: qs) :=
        ⟨fun r hr => hcauses r (List.mem_cons_of_mem p hr),
          fun r hr => hpadding r (List.mem_cons_of_mem p hr)⟩
      obtain ⟨out', o, hhalts, hout'⟩ := ih hrest (before ++ p.chunk.encode)
      rw [List.length_append, Chunk.length_encode, List.append_assoc] at hhalts
      rw [hnil, List.nil_append] at ht hrun ⊢
      refine ⟨out ++ out', o, halts_of_step ht hrun hhalts, ?_⟩
      rw [List.filter_append, hout, hout']
      rfl

/-! ## Where they are not -/

section

variable {packet : Bytes} {o t : Nat} {out xs ys : List Report} {c : Chunk}

/-- How the loop goes on from an offset, in terms of the lines about chunks and fields. -/
theorem halts_cases (h : Halts (chunkTest packet) (debugChunk packet) o (out, .ok t)) :
    (packet.length < o + 4 ∧ out = [] ∧ t = o) ∨
      ∃ out', out.filter Report.isVisit = visitReports packet o ++ out'.filter Report.isVisit ∧
        Halts (chunkTest packet) (debugChunk packet) (chunkEnd packet o) (out', .ok t) := by
  rcases h.cases with ⟨ht, rfl, rfl⟩ | ⟨out₁, o', out₂, ht, hrun, rfl, h⟩
  · exact .inl ⟨chunkTest_eq_false_iff.mp ht, rfl, rfl⟩
  · rw [chunkTest_iff] at ht
    obtain ⟨out, hrun', hout⟩ := debugChunk_ok ht (inBounds_of_debugChunk ht hrun)
    rw [hrun'] at hrun
    cases hrun
    exact .inr ⟨out₂, by rw [List.filter_append, hout], h⟩

/-- A chunk has one line about its fields if its type has. -/
theorem Chunk.length_reports (c : Chunk) :
    c.reports.length = if c.type = 1 then 2 else if c.type = 0 then 2 else 1 := by
  cases c with
  | other type flags h body =>
    change 1 = if type = 1 then 2 else if type = 0 then 2 else 1
    rw [if_neg h.2.1, if_neg h.1]
  | data => rfl
  | init => rfl
  | abort => rfl

theorem length_visitReports :
    (visitReports packet o).length =
      if u8 packet o = 1 then 2 else if u8 packet o = 0 then 2 else 1 := by
  rw [visitReports, fieldReports]
  split
  · rfl
  · split <;> rfl

/-- The first of the lines gives the header that was read for the chunk. -/
theorem header_of_head? (h : (visitReports packet o).head? = c.reports.head?) :
    u8 packet o = c.type ∧ u8 packet (o + 1) = c.flags ∧
      u16 packet (o + 2) = UInt16.ofNat c.length := by
  have hhead : Report.chunk (u8 packet o) (u8 packet (o + 1)) (u16 packet (o + 2)) =
      .chunk c.type c.flags (UInt16.ofNat c.length) := Option.some.inj h
  injection hhead with htype hflags hlength
  exact ⟨htype, hflags, hlength⟩

/-- The lines about a chunk are told from those that follow. -/
theorem visitReports_append_inj (h : visitReports packet o ++ xs = c.reports ++ ys) :
    visitReports packet o = c.reports ∧ xs = ys := by
  have hhead := congrArg List.head? h
  change (visitReports packet o).head? = c.reports.head? at hhead
  obtain ⟨htype, -⟩ := header_of_head? hhead
  refine List.append_inj h ?_
  rw [length_visitReports, c.length_reports, htype]

/-- The bytes by which the walk over the causes falls short. -/
def Chunk.shortfall (c : Chunk) : Nat := if c.causes = [] then 0 else 4

theorem length_encodeCauses {causes : List Cause} (h : causes ≠ []) :
    4 ≤ (encodeCauses causes).length := by
  match causes with
  | [] => exact absurd rfl h
  | [cause] => simp [encodeCauses, Cause.encode, be16]
  | cause :: _ :: _ => simp [encodeCauses, Cause.encode, be16]

/-- Behind the common header the loop never gets past a chunk, and on the causes of an ABORT chunk
it stops four bytes before its end or earlier. -/
theorem chunkEnd_le (ho : 12 ≤ o) (hsize : c.length ≤ 65535)
    (h : visitReports packet o = c.reports) :
    chunkEnd packet o + c.shortfall ≤ o + c.length := by
  obtain ⟨htype, -, hlength⟩ := header_of_head? (congrArg List.head? h)
  have hlen : chunkLength packet o = c.length := by
    rw [chunkLength, hlength, UInt16.toNat_ofNat']
    omega
  rw [chunkEnd, htype, hlen]
  cases c with
  | abort flags causes =>
    have hbody : (Chunk.abort flags causes).length = 4 + (encodeCauses causes).length := rfl
    have h6 : (Chunk.abort flags causes).type = 6 := rfl
    have hcauses : (Chunk.abort flags causes).causes = causes := rfl
    rw [if_pos h6, Chunk.shortfall, hcauses, causesEnd, hbody]
    by_cases hc : causes = []
    · subst hc
      have hnil : (encodeCauses []).length = 0 := rfl
      rw [if_pos rfl, hnil]
      split <;> omega
    · have hlong := length_encodeCauses hc
      rw [if_neg hc]
      split <;> omega
  | other type flags hne body =>
    have h6 : ¬ (Chunk.other type flags hne body).type = 6 := hne.2.2
    rw [if_neg h6]
    exact Nat.le_refl _
  | data => exact Nat.le_refl _
  | init => exact Nat.le_refl _

theorem expected_cons (p : Padded) (ps : List Padded) :
    expected (p :: ps) = p.chunk.reports ++ expected ps := List.flatMap_cons

/-- A walk that reports the chunks one by one visits the first of them where it is, and the others
from where that one leads. -/
theorem halts_expected_cons {p : Padded} {ps : List Padded}
    (h : Halts (chunkTest packet) (debugChunk packet) o (out, .ok t))
    (hout : out.filter Report.isVisit = expected (p :: ps)) :
    visitReports packet o = p.chunk.reports ∧
      ∃ out', out'.filter Report.isVisit = expected ps ∧
        Halts (chunkTest packet) (debugChunk packet) (chunkEnd packet o) (out', .ok t) := by
  rw [expected_cons] at hout
  rcases halts_cases h with ⟨-, rfl, -⟩ | ⟨out', hfilter, h'⟩
  · cases hout
  · rw [hfilter] at hout
    obtain ⟨hvisit, hrest⟩ := visitReports_append_inj hout
    exact ⟨hvisit, out', hrest, h'⟩

/-- Where a walk ends that reports the chunks one by one. -/
theorem end_le_of_halts (ps : List Padded) (ho : 12 ≤ o)
    (h : Halts (chunkTest packet) (debugChunk packet) o (out, .ok t))
    (hout : out.filter Report.isVisit = expected ps) :
    t + (ps.map fun p => p.chunk.shortfall).sum ≤ o + (ps.map fun p => p.chunk.length).sum ∧
      packet.length < t + 4 := by
  induction ps generalizing o out with
  | nil =>
    rcases halts_cases h with ⟨hend, -, rfl⟩ | ⟨out', hfilter, -⟩
    · exact ⟨Nat.le_refl _, hend⟩
    · rw [hfilter] at hout
      cases hout
  | cons p ps ih =>
    obtain ⟨hvisit, out', hout', h'⟩ := halts_expected_cons h hout
    have hstep := chunkEnd_le ho p.size hvisit
    obtain ⟨hle, hend⟩ := ih (Nat.le_trans ho le_chunkEnd) h' hout'
    rw [List.map_cons, List.map_cons, List.sum_cons, List.sum_cons]
    exact ⟨by omega, hend⟩

theorem length_flatMap_encode (ps : List Padded) :
    (ps.flatMap Padded.encode).length =
      (ps.map fun p => p.chunk.length).sum + (ps.map fun p => p.padding.length).sum := by
  induction ps with
  | nil => rfl
  | cons p ps ih =>
    rw [List.flatMap_cons, List.length_append, Padded.length_encode, ih, List.map_cons,
      List.map_cons, List.sum_cons, List.sum_cons]
    omega

/-- A walk that reports the chunks one by one meets no cause. -/
theorem causes_nil_of_halts {ps : List Padded} {header : Bytes} (hheader : header.length = 12)
    (h : Halts (chunkTest (header ++ ps.flatMap Padded.encode))
      (debugChunk (header ++ ps.flatMap Padded.encode)) 12 (out, .ok t))
    (hout : out.filter Report.isVisit = expected ps) : ∀ p ∈ ps, p.chunk.causes = [] := by
  obtain ⟨hle, hend⟩ := end_le_of_halts ps (Nat.le_refl 12) h hout
  rw [List.length_append, hheader, length_flatMap_encode] at hend
  intro p hp
  by_contra hc
  have hsum : 4 ≤ (ps.map fun p => p.chunk.shortfall).sum := by
    obtain ⟨ps₁, ps₂, rfl⟩ := List.append_of_mem hp
    rw [List.map_append, List.map_cons, List.sum_append, List.sum_cons, Chunk.shortfall,
      if_neg hc]
    omega
  omega

/-- Zeros before a chunk are not read as its header: the length would be 0. -/
theorem visitReports_zeros_ne (c : Chunk) (hsize : c.length ≤ 65535) (after : Bytes)
    (h : 0 < k ∧ k < 4) :
    visitReports (List.replicate k 0 ++ (c.encode ++ after)) 0 ≠ c.reports := by
  intro heq
  obtain ⟨htype, hflags, hlength⟩ := header_of_head? (congrArg List.head? heq)
  have hpos : 4 ≤ c.length := Nat.le_add_right ..
  have hlen := congrArg UInt16.toNat hlength
  rw [UInt16.toNat_ofNat', Nat.mod_eq_of_lt (by omega)] at hlen
  obtain rfl | rfl | rfl : k = 1 ∨ k = 2 ∨ k = 3 := by omega
  · change 0 = c.type at htype
    change c.type = c.flags at hflags
    -- the upper byte of the length is read as the lower one
    have hsplit := toNat_ofBe16 (UInt16.ofNat c.length >>> 8).toUInt8
      (UInt16.ofNat c.length).toUInt8
    rw [ofBe16_be16, UInt16.toNat_ofNat', Nat.mod_eq_of_lt (by omega)] at hsplit
    change (ofBe16 c.flags (UInt16.ofNat c.length >>> 8).toUInt8).toNat = c.length at hlen
    rw [toNat_ofBe16, ← hflags, ← htype, UInt8.toNat_zero] at hlen
    omega
  · change 0 = c.type at htype
    change 0 = c.flags at hflags
    change (ofBe16 c.type c.flags).toNat = c.length at hlen
    rw [toNat_ofBe16, ← hflags, ← htype, UInt8.toNat_zero] at hlen
    omega
  · change 0 = c.type at htype
    change (ofBe16 0 c.type).toNat = c.length at hlen
    rw [toNat_ofBe16, ← htype, UInt8.toNat_zero] at hlen
    omega

/-- The padding is all zeros, as the protocol has it. -/
def Padded.ZeroPadded (p : Padded) : Prop := p.padding = List.replicate p.padding.length 0

/-- A walk that reports the chunks one by one, without causes and with zeros for padding, comes
to no padding but that of the last chunk. -/
theorem padding_nil_of_halts (ps : List Padded) (hcauses : ∀ p ∈ ps, p.chunk.causes = [])
    (hzero : ∀ p ∈ ps, p.ZeroPadded) (before : Bytes)
    (h : Halts (chunkTest (before ++ ps.flatMap Padded.encode))
      (debugChunk (before ++ ps.flatMap Padded.encode)) before.length (out, .ok t))
    (hout : out.filter Report.isVisit = expected ps) : ∀ p ∈ ps.dropLast, p.padding = [] := by
  induction ps generalizing before out with
  | nil => exact fun p hp => absurd hp List.not_mem_nil
  | cons p ps ih =>
    cases ps with
    | nil => exact fun p hp => absurd hp List.not_mem_nil
    | cons q qs =>
      obtain ⟨-, out', hout', h'⟩ := halts_expected_cons h hout
      have hc := hcauses p List.mem_cons_self
      rw [encode_cons] at h'
      rw [p.chunk.chunkEnd_at _ before p.size hc, ← Chunk.length_encode, ← List.length_append,
        ← List.append_assoc] at h'
      by_cases hnil : p.padding = []
      · rw [hnil, List.nil_append] at h'
        have hrest := ih (fun r hr => hcauses r (List.mem_cons_of_mem p hr))
          (fun r hr => hzero r (List.mem_cons_of_mem p hr)) _ h' hout'
        intro r hr
        rcases List.mem_cons.mp hr with rfl | hr
        · exact hnil
        · exact hrest r hr
      · -- the next header is read from the padding on
        obtain ⟨hvisit, -⟩ := halts_expected_cons h' hout'
        have hshift : visitReports (p.padding ++ (q :: qs).flatMap Padded.encode) 0 =
            q.chunk.reports := (visitReports_append (i := 0)).symm.trans hvisit
        rw [hzero p List.mem_cons_self, encode_cons] at hshift
        exact absurd hshift (visitReports_zeros_ne q.chunk q.size _
          ⟨List.length_pos_iff.mpr hnil, p.length_padding_lt⟩)

theorem flatMap_reports (ps : List Padded) :
    (ps.map Padded.chunk).flatMap Chunk.reports = expected ps := List.flatMap_map ..

theorem walks_of_walkable (header : Vector UInt8 12) {ps : List Padded} (h : Walkable ps) :
    Walks (encodePacket header ps) (ps.map Padded.chunk) := by
  obtain ⟨out, o, hhalts, hout⟩ := halts_of_walkable ps h header.toList
  rw [Vector.length_toList] at hhalts
  obtain ⟨fuel, hrun⟩ := hhalts
  exact ⟨fuel, out, o, hrun, hout.trans (flatMap_reports ps).symm⟩

theorem walkable_of_walks {header : Vector UInt8 12} {ps : List Padded}
    (hzero : ∀ p ∈ ps, p.ZeroPadded)
    (h : Walks (encodePacket header ps) (ps.map Padded.chunk)) : Walkable ps := by
  obtain ⟨fuel, out, o, hrun, hout⟩ := h
  rw [flatMap_reports] at hout
  have hcauses := causes_nil_of_halts Vector.length_toList ⟨fuel, hrun⟩ hout
  refine ⟨hcauses, padding_nil_of_halts (t := o) ps hcauses hzero header.toList ?_ hout⟩
  rw [Vector.length_toList]
  exact ⟨fuel, hrun⟩

/-- **Which packets are walked chunk by chunk.** If no ABORT chunk has a cause and only the last
chunk is padded, `debugChunks` reports the chunks one by one, whatever bytes the padding has.
With zeros for padding it does so in no other case. -/
theorem walks_iff (header : Vector UInt8 12) (ps : List Padded) :
    (Walkable ps → Walks (encodePacket header ps) (ps.map Padded.chunk)) ∧
      ((∀ p ∈ ps, p.ZeroPadded) →
        (Walks (encodePacket header ps) (ps.map Padded.chunk) ↔ Walkable ps)) :=
  ⟨walks_of_walkable header, fun hzero => ⟨walkable_of_walks hzero, walks_of_walkable header⟩⟩

end

/-- An ABORT chunk with a cause. -/
def abortWithCause : Padded := ⟨.abort 0 [⟨12, []⟩], [], by decide, by decide⟩

/-- A DATA chunk with one byte of payload, and three of padding. -/
def oneByteData : Padded := ⟨.data 3 1 0 0 51 [7], [0, 0, 0], by decide, by decide⟩

/-- The dumper does not get past the causes of an ABORT chunk, nor past a chunk with padding. -/
theorem dumper_loses_chunks :
    ¬ Walks (encodePacket (.replicate 12 0) [abortWithCause]) [abortWithCause.chunk] ∧
      ¬ Walks (encodePacket (.replicate 12 0) [oneByteData, oneByteData])
        [oneByteData.chunk, oneByteData.chunk] := by
  constructor
  · intro h
    have hzero : ∀ p ∈ [abortWithCause], p.ZeroPadded := by
      intro p hp
      cases List.mem_singleton.mp hp
      rfl
    have hcauses := (walkable_of_walks hzero h).1 abortWithCause List.mem_cons_self
    cases hcauses
  · intro h
    have hzero : ∀ p ∈ [oneByteData, oneByteData], p.ZeroPadded := by
      intro p hp
      have hp : p = oneByteData := by simpa using hp
      rw [hp]
      rfl
    have hpadding := (walkable_of_walks hzero h).2 oneByteData List.mem_cons_self
    cases hpadding

end Sctp4Nat.PacketDump
