import Sctp4Nat.Usrsctp.Crc32c

/-! # The checksum of a packet

A packet is a chain of mbufs. `sctp_lowlevel_chunk_output` puts a header before the chunks,
computes the checksum with its field at 0 and hands the bytes to `conn_output`;
`usrsctp_conninput` copies what arrives into a chain of its own, and
`sctp_common_input_processing` computes the checksum again and compares. What is sent is accepted,
in whatever chains and on hosts of whatever byte order (`sent_accepted`); what is accepted has an
even number of bits set, and an error of an odd number of bits or within 32 bits on one side of
the field is not accepted (`errors_rejected`). -/

namespace Sctp4Nat.Crc32c

open ShiftRegister

/-! ## Chains of mbufs -/

/-- An mbuf with the address of its data; `m_len` is an `int`. -/
structure Mbuf where
  addr : UInt64
  data : Bytes
  fits : data.length < 2147483648

def Mbuf.len (m : Mbuf) : UInt32 := UInt32.ofNat m.data.length

/-- The bytes of a chain. -/
def flat (ms : List Mbuf) : Bytes := ms.flatMap Mbuf.data

/-- The first loop of `sctp_calculate_cksum`: the mbuf that has the offset. -/
def skip : List Mbuf → UInt32 → List Mbuf × UInt32
  | [], offset => ([], offset)
  | m :: ms, offset => if offset > m.len then skip ms (offset - m.len) else (m :: ms, offset)

/-- The bytes of one mbuf from the offset on. -/
def cksumAt (e : Endian) (m : Mbuf) (offset : UInt32) (base : BitVec 32) : Option (BitVec 32) :=
  if m.len - offset > 0 then
    calculateCrc32c e base (m.addr + offset.toUInt64) (m.data.drop offset.toNat) (m.len - offset)
  else some base

/-- The second loop of `sctp_calculate_cksum`. -/
def cksum (e : Endian) : List Mbuf → UInt32 → BitVec 32 → Option (BitVec 32)
  | [], _, base => some base
  | m :: ms, offset, base => do
    let base ← cksumAt e m offset base
    let offset := if offset ≠ 0 then if offset < m.len then 0 else offset - m.len else offset
    cksum e ms offset base

def sctpFinalizeCrc32c (e : Endian) (crc32c : BitVec 32) : UInt32 :=
  let result := UInt32.ofBitVec (~~~crc32c)
  match e with
  | .big => Endian.byteSwap result
  | .little => result

def sctpCalculateCksum (e : Endian) (m : List Mbuf) (offset : UInt32) : Option UInt32 := do
  let (m, offset) := skip m offset
  let base ← cksum e m offset 0xffffffff#32
  pure (sctpFinalizeCrc32c e base)

theorem Mbuf.toNat_len (m : Mbuf) : m.len.toNat = m.data.length :=
  UInt32.toNat_ofNat_of_lt' (Nat.lt_trans m.fits (by decide))

theorem flat_cons (m : Mbuf) (ms : List Mbuf) : flat (m :: ms) = m.data ++ flat ms := rfl

theorem cksumAt_eq (e : Endian) (m : Mbuf) {offset : UInt32} (h : offset ≤ m.len)
    (base : BitVec 32) : cksumAt e m offset base = some (crc base (m.data.drop offset.toNat)) := by
  have hsub : (m.len - offset).toNat = m.data.length - offset.toNat := by
    rw [UInt32.toNat_sub_of_le _ _ h, m.toNat_len]
  have hlen : (m.data.drop offset.toNat).length = (m.len - offset).toNat := by
    rw [List.length_drop, hsub]
  unfold cksumAt
  split
  · rw [calculateCrc32c_eq e base _ (Nat.le_of_eq hlen.symm), ← hlen, List.take_length]
  · rename_i hzero
    have hnil : m.data.drop offset.toNat = [] := by
      rw [← List.length_eq_zero_iff, hlen]
      rw [gt_iff_lt, UInt32.lt_iff_toNat_lt, Nat.not_lt] at hzero
      exact Nat.eq_zero_of_le_zero hzero
    rw [hnil]
    rfl

theorem cksum_zero (e : Endian) (ms : List Mbuf) (base : BitVec 32) :
    cksum e ms 0 base = some (crc base (flat ms)) := by
  induction ms generalizing base with
  | nil => rfl
  | cons m ms ih =>
    rw [cksum, cksumAt_eq e m UInt32.zero_le, flat_cons, crc_append]
    exact ih _

/-- The offset is used up in the first mbuf. -/
theorem cksum_cons (e : Endian) (m : Mbuf) (ms : List Mbuf) {offset : UInt32}
    (h : offset ≤ m.len) (base : BitVec 32) :
    cksum e (m :: ms) offset base = some (crc base ((flat (m :: ms)).drop offset.toNat)) := by
  have hle : offset.toNat ≤ m.data.length := m.toNat_len ▸ UInt32.le_iff_toNat_le.mp h
  have hnext : (if offset ≠ 0 then if offset < m.len then 0 else offset - m.len else offset) =
      0 := by
    split
    · split
      · rfl
      · rename_i hlt
        rw [UInt32.le_antisymm h (UInt32.not_lt.mp hlt), UInt32.sub_self]
    · rename_i hzero
      exact not_not.mp hzero
  rw [cksum, cksumAt_eq e m h, Option.bind_eq_bind, Option.bind_some]
  simp only [hnext]
  rw [cksum_zero, flat_cons, List.drop_append_of_le_length hle, crc_append]

theorem sctpCalculateCksum_eq (e : Endian) (m : List Mbuf) (offset : UInt32) :
    sctpCalculateCksum e m offset =
      some (sctpFinalizeCrc32c e (crc 0xffffffff#32 ((flat m).drop offset.toNat))) := by
  have hsum : cksum e (skip m offset).1 (skip m offset).2 0xffffffff#32 =
      some (crc 0xffffffff#32 ((flat m).drop offset.toNat)) := by
    induction m generalizing offset with
    | nil => rw [flat, List.flatMap_nil, List.drop_nil]; rfl
    | cons m ms ih =>
      rw [skip]
      split
      · rename_i hgt
        have hlt : m.data.length < offset.toNat := m.toNat_len ▸ UInt32.lt_iff_toNat_lt.mp hgt
        rw [ih, UInt32.toNat_sub_of_le _ _ (UInt32.le_of_lt hgt), m.toNat_len, flat_cons,
          List.drop_append, List.drop_eq_nil_of_le (Nat.le_of_lt hlt), List.nil_append]
      · rename_i hle
        exact cksum_cons e m ms (UInt32.not_lt.mp hle) _
  rw [sctpCalculateCksum]
  simp only [hsum, Option.bind_eq_bind, Option.bind_some, Option.pure_def]

/-! ## Sending and receiving -/

/-- `struct sctphdr`, with its fields as the host has them. -/
structure Sctphdr where
  srcPort : UInt16
  destPort : UInt16
  vTag : UInt32
  checksum : UInt32

def store16 (e : Endian) (x : UInt16) : Bytes :=
  match e with
  | .little => (be16 x).reverse
  | .big => be16 x

/-- The number whose bytes in memory these are. -/
def load (e : Endian) (b₀ b₁ b₂ b₃ : UInt8) : UInt32 :=
  match e with
  | .little => ofBe32 b₃ b₂ b₁ b₀
  | .big => ofBe32 b₀ b₁ b₂ b₃

def Sctphdr.bytes (e : Endian) (h : Sctphdr) : Bytes :=
  store16 e h.srcPort ++ store16 e h.destPort ++ e.store h.vTag ++ e.store h.checksum

theorem Sctphdr.length_bytes (e : Endian) (h : Sctphdr) : (h.bytes e).length = 12 := by
  cases e <;> rfl

def Sctphdr.mbuf (e : Endian) (addr : UInt64) (h : Sctphdr) : Mbuf :=
  ⟨addr, h.bytes e, by rw [h.length_bytes]; decide⟩

def sctpCalculateLen : List Mbuf → Nat
  | [] => 0
  | m :: ms => m.data.length + sctpCalculateLen ms

/-- `m_copydata` from the start of the chain. -/
def mCopydata : List Mbuf → Nat → Option Bytes
  | _, 0 => some []
  | [], _ + 1 => none
  | m :: ms, len + 1 => do
    let count := min m.data.length (len + 1)
    let rest ← mCopydata ms (len + 1 - count)
    pure (m.data.take count ++ rest)

/-- What `sctp_lowlevel_chunk_output` hands to `conn_output` for the chunks `m`; `addr` is where
the new mbuf has its data. -/
def sctpLowlevelChunkOutput (e : Endian) (addr : UInt64) (srcPort destPort : UInt16)
    (vTag : UInt32) (m : List Mbuf) : Option Bytes := do
  let sctphdr : Sctphdr := ⟨srcPort, destPort, vTag, 0⟩
  let packetLength := sctpCalculateLen (sctphdr.mbuf e addr :: m)
  let checksum ← sctpCalculateCksum e (sctphdr.mbuf e addr :: m) 0
  mCopydata ({ sctphdr with checksum }.mbuf e addr :: m) packetLength

/-- `sh->checksum` of the header at the start of the mbuf. -/
def Mbuf.checksum (e : Endian) (m : Mbuf) : Option UInt32 :=
  match m.data.drop 8 with
  | b₀ :: b₁ :: b₂ :: b₃ :: _ => some (load e b₀ b₁ b₂ b₃)
  | _ => none

def Mbuf.setChecksum (e : Endian) (m : Mbuf) (x : UInt32) : Option Mbuf :=
  if h : 12 ≤ m.data.length then
    some ⟨m.addr, m.data.take 8 ++ e.store x ++ m.data.drop 12, by
      have hstore : (e.store x).length = 4 := by cases e <;> rfl
      have := m.fits
      simp only [List.length_append, List.length_take, List.length_drop, hstore]
      omega⟩
  else none

/-- The test at the start of `sctp_common_input_processing`: the packet goes on to its
association. -/
def checksumOk (e : Endian) : List Mbuf → Option Bool
  | [] => none
  | m :: ms => do
    let check ← m.checksum e
    let cleared ← m.setChecksum e 0
    let calcCheck ← sctpCalculateCksum e (cleared :: ms) 0
    pure (calcCheck = check)

/-! ## What is accepted -/

/-- The checksum field of a packet. -/
def field (p : Bytes) : Bytes := (p.drop 8).take 4

/-- The packet with its checksum field at 0. -/
def cleared (p : Bytes) : Bytes := p.take 8 ++ ([0, 0, 0, 0] ++ p.drop 12)

/-- The bytes of the checksum for what the register holds. -/
def trailer (c : BitVec 32) : Bytes := Endian.little.store (UInt32.ofBitVec (~~~c))

def Valid (p : Bytes) : Prop := field p = trailer (crc 0xffffffff#32 (cleared p))

instance (p : Bytes) : Decidable (Valid p) := inferInstanceAs (Decidable (_ = _))

theorem store_finalize (e : Endian) (c : BitVec 32) :
    e.store (sctpFinalizeCrc32c e c) = trailer c := by
  cases e with
  | little => rfl
  | big => exact Endian.be32_byteSwap _

theorem store_load (e : Endian) (b₀ b₁ b₂ b₃ : UInt8) :
    e.store (load e b₀ b₁ b₂ b₃) = [b₀, b₁, b₂, b₃] := by
  cases e with
  | little => rw [Endian.store, load, be32_ofBe32]; rfl
  | big => exact be32_ofBe32 ..

theorem store_inj {e : Endian} {x y : UInt32} : e.store x = e.store y ↔ x = y := by
  cases e with
  | little => exact List.reverse_inj.trans be32_inj
  | big => exact be32_inj

theorem store_zero (e : Endian) : e.store 0 = [0, 0, 0, 0] := by cases e <;> rfl

/-- The test depends on the bytes of the packet alone. -/
theorem checksumOk_eq (e : Endian) {m : Mbuf} (ms : List Mbuf) (h : 12 ≤ m.data.length) :
    checksumOk e (m :: ms) = some (decide (Valid (flat (m :: ms)))) := by
  obtain ⟨b₀, b₁, b₂, b₃, rest, hdrop⟩ :
      ∃ b₀ b₁ b₂ b₃ rest, m.data.drop 8 = b₀ :: b₁ :: b₂ :: b₃ :: rest := by
    have hlen : 4 ≤ (m.data.drop 8).length := by
      rw [List.length_drop]
      omega
    match m.data.drop 8, hlen with
    | b₀ :: b₁ :: b₂ :: b₃ :: rest, _ => exact ⟨b₀, b₁, b₂, b₃, rest, rfl⟩
  have h8 : 8 ≤ m.data.length := Nat.le_trans (by decide) h
  have hfield : field (flat (m :: ms)) = e.store (load e b₀ b₁ b₂ b₃) := by
    rw [field, flat_cons, List.drop_append_of_le_length h8, hdrop, store_load]
    rfl
  have hcleared : m.data.take 8 ++ e.store 0 ++ m.data.drop 12 ++ flat ms =
      cleared (flat (m :: ms)) := by
    rw [cleared, flat_cons, List.take_append_of_le_length h8, List.drop_append_of_le_length h,
      store_zero]
    simp only [List.append_assoc]
  have hvalid : sctpFinalizeCrc32c e (crc 0xffffffff#32 (cleared (flat (m :: ms)))) =
      load e b₀ b₁ b₂ b₃ ↔ Valid (flat (m :: ms)) := by
    rw [Valid, hfield, ← store_finalize e, store_inj, eq_comm]
  simp only [checksumOk, Mbuf.checksum, hdrop, Mbuf.setChecksum, h, dite_true,
    sctpCalculateCksum_eq, flat_cons, UInt32.toNat_zero, List.drop_zero, hcleared,
    Option.bind_eq_bind, Option.bind_some, Option.pure_def]
  exact congrArg some (decide_eq_decide.mpr hvalid)

theorem sctpCalculateLen_eq (ms : List Mbuf) : sctpCalculateLen ms = (flat ms).length := by
  induction ms with
  | nil => rfl
  | cons m ms ih => rw [sctpCalculateLen, ih, flat_cons, List.length_append]

theorem mCopydata_eq (ms : List Mbuf) : mCopydata ms (sctpCalculateLen ms) = some (flat ms) := by
  induction ms with
  | nil => rfl
  | cons m ms ih =>
    cases hlen : sctpCalculateLen (m :: ms) with
    | zero =>
      rw [sctpCalculateLen_eq, List.length_eq_zero_iff] at hlen
      rw [hlen, mCopydata]
    | succ n =>
      have hcount : min m.data.length (n + 1) = m.data.length := by
        rw [sctpCalculateLen] at hlen
        omega
      have hrest : n + 1 - m.data.length = sctpCalculateLen ms := by
        rw [sctpCalculateLen] at hlen
        omega
      simp only [mCopydata, hcount, hrest, ih, Option.bind_eq_bind, Option.bind_some,
        Option.pure_def, List.take_length, flat_cons]

theorem length_store (e : Endian) (x : UInt32) : (e.store x).length = 4 := by cases e <;> rfl

/-- A packet whose first eight bytes and whose checksum field are known. -/
theorem valid_append {pre : Bytes} (h : pre.length = 8) (e : Endian) (x : UInt32) (rest : Bytes) :
    Valid (pre ++ e.store x ++ rest) ↔
      e.store x = trailer (crc 0xffffffff#32 (pre ++ e.store 0 ++ rest)) := by
  have hfield : field (pre ++ e.store x ++ rest) = e.store x := by
    rw [field, List.append_assoc, List.drop_left' h, List.take_left' (length_store e x)]
  have hcleared : cleared (pre ++ e.store x ++ rest) = pre ++ e.store 0 ++ rest := by
    have h12 : (pre ++ e.store x).length = 12 := by rw [List.length_append, h, length_store]
    rw [cleared, List.drop_left' h12, List.append_assoc, List.take_left' h, store_zero,
      List.append_assoc]
  rw [Valid, hfield, hcleared]

/-- **What is sent is accepted.** The packet that `sctp_lowlevel_chunk_output` makes of any chunks
passes the test of `sctp_common_input_processing`, into whatever chain it is copied there and
whatever the byte orders of the two hosts are. -/
theorem sent_accepted (e : Endian) (addr : UInt64) (srcPort destPort : UInt16) (vTag : UInt32)
    (chunks : List Mbuf) :
    ∃ packet, sctpLowlevelChunkOutput e addr srcPort destPort vTag chunks = some packet ∧
      ∀ (e' : Endian) (m : Mbuf) (ms : List Mbuf), 12 ≤ m.data.length → flat (m :: ms) = packet →
        checksumOk e' (m :: ms) = some true := by
  let hdr : Sctphdr := ⟨srcPort, destPort, vTag, 0⟩
  let sent : Sctphdr := { hdr with
    checksum := sctpFinalizeCrc32c e (crc 0xffffffff#32 (hdr.bytes e ++ flat chunks)) }
  have hout : sctpLowlevelChunkOutput e addr srcPort destPort vTag chunks =
      some (sent.bytes e ++ flat chunks) := by
    have hlen : sctpCalculateLen (hdr.mbuf e addr :: chunks) =
        sctpCalculateLen (sent.mbuf e addr :: chunks) := by
      simp only [sctpCalculateLen, Sctphdr.mbuf, Sctphdr.length_bytes]
    have hcopy := mCopydata_eq (sent.mbuf e addr :: chunks)
    rw [← hlen] at hcopy
    rw [sctpLowlevelChunkOutput, sctpCalculateCksum_eq]
    exact hcopy
  refine ⟨_, hout, fun e' m ms h12 hflat => ?_⟩
  have hpre : (store16 e srcPort ++ store16 e destPort ++ e.store vTag).length = 8 := by
    cases e <;> rfl
  have hvalid : Valid (sent.bytes e ++ flat chunks) :=
    (valid_append hpre e _ _).mpr (store_finalize e _)
  rw [checksumOk_eq e' ms h12, hflat, decide_eq_true hvalid]

/-- A packet with one chunk that is copied into two mbufs on the other side. -/
theorem cookieAck_accepted : ∃ packet,
    sctpLowlevelChunkOutput .little 0x1004 0x8813 0x8813 0x01000000
      [⟨0x2000, [0x0b, 0, 0, 4], by decide⟩] = some packet ∧
    packet = [0x13, 0x88, 0x13, 0x88, 0, 0, 0, 1, 0xc8, 0xf9, 0xc8, 0xcd, 0x0b, 0, 0, 4] ∧
    checksumOk .big
      [⟨0x3000, packet.take 13, Nat.lt_of_le_of_lt (List.length_take_le ..) (by decide)⟩,
        ⟨0x4001, [0, 0, 4], by decide⟩] = some true := by
  obtain ⟨packet, hout, haccepted⟩ := sent_accepted .little 0x1004 0x8813 0x8813 0x01000000
    [⟨0x2000, [0x0b, 0, 0, 4], by decide⟩]
  have hpacket : packet =
      [0x13, 0x88, 0x13, 0x88, 0, 0, 0, 1, 0xc8, 0xf9, 0xc8, 0xcd, 0x0b, 0, 0, 4] := by
    refine Option.some.inj (hout.symm.trans ?_)
    decide +kernel
  subst hpacket
  exact ⟨_, hout, rfl, haccepted .big _ _ (by decide) rfl⟩

/-! ## Errors -/

/-- The number of bits in which two packets of the same length differ. -/
def distance (p q : Bytes) : Nat := ((bits p).zip (bits q)).countP fun x => x.1 != x.2

/-- Two packets differ, within 32 bits and outside of the checksum field. -/
structure Burst (p q : Bytes) : Prop where
  ne : p ≠ q
  field : field p = field q
  window : ∃ k, ∀ i, i < k ∨ k + 32 ≤ i → (bits p)[i]? = (bits q)[i]?

theorem eq_append_field (p : Bytes) : p.take 8 ++ (field p ++ p.drop 12) = p := by
  have hdrop : p.drop 12 = (p.drop 8).drop 4 := by rw [List.drop_drop]
  rw [field, hdrop, List.take_append_drop, List.take_append_drop]

theorem trailer_inj {c d : BitVec 32} (h : trailer c = trailer d) : c = d := by
  have hbits : ~~~c = ~~~d := congrArg UInt32.toBitVec (store_inj.mp h)
  exact BitVec.not_inj.mp hbits

theorem xorAll_trailer (c : BitVec 32) : xorAll (bits (trailer c)) = parity c := by
  have hbits : bits (trailer c) = (List.range 32).map (~~~c).getLsbD := by
    simp [bits, trailer, Endian.store, be32, List.range_succ]
  have hones : ~~~c = c ^^^ BitVec.allOnes 32 := (BitVec.xor_allOnes).symm
  have hparity : parity (BitVec.allOnes 32) = false := by decide
  rw [hbits, xorAll_getLsbD, hones, parity_xor, hparity, Bool.xor_false]

/-- An accepted packet has an even number of bits set. -/
theorem Valid.even {p : Bytes} (h : Valid p) : xorAll (bits p) = false := by
  have hpoly : parity poly = true := by decide
  have hinit : parity 0xffffffff#32 = false := by decide
  have hzero : xorAll (bits [0, 0, 0, 0]) = false := by decide
  have hcrc : xorAll (bits (field p)) = xorAll (bits (cleared p)) := by
    rw [h, xorAll_trailer, crc, parity_feed hpoly, hinit, Bool.false_xor]
  have hp := congrArg (fun p => xorAll (bits p)) (eq_append_field p)
  rw [cleared, bits_append, bits_append, xorAll_append, xorAll_append, hzero] at hcrc
  simp only [bits_append, xorAll_append, hcrc] at hp
  rw [← hp]
  cases xorAll (bits (p.take 8)) <;> cases xorAll (bits (p.drop 12)) <;> rfl

theorem Valid.length_ge {p : Bytes} (h : Valid p) : 12 ≤ p.length := by
  have hlen := congrArg List.length h
  rw [field, trailer, length_store, List.length_take, List.length_drop] at hlen
  omega

theorem getElem?_bits_cleared {p : Bytes} (h : 12 ≤ p.length) (i : Nat) :
    (bits (cleared p))[i]? = if 64 ≤ i ∧ i < 96 then some false else (bits p)[i]? := by
  have hzero : bits [0, 0, 0, 0] = List.replicate 32 false := by decide
  have hcleared : bits (cleared p) =
      (bits p).take 64 ++ (List.replicate 32 false ++ (bits p).drop 96) := by
    rw [cleared, bits_append, bits_append, (bits_take_drop 8 p).1, (bits_take_drop 12 p).2, hzero]
  have hlen : ((bits p).take 64).length = 64 := by
    rw [List.length_take, length_bits]
    omega
  rw [hcleared]
  rcases Nat.lt_or_ge i 64 with hi | hi
  · rw [List.getElem?_append_left (by omega), List.getElem?_take, if_pos hi, if_neg (by omega)]
  · rw [List.getElem?_append_right (by omega), hlen]
    rcases Nat.lt_or_ge i 96 with hi' | hi'
    · rw [List.getElem?_append_left (by rw [List.length_replicate]; omega),
        List.getElem?_replicate, if_pos (by omega), if_pos ⟨hi, hi'⟩]
    · rw [List.getElem?_append_right (by rw [List.length_replicate]; omega),
        List.length_replicate, List.getElem?_drop, if_neg (by omega)]
      congr 1
      omega

theorem Valid.not_of_burst {p q : Bytes} (h : Valid p) (hb : Burst p q)
    (hlen : p.length = q.length) : ¬ Valid q := by
  intro hq
  obtain ⟨k, hwin⟩ := hb.window
  have hcrc : crc 0xffffffff#32 (cleared p) = crc 0xffffffff#32 (cleared q) :=
    trailer_inj (by rw [← h, ← hq, hb.field])
  have hpoly : poly.msb = true := by decide
  refine feed_ne_of_window hpoly 0xffffffff#32 ?_ ?_ k (fun i hi => ?_) hcrc
  · simp [length_bits, cleared, hlen]
  · intro hbits
    have htake : (p.take 8).length = (q.take 8).length := by simp [hlen]
    obtain ⟨hfirst, hrest⟩ := List.append_inj (bits_inj hbits) htake
    refine hb.ne ?_
    rw [← eq_append_field p, ← eq_append_field q, hfirst, hb.field, List.append_cancel_left hrest]
  · rw [getElem?_bits_cleared h.length_ge, getElem?_bits_cleared hq.length_ge, hwin i hi]

theorem valid_of_checksumOk {e : Endian} {m : Mbuf} {ms : List Mbuf}
    (h : checksumOk e (m :: ms) = some true) : Valid (flat (m :: ms)) := by
  by_cases h12 : 12 ≤ m.data.length
  · rw [checksumOk_eq e ms h12, Option.some.injEq] at h
    exact of_decide_eq_true h
  · simp [checksumOk, Mbuf.setChecksum, h12] at h

/-- **What the checksum detects.** Let a packet be accepted, and another one of the same length
differ from it in an odd number of bits, or within 32 bits outside of the checksum field, or in
that field alone. The other packet is rejected. -/
theorem errors_rejected {e e' : Endian} {m m' : Mbuf} {ms ms' : List Mbuf}
    (h : checksumOk e (m :: ms) = some true) (h' : 12 ≤ m'.data.length)
    (hlen : (flat (m' :: ms')).length = (flat (m :: ms)).length)
    (herror : distance (flat (m :: ms)) (flat (m' :: ms')) % 2 = 1 ∨
      Burst (flat (m :: ms)) (flat (m' :: ms')) ∨
      (field (flat (m :: ms)) ≠ field (flat (m' :: ms')) ∧
        cleared (flat (m :: ms)) = cleared (flat (m' :: ms')))) :
    checksumOk e' (m' :: ms') = some false := by
  have hvalid := valid_of_checksumOk h
  rw [checksumOk_eq e' ms' h', Option.some.injEq, decide_eq_false_iff_not]
  rcases herror with hodd | hburst | ⟨hfield, hcleared⟩
  · intro hvalid'
    have hbits : (bits (flat (m :: ms))).length = (bits (flat (m' :: ms'))).length := by
      rw [length_bits, length_bits, hlen]
    have hxor := xorAll_xor hbits
    rw [hvalid.even, hvalid'.even] at hxor
    exact Bool.false_ne_true (hxor.trans (decide_eq_true hodd))
  · exact hvalid.not_of_burst hburst hlen.symm
  · intro hvalid'
    exact hfield (by rw [hvalid, hvalid', hcleared])

/-- The verification tag arrives with one bit changed. -/
theorem changed_tag_rejected : checksumOk .little
    [⟨0, [0x13, 0x88, 0x13, 0x88, 0, 0, 0, 3, 0xc8, 0xf9, 0xc8, 0xcd, 0x0b, 0, 0, 4],
      by decide⟩] = some false := by
  have haccepted : checksumOk .little
      [⟨0, [0x13, 0x88, 0x13, 0x88, 0, 0, 0, 1, 0xc8, 0xf9, 0xc8, 0xcd, 0x0b, 0, 0, 4],
        by decide⟩] = some true := by decide +kernel
  exact errors_rejected haccepted (by decide) rfl (.inl (by decide +kernel))

-- the same packet changed within 32 bits of the tag and of the checksum field
example : checksumOk .little
    [⟨0, [0x13, 0x88, 0x13, 0x88, 0xbc, 0x48, 0xd2, 0x5f,
      0xcb, 0xf9, 0xc8, 0xcd, 0x0b, 0x00, 0x00, 0x04], by decide⟩] = some true := by
  decide +kernel

end Sctp4Nat.Crc32c
