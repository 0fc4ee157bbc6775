import Mathlib.Algebra.Group.Nat.Defs
import Sctp4Nat.Origin.SctpNotification

/-! # The layout of notifications

The structs that usrsctp hands up, byte by byte, and what `parse` reads from them. A `Reads` fact
says that a reader takes certain bytes and returns a certain value wherever the bytes are in the
buffer, so the facts compose as the readers do. Only `PeerAddressChange` looks at the length of
the array. -/

namespace Sctp4Nat

/-! ## Little-endian numbers -/

def le16 (x : UInt16) : Bytes := [x.toUInt8, (x >>> 8).toUInt8]

def le32 (x : UInt32) : Bytes :=
  [x.toUInt8, (x >>> 8).toUInt8, (x >>> 16).toUInt8, (x >>> 24).toUInt8]

theorem length_le32 (x : UInt32) : (le32 x).length = 4 := rfl

theorem eq_of_toInt32_eq {x y : UInt32} (h : x.toInt32 = y.toInt32) : x = y := by
  simpa using congrArg Int32.toUInt32 h

/-- Read as an `int`, the numbers of the upper half come out negative. -/
theorem toInt_toInt32_iff (x : UInt32) : x.toInt32.toInt = x.toNat ↔ x.toNat < 2 ^ 31 := by
  have hx := x.toNat_lt
  have hbits : x.toInt32.toInt = x.toBitVec.toInt := rfl
  rw [hbits, BitVec.toInt_eq_toNat_cond, UInt32.toNat_toBitVec]
  split <;> omega

namespace ByteBuffer

theorem char_le16 (x : UInt16) : char x.toUInt8 (x >>> 8).toUInt8 = x := by
  have hx := x.toNat_lt
  have hlow : x.toNat % 256 < 2 ^ 8 := Nat.mod_lt _ (by decide)
  have hhigh : x.toNat >>> 8 % 256 = x.toNat / 256 := by
    rw [Nat.shiftRight_eq_div_pow]
    omega
  refine UInt16.toNat_inj.mp ?_
  simp only [char, UInt16.toNat_or, UInt16.toNat_shiftLeft, UInt8.toNat_toUInt16,
    UInt16.toNat_toUInt8, UInt16.toNat_shiftRight]
  change ((x.toNat >>> 8 % 256) <<< 8) % 2 ^ 16 ||| x.toNat % 256 = x.toNat
  rw [hhigh, Nat.mod_eq_of_lt (by rw [Nat.shiftLeft_eq]; omega),
    ← Nat.shiftLeft_add_eq_or_of_lt hlow, Nat.shiftLeft_eq]
  omega

theorem int_le32 (x : UInt32) :
    int x.toUInt8 (x >>> 8).toUInt8 (x >>> 16).toUInt8 (x >>> 24).toUInt8 = x.toInt32 := by
  refine Int32.toBitVec_inj.mp (BitVec.eq_of_getLsbD_eq fun i hi => ?_)
  simp [int]
  grind

/-- Every four bytes are a number. -/
theorem exists_le32 {bytes : Bytes} (h : bytes.length = 4) : ∃ x, bytes = le32 x := by
  obtain ⟨b₀, b₁, b₂, b₃, rfl⟩ := List.length_eq_four.mp h
  refine ⟨(int b₀ b₁ b₂ b₃).toUInt32, ?_⟩
  have hbits : ∀ i < 32, (int b₀ b₁ b₂ b₃).toUInt32.toBitVec.getLsbD i =
      if i < 8 then b₀.toBitVec.getLsbD i
      else if i < 16 then b₁.toBitVec.getLsbD (i - 8)
      else if i < 24 then b₂.toBitVec.getLsbD (i - 16)
      else b₃.toBitVec.getLsbD (i - 24) := by
    intro i hi
    simp [int]
    grind
  generalize (int b₀ b₁ b₂ b₃).toUInt32 = x at hbits
  simp only [le32, List.cons.injEq, and_true]
  refine ⟨?_, ?_, ?_, ?_⟩ <;>
  · refine UInt8.toBitVec_inj.mp (BitVec.eq_of_getLsbD_eq fun i hi => ?_)
    simp
    grind

theorem le32_inj {x y : UInt32} : le32 x = le32 y ↔ x = y := by
  refine ⟨fun h => eq_of_toInt32_eq ?_, fun h => by rw [h]⟩
  simp only [le32, List.cons.injEq, and_true] at h
  obtain ⟨h₀, h₁, h₂, h₃⟩ := h
  rw [← int_le32, ← int_le32, h₀, h₁, h₂, h₃]

theorem suffix_append_le32_iff {bytes : Bytes} {x y : UInt32} :
    le32 x <:+ bytes ++ le32 y ↔ x = y := by
  constructor
  · intro h
    have hsuffix := List.suffix_of_suffix_length_le h (List.suffix_append bytes (le32 y))
      (Nat.le_refl 4)
    exact le32_inj.mp (hsuffix.eq_of_length rfl)
  · rintro rfl
    exact List.suffix_append ..

/-! ## Readers -/

variable {α β : Type}

/-- The reader takes `bytes` and returns `a`, wherever the bytes are in the buffer. -/
def Reads (m : Reader α) (bytes : Bytes) (a : α) : Prop :=
  ∀ before after, m.run ⟨before ++ (bytes ++ after), before.length⟩ =
    .ok (a, ⟨before ++ (bytes ++ after), before.length + bytes.length⟩)

theorem Reads.pure (a : α) : Reads (pure a) [] a := fun _ _ => rfl

theorem Reads.bind {m : Reader α} {f : α → Reader β} {xs ys : Bytes} {a : α} {b : β}
    (hm : Reads m xs a) (hf : Reads (f a) ys b) : Reads (m >>= f) (xs ++ ys) b := by
  intro before after
  have hm := hm before (ys ++ after)
  have hf := hf (before ++ xs) after
  simp only [List.append_assoc, List.length_append] at hm hf ⊢
  refine run_bind_ok_iff.mpr ⟨a, _, hm, ?_⟩
  rw [hf, Nat.add_assoc]

theorem getChar_run {b : ByteBuffer} {b₀ b₁ : UInt8} {rest : Bytes}
    (h : b.data.drop b.position = b₀ :: b₁ :: rest) :
    getChar.run b = .ok (char b₀ b₁, { b with position := b.position + 2 }) := by
  simp only [getChar, StateT.run_bind, StateT.run_get, pure_bind, h]
  rfl

theorem getInt_run {b : ByteBuffer} {b₀ b₁ b₂ b₃ : UInt8} {rest : Bytes}
    (h : b.data.drop b.position = b₀ :: b₁ :: b₂ :: b₃ :: rest) :
    getInt.run b = .ok (int b₀ b₁ b₂ b₃, { b with position := b.position + 4 }) := by
  simp only [getInt, StateT.run_bind, StateT.run_get, pure_bind, h]
  rfl

theorem reads_getChar (x : UInt16) : Reads getChar (le16 x) x := by
  intro before after
  refine (getChar_run (List.drop_left' rfl)).trans ?_
  rw [char_le16]
  rfl

theorem reads_getInt (x : UInt32) : Reads getInt (le32 x) x.toInt32 := by
  intro before after
  refine (getInt_run (List.drop_left' rfl)).trans ?_
  rw [int_le32]
  rfl

theorem setPosition_run {b : ByteBuffer} {p : Nat} (h : p ≤ b.data.length) :
    (setPosition p).run b = .ok ((), { b with position := p }) := by
  have hin : ¬ ((p : Int) < 0 ∨ (b.data.length : Int) < p) := by omega
  simp only [setPosition, StateT.run_bind, StateT.run_get, pure_bind, if_neg hin]
  rfl

end ByteBuffer

namespace SctpNotification

open ByteBuffer

/-- The first eight bytes of every struct. -/
def header (type flags : UInt16) (length : UInt32) : Bytes :=
  le16 type ++ (le16 flags ++ le32 length)

theorem length_header (type flags : UInt16) (length : UInt32) :
    (header type flags length).length = 8 := rfl

/-- `parse` reads the header, and then what the class for the type reads. -/
theorem parse_of_readBody {type flags : UInt16} {length : UInt32} {rest : Bytes} {body : Body}
    {b : ByteBuffer}
    (h : (readBody type).run ⟨header type flags length ++ rest, 8⟩ = .ok (body, b)) :
    parse (header type flags length ++ rest) = .ok ⟨type, flags, length.toInt32, body⟩ := by
  have htype : getChar.run ⟨header type flags length ++ rest, 0⟩ =
      .ok (type, ⟨header type flags length ++ rest, 2⟩) := reads_getChar type [] _
  have hflags : getChar.run ⟨header type flags length ++ rest, 2⟩ =
      .ok (flags, ⟨header type flags length ++ rest, 4⟩) :=
    reads_getChar flags (le16 type) (le32 length ++ rest)
  have hlength : getInt.run ⟨header type flags length ++ rest, 4⟩ =
      .ok (length.toInt32, ⟨header type flags length ++ rest, 8⟩) :=
    reads_getInt length (le16 type ++ le16 flags) rest
  change (read (char type.toUInt8 (type >>> 8).toUInt8)).run'
    ⟨header type flags length ++ rest, 0⟩ = _
  rw [char_le16, run'_ok_iff]
  refine ⟨b, run_bind_ok_iff.mpr ⟨_, _, htype, run_bind_ok_iff.mpr ⟨_, _, hflags,
    run_bind_ok_iff.mpr ⟨_, _, hlength, run_bind_ok_iff.mpr ⟨_, _, h, ?_⟩⟩⟩⟩⟩
  exact run_pure_ok_iff.mpr rfl

/-- A class that reads its fields from the front of what follows the header. -/
theorem parse_of_reads {type : UInt16} {fields : Bytes} {body : Body}
    (h : Reads (readBody type) fields body) (flags : UInt16) (length : UInt32) (rest : Bytes) :
    parse (header type flags length ++ (fields ++ rest)) =
      .ok ⟨type, flags, length.toInt32, body⟩ :=
  parse_of_readBody (h (header type flags length) rest)

/-! ## The padding of `sctp_paddr_change` -/

/-- A `sctp_paddr_change` with a `sockaddr_storage` and a padding of any length. -/
def paddrChange (flags : UInt16) (length : UInt32) (aaddr : Bytes) (state error assocId : UInt32)
    (padding : Bytes) : Bytes :=
  header sctpPeerAddrChange flags length ++
    (aaddr ++ (le32 state ++ (le32 error ++ (le32 assocId ++ padding))))

/-- `PeerAddressChange` reads the three numbers that end four bytes before the end of the array. -/
theorem readPeerAddressChange_run (before after : Bytes) (x y z : UInt32)
    (h : after.length = 4) :
    ∃ b, readPeerAddressChange.run ⟨before ++ (le32 x ++ (le32 y ++ (le32 z ++ after))), 8⟩ =
      .ok (.peerAddressChange x.toInt32 y.toInt32 z.toInt32, b) := by
  let data := before ++ (le32 x ++ (le32 y ++ (le32 z ++ after)))
  have hfields : Reads (do
      let state ← getInt
      let error ← getInt
      let assocId ← getInt
      pure (Body.peerAddressChange state error assocId)) (le32 x ++ (le32 y ++ (le32 z ++ [])))
      (.peerAddressChange x.toInt32 y.toInt32 z.toInt32) :=
    (reads_getInt x).bind ((reads_getInt y).bind ((reads_getInt z).bind (.pure _)))
  have hlen : data.length = before.length + 16 := by
    simp only [data, List.length_append, length_le32, h]
  -- the skipped length is that of `before` without the header
  have hpos : ((8 : Nat) + ((data.length : Int) - 24) : Int) = (before.length : Nat) := by omega
  have hskip := setPosition_run (b := ⟨data, 8⟩) (p := before.length)
    (by dsimp only; omega)
  refine ⟨⟨data, before.length + 12⟩, run_bind_ok_iff.mpr ⟨⟨data, 8⟩, ⟨data, 8⟩, rfl, ?_⟩⟩
  refine run_bind_ok_iff.mpr ⟨(), ⟨data, before.length⟩, ?_, ?_⟩
  · dsimp only
    rw [hpos]
    exact hskip
  · have hrun := hfields before after
    simp only [List.append_assoc, List.nil_append] at hrun
    exact hrun

/-- The last four bytes before the numbers, when no padding follows them. -/
theorem parse_unpadded {flags : UInt16} {length : UInt32} {aaddr before : Bytes} {x : UInt32}
    (h : header sctpPeerAddrChange flags length ++ aaddr = before ++ le32 x)
    (state error assocId : UInt32) :
    parse (paddrChange flags length aaddr state error assocId []) =
      .ok ⟨sctpPeerAddrChange, flags, length.toInt32,
        .peerAddressChange x.toInt32 state.toInt32 error.toInt32⟩ := by
  obtain ⟨b, hrun⟩ := readPeerAddressChange_run before (le32 assocId) x state error rfl
  refine parse_of_readBody (b := b) ?_
  rw [← List.append_assoc, h, List.append_nil, List.append_assoc]
  exact hrun

theorem parse_padded {padding : Bytes} (h : padding.length = 4) (flags : UInt16) (length : UInt32)
    (aaddr : Bytes) (state error assocId : UInt32) :
    parse (paddrChange flags length aaddr state error assocId padding) =
      .ok ⟨sctpPeerAddrChange, flags, length.toInt32,
        .peerAddressChange state.toInt32 error.toInt32 assocId.toInt32⟩ := by
  obtain ⟨b, hrun⟩ := readPeerAddressChange_run (header sctpPeerAddrChange flags length ++ aaddr)
    padding state error assocId h
  refine parse_of_readBody (b := b) ?_
  rw [← List.append_assoc]
  exact hrun

/-- The notification has the numbers of the struct, as bit patterns. -/
def HasPatterns (data : Bytes) (state error assocId : UInt32) : Prop :=
  ∃ n, parse data = .ok n ∧
    n.body = .peerAddressChange state.toInt32 error.toInt32 assocId.toInt32

/-- **The padding of `sctp_paddr_change`.** With a padding of four bytes the three numbers are
read as they are. Without padding `PeerAddressChange` starts four bytes too early, so it gets them
only when the bytes before the state are those of the state, and the error and the association are
the same number. -/
theorem hasPatterns_iff (flags : UInt16) (length : UInt32) (aaddr : Bytes)
    (state error assocId : UInt32) (padding : Bytes)
    (h : padding.length = 0 ∨ padding.length = 4) :
    HasPatterns (paddrChange flags length aaddr state error assocId padding) state error assocId ↔
      padding.length = 4 ∨
        (le32 state <:+ header sctpPeerAddrChange flags length ++ aaddr ∧ error = state ∧
          assocId = error) := by
  rcases h with h | h
  · obtain rfl := List.length_eq_zero_iff.mp h
    let front := header sctpPeerAddrChange flags length ++ aaddr
    have hfront : 4 ≤ front.length := by
      simp only [front, List.length_append, length_header]
      omega
    have hlast : (front.drop (front.length - 4)).length = 4 := by
      rw [List.length_drop]
      omega
    obtain ⟨x, hx⟩ := exists_le32 hlast
    have hsplit : front = front.take (front.length - 4) ++ le32 x := by
      rw [← hx, List.take_append_drop]
    have hparse := parse_unpadded hsplit state error assocId
    have hsuffix : le32 state <:+ front ↔ state = x := by
      rw [hsplit]
      exact suffix_append_le32_iff
    change _ ↔ _ ∨ (le32 state <:+ front ∧ _)
    rw [hsuffix]
    constructor
    · rintro ⟨n, hn, hbody⟩
      rw [hparse, Except.ok.injEq] at hn
      rw [← hn, Body.peerAddressChange.injEq] at hbody
      obtain ⟨hstate, herror, hassoc⟩ := hbody
      exact .inr ⟨(eq_of_toInt32_eq hstate).symm, (eq_of_toInt32_eq herror).symm,
        (eq_of_toInt32_eq hassoc).symm⟩
    · rintro (h | ⟨rfl, rfl, rfl⟩)
      · cases h
      · exact ⟨_, hparse, rfl⟩
  · exact ⟨fun _ => .inl h, fun _ => ⟨_, parse_padded h .., rfl⟩⟩

/-- A padded struct is read as it is. -/
theorem padded_hasPatterns : HasPatterns
    (paddrChange 0 152 (List.replicate 128 0) 2 0 7 [0, 0, 0, 0]) 2 0 7 :=
  (hasPatterns_iff 0 152 (List.replicate 128 0) 2 0 7 [0, 0, 0, 0] (.inr rfl)).mpr (.inl rfl)

/-- Without padding, an address that is unreachable (state 2) comes out as state 0. -/
theorem unpadded_state_lost : ¬ HasPatterns
    (paddrChange 0 148 (List.replicate 128 0) sctpAddrUnreachable.toUInt32 0 7 [])
      sctpAddrUnreachable.toUInt32 0 7 ∧
    ∃ n, parse (paddrChange 0 148 (List.replicate 128 0) sctpAddrUnreachable.toUInt32 0 7 []) =
      .ok n ∧ n.body = .peerAddressChange 0 2 0 := by
  have hparse : parse (paddrChange 0 148 (List.replicate 128 0) sctpAddrUnreachable.toUInt32 0 7
      []) = .ok ⟨sctpPeerAddrChange, 0, 148, .peerAddressChange 0 2 0⟩ := by decide +kernel
  refine ⟨fun ⟨n, hn, hbody⟩ => ?_, _, hparse, rfl⟩
  rw [hparse, Except.ok.injEq] at hn
  rw [← hn] at hbody
  exact absurd hbody (by decide)

/-! ## The structs -/

/-- What follows the header, with the fields that the struct has on a platform where
`sockaddr_storage` has 128 bytes. Of the types of `other` Java reads the header only. -/
inductive Payload
  | assocChange (state error outboundStreams inboundStreams : UInt16) (assocId : UInt32)
      (info : Bytes)
  | paddrChange (aaddr : Vector UInt8 128) (state error assocId : UInt32)
      (padding : Vector UInt8 4)
  | sendFailed (error : UInt32) (rest : Bytes)
  | senderDry (assocId : UInt32)
  | other (type : UInt16) (rest : Bytes)
      (h : type ∉ [sctpAssocChange, sctpPeerAddrChange, sctpSendFailed, sctpSenderDryEvent])

namespace Payload

def type : Payload → UInt16
  | .assocChange .. => sctpAssocChange
  | .paddrChange .. => sctpPeerAddrChange
  | .sendFailed .. => sctpSendFailed
  | .senderDry .. => sctpSenderDryEvent
  | .other type .. => type

def bytes : Payload → Bytes
  | .assocChange state error outboundStreams inboundStreams assocId info =>
    le16 state ++ (le16 error ++ (le16 outboundStreams ++ (le16 inboundStreams ++
      (le32 assocId ++ info))))
  | .paddrChange aaddr state error assocId padding =>
    aaddr.toList ++ (le32 state ++ (le32 error ++ (le32 assocId ++ padding.toList)))
  | .sendFailed error rest => le32 error ++ rest
  | .senderDry assocId => le32 assocId
  | .other _ rest _ => rest

end Payload

/-- A notification as usrsctp hands it up. -/
structure Struct where
  flags : UInt16
  length : UInt32
  payload : Payload

def Struct.encode (c : Struct) : Bytes :=
  header c.payload.type c.flags c.length ++ c.payload.bytes

namespace Payload

/-- What the constructors read: the numbers of 32 bits as `int`. -/
def body : Payload → Body
  | .assocChange state error outboundStreams inboundStreams assocId _ =>
    .associationChange state error outboundStreams inboundStreams assocId.toInt32
  | .paddrChange _ state error assocId _ =>
    .peerAddressChange state.toInt32 error.toInt32 assocId.toInt32
  | .sendFailed error _ => .sendFailed error.toInt32
  | .senderDry assocId => .senderDry assocId.toInt32
  | .other type _ _ => if type = sctpStreamResetEvent then .streamReset else .plain

/-- The fields have the values of the struct. A field of type `long` holds the `int` that was
read. -/
def Values : Payload → Body → Prop
  | .assocChange state error outboundStreams inboundStreams assocId _,
    .associationChange state' error' outboundStreams' inboundStreams' assocId' =>
    state' = state ∧ error' = error ∧ outboundStreams' = outboundStreams ∧
      inboundStreams' = inboundStreams ∧ assocId'.toInt64.toInt = assocId.toNat
  | .paddrChange _ state error assocId _, .peerAddressChange state' error' assocId' =>
    state'.toInt = state.toNat ∧ error'.toInt64.toInt = error.toNat ∧
      assocId'.toInt64.toInt = assocId.toNat
  | .sendFailed error _, .sendFailed error' => error'.toInt64.toInt = error.toNat
  | .senderDry assocId, .senderDry assocId' => assocId'.toInt64.toInt = assocId.toNat
  | .other type _ _, .streamReset => type = sctpStreamResetEvent
  | .other type _ _, .plain => type ≠ sctpStreamResetEvent
  | _, _ => False

/-- The numbers of 32 bits that the class for the struct reads after the header. -/
def words : Payload → List UInt32
  | .assocChange _ _ _ _ assocId _ => [assocId]
  | .paddrChange _ state error assocId _ => [state, error, assocId]
  | .sendFailed error _ => [error]
  | .senderDry assocId => [assocId]
  | .other .. => []

theorem values_body_iff (p : Payload) : p.Values p.body ↔ ∀ x ∈ p.words, x.toNat < 2 ^ 31 := by
  cases p with
  | other type rest h =>
    by_cases ht : type = sctpStreamResetEvent <;> simp [Values, body, words, ht]
  | assocChange | paddrChange | sendFailed | senderDry =>
    simp [Values, body, words, toInt_toInt32_iff]

end Payload

/-- `parse` picks the class for the type of the struct, whatever the fields are. -/
theorem parse_encode (c : Struct) : parse c.encode =
    .ok ⟨c.payload.type, c.flags, c.length.toInt32, c.payload.body⟩ := by
  obtain ⟨flags, length, p⟩ := c
  cases p with
  | assocChange state error outboundStreams inboundStreams assocId info =>
    have hreads : Reads (readBody sctpAssocChange) _ _ :=
      (reads_getChar state).bind ((reads_getChar error).bind
        ((reads_getChar outboundStreams).bind ((reads_getChar inboundStreams).bind
          ((reads_getInt assocId).bind (.pure _)))))
    simpa only [Struct.encode, Payload.bytes, Payload.type, Payload.body, List.append_assoc,
      List.nil_append] using parse_of_reads hreads flags length info
  | paddrChange aaddr state error assocId padding =>
    exact parse_padded (Vector.length_toList ..) flags length aaddr.toList state error assocId
  | sendFailed error rest =>
    have hreads : Reads (readBody sctpSendFailed) _ _ := (reads_getInt error).bind (.pure _)
    simpa only [Struct.encode, Payload.bytes, Payload.type, Payload.body, List.append_assoc,
      List.nil_append] using parse_of_reads hreads flags length rest
  | senderDry assocId =>
    have hreads : Reads (readBody sctpSenderDryEvent) _ _ := (reads_getInt assocId).bind (.pure _)
    simpa only [Struct.encode, Payload.bytes, Payload.type, Payload.body, List.append_nil]
      using parse_of_reads hreads flags length []
  | other type rest h =>
    have hbody : readBody type =
        pure (if type = sctpStreamResetEvent then .streamReset else .plain) := by
      simp only [List.mem_cons, List.not_mem_nil, or_false, not_or] at h
      simp only [readBody, if_neg h.1, if_neg h.2.1, if_neg h.2.2.1, if_neg h.2.2.2]
      split <;> rfl
    have hreads : Reads (readBody type) [] (Payload.other type rest h).body := by
      rw [hbody]
      exact .pure _
    exact parse_of_reads hreads flags length rest

/-- **What `parse` reads.** On the bytes of every struct `parse` returns a notification of the class
for its type. Its fields have the values of the struct exactly when the numbers of 32 bits among
them are below 2^31: `getInt` has a sign, and a field of type `long` keeps it. -/
theorem parse_undoes_layout_iff (c : Struct) :
    (∃ n, parse c.encode = .ok n ∧ n.snType = c.payload.type ∧ n.snFlags = c.flags ∧
      c.payload.Values n.body) ↔ ∀ x ∈ c.payload.words, x.toNat < 2 ^ 31 := by
  rw [← c.payload.values_body_iff, parse_encode]
  constructor
  · rintro ⟨n, hn, _, _, hvalues⟩
    rw [← Except.ok.inj hn] at hvalues
    exact hvalues
  · exact fun hvalues => ⟨_, rfl, rfl, rfl, hvalues⟩

/-- The association 0x80000000 is read as -2147483648. -/
theorem upper_half_negative :
    parse (Struct.encode ⟨0, 12, .senderDry 0x80000000⟩) =
      .ok ⟨sctpSenderDryEvent, 0, 12, .senderDry (-2147483648)⟩ ∧
    ¬ ∃ n, parse (Struct.encode ⟨0, 12, .senderDry 0x80000000⟩) = .ok n ∧
      n.snType = sctpSenderDryEvent ∧ n.snFlags = 0 ∧
      (Payload.senderDry 0x80000000).Values n.body := by
  have hparse := parse_encode ⟨0, 12, .senderDry 0x80000000⟩
  refine ⟨hparse.trans (by decide), fun ⟨n, hn, _, _, hvalues⟩ => ?_⟩
  rw [hparse, Except.ok.injEq] at hn
  rw [← hn] at hvalues
  have hlow := (Payload.values_body_iff (.senderDry 0x80000000)).mp hvalues 0x80000000
    (List.mem_singleton.mpr rfl)
  exact Nat.lt_irrefl _ hlow

end SctpNotification

end Sctp4Nat
