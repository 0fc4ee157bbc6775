import Mathlib.Algebra.Ring.Int.Defs
import Sctp4Nat.Connection.LiveChannel
import Sctp4Nat.Java.ByteOrder

/-! # The stream and the payload protocol of a message

`sendNative` hands `sid` and `ppid` to the JNI function `usrsctp_send`, which stores them in a
`sctp_sndinfo`; on the other side `onSctpInboundPacket` takes them out of a `sctp_rcvinfo` and
calls up to the data callback. The payload protocol identifier crosses as 32 bits, whatever the
byte orders of the hosts. The stream identifier is cut to 16 bits without a check
(`received_sid`), so that a message can come out on another stream than the selected one. -/

namespace Sctp4Nat

structure SndInfo where
  sndSid : UInt16
  sndFlags : UInt16
  sndPpid : UInt32
  sndContext : UInt32
  sndAssocId : UInt32
  deriving DecidableEq, Repr

/-- The fields of `sctp_rcvinfo` that are handed up. -/
structure RcvInfo where
  rcvSid : UInt16
  rcvSsn : UInt16
  rcvPpid : UInt32
  rcvTsn : UInt32
  rcvContext : UInt32
  deriving DecidableEq, Repr

/-- A message that `usrsctp_sendv` has taken. -/
structure Message where
  payload : Bytes
  info : SndInfo
  deriving DecidableEq, Repr

/-- The arguments of `SctpDataCallback.onSctpPacket`. -/
structure SctpPacket where
  data : Bytes
  sid : Int32
  ssn : Int32
  tsn : Int32
  ppid : Int64
  context : Int32
  flags : UInt32
  facade : Option ChanId
  deriving DecidableEq, Repr

/-- `SCTP_UNORDERED`. -/
def sctpUnordered : UInt16 := 0x0400

/-- What `usrsctp_send` stores in its `sctp_sndinfo`; `snd_sid` has 16 bits. -/
def sndInfo (e : Endian) (ordered : Bool) (sid ppid : Int32) : SndInfo where
  sndSid := sid.toUInt32.toUInt16
  sndFlags := if ordered then 0 else sctpUnordered
  sndPpid := e.htonl ppid.toUInt32
  sndContext := 0
  sndAssocId := 0

/-- The bytes that `usrsctp_send` points at. -/
def sendPayload (data : Bytes) (off len : Int32) : Bytes :=
  (data.drop off.toNatClampNeg).take len.toNatClampNeg

/-- The JNI function `usrsctp_send`; `sendv` is `usrsctp_sendv`. -/
def usrsctpSend (e : Endian) (sendv : Bytes → SndInfo → Int) (data : Bytes) (off len : Int32)
    (ordered : Bool) (sid ppid : Int32) : Int32 :=
  Int32.ofInt (sendv (sendPayload data off len) (sndInfo e ordered sid ppid))

/-- `sendNative`, with the message that is accepted for sending when the result is not negative;
`accepted` is what `usrsctp_accept` returns if it is called. -/
def Stack.sendMessage (e : Endian) (sendv : Bytes → SndInfo → Int) (s : SockId) (data : Bytes)
    (offset len : Int32) (ordered : Bool) (sid ppid : Int32) (accepted : Bool) :
    Java Stack (Int32 × Option Message) := do
  let r ← sendNative s (some data) offset len ordered sid ppid accepted
    (usrsctpSend e sendv data offset len ordered sid ppid)
  pure (r, if r ≥ 0 then some ⟨sendPayload data offset len, sndInfo e ordered sid ppid⟩ else none)

/-- The arguments with which `callOnSctpInboundPacket` calls `Sctp.onSctpInboundPacket`; its
parameter `context` has 16 bits. -/
def callOnSctpInboundPacket (e : Endian) (data : Bytes) (sid ssn : UInt16) (tsn ppid : UInt32)
    (context : UInt16) (flags : UInt32) : SctpPacket where
  data
  sid := sid.toUInt32.toInt32
  ssn := ssn.toUInt32.toInt32
  tsn := tsn.toInt32
  ppid := (e.ntohl ppid).toUInt64.toInt64
  context := context.toUInt32.toInt32
  flags
  facade := none

/-- The native callback `onSctpInboundPacket`; the fields of a notification are 0. -/
def nativeInbound (e : Endian) (data : Bytes) (rcv : RcvInfo) (flags : UInt32) : SctpPacket :=
  if flags &&& World.msgNotification ≠ 0 then
    callOnSctpInboundPacket e data 0 0 0 0 0 flags
  else
    callOnSctpInboundPacket e data rcv.rcvSid rcv.rcvSsn rcv.rcvTsn rcv.rcvPpid
      rcv.rcvContext.toUInt16 flags

namespace World

/-- `onSctpIn`, with the arguments that the data callback is called with; `callback` is whether
there is one, and `accepted` what `usrsctp_accept` returns if it is called. -/
def onSctpIn (s : SockId) (callback accepted : Bool) (packet : SctpPacket) :
    Java World (Option SctpPacket) := do
  let w ← get
  if !(w.stack.socket s).isAccepted then
    let _ ← onStack (Stack.acceptNative s accepted)
    onStack (Stack.onSocket s (modify fun so => { so with isAccepted := true }))
  if callback then pure (some packet) else pure none

/-- A message that usrsctp hands up to the socket `socketAddr`, to the data callback. -/
def receive (e : Endian) (it : Iteration (InetSocketAddress × ChanId)) (socketAddr : Ptr)
    (data : Bytes) (rcv : RcvInfo) (flags : UInt32) (callback accepted : Bool) :
    Java World (Option SctpPacket) := do
  let packet := nativeInbound e data rcv flags
  let w ← get
  match w.onSctpInboundPacket it socketAddr packet.flags with
  | .noSocket => pure none
  | .notification _ => pure none
  | .data so facade => onSctpIn so callback accepted { packet with facade }

end World

/-- usrsctp delivers the stream and the payload protocol unchanged: the number of the stream, and
the bytes of the identifier, from the memory of one host to that of the other. -/
structure Delivered (e e' : Endian) (snd : SndInfo) (rcv : RcvInfo) : Prop where
  sid : rcv.rcvSid = snd.sndSid
  ppid : e'.store rcv.rcvPpid = e.store snd.sndPpid

/-! ## Conversions between the integers of C and Java -/

theorem toInt_of_uint16 (x : UInt16) : x.toUInt32.toInt32.toInt = x.toNat := by
  have hx := x.toNat_lt
  have hbits : x.toUInt32.toInt32.toInt = x.toUInt32.toBitVec.toInt := rfl
  rw [hbits, BitVec.toInt_eq_toNat_cond, UInt32.toNat_toBitVec, UInt16.toNat_toUInt32]
  split <;> omega

theorem toNat_uint16_of (sid : Int32) :
    (sid.toUInt32.toUInt16.toNat : Int) = sid.toInt % 65536 := by
  have hx := sid.toUInt32.toNat_lt
  have hbits : sid.toInt = sid.toUInt32.toBitVec.toInt := rfl
  rw [hbits, BitVec.toInt_eq_toNat_cond, UInt32.toNat_toBitVec, UInt32.toNat_toUInt16]
  split <;> omega

theorem toInt_of_uint32 (x : UInt32) : x.toUInt64.toInt64.toInt = x.toNat := by
  have hx := x.toNat_lt
  have hbits : x.toUInt64.toInt64.toInt = x.toUInt64.toBitVec.toInt := rfl
  rw [hbits, BitVec.toInt_eq_toNat_cond, UInt64.toNat_toBitVec, UInt32.toNat_toUInt64]
  split <;> omega

/-- The cast of the `long` back to `int` is the `int` it came from. -/
theorem toInt32_of_uint32 (ppid : Int32) : ppid.toUInt32.toUInt64.toInt64.toInt32 = ppid := by
  refine Int32.toBitVec_inj.mp ?_
  change (ppid.toBitVec.setWidth 64).signExtend 32 = ppid.toBitVec
  rw [BitVec.signExtend_eq_setWidth_of_le _ (by decide)]
  simp

/-! ## From the sender to the data callback -/

theorem Stack.sendMessage_ok {st st' : Stack}
    (h : (sendMessage e sendv s data offset len ordered sid ppid accepted).run st =
      (.ok (r, some msg), st')) : msg.info = sndInfo e ordered sid ppid := by
  obtain ⟨r', st₁, -, h⟩ := Java.run_bind_eq_ok h
  have hmsg := congrArg Prod.snd (Except.ok.inj (congrArg Prod.fst h))
  dsimp only at hmsg
  split at hmsg
  · cases hmsg
    rfl
  · cases hmsg

namespace World

variable {w w' : World} {packet packet' : SctpPacket}

theorem onSctpIn_ok (h : (onSctpIn s callback accepted packet).run w = (.ok (some packet'), w')) :
    packet' = packet := by
  have hcall : ∀ w₁ : World, (if callback then pure (some packet) else pure none :
      Java World (Option SctpPacket)).run w₁ = (.ok (some packet'), w') → packet' = packet := by
    intro w₁ h
    cases callback <;> cases h
    rfl
  obtain ⟨_, _, hget, h⟩ := Java.run_bind_eq_ok h
  cases hget
  dsimp only at h
  split at h
  · obtain ⟨_, w₁, -, h⟩ := Java.run_bind_eq_ok h
    obtain ⟨_, w₂, -, h⟩ := Java.run_bind_eq_ok h
    exact hcall w₂ h
  · exact hcall _ h

/-- What the data callback gets of a message: only messages get there. -/
theorem receive_ok {rcv : RcvInfo}
    (h : (receive e it socketAddr data rcv flags callback accepted).run w =
      (.ok (some packet), w')) :
    packet.sid = rcv.rcvSid.toUInt32.toInt32 ∧
      packet.ppid = (e.ntohl rcv.rcvPpid).toUInt64.toInt64 := by
  obtain ⟨_, _, hget, h⟩ := Java.run_bind_eq_ok h
  cases hget
  have hflags : (nativeInbound e data rcv flags).flags = flags := by
    unfold nativeInbound
    split <;> rfl
  rw [hflags] at h
  cases hin : w.onSctpInboundPacket it socketAddr flags with
  | noSocket => rw [hin] at h; cases h
  | notification so => rw [hin] at h; cases h
  | data so facade =>
    rw [hin] at h
    obtain rfl := onSctpIn_ok h
    have hdata : ¬ flags &&& msgNotification ≠ 0 := by
      intro hn
      unfold onSctpInboundPacket at hin
      split at hin
      · cases hin
      · rw [if_pos hn] at hin
        cases hin
    simp only [nativeInbound, if_neg hdata]
    exact ⟨rfl, rfl⟩

/-- The callback gets the lower 16 bits of the stream identifier. -/
theorem received_sid {msg : Message} {st st' : Stack}
    (hsend : (Stack.sendMessage e sendv s data offset len ordered sid ppid accepted).run st =
      (.ok (r, some msg), st'))
    (hrcv : Delivered e e' msg.info rcv)
    (h : (receive e' it socketAddr data' rcv flags callback accepted').run w =
      (.ok (some packet), w')) : packet.sid.toInt = sid.toInt % 65536 := by
  rw [(receive_ok h).1, hrcv.sid, Stack.sendMessage_ok hsend, toInt_of_uint16, sndInfo,
    toNat_uint16_of]

/-- The callback gets the payload protocol identifier as an unsigned number. -/
theorem received_ppid {msg : Message} {st st' : Stack}
    (hsend : (Stack.sendMessage e sendv s data offset len ordered sid ppid accepted).run st =
      (.ok (r, some msg), st'))
    (hrcv : Delivered e e' msg.info rcv)
    (h : (receive e' it socketAddr data' rcv flags callback accepted').run w =
      (.ok (some packet), w')) : packet.ppid = ppid.toUInt32.toUInt64.toInt64 := by
  have hppid := hrcv.ppid
  rw [Stack.sendMessage_ok hsend] at hppid
  rw [(receive_ok h).2, Endian.ntohl_of_store hppid]

/-- The data callback gets the sender's values, the payload protocol identifier as an unsigned
number whose cast to `int` is the sender's. -/
def Survives (packet : SctpPacket) (sid ppid : Int32) : Prop :=
  packet.sid = sid ∧ 0 ≤ packet.ppid.toInt ∧ packet.ppid.toInt < 2 ^ 32 ∧
    packet.ppid.toInt32 = ppid

/-- **What the data callback gets.** A message that was accepted for sending, and delivered
unchanged, has the sender's stream and payload protocol at the data callback exactly when the
stream identifier has 16 bits. -/
theorem metadata_survives_iff {sid ppid : Int32} {msg : Message} {st st' : Stack}
    (hsend : (Stack.sendMessage e sendv s data offset len ordered sid ppid accepted).run st =
      (.ok (r, some msg), st'))
    (hrcv : Delivered e e' msg.info rcv)
    (h : (receive e' it socketAddr data' rcv flags callback accepted').run w =
      (.ok (some packet), w')) :
    Survives packet sid ppid ↔ 0 ≤ sid.toInt ∧ sid.toInt ≤ 65535 := by
  have hsid := received_sid hsend hrcv h
  have hppid := received_ppid hsend hrcv h
  have hrange := ppid.toUInt32.toNat_lt
  have hppids : 0 ≤ packet.ppid.toInt ∧ packet.ppid.toInt < 2 ^ 32 ∧
      packet.ppid.toInt32 = ppid := by
    rw [hppid, toInt_of_uint32, toInt32_of_uint32]
    exact ⟨by omega, by omega, rfl⟩
  have heq : packet.sid = sid ↔ packet.sid.toInt = sid.toInt := Int32.toInt_inj.symm
  rw [Survives, heq, hsid]
  constructor
  · rintro ⟨hmod, -⟩
    omega
  · rintro ⟨hlow, hhigh⟩
    exact ⟨by omega, hppids⟩

/-- A stack with one socket, at address 16. -/
def oneSocket : Stack := Stack.empty.withSocket 2000 none 16

def receiver : World := { empty with stack := oneSocket }

/-- Three bytes are sent from a little-endian host, which takes every message whole. -/
def sendThree (sid ppid : Int32) : Java Stack (Int32 × Option Message) :=
  Stack.sendMessage .little (fun payload _ => payload.length) 0 [1, 2, 3] 0 3 true sid ppid true

/-- They are received on a little-endian host with a data callback. -/
def receiveThree (rcv : RcvInfo) : Java World (Option SctpPacket) :=
  receive .little .id 16 [1, 2, 3] rcv 0 true true

def rcvInfo (snd : SndInfo) : RcvInfo := ⟨snd.sndSid, 0, snd.sndPpid, 0, 0⟩

theorem delivered_rcvInfo (e : Endian) (snd : SndInfo) : Delivered e e snd (rcvInfo snd) :=
  ⟨rfl, rfl⟩

theorem receiveThree_ok (rcv : RcvInfo) :
    ∃ packet w', (receiveThree rcv).run receiver = (.ok (some packet), w') := by
  have hin : receiver.onSctpInboundPacket .id 16 0 = .data 0 none := by decide
  have hflags : (nativeInbound .little [1, 2, 3] rcv 0).flags = 0 := rfl
  unfold receiveThree receive
  rw [Java.run_bind_ok (Java.run_get receiver)]
  rw [hflags, hin]
  exact ⟨_, _, rfl⟩

/-- A message on stream 7 with the identifier -1. -/
theorem stream_seven_survives : ∃ st' msg w' packet,
    (sendThree 7 (-1)).run oneSocket = (.ok (3, some msg), st') ∧
    (receiveThree (rcvInfo msg.info)).run receiver = (.ok (some packet), w') ∧
    Survives packet 7 (-1) := by
  obtain ⟨st', msg, hsend⟩ : ∃ st' msg,
      (sendThree 7 (-1)).run oneSocket = (.ok (3, some msg), st') := ⟨_, _, rfl⟩
  obtain ⟨packet, w', hrecv⟩ := receiveThree_ok (rcvInfo msg.info)
  exact ⟨st', msg, w', packet, hsend, hrecv,
    (metadata_survives_iff hsend (delivered_rcvInfo ..) hrecv).mpr (by decide)⟩

/-- A message that is sent on stream 65536 is received on stream 0. -/
theorem stream_65536_received_on_0 : ∃ st' msg w' packet,
    (sendThree 65536 0).run oneSocket = (.ok (3, some msg), st') ∧
    Delivered .little .little msg.info (rcvInfo msg.info) ∧
    (receiveThree (rcvInfo msg.info)).run receiver = (.ok (some packet), w') ∧
    packet.sid = 0 ∧ ¬ Survives packet 65536 0 := by
  obtain ⟨st', msg, hsend⟩ : ∃ st' msg,
      (sendThree 65536 0).run oneSocket = (.ok (3, some msg), st') := ⟨_, _, rfl⟩
  have hrcv := delivered_rcvInfo .little msg.info
  obtain ⟨packet, w', hrecv⟩ := receiveThree_ok (rcvInfo msg.info)
  have hsid : packet.sid = 0 := Int32.toInt_inj.mp (received_sid hsend hrcv hrecv)
  refine ⟨st', msg, w', packet, hsend, hrcv, hrecv, hsid, fun h => ?_⟩
  have heq := hsid.symm.trans h.1
  exact absurd heq (by decide)

end World

end Sctp4Nat
