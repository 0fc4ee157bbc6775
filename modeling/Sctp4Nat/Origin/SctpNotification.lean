import Sctp4Nat.Java.Text
import Sctp4Nat.Origin.SctpSocket

/-! # `SctpNotification`

A notification of usrsctp: its bytes, its fields and its text. `parse` picks the class by the
type in the first two bytes; the constructors read the fields from a little-endian buffer. The
text of a notification is what the listeners look at. -/

namespace Sctp4Nat

/-- What `parse` throws on bytes that it does not accept. -/
inductive ParseException
  | arrayIndexOutOfBounds (index : Nat)
  | bufferUnderflow
  | illegalArgument
  deriving DecidableEq, Repr

/-! ## `java.nio.ByteBuffer` -/

structure ByteBuffer where
  data : Bytes
  position : Nat
  deriving DecidableEq, Repr

namespace ByteBuffer

abbrev Reader := StateT ByteBuffer (Except ParseException)

/-- Two bytes in little-endian order. -/
def char (b₀ b₁ : UInt8) : UInt16 := b₁.toUInt16 <<< 8 ||| b₀.toUInt16

/-- Four bytes in little-endian order. -/
def int (b₀ b₁ b₂ b₃ : UInt8) : Int32 :=
  .ofBitVec (b₃.toBitVec ++ b₂.toBitVec ++ b₁.toBitVec ++ b₀.toBitVec)

variable {α β : Type} {b : ByteBuffer}

/-- What a sequence of two reads accepts is what both accept. -/
theorem run_bind_ok_iff {m : Reader α} {f : α → Reader β} {r : β × ByteBuffer} :
    (m >>= f).run b = .ok r ↔ ∃ a b', m.run b = .ok (a, b') ∧ (f a).run b' = .ok r := by
  rw [StateT.run_bind]
  cases hm : m.run b with
  | error e => simp [bind, Except.bind]
  | ok x => cases x; simp [bind, Except.bind]

theorem run_pure_ok_iff {a : α} {r : α × ByteBuffer} :
    (pure a : Reader α).run b = .ok r ↔ r = (a, b) := by
  rw [StateT.run_pure]
  exact ⟨fun h => (Except.ok.inj h).symm, fun h => h ▸ rfl⟩

theorem run'_ok_iff {m : Reader α} {a : α} :
    m.run' b = .ok a ↔ ∃ b', m.run b = .ok (a, b') := by
  change Prod.fst <$> m.run b = .ok a ↔ _
  cases m.run b with
  | error e => simp [Functor.map, Except.map]
  | ok x => cases x; simp [Functor.map, Except.map]

def getChar : Reader UInt16 := do
  let b ← get
  match b.data.drop b.position with
  | b₀ :: b₁ :: _ =>
    set { b with position := b.position + 2 }
    pure (char b₀ b₁)
  | _ => throw .bufferUnderflow

def getInt : Reader Int32 := do
  let b ← get
  match b.data.drop b.position with
  | b₀ :: b₁ :: b₂ :: b₃ :: _ =>
    set { b with position := b.position + 4 }
    pure (int b₀ b₁ b₂ b₃)
  | _ => throw .bufferUnderflow

/-- `buffer.position(newPosition)`. -/
def setPosition (newPosition : Int) : Reader Unit := do
  let b ← get
  if newPosition < 0 ∨ b.data.length < newPosition then throw .illegalArgument
  else set { b with position := newPosition.toNat }

end ByteBuffer

namespace SctpNotification

def sctpAssocChange : UInt16 := 0x0001
def sctpPeerAddrChange : UInt16 := 0x0002
def sctpRemoteError : UInt16 := 0x0003
def sctpSendFailed : UInt16 := 0x0004
def sctpShutdownEvent : UInt16 := 0x0005
def sctpAdaptationIndication : UInt16 := 0x0006
def sctpPartialDeliveryEvent : UInt16 := 0x0007
def sctpAuthenticationEvent : UInt16 := 0x0008
def sctpStreamResetEvent : UInt16 := 0x0009
def sctpSenderDryEvent : UInt16 := 0x000a
def sctpNotificationsStoppedEvent : UInt16 := 0x000b
def sctpAssocResetEvent : UInt16 := 0x000c
def sctpStreamChangeEvent : UInt16 := 0x000d
def sctpSendFailedEvent : UInt16 := 0x000e

/-! ### The states of an association and of a peer address -/

def sctpCommUp : UInt16 := 0x0001
def sctpCommLost : UInt16 := 0x0002
def sctpRestart : UInt16 := 0x0003
def sctpShutdownComp : UInt16 := 0x0004
def sctpCantStrAssoc : UInt16 := 0x0005

def sctpAddrAvailable : Int32 := 0x0001
def sctpAddrUnreachable : Int32 := 0x0002
def sctpAddrRemoved : Int32 := 0x0003
def sctpAddrAdded : Int32 := 0x0004
def sctpAddrMadePrim : Int32 := 0x0005
def sctpAddrConfirmed : Int32 := 0x0006

/-! ### The flags of a failed send -/

def sctpDataUnsent : UInt16 := 0x0001
def sctpDataSent : UInt16 := 0x0002

def commUpStr : String := "COMM_UP"
def commLostStr : String := "COMM_LOST"
def shutdownCompStr : String := "SHUTDOWN_COMP"
def addrUnreachableStr : String := "ADDR_UNREACHABLE"
def shutdownEventStr : String := "SCTP_SHUTDOWN_EVENT"
def addrConfirmedStr : String := "ADDR_CONFIRMED"

/-- The fields of the subclasses; `plain` is the class itself. -/
inductive Body
  | associationChange (state error outboundStreams inboundStreams : UInt16) (assocId : Int32)
  | peerAddressChange (state error assocId : Int32)
  | sendFailed (error : Int32)
  | senderDry (assocId : Int32)
  | streamReset
  | plain
  deriving DecidableEq, Repr

end SctpNotification

open SctpNotification in
structure SctpNotification where
  snType : UInt16
  snFlags : UInt16
  snLength : Int32
  body : Body
  deriving DecidableEq, Repr

namespace SctpNotification

open ByteBuffer (Reader getChar getInt setPosition char)

/-! ## `parse` -/

def readAssociationChange : Reader Body := do
  let state ← getChar
  let error ← getChar
  let outboundStreams ← getChar
  let inboundStreams ← getChar
  let assocId ← getInt
  pure (.associationChange state error outboundStreams inboundStreams assocId)

/-- The `sockaddr_storage` is skipped: the length of the array says how long it is. -/
def readPeerAddressChange : Reader Body := do
  let b ← get
  let sockAddrStorageLen : Int := b.data.length - 24
  setPosition (b.position + sockAddrStorageLen)
  let state ← getInt
  let error ← getInt
  let assocId ← getInt
  pure (.peerAddressChange state error assocId)

/-- What the constructor of the class for `type` reads after the header. -/
def readBody (type : UInt16) : Reader Body :=
  if type = sctpAssocChange then readAssociationChange
  else if type = sctpPeerAddrChange then readPeerAddressChange
  else if type = sctpSendFailed then do pure (.sendFailed (← getInt))
  else if type = sctpSenderDryEvent then do pure (.senderDry (← getInt))
  else if type = sctpStreamResetEvent then pure .streamReset
  else pure .plain

/-- The constructors: the header, then the fields of the class. -/
def read (type : UInt16) : Reader SctpNotification := do
  let snType ← getChar
  let snFlags ← getChar
  let snLength ← getInt
  let body ← readBody type
  pure { snType, snFlags, snLength, body }

def parse : Bytes → Except ParseException SctpNotification
  | b₀ :: b₁ :: rest => (read (char b₀ b₁)).run' ⟨b₀ :: b₁ :: rest, 0⟩
  | _ => .error (.arrayIndexOutOfBounds 1)

/-- The class of a notification is the one for its type. -/
def Body.Matches (snType : UInt16) : Body → Prop
  | .associationChange .. => snType = sctpAssocChange
  | .peerAddressChange .. => snType = sctpPeerAddrChange
  | .sendFailed _ => snType = sctpSendFailed
  | .senderDry _ => snType = sctpSenderDryEvent
  | .streamReset => snType = sctpStreamResetEvent
  | .plain => True

theorem matches_of_readBody {type : UInt16} {b b' : ByteBuffer} {body : Body}
    (h : (readBody type).run b = .ok (body, b')) : body.Matches type := by
  unfold readBody at h
  split at h
  next ht =>
    simp only [readAssociationChange, ByteBuffer.run_bind_ok_iff, ByteBuffer.run_pure_ok_iff,
      Prod.mk.injEq] at h
    obtain ⟨_, _, _, _, _, _, _, _, _, _, _, _, _, _, _, rfl, _⟩ := h
    exact ht
  split at h
  next ht =>
    simp only [readPeerAddressChange, ByteBuffer.run_bind_ok_iff, ByteBuffer.run_pure_ok_iff,
      Prod.mk.injEq] at h
    obtain ⟨_, _, _, _, _, _, _, _, _, _, _, _, _, _, _, rfl, _⟩ := h
    exact ht
  split at h
  next ht =>
    obtain ⟨_, _, _, h⟩ := ByteBuffer.run_bind_ok_iff.mp h
    obtain ⟨rfl, _⟩ := Prod.mk.inj (ByteBuffer.run_pure_ok_iff.mp h)
    exact ht
  split at h
  next ht =>
    obtain ⟨_, _, _, h⟩ := ByteBuffer.run_bind_ok_iff.mp h
    obtain ⟨rfl, _⟩ := Prod.mk.inj (ByteBuffer.run_pure_ok_iff.mp h)
    exact ht
  split at h
  next ht =>
    obtain ⟨rfl, _⟩ := Prod.mk.inj (ByteBuffer.run_pure_ok_iff.mp h)
    exact ht
  obtain ⟨rfl, _⟩ := Prod.mk.inj (ByteBuffer.run_pure_ok_iff.mp h)
  exact trivial

/-- The type by which `parse` picks the class is the type that the constructor reads. -/
theorem matches_of_parse {data : Bytes} {n : SctpNotification} (h : parse data = .ok n) :
    n.body.Matches n.snType := by
  match data, h with
  | b₀ :: b₁ :: rest, h =>
    obtain ⟨b', hr⟩ := ByteBuffer.run'_ok_iff.mp h
    simp only [read, ByteBuffer.run_bind_ok_iff, ByteBuffer.run_pure_ok_iff] at hr
    obtain ⟨snType, _, ht, _, _, _, _, _, _, body, _, hbody, hn⟩ := hr
    obtain ⟨rfl, _⟩ := Prod.mk.inj hn
    have htype : snType = char b₀ b₁ := (congrArg Prod.fst (Except.ok.inj ht)).symm
    exact htype ▸ matches_of_readBody hbody

/-! ## `toString` -/

/-- `Integer.toHexString` and `Long.toHexString` of a value without sign. -/
def toHexString (n : Nat) : String := String.ofList (Nat.toDigits 16 n)

/-- `Integer.toHexString` of an `int`. -/
def intHex (i : Int32) : String := toHexString i.toBitVec.toNat

/-- `Long.toHexString` of a `long` that was read as an `int`. -/
def longHex (i : Int32) : String := toHexString i.toInt64.toBitVec.toNat

/-- The types that `toString` has a name for. -/
def typeNames : List (UInt16 × String) :=
  [(sctpAssocChange, "SCTP_ASSOC_CHANGE"),
    (sctpPeerAddrChange, "SCTP_PEER_ADDR_CHANGE"),
    (sctpRemoteError, "SCTP_REMOTE_ERROR"),
    (sctpSendFailed, "SCTP_SEND_FAILED"),
    (sctpShutdownEvent, shutdownEventStr),
    (sctpAdaptationIndication, "SCTP_ADAPTATION_INDICATION"),
    (sctpPartialDeliveryEvent, "SCTP_PARTIAL_DELIVERY_EVENT"),
    (sctpAuthenticationEvent, "SCTP_AUTHENTICATION_EVENT"),
    (sctpStreamResetEvent, "SCTP_STREAM_RESET_EVENT"),
    (sctpSenderDryEvent, "SCTP_SENDER_DRY_EVENT"),
    (sctpNotificationsStoppedEvent, "SCTP_NOTIFICATIONS_STOPPED_EVENT"),
    (sctpAssocResetEvent, "SCTP_ASSOC_RESET_EVENT"),
    (sctpStreamChangeEvent, "SCTP_STREAM_CHANGE_EVENT"),
    (sctpSendFailedEvent, "SCTP_SEND_FAILED_EVENT")]

/-- `toString` of the class itself. -/
def typeText (snType : UInt16) : String :=
  (typeNames.lookup snType).getD ("SCTP_NOTIFICATION_0x" ++ toHexString snType.toNat)

def assocStateNames : List (UInt16 × String) :=
  [(sctpCommUp, commUpStr), (sctpCommLost, commLostStr), (sctpRestart, "RESTART"),
    (sctpShutdownComp, shutdownCompStr), (sctpCantStrAssoc, "CANT_STR_ASSOC")]

def assocStateText (state : UInt16) : String :=
  (assocStateNames.lookup state).getD ("0x" ++ toHexString state.toNat)

def addrStateNames : List (Int32 × String) :=
  [(sctpAddrAvailable, "ADDR_AVAILABLE"), (sctpAddrUnreachable, addrUnreachableStr),
    (sctpAddrRemoved, "ADDR_REMOVED"), (sctpAddrAdded, "ADDR_ADDED"),
    (sctpAddrMadePrim, "ADDR_MADE_PRIM"), (sctpAddrConfirmed, addrConfirmedStr)]

def addrStateText (state : Int32) : String :=
  (addrStateNames.lookup state).getD (intHex state)

/-! What the subclasses append to the text of the type. -/

def associationChangeText (state error outboundStreams inboundStreams : UInt16)
    (assocId : Int32) : String :=
  ":assocId:0x" ++ longHex assocId ++ "," ++ assocStateText state ++
    ",(in/out)(" ++ toString inboundStreams.toNat ++ "/" ++ toString outboundStreams.toNat ++
    ")" ++ ",err0x" ++ toHexString error.toNat

def peerAddressChangeText (state error assocId : Int32) : String :=
  ",assocId:0x" ++ longHex assocId ++ "," ++ addrStateText state ++ ",err:" ++ longHex error

def sendFailedText (snFlags : UInt16) (error : Int32) : String :=
  (if snFlags &&& sctpDataSent > 0 then ",DATA_SENT" else "") ++
    (if snFlags &&& sctpDataUnsent > 0 then ",DATA_UNSENT" else "") ++ ",err0x" ++ longHex error

def senderDryText (assocId : Int32) : String := ",assocID:0x" ++ longHex assocId

def bodyText (snFlags : UInt16) : Body → String
  | .associationChange state error outboundStreams inboundStreams assocId =>
    associationChangeText state error outboundStreams inboundStreams assocId
  | .peerAddressChange state error assocId => peerAddressChangeText state error assocId
  | .sendFailed error => sendFailedText snFlags error
  | .senderDry assocId => senderDryText assocId
  | .streamReset | .plain => ""

def toString (n : SctpNotification) : String := typeText n.snType ++ bodyText n.snFlags n.body

end SctpNotification

end Sctp4Nat
