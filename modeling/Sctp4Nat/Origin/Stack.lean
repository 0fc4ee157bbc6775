import Sctp4Nat.Java.HashMap
import Sctp4Nat.Origin.SctpSocket

/-! # The stack: `Sctp` and its sockets

The statics of `Sctp` and the `SctpSocket` objects, with the methods of a socket run to their end
one after another. What usrsctp answers is an argument of the method that asks it. The native
calls made are recorded, the newest first.

A callback that throws inside a native call leaves no exception behind: the JNI layer clears it
before it returns to usrsctp. -/

namespace Sctp4Nat

abbrev SockId := Nat

abbrev LinkId := Nat

inductive UsrsctpCall
  | listen (ptr : Ptr)
  | accept (ptr : Ptr)
  | connect (ptr : Ptr) (remotePort : UInt16)
  | onNetworkIn (ptr : Ptr) (packet : Bytes) (offset len : Int32)
  | send (ptr : Ptr) (data : Bytes) (offset len : Int32) (ordered : Bool) (sid ppid : Int32)
  | close (ptr : Ptr)
  deriving DecidableEq, Repr

structure Stack where
  initialized : Bool
  socket : SockId → SctpSocket
  /-- The field `link` of a socket. -/
  link : SockId → Option LinkId
  next : SockId
  sockets : ConcurrentHashMap Ptr SockId
  calls : List UsrsctpCall

namespace Stack

open SctpSocket (lockPtr unlockPtr closeNativeBlock outOfRange rangeException)

def empty : Stack :=
  ⟨false, fun _ => { ptr := 0, localPort := 0 }, fun _ => none, 0, .empty, []⟩

def record (st : Stack) (call : UsrsctpCall) : Stack := { st with calls := call :: st.calls }

def setSocket (st : Stack) (s : SockId) (so : SctpSocket) : Stack :=
  { st with socket := Function.update st.socket s so }

/-- A method or block of the socket `s`. -/
def onSocket {α : Type} (s : SockId) (m : Java SctpSocket α) : Java Stack α :=
  Java.zoom (fun st => st.socket s) (fun so st => st.setSocket s so) m

/-- `Sctp.closeSocket`. -/
def closeSocket (ptr : Ptr) : Java Stack Unit :=
  modify fun st => { st.record (.close ptr) with sockets := st.sockets.remove ptr }

/-- `Sctp.createSocket`; `ptr` is what `usrsctp_socket` returns. -/
def createSocket (localPort : Int) (ptr : Ptr) : Java Stack (Option SockId) := do
  if ptr = 0 then
    pure none
  else
    let st ← get
    set { st.setSocket st.next { ptr, localPort } with
      link := Function.update st.link st.next none
      next := st.next + 1
      sockets := st.sockets.put ptr st.next }
    pure (some st.next)

/-- A native call between `lockPtr` and `unlockPtr`, and what follows from its result inside the
`try` block. -/
def bracket {α : Type} (s : SockId) (call : Ptr → UsrsctpCall) (r : Except Throwable α) :
    Java Stack α := do
  let ptr ← onSocket s lockPtr
  Java.tryFinally (do modify (record · (call ptr)); Java.ofExcept r) do
    let ptr ← onSocket s unlockPtr
    if ptr ≠ 0 then closeSocket ptr

/-- `connectNative`; `ok` is what `usrsctp_connect` returns. -/
def connectNative (s : SockId) (remotePort : UInt16) (ok : Bool) : Java Stack Unit :=
  bracket s (.connect · remotePort)
    (if ok then .ok () else .error (.ioException "Failed to connect SCTP"))

def listenNative (s : SockId) : Java Stack Unit := do
  onSocket s (modify fun so => { so with isAccepted := false })
  bracket s .listen (.ok ())

def onConnIn (s : SockId) (packet : Bytes) (offset len : Int32) : Java Stack Unit :=
  if outOfRange packet offset len then
    throw (rangeException "packet" packet offset len)
  else bracket s (.onNetworkIn · packet offset len) (.ok ())

/-- `acceptNative`; `r` is what `usrsctp_accept` returns. -/
def acceptNative (s : SockId) (r : Bool) : Java Stack Bool := bracket s .accept (.ok r)

/-- `sendNative`; `accepted` is what `usrsctp_accept` returns if it is called, and `r` what
`usrsctp_send` returns. The arguments are checked after the accept. -/
def sendNative (s : SockId) (data : Option Bytes) (offset len : Int32) (ordered : Bool)
    (sid ppid : Int32) (accepted : Bool) (r : Int32) : Java Stack Int32 := do
  let data ← match data with
    | none => throw (.nullPointerException "data")
    | some data => pure data
  let st ← get
  if !(st.socket s).isAccepted then
    let isAccepted ← acceptNative s accepted
    onSocket s (modify fun so => { so with isAccepted })
  if outOfRange data offset len then
    throw (rangeException "data" data offset len)
  bracket s (.send · data offset len ordered sid ppid) (.ok r)

def setLink (s : SockId) (link : Option LinkId) : Java Stack Unit :=
  modify fun st => { st with link := Function.update st.link s link }

def closeNative (s : SockId) : Java Stack Unit := do
  onSocket s (modify fun so => { so with closed := true })
  let ptr ← onSocket s closeNativeBlock
  if ptr ≠ 0 then closeSocket ptr

/-! ## Specifications -/

/-- The stack after `createSocket` has made a socket and `setLink` has given it its link. -/
def withSocket (st : Stack) (localPort : Int) (link : Option LinkId) (ptr : Ptr) : Stack :=
  { st with
    socket := Function.update st.socket st.next { ptr, localPort }
    link := Function.update st.link st.next link
    next := st.next + 1
    sockets := st.sockets.put ptr st.next }

/-- No socket has more `unlockPtr` than `lockPtr` calls behind it. -/
def Balanced (st : Stack) : Prop := ∀ s, 0 ≤ (st.socket s).ptrLockCount

variable {st : Stack} {s : SockId} {α : Type}

@[simp] theorem setSocket_self (st : Stack) (s : SockId) : st.setSocket s (st.socket s) = st := by
  simp [setSocket]

theorem bracket_closed {call : Ptr → UsrsctpCall} {r : Except Throwable α}
    (h : (st.socket s).closed = true ∨ (st.socket s).ptr = 0) :
    (bracket s call r).run st = (.error (.ioException "SctpSocket is closed!"), st) := by
  have hlock : (onSocket s lockPtr).run st =
      (.error (.ioException "SctpSocket is closed!"), st) := by
    rw [onSocket, Java.run_zoom, SctpSocket.lockPtr_closed h, setSocket_self]
  exact Java.run_bind_error hlock

/-- The bracket of an open socket leaves only its call behind. -/
theorem bracket_open {call : Ptr → UsrsctpCall} {r : Except Throwable α}
    (hb : 0 ≤ (st.socket s).ptrLockCount) (hc : (st.socket s).closed = false)
    (hp : (st.socket s).ptr ≠ 0) :
    (bracket s call r).run st = (r, st.record (call (st.socket s).ptr)) := by
  have hlock : (onSocket s lockPtr).run st = (.ok (st.socket s).ptr, st.setSocket s
      { st.socket s with ptrLockCount := (st.socket s).ptrLockCount + 1 }) := by
    rw [onSocket, Java.run_zoom, SctpSocket.lockPtr_open hc hp]
  have hunlock : unlockPtr.run { st.socket s with
      ptrLockCount := (st.socket s).ptrLockCount + 1 } = (.ok 0, st.socket s) := by
    have hpos : 0 < (st.socket s).ptrLockCount + 1 := by omega
    rw [@SctpSocket.unlockPtr_shared { st.socket s with
      ptrLockCount := (st.socket s).ptrLockCount + 1 } hpos (.inl hc), Int.add_sub_cancel]
  rw [bracket, Java.run_bind_ok hlock, Java.run_tryFinally]
  simp [Java.run_bind, onSocket, Java.run_zoom, hunlock, setSocket, record]

/-- What `onConnIn` does: the argument check, then one native call unless the socket is closed. -/
theorem onConnIn_run (hb : 0 ≤ (st.socket s).ptrLockCount) (packet : Bytes) (offset len : Int32) :
    (onConnIn s packet offset len).run st =
      if outOfRange packet offset len then (.error (rangeException "packet" packet offset len), st)
      else if (st.socket s).closed = true ∨ (st.socket s).ptr = 0 then
        (.error (.ioException "SctpSocket is closed!"), st)
      else (.ok (), st.record (.onNetworkIn (st.socket s).ptr packet offset len)) := by
  unfold onConnIn
  split
  · rfl
  · split
    · rename_i h
      exact bracket_closed h
    · rename_i h
      rw [not_or, Bool.not_eq_true] at h
      exact bracket_open hb h.1 h.2

/-- `connectNative` throws on a closed socket and when `usrsctp_connect` fails. -/
theorem connectNative_run (hb : 0 ≤ (st.socket s).ptrLockCount) (remotePort : UInt16) (ok : Bool) :
    ∃ st', (connectNative s remotePort ok).run st =
      (if (st.socket s).closed = true ∨ (st.socket s).ptr = 0 then
        .error (.ioException "SctpSocket is closed!")
      else if ok then .ok () else .error (.ioException "Failed to connect SCTP"), st') ∧
      st'.socket = st.socket ∧ st'.next = st.next ∧ st'.initialized = st.initialized := by
  by_cases h : (st.socket s).closed = true ∨ (st.socket s).ptr = 0
  · refine ⟨st, ?_, rfl, rfl, rfl⟩
    rw [connectNative, bracket_closed h, if_pos h]
  · refine ⟨st.record (.connect (st.socket s).ptr remotePort), ?_, rfl, rfl, rfl⟩
    rw [if_neg h]
    rw [not_or, Bool.not_eq_true] at h
    rw [connectNative, bracket_open hb h.1 h.2]

/-- The exceptions of a native call between `lockPtr` and `unlockPtr`. -/
theorem bracket_error {call : Ptr → UsrsctpCall}
    {r : Except Throwable α} {e : Throwable} (h : ((bracket s call r).run st).1 = .error e) :
    e = .ioException "SctpSocket is closed!" ∨
      e = .runtimeException "Unbalanced SctpSocket#unlockPtr() method invocation!" ∨
      r = .error e := by
  by_cases hc : (st.socket s).closed = true ∨ (st.socket s).ptr = 0
  · rw [bracket_closed hc] at h
    exact .inl (Except.error.inj h).symm
  · rw [not_or, Bool.not_eq_true] at hc
    by_cases hb : 0 ≤ (st.socket s).ptrLockCount
    · rw [bracket_open hb hc.1 hc.2] at h
      exact .inr (.inr h)
    · have hlock : (onSocket s SctpSocket.lockPtr).run st = (.ok (st.socket s).ptr,
          st.setSocket s { st.socket s with
            ptrLockCount := (st.socket s).ptrLockCount + 1 }) := by
        rw [onSocket, Java.run_zoom, SctpSocket.lockPtr_open hc.1 hc.2]
      have hunlock := @SctpSocket.unlockPtr_unbalanced { st.socket s with
        ptrLockCount := (st.socket s).ptrLockCount + 1 } (by simp only; omega)
      rw [bracket, Java.run_bind_ok hlock, Java.run_tryFinally] at h
      simp [Java.run_bind, onSocket, Java.run_zoom, setSocket, record, hunlock] at h
      exact .inr (.inl h.symm)

theorem connectNative_error {remotePort : UInt16} {ok : Bool} {e : Throwable}
    (h : ((connectNative s remotePort ok).run st).1 = .error e) :
    (∃ msg, e = .ioException msg) ∨ ∃ msg, e = .runtimeException msg := by
  rcases bracket_error h with h | h | h
  · exact .inl ⟨_, h⟩
  · exact .inr ⟨_, h⟩
  · cases ok with
    | true => cases h
    | false => exact .inl ⟨_, (Except.error.inj h).symm⟩

/-- The stack after the accept at the start of `sendNative`. -/
def withAccept (st : Stack) (s : SockId) (accepted : Bool) : Stack :=
  if (st.socket s).isAccepted then st
  else (st.record (.accept (st.socket s).ptr)).setSocket s
    { st.socket s with isAccepted := accepted }

/-- What `sendNative` does: an accept that is due throws on a closed socket, then come the
arguments, and then the socket again. -/
theorem sendNative_run (hb : 0 ≤ (st.socket s).ptrLockCount) (data : Bytes) (offset len : Int32)
    (ordered : Bool) (sid ppid : Int32) (accepted : Bool) (r : Int32) :
    (sendNative s (some data) offset len ordered sid ppid accepted r).run st =
      if (st.socket s).closed = true ∨ (st.socket s).ptr = 0 then
        if (st.socket s).isAccepted = true ∧ outOfRange data offset len = true then
          (.error (rangeException "data" data offset len), st)
        else (.error (.ioException "SctpSocket is closed!"), st)
      else if outOfRange data offset len then
        (.error (rangeException "data" data offset len), st.withAccept s accepted)
      else (.ok r, (st.withAccept s accepted).record
        (.send (st.socket s).ptr data offset len ordered sid ppid)) := by
  by_cases hc : (st.socket s).closed = true ∨ (st.socket s).ptr = 0
  · rw [if_pos hc]
    cases ha : (st.socket s).isAccepted with
    | false => simp [sendNative, acceptNative, Java.run_bind, ha, bracket_closed hc]
    | true =>
      cases ho : outOfRange data offset len <;>
        simp [sendNative, Java.run_bind, ha, ho, bracket_closed hc]
  · rw [if_neg hc]
    rw [not_or, Bool.not_eq_true] at hc
    -- the socket is open after the accept too
    have hso : (st.withAccept s accepted).socket s =
        { st.socket s with
          isAccepted := (st.socket s).isAccepted || accepted } := by
      cases ha : (st.socket s).isAccepted <;> simp [withAccept, ha, setSocket, record]
      rw [← ha]
    have hsend := @bracket_open (st.withAccept s accepted) s Int32
      (.send · data offset len ordered sid ppid) (.ok r) (by rw [hso]; exact hb)
      (by rw [hso]; exact hc.1) (by rw [hso]; exact hc.2)
    have hptr : ((st.withAccept s accepted).socket s).ptr = (st.socket s).ptr := by rw [hso]
    rw [hptr] at hsend
    cases ha : (st.socket s).isAccepted with
    | true =>
      have hst : st.withAccept s accepted = st := by simp [withAccept, ha]
      rw [hst] at hsend ⊢
      cases ho : outOfRange data offset len <;> simp [sendNative, Java.run_bind, ha, ho, hsend]
    | false =>
      have haccept : (acceptNative s accepted).run st =
          (.ok accepted, st.record (.accept (st.socket s).ptr)) := bracket_open hb hc.1 hc.2
      have hset : (onSocket s (modify fun so : SctpSocket =>
          { so with isAccepted := accepted })).run (st.record (.accept (st.socket s).ptr)) =
          (.ok ⟨⟩, st.withAccept s accepted) := by
        simp [onSocket, Java.run_zoom, withAccept, ha, record, setSocket]
      cases ho : outOfRange data offset len <;>
        simp [sendNative, Java.run_bind, ha, ho, haccept, hset, hsend]

/-- The parts of the stack that a method of socket `s` leaves alone. -/
structure Frame (s : SockId) (st st' : Stack) : Prop where
  initialized : st'.initialized = st.initialized
  socket : ∀ s', s' ≠ s → st'.socket s' = st.socket s'
  link : st'.link = st.link
  next : st'.next = st.next
  balanced : st.Balanced → st'.Balanced

theorem setSocket_frame {so : SctpSocket} (h : so.ptrLockCount = (st.socket s).ptrLockCount) :
    Frame s st (st.setSocket s so) where
  initialized := rfl
  socket _ hs := Function.update_of_ne hs ..
  link := rfl
  next := rfl
  balanced hb s' := by
    rcases eq_or_ne s' s with rfl | hs
    · simp only [setSocket, Function.update_self, h]; exact hb s'
    · simp only [setSocket, Function.update_of_ne hs]; exact hb s'

theorem Frame.trans (h : Frame s st st₁) (h' : Frame s st₁ st₂) : Frame s st st₂ where
  initialized := h'.initialized.trans h.initialized
  socket s' hs := (h'.socket s' hs).trans (h.socket s' hs)
  link := h'.link.trans h.link
  next := h'.next.trans h.next
  balanced hb := h'.balanced (h.balanced hb)

theorem bracket_frame {call : Ptr → UsrsctpCall} {r : Except Throwable α} (hb : st.Balanced) :
    Frame s st ((bracket s call r).run st).2 := by
  by_cases h : (st.socket s).closed = true ∨ (st.socket s).ptr = 0
  · rw [bracket_closed h]; exact ⟨rfl, fun _ _ => rfl, rfl, rfl, id⟩
  · rw [not_or, Bool.not_eq_true] at h
    rw [bracket_open (hb s) h.1 h.2]; exact ⟨rfl, fun _ _ => rfl, rfl, rfl, id⟩

theorem listenNative_frame (hb : st.Balanced) : Frame s st ((listenNative s).run st).2 := by
  have hset : Frame s st (st.setSocket s { st.socket s with isAccepted := false }) :=
    setSocket_frame rfl
  exact hset.trans (bracket_frame (hset.balanced hb))

/-- `closeNative` returns, whatever the state of the socket, and the socket is closed then. -/
theorem closeNative_run (st : Stack) (s : SockId) : ∃ st',
    (closeNative s).run st = (.ok (), st') ∧ Frame s st st' ∧ (st'.socket s).closed = true := by
  let so : SctpSocket := { st.socket s with closed := true }
  have hset : (onSocket s (modify fun so => { so with closed := true })).run st =
      (.ok ⟨⟩, st.setSocket s so) := rfl
  by_cases hfree : (st.socket s).ptrLockCount = 0
  · let st₁ : Stack := st.setSocket s { so with ptr := 0 }
    have hblock : (onSocket s closeNativeBlock).run (st.setSocket s so) =
        (.ok (st.socket s).ptr, st₁) := by
      simp [onSocket, Java.run_zoom, setSocket, so, st₁,
        SctpSocket.closeNativeBlock_free (show so.ptrLockCount = 0 from hfree)]
    have hframe : Frame s st st₁ := setSocket_frame rfl
    have hclosed : (st₁.socket s).closed = true := by simp [st₁, setSocket, so]
    rw [closeNative, Java.run_bind_ok hset, Java.run_bind_ok hblock]
    by_cases hptr : (st.socket s).ptr = 0
    · refine ⟨st₁, ?_, hframe, hclosed⟩
      rw [if_neg (by simpa using hptr)]; rfl
    · refine ⟨((closeSocket (st.socket s).ptr).run st₁).2, ?_, ?_, hclosed⟩
      · rw [if_pos hptr]; rfl
      · exact hframe.trans ⟨rfl, fun _ _ => rfl, rfl, rfl, id⟩
  · have hblock : (onSocket s closeNativeBlock).run (st.setSocket s so) =
        (.ok 0, st.setSocket s so) := by
      simp [onSocket, Java.run_zoom, setSocket, so,
        SctpSocket.closeNativeBlock_locked (show so.ptrLockCount ≠ 0 from hfree)]
    rw [closeNative, Java.run_bind_ok hset, Java.run_bind_ok hblock]
    refine ⟨st.setSocket s so, by rw [if_neg (by simp)]; rfl, setSocket_frame rfl, ?_⟩
    simp [setSocket, so]

end Stack

end Sctp4Nat
