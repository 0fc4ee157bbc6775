import Sctp4Nat.Core.SctpMapper
import Sctp4Nat.Java.Spec
import Sctp4Nat.Origin.Stack

/-! # Channels, links and the registries

The object graph of a running program: the stack with its sockets, the channels, the network
links, and the statics of `SctpMapper` and `SctpPorts`. A reference is a number; an object that
has not been created yet has a number that is not given out.

The methods of `SctpPorts`, of `SctpChannelBuilder` and of `SctpChannel` are here as far as they
run in the calling thread; the task of `close` is `closeTask`. -/

namespace Sctp4Nat

structure SctpChannel where
  so : SockId
  link : Option LinkId
  remote : Option InetSocketAddress
  /-- Whether the field `mapper` is set; the mappers share their statics. -/
  mapper : Bool
  /-- The server link whose receive loop made the channel. -/
  creator : Option LinkId := none
  deriving DecidableEq, Repr

/-- A `UdpServerLink` with the port and the mapper its loop was started with, or a
`UdpClientLink` with the channel it feeds. -/
inductive LinkKind
  | server (localPort : UInt16) (mapper : Bool)
  | client (remote : InetSocketAddress) (so : ChanId)
  deriving DecidableEq, Repr

/-- The field `udpSocket` of a link; `null` when no UDP socket could be created in the
constructor. -/
inductive UdpSocket
  | null
  | opened
  | closed
  deriving DecidableEq, Repr

structure Link where
  kind : LinkKind
  /-- The field `local` of a `UdpClientLink`. -/
  localAddr : Option InetSocketAddress := none
  udpSocket : UdpSocket := .opened
  isShutdown : Bool := false
  /-- The receive loop has not been left by an exception. -/
  receiving : Bool := true
  deriving DecidableEq, Repr

/-- The link has no UDP socket that is open. -/
def Link.udpClosed (link : Link) : Bool := link.udpSocket ≠ .opened

/-- The link after `close`. -/
def Link.close (link : Link) : Link :=
  { link with isShutdown := true, udpSocket := if link.udpSocket = .null then .null else .closed }

@[simp] theorem Link.close_kind (link : Link) : link.close.kind = link.kind := rfl

@[simp] theorem Link.close_receiving (link : Link) : link.close.receiving = link.receiving := rfl

@[simp] theorem Link.close_isShutdown (link : Link) : link.close.isShutdown = true := rfl

@[simp] theorem Link.udpClosed_close (link : Link) : link.close.udpClosed = true := by
  cases h : link.udpSocket <;> simp [Link.udpClosed, Link.close, h]

structure World where
  stack : Stack
  mapper : SctpMapper
  /-- `SctpPorts.portMap`. -/
  portMap : ConcurrentHashMap ChanId Int
  channel : ChanId → SctpChannel
  nextChannel : ChanId
  link : LinkId → Link
  nextLink : LinkId
  /-- The calls of `SctpChannel.onConnIn`, the newest first. -/
  delivered : List (ChanId × Bytes)
  /-- The channels whose close task has run. -/
  closed : List ChanId
  /-- The channels that have been registered, by `connect`, a receive loop or the user. -/
  registered : List ChanId
  /-- The `connect` calls that are about to call `connectNative`. -/
  connecting : List (ChanId × InetSocketAddress)

namespace World

def empty : World where
  stack := .empty
  mapper := .empty
  portMap := .empty
  channel _ := ⟨0, none, none, false, none⟩
  nextChannel := 0
  link _ := { kind := .server 0 false }
  nextLink := 0
  delivered := []
  closed := []
  registered := []
  connecting := []

def setChannel (w : World) (c : ChanId) (ch : SctpChannel) : World :=
  { w with channel := Function.update w.channel c ch }

def setLinkObj (w : World) (l : LinkId) (link : Link) : World :=
  { w with link := Function.update w.link l link }

def onStack {α : Type} (m : Java Stack α) : Java World α :=
  Java.zoom World.stack (fun stack w => { w with stack }) m

/-- A method of the mapper that only changes its statics. -/
def onMapper (f : SctpMapper → SctpMapper) : Java World Unit :=
  modify fun w => { w with mapper := f w.mapper }

/-! ## `SctpPorts` -/

def minPort : Int := 0
def maxPort : Int := 65535
def portNotInitialized : Int := -1

def isUsedPort (w : World) (port : Int) : Bool := w.portMap.contains port

def minDynPort : Int := 49152

/-- `generateDynPort`, with the values that `RND.nextInt(MAX_PORT - MIN_DYN_PORT)` returns; `none`
while it is still drawing. -/
def generateDynPort (w : World) : List Nat → Option Int
  | [] => none
  | draw :: draws =>
    let attempt := draw + minDynPort
    if w.isUsedPort attempt then w.generateDynPort draws else some attempt

def isInValidRange (port : Int) : Bool := port ≥ minPort && port ≤ maxPort

def putPort (so : ChanId) (port : Int) : Java World Unit :=
  modify fun w => { w with portMap := w.portMap.put so port }

/-- `SctpChannel.toString`. -/
def channelToString (c : ChanId) : Java World String := do
  let w ← get
  let remote ← Java.deref (w.channel c).remote
  let address ← Java.deref remote.getAddress
  pure ("SctpChannel: Remote(" ++ address.getHostAddress ++ ":" ++ toString remote.getPort ++
    "), SctpSocket(SctpPort:" ++ toString (w.stack.socket (w.channel c).so).localPort ++ ")")

/-- A channel that is not in the map is named in a log message. -/
def removePort (so : ChanId) : Java World Unit := do
  let w ← get
  if !w.portMap.containsKey so then
    let _ ← channelToString so
    pure ()
  else
    set { w with portMap := w.portMap.remove so }

/-! ## `SctpChannel` -/

/-- The constructor; `ptr` is what `usrsctp_socket` returns. -/
def newSctpChannel (localSctpPort : Int) (remote : Option InetSocketAddress)
    (link : Option LinkId) (mapper : Bool) (ptr : Ptr) : Java World ChanId := do
  let w ← get
  if !w.stack.initialized then
    throw (.sctpInitException
      "Sctp is currently not initialized! Try init with SctpUtils.init(...)")
  let so ← onStack (Stack.createSocket localSctpPort ptr)
  let so ← Java.deref so
  onStack (Stack.setLink so link)
  let w ← get
  set { w.setChannel w.nextChannel { so, link, remote, mapper } with
    nextChannel := w.nextChannel + 1 }
  pure w.nextChannel

def setLink (c : ChanId) (link : Option LinkId) : Java World Unit := do
  let w ← get
  onStack (Stack.setLink (w.channel c).so link)
  modify fun w => w.setChannel c { w.channel c with link }

/-- `listen`, which catches every exception. -/
def listen (c : ChanId) : Java World Unit := do
  let w ← get
  tryCatch (onStack (Stack.listenNative (w.channel c).so)) fun _ => pure ()

/-- `onConnIn`, which catches an `IOException`. -/
def onConnIn (c : ChanId) (data : Bytes) (offset length : Int32) : Java World Unit := do
  let payload := (data.drop offset.toNatClampNeg).take length.toNatClampNeg
  modify fun w => { w with delivered := (c, payload) :: w.delivered }
  let w ← get
  Java.catchIOException (onStack (Stack.onConnIn (w.channel c).so data offset length))

/-- `mapper.register(remote, so)` of `connect` and of the receive loop. -/
def register (remote : InetSocketAddress) (so : ChanId) : Java World Unit :=
  modify fun w => { w with
    mapper := w.mapper.register (some remote) (some so)
    registered := if w.mapper.isShutdown then w.registered else so :: w.registered }

/-- `connect` up to its call of `connectNative`. An uninitialised stack rejects the promise; an
address without `InetAddress` throws when it is logged, after the registration. -/
def connectRegister (c : ChanId) (remote : InetSocketAddress) : Java World Unit := do
  let w ← get
  if !w.stack.initialized then
    pure ()
  else
    if !(w.channel c).mapper then throw .npe
    register remote c
    let _ ← Java.deref remote.getAddress
    modify fun w => { w with connecting := (c, remote) :: w.connecting }

/-- The call of `connectNative` in `connect`, with the clean-up of its `catch` block; `ok` is what
`usrsctp_connect` returns. -/
def connectFinish (c : ChanId) (remote : InetSocketAddress) (ok : Bool) : Java World Unit := do
  modify fun w => { w with connecting := w.connecting.erase (c, remote) }
  let w ← get
  tryCatch (onStack (Stack.connectNative (w.channel c).so remote.getPort ok)) fun
    | .ioException _ => onMapper (·.unregisterRemote (some remote))
    | e => throw e

/-- `close` of `UdpServerLink` and of `UdpClientLink`. -/
def linkClose (l : LinkId) : Java World Unit := do
  modify fun w => w.setLinkObj l { w.link l with isShutdown := true }
  let w ← get
  if (w.link l).udpSocket = .null then throw .npe
  set (w.setLinkObj l { w.link l with udpSocket := .closed })

/-- The task that `close` submits. -/
def closeTask (c : ChanId) : Java World Unit := do
  modify fun w => { w with closed := c :: w.closed }
  let w ← get
  let _ ← Java.deref (w.channel c).remote
  if !(w.channel c).mapper then throw .npe
  onMapper (·.unregister (some c))
  removePort c
  onStack (Stack.closeNative (w.channel c).so)
  match (w.channel c).link with
  | some l => linkClose l
  | none => pure ()

/-! ## `SctpChannelBuilder` -/

structure SctpChannelBuilder where
  localSctpPort : Int := portNotInitialized
  remotePort : Int := portNotInitialized
  remoteAddress : Option InetAddress := none
  link : Option LinkId := none
  mapper : Bool := false
  deriving DecidableEq, Repr

namespace SctpChannelBuilder

/-- `localSctpPort`, which returns `null` for a port that is taken or out of range. -/
def setLocalSctpPort (b : SctpChannelBuilder) (port : Int) :
    Java World (Option SctpChannelBuilder) := do
  let w ← get
  if isInValidRange port then
    if !w.isUsedPort port then pure (some { b with localSctpPort := port }) else pure none
  else pure none

def setRemotePort (b : SctpChannelBuilder) (port : Int) : SctpChannelBuilder :=
  if isInValidRange port then { b with remotePort := port } else b

def setRemoteAddress (b : SctpChannelBuilder) (address : Option InetAddress) :
    SctpChannelBuilder :=
  if address.isSome then { b with remoteAddress := address } else b

def networkLink (b : SctpChannelBuilder) (link : Option LinkId) : SctpChannelBuilder :=
  if link.isSome then { b with link } else b

def setMapper (b : SctpChannelBuilder) (mapper : Bool) : SctpChannelBuilder :=
  if mapper then { b with mapper } else b

/-- The remote address that `build` makes from the two parts, `null` when one is missing. -/
def remote (b : SctpChannelBuilder) : Option InetSocketAddress :=
  if b.remotePort = portNotInitialized then none
  else b.remoteAddress.map (.resolved · (UInt16.ofNat b.remotePort.toNat))

/-- `build`; `dynPort` is what `generateDynPort` returns if it is called. -/
def build (b : SctpChannelBuilder) (dynPort : Int) (ptr : Ptr) : Java World (Option ChanId) := do
  let localSctpPort :=
    if b.localSctpPort = portNotInitialized then dynPort else b.localSctpPort
  if !b.mapper then
    pure none
  else
    let so ← newSctpChannel localSctpPort b.remote b.link b.mapper ptr
    pure (some so)

end SctpChannelBuilder

/-! ## Specifications -/

/-- The world after the constructor has made a channel. -/
def withChannel (w : World) (localSctpPort : Int) (remote : Option InetSocketAddress)
    (link : Option LinkId) (mapper : Bool) (ptr : Ptr) : World :=
  { w with
    stack := w.stack.withSocket localSctpPort link ptr
    channel := Function.update w.channel w.nextChannel { so := w.stack.next, link, remote, mapper }
    nextChannel := w.nextChannel + 1 }

theorem newSctpChannel_run (w : World) (localSctpPort : Int) (remote : Option InetSocketAddress)
    (link : Option LinkId) (mapper : Bool) (ptr : Ptr) :
    (newSctpChannel localSctpPort remote link mapper ptr).run w =
      if w.stack.initialized = false then
        (.error (.sctpInitException
          "Sctp is currently not initialized! Try init with SctpUtils.init(...)"), w)
      else if ptr = 0 then (.error .npe, w)
      else (.ok w.nextChannel, w.withChannel localSctpPort remote link mapper ptr) := by
  cases hi : w.stack.initialized with
  | false => simp [newSctpChannel, Java.run_bind, hi]
  | true =>
    by_cases hp : ptr = 0
    · simp [newSctpChannel, Java.run_bind, hi, hp, onStack, Java.run_zoom, Stack.createSocket]
    · simp [newSctpChannel, Java.run_bind, hi, hp, onStack, Java.run_zoom, Stack.createSocket,
        Stack.setLink, withChannel, Stack.withSocket, setChannel, Stack.setSocket]

/-- `build` returns `null` without a mapper, and else what the constructor returns. -/
theorem SctpChannelBuilder.build_run (w : World) (b : SctpChannelBuilder) (dynPort : Int)
    (ptr : Ptr) : (b.build dynPort ptr).run w =
      if b.mapper = false then (.ok none, w)
      else if w.stack.initialized = false then
        (.error (.sctpInitException
          "Sctp is currently not initialized! Try init with SctpUtils.init(...)"), w)
      else if ptr = 0 then (.error .npe, w)
      else (.ok (some w.nextChannel), w.withChannel
        (if b.localSctpPort = portNotInitialized then dynPort else b.localSctpPort)
        b.remote b.link true ptr) := by
  unfold SctpChannelBuilder.build
  cases hm : b.mapper with
  | false => rfl
  | true =>
    simp only [Bool.not_true, Bool.false_eq_true, Bool.true_eq_false, if_false, Java.run_bind,
      newSctpChannel_run]
    by_cases hi : w.stack.initialized = false
    · rw [if_pos hi, if_pos hi]
    · rw [if_neg hi, if_neg hi]
      by_cases hp : ptr = 0
      · rw [if_pos hp, if_pos hp]
      · rw [if_neg hp, if_neg hp]
        rfl

/-- `setLink` writes the field of the channel and that of its socket. -/
theorem setLink_run (w : World) (c : ChanId) (link : Option LinkId) :
    (setLink c link).run w = (.ok (),
      { w with stack := ((Stack.setLink (w.channel c).so link).run w.stack).2 }.setChannel c
        { w.channel c with link }) := rfl

/-- The world after a packet was handed to channel `c`; a closed socket drops it. -/
def withPacket (w : World) (c : ChanId) (data : Bytes) (offset length : Int32) : World :=
  let so := w.stack.socket (w.channel c).so
  { w with
    delivered :=
      (c, (data.drop offset.toNatClampNeg).take length.toNatClampNeg) :: w.delivered
    stack := if so.closed = true ∨ so.ptr = 0 then w.stack
      else w.stack.record (.onNetworkIn so.ptr data offset length) }

/-- Only the argument check of `SctpSocket.onConnIn` throws out of `SctpChannel.onConnIn`. -/
theorem onConnIn_run {w : World} {c : ChanId}
    (hb : 0 ≤ (w.stack.socket (w.channel c).so).ptrLockCount) (data : Bytes)
    (offset length : Int32) (h : SctpSocket.outOfRange data offset length = false) :
    (onConnIn c data offset length).run w = (.ok (), w.withPacket c data offset length) := by
  by_cases hc : (w.stack.socket (w.channel c).so).closed = true ∨
      (w.stack.socket (w.channel c).so).ptr = 0
  · simp [onConnIn, Java.run_bind, Java.run_catchIOException, onStack, Java.run_zoom,
      Stack.onConnIn_run hb, h, withPacket, hc]
  · simp [onConnIn, Java.run_bind, Java.run_catchIOException, onStack, Java.run_zoom,
      Stack.onConnIn_run hb, h, withPacket, hc]

theorem onConnIn_error {w : World} {c : ChanId}
    (hb : 0 ≤ (w.stack.socket (w.channel c).so).ptrLockCount) (data : Bytes)
    (offset length : Int32) (h : SctpSocket.outOfRange data offset length = true) :
    (onConnIn c data offset length).run w =
      (.error (SctpSocket.rangeException "packet" data offset length),
        { w with delivered :=
          (c, (data.drop offset.toNatClampNeg).take length.toNatClampNeg) :: w.delivered }) := by
  simp only [onConnIn, Java.run_bind, Java.run_modify, Java.run_get, Java.run_catchIOException,
    onStack, Java.run_zoom, Stack.onConnIn_run hb, h, if_true, SctpSocket.rangeException]

/-- The text of a channel is read from the state, which stays as it is. -/
theorem channelToString_spec {P : World → Prop} (c : ChanId) :
    Java.Spec P (channelToString c) (fun _ => P) P :=
  .bind (.get fun _ h => h) fun _ => .bind (.deref (fun _ _ _ h => h) fun _ h => h) fun _ =>
    .bind (.deref (fun _ _ _ h => h) fun _ h => h) fun _ => .pure fun _ h => h

/-- `close` marks the link, and then throws if it has no UDP socket. -/
theorem linkClose_run (w : World) (l : LinkId) :
    (linkClose l).run w =
      (if (w.link l).udpSocket = .null then .error .npe else .ok (),
        w.setLinkObj l (w.link l).close) := by
  by_cases h : (w.link l).udpSocket = .null
  · simp [linkClose, Java.run_bind, setLinkObj, Link.close, h]
  · simp [linkClose, Java.run_bind, setLinkObj, Link.close, h]

theorem linkClose_spec {P : World → Prop} {l : LinkId}
    (h : ∀ w, P w → P (w.setLinkObj l (w.link l).close)) :
    Java.Spec P (linkClose l) (fun _ => P) P := by
  intro w hw
  rw [linkClose_run]
  split_ifs
  · exact h w hw
  · exact h w hw

theorem removePort_spec {P : World → Prop} {c : ChanId}
    (hport : ∀ w, w.portMap.containsKey c = true → P w →
      P { w with portMap := w.portMap.remove c }) : Java.Spec P (removePort c) (fun _ => P) P := by
  intro w hw
  cases hk : w.portMap.containsKey c with
  | true =>
    have hrun : (removePort c).run w = (.ok (), { w with portMap := w.portMap.remove c }) := by
      simp [removePort, Java.run_bind, hk]
    rw [hrun]
    exact hport w hk hw
  | false =>
    have hrun : (removePort c).run w = (channelToString c >>= fun _ => pure ()).run w := by
      simp [removePort, Java.run_bind, hk]
    rw [hrun]
    exact Java.Spec.bind (channelToString_spec c) (fun _ => .pure fun _ h => h) w hw

/-- The close task changes the ports, a socket and a link. It leaves the mapper as it is:
`unregister(SctpChannel)` removes no entry. -/
theorem closeTask_spec {P : World → Prop} {c : ChanId}
    (hport : ∀ w, w.portMap.containsKey c = true → P w → P { w with portMap := w.portMap.remove c })
    (hclose : ∀ w s, P w → P { w with stack := ((Stack.closeNative s).run w.stack).2 })
    (hlink : ∀ w l, P w → P (w.setLinkObj l (w.link l).close)) :
    Java.Spec (fun w => P { w with closed := c :: w.closed }) (closeTask c) (fun _ => P) P := by
  refine .bind (.modify fun _ h => h) fun _ => .bind (.get fun _ h => h) fun w =>
    .bind (.deref (fun _ _ _ h => h) fun _ h => h) fun _ => ?_
  cases (w.channel c).mapper with
  | false => exact .throw fun _ h => h
  | true =>
    refine .bind (.modify fun w h => ?_) fun _ => .bind (removePort_spec hport) fun _ =>
      .bind (.zoom (fun w _ h _ => hclose w _ h) fun w h => hclose w _ h) fun _ => ?_
    · simpa only [SctpMapper.unregister_eq] using h
    · split
      · exact linkClose_spec fun w h => hlink w _ h
      · exact .pure fun _ h => h

/-- The close task leaves the mapper as it is, in whatever way it ends. -/
theorem closeTask_mapper (w : World) (c : ChanId) : ((closeTask c).run w).2.mapper = w.mapper :=
  (closeTask_spec (P := fun w' => w'.mapper = w.mapper) (fun _ _ h => h) (fun _ _ h => h)
    (fun _ _ h => h)).state rfl

theorem closeTask_channel (w : World) (c : ChanId) :
    ((closeTask c).run w).2.channel = w.channel :=
  (closeTask_spec (P := fun w' => w'.channel = w.channel) (fun _ _ h => h) (fun _ _ h => h)
    (fun _ _ h => h)).state rfl

/-- What a method of one socket keeps, the close task keeps. -/
theorem closeTask_stack {P : Stack → Prop}
    (hP : ∀ {s : SockId} {st st' : Stack}, Stack.Frame s st st' → P st → P st') {w : World}
    (h : P w.stack) (c : ChanId) : P ((closeTask c).run w).2.stack := by
  refine (closeTask_spec (P := fun w' => P w'.stack) (fun _ _ h => h) (fun w' s h => ?_)
    (fun _ _ h => h)).state h
  obtain ⟨st', hrun, hframe, _⟩ := Stack.closeNative_run w'.stack s
  rw [hrun]
  exact hP hframe h

theorem closeTask_initialized (w : World) (c : ChanId) :
    ((closeTask c).run w).2.stack.initialized = w.stack.initialized :=
  closeTask_stack (P := fun st => st.initialized = w.stack.initialized)
    (fun hframe h => hframe.initialized.trans h) rfl c

theorem closeTask_balanced {w : World} (hb : w.stack.Balanced) (c : ChanId) :
    ((closeTask c).run w).2.stack.Balanced :=
  closeTask_stack (fun hframe h => hframe.balanced h) hb c

/-- `connectNative` returns or throws an `IOException`, and leaves the sockets as they are. -/
theorem connectNative_outcome {w : World} {c : ChanId}
    (hb : 0 ≤ (w.stack.socket (w.channel c).so).ptrLockCount) (port : UInt16) (ok : Bool) :
    ∃ (r : Except Throwable Unit) (st' : Stack),
      (r = .ok () ∨ ∃ msg, r = .error (.ioException msg)) ∧
      (onStack (Stack.connectNative (w.channel c).so port ok)).run w =
        (r, { w with stack := st' }) ∧
      st'.socket = w.stack.socket ∧ st'.initialized = w.stack.initialized := by
  obtain ⟨st', hrun, hso, _, hin⟩ := Stack.connectNative_run hb port ok
  refine ⟨_, st', ?_, by rw [onStack, Java.run_zoom, hrun], hso, hin⟩
  split
  · exact .inr ⟨_, rfl⟩
  · cases ok with
    | false => exact .inr ⟨_, rfl⟩
    | true => exact .inl rfl

/-- The text of a channel whose remote has an address. -/
theorem channelToString_run (w : World) (c : ChanId) (address : InetAddress) (port : UInt16)
    (h : (w.channel c).remote = some (.resolved address port)) :
    ∃ text, (channelToString c).run w = (.ok text, w) := by
  simp [channelToString, Java.run_bind, h, InetSocketAddress.getAddress]

/-- What the close task needs to come to `closeNative` and to the link: a remote, a mapper, and an
address for the log message about a port that is not in the map. -/
def closable (w : World) (c : ChanId) : Bool :=
  (w.channel c).remote.any (fun remote => w.portMap.containsKey c || remote.getAddress.isSome) &&
    (w.channel c).mapper

/-- A channel that is not in the map of ports leaves it as it is. -/
theorem removePort_run (w : World) (c : ChanId) (remote : InetSocketAddress)
    (h : (w.channel c).remote = some remote) :
    (removePort c).run w =
      if w.portMap.containsKey c || remote.getAddress.isSome then
        (.ok (), { w with portMap := w.portMap.remove c })
      else (.error .npe, w) := by
  cases hk : w.portMap.containsKey c with
  | true => simp [removePort, Java.run_bind, hk]
  | false =>
    have hsame : w.portMap.remove c = w.portMap := ConcurrentHashMap.remove_of_not_containsKey hk
    cases ha : remote.getAddress <;>
      simp [removePort, channelToString, Java.run_bind, hk, h, ha, hsame]

/-- The link of the channel, if it has one, can be closed. -/
def linkClosable (w : World) (c : ChanId) : Bool :=
  (w.channel c).link.all fun l => (w.link l).udpSocket ≠ .null

/-- The links after the link of the channel was closed. -/
def closeLink (w : World) (c : ChanId) : LinkId → Link :=
  match (w.channel c).link with
  | some l => Function.update w.link l (w.link l).close
  | none => w.link

/-- The close task of a closable channel takes its port out of the map, calls `closeNative` and
closes the link; only the link can make it throw. -/
theorem closeTask_run {w : World} {c : ChanId} (h : w.closable c = true) : ∃ st' : Stack,
    (st'.socket (w.channel c).so).closed = true ∧
    (closeTask c).run w = (if w.linkClosable c then .ok () else .error .npe,
      { w with
        closed := c :: w.closed
        portMap := w.portMap.remove c
        stack := st'
        link := w.closeLink c }) := by
  rw [closable, Bool.and_eq_true, Option.any_eq_true] at h
  obtain ⟨⟨remote, hr, hport⟩, hm⟩ := h
  obtain ⟨st', hclose, _, hclosed⟩ := Stack.closeNative_run w.stack (w.channel c).so
  have hremove : (removePort c).run { w with closed := c :: w.closed } =
      (.ok (), { w with closed := c :: w.closed, portMap := w.portMap.remove c }) := by
    rw [removePort_run { w with closed := c :: w.closed } c remote hr, if_pos hport]
  refine ⟨st', hclosed, ?_⟩
  simp only [closeTask, Java.run_bind, Java.run_modify, Java.run_get, hr, hm,
    Java.run_deref_some, onMapper, SctpMapper.unregister_eq, Bool.not_true, Bool.false_eq_true,
    if_false, hremove, onStack, Java.run_zoom, hclose]
  cases hl : (w.channel c).link with
  | none => simp [linkClosable, closeLink, hl]
  | some l =>
    dsimp only
    rw [linkClose_run]
    by_cases hu : (w.link l).udpSocket = .null <;>
      simp [linkClosable, closeLink, hl, hu, setLinkObj]

/-- The close task of any other channel throws before it does anything. -/
theorem closeTask_error {w : World} {c : ChanId} (h : w.closable c = false) :
    (closeTask c).run w = (.error .npe, { w with closed := c :: w.closed }) := by
  cases hr : (w.channel c).remote with
  | none => simp [closeTask, Java.run_bind, hr]
  | some remote =>
    cases hm : (w.channel c).mapper with
    | false => simp [closeTask, Java.run_bind, hr, hm]
    | true =>
      obtain ⟨hk, ha⟩ : w.portMap.containsKey c = false ∧ remote.getAddress = none := by
        simpa [closable, hr, hm] using h
      have hremove := removePort_run { w with closed := c :: w.closed } c remote hr
      simp [closeTask, Java.run_bind, hr, hm, onMapper, hremove, hk, ha]

end World

end Sctp4Nat
