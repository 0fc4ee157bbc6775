import Sctp4Nat.Core.World

/-! # `UdpServerLink` and `UdpClientLink`

One iteration of each receive loop, as a method that gets the datagram that `udpSocket.receive`
returned. The server's loop catches `IOException` and `SctpInitException` around its body; the
client's loop is inside a `try` that catches `IOException`. An exception of any other kind leaves
the loop. -/

namespace Sctp4Nat

/-- `UDP_DEFAULT_BUFFER_SIZE`. -/
def udpDefaultBufferSize : Nat := 2048

/-- A received datagram: its source and its payload, cut to the size of the buffer. -/
structure Datagram where
  address : InetAddress
  port : UInt16
  data : Bytes
  size : data.length ≤ udpDefaultBufferSize

namespace Datagram

def remote (d : Datagram) : InetSocketAddress := .resolved d.address d.port

/-- The receive buffer with the payload at its start and the bytes that were there behind. -/
def buffer (d : Datagram) (before : Bytes) : Bytes := d.data ++ before.drop d.data.length

/-- A new buffer. -/
def newBuffer : Bytes := List.replicate udpDefaultBufferSize 0

def length (d : Datagram) : Int32 := Int32.ofNat d.data.length

theorem length_buffer (d : Datagram) {before : Bytes}
    (h : before.length = udpDefaultBufferSize) :
    (d.buffer before).length = udpDefaultBufferSize := by
  have := d.size
  simp [buffer, h]
  omega

theorem length_newBuffer : newBuffer.length = udpDefaultBufferSize := by
  simp [newBuffer]

theorem toInt_length (d : Datagram) : d.length.toInt = d.data.length := by
  have := d.size
  have hsize : udpDefaultBufferSize = 2048 := rfl
  rw [length, Int32.toInt_ofNat_of_lt (by omega)]

/-- The argument check of `onConnIn` fails on the empty datagrams, and on no other. -/
theorem outOfRange_buffer (d : Datagram) {before : Bytes}
    (h : before.length = udpDefaultBufferSize) :
    SctpSocket.outOfRange (d.buffer before) 0 d.length = decide (d.data.length = 0) := by
  have := d.size
  have hsize : udpDefaultBufferSize = 2048 := rfl
  rw [Bool.eq_iff_iff]
  simp [SctpSocket.outOfRange, d.length_buffer h, Int32.lt_iff_toInt_lt, Int32.le_iff_toInt_le,
    d.toInt_length, hsize]
  omega

/-- What `onConnIn` gets of the buffer is the payload. -/
theorem payload_buffer (d : Datagram) (before : Bytes) :
    ((d.buffer before).drop (0 : Int32).toNatClampNeg).take d.length.toNatClampNeg = d.data := by
  have hlen : d.length.toNatClampNeg = d.data.length := by
    rw [Int32.toNatClampNeg, d.toInt_length]; rfl
  rw [hlen]
  simp [buffer]

/-- A datagram from port 5000 of an IPv4 host. -/
def sample (address : BitVec 32) (data : Bytes) (h : data.length ≤ udpDefaultBufferSize) :
    Datagram :=
  ⟨.inet4 address, 5000, data, h⟩

def oneByte (address : BitVec 32) : Datagram := sample address [1] (by decide)

end Datagram

/-- 10.0.0.7, port 5000. -/
def samplePeer : InetSocketAddress := .resolved (.inet4 0x0A000007#32) 5000

namespace World

/-! ## `UdpServerLink` -/

/-- `setupSocket`; `ptr` is what `usrsctp_socket` returns. -/
def setupSocket (l : LinkId) (localPort : UInt16) (d : Datagram) (mapper : Bool) (ptr : Ptr) :
    Java World ChanId := do
  let b := ({} : SctpChannelBuilder).networkLink (some l)
  let b ← Java.deref (← b.setLocalSctpPort localPort.toNat)
  let b := ((b.setRemoteAddress (some d.address)).setRemotePort d.port.toNat).setMapper mapper
  let so ← Java.deref (← b.build 0 ptr)
  let _ ← channelToString so
  modify fun w => w.setChannel so { w.channel so with creator := some l }
  listen so
  pure so

/-- The world after `setupSocket` has made a channel for the source of `d`. -/
def withServerChannel (w : World) (l : LinkId) (localPort : UInt16) (d : Datagram) (ptr : Ptr) :
    World :=
  { w with
    stack := (w.stack.withSocket localPort.toNat (some l) ptr).record (.listen ptr)
    channel := Function.update w.channel w.nextChannel
      { so := w.stack.next, link := some l, remote := some d.remote, mapper := true,
        creator := some l }
    nextChannel := w.nextChannel + 1 }

theorem isInValidRange_port (port : UInt16) : isInValidRange port.toNat = true := by
  have := port.toNat_lt
  rw [isInValidRange, Bool.and_eq_true, decide_eq_true_eq, decide_eq_true_eq, minPort, maxPort]
  omega

theorem natCast_ne_portNotInitialized (port : UInt16) :
    (port.toNat : Int) ≠ portNotInitialized := by
  simp only [portNotInitialized]; omega

/-- What the chain of builder calls in `setupSocket` has collected when it comes to `build`. -/
def serverBuilder (l : LinkId) (localPort : UInt16) (d : Datagram) (mapper : Bool) :
    SctpChannelBuilder where
  localSctpPort := localPort.toNat
  remotePort := d.port.toNat
  remoteAddress := some d.address
  link := some l
  mapper := mapper

theorem serverBuilder_eq (l : LinkId) (localPort : UInt16) (d : Datagram) (mapper : Bool) :
    (((({ link := some l, localSctpPort := localPort.toNat } : SctpChannelBuilder).setRemoteAddress
      (some d.address)).setRemotePort d.port.toNat).setMapper mapper) =
      serverBuilder l localPort d mapper := by
  cases mapper <;>
    simp [SctpChannelBuilder.setRemotePort, SctpChannelBuilder.setRemoteAddress,
      SctpChannelBuilder.setMapper, isInValidRange_port, serverBuilder]

theorem serverBuilder_remote (l : LinkId) (localPort : UInt16) (d : Datagram) (mapper : Bool) :
    (serverBuilder l localPort d mapper).remote = some d.remote := by
  simp [SctpChannelBuilder.remote, serverBuilder, natCast_ne_portNotInitialized, Datagram.remote]

/-- `build` at the end of the chain: `null` without a mapper, else the constructor. -/
theorem serverBuilder_build (l : LinkId) (localPort : UInt16) (d : Datagram) (mapper : Bool)
    (ptr : Ptr) : (serverBuilder l localPort d mapper).build 0 ptr =
      if mapper then do
        let so ← newSctpChannel localPort.toNat (some d.remote) (some l) mapper ptr
        pure (some so)
      else pure none := by
  rw [SctpChannelBuilder.build, serverBuilder_remote]
  cases mapper <;> simp [serverBuilder, natCast_ne_portNotInitialized]

/-- An open socket that is not listening and has no call running can listen. -/
theorem listen_run {w : World} {c : ChanId} {so : SctpSocket}
    (hso : w.stack.socket (w.channel c).so = so) (ha : so.isAccepted = false)
    (hb : 0 ≤ so.ptrLockCount) (hc : so.closed = false) (hp : so.ptr ≠ 0) :
    (listen c).run w = (.ok (), { w with stack := w.stack.record (.listen so.ptr) }) := by
  subst hso
  have hset : (Stack.onSocket (w.channel c).so
      (modify fun so => { so with isAccepted := false })).run w.stack = (.ok ⟨⟩, w.stack) := by
    have : { w.stack.socket (w.channel c).so with isAccepted := false } =
        w.stack.socket (w.channel c).so := by rw [← ha]
    rw [Stack.onSocket, Java.run_zoom, Java.run_modify, this, Stack.setSocket_self]
  have hlisten : (Stack.listenNative (w.channel c).so).run w.stack = (.ok (), w.stack.record
      (.listen (w.stack.socket (w.channel c).so).ptr)) := by
    rw [Stack.listenNative, Java.run_bind_ok hset, Stack.bracket_open hb hc hp]
  simp [listen, Java.run_bind, Java.run_tryCatch, onStack, Java.run_zoom, hlisten]

/-- `setupSocket` throws when the port is taken, when the link has no mapper, when the stack is
not initialised or when usrsctp has no socket; otherwise it makes one channel. -/
theorem setupSocket_run (w : World) (l : LinkId) (localPort : UInt16) (d : Datagram)
    (mapper : Bool) (ptr : Ptr) : (setupSocket l localPort d mapper ptr).run w =
      if w.isUsedPort localPort.toNat = true then (.error .npe, w)
      else if mapper = false then (.error .npe, w)
      else if w.stack.initialized = false then
        (.error (.sctpInitException
          "Sctp is currently not initialized! Try init with SctpUtils.init(...)"), w)
      else if ptr = 0 then (.error .npe, w)
      else (.ok w.nextChannel, w.withServerChannel l localPort d ptr) := by
  let b₀ : SctpChannelBuilder := { link := some l, localSctpPort := localPort.toNat }
  have hport : ((({} : SctpChannelBuilder).networkLink (some l)).setLocalSctpPort
      localPort.toNat).run w =
        (.ok (if w.isUsedPort localPort.toNat then none else some b₀), w) := by
    cases hused : w.isUsedPort localPort.toNat <;>
      simp [SctpChannelBuilder.setLocalSctpPort, isInValidRange_port, Java.run_bind, hused,
        SctpChannelBuilder.networkLink, b₀]
  rw [setupSocket, Java.run_bind_ok hport]
  cases hused : w.isUsedPort localPort.toNat with
  | true => simp [Java.run_bind]
  | false =>
    rw [if_neg Bool.false_ne_true, if_neg Bool.false_ne_true,
      Java.run_bind_ok (Java.run_deref_some b₀ w), serverBuilder_eq]
    dsimp only
    rw [serverBuilder_build]
    cases mapper with
    | false => simp [Java.run_bind]
    | true =>
      have hnew := newSctpChannel_run w localPort.toNat (some d.remote) (some l) true ptr
      cases hi : w.stack.initialized with
      | false => simp [Java.run_bind, hnew, hi]
      | true =>
        rcases eq_or_ne ptr 0 with rfl | hp
        · simp [Java.run_bind, hnew, hi]
        · let w₁ := w.withChannel localPort.toNat (some d.remote) (some l) true ptr
          obtain ⟨text, htext⟩ := channelToString_run w₁ w.nextChannel d.address d.port
            (by simp [w₁, withChannel, Datagram.remote])
          let w₂ := w₁.setChannel w.nextChannel
            { w₁.channel w.nextChannel with creator := some l }
          have hlisten : (listen w.nextChannel).run w₂ =
              (.ok (), w.withServerChannel l localPort d ptr) := by
            rw [@listen_run w₂ w.nextChannel { ptr, localPort := localPort.toNat }
              (by simp [w₂, w₁, withChannel, setChannel, Stack.withSocket]) rfl (by simp) rfl hp]
            simp [w₂, w₁, withServerChannel, withChannel, setChannel]
          simp [Java.run_bind, hnew, hi, hp]
          simp only [w₁, w₂] at htext hlisten
          simp only [htext, hlisten]

/-- The body of the loop in `UdpServerLink.receive`. -/
def serverBody (l : LinkId) (localPort : UInt16) (mapper : Bool)
    (it : Iteration (InetSocketAddress × ChanId)) (d : Datagram) (ptr : Ptr) :
    Java World Unit := do
  let w ← get
  let so ← Java.ofExcept (w.mapper.locate it d.address.getHostAddress d.port)
  match so with
  | none =>
    let so ← setupSocket l localPort d mapper ptr
    register d.remote so
    onConnIn so (d.buffer Datagram.newBuffer) 0 d.length
  | some so => onConnIn so (d.buffer Datagram.newBuffer) 0 d.length

/-- The `catch` blocks of the loop, which only log. -/
def catchServer : Throwable → Java World Unit
  | .ioException _ | .sctpInitException _ => pure ()
  | e => throw e

/-- One iteration of the loop in `UdpServerLink.receive`. -/
def serverIteration (l : LinkId) (localPort : UInt16) (mapper : Bool)
    (it : Iteration (InetSocketAddress × ChanId)) (d : Datagram) (ptr : Ptr) :
    Java World Unit :=
  tryCatch (serverBody l localPort mapper it d ptr) catchServer

/-- `UdpServerLink.onConnOut`: the packet goes to the remote of the channel. -/
def serverOnConnOut (l : LinkId) (facade : Option ChanId) : Java World InetSocketAddress := do
  let w ← get
  let c ← Java.deref facade
  let remote ← Java.deref (w.channel c).remote
  let _ ← Java.deref remote.getAddress
  if (w.link l).udpClosed then throw (.ioException "Socket is closed")
  pure remote

/-! ## `UdpClientLink` -/

/-- One iteration of the loop in `UdpClientLink.receive`; `before` is what the one buffer of the
loop held. The `try` block is around the loop, so every exception ends the loop. -/
def clientIteration (so : ChanId) (before : Bytes) (d : Datagram) : Java World Unit :=
  onConnIn so (d.buffer before) 0 d.length

/-! ## Specifications of an iteration -/

/-- The world after channel `c` was registered for `remote`. -/
def withRegistration (w : World) (remote : InetSocketAddress) (c : ChanId) : World :=
  { w with
    mapper := w.mapper.register (some remote) (some c)
    registered := if w.mapper.isShutdown then w.registered else c :: w.registered }

theorem register_run (w : World) (remote : InetSocketAddress) (c : ChanId) :
    (register remote c).run w = (.ok (), w.withRegistration remote c) := rfl

/-- The world after a channel was handed a datagram, which a closed socket drops. -/
def withDatagram (w : World) (c : ChanId) (d : Datagram) (before : Bytes) : World :=
  w.withPacket c (d.buffer before) 0 d.length

/-- `onConnIn` on a datagram ends normally, unless the datagram is empty. -/
theorem onConnIn_datagram {w : World} {c : ChanId}
    (hb : 0 ≤ (w.stack.socket (w.channel c).so).ptrLockCount) {before : Bytes}
    (hbuf : before.length = udpDefaultBufferSize) (d : Datagram) (hd : 0 < d.data.length) :
    (onConnIn c (d.buffer before) 0 d.length).run w = (.ok (), w.withDatagram c d before) := by
  refine onConnIn_run hb _ _ _ ?_
  rw [d.outOfRange_buffer hbuf, decide_eq_false_iff_not]
  omega

/-- The state after an empty datagram made `onConnIn` throw. -/
theorem onConnIn_empty {w : World} {c : ChanId}
    (hb : 0 ≤ (w.stack.socket (w.channel c).so).ptrLockCount) {before : Bytes}
    (hbuf : before.length = udpDefaultBufferSize) (d : Datagram) (hd : d.data.length = 0) :
    (onConnIn c (d.buffer before) 0 d.length).run w =
      (.error (SctpSocket.rangeException "packet" (d.buffer before) 0 d.length),
        { w with delivered := (c, d.data) :: w.delivered }) := by
  have hr := d.outOfRange_buffer hbuf
  rw [decide_eq_true hd] at hr
  rw [onConnIn_error hb _ _ _ hr, d.payload_buffer]

/-- The body of the server's loop: the known remote, or one for which a channel is made. -/
theorem serverBody_run (w : World) (l : LinkId) (localPort : UInt16) (mapper : Bool)
    (it : Iteration (InetSocketAddress × ChanId)) (d : Datagram) (ptr : Ptr) :
    (serverBody l localPort mapper it d ptr).run w =
      match w.mapper.locate it d.address.getHostAddress d.port with
      | .error e => (.error e, w)
      | .ok (some c) => (onConnIn c (d.buffer Datagram.newBuffer) 0 d.length).run w
      | .ok none =>
        match (setupSocket l localPort d mapper ptr).run w with
        | (.ok c, w') =>
          (onConnIn c (d.buffer Datagram.newBuffer) 0 d.length).run
            (w'.withRegistration d.remote c)
        | (.error e, w') => (.error e, w') := by
  rw [serverBody, Java.run_bind_ok (Java.run_get w), Java.run_bind, Java.run_ofExcept]
  cases w.mapper.locate it d.address.getHostAddress d.port with
  | error e => rfl
  | ok so =>
    cases so with
    | some c => rfl
    | none =>
      change ((setupSocket l localPort d mapper ptr) >>= _).run w = _
      rw [Java.run_bind]
      rcases (setupSocket l localPort d mapper ptr).run w with ⟨_ | c, w'⟩ <;> rfl

/-- Nothing that leaves `onConnIn` is caught by the loop. -/
theorem catchServer_onConnIn {w : World} {c : ChanId}
    (hb : 0 ≤ (w.stack.socket (w.channel c).so).ptrLockCount) {before : Bytes}
    (hbuf : before.length = udpDefaultBufferSize) (d : Datagram) :
    (tryCatch (onConnIn c (d.buffer before) 0 d.length) catchServer).run w =
      (onConnIn c (d.buffer before) 0 d.length).run w := by
  rw [Java.run_tryCatch]
  rcases Nat.eq_zero_or_pos d.data.length with hd | hd
  · rw [onConnIn_empty hb hbuf d hd]; rfl
  · rw [onConnIn_datagram hb hbuf d hd]

/-- One iteration of the server's loop, up to its call of `onConnIn`. -/
theorem serverIteration_run {w : World} (hb : w.stack.Balanced) (l : LinkId) (localPort : UInt16)
    (mapper : Bool) (it : Iteration (InetSocketAddress × ChanId)) (d : Datagram) (ptr : Ptr) :
    (serverIteration l localPort mapper it d ptr).run w =
      match w.mapper.locate it d.address.getHostAddress d.port with
      | .error e => (.error e, w)
      | .ok (some c) => (onConnIn c (d.buffer Datagram.newBuffer) 0 d.length).run w
      | .ok none =>
        if w.isUsedPort localPort.toNat = true ∨ mapper = false then (.error .npe, w)
        else if w.stack.initialized = false then (.ok (), w)
        else if ptr = 0 then (.error .npe, w)
        else (onConnIn w.nextChannel (d.buffer Datagram.newBuffer) 0 d.length).run
          ((w.withServerChannel l localPort d ptr).withRegistration d.remote w.nextChannel) := by
  rw [serverIteration, Java.run_tryCatch, serverBody_run]
  cases hloc : w.mapper.locate it d.address.getHostAddress d.port with
  | error e =>
    obtain rfl := SctpMapper.locate_error hloc
    rfl
  | ok so =>
    cases so with
    | some c => exact catchServer_onConnIn (hb _) Datagram.length_newBuffer d
    | none =>
      have hfresh : 0 ≤ (((w.withServerChannel l localPort d ptr).withRegistration d.remote
          w.nextChannel).stack.socket (((w.withServerChannel l localPort d ptr).withRegistration
          d.remote w.nextChannel).channel w.nextChannel).so).ptrLockCount := by
        simp [withRegistration, withServerChannel, Stack.withSocket, Stack.record]
      rw [setupSocket_run]
      cases w.isUsedPort localPort.toNat with
      | true => rfl
      | false =>
        cases mapper with
        | false => rfl
        | true =>
          cases hi : w.stack.initialized with
          | false => rfl
          | true =>
            rcases eq_or_ne ptr 0 with rfl | hp
            · rfl
            · simp only [hp, Bool.false_eq_true, Bool.true_eq_false, or_self, if_false]
              exact catchServer_onConnIn hfresh Datagram.length_newBuffer d

end World

end Sctp4Nat
