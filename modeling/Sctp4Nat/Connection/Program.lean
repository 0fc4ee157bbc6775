import Sctp4Nat.Connection.UdpLink
import Sctp4Nat.Core.Directory
import Sctp4Nat.Machine.Basic

/-! # Runs of the program

The operations of the public interface, the tasks of the thread pool and the arrival of
datagrams, each run to its end, in any order; `connect` is two operations, so that others fall
between its registration and its native call. The exceptions of an operation go to its caller,
except in a receive loop, which ends.

Of what an operation does to the mapper, `action` says which change of the directory it is. -/

namespace Sctp4Nat

namespace World

/-- An operation with its arguments, the answers of usrsctp (`ptr`, `ok`), the generated port
(`dynPort`), whether the UDP socket is created (`bound`) and the order in which a map is
traversed (`it`). -/
inductive Op
  | setInitialized (b : Bool)
  | setShutdown (b : Bool)
  | clearMap
  | newChannel (localSctpPort : Int) (remote : Option InetSocketAddress) (link : Option LinkId)
      (mapper : Bool) (ptr : Ptr)
  | build (b : SctpChannelBuilder) (dynPort : Int) (ptr : Ptr)
  | setLink (c : ChanId) (link : Option LinkId)
  | listen (c : ChanId)
  | connectRegister (c : ChanId) (remote : InetSocketAddress)
  | connectFinish (c : ChanId) (remote : InetSocketAddress) (ok : Bool)
  | closeTask (c : ChanId)
  | register (remote : InetSocketAddress) (c : ChanId)
  | unregister (remote : InetSocketAddress)
  | putPort (c : ChanId) (port : Int)
  | removePort (c : ChanId)
  | newServerLink (localPort : UInt16) (mapper : Bool)
  | newClientLink (localAddr remote : InetSocketAddress) (c : ChanId) (bound : Bool)
  | linkClose (l : LinkId)
  | serverDatagram (l : LinkId) (it : Iteration (InetSocketAddress × ChanId)) (d : Datagram)
      (ptr : Ptr)
  | clientDatagram (l : LinkId) (before : Bytes) (d : Datagram)

/-- The allocator returns no address that is in use. -/
def allocates (w : World) (ptr : Ptr) : Bool := ptr = 0 || !w.stack.sockets.containsKey ptr

/-- A link whose receive loop waits for datagrams. -/
def listens (w : World) (l : LinkId) : Bool :=
  l < w.nextLink && (w.link l).receiving && !(w.link l).isShutdown && !(w.link l).udpClosed

/-- The state after an iteration of a receive loop: an exception that leaves it ends the loop. -/
def afterIteration (l : LinkId) : Except Throwable Unit × World → World
  | (.ok _, w) => w
  | (.error _, w) => w.setLinkObj l { w.link l with receiving := false }

def newLink (w : World) (link : Link) : World :=
  { w.setLinkObj w.nextLink link with nextLink := w.nextLink + 1 }

/-- The object that a constructor of `UdpClientLink` initialises; `bound` is whether it gets a UDP
socket. -/
def clientLink (localAddr remote : InetSocketAddress) (so : ChanId) (bound : Bool) : Link where
  kind := .client remote so
  localAddr := some localAddr
  udpSocket := if bound then .opened else .null

def exec (w : World) : Op → Option World
  | .setInitialized b => some { w with stack := { w.stack with initialized := b } }
  | .setShutdown b => some { w with mapper := { w.mapper with isShutdown := b } }
  | .clearMap => some { w with mapper := { w.mapper with socketMap := .empty } }
  | .newChannel localSctpPort remote link mapper ptr =>
    if w.allocates ptr then
      some ((newSctpChannel localSctpPort remote link mapper ptr).run w).2
    else none
  | .build b dynPort ptr =>
    if w.allocates ptr then some ((b.build dynPort ptr).run w).2 else none
  | .setLink c link => if c < w.nextChannel then some ((setLink c link).run w).2 else none
  | .listen c => if c < w.nextChannel then some ((listen c).run w).2 else none
  | .connectRegister c remote =>
    if c < w.nextChannel then some ((connectRegister c remote).run w).2 else none
  | .connectFinish c remote ok =>
    if (c, remote) ∈ w.connecting then some ((connectFinish c remote ok).run w).2 else none
  | .closeTask c => if c < w.nextChannel then some ((closeTask c).run w).2 else none
  | .register remote c => if c < w.nextChannel then some ((register remote c).run w).2 else none
  | .unregister remote => some { w with mapper := w.mapper.unregisterRemote (some remote) }
  | .putPort c port => if c < w.nextChannel then some ((putPort c port).run w).2 else none
  | .removePort c => if c < w.nextChannel then some ((removePort c).run w).2 else none
  | .newServerLink localPort mapper => some (w.newLink { kind := .server localPort mapper })
  | .newClientLink localAddr remote c bound =>
    if c < w.nextChannel then
      some ((setLink c (some w.nextLink)).run
        (w.newLink (clientLink localAddr remote c bound))).2
    else none
  | .linkClose l => if l < w.nextLink then some ((linkClose l).run w).2 else none
  | .serverDatagram l it d ptr =>
    match (w.link l).kind with
    | .server localPort mapper =>
      if w.listens l && w.allocates ptr then
        some (afterIteration l ((serverIteration l localPort mapper it d ptr).run w))
      else none
    | .client .. => none
  | .clientDatagram l before d =>
    match (w.link l).kind with
    | .client _ c =>
      if w.listens l && before.length = udpDefaultBufferSize then
        some (afterIteration l ((clientIteration c before d).run w))
      else none
    | .server .. => none

/-- The program, from its start. -/
def program : Machine World Op where
  init w := w = empty
  exec := exec

/-! ## The directory -/

def directory (w : World) : Directory := ⟨w.mapper, w.closed, w.registered⟩

/-- The native call of `connect` throws an `IOException`. -/
def connectFails (w : World) (c : ChanId) (ok : Bool) : Bool :=
  (w.stack.socket (w.channel c).so).closed || (w.stack.socket (w.channel c).so).ptr = 0 || !ok

/-- The receive loop makes a channel for the source of the datagram. -/
def makesChannel (w : World) (localPort : UInt16) (mapper : Bool)
    (it : Iteration (InetSocketAddress × ChanId)) (d : Datagram) (ptr : Ptr) : Bool :=
  (w.mapper.locate it d.address.getHostAddress d.port matches .ok none) &&
    !w.isUsedPort localPort.toNat && mapper && w.stack.initialized && ptr ≠ 0

/-- What an operation does to the directory. -/
def action (w : World) : Op → Option Directory.Action
  | .setShutdown b => some (.setShutdown b)
  | .clearMap => some .clear
  | .connectRegister c remote =>
    if w.stack.initialized && (w.channel c).mapper then some (.register remote c) else none
  | .connectFinish c remote ok => if w.connectFails c ok then some (.unregister remote) else none
  | .closeTask c => some (.close c)
  | .register remote c => some (.register remote c)
  | .unregister remote => some (.unregister remote)
  | .serverDatagram l it d ptr =>
    match (w.link l).kind with
    | .server localPort mapper =>
      if w.makesChannel localPort mapper it d ptr then some (.register d.remote w.nextChannel)
      else none
    | .client .. => none
  | _ => none

end World

end Sctp4Nat
