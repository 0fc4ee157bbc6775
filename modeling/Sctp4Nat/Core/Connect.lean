import Sctp4Nat.Core.World
import Sctp4Nat.Machine.Basic
import Sctp4Nat.Origin.SctpNotification

/-! # One call of `SctpChannel.connect`

The calling thread, the calls of the listener that `connect` installs, the `SctpTimeoutThread` it
submits and the tasks of the `close` calls that the listener makes, in any interleaving. A step
of a thread ends at its next effect on what the threads share: the deferred, the latch, the
mapper, the socket or the pool.

The deferred is settled once: `resolve` and `reject` throw an `IllegalStateException` when it is
not pending. -/

namespace Sctp4Nat.Connect

open SctpNotification (commUpStr commLostStr shutdownCompStr addrUnreachableStr shutdownEventStr)

/-! ## The deferred -/

inductive Deferred
  | pending
  | resolved
  | rejected (e : Throwable)
  deriving DecidableEq, Repr

namespace Deferred

def isPending : Deferred → Bool
  | .pending => true
  | _ => false

def resolve : Deferred → Except Throwable Deferred
  | .pending => .ok .resolved
  | _ => .error (.illegalStateException "Deferred object already finished, cannot resolve again")

def reject (e : Throwable) : Deferred → Except Throwable Deferred
  | .pending => .ok (.rejected e)
  | _ => .error (.illegalStateException "Deferred object already finished, cannot reject again")

theorem isPending_resolve (d : Deferred) :
    (d.isPending = true ∧ d.resolve = .ok .resolved) ∨ (d.isPending = false ∧
      d.resolve = .error (.illegalStateException
        "Deferred object already finished, cannot resolve again")) := by
  cases d <;> simp [isPending, resolve]

theorem isPending_reject (d : Deferred) (e : Throwable) :
    (d.isPending = true ∧ d.reject e = .ok (.rejected e)) ∨ (d.isPending = false ∧
      d.reject e = .error (.illegalStateException
        "Deferred object already finished, cannot reject again")) := by
  cases d <;> simp [isPending, reject]

end Deferred

/-! ## The listener -/

/-- `String.indexOf`, `none` for `-1`. -/
def indexOf (text str : List Char) : Option Nat :=
  if str.isPrefixOf text then some 0
  else
    match text with
    | [] => none
    | _ :: rest => (indexOf rest str).map (· + 1)

/-- The branches of `onSctpNotification`. -/
inductive Branch
  | commUp
  | shutdownComp
  | addrUnreachable
  | commLost
  | shutdownEvent
  | ignored
  deriving DecidableEq, Repr

/-- The branch that the listener takes on the text of a notification. The test for the shutdown
event is `> 0`, unlike the others. -/
def branch (notification : String) : Branch :=
  let has (str : String) := (indexOf notification.toList str.toList).isSome
  if has commUpStr then .commUp
  else if has shutdownCompStr then .shutdownComp
  else if has addrUnreachableStr then .addrUnreachable
  else if has commLostStr then .commLost
  else if (indexOf notification.toList shutdownEventStr.toList).any (0 < ·) then .shutdownEvent
  else .ignored

/-- The branches that call `close`. -/
def Branch.closes : Branch → Bool
  | .shutdownComp | .addrUnreachable | .commLost | .shutdownEvent => true
  | .commUp | .ignored => false

/-- `remote.getAddress().getHostAddress() + ":" + remote.getPort()`. -/
def remoteText (remote : Option InetSocketAddress) : Except Throwable String :=
  match remote with
  | none => .error .npe
  | some remote =>
    match remote.getAddress with
    | none => .error .npe
    | some address => .ok (address.getHostAddress ++ ":" ++ toString remote.getPort)

/-- The exception that a branch rejects with; its text names the remote of the channel. -/
def rejection (remote : Option InetSocketAddress) : Branch → Except Throwable Throwable
  | .addrUnreachable => (remoteText remote).map fun text => .exception
      ("we are forced to close the connection because the remote is not answering! (remote: " ++
        text ++ ")")
  | .commLost => (remoteText remote).map fun text => .exception
      ("we are forced to close the connection because we lost the connection to remote: " ++ text)
  | _ => .ok (.exception
      "we are forced to shutdown because of shutdown request from server!")

/-- The text of an exception can only fail for want of an address. -/
theorem rejection_error {r : Option InetSocketAddress} {b : Branch} {e : Throwable}
    (h : rejection r b = .error e) : e = .npe := by
  have htext : ∀ e, remoteText r = .error e → e = .npe := by
    intro e h
    cases r with
    | none => exact (Except.error.inj h).symm
    | some remote =>
      simp only [remoteText] at h
      split at h
      · exact (Except.error.inj h).symm
      · cases h
  cases ht : remoteText r with
  | error e' =>
    obtain rfl := htext e' ht
    cases b <;> simp [rejection, ht, Except.map] at h <;> exact h.symm
  | ok text => cases b <;> simp [rejection, ht, Except.map] at h

/-! ## The threads -/

/-- The thread in `connect`. -/
inductive CallerPc
  | start
  /-- The rejected promise was returned before the listener was installed. -/
  | refused
  | listening
  | registered
  | catching (e : Throwable)
  | rejecting (e : Throwable)
  | submitting
  | returned
  | threw (e : Throwable)
  deriving DecidableEq, Repr

/-- A call of the listener. -/
inductive ListenerPc
  | idle
  | resolving
  | rejecting (b : Branch)
  | returned
  | threw (e : Throwable)
  deriving DecidableEq, Repr

/-- `SctpTimeoutThread.run`. -/
inductive TimeoutPc
  | notSubmitted
  | awaiting
  | interrupted
  | rejectingInterrupted
  | awaited
  | counted
  | rejecting
  | returned
  | threw (e : Throwable)
  deriving DecidableEq, Repr

/-- The shared state and the threads; `T` numbers the calls of the listener. -/
structure State (T : Type*) where
  world : World
  d : Deferred
  /-- The count of the latch. -/
  countDown : Nat
  caller : CallerPc
  listener : T → ListenerPc
  timeout : TimeoutPc
  /-- The close tasks that are submitted and have not run. -/
  closes : Nat
  /-- `connectNative` has thrown an `IOException`. -/
  nativeThrew : Bool
  /-- A notification on which the listener calls `close` was delivered. -/
  closeNotified : Bool
  /-- A close task has run. -/
  closeRan : Bool

/-- The caller takes its next step, with the answer of `usrsctp_connect`; a notification is
delivered; the listener settles the deferred; the timeout thread takes its next step, with an
interrupt or without; a close task runs. -/
inductive Choice (T : Type*)
  | caller (ok : Bool)
  | deliver (t : T) (notification : String)
  | settle (t : T)
  | timeout (interrupt : Bool)
  | close

section
variable {T : Type*}

def State.init (T : Type*) (w : World) : State T where
  world := w
  d := .pending
  countDown := 1
  caller := .start
  listener _ := .idle
  timeout := .notSubmitted
  closes := 0
  nativeThrew := false
  closeNotified := false
  closeRan := false

/-- The listener is installed before the registration. -/
def CallerPc.listens : CallerPc → Bool
  | .start | .refused => false
  | _ => true

/-- `connect` has returned its promise. -/
def CallerPc.hasReturned : CallerPc → Bool
  | .refused | .returned => true
  | _ => false

/-- A step of `connect`. -/
def callerStep (c : ChanId) (remote : InetSocketAddress) (ok : Bool) (s : State T) :
    Option (State T) :=
  match s.caller with
  | .start =>
    if s.world.stack.initialized then some { s with caller := .listening }
    else
      match s.d.reject (.sctpInitException
        "Sctp is currently not initialized! Try init it with SctpUtils.init(...)") with
      | .ok d => some { s with d, caller := .refused }
      | .error e => some { s with caller := .threw e }
  | .listening =>
    if !(s.world.channel c).mapper then some { s with caller := .threw .npe }
    else
      let world := ((World.register remote c).run s.world).2
      match remote.getAddress with
      | none => some { s with world, caller := .threw .npe }
      | some _ => some { s with world, caller := .registered }
  | .registered =>
    match (World.onStack (Stack.connectNative (s.world.channel c).so remote.getPort ok)).run
      s.world with
    | (.ok _, world) => some { s with world, caller := .submitting }
    | (.error (.ioException msg), world) =>
      some { s with world, caller := .catching (.ioException msg), nativeThrew := true }
    | (.error e, world) => some { s with world, caller := .threw e }
  | .catching e =>
    some { s with
      world := { s.world with mapper := s.world.mapper.unregisterRemote (some remote) }
      caller := .rejecting e }
  | .rejecting e =>
    match s.d.reject e with
    | .ok d => some { s with d, caller := .submitting }
    | .error e => some { s with caller := .threw e }
  | .submitting => some { s with timeout := .awaiting, caller := .returned }
  | .refused | .returned | .threw _ => none

/-- A step of `SctpTimeoutThread.run`. -/
def timeoutStep (interrupt : Bool) (s : State T) : Option (State T) :=
  match s.timeout with
  | .notSubmitted | .returned | .threw _ => none
  | .awaiting => some { s with timeout := if interrupt then .interrupted else .awaited }
  | .interrupted =>
    some { s with timeout := if s.d.isPending then .rejectingInterrupted else .awaited }
  | .rejectingInterrupted =>
    match s.d.reject (.interruptedException "") with
    | .ok d => some { s with d, timeout := .awaited }
    | .error e => some { s with timeout := .threw e }
  | .awaited => some { s with timeout := if s.countDown > 0 then .counted else .returned }
  | .counted => some { s with timeout := if s.d.isPending then .rejecting else .returned }
  | .rejecting =>
    match s.d.reject (.timeoutException "Timeout triggered! Connection could not be set up!") with
    | .ok d => some { s with d, timeout := .returned }
    | .error e => some { s with timeout := .threw e }

/-- The timeout thread changes nothing but the deferred and itself. -/
theorem timeoutStep_frame {s s' : State T} (h : timeoutStep interrupt s = some s') :
    s' = { s with d := s'.d, timeout := s'.timeout } := by
  cases ht : s.timeout with
  | notSubmitted | returned | threw _ => simp [timeoutStep, ht] at h
  | awaiting | interrupted | awaited | counted =>
    simp only [timeoutStep, ht, Option.some.injEq] at h
    subst h
    rfl
  | rejectingInterrupted | rejecting =>
    simp only [timeoutStep, ht] at h
    split at h <;> cases h <;> rfl

variable [DecidableEq T]

/-- A notification reaches the listener, which counts down or calls `close`. -/
def deliver (t : T) (notification : String) (s : State T) : Option (State T) :=
  if s.caller.listens && s.listener t = .idle then
    let b := branch notification
    let pc := match b with
      | .commUp => .resolving
      | .shutdownComp | .addrUnreachable | .commLost => .rejecting b
      | .shutdownEvent | .ignored => .returned
    some { s with
      countDown := if b = .commUp then s.countDown - 1 else s.countDown
      closes := if b.closes then s.closes + 1 else s.closes
      closeNotified := s.closeNotified || b.closes
      listener := Function.update s.listener t pc }
  else none

/-- The listener settles the deferred. -/
def settle (c : ChanId) (t : T) (s : State T) : Option (State T) :=
  let ended (r : Except Throwable Deferred) : State T := match r with
    | .ok d => { s with d, listener := Function.update s.listener t .returned }
    | .error e => { s with listener := Function.update s.listener t (.threw e) }
  match s.listener t with
  | .resolving => some (ended s.d.resolve)
  | .rejecting b =>
    some (ended ((rejection (s.world.channel c).remote b).bind fun e => s.d.reject e))
  | .idle | .returned | .threw _ => none

theorem settle_frame {s s' : State T} (h : settle c t s = some s') :
    s' = { s with d := s'.d, listener := s'.listener } := by
  simp only [settle] at h
  split at h
  · cases h
    cases s.d.resolve <;> rfl
  · cases h
    cases ((rejection (s.world.channel c).remote _).bind fun e => s.d.reject e) <;> rfl
  all_goals cases h

def exec (c : ChanId) (remote : InetSocketAddress) (s : State T) : Choice T → Option (State T)
  | .caller ok => callerStep c remote ok s
  | .deliver t notification => deliver t notification s
  | .settle t => settle c t s
  | .timeout interrupt => timeoutStep interrupt s
  | .close =>
    if 0 < s.closes then
      some { s with
        world := ((World.closeTask c).run s.world).2
        closes := s.closes - 1
        closeRan := true }
    else none

/-- `connect(remote)` on the channel `c`, called in the state `w`. -/
def machine (T : Type*) [DecidableEq T] (w : World) (c : ChanId) (remote : InetSocketAddress) :
    Machine (State T) (Choice T) where
  init s := s = .init T w
  exec := exec c remote

/-- Every thread has ended, and every task that was submitted has run. -/
structure Quiescent (s : State T) : Prop where
  listener : ∀ t, s.listener t ≠ .resolving ∧ ∀ b, s.listener t ≠ .rejecting b
  timeout : s.timeout = .notSubmitted ∨ s.timeout = .returned ∨ ∃ e, s.timeout = .threw e
  closes : s.closes = 0

end

end Sctp4Nat.Connect
