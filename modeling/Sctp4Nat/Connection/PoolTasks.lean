import Sctp4Nat.Connection.Program

/-! # The promises of `close` and `send`

`close` and `send` submit a task and return a promise that the task settles. A task that leaves by
an exception it does not catch ends in the thread pool: nobody sees the exception, and the promise
stays pending. -/

namespace Sctp4Nat

/-- A deferred of jdeferred, which is settled at most once. -/
inductive Promise (α : Type)
  | pending
  | resolved (a : α)
  | rejected (e : Throwable)
  deriving DecidableEq, Repr

/-- What a task of the pool works on. -/
structure Task (α : Type) where
  world : World
  d : Promise α := .pending

namespace Task

variable {α β : Type}

def onWorld (m : Java World β) : Java (Task α) β :=
  Java.zoom Task.world (fun world t => { t with world }) m

def resolve (a : α) : Java (Task α) Unit := do
  let t ← get
  match t.d with
  | .pending => set { t with d := .resolved a }
  | _ => throw (.illegalStateException "Deferred object already finished, cannot resolve again")

def reject (e : Throwable) : Java (Task α) Unit := do
  let t ← get
  match t.d with
  | .pending => set { t with d := (.rejected e : Promise α) }
  | _ => throw (.illegalStateException "Deferred object already finished, cannot reject again")

end Task

namespace World

/-! ## `close` -/

/-- The task of `close` with its promise. -/
def closeRun (c : ChanId) : Java (Task Unit) Unit := do
  Task.onWorld (closeTask c)
  Task.resolve ()

variable {w : World} {c : ChanId}

/-- What a `close` that has run is to leave behind. -/
structure ClosedDown (c : ChanId) (w : World) (t : Task Unit) : Prop where
  settled : t.d ≠ .pending
  closeNative : (t.world.stack.socket (w.channel c).so).closed = true
  port : t.world.portMap.containsKey c = false

/-- **A `close` that completes.** Once the task has run, its promise is settled, the socket closed
and the port free exactly when the channel has a remote and a mapper, its remote has an address or
its port is in the map, and its link has a UDP socket. Any other `close` throws before it comes to
the socket, or after it, and its promise stays pending. -/
theorem closedDown_iff (w : World) (c : ChanId) :
    ClosedDown c w ((closeRun c).run { world := w }).2 ↔
      w.closable c = true ∧ w.linkClosable c = true := by
  cases hc : w.closable c with
  | false =>
    have hrun : (closeRun c).run { world := w } =
        (.error .npe, { world := { w with closed := c :: w.closed } }) := by
      simp [closeRun, Java.run_bind, Task.onWorld, Java.run_zoom, closeTask_error hc]
    rw [hrun]
    refine ⟨fun h => absurd rfl h.settled, fun h => ?_⟩
    cases h.1
  | true =>
    obtain ⟨st', hclosed, hrun⟩ := closeTask_run hc
    cases hl : w.linkClosable c with
    | false =>
      have : ((closeRun c).run { world := w }).2.d = .pending := by
        simp [closeRun, Java.run_bind, Task.onWorld, Java.run_zoom, hrun, hl]
      refine ⟨fun h => absurd this h.settled, fun h => ?_⟩
      cases h.2
    | true =>
      refine ⟨fun _ => ⟨rfl, rfl⟩, fun _ => ?_⟩
      simp only [closeRun, Java.run_bind, Task.onWorld, Java.run_zoom, hrun, hl, if_true]
      exact ⟨nofun, hclosed, ConcurrentHashMap.containsKey_remove_self⟩

/-- A channel that was built for incoming connections, without a remote. -/
theorem close_without_remote_hangs : ∃ w, program.Reachable w ∧ 0 < w.nextChannel ∧
    ((closeRun 0).run { world := w }).2.d = .pending ∧
    (((closeRun 0).run { world := w }).2.world.stack.socket (w.channel 0).so).closed = false ∧
    ((closeRun 0).run { world := w }).2.world.portMap.containsKey 0 = true := by
  exact Machine.Reachable.exists_run (M := program) (.init rfl)
    [.setInitialized true, .build { mapper := true, localSctpPort := 5000 } 0 16,
      .putPort 0 5000] (by decide +kernel)

/-! ## `send` -/

structure SctpDefaultStreamConfig where
  sid : Int32 := 0
  ppid : Int32 := 0
  ordered : Bool := false
  deriving DecidableEq, Repr

/-- What usrsctp answers to a `send`: to the accept that may come first, and to the send. -/
structure SendAnswers where
  accepted : Bool
  sent : Int32
  deriving DecidableEq, Repr

/-- The task of `send`, around its call of `sendNative`: only an `IOException` is caught. -/
def sendRun (sendNative : Java World Int32) : Java (Task Int32) Unit :=
  tryCatch (do Task.resolve (← Task.onWorld sendNative)) fun
    | .ioException msg => Task.reject (.ioException msg)
    | e => throw e

/-- The overloads of `send`. -/
inductive SendCall
  | whole (data : Option Bytes) (ordered : Bool) (sid ppid : Int32)
  | part (data : Option Bytes) (offset len : Int32) (ordered : Bool) (sid ppid : Int32)
  | partConfig (data : Option Bytes) (offset len : Int32) (config : SctpDefaultStreamConfig)
  | wholeConfig (data : Option Bytes) (config : SctpDefaultStreamConfig)

def sendWhole (c : ChanId) (answers : SendAnswers) (data : Option Bytes) (ordered : Bool)
    (sid ppid : Int32) : Java (Task Int32) Unit :=
  sendRun do
    let length := (← Java.deref data).length
    onStack (Stack.sendNative ((← get).channel c).so data 0 (Int32.ofNat length) ordered sid ppid
      answers.accepted answers.sent)

def sendPart (c : ChanId) (answers : SendAnswers) (data : Option Bytes) (offset len : Int32)
    (ordered : Bool) (sid ppid : Int32) : Java (Task Int32) Unit :=
  sendRun do
    onStack (Stack.sendNative ((← get).channel c).so data offset len ordered sid ppid
      answers.accepted answers.sent)

def SendCall.task (c : ChanId) (answers : SendAnswers) : SendCall → Java (Task Int32) Unit
  | .whole data ordered sid ppid => sendWhole c answers data ordered sid ppid
  | .part data offset len ordered sid ppid => sendPart c answers data offset len ordered sid ppid
  | .partConfig data offset len config =>
    sendPart c answers data offset len config.ordered config.sid config.ppid
  | .wholeConfig data config => sendWhole c answers data config.ordered config.sid config.ppid

/-- The range of the array that a `send` is about. -/
def SendCall.range : SendCall → Option Bytes × Int32 × Int32
  | .whole data .. | .wholeConfig data _ => (data, 0, Int32.ofNat (data.getD []).length)
  | .part data offset len .. | .partConfig data offset len _ => (data, offset, len)

/-- The calls of `usrsctp_send` so far. -/
def sends (w : World) : Nat := w.stack.calls.countP (· matches .send ..)

/-- What a `send` that has run is to leave behind. -/
structure Sent (answers : SendAnswers) (w : World) (t : Task Int32) : Prop where
  called : w.sends < t.world.sends → t.d = .resolved answers.sent
  uncalled : w.sends = t.world.sends → ∃ e, t.d = .rejected e

/-- Every overload sends a range of an array. -/
theorem SendCall.task_run {m : SendCall} (h : m.range = (some data, offset, len))
    (answers : SendAnswers) (t : Task Int32) : ∃ ordered sid ppid,
      (m.task c answers).run t =
        (sendPart c answers (some data) offset len ordered sid ppid).run t := by
  cases m with
  | part d o l ordered sid ppid =>
    cases h
    exact ⟨ordered, sid, ppid, rfl⟩
  | partConfig d o l config =>
    cases h
    exact ⟨config.ordered, config.sid, config.ppid, rfl⟩
  | whole d ordered sid ppid =>
    cases d with
    | none => cases h
    | some d =>
      cases h
      exact ⟨ordered, sid, ppid, rfl⟩
  | wholeConfig d config =>
    cases d with
    | none => cases h
    | some d =>
      cases h
      exact ⟨config.ordered, config.sid, config.ppid, rfl⟩

/-- The task of `send` settles its promise with the result of `sendNative` or its `IOException`. -/
theorem sendPart_run (w : World) (c : ChanId) (answers : SendAnswers) (data : Option Bytes)
    (offset len : Int32) (ordered : Bool) (sid ppid : Int32) {r : Except Throwable Int32}
    {st' : Stack} (h : (Stack.sendNative (w.channel c).so data offset len ordered sid ppid
      answers.accepted answers.sent).run w.stack = (r, st')) :
    ((sendPart c answers data offset len ordered sid ppid).run { world := w }).2 =
      { world := { w with stack := st' }
        d := match r with
          | .ok n => .resolved n
          | .error (.ioException msg) => .rejected (.ioException msg)
          | .error _ => .pending } := by
  have hrun : (Task.onWorld (do onStack (Stack.sendNative ((← get).channel c).so data offset len
      ordered sid ppid answers.accepted answers.sent)) : Java (Task Int32) Int32).run
      { world := w } = (r, { world := { w with stack := st' } }) := by
    simp [Task.onWorld, Java.run_zoom, Java.run_bind, onStack, h]
  rw [sendPart, sendRun, Java.run_tryCatch, Java.run_bind, hrun]
  cases r with
  | ok n => rfl
  | error e => cases e <;> rfl

theorem sends_withAccept (st : Stack) (s : SockId) (accepted : Bool) :
    (st.withAccept s accepted).calls.countP (· matches .send ..) =
      st.calls.countP (· matches .send ..) := by
  unfold Stack.withAccept
  split
  · rfl
  · simp [Stack.record, Stack.setSocket]

/-- **A `send` that completes.** Once the task of any of the overloads has run, its promise is
resolved with the result if `usrsctp_send` was called and rejected otherwise, exactly when the
range passes the check of `sendNative`, or the accept that comes before the check throws because
the socket is closed. On any other range the promise stays pending. -/
theorem sent_iff (w : World) (c : ChanId)
    (hb : 0 ≤ (w.stack.socket (w.channel c).so).ptrLockCount) (m : SendCall) (data : Bytes)
    (offset len : Int32) (hm : m.range = (some data, offset, len)) (answers : SendAnswers) :
    Sent answers w ((m.task c answers).run { world := w }).2 ↔
      SctpSocket.outOfRange data offset len = false ∨
        (w.stack.socket (w.channel c).so).isAccepted = false ∧
          ((w.stack.socket (w.channel c).so).closed = true ∨
            (w.stack.socket (w.channel c).so).ptr = 0) := by
  obtain ⟨ordered, sid, ppid, htask⟩ := SendCall.task_run (c := c) hm answers { world := w }
  have hrun := Stack.sendNative_run hb data offset len ordered sid ppid answers.accepted
    answers.sent
  have haccept := sends_withAccept w.stack (w.channel c).so answers.accepted
  rw [htask]
  by_cases hc : (w.stack.socket (w.channel c).so).closed = true ∨
      (w.stack.socket (w.channel c).so).ptr = 0
  · rw [if_pos hc] at hrun
    by_cases hr : (w.stack.socket (w.channel c).so).isAccepted = true ∧
        SctpSocket.outOfRange data offset len = true
    · rw [if_pos hr] at hrun
      rw [sendPart_run w c answers _ _ _ _ _ _ hrun]
      refine ⟨fun h => ?_, fun h => ?_⟩
      · obtain ⟨e, he⟩ := h.uncalled rfl
        cases he
      · simp [hr.1, hr.2] at h
    · rw [if_neg hr] at hrun
      rw [sendPart_run w c answers _ _ _ _ _ _ hrun]
      refine ⟨fun _ => ?_, fun _ => ⟨fun h => absurd h (Nat.lt_irrefl _), fun _ => ⟨_, rfl⟩⟩⟩
      cases ho : SctpSocket.outOfRange data offset len with
      | false => exact .inl rfl
      | true => exact .inr ⟨by simpa [ho] using hr, hc⟩
  · rw [if_neg hc] at hrun
    cases ho : SctpSocket.outOfRange data offset len with
    | true =>
      rw [if_pos ho] at hrun
      rw [sendPart_run w c answers _ _ _ _ _ _ hrun]
      refine ⟨fun h => ?_, fun h => ?_⟩
      · obtain ⟨e, he⟩ := h.uncalled haccept.symm
        cases he
      · simp [hc] at h
    | false =>
      rw [if_neg (by simp [ho])] at hrun
      rw [sendPart_run w c answers _ _ _ _ _ _ hrun]
      refine ⟨fun _ => .inl rfl, fun _ => ⟨fun _ => rfl, fun h => ?_⟩⟩
      simp [sends, Stack.record, haccept] at h

/-- A channel with an open socket on an initialised stack. -/
def openChannel : World :=
  { empty with stack := { Stack.empty with initialized := true } }.withChannel 5000
    (some samplePeer) none true 16

/-- Three bytes on an open socket are sent. -/
theorem three_bytes_sent :
    Sent ⟨true, 3⟩ openChannel (((SendCall.whole (some [1, 2, 3]) true 0 0).task 0 ⟨true, 3⟩).run
      { world := openChannel }).2 :=
  (sent_iff openChannel 0 (by decide) (.whole (some [1, 2, 3]) true 0 0) [1, 2, 3] 0 3 rfl
    ⟨true, 3⟩).mpr (.inl (by decide))

/-- The empty array on an open socket: nothing is sent, and the promise stays pending. -/
theorem empty_send_hangs : ∃ w, program.Reachable w ∧
    (w.stack.socket (w.channel 0).so).closed = false ∧
    (w.stack.socket (w.channel 0).so).ptr ≠ 0 ∧
    (((SendCall.whole (some []) true 0 0).task 0 ⟨true, 0⟩).run { world := w }).2.d = .pending ∧
    (((SendCall.whole (some []) true 0 0).task 0 ⟨true, 0⟩).run { world := w }).2.world.sends =
      w.sends :=
  Machine.Reachable.exists_run (M := program) (.init rfl)
    [.setInitialized true, .newChannel 5000 (some samplePeer) none true 16] (by decide +kernel)

end World

end Sctp4Nat
