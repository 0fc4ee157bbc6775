import Sctp4Nat.Machine.Threads
import Sctp4Nat.Origin.SctpSocket

/-! # Accepting in place

`usrsctp_accept` of the JNI layer replaces the `struct socket` behind the pointer: on success it
closes the listening socket and stores the accepted one. Its callers hold the pointer as readers
only, so other native functions run beside it: each reads `sctpSocket->so` and then calls usrsctp
on what it has read.

The accept comes first in `sendNative`, which tests and writes `isAccepted` outside the monitor,
and in `onSctpIn`, which does so inside. `Quiet` is the condition on a schedule under which no
call reaches a closed `struct socket`. -/

namespace Sctp4Nat.NativeAccept

open SctpSocket (lockPtr unlockPtr outOfRange)

/-- A `struct socket` of usrsctp. -/
abbrev Sock := Nat

/-- The usrsctp functions that use a `struct socket` as it is. -/
inductive UsrFn
  | bind
  | listen
  | sendv
  | shutdown
  deriving DecidableEq, Repr

/-- The usrsctp calls that the JNI layer makes on a `struct socket`. -/
inductive UsrCall
  | accept
  | close
  | use (fn : UsrFn)
  deriving DecidableEq, Repr

/-- A native function: `usrsctp_accept`, or one that makes calls in turn and reads
`sctpSocket->so` before each. -/
inductive NativeFn
  | accept
  | calls (fn : UsrFn) (rest : List UsrFn)
  deriving DecidableEq, Repr

def NativeFn.usrsctpListen : NativeFn := .calls .bind [.listen]
def NativeFn.usrsctpSend : NativeFn := .calls .sendv []
def NativeFn.usrsctpShutdown : NativeFn := .calls .shutdown []

/-- The buffer arguments of `sendNative`. -/
structure SendArgs where
  data : Bytes
  offset : Int32
  len : Int32
  deriving DecidableEq, Repr

inductive Method
  | acceptNative
  | listenNative
  | sendNative (args : SendArgs)
  | shutdownNative
  | onSctpIn
  deriving DecidableEq, Repr

/-- Where a native function returns to: out of the method, to the rest of `sendNative`, or into
the block of `onSctpIn`. -/
inductive Cont
  | ret
  | send (args : SendArgs)
  | sctpIn
  deriving DecidableEq, Repr

inductive Pc
  | idle
  | listenReset
  | sendTest (args : SendArgs)
  | sctpInEnter
  | sctpInTest
  | lock (fn : NativeFn) (k : Cont)
  /-- In a native function, before it reads `sctpSocket->so`. -/
  | read (fn : NativeFn) (k : Cont)
  /-- In a native function that has read `so`, before its usrsctp call. -/
  | call (fn : NativeFn) (so : Sock) (k : Cont)
  /-- In `usrsctp_accept` with an accepted socket, before it closes the old one. -/
  | closeOld (new : Sock) (k : Cont)
  /-- In `usrsctp_accept`, before it stores the accepted socket. -/
  | store (new : Sock) (k : Cont)
  | unlock (k : Cont) (r : Bool)
  | sendWrite (args : SendArgs) (r : Bool)
  | sctpInWrite
  deriving DecidableEq, Repr

/-- The part of usrsctp that decides an accept, and the calls made to it. -/
structure Usrsctp where
  listening : List Sock := []
  /-- The completed associations, each with the socket it waits at. -/
  completed : List Sock := []
  next : Sock
  /-- The calls so far, the newest first. -/
  log : List (UsrCall × Sock) := []
  deriving DecidableEq, Repr

structure Shared (T : Type*) where
  socket : SctpSocket
  /-- Who is inside a `synchronized (this)` block that spans several steps. -/
  owner : Option T := none
  /-- The field `so` of the native struct. -/
  so : Sock
  usr : Usrsctp
  deriving DecidableEq

/-- A thread calls a method or takes its next step, the running usrsctp call returns, or an
association completes at a listening socket. -/
inductive Choice
  | call (m : Method)
  | go
  | result (ok : Bool)
  | associated (so : Sock)
  deriving DecidableEq, Repr

def Method.enter : Method → Pc
  | .acceptNative => .lock .accept .ret
  | .listenNative => .listenReset
  | .sendNative args => .sendTest args
  | .shutdownNative => .lock .usrsctpShutdown .ret
  | .onSctpIn => .sctpInEnter

/-- The argument check of `sendNative`, after the accept. -/
def sendGuard (a : SendArgs) : Pc :=
  if outOfRange a.data a.offset a.len then .idle else .lock .usrsctpSend .ret

/-- The next call of a native function after one that returned `ok`. -/
def NativeFn.continue (rest : List UsrFn) (k : Cont) (ok : Bool) : Pc :=
  match rest with
  | [] => .unlock k ok
  | fn :: rest => .read (.calls fn rest) k

/-- After the bracket around a native function. -/
def Cont.resume (r : Bool) : Cont → Pc
  | .ret => .idle
  | .send args => .sendWrite args r
  | .sctpIn => .sctpInWrite

variable {T : Type*}

/-- An exception leaves the method, and with it the block of `onSctpIn`. -/
def Shared.leave (s : Shared T) : Cont → Shared T
  | .sctpIn => { s with owner := none }
  | _ => s

@[simp] theorem leave_so (s : Shared T) (k : Cont) : (s.leave k).so = s.so := by
  cases k <;> rfl

@[simp] theorem leave_usr (s : Shared T) (k : Cont) : (s.leave k).usr = s.usr := by
  cases k <;> rfl

@[simp] theorem leave_socket (s : Shared T) (k : Cont) : (s.leave k).socket = s.socket := by
  cases k <;> rfl

def Usrsctp.record (u : Usrsctp) (call : UsrCall) (so : Sock) : Usrsctp :=
  { u with log := (call, so) :: u.log }

def Closed (log : List (UsrCall × Sock)) (so : Sock) : Prop := (.close, so) ∈ log

instance : Decidable (Closed log so) := inferInstanceAs (Decidable (_ ∈ _))

variable [DecidableEq T]

/-- Whether `t` may enter a `synchronized (this)` block; the monitor is reentrant. -/
def Shared.mayEnter (s : Shared T) (t : T) : Bool := s.owner = none || s.owner = some t

/-- One step of thread `t`. -/
def step (t : T) (s : Shared T) : Pc → Choice → Option (Shared T × Pc)
  | l, .associated so =>
    if so ∈ s.usr.listening ∧ ¬ Closed s.usr.log so then
      some ({ s with usr := { s.usr with completed := so :: s.usr.completed } }, l)
    else none
  | .idle, .call m => some (s, m.enter)
  | .listenReset, .go =>
    if s.mayEnter t then
      some ({ s with socket := { s.socket with isAccepted := false } },
        .lock .usrsctpListen .ret)
    else none
  | .sendTest a, .go =>
    some (s, if s.socket.isAccepted then sendGuard a else .lock .accept (.send a))
  | .sctpInEnter, .go =>
    if s.mayEnter t then some ({ s with owner := some t }, .sctpInTest) else none
  | .sctpInTest, .go =>
    if s.socket.isAccepted then some ({ s with owner := none }, .idle)
    else some (s, .lock .accept .sctpIn)
  | .lock fn k, .go =>
    if s.mayEnter t then
      match lockPtr.run s.socket with
      | (.ok _, socket) => some ({ s with socket }, .read fn k)
      | (.error _, socket) => some ({ s with socket }.leave k, .idle)
    else none
  | .read fn k, .go => some (s, .call fn s.so k)
  | .call .accept so k, .go =>
    if so ∈ s.usr.completed then
      some ({ s with usr := { s.usr.record .accept so with
          completed := s.usr.completed.erase so
          next := s.usr.next + 1 } }, .closeOld s.usr.next k)
    else some ({ s with usr := s.usr.record .accept so }, .unlock k false)
  | .call (.calls fn rest) so k, .result ok =>
    some ({ s with usr := { s.usr.record (.use fn) so with
        listening := if fn = .listen ∧ ok then so :: s.usr.listening else s.usr.listening } },
      NativeFn.continue rest k ok)
  | .closeOld new k, .go => some ({ s with usr := s.usr.record .close s.so }, .store new k)
  | .store new k, .go => some ({ s with so := new }, .unlock k true)
  | .unlock k r, .go =>
    if s.mayEnter t then
      match unlockPtr.run s.socket with
      -- a pointer left for `Sctp.closeSocket` takes its `struct socket` with it
      | (.ok ptr, socket) => some ({ s with
          socket := socket
          usr := if ptr = 0 then s.usr else s.usr.record .close s.so }, k.resume r)
      | (.error _, socket) => some ({ s with socket }.leave k, .idle)
    else none
  | .sendWrite a r, .go =>
    some ({ s with socket := { s.socket with isAccepted := r } }, sendGuard a)
  | .sctpInWrite, .go =>
    some ({ s with socket := { s.socket with isAccepted := true }, owner := none }, .idle)
  | _, _ => none

/-- All interleavings of threads that use one open `SctpSocket`. -/
def native (T : Type*) [DecidableEq T] : Machine (Config T (Shared T) Pc) (T × Choice) :=
  threads
    (fun s => s.socket.closed = false ∧ s.usr.log = [] ∧ s.so < s.usr.next)
    .idle step

/-- No usrsctp call, a second `usrsctp_close` included, is made on a closed socket. -/
def Safe : List (UsrCall × Sock) → Prop := Trace.Each fun e before => ¬ Closed before e.2

/-! ## The condition -/

def Pc.isRead : Pc → Bool
  | .read .. => true
  | _ => false

def Pc.isCloseOld : Pc → Bool
  | .closeOld .. => true
  | _ => false

def Pc.isStore : Pc → Bool
  | .store .. => true
  | _ => false

/-- A thread that goes on to use what it read from `so`, or to close or to replace `so`. -/
def Pc.uses : Pc → Bool
  | .call .. | .closeOld .. | .store .. => true
  | _ => false

/-- A successful accept closes the old socket only when no other thread is between its read of
`so` and its use, and no thread reads `so` between the close and the store of another. -/
def Quiet (c : Config T (Shared T) Pc) (i : T × Choice) : Prop :=
  i.2 = .go → ∀ u, u ≠ i.1 →
    ((c.thread i.1).isCloseOld = true → (c.thread u).uses = false) ∧
    ((c.thread i.1).isRead = true → (c.thread u).isStore = false)

instance [Fintype T] (c : Config T (Shared T) Pc) (i : T × Choice) : Decidable (Quiet c i) :=
  inferInstanceAs (Decidable (_ → _))

/-! ## The invariant -/

/-- The accepted socket that a thread has not stored yet. -/
def Pc.accepted : Pc → Option Sock
  | .closeOld new _ | .store new _ => some new
  | _ => none

theorem Pc.uses_of_isStore {l : Pc} (h : l.isStore = true) : l.uses = true := by
  cases l <;> first | rfl | cases h

theorem Pc.uses_of_accepted {l : Pc} (h : l.accepted = some new) : l.uses = true := by
  cases l <;> first | rfl | cases h

structure Inv (c : Config T (Shared T) Pc) : Prop where
  opened : c.shared.socket.closed = false
  so_lt : c.shared.so < c.shared.usr.next
  log_lt : ∀ e ∈ c.shared.usr.log, e.2 < c.shared.usr.next
  fetched : ∀ t fn so k, c.thread t = .call fn so k → so = c.shared.so
  alone : ∀ t, (c.thread t).isStore = true → ∀ u, u ≠ t → (c.thread u).uses = false
  closed_iff : Closed c.shared.usr.log c.shared.so ↔ ∃ t, (c.thread t).isStore = true
  accepted : ∀ t new, (c.thread t).accepted = some new →
    new < c.shared.usr.next ∧ new ≠ c.shared.so ∧ ¬ Closed c.shared.usr.log new
  safe : Safe c.shared.usr.log

section
variable {c : Config T (Shared T) Pc}

/-- A step that touches neither `so` nor the log: of a thread that does not use `so` before or
after, or of usrsctp itself. -/
theorem Inv.outside (h : Inv c)
    (huse : l = c.thread t ∨ (c.thread t).uses = false ∧ l.uses = false)
    (hopen : s.socket.closed = false) (hso : s.so = c.shared.so)
    (hlog : s.usr.log = c.shared.usr.log) (hnext : s.usr.next = c.shared.usr.next) :
    Inv (c.set t s l) := by
  have hback : ∀ u, ((c.set t s l).thread u).uses = true →
      (c.set t s l).thread u = c.thread u := by
    intro u hu
    rcases eq_or_ne u t with rfl | hne
    · rw [Config.set_thread_self] at hu ⊢
      rcases huse with rfl | ⟨_, hl⟩
      · rfl
      · rw [hl] at hu; cases hu
    · exact Config.set_thread_of_ne c hne
  have hforth : ∀ u, (c.thread u).uses = true → (c.set t s l).thread u = c.thread u := by
    intro u hu
    rcases eq_or_ne u t with rfl | hne
    · rw [Config.set_thread_self]
      rcases huse with rfl | ⟨hl, _⟩
      · rfl
      · rw [hl] at hu; cases hu
    · exact Config.set_thread_of_ne c hne
  have hstore : ∀ u, ((c.set t s l).thread u).isStore = true → (c.thread u).isStore = true :=
    fun u hu => hback u (Pc.uses_of_isStore hu) ▸ hu
  refine ⟨hopen, ?_, ?_, ?_, ?_, ?_, ?_, ?_⟩
  · rw [Config.set_shared, hso, hnext]; exact h.so_lt
  · rw [Config.set_shared, hlog, hnext]; exact h.log_lt
  · intro u fn so k hu
    rw [Config.set_shared, hso]
    exact h.fetched u fn so k (hback u (by rw [hu]; rfl) ▸ hu)
  · intro u hu v hv
    cases hc : ((c.set t s l).thread v).uses with
    | false => rfl
    | true =>
      have := h.alone u (hstore u hu) v hv
      rw [hback v hc, this] at hc
      cases hc
  · rw [Config.set_shared, hlog, hso, h.closed_iff]
    constructor
    · rintro ⟨u, hu⟩
      exact ⟨u, hforth u (Pc.uses_of_isStore hu) ▸ hu⟩
    · rintro ⟨u, hu⟩
      exact ⟨u, hstore u hu⟩
  · intro u new hu
    rw [Config.set_shared, hlog, hso, hnext]
    exact h.accepted u new (hback u (Pc.uses_of_accepted hu) ▸ hu)
  · rw [Config.set_shared, hlog]; exact h.safe

theorem Inv.read (h : Inv c) (hl : c.thread t = .read fn k)
    (hquiet : ∀ u, u ≠ t → (c.thread u).isStore = false) :
    Inv (c.set t c.shared (.call fn c.shared.so k)) := by
  have hnone : ∀ u, (c.thread u).isStore = false := by
    intro u
    rcases eq_or_ne u t with rfl | hne
    · rw [hl]; rfl
    · exact hquiet u hne
  refine ⟨h.opened, h.so_lt, h.log_lt, ?_, ?_, ?_, ?_, h.safe⟩
  · intro u fn' so k' hu
    rcases Config.of_set (· = Pc.call fn' so k') hu with ⟨_, he⟩ | ⟨_, hu⟩
    · cases he; rfl
    · exact h.fetched u _ _ _ hu
  · intro u hu
    rcases Config.of_set (Pc.isStore · = true) hu with ⟨_, he⟩ | ⟨_, hu⟩
    · cases he
    · rw [hnone u] at hu; cases hu
  · rw [Config.set_shared, h.closed_iff]
    constructor
    · rintro ⟨u, hu⟩
      rw [hnone u] at hu; cases hu
    · rintro ⟨u, hu⟩
      rcases Config.of_set (Pc.isStore · = true) hu with ⟨_, he⟩ | ⟨_, hu⟩
      · cases he
      · exact ⟨u, hu⟩
  · intro u new hu
    rcases Config.of_set (Pc.accepted · = some new) hu with ⟨_, he⟩ | ⟨_, hu⟩
    · cases he
    · exact h.accepted u new hu

omit [DecidableEq T] in
theorem Inv.not_store (h : Inv c) (hl : (c.thread t).uses = true)
    (hne : (c.thread t).isStore = false) : ∀ u, (c.thread u).isStore = false := by
  intro u
  cases hu : (c.thread u).isStore with
  | false => rfl
  | true =>
    rcases eq_or_ne t u with rfl | htu
    · rw [hne] at hu; cases hu
    · rw [h.alone u hu t htu] at hl; cases hl

omit [DecidableEq T] in
theorem Inv.not_closed (h : Inv c) (hl : (c.thread t).uses = true)
    (hne : (c.thread t).isStore = false) : ¬ Closed c.shared.usr.log c.shared.so := by
  rw [h.closed_iff]
  rintro ⟨u, hu⟩
  rw [h.not_store hl hne u] at hu
  cases hu

/-- A usrsctp call other than `usrsctp_close`, on the socket that `t` has read. An accept may
leave `t` with a new socket. -/
theorem Inv.call (h : Inv c) (hl : c.thread t = .call fn so k) (call : UsrCall)
    (hcall : call ≠ .close) (hopen : s.socket.closed = false) (hso : s.so = c.shared.so)
    (hlog : s.usr.log = (call, so) :: c.shared.usr.log)
    (hnext : c.shared.usr.next ≤ s.usr.next) (hstore : l.isStore = false)
    (hfetched : ∀ fn so k, l ≠ .call fn so k)
    (haccepted : ∀ new, l.accepted = some new → new = c.shared.usr.next ∧ new < s.usr.next) :
    Inv (c.set t s l) := by
  obtain rfl := h.fetched t _ _ _ hl
  have hnone := h.not_store (t := t) (by rw [hl]; rfl) (by rw [hl]; rfl)
  have hopen' := h.not_closed (t := t) (by rw [hl]; rfl) (by rw [hl]; rfl)
  have hclosed : ∀ x, Closed s.usr.log x ↔ Closed c.shared.usr.log x := by
    intro x
    simp [Closed, hlog, hcall.symm]
  refine ⟨hopen, ?_, ?_, ?_, ?_, ?_, ?_, ?_⟩
  · rw [Config.set_shared, hso]; exact Nat.lt_of_lt_of_le h.so_lt hnext
  · intro e he
    rw [Config.set_shared, hlog] at he
    rcases List.mem_cons.mp he with rfl | he
    · exact Nat.lt_of_lt_of_le h.so_lt hnext
    · exact Nat.lt_of_lt_of_le (h.log_lt e he) hnext
  · intro u fn' so k' hu
    rw [Config.set_shared, hso]
    rcases Config.of_set (· = Pc.call fn' so k') hu with ⟨_, he⟩ | ⟨_, hu⟩
    · exact (hfetched _ _ _ he).elim
    · exact h.fetched u _ _ _ hu
  · intro u hu
    rcases Config.of_set (Pc.isStore · = true) hu with ⟨_, he⟩ | ⟨_, hu⟩
    · rw [hstore] at he; cases he
    · rw [hnone u] at hu; cases hu
  · rw [Config.set_shared, hso, hclosed]
    refine ⟨fun hc => absurd hc hopen', ?_⟩
    rintro ⟨u, hu⟩
    rcases Config.of_set (Pc.isStore · = true) hu with ⟨_, he⟩ | ⟨_, hu⟩
    · rw [hstore] at he; cases he
    · rw [hnone u] at hu; cases hu
  · intro u new hu
    rw [Config.set_shared, hso, hclosed]
    rcases Config.of_set (Pc.accepted · = some new) hu with ⟨_, he⟩ | ⟨_, hu⟩
    · obtain ⟨rfl, hlt⟩ := haccepted new he
      exact ⟨hlt, Nat.ne_of_gt h.so_lt, fun hc => Nat.lt_irrefl _ (h.log_lt _ hc)⟩
    · obtain ⟨h1, h2, h3⟩ := h.accepted u new hu
      exact ⟨Nat.lt_of_lt_of_le h1 hnext, h2, h3⟩
  · rw [Config.set_shared, hlog]; exact ⟨hopen', h.safe⟩

theorem Inv.closeOld (h : Inv c) (hl : c.thread t = .closeOld new k)
    (hquiet : ∀ u, u ≠ t → (c.thread u).uses = false) :
    Inv (c.set t { c.shared with usr := c.shared.usr.record .close c.shared.so }
      (.store new k)) := by
  have hopen := h.not_closed (t := t) (by rw [hl]; rfl) (by rw [hl]; rfl)
  obtain ⟨hlt, hnew, hnc⟩ := h.accepted t new (by rw [hl]; rfl)
  refine ⟨h.opened, h.so_lt, ?_, ?_, ?_, ?_, ?_, ⟨hopen, h.safe⟩⟩
  · intro e he
    rcases List.mem_cons.mp he with rfl | he
    · exact h.so_lt
    · exact h.log_lt e he
  · intro u fn so k' hu
    rcases Config.of_set (· = Pc.call fn so k') hu with ⟨_, he⟩ | ⟨_, hu⟩
    · cases he
    · exact h.fetched u _ _ _ hu
  · intro u hu v hv
    rcases Config.of_set (Pc.isStore · = true) hu with ⟨rfl, _⟩ | ⟨hne, hu⟩
    · rw [Config.set_thread_of_ne c hv]; exact hquiet v hv
    · have := hquiet u hne
      rw [Pc.uses_of_isStore hu] at this
      cases this
  · exact ⟨fun _ => ⟨t, by rw [Config.set_thread_self]; rfl⟩, fun _ => List.mem_cons_self ..⟩
  · intro u x hu
    rcases Config.of_set (Pc.accepted · = some x) hu with ⟨_, he⟩ | ⟨hne, hu⟩
    · cases he
      refine ⟨hlt, hnew, fun hc => ?_⟩
      rcases List.mem_cons.mp hc with he | hc
      · cases he; exact hnew rfl
      · exact hnc hc
    · have := hquiet u hne
      rw [Pc.uses_of_accepted hu] at this
      cases this

theorem Inv.store (h : Inv c) (hl : c.thread t = .store new k) :
    Inv (c.set t { c.shared with so := new } (.unlock k true)) := by
  obtain ⟨hlt, _, hnc⟩ := h.accepted t new (by rw [hl]; rfl)
  have halone := h.alone t (by rw [hl]; rfl)
  have hnone : ∀ u, ((c.set t { c.shared with so := new } (.unlock k true)).thread u).uses =
      false :=
    Config.forall_set (P := fun _ l => Pc.uses l = false) rfl halone
  refine ⟨h.opened, hlt, h.log_lt, ?_, ?_, ?_, ?_, h.safe⟩
  · intro u fn so k' hu
    have := hnone u
    rw [hu] at this; cases this
  · intro u hu
    have := hnone u
    rw [Pc.uses_of_isStore hu] at this; cases this
  · refine ⟨fun hc => absurd hc hnc, ?_⟩
    rintro ⟨u, hu⟩
    have := hnone u
    rw [Pc.uses_of_isStore hu] at this; cases this
  · intro u x hu
    have := hnone u
    rw [Pc.uses_of_accepted hu] at this; cases this

/-! ## Runs -/

theorem enter_uses (m : Method) : m.enter.uses = false := by
  cases m <;> rfl

theorem sendGuard_uses (a : SendArgs) : (sendGuard a).uses = false := by
  unfold sendGuard
  split <;> rfl

theorem continue_uses (rest : List UsrFn) (k : Cont) (ok : Bool) :
    (NativeFn.continue rest k ok).uses = false := by
  cases rest <;> rfl

theorem resume_uses (r : Bool) (k : Cont) : (k.resume r).uses = false := by
  cases k <;> rfl

theorem lockPtr_closed_eq (so : SctpSocket) : (lockPtr.run so).2.closed = so.closed := by
  by_cases h : so.closed = true ∨ so.ptr = 0
  · rw [SctpSocket.lockPtr_closed h]
  · rw [not_or, Bool.not_eq_true] at h
    rw [SctpSocket.lockPtr_open h.1 h.2]

/-- While nobody has closed the socket, `unlockPtr` leaves no pointer to close. -/
theorem unlockPtr_open {so : SctpSocket} (h : so.closed = false) :
    (unlockPtr.run so).2.closed = false ∧ ∀ ptr, (unlockPtr.run so).1 = .ok ptr → ptr = 0 := by
  by_cases hc : 0 < so.ptrLockCount
  · rw [SctpSocket.unlockPtr_shared hc (.inl h)]
    exact ⟨h, fun ptr hp => by cases hp; rfl⟩
  · rw [SctpSocket.unlockPtr_unbalanced (by omega)]
    exact ⟨h, fun ptr hp => by cases hp⟩

theorem Inv.step_lock (h : Inv c) (hl : c.thread t = .lock fn k)
    (hs : step t c.shared (.lock fn k) .go = some (s, l)) : Inv (c.set t s l) := by
  have hclosed := (lockPtr_closed_eq c.shared.socket).trans h.opened
  have huse : (c.thread t).uses = false := by rw [hl]; rfl
  simp only [step] at hs
  split at hs
  · split at hs <;> rename_i heq <;> rw [heq] at hclosed <;> cases hs
    · exact h.outside (.inr ⟨huse, rfl⟩) hclosed rfl rfl rfl
    · exact h.outside (.inr ⟨huse, rfl⟩) (by simpa using hclosed) (by simp) (by simp) (by simp)
  · cases hs

theorem Inv.step_unlock (h : Inv c) (hl : c.thread t = .unlock k r)
    (hs : step t c.shared (.unlock k r) .go = some (s, l)) : Inv (c.set t s l) := by
  obtain ⟨hclosed, hzero⟩ := unlockPtr_open h.opened
  have huse : (c.thread t).uses = false := by rw [hl]; rfl
  simp only [step] at hs
  split at hs
  · split at hs <;> rename_i heq <;> rw [heq] at hclosed hzero <;> cases hs
    · rw [if_pos (hzero _ rfl)]
      exact h.outside (.inr ⟨huse, resume_uses r k⟩) hclosed rfl rfl rfl
    · exact h.outside (.inr ⟨huse, rfl⟩) (by simpa using hclosed) (by simp) (by simp) (by simp)
  · cases hs

theorem Inv.step_accept (h : Inv c) (hl : c.thread t = .call .accept so k)
    (hs : step t c.shared (.call .accept so k) .go = some (s, l)) : Inv (c.set t s l) := by
  simp only [step] at hs
  split at hs <;> cases hs
  · refine h.call hl .accept (fun h => nomatch h) h.opened rfl rfl (Nat.le_succ _) rfl
      (fun _ _ _ h => nomatch h) ?_
    intro new hnew
    cases hnew
    exact ⟨rfl, Nat.lt_succ_self _⟩
  · exact h.call hl .accept (fun h => nomatch h) h.opened rfl rfl (Nat.le_refl _) rfl
      (fun _ _ _ h => nomatch h) (fun _ h => nomatch h)

theorem Inv.exec (h : Inv c) {t : T} {a : Choice} (hq : Quiet c (t, a))
    (he : (native T).exec c (t, a) = some c') : Inv c' := by
  obtain ⟨s, l, hs, rfl⟩ := threads_exec.mp he
  have houtside : (c.thread t).uses = false → ∀ {l : Pc}, l.uses = false →
      ∀ (b : Bool) (owner : Option T),
      Inv (c.set t { c.shared with
        socket := { c.shared.socket with isAccepted := b }, owner } l) :=
    fun hold _ hnew _ _ => h.outside (.inr ⟨hold, hnew⟩) h.opened rfl rfl rfl
  cases a with
  | associated so =>
    simp only [step] at hs
    split at hs <;> cases hs
    exact h.outside (.inl rfl) h.opened rfl rfl rfl
  | call m =>
    cases hl : c.thread t with
    | idle =>
      rw [hl] at hs; cases hs
      exact h.outside (.inr ⟨by rw [hl]; rfl, enter_uses m⟩) h.opened rfl rfl rfl
    | _ => rw [hl] at hs; cases hs
  | result ok =>
    cases hl : c.thread t with
    | call fn so k =>
      rw [hl] at hs
      cases fn with
      | accept => cases hs
      | calls fn rest =>
        cases hs
        have hl' := continue_uses rest k ok
        refine h.call hl (.use fn) (fun h => nomatch h) h.opened rfl rfl (Nat.le_refl _) ?_ ?_ ?_
        · cases rest <;> rfl
        · intro fn' so' k' he
          rw [he] at hl'; cases hl'
        · intro new hnew
          rw [Pc.uses_of_accepted hnew] at hl'; cases hl'
    | _ => rw [hl] at hs; cases hs
  | go =>
    have hq := hq rfl
    cases hl : c.thread t with
    | idle => rw [hl] at hs; cases hs
    | listenReset =>
      rw [hl] at hs
      simp only [step] at hs
      split at hs <;> cases hs
      exact houtside (by rw [hl]; rfl) rfl _ _
    | sendTest a =>
      rw [hl] at hs; cases hs
      refine h.outside (.inr ⟨by rw [hl]; rfl, ?_⟩) h.opened rfl rfl rfl
      split
      · exact sendGuard_uses a
      · rfl
    | sctpInEnter =>
      rw [hl] at hs
      simp only [step] at hs
      split at hs <;> cases hs
      exact houtside (by rw [hl]; rfl) rfl _ _
    | sctpInTest =>
      rw [hl] at hs
      simp only [step] at hs
      split at hs <;> cases hs
      · exact houtside (by rw [hl]; rfl) rfl _ _
      · exact houtside (by rw [hl]; rfl) rfl _ _
    | lock fn k => rw [hl] at hs; exact h.step_lock hl hs
    | read fn k =>
      rw [hl] at hs; cases hs
      exact h.read hl fun u hu => (hq u hu).2 (by rw [hl]; rfl)
    | call fn so k =>
      rw [hl] at hs
      cases fn with
      | accept => exact h.step_accept hl hs
      | calls => cases hs
    | closeOld new k =>
      rw [hl] at hs; cases hs
      exact h.closeOld hl fun u hu => (hq u hu).1 (by rw [hl]; rfl)
    | store new k => rw [hl] at hs; cases hs; exact h.store hl
    | unlock k r => rw [hl] at hs; exact h.step_unlock hl hs
    | sendWrite a r =>
      rw [hl] at hs; cases hs
      exact houtside (by rw [hl]; rfl) (sendGuard_uses a) _ _
    | sctpInWrite =>
      rw [hl] at hs; cases hs
      exact houtside (by rw [hl]; rfl) rfl _ _

theorem Inv.init (h : (native T).init c) : Inv c := by
  obtain ⟨⟨hopen, hlog, hlt⟩, hidle⟩ := h
  refine ⟨hopen, hlt, ?_, ?_, ?_, ?_, ?_, ?_⟩
  · simp [hlog]
  · intro t fn so k ht
    rw [hidle t] at ht; cases ht
  · intro t ht
    rw [hidle t] at ht; cases ht
  · simp [Closed, hlog, hidle, Pc.isStore]
  · intro t new ht
    rw [hidle t] at ht; cases ht
  · rw [hlog]; trivial

/-! ## When the condition fails -/

omit [DecidableEq T] in
theorem not_safe_cons (h : Closed log so) (call : UsrCall) : ¬ Safe ((call, so) :: log) :=
  fun hsafe => hsafe.1 h

/-- A native function that has read `so` can make its call. -/
theorem call_enabled (t : T) (s : Shared T) (fn : NativeFn) (so : Sock) (k : Cont) :
    ∃ a call s' l, step t s (.call fn so k) a = some (s', l) ∧
      s'.usr.log = (call, so) :: s.usr.log := by
  cases fn with
  | accept =>
    by_cases hso : so ∈ s.usr.completed
    · exact ⟨.go, .accept, _, _, if_pos hso, rfl⟩
    · exact ⟨.go, .accept, _, _, if_neg hso, rfl⟩
  | calls fn rest => exact ⟨.result true, .use fn, _, _, rfl, rfl⟩

/-- A thread that has read a closed socket goes on to call usrsctp on it. -/
theorem call_unsafe (hl : c.thread t = .call fn so k) (hclosed : Closed c.shared.usr.log so) :
    ∃ i c', (native T).exec c i = some c' ∧ ¬ Safe c'.shared.usr.log := by
  obtain ⟨a, call, s, l, hs, hlog⟩ := call_enabled t c.shared fn so k
  refine ⟨(t, a), c.set t s l, threads_exec_of hl hs, ?_⟩
  rw [Config.set_shared, hlog]
  exact not_safe_cons hclosed call

/-- From a state of the invariant, a step that breaks the condition leads to a call on a closed
socket with the next step of some thread. -/
theorem unsafe_of_not_quiet (h : Inv c) {t : T} {a : Choice} (hq : ¬ Quiet c (t, a))
    (he : (native T).exec c (t, a) = some c') :
    ∃ i c'', (native T).exec c' i = some c'' ∧ ¬ Safe c''.shared.usr.log := by
  obtain ⟨rfl, u, hu, hbad⟩ : a = .go ∧ ∃ u, u ≠ t ∧
      ¬ (((c.thread t).isCloseOld = true → (c.thread u).uses = false) ∧
        ((c.thread t).isRead = true → (c.thread u).isStore = false)) := by
    simpa only [Quiet, not_forall, exists_prop] using hq
  obtain ⟨s, l, hs, rfl⟩ := threads_exec.mp he
  have hother : (c.set t s l).thread u = c.thread u := Config.set_thread_of_ne c hu
  cases hl : c.thread t with
  | closeOld new k =>
    rw [hl] at hs; cases hs
    have huses : (c.thread u).uses = true := by
      simpa [hl, Pc.isCloseOld, Pc.isRead] using hbad
    cases hul : c.thread u with
    | call fn so k' =>
      obtain rfl := h.fetched u _ _ _ hul
      exact call_unsafe (hother.trans hul) (List.mem_cons_self ..)
    | closeOld new' k' =>
      exact ⟨(u, .go), _, threads_exec_of (hother.trans hul) rfl,
        not_safe_cons (List.mem_cons_self ..) .close⟩
    | store new' k' =>
      have := h.alone u (by rw [hul]; rfl) t hu.symm
      rw [hl] at this; cases this
    | _ => rw [hul] at huses; cases huses
  | read fn k =>
    rw [hl] at hs; cases hs
    have hstore : (c.thread u).isStore = true := by
      simpa [hl, Pc.isCloseOld, Pc.isRead] using hbad
    exact call_unsafe (Config.set_thread_self c) (h.closed_iff.mpr ⟨u, hstore⟩)
  | _ => simp [hl, Pc.isCloseOld, Pc.isRead] at hbad

variable [Fintype T]

/-- The invariant along every interleaving that is quiet at every step. -/
theorem reachable_inv (h : ((native T).restrict Quiet).Reachable c) : Inv c :=
  h.restrict_invariant (fun _ => Inv.init) fun _ _ _ hinv hq hs => hinv.exec hq hs

/-- In every interleaving that is quiet at every step no usrsctp call is made on a closed
`struct socket`; and the first step that is not quiet can be followed by such a call. -/
theorem no_call_on_closed_iff_quiet :
    (∀ c : Config T (Shared T) Pc, ((native T).restrict Quiet).Reachable c →
      Safe c.shared.usr.log) ∧
    ∀ c : Config T (Shared T) Pc, ((native T).restrict Quiet).Reachable c →
      ∀ i c', (native T).exec c i = some c' → ¬ Quiet c i →
        ∃ j c'', (native T).exec c' j = some c'' ∧ ¬ Safe c''.shared.usr.log :=
  ⟨fun _ hc => (reachable_inv hc).safe,
    fun _ hc i _ he hq => unsafe_of_not_quiet (t := i.1) (a := i.2) (reachable_inv hc) hq he⟩

end

/-- A socket that listens and whose association has completed. -/
def listenSchedule : List (Fin 2 × Choice) :=
  [(0, .call .listenNative), (0, .go), (0, .go), (0, .go), (0, .result true), (0, .go),
    (0, .result true), (0, .go), (0, .associated 0)]

/-- The first `sendNative` accepts before the second one starts. -/
theorem sends_in_turn_safe : ∃ c : Config (Fin 2) (Shared (Fin 2)) Pc,
    ((native (Fin 2)).restrict Quiet).Reachable c ∧
    c.shared.usr.log.head? = some (.use .sendv, 1) ∧ Safe c.shared.usr.log := by
  let a : SendArgs := ⟨[104], 0, 1⟩
  have hstart : ((native (Fin 2)).restrict Quiet).Reachable
      ⟨⟨{ ptr := 7, localPort := 9899 }, none, 0, { next := 1 }⟩, fun _ => .idle⟩ :=
    .init ⟨⟨rfl, rfl, by decide⟩, fun _ => rfl⟩
  obtain ⟨c, hc, hlog⟩ := hstart.exists_run
    (P := fun c => c.shared.usr.log.head? = some (.use .sendv, 1))
    (listenSchedule ++ [(0, .call (.sendNative a)), (0, .go), (0, .go), (0, .go), (0, .go),
      (0, .go), (0, .go), (0, .go), (0, .go), (1, .call (.sendNative a)), (1, .go), (1, .go),
      (1, .go), (1, .result true)]) (by decide)
  exact ⟨c, hc, hlog, no_call_on_closed_iff_quiet.1 c hc⟩

/-- Two `sendNative` calls find `isAccepted` unset; the second one accepts on the socket that the
first one has closed. -/
theorem two_sends_call_closed : ∃ c : Config (Fin 2) (Shared (Fin 2)) Pc,
    (native (Fin 2)).Reachable c ∧ ¬ Safe c.shared.usr.log := by
  let a : SendArgs := ⟨[104], 0, 1⟩
  have hstart : (native (Fin 2)).Reachable
      ⟨⟨{ ptr := 7, localPort := 9899 }, none, 0, { next := 1 }⟩, fun _ => .idle⟩ :=
    .init ⟨⟨rfl, rfl, by decide⟩, fun _ => rfl⟩
  obtain ⟨c, hc, hlog⟩ := hstart.exists_run
    (P := fun c => c.shared.usr.log = [(.accept, 0), (.close, 0), (.accept, 0),
      (.use .listen, 0), (.use .bind, 0)])
    (listenSchedule ++ [(0, .call (.sendNative a)), (0, .go), (0, .go), (0, .go),
      (1, .call (.sendNative a)), (1, .go), (1, .go), (1, .go), (0, .go), (0, .go), (1, .go)])
    (by decide)
  refine ⟨c, hc, ?_⟩
  rw [hlog]
  exact not_safe_cons (List.mem_cons_self ..) .accept

end Sctp4Nat.NativeAccept
