import Sctp4Nat.Machine.Lifetime
import Sctp4Nat.Machine.Threads
import Sctp4Nat.Origin.SctpSocket

/-! # The pointer protocol of `SctpSocket`

Any number of threads run the methods of one `SctpSocket`. The write `closed = true`, each
`synchronized` block and each native call is one step, and so are the unsynchronized accesses
to `isAccepted`. The readers of `ptr` bracket their native calls between `lockPtr` and
`unlockPtr`; the pointer is closed by `closeNative` or, when readers are left, by the last
`unlockPtr`.

The shared state records the calls made so far. `Inv` counts, over all threads, the readers
(`held`), the closers that took the pointer (`token`) and the closers that have not reached their
block (`closing`); every clause of the protocol follows from it. -/

namespace Sctp4Nat.PtrProtocol

open SctpSocket (lockPtr unlockPtr closeNativeBlock outOfRange rangeException)

/-- The native functions called on `ptr` under the reader lock. -/
inductive NativeCall
  | usrsctpAccept
  | usrsctpConnect (remotePort : Int32)
  | usrsctpListen
  | onNetworkIn (pkt : Bytes) (off len : Int32)
  | usrsctpSend (data : Bytes) (off len : Int32) (ordered : Bool) (sid ppid : Int32)
  | usrsctpShutdown (how : Int32)
  deriving DecidableEq, Repr

/-- The arguments of `sendNative`. -/
structure SendArgs where
  data : Option Bytes
  offset : Int32
  len : Int32
  ordered : Bool
  sid : Int32
  ppid : Int32
  deriving DecidableEq, Repr

inductive Method
  | acceptNative
  | connectNative (remotePort : Int32)
  | listenNative
  | onConnIn (packet : Option Bytes) (offset len : Int32)
  | sendNative (args : SendArgs)
  | shutdownNative (how : Int32)
  | closeNative
  deriving DecidableEq, Repr

inductive Value
  | void
  | bool (b : Bool)
  | int (i : Int32)
  deriving DecidableEq, Repr

abbrev Outcome := Except Throwable Value

/-- Where a bracketed native call returns to: the caller of the method, or the rest of
`sendNative` when the call is the accept at its start. -/
inductive Cont
  | ret
  | send (data : Bytes) (args : SendArgs)
  deriving DecidableEq, Repr

inductive Pc
  /-- Outside the methods, with the outcome of the last call. -/
  | idle (last : Option Outcome)
  | listenReset
  | sendTest (data : Bytes) (args : SendArgs)
  | lock (call : NativeCall) (k : Cont)
  | native (call : NativeCall) (k : Cont) (ptr : Ptr)
  /-- In the `finally` block, after a native call that returned or threw `r`. -/
  | unlock (call : NativeCall) (k : Cont) (r : Except Throwable Int32)
  /-- In `unlockPtr` after its block, about to call `Sctp.closeSocket`. -/
  | closeDeferred (ptr : Ptr) (call : NativeCall) (k : Cont) (r : Except Throwable Int32)
  | sendWrite (data : Bytes) (args : SendArgs) (r : Bool)
  | setClosed
  | closeBlock
  /-- In `closeNative` after its block, about to call `Sctp.closeSocket`. -/
  | closeSocket (ptr : Ptr)

inductive Event (T : Type*)
  | call (t : T) (m : Method)
  | setClosed (t : T)
  | lockPtr (t : T) (success : Bool)
  | native (t : T) (call : NativeCall) (ptr : Ptr)
  | unlockPtr (t : T) (balanced : Bool)
  | closeSocket (t : T) (ptr : Ptr)
  deriving DecidableEq

structure Shared (T : Type*) where
  so : SctpSocket
  /-- The events so far, the newest first. -/
  log : List (Event T) := []

/-- What a thread does next: it calls a method, the running native call returns or throws, or it
takes the next step of its method. -/
inductive Choice
  | call (m : Method)
  | result (r : Except Throwable Int32)
  | go

/-- The argument check of `sendNative`, after the accept. -/
def sendGuard (data : Bytes) (a : SendArgs) : Pc :=
  if outOfRange data a.offset a.len then
    .idle (some (.error (rangeException "data" data a.offset a.len)))
  else .lock (.usrsctpSend data a.offset a.len a.ordered a.sid a.ppid) .ret

/-- The outcome of the method around a native call that returned `r`. -/
def NativeCall.outcome : NativeCall → Int32 → Outcome
  | .usrsctpAccept, r => .ok (.bool (r != 0))
  | .usrsctpConnect _, r =>
    if r = 0 then .error (.ioException "Failed to connect SCTP") else .ok .void
  | .usrsctpListen, _ | .onNetworkIn .., _ => .ok .void
  | .usrsctpSend .., r | .usrsctpShutdown _, r => .ok (.int r)

/-- After the bracket: an exception of the native call leaves the method. -/
def Cont.resume (call : NativeCall) : Except Throwable Int32 → Cont → Pc
  | .error e, _ => .idle (some (.error e))
  | .ok r, .ret => .idle (some (call.outcome r))
  | .ok r, .send data a => .sendWrite data a (r != 0)

/-- The first step of a method: what it does before its first access to the shared fields. -/
def Method.enter : Method → Pc
  | .acceptNative => .lock .usrsctpAccept .ret
  | .connectNative port => .lock (.usrsctpConnect port) .ret
  | .listenNative => .listenReset
  | .onConnIn none _ _ => .idle (some (.error (.nullPointerException "packet")))
  | .onConnIn (some packet) offset len =>
    if outOfRange packet offset len then
      .idle (some (.error (rangeException "packet" packet offset len)))
    else .lock (.onNetworkIn packet offset len) .ret
  | .sendNative a =>
    match a.data with
    | none => .idle (some (.error (.nullPointerException "data")))
    | some data => .sendTest data a
  | .shutdownNative how => .lock (.usrsctpShutdown how) .ret
  | .closeNative => .setClosed

variable {T : Type*}

def Shared.record (s : Shared T) (e : Event T) : Shared T := { s with log := e :: s.log }

/-- One step of thread `t`. -/
def step (t : T) (s : Shared T) : Pc → Choice → Option (Shared T × Pc)
  | .idle _, .call m => some (s.record (.call t m), m.enter)
  | .listenReset, .go =>
    some ({ s with so := { s.so with isAccepted := false } }, .lock .usrsctpListen .ret)
  | .sendTest data a, .go =>
    some (s, if s.so.isAccepted then sendGuard data a else .lock .usrsctpAccept (.send data a))
  | .lock call k, .go =>
    match lockPtr.run s.so with
    | (.ok ptr, so) => some ({ s with so }.record (.lockPtr t true), .native call k ptr)
    | (.error e, so) => some ({ s with so }.record (.lockPtr t false), .idle (some (.error e)))
  | .native call k ptr, .result r => some (s.record (.native t call ptr), .unlock call k r)
  | .unlock call k r, .go =>
    match unlockPtr.run s.so with
    | (.ok ptr, so) => some ({ s with so }.record (.unlockPtr t true),
        if ptr = 0 then k.resume call r else .closeDeferred ptr call k r)
    | (.error e, so) => some ({ s with so }.record (.unlockPtr t false), .idle (some (.error e)))
  | .closeDeferred ptr call k r, .go => some (s.record (.closeSocket t ptr), k.resume call r)
  | .sendWrite data a r, .go =>
    some ({ s with so := { s.so with isAccepted := r } }, sendGuard data a)
  | .setClosed, .go =>
    some ({ s with so := { s.so with closed := true } }.record (.setClosed t), .closeBlock)
  | .closeBlock, .go =>
    match closeNativeBlock.run s.so with
    | (.ok ptr, so) => some ({ s with so },
        if ptr = 0 then .idle (some (.ok .void)) else .closeSocket ptr)
    | (.error e, so) => some ({ s with so }, .idle (some (.error e)))
  | .closeSocket ptr, .go => some (s.record (.closeSocket t ptr), .idle (some (.ok .void)))
  | _, _ => none

/-- The steps of a thread, one rule for each. -/
inductive Steps (t : T) (s : Shared T) : Pc → Choice → Shared T → Pc → Prop
  | call (last : Option Outcome) (m : Method) :
    Steps t s (.idle last) (.call m) (s.record (.call t m)) m.enter
  | listenReset :
    Steps t s .listenReset .go { s with so := { s.so with isAccepted := false } }
      (.lock .usrsctpListen .ret)
  | sendTest (data : Bytes) (a : SendArgs) :
    Steps t s (.sendTest data a) .go s
      (if s.so.isAccepted then sendGuard data a else .lock .usrsctpAccept (.send data a))
  | lock (call : NativeCall) (k : Cont) (hrun : lockPtr.run s.so = (.ok ptr, so)) :
    Steps t s (.lock call k) .go ({ s with so }.record (.lockPtr t true)) (.native call k ptr)
  | lockFailed (call : NativeCall) (k : Cont) (hrun : lockPtr.run s.so = (.error e, so)) :
    Steps t s (.lock call k) .go ({ s with so }.record (.lockPtr t false))
      (.idle (some (.error e)))
  | native (call : NativeCall) (k : Cont) (ptr : Ptr) (r : Except Throwable Int32) :
    Steps t s (.native call k ptr) (.result r) (s.record (.native t call ptr)) (.unlock call k r)
  | unlock (call : NativeCall) (k : Cont) (r : Except Throwable Int32)
      (hrun : unlockPtr.run s.so = (.ok ptr, so)) :
    Steps t s (.unlock call k r) .go ({ s with so }.record (.unlockPtr t true))
      (if ptr = 0 then k.resume call r else .closeDeferred ptr call k r)
  | unlockFailed (call : NativeCall) (k : Cont) (r : Except Throwable Int32)
      (hrun : unlockPtr.run s.so = (.error e, so)) :
    Steps t s (.unlock call k r) .go ({ s with so }.record (.unlockPtr t false))
      (.idle (some (.error e)))
  | closeDeferred (ptr : Ptr) (call : NativeCall) (k : Cont) (r : Except Throwable Int32) :
    Steps t s (.closeDeferred ptr call k r) .go (s.record (.closeSocket t ptr)) (k.resume call r)
  | sendWrite (data : Bytes) (a : SendArgs) (r : Bool) :
    Steps t s (.sendWrite data a r) .go { s with so := { s.so with isAccepted := r } }
      (sendGuard data a)
  | setClosed :
    Steps t s .setClosed .go
      ({ s with so := { s.so with closed := true } }.record (.setClosed t)) .closeBlock
  | closeBlock (hrun : closeNativeBlock.run s.so = (.ok ptr, so)) :
    Steps t s .closeBlock .go { s with so }
      (if ptr = 0 then .idle (some (.ok .void)) else .closeSocket ptr)
  | closeBlockFailed (hrun : closeNativeBlock.run s.so = (.error e, so)) :
    Steps t s .closeBlock .go { s with so } (.idle (some (.error e)))
  | closeSocket (ptr : Ptr) :
    Steps t s (.closeSocket ptr) .go (s.record (.closeSocket t ptr)) (.idle (some (.ok .void)))

theorem steps_of_step {t : T} {s s' : Shared T} (h : step t s l a = some (s', l')) :
    Steps t s l a s' l' := by
  cases l with
  | idle last =>
    cases a with
    | call m => cases h; exact .call last m
    | result | go => cases h
  | listenReset =>
    cases a with
    | go => cases h; exact .listenReset
    | call | result => cases h
  | sendTest data args =>
    cases a with
    | go => cases h; exact .sendTest data args
    | call | result => cases h
  | lock call k =>
    cases a with
    | go =>
      simp only [step] at h
      split at h <;> cases h
      · exact .lock call k ‹_›
      · exact .lockFailed call k ‹_›
    | call | result => cases h
  | native call k ptr =>
    cases a with
    | result r => cases h; exact .native call k ptr r
    | call | go => cases h
  | unlock call k r =>
    cases a with
    | go =>
      simp only [step] at h
      split at h <;> cases h
      · exact .unlock call k r ‹_›
      · exact .unlockFailed call k r ‹_›
    | call | result => cases h
  | closeDeferred ptr call k r =>
    cases a with
    | go => cases h; exact .closeDeferred ptr call k r
    | call | result => cases h
  | sendWrite data args r =>
    cases a with
    | go => cases h; exact .sendWrite data args r
    | call | result => cases h
  | setClosed =>
    cases a with
    | go => cases h; exact .setClosed
    | call | result => cases h
  | closeBlock =>
    cases a with
    | go =>
      simp only [step] at h
      split at h <;> cases h
      · exact .closeBlock ‹_›
      · exact .closeBlockFailed ‹_›
    | call | result => cases h
  | closeSocket ptr =>
    cases a with
    | go => cases h; exact .closeSocket ptr
    | call | result => cases h

/-- All interleavings of threads that use one freshly created `SctpSocket`. -/
def protocol (T : Type*) [DecidableEq T] : Machine (Config T (Shared T) Pc) (T × Choice) :=
  threads (fun s => s.log = [] ∧ ∃ ptr localPort, SctpSocket.create ptr localPort = .ok s.so)
    (.idle none) step

def Pc.isIdle : Pc → Bool
  | .idle _ => true
  | _ => false

/-! ## The history -/

/-- `t` is between a successful `lockPtr` and the matching `unlockPtr`. -/
def Holds (t : T) : List (Event T) → Prop
  | [] => False
  | .lockPtr u true :: before => u = t ∨ Holds t before
  | .unlockPtr u _ :: before => u ≠ t ∧ Holds t before
  | _ :: before => Holds t before

def Event.isCloseSocket : Event T → Bool
  | .closeSocket .. => true
  | _ => false

/-- The number of invocations of `Sctp.closeSocket`. -/
def closeCount (log : List (Event T)) : Nat := log.countP Event.isCloseSocket

theorem closeCount_pos_of_mem {log : List (Event T)} (h : .closeSocket t q ∈ log) :
    0 < closeCount log :=
  List.countP_pos_iff.mpr ⟨_, h, rfl⟩

/-- `closed` has been set. -/
def WasClosed (log : List (Event T)) : Prop := ∃ t, .setClosed t ∈ log

/-- What the protocol allows an event to be, after the events before it. -/
def Allowed (ptr : Ptr) : Event T → List (Event T) → Prop
  | .lockPtr _ success, before => success = true → ¬ WasClosed before
  | .native t _ q, before => q = ptr ∧ Holds t before ∧ closeCount before = 0
  | .unlockPtr _ balanced, _ => balanced = true
  | .closeSocket _ q, before => q = ptr ∧ (∀ u, ¬ Holds u before) ∧ closeCount before = 0
  | _, _ => True

/-! ## The invariant -/

/-- A reader of the pointer. -/
def Pc.held : Pc → Nat
  | .native .. | .unlock .. => 1
  | _ => 0

/-- A thread that took the pointer and has not closed it yet. -/
def Pc.token : Pc → Nat
  | .closeDeferred .. | .closeSocket _ => 1
  | _ => 0

/-- A closer between its write of `closed` and its block. -/
def Pc.closing : Pc → Nat
  | .closeBlock => 1
  | _ => 0

/-- A closer before its write of `closed`. -/
def Pc.calling : Pc → Nat
  | .setClosed => 1
  | _ => 0

/-- The pointers a thread carries are `ptr`. -/
def Pc.Carries (ptr : Ptr) : Pc → Prop
  | .native _ _ q | .closeDeferred q .. | .closeSocket q => q = ptr
  | _ => True

/-- What is known of one thread from the history. -/
def Pc.Local (ptr : Ptr) (log : List (Event T)) (t : T) (l : Pc) : Prop :=
  (Holds t log ↔ l.held = 1) ∧ l.Carries ptr

/-- The four weights of a program counter. -/
structure Pc.Weighs (l : Pc) (held token closing calling : Nat) : Prop where
  held : l.held = held
  token : l.token = token
  closing : l.closing = closing
  calling : l.calling = calling

theorem sendGuard_weighs (data : Bytes) (a : SendArgs) : (sendGuard data a).Weighs 0 0 0 0 := by
  unfold sendGuard
  split <;> exact ⟨rfl, rfl, rfl, rfl⟩

theorem sendGuard_carries (data : Bytes) (a : SendArgs) : (sendGuard data a).Carries ptr := by
  unfold sendGuard
  split <;> trivial

theorem resume_weighs (call : NativeCall) (r : Except Throwable Int32) (k : Cont) :
    (k.resume call r).Weighs 0 0 0 0 := by
  cases r <;> cases k <;> exact ⟨rfl, rfl, rfl, rfl⟩

theorem resume_carries (call : NativeCall) (r : Except Throwable Int32) (k : Cont) :
    (k.resume call r).Carries ptr := by
  cases r <;> cases k <;> trivial

theorem enter_weighs (m : Method) :
    m.enter.Weighs 0 0 0 (if m = .closeNative then 1 else 0) := by
  cases m with
  | onConnIn packet offset len =>
    cases packet with
    | none => exact ⟨rfl, rfl, rfl, rfl⟩
    | some packet => simp only [Method.enter]; split <;> exact ⟨rfl, rfl, rfl, rfl⟩
  | sendNative a => simp only [Method.enter]; split <;> exact ⟨rfl, rfl, rfl, rfl⟩
  | _ => exact ⟨rfl, rfl, rfl, rfl⟩

theorem enter_carries (m : Method) : m.enter.Carries ptr := by
  cases m with
  | onConnIn packet offset len =>
    cases packet with
    | none => trivial
    | some packet => simp only [Method.enter]; split <;> trivial
  | sendNative a => simp only [Method.enter]; split <;> trivial
  | _ => trivial

def Event.thread : Event T → T
  | .call t _ | .setClosed t | .lockPtr t _ | .native t .. | .unlockPtr t _ | .closeSocket t _ => t

theorem holds_cons_of_ne {e : Event T} (h : u ≠ e.thread) :
    Holds u (e :: log) ↔ Holds u log := by
  cases e with
  | lockPtr t success => cases success <;> simp_all [Holds, Event.thread, eq_comm]
  | unlockPtr t _ => simp_all [Holds, Event.thread, eq_comm]
  | _ => rfl

section
variable [Fintype T]

/-- The lifetime of the native socket, as the fields and the threads show it. -/
def view (c : Config T (Shared T) Pc) : Lifetime where
  present := c.shared.so.ptr != 0
  closed := c.shared.so.closed
  readers := c.total Pc.held
  closing := c.total Pc.closing
  owners := c.total Pc.token
  destroyed := closeCount c.shared.log

structure Inv (ptr : Ptr) (c : Config T (Shared T) Pc) : Prop where
  lifetime : (view c).Inv
  ptr_ne : ptr ≠ 0
  ptr_eq : c.shared.so.ptr = ptr ∨ c.shared.so.ptr = 0
  count : c.shared.so.ptrLockCount = c.total Pc.held
  closed_iff : c.shared.so.closed = true ↔ WasClosed c.shared.log
  called : (∃ t, .call t .closeNative ∈ c.shared.log) →
    c.shared.so.closed = true ∨ 0 < c.total Pc.calling
  threads : ∀ t, (c.thread t).Local ptr c.shared.log t
  allowed : Trace.Each (Allowed ptr) c.shared.log

variable {ptr : Ptr} {c : Config T (Shared T) Pc}

theorem Inv.holds_iff (h : Inv ptr c) (hl : (c.thread t).Weighs n k b a) :
    Holds t c.shared.log ↔ n = 1 :=
  hl.held ▸ (h.threads t).1

variable [DecidableEq T]

theorem view_set (hold : (c.thread t).Weighs n k b a) (hnew : Pc.Weighs l n' k' b' a') :
    view (c.set t s l) = {
      present := s.so.ptr != 0
      closed := s.so.closed
      readers := c.total Pc.held + n' - n
      closing := c.total Pc.closing + b' - b
      owners := c.total Pc.token + k' - k
      destroyed := closeCount s.log } := by
  simp only [view, Config.total_set_eq, Config.set_shared, hold.held, hold.token, hold.closing,
    hnew.held, hnew.token, hnew.closing]

/-- A step of `t` keeps the invariant when it keeps the lifetime and does right by itself: what
is known of the other threads and of the events before does not change. -/
theorem Inv.next (h : Inv ptr c) (hlife : (view (c.set t s l)).Inv)
    (hptr : s.so.ptr = c.shared.so.ptr ∨ s.so.ptr = 0)
    (hcount : s.so.ptrLockCount = (view (c.set t s l)).readers)
    (hclosed : s.so.closed = true ↔ WasClosed s.log)
    (hcalled : (∃ t, .call t .closeNative ∈ s.log) →
      s.so.closed = true ∨ 0 < c.total Pc.calling + l.calling - (c.thread t).calling)
    (hlog : s.log = c.shared.log ∨
      ∃ e, e.thread = t ∧ Allowed ptr e c.shared.log ∧ s.log = e :: c.shared.log)
    (hlocal : Pc.Local ptr s.log t l) : Inv ptr (c.set t s l) where
  lifetime := hlife
  ptr_ne := h.ptr_ne
  ptr_eq := by
    rcases hptr with hp | hp
    · exact hp ▸ h.ptr_eq
    · exact .inr hp
  count := hcount
  closed_iff := hclosed
  called hc := by rw [Config.total_set_eq]; exact hcalled hc
  threads := by
    refine Config.forall_set (P := fun u l => Pc.Local ptr s.log u l) hlocal fun u hu => ?_
    rcases hlog with hlog | ⟨e, he, _, hlog⟩
    · rw [hlog]; exact h.threads u
    · rw [hlog]
      exact ⟨(holds_cons_of_ne (he ▸ hu)).trans (h.threads u).1, (h.threads u).2⟩
  allowed := by
    rcases hlog with hlog | ⟨e, _, ha, hlog⟩
    · exact hlog ▸ h.allowed
    · rw [Config.set_shared, hlog]; exact ⟨ha, h.allowed⟩

/-- A step outside the bracket that writes at most `isAccepted`. -/
theorem Inv.outside (h : Inv ptr c) (hold : (c.thread t).Weighs 0 0 0 0)
    (hnew : Pc.Weighs l 0 0 0 0) (hcarries : l.Carries ptr) (b : Bool) :
    Inv ptr (c.set t { c.shared with so := { c.shared.so with isAccepted := b } } l) := by
  have hview : view (c.set t { c.shared with so := { c.shared.so with isAccepted := b } } l) =
      view c := by
    rw [view_set hold hnew]; simp [view]
  refine h.next (hview ▸ h.lifetime) (.inl rfl) (by rw [hview]; exact h.count) h.closed_iff
    (fun hc => ?_) (.inl rfl) ⟨?_, hcarries⟩
  · simpa [hold.calling, hnew.calling] using h.called hc
  · simpa [hnew.held] using h.holds_iff hold

theorem Inv.step_call (h : Inv ptr c) (hold : (c.thread t).Weighs 0 0 0 0) (m : Method) :
    Inv ptr (c.set t (c.shared.record (.call t m)) m.enter) := by
  have hnew := enter_weighs m
  have hview : view (c.set t (c.shared.record (.call t m)) m.enter) = view c := by
    rw [view_set hold hnew]; simp [view, Shared.record, closeCount, Event.isCloseSocket]
  refine h.next (hview ▸ h.lifetime) (.inl rfl) (by rw [hview]; exact h.count) ?_ (fun hc => ?_)
    (.inr ⟨.call t m, rfl, trivial, rfl⟩) ⟨?_, enter_carries m⟩
  · simpa [WasClosed, Shared.record] using h.closed_iff
  · rw [hold.calling, hnew.calling]
    simp only [Shared.record, List.mem_cons, Event.call.injEq] at hc
    obtain ⟨u, ⟨rfl, rfl⟩ | hc⟩ := hc
    · exact .inr (by simp)
    · rcases h.called ⟨u, hc⟩ with hc | hc
      · exact .inl hc
      · exact .inr (by omega)
  · simpa [hnew.held, Holds, Shared.record] using h.holds_iff hold

/-- The events of a bracketed native call and of the closing of the pointer. -/
def Event.isBracket : Event T → Bool
  | .call .. | .setClosed _ => false
  | _ => true

/-- A step inside the bracket, or one that closes the pointer. -/
theorem Inv.bracket (h : Inv ptr c) {e : Event T} {so : SctpSocket} (he : e.thread = t)
    (hb : e.isBracket = true) (ha : Allowed ptr e c.shared.log)
    (hlife : (view (c.set t ({ c.shared with so }.record e) l)).Inv)
    (hptr : so.ptr = c.shared.so.ptr ∨ so.ptr = 0)
    (hcount : so.ptrLockCount = (view (c.set t ({ c.shared with so }.record e) l)).readers)
    (hclosed : so.closed = c.shared.so.closed) (hcalling : (c.thread t).calling = 0)
    (hlocal : Pc.Local ptr (e :: c.shared.log) t l) :
    Inv ptr (c.set t ({ c.shared with so }.record e) l) := by
  refine h.next hlife hptr hcount ?_ (fun hc => ?_) (.inr ⟨e, he, ha, rfl⟩) hlocal
  · cases e <;> simp_all [WasClosed, Shared.record, Event.isBracket, h.closed_iff]
  · have hold : ∃ u, .call u .closeNative ∈ c.shared.log := by
      cases e <;> simp_all [Shared.record, Event.isBracket]
    rcases h.called hold with hc | hc
    · exact .inl (hclosed.trans hc)
    · exact .inr (by rw [hcalling]; omega)

theorem Inv.step_lock (h : Inv ptr c) (hl : c.thread t = .lock call k)
    (hs : step t c.shared (.lock call k) .go = some (s, l)) : Inv ptr (c.set t s l) := by
  have hold : (c.thread t).Weighs 0 0 0 0 := hl ▸ ⟨rfl, rfl, rfl, rfl⟩
  by_cases hopen : c.shared.so.closed = false ∧ c.shared.so.ptr ≠ 0
  · simp only [step, SctpSocket.lockPtr_open hopen.1 hopen.2, Option.some.injEq,
      Prod.mk.injEq] at hs
    obtain ⟨rfl, rfl⟩ := hs
    have hnew : (Pc.native call k c.shared.so.ptr).Weighs 1 0 0 0 := ⟨rfl, rfl, rfl, rfl⟩
    have hnot : ¬ WasClosed c.shared.log := fun hw => by
      have := h.closed_iff.mpr hw
      simp [hopen.1] at this
    refine h.bracket rfl rfl (fun _ => hnot) (h.lifetime.exec .acquire ?_) (.inl rfl) ?_
      rfl hold.calling ⟨by simp [Holds, hnew.held], h.ptr_eq.resolve_right hopen.2⟩
    · rw [view_set hold hnew]; simp [view, Lifetime.exec, Shared.record, closeCount,
        Event.isCloseSocket, hopen.1, hopen.2]
    · rw [view_set hold hnew]; simp [h.count]
  · have hclosed : c.shared.so.closed = true ∨ c.shared.so.ptr = 0 := by
      cases hc : c.shared.so.closed <;> simp_all
    simp only [step, SctpSocket.lockPtr_closed hclosed, Option.some.injEq, Prod.mk.injEq] at hs
    obtain ⟨rfl, rfl⟩ := hs
    have hnew : (Pc.idle (some (.error (.ioException "SctpSocket is closed!")))).Weighs 0 0 0 0 :=
      ⟨rfl, rfl, rfl, rfl⟩
    refine h.bracket rfl rfl (fun h => absurd h Bool.false_ne_true) ?_ (.inl rfl) ?_ rfl
      hold.calling ⟨by simpa [Holds, hnew.held] using h.holds_iff hold, trivial⟩
    · have := h.lifetime
      rw [view_set hold hnew]
      simpa [view, Shared.record, closeCount, Event.isCloseSocket] using this
    · rw [view_set hold hnew]; simp [h.count]

theorem Inv.step_native (h : Inv ptr c) (hl : c.thread t = .native call k q)
    (r : Except Throwable Int32) :
    Inv ptr (c.set t (c.shared.record (.native t call q)) (.unlock call k r)) := by
  have hold : (c.thread t).Weighs 1 0 0 0 := hl ▸ ⟨rfl, rfl, rfl, rfl⟩
  have hnew : (Pc.unlock call k r).Weighs 1 0 0 0 := ⟨rfl, rfl, rfl, rfl⟩
  have hin : Holds t c.shared.log := (h.holds_iff hold).mpr rfl
  have hq : q = ptr := by
    have := (h.threads t).2
    rwa [hl] at this
  have hreaders : 0 < (view c).readers := Config.total_pos hold.held
  have hview : view (c.set t (c.shared.record (.native t call q)) (.unlock call k r)) = view c := by
    rw [view_set hold hnew]; simp [view, Shared.record, closeCount, Event.isCloseSocket]
  exact h.bracket rfl rfl ⟨hq, hin, (h.lifetime.alive hreaders).2⟩ (hview ▸ h.lifetime) (.inl rfl)
    (hview ▸ h.count) rfl hold.calling ⟨by simpa [Holds, hnew.held] using hin, trivial⟩

theorem Inv.step_unlock (h : Inv ptr c) (hl : c.thread t = .unlock call k r)
    (hs : step t c.shared (.unlock call k r) .go = some (s, l)) : Inv ptr (c.set t s l) := by
  have hold : (c.thread t).Weighs 1 0 0 0 := hl ▸ ⟨rfl, rfl, rfl, rfl⟩
  have hreaders : 0 < c.total Pc.held := Config.total_pos hold.held
  have hcount := h.count
  by_cases hlast : c.shared.so.closed = true ∧ c.shared.so.ptrLockCount = 1
  · have hone : c.total Pc.held = 1 := by omega
    have hptr : c.shared.so.ptr ≠ 0 := fun h0 => by
      have := (h.lifetime.gone (by simp [view, h0])).2
      simp only [view] at this
      omega
    simp only [step, SctpSocket.unlockPtr_last hlast.2 hlast.1, Option.some.injEq, Prod.mk.injEq,
      if_neg hptr] at hs
    obtain ⟨rfl, rfl⟩ := hs
    have hnew : (Pc.closeDeferred c.shared.so.ptr call k r).Weighs 0 1 0 0 := ⟨rfl, rfl, rfl, rfl⟩
    refine h.bracket rfl rfl rfl (h.lifetime.exec .release ?_) (.inr rfl) ?_ rfl
      hold.calling ⟨by simp [Holds, hnew.held], h.ptr_eq.resolve_right hptr⟩
    · rw [view_set hold hnew]; simp [view, Lifetime.exec, Lifetime.take, Shared.record, closeCount,
        Event.isCloseSocket, hlast.1, hone, hptr]
    · rw [view_set hold hnew]; simp [hone]
  · have hshared : c.shared.so.closed = false ∨ c.shared.so.ptrLockCount ≠ 1 := by
      cases hc : c.shared.so.closed <;> simp_all
    have hnot : ¬ (c.shared.so.closed = true ∧ c.total Pc.held = 1) := by
      rintro ⟨hc, h1⟩
      exact hlast ⟨hc, by omega⟩
    simp only [step, SctpSocket.unlockPtr_shared (by omega) hshared, Option.some.injEq,
      Prod.mk.injEq, if_true] at hs
    obtain ⟨rfl, rfl⟩ := hs
    have hnew := resume_weighs call r k
    refine h.bracket rfl rfl rfl (h.lifetime.exec .release ?_) (.inl rfl) ?_ rfl
      hold.calling ⟨by simp [Holds, hnew.held], resume_carries call r k⟩
    · rw [view_set hold hnew]; simp [view, Lifetime.exec, Shared.record, closeCount,
        Event.isCloseSocket, hnot, Nat.ne_of_gt hreaders]
    · simp only [view_set hold hnew]
      omega

/-- The call of `Sctp.closeSocket`, from `unlockPtr` or from `closeNative`. -/
theorem Inv.step_closeSocket (h : Inv ptr c) (hold : (c.thread t).Weighs 0 1 0 0) (hq : q = ptr)
    (hnew : Pc.Weighs l 0 0 0 0) (hcarries : l.Carries ptr) :
    Inv ptr (c.set t (c.shared.record (.closeSocket t q)) l) := by
  have howner : 0 < (view c).owners := Config.total_pos hold.token
  obtain ⟨hfree, hnone⟩ := h.lifetime.exclusive howner
  have hnobody : ∀ u, ¬ Holds u c.shared.log := by
    intro u hu
    have := c.le_total u Pc.held
    rw [(h.threads u).1.mp hu] at this
    simp only [view] at hfree
    omega
  refine h.bracket rfl rfl ⟨hq, hnobody, hnone⟩ (h.lifetime.exec .destroy ?_) (.inl rfl) ?_
    rfl hold.calling ⟨by simpa [Holds, hnew.held] using hnobody t, hcarries⟩
  · simp only [view] at howner
    rw [view_set hold hnew]; simp [view, Lifetime.exec, Shared.record, closeCount,
      List.countP_cons, Event.isCloseSocket, Nat.ne_of_gt howner]
  · rw [view_set hold hnew]; simp [h.count]

theorem Inv.step_setClosed (h : Inv ptr c) (hl : c.thread t = .setClosed) :
    Inv ptr (c.set t ({ c.shared with so := { c.shared.so with closed := true } }.record
      (.setClosed t)) .closeBlock) := by
  have hold : (c.thread t).Weighs 0 0 0 1 := hl ▸ ⟨rfl, rfl, rfl, rfl⟩
  have hnew : Pc.closeBlock.Weighs 0 0 1 0 := ⟨rfl, rfl, rfl, rfl⟩
  refine h.next (h.lifetime.exec .request ?_) (.inl rfl) ?_ ?_ (fun _ => .inl rfl)
    (.inr ⟨.setClosed t, rfl, trivial, rfl⟩) ⟨?_, trivial⟩
  · rw [view_set hold hnew]; simp [view, Lifetime.exec, Shared.record, closeCount,
      Event.isCloseSocket]
  · rw [view_set hold hnew]; simp [Shared.record, h.count]
  · simp [WasClosed, Shared.record]
  · simpa [Holds, hnew.held, Shared.record] using h.holds_iff hold

theorem Inv.step_closeBlock (h : Inv ptr c) (hl : c.thread t = .closeBlock)
    (hs : step t c.shared .closeBlock .go = some (s, l)) : Inv ptr (c.set t s l) := by
  have hold : (c.thread t).Weighs 0 0 1 0 := hl ▸ ⟨rfl, rfl, rfl, rfl⟩
  have hclosing : 0 < c.total Pc.closing := Config.total_pos hold.closing
  have hidle : (Pc.idle (some (.ok .void))).Weighs 0 0 0 0 := ⟨rfl, rfl, rfl, rfl⟩
  have hcount := h.count
  by_cases hfree : c.shared.so.ptrLockCount = 0
  · have hzero : c.total Pc.held = 0 := by omega
    simp only [step, SctpSocket.closeNativeBlock_free hfree, Option.some.injEq, Prod.mk.injEq] at hs
    obtain ⟨rfl, rfl⟩ := hs
    -- either the pointer is still there and `t` takes it, or the last reader was faster
    by_cases hptr : c.shared.so.ptr = 0
    · rw [if_pos hptr]
      refine h.next (h.lifetime.exec .look ?_) (.inr rfl) ?_ h.closed_iff (fun hc => ?_)
        (.inl rfl) ⟨by simpa [hidle.held] using h.holds_iff hold, trivial⟩
      · rw [view_set hold hidle]; simp [view, Lifetime.exec, Lifetime.take, hzero, hptr,
          Nat.ne_of_gt hclosing]
      · rw [view_set hold hidle]; simp [h.count]
      · simpa [hold.calling, hidle.calling] using h.called hc
    · rw [if_neg hptr]
      have hnew : (Pc.closeSocket c.shared.so.ptr).Weighs 0 1 0 0 := ⟨rfl, rfl, rfl, rfl⟩
      refine h.next (h.lifetime.exec .look ?_) (.inr rfl) ?_ h.closed_iff (fun hc => ?_)
        (.inl rfl) ⟨by simpa [hnew.held] using h.holds_iff hold, h.ptr_eq.resolve_right hptr⟩
      · rw [view_set hold hnew]; simp [view, Lifetime.exec, Lifetime.take, hzero, hptr,
          Nat.ne_of_gt hclosing]
      · rw [view_set hold hnew]; simp [h.count]
      · simpa [hold.calling, hnew.calling] using h.called hc
  · have hreaders : c.total Pc.held ≠ 0 := by omega
    simp only [step, SctpSocket.closeNativeBlock_locked hfree, Option.some.injEq,
      Prod.mk.injEq, if_true] at hs
    obtain ⟨rfl, rfl⟩ := hs
    refine h.next (h.lifetime.exec .look ?_) (.inl rfl) ?_ h.closed_iff (fun hc => ?_)
      (.inl rfl) ⟨by simpa [hidle.held] using h.holds_iff hold, trivial⟩
    · rw [view_set hold hidle]; simp [view, Lifetime.exec, hreaders, Nat.ne_of_gt hclosing]
    · rw [view_set hold hidle]; simp [h.count]
    · simpa [hold.calling, hidle.calling] using h.called hc

/-! ## Runs -/

theorem Inv.exec (h : Inv ptr c) {t : T} {a : Choice}
    (he : (protocol T).exec c (t, a) = some c') : Inv ptr c' := by
  obtain ⟨s, l, hs, rfl⟩ := threads_exec.mp he
  have hcarries := (h.threads t).2
  generalize hl : c.thread t = l₀ at hs hcarries
  cases steps_of_step hs with
  | call last m => exact h.step_call (hl ▸ ⟨rfl, rfl, rfl, rfl⟩) m
  | listenReset =>
    have hnew : (Pc.lock .usrsctpListen .ret).Weighs 0 0 0 0 := ⟨rfl, rfl, rfl, rfl⟩
    exact h.outside (hl ▸ ⟨rfl, rfl, rfl, rfl⟩) hnew trivial false
  | sendTest data args =>
    refine h.outside (hl ▸ ⟨rfl, rfl, rfl, rfl⟩) ?_ ?_ c.shared.so.isAccepted <;> split
    · exact sendGuard_weighs data args
    · exact ⟨rfl, rfl, rfl, rfl⟩
    · exact sendGuard_carries data args
    · trivial
  | lock call k _ | lockFailed call k _ => exact h.step_lock hl hs
  | native call k q r => exact h.step_native hl r
  | unlock call k r _ | unlockFailed call k r _ => exact h.step_unlock hl hs
  | closeDeferred q call k r =>
    exact h.step_closeSocket (hl ▸ ⟨rfl, rfl, rfl, rfl⟩) hcarries (resume_weighs call r k)
      (resume_carries call r k)
  | sendWrite data args r =>
    exact h.outside (hl ▸ ⟨rfl, rfl, rfl, rfl⟩) (sendGuard_weighs data args)
      (sendGuard_carries data args) r
  | setClosed => exact h.step_setClosed hl
  | closeBlock _ | closeBlockFailed _ => exact h.step_closeBlock hl hs
  | closeSocket q =>
    exact h.step_closeSocket (hl ▸ ⟨rfl, rfl, rfl, rfl⟩) hcarries ⟨rfl, rfl, rfl, rfl⟩ trivial

theorem Inv.init (h : (protocol T).init c) : ∃ ptr, Inv ptr c := by
  obtain ⟨⟨hlog, ptr, localPort, hso⟩, hidle⟩ := h
  have hzero : ∀ f : Pc → Nat, f (.idle none) = 0 → c.total f = 0 := fun f hf =>
    Config.total_eq_zero fun t => by rw [hidle, hf]
  have hheld := hzero Pc.held rfl
  simp only [SctpSocket.create] at hso
  split at hso
  · cases hso
  rename_i hptr
  injection hso with hso
  refine ⟨ptr, ?_, hptr, .inl (by rw [← hso]), ?_, ?_, ?_, fun t => ?_, ?_⟩
  · simp only [view, hheld, hzero Pc.closing rfl, hzero Pc.token rfl, hlog, ← hso]
    exact ⟨by simp [closeCount, hptr], by simp [hptr], by simp, by simp⟩
  · simp only [hheld, ← hso]; rfl
  · simp [hlog, ← hso, WasClosed]
  · simp [hlog]
  · rw [hidle, hlog]; exact ⟨by simp [Holds, Pc.held], trivial⟩
  · rw [hlog]; trivial

/-- The invariant along every interleaving. -/
theorem reachable_inv (h : (protocol T).Reachable c) : ∃ ptr, Inv ptr c := by
  refine h.invariant (P := fun c => ∃ ptr, Inv ptr c) (fun _ => Inv.init) ?_
  rintro c ⟨t, a⟩ c' ⟨ptr, hinv⟩ hs
  exact ⟨ptr, hinv.exec hs⟩

/-- `Sctp.closeSocket` is invoked at most once, never inside a reader's bracket, and no native
call follows it; a `lockPtr` after the write of `closed` fails; `unlockPtr` is balanced; and when
every thread has left its method after a `closeNative`, the socket is closed. -/
theorem socket_closed_once_and_unused (h : (protocol T).Reachable c) :
    closeCount c.shared.log ≤ 1 ∧
    (∀ later earlier t q, c.shared.log = later ++ .closeSocket t q :: earlier →
      (∀ u, ¬ Holds u earlier) ∧ ∀ u call q', .native u call q' ∉ later) ∧
    (∀ later earlier t, c.shared.log = later ++ .lockPtr t true :: earlier →
      ¬ WasClosed earlier) ∧
    (∀ t, .unlockPtr t false ∉ c.shared.log) ∧
    ((∀ t, (c.thread t).isIdle = true) → (∃ t, .call t .closeNative ∈ c.shared.log) →
      closeCount c.shared.log = 1) := by
  obtain ⟨ptr, h⟩ := reachable_inv h
  refine ⟨?_, fun later earlier t q hlog => ?_, fun later earlier t hlog => ?_, fun t ht => ?_,
    fun hidle hcalled => ?_⟩
  · have := h.lifetime.once
    simp only [view] at this
    omega
  · have hall := hlog ▸ h.allowed
    refine ⟨hall.of_append.2.1, fun u call q' hmem => ?_⟩
    obtain ⟨l₁, l₂, rfl⟩ := List.append_of_mem hmem
    rw [List.append_assoc] at hall
    have hnone : closeCount (l₂ ++ .closeSocket t q :: earlier) = 0 := hall.of_append.2.2
    have hsome : 0 < closeCount (l₂ ++ .closeSocket t q :: earlier) :=
      closeCount_pos_of_mem (List.mem_append_right _ List.mem_cons_self)
    omega
  · have hall := hlog ▸ h.allowed
    exact hall.of_append rfl
  · obtain ⟨later, earlier, hlog⟩ := List.append_of_mem ht
    have hall := hlog ▸ h.allowed
    exact nomatch hall.of_append
  · have hzero : ∀ f : Pc → Nat, (∀ last, f (.idle last) = 0) → c.total f = 0 := fun f hf =>
      Config.total_eq_zero fun t => by
        have := hidle t
        cases hl : c.thread t <;> simp_all [Pc.isIdle]
    have hclosed : c.shared.so.closed = true := by
      rcases h.called hcalled with hc | hc
      · exact hc
      · rw [hzero Pc.calling fun _ => rfl] at hc; omega
    exact h.lifetime.settled hclosed (hzero Pc.held fun _ => rfl) (hzero Pc.closing fun _ => rfl)
      (hzero Pc.token fun _ => rfl)

end

/-- A closer meets a reader inside its bracket: the reader closes the socket on its way out. -/
theorem reader_closes_for_closer : ∃ c : Config (Fin 2) (Shared (Fin 2)) Pc,
    (protocol (Fin 2)).Reachable c ∧ closeCount c.shared.log = 1 := by
  have hstart : (protocol (Fin 2)).Reachable
      ⟨{ so := { ptr := 7, localPort := 9899 } }, fun _ => .idle none⟩ :=
    .init ⟨⟨rfl, 7, 9899, rfl⟩, fun _ => rfl⟩
  obtain ⟨c, hc, hidle, hcalled⟩ := hstart.exists_run
    (P := fun c => (∀ t, (c.thread t).isIdle = true) ∧ .call 1 .closeNative ∈ c.shared.log)
    [(0, .call .acceptNative), (0, .go), (1, .call .closeNative), (1, .go), (1, .go),
      (0, .result (.ok 1)), (0, .go), (0, .go)] (by decide)
  exact ⟨c, hc, (socket_closed_once_and_unused hc).2.2.2.2 hidle ⟨1, hcalled⟩⟩

end Sctp4Nat.PtrProtocol
