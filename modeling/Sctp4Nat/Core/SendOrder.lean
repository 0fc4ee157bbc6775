import Sctp4Nat.Machine.WorkerPool
import Sctp4Nat.Origin.PtrProtocol

/-! # `SctpChannel.send` and the thread pool

`send` does not call `sendNative` itself: it submits a task to the fixed-size pool of
`SctpUtils`, one task for each call, and a worker calls `sendNative` in it. The workers run the
pointer protocol of the channel's socket together with any number of other threads (`E`) that use
the socket directly.

The pool is an instance of `WorkerPool`: the effect of a task is its call of `usrsctp_send`.
Ordered sends on one stream clash. -/

namespace Sctp4Nat.SendOrder

open PtrProtocol (SendArgs NativeCall Cont Pc Event Shared protocol)

structure SctpDefaultStreamConfig where
  sid : Int32 := 0
  ppid : Int32 := 0
  ordered : Bool := false

/-- A call of one of the overloads of `send`; `data` may be `null`. -/
inductive SendCall
  | whole (data : Option Bytes) (ordered : Bool) (sid ppid : Int32)
  | range (data : Option Bytes) (offset len : Int32) (ordered : Bool) (sid ppid : Int32)
  | rangeConfig (data : Option Bytes) (offset len : Int32) (config : SctpDefaultStreamConfig)
  | wholeConfig (data : Option Bytes) (config : SctpDefaultStreamConfig)

/-- The arguments with which the task of a call enters `sendNative`. Without `data` the task
ends with a `NullPointerException` either way, before the call or inside. -/
def SendCall.args : SendCall → SendArgs
  | .whole data ordered sid ppid =>
    ⟨data, 0, Int32.ofNat (data.elim 0 List.length), ordered, sid, ppid⟩
  | .range data offset len ordered sid ppid => ⟨data, offset, len, ordered, sid, ppid⟩
  | .rangeConfig data offset len config =>
    ⟨data, offset, len, config.ordered, config.sid, config.ppid⟩
  | .wholeConfig data config =>
    ⟨data, 0, Int32.ofNat (data.elim 0 List.length), config.ordered, config.sid, config.ppid⟩

structure State (W E : Type*) where
  config : Config (W ⊕ E) (Shared (W ⊕ E)) Pc
  pool : WorkerPool W SendArgs

/-- The caller thread calls `send`; a worker takes a task, acts in it or ends it; or another
thread acts on the socket. -/
inductive Choice (W E : Type*)
  | send (call : SendCall)
  | take (w : W)
  | work (w : W) (a : PtrProtocol.Choice)
  | finish (w : W)
  | other (e : E) (a : PtrProtocol.Choice)

/-- In the native call `usrsctp_send`. -/
def isSend : Pc → Bool
  | .native (.usrsctpSend ..) .. => true
  | _ => false

variable {W E : Type*} [DecidableEq W] [DecidableEq E]

def exec (s : State W E) : Choice W E → Option (State W E)
  | .send call => (s.pool.exec (.submit call.args)).map fun pool => { s with pool }
  | .take w =>
    match s.config.thread (.inl w), s.pool.queue with
    | .idle _, p :: _ =>
      ((protocol (W ⊕ E)).exec s.config (.inl w, .call (.sendNative p.task))).bind fun config =>
        (s.pool.exec (.take w)).map fun pool => ⟨config, pool⟩
    | _, _ => none
  | .work _ (.call _) => none
  | .work w a =>
    ((protocol (W ⊕ E)).exec s.config (.inl w, a)).bind fun config =>
      if isSend (s.config.thread (.inl w)) then
        (s.pool.exec (.perform w)).map fun pool => ⟨config, pool⟩
      else some { s with config }
  | .finish w =>
    match s.config.thread (.inl w) with
    | .idle _ => (s.pool.exec (.drop w)).map fun pool => { s with pool }
    | _ => none
  | .other e a =>
    ((protocol (W ⊕ E)).exec s.config (.inr e, a)).map fun config => { s with config }

/-- A channel with a fresh socket and an idle pool. -/
def channel (W E : Type*) [DecidableEq W] [DecidableEq E] :
    Machine (State W E) (Choice W E) where
  init s := (protocol (W ⊕ E)).init s.config ∧ s.pool = .empty W SendArgs
  exec := exec

/-- Two ordered sends on one stream. -/
def Clash (a b : SendArgs) : Prop := a.ordered = true ∧ b.ordered = true ∧ a.sid = b.sid

instance : DecidableRel Clash := fun _ _ => inferInstanceAs (Decidable (_ ∧ _))

theorem Clash.symm (h : Clash a b) : Clash b a := ⟨h.2.1, h.1, h.2.2.symm⟩

/-- An ordered `send` is called only when no earlier ordered one on its stream is still on the
way to `usrsctp_send`. -/
def Waits (s : State W E) : Choice W E → Prop
  | .send call => s.pool.Waits Clash (.submit call.args)
  | _ => True

instance [Fintype W] (s : State W E) (i : Choice W E) : Decidable (Waits s i) :=
  match i with
  | .send call => inferInstanceAs (Decidable
      ((∀ p ∈ s.pool.queue, ¬ Clash p.task call.args) ∧
        ∀ w, ∀ p ∈ s.pool.held w, ¬ Clash p.task call.args))
  | .take _ | .work .. | .finish _ | .other .. => isTrue trivial

instance [Fintype W] (s : WorkerPool W SendArgs) (op : WorkerPool.Op W SendArgs) :
    Decidable (s.Waits Clash op) :=
  match op with
  | .submit a => inferInstanceAs (Decidable
      ((∀ p ∈ s.queue, ¬ Clash p.task a) ∧ ∀ w, ∀ p ∈ s.held w, ¬ Clash p.task a))
  | .take _ | .perform _ | .drop _ => isTrue trivial

/-! ## The steps -/

/-- What a step does to the pool and to the socket, with the step of a worker that makes its
native call apart from the others. -/
theorem exec_cases {s s' : State W E} {i : Choice W E} (h : exec s i = some s') :
    (∃ call, i = .send call ∧ s.pool.exec (.submit call.args) = some s'.pool ∧
      s'.config = s.config) ∨
    (∃ w p, i = .take w ∧ s.pool.queue.head? = some p ∧
      s.pool.exec (.take w) = some s'.pool ∧
      (protocol (W ⊕ E)).exec s.config (.inl w, .call (.sendNative p.task)) = some s'.config) ∨
    (∃ w a, (∀ m, a ≠ .call m) ∧
      (protocol (W ⊕ E)).exec s.config (.inl w, a) = some s'.config ∧
      if isSend (s.config.thread (.inl w)) then s.pool.exec (.perform w) = some s'.pool
      else s'.pool = s.pool) ∨
    (∃ w, (s.config.thread (.inl w)).isIdle = true ∧
      s.pool.exec (.drop w) = some s'.pool ∧ s'.config = s.config) ∨
    (∃ e a, (protocol (W ⊕ E)).exec s.config (.inr e, a) = some s'.config ∧
      s'.pool = s.pool) := by
  cases i with
  | send call =>
    cases h
    exact .inl ⟨call, rfl, rfl, rfl⟩
  | take w =>
    simp only [exec] at h
    split at h
    · rename_i heq
      obtain ⟨config, hc, h⟩ := Option.bind_eq_some_iff.mp h
      obtain ⟨pool, hp, rfl⟩ := Option.map_eq_some_iff.mp h
      exact .inr (.inl ⟨w, _, rfl, by rw [heq]; rfl, hp, hc⟩)
    · cases h
  | work w a =>
    refine .inr (.inr (.inl ⟨w, a, ?_⟩))
    have ha : ∀ m, a ≠ .call m := by
      rintro m rfl; cases h
    have h : ((protocol (W ⊕ E)).exec s.config (.inl w, a)).bind (fun config =>
        if isSend (s.config.thread (.inl w)) then
          (s.pool.exec (.perform w)).map fun pool => ⟨config, pool⟩
        else some { s with config }) = some s' := by
      cases a with
      | call m => exact absurd rfl (ha m)
      | result | go => exact h
    obtain ⟨config, hc, h⟩ := Option.bind_eq_some_iff.mp h
    split at h
    · obtain ⟨pool, hp, rfl⟩ := Option.map_eq_some_iff.mp h
      exact ⟨ha, hc, by rwa [if_pos ‹_›]⟩
    · cases h
      exact ⟨ha, hc, by rw [if_neg ‹_›]⟩
  | finish w =>
    simp only [exec] at h
    split at h
    · rename_i heq
      obtain ⟨pool, hp, rfl⟩ := Option.map_eq_some_iff.mp h
      exact .inr (.inr (.inr (.inl ⟨w, by rw [heq]; rfl, hp, rfl⟩)))
    · cases h
  | other e a =>
    obtain ⟨config, hc, rfl⟩ := Option.map_eq_some_iff.mp h
    exact .inr (.inr (.inr (.inr ⟨e, a, hc, rfl⟩)))

/-- The channel runs its pool, and waiting callers are waiting submitters. -/
theorem pool_simulation [Fintype W] :
    Machine.Simulation ((channel W E).restrict Waits)
      ((WorkerPool.machine W SendArgs).restrict (WorkerPool.Waits Clash)) State.pool where
  init h := h.2
  step h := by
    obtain ⟨hw, h⟩ := Machine.restrict_exec_iff.mp h
    rcases exec_cases h with ⟨call, rfl, hp, _⟩ | ⟨w, p, _, _, hp, _⟩ | ⟨w, a, _, _, hp⟩ |
      ⟨w, _, hp, _⟩ | ⟨e, a, _, hp⟩
    · exact .inr ⟨.submit call.args, Machine.restrict_exec_iff.mpr ⟨hw, hp⟩⟩
    · exact .inr ⟨.take w, Machine.restrict_exec_iff.mpr ⟨trivial, hp⟩⟩
    · split at hp
      · exact .inr ⟨.perform w, Machine.restrict_exec_iff.mpr ⟨trivial, hp⟩⟩
      · exact .inl hp
    · exact .inr ⟨.drop w, Machine.restrict_exec_iff.mpr ⟨trivial, hp⟩⟩
    · exact .inl hp

/-- The threads of the channel keep to the pointer protocol of its socket. -/
theorem protocol_simulation :
    Machine.Simulation (channel W E) (protocol (W ⊕ E)) State.config where
  init h := h.1
  step h := by
    rcases exec_cases h with ⟨_, _, _, hc⟩ | ⟨w, p, _, _, _, hc⟩ | ⟨w, a, _, hc, _⟩ |
      ⟨w, _, _, hc⟩ | ⟨e, a, hc, _⟩
    · exact .inl hc
    · exact .inr ⟨_, hc⟩
    · exact .inr ⟨_, hc⟩
    · exact .inl hc
    · exact .inr ⟨_, hc⟩

/-! ## Tasks and native calls -/

/-- The call of `usrsctp_send` that a task makes. -/
def nativeCall (a : SendArgs) : NativeCall :=
  .usrsctpSend (a.data.getD []) a.offset a.len a.ordered a.sid a.ppid

/-- A `usrsctp_send` of a worker. -/
def workerSend : Event (W ⊕ E) → Option NativeCall
  | .native (.inl _) (.usrsctpSend data off len ordered sid ppid) _ =>
    some (.usrsctpSend data off len ordered sid ppid)
  | _ => none

/-- The `usrsctp_send` calls of the workers, in the order in which they were made. -/
def workerSends (log : List (Event (W ⊕ E))) : List NativeCall :=
  (log.filterMap workerSend).reverse

/-- A bracket of `sendNative` before its native call, in a worker that holds `held`: the accept
at the start, or the call of the task. -/
def BeforeCall (held : Option SendArgs) (call : NativeCall) : Cont → Prop
  | .send data a => call = .usrsctpAccept ∧ held = some a ∧ a.data = some data
  | .ret => ∃ a, held = some a ∧ call = nativeCall a

/-- A bracket of `sendNative` after its native call. -/
def AfterCall (held : Option SendArgs) (call : NativeCall) : Cont → Prop
  | .send data a => call = .usrsctpAccept ∧ held = some a ∧ a.data = some data
  | .ret => held = none

/-- Where a worker can be that holds `held`. -/
def Runs (held : Option SendArgs) : Pc → Prop
  | .idle _ => True
  | .sendTest data a | .sendWrite data a _ => held = some a ∧ a.data = some data
  | .lock call k | .native call k _ => BeforeCall held call k
  | .unlock call k _ | .closeDeferred _ call k _ => AfterCall held call k
  | _ => False

theorem runs_enter (a : SendArgs) : Runs (some a) (PtrProtocol.Method.sendNative a).enter := by
  simp only [PtrProtocol.Method.enter]
  split
  · trivial
  · exact ⟨rfl, ‹_›⟩

theorem runs_sendGuard (h : a.data = some data) : Runs (some a) (PtrProtocol.sendGuard data a) := by
  unfold PtrProtocol.sendGuard
  split
  · trivial
  · exact ⟨a, rfl, by simp [nativeCall, h]⟩

theorem runs_resume (hr : AfterCall p call k) : Runs p (k.resume call r) := by
  cases r with
  | error e => cases k <;> trivial
  | ok r =>
    cases k with
    | ret => trivial
    | send data a => exact hr.2

/-- A worker stays with its task until it has made the call, and afterwards holds none. -/
theorem runs_step (hs : PtrProtocol.step t s l i = some (s', l')) (hi : ∀ m, i ≠ .call m)
    (hr : Runs p l) : Runs (if isSend l then none else p) l' := by
  cases PtrProtocol.steps_of_step hs with
  | call last m => exact absurd rfl (hi m)
  | sendTest data a =>
    obtain ⟨rfl, hdata⟩ := hr
    by_cases hacc : s.so.isAccepted = true
    · rw [if_pos hacc]; exact runs_sendGuard hdata
    · rw [if_neg hacc]; exact ⟨rfl, rfl, hdata⟩
  | lock call k _ => exact hr
  | native call k ptr r =>
    cases k with
    | ret => obtain ⟨a, _, rfl⟩ := hr; rfl
    | send data a => obtain ⟨rfl, hr⟩ := hr; exact ⟨rfl, hr⟩
  | unlock call k r _ =>
    rw [if_neg (by simp [isSend])]
    split
    · exact runs_resume hr
    · exact hr
  | lockFailed | unlockFailed => trivial
  | closeDeferred ptr call k r => exact runs_resume hr
  | sendWrite data a r =>
    obtain ⟨rfl, hdata⟩ := hr
    exact runs_sendGuard hdata
  | listenReset | setClosed | closeBlock | closeBlockFailed | closeSocket => exact hr.elim

/-- A step records at most one event, its own, and a native call only from inside it. -/
theorem log_of_step {T : Type*} {t : T} {s s' : Shared T}
    (hs : PtrProtocol.step t s l i = some (s', l')) :
    s'.log = s.log ∨ ∃ e, e.thread = t ∧ s'.log = e :: s.log ∧
      ∀ call q, e = .native t call q → ∃ k, l = .native call k q := by
  cases PtrProtocol.steps_of_step hs with
  | native call k ptr r => exact .inr ⟨_, rfl, rfl, fun _ _ h => by cases h; exact ⟨k, rfl⟩⟩
  | call | lock | lockFailed | unlock | unlockFailed | closeDeferred | setClosed | closeSocket =>
    exact .inr ⟨_, rfl, rfl, fun _ _ h => by cases h⟩
  | listenReset | sendTest | sendWrite | closeBlock | closeBlockFailed => exact .inl rfl

omit [DecidableEq W] [DecidableEq E] in
theorem workerSends_cons (e : Event (W ⊕ E)) (log : List (Event (W ⊕ E))) :
    workerSends (e :: log) = workerSends log ++ (workerSend e).toList := by
  unfold workerSends
  rw [List.filterMap_cons]
  cases workerSend e <;> simp

omit [DecidableEq W] [DecidableEq E] in
/-- Only a worker inside `usrsctp_send` adds to the calls. -/
theorem workerSends_step {t : W ⊕ E} {s s' : Shared (W ⊕ E)}
    (hs : PtrProtocol.step t s l i = some (s', l')) (ht : ∀ w, t = .inl w → isSend l = false) :
    workerSends s'.log = workerSends s.log := by
  rcases log_of_step hs with hlog | ⟨e, he, hlog, hnative⟩
  · rw [hlog]
  · have hnone : workerSend e = none := by
      cases e with
      | native u call q =>
        obtain ⟨k, rfl⟩ := hnative call q (by rw [← he]; rfl)
        cases u with
        | inl w => have := ht w he.symm; cases call <;> first | rfl | cases this
        | inr e => rfl
      | _ => rfl
    rw [hlog, workerSends_cons, hnone]
    exact List.append_nil _

omit [DecidableEq W] [DecidableEq E] in
theorem workerSends_send {w : W} {s s' : Shared (W ⊕ E)}
    (hs : PtrProtocol.step (.inl w) s (.native (nativeCall a) k ptr) i = some (s', l')) :
    workerSends s'.log = workerSends s.log ++ [nativeCall a] := by
  cases i with
  | call | go => cases hs
  | result r => cases hs; exact workerSends_cons ..

theorem runs_native (hr : Runs p l) (hl : isSend l = true) :
    ∃ a ptr, p = some a ∧ l = .native (nativeCall a) .ret ptr := by
  cases l with
  | native call k ptr =>
    cases k with
    | ret => obtain ⟨a, rfl, rfl⟩ := hr; exact ⟨a, ptr, rfl, rfl⟩
    | send data a => obtain ⟨rfl, _⟩ := hr; cases hl
  | _ => cases hl

/-- The pool and the threads agree: on what each worker is at, and on the calls made. -/
structure Linked (s : State W E) : Prop where
  runs : ∀ w, Runs ((s.pool.held w).map Numbered.task) (s.config.thread (.inl w))
  calls : workerSends s.config.shared.log = s.pool.performed.map fun p => nativeCall p.task

variable {s s' : State W E}

theorem Linked.take (h : Linked s) (hp : s.pool.queue.head? = some p)
    (hpool : s.pool.exec (.take w) = some s'.pool)
    (hc : (protocol (W ⊕ E)).exec s.config (.inl w, .call (.sendNative p.task)) =
      some s'.config) : Linked s' := by
  obtain ⟨sh, l, hs, hconfig⟩ := threads_exec.mp hc
  obtain ⟨q, rest, hq, hpool⟩ := WorkerPool.exec_take hpool
  rw [hq] at hp
  cases hp
  have hidle : isSend (s.config.thread (.inl w)) = false := by
    cases hl : s.config.thread (.inl w) <;> rw [hl] at hs <;> first | rfl | cases hs
  have hl : l = (PtrProtocol.Method.sendNative p.task).enter := by
    cases hl : s.config.thread (.inl w) <;> rw [hl] at hs <;> cases hs
    rfl
  refine ⟨fun u => ?_, ?_⟩
  · rw [hconfig, hpool]
    rcases eq_or_ne u w with rfl | hne
    · rw [Config.set_thread_self, hl]
      simpa using runs_enter p.task
    · rw [Config.set_thread_of_ne _ (by simpa using hne)]
      simpa [Function.update_of_ne hne] using h.runs u
  · rw [hconfig, hpool]
    exact (workerSends_step hs (fun _ _ => hidle)).trans h.calls

theorem Linked.work (h : Linked s) (ha : ∀ m, a ≠ .call m)
    (hc : (protocol (W ⊕ E)).exec s.config (.inl w, a) = some s'.config)
    (hpool : if isSend (s.config.thread (.inl w)) then s.pool.exec (.perform w) = some s'.pool
      else s'.pool = s.pool) : Linked s' := by
  obtain ⟨sh, l, hs, hconfig⟩ := threads_exec.mp hc
  have hruns := runs_step hs ha (h.runs w)
  by_cases hsend : isSend (s.config.thread (.inl w)) = true
  · rw [if_pos hsend] at hpool hruns
    obtain ⟨p, hp, hpool⟩ := Option.map_eq_some_iff.mp hpool
    obtain ⟨b, ptr, hb, hl⟩ := runs_native (h.runs w) hsend
    rw [hp] at hb
    cases hb
    refine ⟨fun u => ?_, ?_⟩
    · rw [hconfig, ← hpool]
      rcases eq_or_ne u w with rfl | hne
      · rw [Config.set_thread_self]; simpa using hruns
      · rw [Config.set_thread_of_ne _ (by simpa using hne)]
        simpa [Function.update_of_ne hne] using h.runs u
    · rw [hl] at hs
      rw [hconfig, ← hpool, Config.set_shared, workerSends_send hs, h.calls]
      simp
  · rw [if_neg hsend] at hpool hruns
    refine ⟨fun u => ?_, ?_⟩
    · rw [hconfig, hpool]
      rcases eq_or_ne u w with rfl | hne
      · rw [Config.set_thread_self]; exact hruns
      · rw [Config.set_thread_of_ne _ (by simpa using hne)]; exact h.runs u
    · rw [hconfig, hpool, Config.set_shared]
      exact (workerSends_step hs fun _ _ => by simpa using hsend).trans h.calls

theorem Linked.exec (h : Linked s) {i : Choice W E} (he : exec s i = some s') : Linked s' := by
  rcases exec_cases he with ⟨call, _, hp, hc⟩ | ⟨w, p, _, hq, hp, hc⟩ | ⟨w, a, ha, hc, hp⟩ |
    ⟨w, hidle, hp, hc⟩ | ⟨e, a, hc, hp⟩
  · have hp := Option.some.inj hp
    refine ⟨fun w => ?_, ?_⟩
    · rw [← hp, hc]; exact h.runs w
    · rw [← hp, hc]; exact h.calls
  · exact h.take hq hp hc
  · exact h.work ha hc hp
  · obtain ⟨p, _, hp⟩ := Option.map_eq_some_iff.mp hp
    refine ⟨fun u => ?_, by rw [← hp, hc]; exact h.calls⟩
    rw [← hp, hc]
    rcases eq_or_ne u w with rfl | hne
    · cases hl : s.config.thread (.inl u) <;> rw [hl] at hidle <;> trivial
    · simpa [Function.update_of_ne hne] using h.runs u
  · obtain ⟨sh, l, hs, hconfig⟩ := threads_exec.mp hc
    refine ⟨fun u => ?_, ?_⟩
    · rw [hconfig, hp, Config.set_thread_of_ne _ (by simp)]; exact h.runs u
    · rw [hconfig, hp, Config.set_shared]
      exact (workerSends_step hs fun _ h => by cases h).trans h.calls

theorem Linked.init (h : (channel W E).init s) : Linked s := by
  obtain ⟨⟨⟨hlog, _⟩, hidle⟩, hpool⟩ := h
  refine ⟨fun w => ?_, ?_⟩
  · rw [hidle]; trivial
  · rw [hlog, hpool]; rfl

theorem reachable_linked (h : (channel W E).Reachable s) : Linked s :=
  h.invariant (fun _ => Linked.init) fun _ _ _ hlinked hs => hlinked.exec hs

/-- The numbers of the ordered sends on a stream, in the order of their `usrsctp_send` calls. -/
def State.orderOn (s : State W E) (sid : Int32) : List Nat :=
  (s.pool.performed.filter fun p => p.task.ordered && p.task.sid = sid).map Numbered.index

/-- When every ordered `send` is called with no earlier one of its stream under way, the workers
make the `usrsctp_send` calls of a stream in the order of the `send` calls. -/
theorem ordered_sends_in_order [Fintype W] (h : ((channel W E).restrict Waits).Reachable s) :
    (workerSends s.config.shared.log = s.pool.performed.map fun p => nativeCall p.task) ∧
      ∀ sid, (s.orderOn sid).Pairwise (· < ·) := by
  have horder := WorkerPool.in_order (fun _ _ => Clash.symm) (pool_simulation.reachable h)
  refine ⟨(reachable_linked h.of_restrict).calls, fun sid => ?_⟩
  refine List.pairwise_map.mpr ((horder.sublist List.filter_sublist).imp_of_mem ?_)
  intro p q hp hq hpq
  simp only [List.mem_filter, Bool.and_eq_true, decide_eq_true_eq] at hp hq
  exact hpq ⟨hp.2.1, hq.2.1, hp.2.2.trans hq.2.2.symm⟩

/-- The second send waits for the first. -/
theorem waiting_sends_in_order : ∃ s : State (Fin 2) (Fin 0),
    ((channel (Fin 2) (Fin 0)).restrict Waits).Reachable s ∧ s.pool.performed.length = 2 ∧
      (s.orderOn 3).Pairwise (· < ·) := by
  let call : SendCall := .whole (some [104]) true 3 0
  have hstart : ((channel (Fin 2) (Fin 0)).restrict Waits).Reachable
      ⟨⟨{ so := { ptr := 7, localPort := 9899 } }, fun _ => .idle none⟩, .empty _ _⟩ :=
    .init ⟨⟨⟨rfl, 7, 9899, rfl⟩, fun _ => rfl⟩, rfl⟩
  obtain ⟨s, hs, hlen⟩ := hstart.exists_run (P := fun s => s.pool.performed.length = 2)
    [.send call, .take 0, .work 0 .go, .work 0 .go, .work 0 (.result (.ok 1)), .work 0 .go,
      .work 0 .go, .work 0 .go, .work 0 (.result (.ok 1)), .send call, .take 1, .work 1 .go,
      .work 1 .go, .work 1 (.result (.ok 1))] (by decide)
  exact ⟨s, hs, hlen, (ordered_sends_in_order hs).2 3⟩

/-- Two ordered sends on stream `3`: the worker of the first is overtaken before its native
call. -/
theorem ordered_sends_overtaken : ∃ s : State (Fin 2) (Fin 0),
    (channel (Fin 2) (Fin 0)).Reachable s ∧ s.orderOn 3 = [1, 0] ∧
      ¬ (s.orderOn 3).Pairwise (· < ·) := by
  let call : SendCall := .whole (some [104]) true 3 0
  have hstart : (channel (Fin 2) (Fin 0)).Reachable
      ⟨⟨{ so := { ptr := 7, localPort := 9899 } }, fun _ => .idle none⟩, .empty _ _⟩ :=
    .init ⟨⟨⟨rfl, 7, 9899, rfl⟩, fun _ => rfl⟩, rfl⟩
  obtain ⟨s, hs, horder⟩ := hstart.exists_run (P := fun s => s.orderOn 3 = [1, 0])
    [.send call, .send call, .take 0, .take 1, .work 0 .go, .work 0 .go, .work 0 (.result (.ok 1)),
      .work 0 .go, .work 0 .go, .work 0 .go, .work 1 .go, .work 1 .go, .work 1 (.result (.ok 1)),
      .work 0 (.result (.ok 1))] (by decide)
  refine ⟨s, hs, horder, ?_⟩
  rw [horder]
  decide

end Sctp4Nat.SendOrder
