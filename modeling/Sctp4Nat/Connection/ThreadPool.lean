import Mathlib.Data.Fintype.Card
import Sctp4Nat.Connection.OpenLinks
import Sctp4Nat.Machine.Progress

/-! # The thread pool

`SctpUtils` has one fixed pool. The receive loop of every link runs there until the link is closed,
and so do the tasks of `close`, of `send`, of `shutdownAll` and the `SctpTimeoutThread`: what is to
end a receive loop waits in the same queue behind the loops.

The queue goes on exactly as long as a worker is left that serves no open link
(`task_started_iff`). Once all workers do, no task is taken any more, unless a thread outside of
the pool closes a link or a datagram ends a loop (`starved`); as many links as there are workers
are enough for that (`pool_starves`). -/

namespace Sctp4Nat.ThreadPool

open World (Op loopRuns closesLink)

variable {W : Type*}

/-- A receive loop, or a task that performs some operations and ends. -/
inductive Task
  | receive (l : LinkId)
  | run (ops : List Op)

structure Pool (W : Type*) where
  world : World
  queue : List Task
  /-- What a worker is busy with. -/
  worker : W → Option Task

/-- A thread outside of the pool performs an operation, or submits a task; a worker takes the next
task, performs an operation of its task or ends it, gets a datagram in its receive loop, or leaves
the loop. -/
inductive Choice (W : Type*)
  | direct (op : Op)
  | execute (ops : List Op)
  | take (t : W)
  | step (t : W)
  | datagram (t : W) (op : Op)
  | leave (t : W)

/-- The operations that are not the receive loops' own. -/
def isCall (op : Op) : Bool := op.datagram.isNone

/-- The operations that the library performs in the calling thread. -/
def isDirect : Op → Bool
  | .closeTask _ => false
  | op => isCall op

/-- The link whose loop gets the datagram. -/
def link : Op → Option LinkId
  | .serverDatagram l .. | .clientDatagram l .. => some l
  | _ => none

/-- The receive loops that an operation submits; a constructor that gets no UDP socket throws
before. -/
def receives (w : World) : Op → List Task
  | .newServerLink .. => [.receive w.nextLink]
  | .newClientLink _ _ c bound =>
    if c < w.nextChannel ∧ bound = true then [.receive w.nextLink] else []
  | _ => []

variable [DecidableEq W]

def exec (s : Pool W) : Choice W → Option (Pool W)
  | .direct op =>
    if isDirect op then
      (World.exec s.world op).map fun world =>
        { s with world, queue := s.queue ++ receives s.world op }
    else none
  | .execute ops => some { s with queue := s.queue ++ [.run ops] }
  | .take t =>
    match s.worker t, s.queue with
    | none, task :: queue =>
      some { s with queue, worker := Function.update s.worker t (some task) }
    | _, _ => none
  | .step t =>
    match s.worker t with
    | some (.run []) => some { s with worker := Function.update s.worker t none }
    | some (.run (op :: ops)) =>
      let worker := Function.update s.worker t (some (.run ops))
      match if isCall op then World.exec s.world op else none with
      | some world => some { world, queue := s.queue ++ receives s.world op, worker }
      | none => some { s with worker }
    | _ => none
  | .datagram t op =>
    match s.worker t with
    | some (.receive l) =>
      if link op = some l then
        (World.exec s.world op).map fun world => { s with world }
      else none
    | _ => none
  | .leave t =>
    match s.worker t with
    | some (.receive l) =>
      if loopRuns s.world l then none
      else some { s with worker := Function.update s.worker t none }
    | _ => none

def pool (W : Type*) [DecidableEq W] : Machine (Pool W) (Choice W) where
  init s := s = ⟨.empty, [], fun _ => none⟩
  exec := exec

/-- The steps, with their guards. -/
inductive Steps (s : Pool W) : Choice W → Pool W → Prop
  | direct : isDirect op = true → World.exec s.world op = some world →
      Steps s (.direct op) { s with world, queue := s.queue ++ receives s.world op }
  | execute : Steps s (.execute ops) { s with queue := s.queue ++ [.run ops] }
  | take : s.worker t = none → s.queue = task :: queue →
      Steps s (.take t) { s with queue, worker := Function.update s.worker t (some task) }
  | finish : s.worker t = some (.run []) →
      Steps s (.step t) { s with worker := Function.update s.worker t none }
  | perform : s.worker t = some (.run (op :: ops)) → World.exec s.world op = some world →
      Steps s (.step t) { s with
        world
        queue := s.queue ++ receives s.world op
        worker := Function.update s.worker t (some (.run ops)) }
  | skip : s.worker t = some (.run (op :: ops)) →
      Steps s (.step t) { s with worker := Function.update s.worker t (some (.run ops)) }
  | datagram : s.worker t = some (.receive l) → link op = some l →
      World.exec s.world op = some world → Steps s (.datagram t op) { s with world }
  | leave : s.worker t = some (.receive l) → loopRuns s.world l = false →
      Steps s (.leave t) { s with worker := Function.update s.worker t none }

theorem steps_of_exec {s s' : Pool W} {i : Choice W} (h : exec s i = some s') : Steps s i s' := by
  cases i with
  | direct op =>
    simp only [exec, Option.ite_none_right_eq_some, Option.map_eq_some_iff] at h
    obtain ⟨hop, world, hw, rfl⟩ := h
    exact .direct hop hw
  | execute ops =>
    cases h
    exact .execute
  | take t =>
    simp only [exec] at h
    split at h
    · cases h
      exact .take ‹_› ‹_›
    · cases h
  | step t =>
    match ht : s.worker t with
    | none | some (.receive l) => simp [exec, ht] at h
    | some (.run []) =>
      simp only [exec, ht, Option.some.injEq] at h
      exact h ▸ .finish ht
    | some (.run (op :: ops)) =>
      simp only [exec, ht] at h
      split at h
      · rename_i world hw
        rw [Option.ite_none_right_eq_some] at hw
        cases h
        exact .perform ht hw.2
      · cases h
        exact .skip ht
  | datagram t op =>
    match ht : s.worker t with
    | none | some (.run ops) => simp [exec, ht] at h
    | some (.receive l) =>
      simp only [exec, ht, Option.ite_none_right_eq_some, Option.map_eq_some_iff] at h
      obtain ⟨hl, world, hw, rfl⟩ := h
      exact .datagram ht hl hw
  | leave t =>
    match ht : s.worker t with
    | none | some (.run ops) => simp [exec, ht] at h
    | some (.receive l) =>
      simp only [exec, ht, Option.ite_none_left_eq_some, Bool.not_eq_true,
        Option.some.injEq] at h
      obtain ⟨hl, rfl⟩ := h
      exact .leave ht hl

/-- The pool only delays what the program does. -/
theorem pool_simulation : Machine.Simulation (pool W) World.program Pool.world := by
  refine ⟨fun h => congrArg Pool.world h, fun h => ?_⟩
  cases steps_of_exec h with
  | direct _ hw | perform _ hw | datagram _ _ hw => exact .inr ⟨_, hw⟩
  | execute | take | finish | skip | leave => exact .inl rfl

/-! ## When a task is started -/

/-- The worker is in the receive loop of an open link. -/
def Pool.serves (s : Pool W) (t : W) : Bool :=
  match s.worker t with
  | some (.receive l) => loopRuns s.world l
  | _ => false

/-- What the workers do with the tasks they have. -/
def Choice.isWork : Choice W → Bool
  | .step _ | .leave _ => true
  | _ => false

variable {s s' : Pool W}

theorem exec_step {t : W} {op : Op} {ops : List Op}
    (ht : s.worker t = some (.run (op :: ops))) : ∃ s', exec s (.step t) = some s' ∧
      s'.worker t = some (.run ops) ∧ ∃ more, s'.queue = s.queue ++ more := by
  simp only [exec, ht]
  split
  · exact ⟨_, rfl, Function.update_self .., _, rfl⟩
  · exact ⟨_, rfl, Function.update_self .., [], (List.append_nil _).symm⟩

/-- A worker comes to the end of its task. -/
theorem exists_finish {t : W} {ops : List Op} (ht : s.worker t = some (.run ops))
    (hq : s.queue ≠ []) : ∃ is s', (∀ i ∈ is, Choice.isWork i = true) ∧
      (pool W).run s is = some s' ∧ s'.worker t = none ∧ s'.queue ≠ [] := by
  induction ops generalizing s with
  | nil =>
    have hstep : (pool W).exec s (.step t) =
        some { s with worker := Function.update s.worker t none } := by
      simp only [pool, exec, ht]
    refine ⟨[.step t], _, ?_, Machine.run_cons hstep [], Function.update_self .., hq⟩
    intro i hi
    rw [List.mem_singleton.mp hi]
    rfl
  | cons op ops ih =>
    obtain ⟨u, hu, hut, more, huq⟩ := exec_step ht
    have huq : u.queue ≠ [] := huq ▸ List.append_ne_nil_of_left_ne_nil hq more
    obtain ⟨is, s', hall, hr, hidle, hne⟩ := ih hut huq
    refine ⟨.step t :: is, s', ?_, (Machine.run_cons hu is).trans hr, hidle, hne⟩
    intro i hi
    rcases List.mem_cons.mp hi with rfl | hi
    · rfl
    · exact hall i hi

/-- A worker that serves no open link comes to be idle. -/
theorem exists_idle {t : W} (ht : s.serves t = false) (hq : s.queue ≠ []) :
    ∃ is s', (∀ i ∈ is, Choice.isWork i = true) ∧ (pool W).run s is = some s' ∧
      s'.worker t = none ∧ s'.queue ≠ [] := by
  match hw : s.worker t with
  | none => exact ⟨[], s, fun _ hi => absurd hi List.not_mem_nil, rfl, hw, hq⟩
  | some (.run ops) => exact exists_finish hw hq
  | some (.receive l) =>
    have hl : loopRuns s.world l = false := by simpa only [Pool.serves, hw] using ht
    have hleave : (pool W).exec s (.leave t) =
        some { s with worker := Function.update s.worker t none } := by
      simp only [pool, exec, hw, hl, Bool.false_eq_true, if_false]
    refine ⟨[.leave t], _, ?_, Machine.run_cons hleave [], Function.update_self .., hq⟩
    intro i hi
    rw [List.mem_singleton.mp hi]
    rfl

/-- A worker in the receive loop of an open link has nothing else to do. -/
theorem not_work_of_serves {t : W} (ht : s.serves t = true) :
    exec s (.step t) = none ∧ exec s (.leave t) = none ∧ exec s (.take t) = none := by
  match hw : s.worker t with
  | none | some (.run ops) => simp [Pool.serves, hw] at ht
  | some (.receive l) =>
    have hl : loopRuns s.world l = true := by simpa only [Pool.serves, hw] using ht
    simp [exec, hw, hl]

/-- **When the queue goes on.** Let tasks wait in the queue. The workers can come to take the next
one, by finishing what they have and without help from outside, exactly when one of them is not in
the receive loop of an open link. -/
theorem task_started_iff (s : Pool W) (hq : s.queue ≠ []) :
    (∃ is t, (∀ i ∈ is, Choice.isWork i = true) ∧
      ((pool W).run s (is ++ [.take t])).isSome = true) ↔ ∃ t, s.serves t = false := by
  constructor
  · rintro ⟨is, t, hall, hr⟩
    by_contra hserves
    have hserves : ∀ t, s.serves t = true := by simpa using hserves
    -- no worker has anything to do, so the first step fails
    cases is with
    | nil =>
      have htake : (pool W).exec s (.take t) = none := (not_work_of_serves (hserves t)).2.2
      simp [Machine.run, htake] at hr
    | cons i is =>
      have hnone : (pool W).exec s i = none := by
        cases i with
        | step u => exact (not_work_of_serves (hserves u)).1
        | leave u => exact (not_work_of_serves (hserves u)).2.1
        | direct op | execute ops | take u | datagram u op =>
          exact absurd (hall _ List.mem_cons_self) Bool.false_ne_true
      simp [Machine.run, hnone] at hr
  · rintro ⟨t, ht⟩
    obtain ⟨is, s', hall, hr, hidle, hne⟩ := exists_idle ht hq
    refine ⟨is, t, hall, ?_⟩
    obtain ⟨task, queue, hqueue⟩ := List.exists_cons_of_ne_nil hne
    rw [Machine.run_append hr]
    simp [Machine.run, pool, exec, hidle, hqueue]

/-- A worker that is idle takes the task. -/
theorem idle_worker_takes : ∃ is t, (∀ i ∈ is, Choice.isWork i = true) ∧
    ((pool (Fin 1)).run ⟨.empty, [.run [.closeTask 0]], fun _ => none⟩
      (is ++ [.take t])).isSome = true :=
  (task_started_iff ⟨.empty, [.run [.closeTask 0]], fun _ => none⟩ (by simp)).mpr
    ⟨0, rfl⟩

/-! ## All workers in the loops of open links -/

/-- The task waits, or a worker has it. -/
def Pool.Holds (s : Pool W) (task : Task) : Prop := task ∈ s.queue ∨ ∃ t, s.worker t = some task

/-- The receive loops are those of links that have been made. -/
def Pool.Known (s : Pool W) : Prop := ∀ l, s.Holds (.receive l) → l < s.world.nextLink

theorem worker_of_update {worker : W → Option Task} {t u : W} {next : Option Task} {l : LinkId}
    (h : Function.update worker t next u = some (.receive l)) (hnext : next ≠ some (.receive l)) :
    worker u = some (.receive l) := by
  rcases eq_or_ne u t with rfl | hu
  · rw [Function.update_self] at h
    exact absurd h hnext
  · rwa [Function.update_of_ne hu] at h

theorem lt_of_mem_receives {w w' : World} {op : Op} {l : LinkId}
    (h : World.exec w op = some w') (hl : .receive l ∈ receives w op) : l < w'.nextLink := by
  cases op with
  | newServerLink localPort mapper =>
    cases h
    cases List.mem_singleton.mp hl
    exact Nat.lt_succ_self _
  | newClientLink localAddr remote c bound =>
    obtain ⟨_, rfl⟩ := World.guard_eq_some.mp h
    simp only [receives] at hl
    split at hl
    · cases List.mem_singleton.mp hl
      exact Nat.lt_succ_self _
    · cases hl
  | _ => cases hl

theorem known_step (hb : s.world.stack.Balanced) (hk : s.Known) (h : exec s i = some s') :
    s'.Known := by
  intro l hl
  cases steps_of_exec h with
  | direct _ hw =>
    have hle := (World.exec_effect hb hw).nextLink
    rcases hl with hl | ht
    · rcases List.mem_append.mp hl with hl | hl
      · exact Nat.lt_of_lt_of_le (hk l (.inl hl)) hle
      · exact lt_of_mem_receives hw hl
    · exact Nat.lt_of_lt_of_le (hk l (.inr ht)) hle
  | execute =>
    rcases hl with hl | ht
    · rcases List.mem_append.mp hl with hl | hl
      · exact hk l (.inl hl)
      · cases List.mem_singleton.mp hl
    · exact hk l (.inr ht)
  | @take t task queue ht hq =>
    rcases hl with hl | ⟨u, hu⟩
    · exact hk l (.inl (hq ▸ .tail _ hl))
    · by_cases htask : some task = some (.receive l)
      · cases htask
        exact hk l (.inl (hq ▸ .head _))
      · exact hk l (.inr ⟨u, worker_of_update hu htask⟩)
  | finish _ | skip _ | leave _ _ =>
    rcases hl with hl | ⟨u, hu⟩
    · exact hk l (.inl hl)
    · exact hk l (.inr ⟨u, worker_of_update hu (by simp)⟩)
  | perform _ hw =>
    have hle := (World.exec_effect hb hw).nextLink
    rcases hl with hl | ⟨u, hu⟩
    · rcases List.mem_append.mp hl with hl | hl
      · exact Nat.lt_of_lt_of_le (hk l (.inl hl)) hle
      · exact lt_of_mem_receives hw hl
    · exact Nat.lt_of_lt_of_le (hk l (.inr ⟨u, worker_of_update hu (by simp)⟩)) hle
  | datagram _ _ hw => exact Nat.lt_of_lt_of_le (hk l hl) (World.exec_effect hb hw).nextLink

/-- What holds in every state of the pool. -/
theorem inv_reachable (h : (pool W).Reachable s) : World.WF s.world ∧ s.Known := by
  refine ⟨World.wf_reachable (pool_simulation.reachable h), ?_⟩
  induction h with
  | init h =>
    cases h
    rintro l (hl | ⟨t, ht⟩)
    · cases hl
    · cases ht
  | step h hs ih =>
    exact known_step (World.wf_reachable (pool_simulation.reachable h)).balanced ih hs

/-- No thread closes a link, and no datagram ends a loop. -/
def harmless (s : Pool W) : Choice W → Bool
  | .direct op => !closesLink op
  | .datagram _ op => s.world.survives op
  | _ => true

/-- What stays while every worker is in the loop of an open link. -/
structure Starves (s s' : Pool W) : Prop where
  serves : ∀ t, s'.serves t = true
  worker : s'.worker = s.worker
  queue : ∃ more, s'.queue = s.queue ++ more
  closed : s'.world.closed = s.world.closed

omit [DecidableEq W] in
theorem Starves.refl (h : ∀ t, s.serves t = true) : Starves s s :=
  ⟨h, rfl, ⟨[], (List.append_nil _).symm⟩, rfl⟩

omit [DecidableEq W] in
theorem Starves.trans {u : Pool W} (h : Starves s u) (h' : Starves u s') : Starves s s' := by
  obtain ⟨more, hq⟩ := h.queue
  obtain ⟨more', hq'⟩ := h'.queue
  exact ⟨h'.serves, h'.worker.trans h.worker, ⟨more ++ more', by rw [hq', hq, List.append_assoc]⟩,
    h'.closed.trans h.closed⟩

omit [DecidableEq W] in
/-- The program takes a step that ends no loop. -/
theorem serves_of_exec {op : Op} {world : World} {queue : List Task}
    (hb : s.world.stack.Balanced) (hk : s.Known) (hop : closesLink op = false)
    (hsurvives : s.world.survives op = true) (hw : World.exec s.world op = some world) {t : W}
    (ht : s.serves t = true) : Pool.serves ⟨world, queue, s.worker⟩ t = true := by
  match hwt : s.worker t with
  | none | some (.run ops) => simp [Pool.serves, hwt] at ht
  | some (.receive l) =>
    simp only [Pool.serves, hwt] at ht ⊢
    exact World.exec_loopRuns hb hop hsurvives hw (hk l (.inr ⟨t, hwt⟩)) ht

theorem starves_step (hb : s.world.stack.Balanced) (hk : s.Known)
    (hserves : ∀ t, s.serves t = true) (hi : harmless s i = true) (h : exec s i = some s') :
    Starves s s' := by
  cases i with
  | step t => rw [(not_work_of_serves (hserves t)).1] at h; cases h
  | leave t => rw [(not_work_of_serves (hserves t)).2.1] at h; cases h
  | take t => rw [(not_work_of_serves (hserves t)).2.2] at h; cases h
  | execute ops =>
    cases h
    exact ⟨hserves, rfl, ⟨_, rfl⟩, rfl⟩
  | direct op =>
    cases steps_of_exec h with
    | direct hdirect hw =>
      have hop : closesLink op = false := by simpa [harmless] using hi
      have hsurvives : s.world.survives op = true := by
        cases op with
        | serverDatagram | clientDatagram => cases hdirect
        | _ => rfl
      exact ⟨fun t => serves_of_exec hb hk hop hsurvives hw (hserves t), rfl, ⟨_, rfl⟩,
        World.exec_closed hb hop hw⟩
  | datagram t op =>
    cases steps_of_exec h with
    | datagram _ hl hw =>
      have hop : closesLink op = false := by
        cases op with
        | closeTask | linkClose => cases hl
        | _ => rfl
      exact ⟨fun t => serves_of_exec hb hk hop hi hw (hserves t), rfl,
        ⟨[], (List.append_nil _).symm⟩, World.exec_closed hb hop hw⟩

/-- **The queue stands still.** From a state in which every worker is in the receive loop of an
open link, as long as no thread outside of the pool closes a link and no datagram ends a loop, no
worker takes a task: nothing leaves the queue, and no channel is closed any more, whatever the
program calls. -/
theorem starved (s : Pool W) (hs : (pool W).Reachable s) (hserves : ∀ t, s.serves t = true)
    (is : List (Choice W)) (s' : Pool W)
    (hr : ((pool W).restrict fun s i => harmless s i = true).run s is = some s') :
    Starves s s' := by
  induction is generalizing s with
  | nil =>
    cases hr
    exact .refl hserves
  | cons i is ih =>
    obtain ⟨u, hu, hr⟩ := Option.bind_eq_some_iff.mp hr
    obtain ⟨hi, hu⟩ := Machine.restrict_exec_iff.mp hu
    obtain ⟨hwf, hk⟩ := inv_reachable hs
    have hstep := starves_step hwf.balanced hk hserves hi hu
    exact hstep.trans (ih u (hs.step hu) hstep.serves hr)

/-- A pool of one worker, which serves a server, when the channel of the program is closed. -/
def closeBehindServer : List (Choice (Fin 1)) :=
  [.direct (.setInitialized true), .direct (.newServerLink 9899 true), .take 0,
    .direct (.newChannel 9899 none none true 16), .execute [.closeTask 0]]

/-- The channel is never closed. -/
theorem close_waits : ∃ s : Pool (Fin 1), (pool (Fin 1)).Reachable s ∧ s.queue.length = 1 ∧
    0 < s.world.nextChannel ∧
    ∀ is s', ((pool (Fin 1)).restrict fun s i => harmless s i = true).run s is = some s' →
      0 ∉ s'.world.closed := by
  obtain ⟨s, hs, hq, hc, hclosed, hserves⟩ := Machine.Reachable.exists_run
    (M := pool (Fin 1)) (.init rfl)
    (P := fun s => s.queue.length = 1 ∧ 0 < s.world.nextChannel ∧ s.world.closed = [] ∧
      s.serves 0 = true)
    closeBehindServer (by decide +kernel)
  refine ⟨s, hs, hq, hc, fun is s' hr => ?_⟩
  have hall : ∀ t, s.serves t = true := fun t => by rwa [Subsingleton.elim t 0]
  rw [(starved s hs hall is s' hr).closed, hclosed]
  exact List.not_mem_nil

/-- The workers of a list take one server each. -/
theorem exists_served (ts : List W) (hts : ts.Nodup) : ∃ s, (pool W).Reachable s ∧
    s.queue = [] ∧ s.world.nextLink = ts.length ∧ (∀ t ∈ ts, s.serves t = true) ∧
      ∀ t ∉ ts, s.worker t = none := by
  induction ts with
  | nil => exact ⟨_, .init rfl, rfl, rfl, by simp, fun _ _ => rfl⟩
  | cons t ts ih =>
    obtain ⟨ht, hts⟩ := List.nodup_cons.mp hts
    obtain ⟨s, hs, hq, hn, hserves, hidle⟩ := ih hts
    let world := s.world.newLink { kind := .server 9899 true }
    let worker := Function.update s.worker t (some (.receive s.world.nextLink))
    have hmade : (pool W).exec s (.direct (.newServerLink 9899 true)) =
        some ⟨world, [.receive s.world.nextLink], s.worker⟩ := by
      simp [pool, exec, isDirect, isCall, Op.datagram, World.exec, receives, hq, world]
    have htake : (pool W).exec ⟨world, [.receive s.world.nextLink], s.worker⟩ (.take t) =
        some ⟨world, [], worker⟩ := by
      simp [pool, exec, hidle t ht, worker]
    have hk := (inv_reachable hs).2
    refine ⟨_, (hs.step hmade).step htake, rfl, ?_, fun u hu => ?_, fun u hu => ?_⟩
    · exact congrArg (· + 1) hn
    · rcases eq_or_ne u t with rfl | hne
      · simp [Pool.serves, worker, loopRuns, world, World.newLink, World.setLinkObj]
      · have hu := hserves u (List.mem_of_ne_of_mem hne hu)
        cases hwu : s.worker u with
        | none => simp [Pool.serves, hwu] at hu
        | some task =>
          cases task with
          | run ops => simp [Pool.serves, hwu] at hu
          | receive l =>
            have hl := World.newLink_link (hk l (.inr ⟨u, hwu⟩)) { kind := .server 9899 true }
            simp only [Pool.serves, hwu] at hu
            simpa only [Pool.serves, worker, Function.update_of_ne hne, hwu, loopRuns, world, hl]
              using hu
    · rw [List.mem_cons, not_or] at hu
      exact (Function.update_of_ne hu.1 ..).trans (hidle u hu.2)

/-- **As many servers as workers.** Whatever the size of the pool, a program that makes one server
for each worker comes to a state in which all workers serve open links. -/
theorem pool_starves [Fintype W] : ∃ s : Pool W, (pool W).Reachable s ∧
    s.world.nextLink = Fintype.card W ∧ ∀ t, s.serves t = true := by
  obtain ⟨s, hs, _, hn, hserves, _⟩ := exists_served (Finset.univ : Finset W).toList
    (Finset.nodup_toList _)
  refine ⟨s, hs, ?_, fun t => hserves t (Finset.mem_toList.mpr (Finset.mem_univ t))⟩
  rw [hn, Finset.length_toList, Finset.card_univ]

end Sctp4Nat.ThreadPool
