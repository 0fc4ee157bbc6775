import Sctp4Nat.Connection.PoolTasks
import Sctp4Nat.Origin.Engine

/-! # `SctpUtils.shutdownAll`

The task of `shutdownAll` closes the links, shuts down the mappers, clears the ports and finishes
the engine. Each step that fails rejects the promise, and a promise can be rejected once: the
second failure throws out of its own `catch` block and ends the task.

The channels are closed by tasks of their own. What these do while `shutdown` waits, and which of
their promises are resolved in time, is given by a `Wait`. -/

namespace Sctp4Nat.SctpUtils

/-- What happens while `SctpMapper.shutdown` waits. -/
structure Wait where
  /-- The order in which the entries are visited. -/
  it : Iteration (InetSocketAddress × ChanId)
  /-- The close tasks that the pool runs. -/
  ran : List ChanId
  /-- The promise of the `close` for this entry is resolved in time. -/
  done : InetSocketAddress × ChanId → Bool
  /-- The thread is interrupted. -/
  interrupted : Bool

/-- What the task of `shutdownAll` works on. -/
structure Site where
  world : World
  engine : Engine
  d : Promise Unit := .pending
  /-- The exceptions that the `catch` blocks have handled, the newest first. -/
  caught : List Throwable := []
  /-- The calls of `Sctp.finish`. -/
  finishes : Nat := 0

def onWorld {α : Type} (m : Java World α) : Java Site α :=
  Java.zoom Site.world (fun world s => { s with world }) m

def runTasks (w : World) (cs : List ChanId) : World :=
  cs.foldl (fun w c => ((World.closeTask c).run w).2) w

/-- How the wait of `shutdown` ends. The latch is as large as the map, and each promise that is
resolved counts it down. -/
def Wait.await (wait : Wait) (socketMap : ConcurrentHashMap InetSocketAddress ChanId) :
    Except Throwable Unit :=
  let counted := (wait.it.order socketMap.entries).countP wait.done
  if wait.interrupted then .error (.interruptedException "")
  else if counted < socketMap.size then .error (.timeoutException "")
  else .ok ()

/-- `SctpMapper.shutdown`. -/
def shutdown (wait : Wait) : Java Site Unit := do
  onWorld (modify fun w => { w with mapper := { w.mapper with isShutdown := true } })
  let s ← get
  onWorld (modify fun w => runTasks w wait.ran)
  Java.ofExcept (wait.await s.world.mapper.socketMap)
  onWorld (modify fun w => { w with mapper := ⟨.empty, false⟩ })

/-- A `catch` block: the exception rejects the promise. -/
def handle (e : Throwable) : Java Site Unit := do
  modify fun s => { s with caught := e :: s.caught }
  let s ← get
  match s.d with
  | .pending => set { s with d := .rejected e }
  | _ => throw (.illegalStateException "Deferred object already finished, cannot reject again")

/-- A call of `shutdown` with its `catch` block. -/
def tryShutdown (wait : Wait) : Java Site Unit :=
  tryCatch (shutdown wait) fun
    | .interruptedException msg => handle (.interruptedException msg)
    | .timeoutException msg => handle (.timeoutException msg)
    | e => throw e

/-- `Sctp.finish`; `answers` are those of `usrsctp_finish`. -/
def finish (answers : Nat → Int32) : Java Site Unit := do
  modify fun s => { s with finishes := s.finishes + 1 }
  Java.zoom Site.engine (fun engine s => { s with
    engine
    world := { s.world with stack := { s.world.stack with initialized := engine.initialized } } })
    (Engine.finish answers)

def tryFinish (answers : Nat → Int32) : Java Site Unit :=
  tryCatch (finish answers) fun
    | .ioException msg => handle (.ioException msg)
    | e => throw e

def closeLink : Option LinkId → Java Site Unit
  | some l => onWorld (World.linkClose l)
  | none => pure ()

/-- The arguments of `shutdownAll`, and the fields `link` and `mapper` of `SctpUtils`. -/
structure Config where
  customLink : Option LinkId
  customMapper : Bool
  link : Option LinkId
  mapper : Bool
  deriving DecidableEq, Repr

/-- The `shutdown` of the default mapper. -/
def shutdownDefault (mapper : Bool) (wait : Wait) : Java Site Unit := do
  if !mapper then throw .npe
  tryShutdown wait

/-- The end of the task, with `SctpPorts.shutdown` first. -/
def shutdownEnd (answers : Nat → Int32) : Java Site Unit := do
  onWorld (modify fun w => { w with portMap := .empty })
  tryFinish answers
  let s ← get
  match s.d with
  | .pending => set { s with d := .resolved () }
  | _ => pure ()

/-- The task of `shutdownAll`. -/
def shutdownAll (cfg : Config) (customWait wait : Wait) (answers : Nat → Int32) :
    Java Site Unit := do
  closeLink cfg.customLink
  closeLink cfg.link
  if cfg.customMapper then tryShutdown customWait
  shutdownDefault cfg.mapper wait
  shutdownEnd answers

/-! ## The steps -/

/-- The wait for the promises of these entries ends with all of them resolved. -/
def Wait.completes (wait : Wait) (entries : List (InetSocketAddress × ChanId)) : Bool :=
  !wait.interrupted && entries.all wait.done

theorem runTasks_mapper (w : World) (cs : List ChanId) : (runTasks w cs).mapper = w.mapper := by
  induction cs generalizing w with
  | nil => rfl
  | cons c cs ih => exact (ih _).trans (World.closeTask_mapper w c)

theorem countP_lt_size_iff (it : Iteration (InetSocketAddress × ChanId))
    (entries : List (InetSocketAddress × ChanId)) (done : InetSocketAddress × ChanId → Bool) :
    (it.order entries).countP done < entries.length ↔ entries.all done = false := by
  have hperm := (it.perm entries).countP_eq done
  rw [hperm, ← not_iff_not, Nat.not_lt, Bool.not_eq_false, List.all_eq_true]
  have hle := List.countP_le_length (p := done) (l := entries)
  constructor
  · intro h
    exact List.countP_eq_length.mp (Nat.le_antisymm hle h)
  · intro h
    exact Nat.le_of_eq (List.countP_eq_length.mpr h).symm

theorem Wait.await_eq (wait : Wait) (socketMap : ConcurrentHashMap InetSocketAddress ChanId) :
    (wait.completes socketMap.entries = true ∧ wait.await socketMap = .ok ()) ∨
      (wait.completes socketMap.entries = false ∧ ∃ e, wait.await socketMap = .error e ∧
        (e = .interruptedException "" ∨ e = .timeoutException "")) := by
  have hcount : (wait.it.order socketMap.entries).countP wait.done < socketMap.size ↔
      socketMap.entries.all wait.done = false := countP_lt_size_iff ..
  cases hi : wait.interrupted with
  | true => exact .inr ⟨by simp [completes, hi], _, by rw [await, hi, if_pos rfl], .inl rfl⟩
  | false =>
    cases hall : socketMap.entries.all wait.done with
    | true =>
      rw [hall] at hcount
      refine .inl ⟨by simp [completes, hi, hall], ?_⟩
      rw [await, hi, if_neg Bool.false_ne_true, if_neg (hcount.not.mpr nofun)]
    | false =>
      rw [hall] at hcount
      refine .inr ⟨by simp [completes, hall], .timeoutException "", ?_, .inr rfl⟩
      rw [await, hi, if_neg Bool.false_ne_true, if_pos (hcount.mpr rfl)]

/-- `shutdown` clears the map and the flag when the wait completes. -/
theorem shutdown_completes {s : Site} {wait : Wait}
    (h : wait.completes s.world.mapper.socketMap.entries = true) :
    ∃ w', (shutdown wait).run s = (.ok (), { s with world := w' }) ∧
      w'.mapper = ⟨.empty, false⟩ := by
  rcases wait.await_eq s.world.mapper.socketMap with ⟨_, hawait⟩ | ⟨hc, _⟩
  · refine ⟨{ runTasks { s.world with
      mapper := { s.world.mapper with isShutdown := true } } wait.ran with
        mapper := ⟨.empty, false⟩ }, ?_, rfl⟩
    simp [shutdown, Java.run_bind, onWorld, Java.run_zoom, hawait]
  · rw [h] at hc
    cases hc

/-- A `shutdown` that throws leaves the map as it was and the flag set. -/
theorem shutdown_throws {s : Site} {wait : Wait}
    (h : wait.completes s.world.mapper.socketMap.entries = false) :
    ∃ e w', (shutdown wait).run s = (.error e, { s with world := w' }) ∧
      (e = .interruptedException "" ∨ e = .timeoutException "") ∧
      w'.mapper = ⟨s.world.mapper.socketMap, true⟩ := by
  rcases wait.await_eq s.world.mapper.socketMap with ⟨hc, _⟩ | ⟨_, e, hawait, he⟩
  · rw [h] at hc
    cases hc
  · refine ⟨e, runTasks { s.world with
      mapper := { s.world.mapper with isShutdown := true } } wait.ran, ?_, he,
      runTasks_mapper _ _⟩
    simp [shutdown, Java.run_bind, onWorld, Java.run_zoom, hawait]

/-- The exception of a promise that is settled already. -/
def rejectedAgain : Throwable :=
  .illegalStateException "Deferred object already finished, cannot reject again"

theorem handle_pending {s : Site} (h : s.d = .pending) (e : Throwable) :
    (handle e).run s = (.ok (), { s with d := .rejected e, caught := e :: s.caught }) := by
  simp [handle, Java.run_bind, h]

theorem handle_settled {s : Site} (h : s.d ≠ .pending) (e : Throwable) :
    ((handle e).run s).1 = .error rejectedAgain := by
  cases hd : s.d with
  | pending => exact absurd hd h
  | resolved _ | rejected _ => simp [handle, Java.run_bind, hd, rejectedAgain]

theorem tryShutdown_completes {s : Site} {wait : Wait}
    (h : wait.completes s.world.mapper.socketMap.entries = true) :
    ∃ w', (tryShutdown wait).run s = (.ok (), { s with world := w' }) ∧
      w'.mapper = ⟨.empty, false⟩ := by
  obtain ⟨w', hrun, hw'⟩ := shutdown_completes h
  exact ⟨w', by rw [tryShutdown, Java.run_tryCatch, hrun], hw'⟩

/-- The first failure rejects the promise. -/
theorem tryShutdown_rejects {s : Site} {wait : Wait} (hd : s.d = .pending)
    (h : wait.completes s.world.mapper.socketMap.entries = false) :
    ∃ e w', (tryShutdown wait).run s =
        (.ok (), { s with world := w', d := .rejected e, caught := e :: s.caught }) ∧
      w'.mapper = ⟨s.world.mapper.socketMap, true⟩ := by
  obtain ⟨e, w', hrun, he, hw'⟩ := shutdown_throws h
  refine ⟨e, w', ?_, hw'⟩
  rw [tryShutdown, Java.run_tryCatch, hrun]
  rcases he with rfl | rfl
  · exact handle_pending (s := { s with world := w' }) hd _
  · exact handle_pending (s := { s with world := w' }) hd _

/-- The second one ends the task. -/
theorem tryShutdown_throws {s : Site} {wait : Wait} (hd : s.d ≠ .pending)
    (h : wait.completes s.world.mapper.socketMap.entries = false) :
    ((tryShutdown wait).run s).1 = .error rejectedAgain := by
  obtain ⟨e, w', hrun, he, _⟩ := shutdown_throws h
  rw [tryShutdown, Java.run_tryCatch, hrun]
  rcases he with rfl | rfl
  · exact handle_settled (s := { s with world := w' }) hd _
  · exact handle_settled (s := { s with world := w' }) hd _

/-! ## The end of the task -/

/-- `finish` throws when the engine is initialised, the counter does not skip it and the stack is
up and does not shut down in five attempts. -/
def finishFails (e : Engine) (answers : Nat → Int32) : Prop :=
  e.initialized = true ∧ ¬ 0 < e.sctpEngineCount - 1 ∧ e.up = true ∧ ∀ i < 5, answers i ≠ 0

theorem finish_outcome (e : Engine) (answers : Nat → Int32) :
    (¬ finishFails e answers ∧ ((Engine.finish answers).run e).1 = .ok ()) ∨
      (finishFails e answers ∧ ∃ msg, ((Engine.finish answers).run e).1 =
        .error (.ioException msg)) := by
  by_cases hcount : 0 < e.sctpEngineCount - 1
  · rw [Engine.finish_counted hcount]
    exact .inl ⟨fun h => h.2.1 hcount, rfl⟩
  · cases hup : e.up with
    | false =>
      have hloop : Engine.finishLoop answers 0 e.up = (0, [0], false) := by
        rw [hup, Engine.finishLoop_down]
      rw [Engine.finish_native hcount hloop]
      exact .inl ⟨fun h => absurd h.2.2.1 (by simp [hup]), by simp⟩
    | true =>
      obtain ⟨last, results, hloop, hlast, hbefore, hzero, _⟩ :=
        @Engine.finishLoop_up answers 0 (Nat.zero_le 5)
      rw [← hup] at hloop
      rw [Engine.finish_native hcount hloop]
      by_cases hthrow : e.initialized = true ∧ ¬ last < 5
      · refine .inr ⟨⟨hthrow.1, hcount, hup, fun i hi => hbefore i (Nat.zero_le i) (by omega)⟩, ?_⟩
        exact ⟨_, if_pos hthrow⟩
      · refine .inl ⟨fun h => hthrow ⟨h.1, fun hlt => ?_⟩, if_neg hthrow⟩
        exact h.2.2.2 last hlt (hzero hlt)

/-- The state after `SctpPorts.shutdown` and a call of `finish`. -/
def finished (s : Site) (answers : Nat → Int32) : Site :=
  let engine := ((Engine.finish answers).run s.engine).2
  { s with
    engine
    world := { s.world with
      portMap := .empty
      stack := { s.world.stack with initialized := engine.initialized } }
    finishes := s.finishes + 1 }

/-- The site after `SctpPorts.shutdown`. -/
def cleared (s : Site) : Site := { s with world := { s.world with portMap := .empty } }

theorem tryFinish_run (s : Site) (answers : Nat → Int32) :
    (tryFinish answers).run (cleared s) =
      (tryCatch (Java.ofExcept ((Engine.finish answers).run s.engine).1) fun
        | .ioException msg => handle (.ioException msg)
        | e => throw e).run (finished s answers) := rfl

/-- The task resolves a promise that is still pending after `finish`. -/
theorem shutdownEnd_run (s : Site) (answers : Nat → Int32) :
    (shutdownEnd answers).run s = match (tryFinish answers).run (cleared s) with
      | (.ok _, s') => (.ok (), if s'.d = .pending then { s' with d := .resolved () } else s')
      | (.error e, s') => (.error e, s') := by
  have hclear : (onWorld (modify fun w => { w with portMap := .empty })).run s =
      (.ok ⟨⟩, cleared s) := rfl
  rw [shutdownEnd, Java.run_bind_ok hclear, Java.run_bind]
  cases (tryFinish answers).run (cleared s) with
  | mk r s' =>
    cases r with
    | error e => rfl
    | ok _ => cases hd : s'.d <;> simp [Java.run_bind, hd]

theorem shutdownEnd_ok {s : Site} {answers : Nat → Int32} (h : ¬ finishFails s.engine answers) :
    (shutdownEnd answers).run s = (.ok (), if s.d = .pending then
      { finished s answers with d := .resolved () } else finished s answers) := by
  rcases finish_outcome s.engine answers with ⟨_, houtcome⟩ | ⟨hfails, _⟩
  · rw [shutdownEnd_run, tryFinish_run, houtcome]
    rfl
  · exact absurd hfails h

/-- A `finish` that fails first rejects the promise. -/
theorem shutdownEnd_rejects {s : Site} {answers : Nat → Int32} (hd : s.d = .pending)
    (h : finishFails s.engine answers) : ∃ e, (shutdownEnd answers).run s =
      (.ok (), { finished s answers with d := .rejected e, caught := e :: s.caught }) := by
  rcases finish_outcome s.engine answers with ⟨hok, _⟩ | ⟨_, msg, houtcome⟩
  · exact absurd h hok
  · have hhandle := handle_pending (s := finished s answers) hd (.ioException msg)
    refine ⟨.ioException msg, ?_⟩
    rw [shutdownEnd_run, tryFinish_run, houtcome, Java.run_tryCatch, Java.run_ofExcept]
    dsimp only
    rw [hhandle]
    rfl

/-- One that fails after another step ends the task. -/
theorem shutdownEnd_throws {s : Site} {answers : Nat → Int32} (hd : s.d ≠ .pending)
    (h : finishFails s.engine answers) :
    ((shutdownEnd answers).run s).1 = .error rejectedAgain := by
  rcases finish_outcome s.engine answers with ⟨hok, _⟩ | ⟨_, msg, houtcome⟩
  · exact absurd h hok
  · have hhandle := handle_settled (s := finished s answers) hd (.ioException msg)
    rw [shutdownEnd_run, tryFinish_run, houtcome, Java.run_tryCatch, Java.run_ofExcept]
    dsimp only
    cases hrun : (handle (.ioException msg)).run (finished s answers) with
    | mk r s' =>
      rw [hrun] at hhandle
      obtain rfl : r = .error rejectedAgain := hhandle
      rfl

/-- What `shutdownAll` is to do, from a site on which `n` calls of `finish` were made. -/
structure Complete (n : Nat) (r : Except Throwable Unit × Site) : Prop where
  ends : r.1 = .ok ()
  ports : r.2.world.portMap = .empty
  finish : r.2.finishes = n + 1
  settled : r.2.d ≠ .pending
  resolved_iff : r.2.d = .resolved () ↔ r.2.caught = []
  accepts : r.2.world.mapper.isShutdown = false

theorem not_complete_error {n : Nat} {e : Throwable} {r : Except Throwable Unit × Site}
    (h : r.1 = .error e) : ¬ Complete n r := by
  intro hc
  have := hc.ends
  rw [h] at this
  cases this

/-- The promise before the end of the task: pending, or rejected by the one failure so far. -/
def AtMostOne (s : Site) : Prop :=
  s.d = .pending ∧ s.caught = [] ∨ ∃ e, s.d = .rejected e ∧ s.caught = [e]

/-- The end of the task completes it when the mapper accepts registrations, and `finish` does not
fail as the second step. -/
theorem complete_shutdownEnd_iff {s : Site} (hs : AtMostOne s) (answers : Nat → Int32) :
    Complete s.finishes ((shutdownEnd answers).run s) ↔ s.world.mapper.isShutdown = false ∧
      (s.d = .pending ∨ ¬ finishFails s.engine answers) := by
  by_cases hf : finishFails s.engine answers
  · rcases hs with ⟨hd, hc⟩ | ⟨e, hd, hc⟩
    · obtain ⟨e, hrun⟩ := shutdownEnd_rejects hd hf
      rw [hrun]
      refine ⟨fun h => ⟨h.accepts, .inl hd⟩, fun h => ⟨rfl, rfl, rfl, nofun, ?_, h.1⟩⟩
      simp
    · have hthrows := shutdownEnd_throws (hd ▸ nofun : s.d ≠ .pending) hf
      refine ⟨fun h => absurd h (not_complete_error hthrows), fun h => ?_⟩
      rcases h.2 with h | h
      · rw [hd] at h
        cases h
      · exact absurd hf h
  · rw [shutdownEnd_ok hf]
    rcases hs with ⟨hd, hc⟩ | ⟨e, hd, hc⟩
    · rw [if_pos hd]
      refine ⟨fun h => ⟨h.accepts, .inl hd⟩, fun h => ⟨rfl, rfl, rfl, nofun, ?_, h.1⟩⟩
      simp [finished, hc]
    · rw [if_neg (by rw [hd]; nofun)]
      refine ⟨fun h => ⟨h.accepts, .inr hf⟩, fun h => ⟨rfl, rfl, rfl, ?_, ?_, h.1⟩⟩
      · simp [finished, hd]
      · simp [finished, hd, hc]

/-- From the default mapper on, the task completes when the mapper is there and its wait completes,
and `finish` does not fail as the second step. -/
theorem complete_shutdownDefault_iff {s : Site} (hs : AtMostOne s) (mapper : Bool) (wait : Wait)
    (answers : Nat → Int32) :
    Complete s.finishes ((shutdownDefault mapper wait >>= fun _ => shutdownEnd answers).run s) ↔
      mapper = true ∧ wait.completes s.world.mapper.socketMap.entries = true ∧
        (s.d = .pending ∨ ¬ finishFails s.engine answers) := by
  cases mapper with
  | false =>
    refine ⟨fun h => absurd h (not_complete_error (e := .npe) rfl), fun h => ?_⟩
    cases h.1
  | true =>
    have hdefault : shutdownDefault true wait = tryShutdown wait := rfl
    rw [hdefault]
    cases hw : wait.completes s.world.mapper.socketMap.entries with
    | true =>
      obtain ⟨w', hrun, hw'⟩ := tryShutdown_completes hw
      rw [Java.run_bind_ok hrun]
      have hend := complete_shutdownEnd_iff (s := { s with world := w' }) hs answers
      rw [hw'] at hend
      simpa using hend
    | false =>
      refine ⟨fun h => ?_, fun h => absurd h.2.1 nofun⟩
      by_cases hd : s.d = .pending
      · obtain ⟨e, w', hrun, hw'⟩ := tryShutdown_rejects hd hw
        have hc : s.caught = [] := by
          rcases hs with ⟨_, hc⟩ | ⟨_, hd', _⟩
          · exact hc
          · rw [hd] at hd'
            cases hd'
        rw [Java.run_bind_ok hrun] at h
        have hend := (complete_shutdownEnd_iff (s := { s with
          world := w', d := .rejected e, caught := e :: s.caught })
          (.inr ⟨e, rfl, by rw [hc]⟩) answers).mp h
        rw [hw'] at hend
        cases hend.1
      · have hthrows := tryShutdown_throws hd hw
        exact absurd h (not_complete_error (Java.fst_run_bind_error hthrows))

/-- The entries that the default mapper finds: a custom mapper whose wait completes has cleared the
map, which all mappers share. -/
def leftBy (cfg : Config) (customWait : Wait) (entries : List (InetSocketAddress × ChanId)) :
    List (InetSocketAddress × ChanId) :=
  if cfg.customMapper && customWait.completes entries then [] else entries

/-- From the mappers on, with a promise that is pending. -/
theorem complete_mappers_iff {s : Site} (hd : s.d = .pending) (hc : s.caught = []) (cfg : Config)
    (customWait wait : Wait) (answers : Nat → Int32) :
    Complete s.finishes ((do
        if cfg.customMapper then tryShutdown customWait
        shutdownDefault cfg.mapper wait
        shutdownEnd answers : Java Site Unit).run s) ↔
      cfg.mapper = true ∧
        wait.completes (leftBy cfg customWait s.world.mapper.socketMap.entries) = true ∧
        (cfg.customMapper = true →
          customWait.completes s.world.mapper.socketMap.entries = false →
          ¬ finishFails s.engine answers) := by
  cases hcustom : cfg.customMapper with
  | false =>
    have h := complete_shutdownDefault_iff (.inl ⟨hd, hc⟩) cfg.mapper wait answers
    simpa [leftBy, hcustom, hd] using h
  | true =>
    cases hcw : customWait.completes s.world.mapper.socketMap.entries with
    | true =>
      obtain ⟨w', hrun, hw'⟩ := tryShutdown_completes hcw
      have h := complete_shutdownDefault_iff (s := { s with world := w' }) (.inl ⟨hd, hc⟩)
        cfg.mapper wait answers
      rw [if_pos rfl, Java.run_bind_ok hrun]
      simpa [leftBy, hcustom, hcw, hd, hw', ConcurrentHashMap.empty] using h
    | false =>
      obtain ⟨e, w', hrun, hw'⟩ := tryShutdown_rejects hd hcw
      have h := complete_shutdownDefault_iff (s := { s with
        world := w', d := .rejected e, caught := e :: s.caught }) (.inr ⟨e, rfl, by rw [hc]⟩)
        cfg.mapper wait answers
      rw [if_pos rfl, Java.run_bind_ok hrun]
      simpa [leftBy, hcustom, hcw, hw'] using h

/-! ## The links -/

/-- The link, if there is one, has a UDP socket. -/
def hasSocket (w : World) (link : Option LinkId) : Bool :=
  link.all fun l => (w.link l).udpSocket ≠ .null

/-- Closing a link leaves the mapper alone, and takes the UDP socket of none. -/
theorem closeLink_run {s : Site} {link : Option LinkId} (h : hasSocket s.world link = true) :
    ∃ w', (closeLink link).run s = (.ok (), { s with world := w' }) ∧
      w'.mapper = s.world.mapper ∧ ∀ link', hasSocket w' link' = hasSocket s.world link' := by
  cases link with
  | none => exact ⟨s.world, rfl, rfl, fun _ => rfl⟩
  | some l =>
    have hl : (s.world.link l).udpSocket ≠ .null := by simpa [hasSocket] using h
    refine ⟨s.world.setLinkObj l (s.world.link l).close, ?_, rfl, fun link' => ?_⟩
    · simp [closeLink, onWorld, Java.run_zoom, World.linkClose_run, hl]
    · cases link' with
      | none => rfl
      | some l' =>
        by_cases hll : l' = l
        · subst hll
          simp [hasSocket, World.setLinkObj, Link.close, hl]
        · simp [hasSocket, World.setLinkObj, hll]

theorem closeLink_null {s : Site} {link : Option LinkId} (h : hasSocket s.world link = false) :
    ((closeLink link).run s).1 = .error .npe := by
  cases link with
  | none => cases h
  | some l =>
    have hl : (s.world.link l).udpSocket = .null := by simpa [hasSocket] using h
    simp [closeLink, onWorld, Java.run_zoom, World.linkClose_run, hl]

/-- **`shutdownAll` does its job.** For every content of the maps, every custom link and mapper,
every outcome of the waits and every answer of the stack, the task runs to its end, clears the
ports, calls `finish`, settles its promise as the outcome demands and leaves a mapper that accepts
registrations, exactly when the links have UDP sockets, the default mapper is set and its wait
completes, and `finish` does not fail after a custom mapper whose wait did not complete. -/
theorem complete_iff (cfg : Config) (w : World) (e : Engine) (customWait wait : Wait)
    (answers : Nat → Int32) :
    Complete 0 ((shutdownAll cfg customWait wait answers).run { world := w, engine := e }) ↔
      (hasSocket w cfg.customLink = true ∧ hasSocket w cfg.link = true) ∧ cfg.mapper = true ∧
        wait.completes (leftBy cfg customWait w.mapper.socketMap.entries) = true ∧
        (cfg.customMapper = true → customWait.completes w.mapper.socketMap.entries = false →
          ¬ finishFails e answers) := by
  let s : Site := { world := w, engine := e }
  cases hcl : hasSocket w cfg.customLink with
  | false =>
    have hnull := Java.fst_run_bind_error (f := fun _ => do
      closeLink cfg.link
      if cfg.customMapper then tryShutdown customWait
      shutdownDefault cfg.mapper wait
      shutdownEnd answers) (closeLink_null (s := s) hcl)
    exact ⟨fun h => absurd h (not_complete_error hnull), fun h => nomatch h.1.1⟩
  | true =>
    obtain ⟨w₁, hrun₁, hm₁, hs₁⟩ := closeLink_run (s := s) hcl
    rw [shutdownAll, Java.run_bind_ok hrun₁]
    cases hl : hasSocket w cfg.link with
    | false =>
      have hnull := Java.fst_run_bind_error (f := fun _ => do
        if cfg.customMapper then tryShutdown customWait
        shutdownDefault cfg.mapper wait
        shutdownEnd answers) (closeLink_null (s := { s with world := w₁ }) ((hs₁ _).trans hl))
      exact ⟨fun h => absurd h (not_complete_error hnull), fun h => nomatch h.1.2⟩
    | true =>
      obtain ⟨w₂, hrun₂, hm₂, _⟩ :=
        closeLink_run (s := { s with world := w₁ }) ((hs₁ _).trans hl)
      have h := complete_mappers_iff (s := { s with world := w₂ }) rfl rfl cfg customWait wait
        answers
      rw [Java.run_bind_ok hrun₂]
      rw [show w₂.mapper = w.mapper from hm₂.trans hm₁] at h
      simpa using h

/-- One channel in both maps. -/
def inUse : World :=
  { World.openChannel with
    mapper := World.openChannel.mapper.register (some samplePeer) (some 0)
    portMap := World.openChannel.portMap.put 0 5000 }

/-- No close task ends in time. -/
def tooLong : Wait := ⟨.id, [], fun _ => false, false⟩

/-- When the wait of a custom mapper is too long, that of the default mapper is too, and the second
rejection ends the task: the ports are not cleared, `finish` is not called, and the mapper takes no
registration any more. -/
theorem both_mappers_time_out :
    let r := (shutdownAll ⟨none, true, none, true⟩ tooLong tooLong (fun _ => 0)).run
      { world := inUse, engine := { Engine.start with initialized := true, up := true } }
    r.1 = .error rejectedAgain ∧ r.2.world.portMap.containsKey 0 = true ∧ r.2.finishes = 0 ∧
      r.2.world.mapper.isShutdown = true := by
  decide +kernel

end Sctp4Nat.SctpUtils
