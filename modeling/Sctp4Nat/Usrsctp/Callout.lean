import Sctp4Nat.Machine.Alarms
import Sctp4Nat.Machine.Progress
import Sctp4Nat.Machine.Tailq

/-! # The timers of usrsctp

`sctp_callout.c` keeps the pending timers in a queue. The timer thread goes over it at every tick
with the lock of the queue held, and gives the lock up for each function that it calls; the next
timer to look at is then in the static `sctp_os_timer_next`, and `sctp_os_timer_start` and
`sctp_os_timer_stop`, which that function and other threads may call meanwhile, move it on when
they take its timer out of the queue.

The queue stays intact in every interleaving, and the timers are alarms: a function is called only
for a timer that was started, has not been stopped since and is due, and once for each start
(`callout_refines`). As long as no time overflows, no timer is due whenever the timer thread
sleeps, and a sweep over the queue comes to an end (`sweep_complete`). -/

namespace Sctp4Nat.Callout

variable {C F : Type*}

/-- `struct sctp_callout`, with its function and argument as one. -/
structure Timer (F : Type*) where
  time : Int32
  func : F
  active : Bool
  pending : Bool

/-- The timer thread: it sleeps, or has the lock and looks at a timer, or at the end of the queue,
or has given up the lock and calls the function of a timer. -/
inductive Sweep (C : Type*)
  | asleep
  | looking (c : Option C)
  | calling (c : C)
  deriving DecidableEq

structure State (C F : Type*) where
  ticks : Int32
  callqueue : List C
  timer : C → Timer F
  /-- The static `sctp_os_timer_next`. -/
  next : Option C
  sweep : Sweep C
  /-- The functions that were called, the newest first. -/
  called : List (C × F)

/-- A call of `sctp_os_timer_start`, of `sctp_os_timer_stop`; a tick; and what the timer thread
does with the timer it looks at, at the end of the queue and when a function returns. -/
inductive Choice (C F : Type*)
  | start (c : C) (toTicks : Int32) (func : F)
  | stop (c : C)
  | tick (delta : Int32)
  | fire
  | pass
  | finish
  | ret

variable [DecidableEq C]

/-- A timer leaves the queue if it is there. -/
def State.unlink (s : State C F) (c : C) : State C F :=
  if (s.timer c).pending then
    { s with
      next := if s.next = some c then tailqNext c s.callqueue else s.next
      callqueue := s.callqueue.erase c }
  else s

def State.setTimer (s : State C F) (c : C) (t : Timer F) : State C F :=
  { s with timer := Function.update s.timer c t }

def sctpOsTimerStart (c : C) (toTicks : Int32) (func : F) (s : State C F) : State C F :=
  let s := s.unlink c
  let toTicks := if toTicks ≤ 0 then 1 else toTicks
  let s := s.setTimer c { time := s.ticks + toTicks, func, active := true, pending := true }
  { s with callqueue := s.callqueue ++ [c] }

/-- `sctp_os_timer_stop`, with what it returns. -/
def sctpOsTimerStop (c : C) (s : State C F) : Bool × State C F :=
  if !(s.timer c).pending then (false, s.setTimer c { s.timer c with active := false })
  else (true, (s.unlink c).setTimer c { s.timer c with active := false, pending := false })

def Sweep.locked : Sweep C → Bool
  | .looking _ => true
  | _ => false

def State.due (s : State C F) (c : C) : Bool := (s.timer c).time ≤ s.ticks

/-- The sweep takes a timer that is due out of the queue and calls its function. -/
def State.fire (s : State C F) (c : C) : State C F :=
  { s with
    next := tailqNext c s.callqueue
    callqueue := s.callqueue.erase c
    timer := Function.update s.timer c { s.timer c with pending := false }
    sweep := .calling c
    called := (c, (s.timer c).func) :: s.called }

def exec (s : State C F) : Choice C F → Option (State C F)
  | .start c toTicks func =>
    if s.sweep.locked then none else some (sctpOsTimerStart c toTicks func s)
  | .stop c => if s.sweep.locked then none else some (sctpOsTimerStop c s).2
  | .tick delta =>
    match s.sweep with
    | .asleep => some { s with ticks := s.ticks + delta, sweep := .looking s.callqueue.head? }
    | _ => none
  | .fire =>
    match s.sweep with
    | .looking (some c) => if s.due c then some (s.fire c) else none
    | _ => none
  | .pass =>
    match s.sweep with
    | .looking (some c) =>
      if s.due c then none else some { s with sweep := .looking (tailqNext c s.callqueue) }
    | _ => none
  | .finish =>
    match s.sweep with
    | .looking none => some { s with next := none, sweep := .asleep }
    | _ => none
  | .ret =>
    match s.sweep with
    | .calling _ => some { s with sweep := .looking s.next }
    | _ => none

/-- The timers from the start of usrsctp on. -/
def callout (C F : Type*) [DecidableEq C] : Machine (State C F) (Choice C F) where
  init s := s.ticks = 0 ∧ s.callqueue = [] ∧ (∀ c, (s.timer c).pending = false) ∧ s.next = none ∧
    s.sweep = .asleep ∧ s.called = []
  exec := exec

/-- The steps, with their guards. -/
inductive Steps (s : State C F) : Choice C F → State C F → Prop
  | start : s.sweep.locked = false →
      Steps s (.start c toTicks func) (sctpOsTimerStart c toTicks func s)
  | stop : s.sweep.locked = false → Steps s (.stop c) (sctpOsTimerStop c s).2
  | tick : s.sweep = .asleep → Steps s (.tick delta)
      { s with ticks := s.ticks + delta, sweep := .looking s.callqueue.head? }
  | fire : s.sweep = .looking (some c) → s.due c = true → Steps s .fire (s.fire c)
  | pass : s.sweep = .looking (some c) → s.due c = false →
      Steps s .pass { s with sweep := .looking (tailqNext c s.callqueue) }
  | finish : s.sweep = .looking none → Steps s .finish { s with next := none, sweep := .asleep }
  | ret : s.sweep = .calling c → Steps s .ret { s with sweep := .looking s.next }

theorem steps_of_exec {s s' : State C F} {i : Choice C F} (h : exec s i = some s') :
    Steps s i s' := by
  cases i with
  | start c toTicks func | stop c =>
    simp only [exec, Option.ite_none_left_eq_some, Bool.not_eq_true, Option.some.injEq] at h
    obtain ⟨hfree, rfl⟩ := h
    constructor
    exact hfree
  | tick delta =>
    cases hw : s.sweep with
    | asleep =>
      simp only [exec, hw, Option.some.injEq] at h
      exact h ▸ .tick hw
    | looking c | calling c => simp [exec, hw] at h
  | fire =>
    match hw : s.sweep with
    | .asleep | .calling c | .looking none => simp [exec, hw] at h
    | .looking (some c) =>
      simp only [exec, hw, Option.ite_none_right_eq_some, Option.some.injEq] at h
      obtain ⟨hdue, rfl⟩ := h
      exact .fire hw hdue
  | pass =>
    match hw : s.sweep with
    | .asleep | .calling c | .looking none => simp [exec, hw] at h
    | .looking (some c) =>
      simp only [exec, hw, Option.ite_none_left_eq_some, Bool.not_eq_true,
        Option.some.injEq] at h
      obtain ⟨hdue, rfl⟩ := h
      exact .pass hw hdue
  | finish =>
    match hw : s.sweep with
    | .asleep | .calling c | .looking (some c) => simp [exec, hw] at h
    | .looking none =>
      simp only [exec, hw, Option.some.injEq] at h
      exact h ▸ .finish hw
  | ret =>
    match hw : s.sweep with
    | .asleep | .looking c => simp [exec, hw] at h
    | .calling c =>
      simp only [exec, hw, Option.some.injEq] at h
      exact h ▸ .ret hw

/-! ## The queue -/

/-- The timer that the sweep looks at next. -/
def State.cursor (s : State C F) : Option C :=
  match s.sweep with
  | .asleep => none
  | .looking c => c
  | .calling _ => s.next

/-- The time of the started timer does not overflow. -/
def NoOverflow (s : State C F) : Choice C F → Prop
  | .start _ toTicks _ => s.ticks.toInt + (if toTicks ≤ 0 then 1 else toTicks).toInt < 2147483648
  | _ => True

instance (s : State C F) : ∀ i, Decidable (NoOverflow s i)
  | .start .. => inferInstanceAs (Decidable (_ < _))
  | .stop _ | .tick _ | .fire | .pass | .finish | .ret => inferInstanceAs (Decidable True)

/-- The queue and its cursor; when no time has overflowed (`strict`), the sweep has left no timer
behind that is due. -/
structure Inv (strict : Bool) (s : State C F) : Prop where
  nodup : s.callqueue.Nodup
  mem_iff : ∀ c, c ∈ s.callqueue ↔ (s.timer c).pending = true
  cursor : Cursor (fun c => strict = true → s.due c = false) s.callqueue s.cursor
  asleep : s.sweep = .asleep → s.next = none

variable {s s' : State C F} {strict : Bool}

theorem unlink_frame (s : State C F) (c : C) : (s.unlink c).ticks = s.ticks ∧
    (s.unlink c).timer = s.timer ∧ (s.unlink c).sweep = s.sweep ∧
    (s.unlink c).called = s.called := by
  unfold State.unlink
  split <;> exact ⟨rfl, rfl, rfl, rfl⟩

theorem Inv.mem_unlink (h : Inv strict s) (c d : C) :
    d ∈ (s.unlink c).callqueue ↔ d ∈ s.callqueue ∧ d ≠ c := by
  unfold State.unlink
  split
  · change d ∈ s.callqueue.erase c ↔ _
    rw [h.nodup.mem_erase_iff, and_comm]
  · rename_i hc
    refine ⟨fun hd => ⟨hd, ?_⟩, fun hd => hd.1⟩
    rintro rfl
    exact hc ((h.mem_iff d).mp hd)

/-- A timer leaves the queue while the lock is free. -/
theorem Inv.cursor_unlink (h : Inv strict s) (hfree : s.sweep.locked = false) (c : C) :
    Cursor (fun c => strict = true → s.due c = false) (s.unlink c).callqueue
      (s.unlink c).cursor := by
  unfold State.unlink
  split
  · rename_i hc
    have hremove := h.cursor.remove h.nodup ((h.mem_iff c).mpr hc)
    cases hs : s.sweep with
    | looking c => rw [hs] at hfree; cases hfree
    | asleep =>
      have hcur : s.cursor = none := by simp only [State.cursor, hs]
      rw [hcur, if_neg nofun] at hremove
      simpa only [State.cursor, hs] using hremove
    | calling d =>
      have hcur : s.cursor = s.next := by simp only [State.cursor, hs]
      rw [hcur] at hremove
      simpa only [State.cursor, hs] using hremove
  · exact h.cursor

theorem Inv.asleep_unlink (h : Inv strict s) (c : C) (hs : s.sweep = .asleep) :
    (s.unlink c).next = none := by
  unfold State.unlink
  split
  · simp only [h.asleep hs, reduceCtorEq, if_false]
  · exact h.asleep hs

theorem Inv.nodup_unlink (h : Inv strict s) (c : C) : (s.unlink c).callqueue.Nodup := by
  unfold State.unlink
  split
  · exact h.nodup.erase c
  · exact h.nodup

theorem lt_add_toTicks {ticks toTicks : Int32}
    (h : ticks.toInt + (if toTicks ≤ 0 then 1 else toTicks).toInt < 2147483648) :
    ¬ ticks + (if toTicks ≤ 0 then 1 else toTicks) ≤ ticks := by
  have hpos : 0 < (if toTicks ≤ 0 then 1 else toTicks).toInt := by
    split
    · decide
    · rename_i hle
      simpa [Int32.le_iff_toInt_le] using hle
  have hlow := ticks.le_toInt
  rw [Int32.le_iff_toInt_le, Int32.toInt_add, Int.bmod_eq_of_le (by omega) (by omega)]
  omega

theorem Inv.start (h : Inv strict s) (hfree : s.sweep.locked = false) {c : C} {toTicks : Int32}
    {func : F} (hok : strict = true → NoOverflow s (.start c toTicks func)) :
    Inv strict (sctpOsTimerStart c toTicks func s) := by
  obtain ⟨hticks, htimer, hsweep, -⟩ := unlink_frame s c
  have hnot : c ∉ (s.unlink c).callqueue := fun hc => ((h.mem_unlink c c).mp hc).2 rfl
  constructor
  · exact List.Nodup.append (h.nodup_unlink c) (List.nodup_singleton c)
      (List.disjoint_singleton.mpr hnot)
  · intro d
    change d ∈ (s.unlink c).callqueue ++ [c] ↔
      (Function.update (s.unlink c).timer c _ d).pending = _
    rw [List.mem_append, List.mem_singleton, h.mem_unlink]
    by_cases hd : d = c
    · simp [hd]
    · simp [hd, h.mem_iff, htimer]
  · refine Cursor.insertTail ((h.cursor_unlink hfree c).imp fun d hd hdue hstrict => ?_)
      fun hstrict => ?_
    · have hne : d ≠ c := ((h.mem_unlink c d).mp hd).2
      simp only [State.due, sctpOsTimerStart, State.setTimer, Function.update_of_ne hne, htimer,
        hticks]
      exact hdue hstrict
    · simp only [State.due, sctpOsTimerStart, State.setTimer, Function.update_self, hticks]
      exact decide_eq_false (lt_add_toTicks (hok hstrict))
  · intro hs
    exact h.asleep_unlink c (hsweep ▸ hs)

theorem Inv.stop (h : Inv strict s) (hfree : s.sweep.locked = false) (c : C) :
    Inv strict (sctpOsTimerStop c s).2 := by
  obtain ⟨hticks, htimer, hsweep, -⟩ := unlink_frame s c
  -- the time of the timer is as it was
  have hdue : ∀ (t : Timer F), t.time = (s.timer c).time → ∀ d,
      (Function.update s.timer c t d).time = (s.timer d).time := by
    intro t ht d
    by_cases hd : d = c
    · rw [hd, Function.update_self, ht]
    · rw [Function.update_of_ne hd]
  unfold sctpOsTimerStop
  split
  · rename_i hc
    refine ⟨h.nodup, fun d => ?_, h.cursor.imp fun d _ hd hstrict => ?_, h.asleep⟩
    · refine (h.mem_iff d).trans ?_
      by_cases hd : d = c
      · simp [State.setTimer, hd]
      · simp [State.setTimer, hd]
    · simp only [State.due, State.setTimer, hdue]
      exact hd hstrict
  · refine ⟨h.nodup_unlink c, fun d => ?_, (h.cursor_unlink hfree c).imp fun d _ hd hstrict => ?_,
      fun hs => h.asleep_unlink c (hsweep ▸ hs)⟩
    · change d ∈ (s.unlink c).callqueue ↔ (Function.update (s.unlink c).timer c _ d).pending = _
      rw [h.mem_unlink, htimer]
      by_cases hd : d = c
      · simp [hd]
      · simp [hd, h.mem_iff]
    · simp only [State.due, State.setTimer, htimer, hticks, hdue]
      exact hd hstrict

omit [DecidableEq C] in
theorem Inv.cursor_of (h : Inv strict s) {cur : Option C} (hcur : s.cursor = cur) :
    Cursor (fun c => strict = true → s.due c = false) s.callqueue cur := hcur ▸ h.cursor

theorem Inv.fire (h : Inv strict s) {c : C} (hw : s.sweep = .looking (some c)) :
    Inv strict (s.fire c) := by
  have hcursor := h.cursor_of (by rw [State.cursor, hw])
  have hremove := hcursor.remove h.nodup hcursor.mem
  rw [if_pos rfl] at hremove
  refine ⟨h.nodup.erase c, fun d => ?_, hremove.imp fun d hd hP hstrict => ?_, nofun⟩
  · simp only [State.fire]
    rw [h.nodup.mem_erase_iff, h.mem_iff]
    by_cases hd : d = c
    · simp [hd]
    · simp [hd]
  · have hne : d ≠ c := (h.nodup.mem_erase_iff.mp hd).1
    simp only [State.due, State.fire, Function.update_of_ne hne]
    exact hP hstrict

theorem Inv.exec (h : Inv strict s) {i : Choice C F} (hok : strict = true → NoOverflow s i)
    (hs : exec s i = some s') : Inv strict s' := by
  cases steps_of_exec hs with
  | start hfree => exact h.start hfree hok
  | stop hfree => exact h.stop hfree _
  | tick hw => exact ⟨h.nodup, h.mem_iff, .first, nofun⟩
  | fire hw hdue => exact h.fire hw
  | pass hw hdue =>
    have hcursor := h.cursor_of (by rw [State.cursor, hw])
    exact ⟨h.nodup, h.mem_iff, hcursor.pass h.nodup fun _ => hdue, nofun⟩
  | finish hw =>
    have hcursor := h.cursor_of (by rw [State.cursor, hw])
    exact ⟨h.nodup, h.mem_iff, hcursor, fun _ => rfl⟩
  | ret hw =>
    have hcursor := h.cursor_of (by rw [State.cursor, hw])
    exact ⟨h.nodup, h.mem_iff, hcursor, nofun⟩

theorem Inv.init (h : (callout C F).init s) (strict : Bool) : Inv strict s := by
  obtain ⟨-, hqueue, hpending, hnext, hsweep, -⟩ := h
  refine ⟨hqueue ▸ List.nodup_nil, fun c => ?_, ?_, fun _ => hnext⟩
  · simp [hqueue, hpending]
  · rw [State.cursor, hsweep, hqueue]
    exact .first

theorem inv_of_reachable (h : (callout C F).Reachable s) : Inv false s :=
  h.invariant (fun _ h => .init h false) fun _ _ _ h hs => h.exec nofun hs

/-! ## Alarms -/

/-- The alarms that are armed are the timers that are pending. -/
def State.alarms (s : State C F) : Alarms C Int32 F where
  now := s.ticks
  armed c := if (s.timer c).pending then some ((s.timer c).time, (s.timer c).func) else none
  rung := s.called

/-- What a step is to the alarms. -/
def State.op (s : State C F) : Choice C F → Option (Alarms.Op C Int32 F)
  | .start c toTicks func => some (.arm c (s.ticks + if toTicks ≤ 0 then 1 else toTicks) func)
  | .stop c => some (.disarm c)
  | .tick delta => some (.setNow (s.ticks + delta))
  | .fire => s.cursor.map .ring
  | .pass | .finish | .ret => none

omit [DecidableEq C] in
theorem alarms_congr (hticks : s'.ticks = s.ticks) (htimer : s'.timer = s.timer)
    (hcalled : s'.called = s.called) : s'.alarms = s.alarms := by
  rw [State.alarms, State.alarms, hticks, htimer, hcalled]

/-- The alarms when one timer is set. -/
theorem alarms_setTimer (s : State C F) (c : C) (t : Timer F) :
    (s.setTimer c t).alarms = { s.alarms with
      armed := Function.update s.alarms.armed c
        (if t.pending then some (t.time, t.func) else none) } := by
  refine congrArg (Alarms.mk _ · _) (funext fun d => ?_)
  by_cases hd : d = c
  · subst hd
    simp [State.setTimer]
  · simp [State.setTimer, Function.update_of_ne hd, State.alarms]

theorem Inv.alarms_step (h : Inv strict s) {i : Choice C F} (hs : Callout.exec s i = some s') :
    (s.op i).elim (s'.alarms = s.alarms) (fun op => s.alarms.exec op = some s'.alarms) := by
  have hunlink : ∀ c, (s.unlink c).alarms = s.alarms := by
    intro c
    obtain ⟨hticks, htimer, -, hcalled⟩ := unlink_frame s c
    exact alarms_congr hticks htimer hcalled
  cases steps_of_exec hs with
  | start hfree =>
    rename_i c toTicks func
    obtain ⟨hticks, -, -, -⟩ := unlink_frame s c
    change s.alarms.exec (.arm ..) = some (((s.unlink c).setTimer c _).alarms)
    rw [alarms_setTimer, hunlink, hticks]
    rfl
  | stop hfree =>
    rename_i c
    change s.alarms.exec (.disarm c) = _
    unfold sctpOsTimerStop
    split
    · rename_i hc
      rw [alarms_setTimer, if_neg (by simpa using hc)]
      rfl
    · rw [alarms_setTimer, hunlink]
      rfl
  | tick hw => rfl
  | fire hw hdue =>
    rename_i c
    have hcursor := h.cursor_of (by rw [State.cursor, hw])
    have hpending := (h.mem_iff c).mp hcursor.mem
    have hop : s.op .fire = some (.ring c) := by simp only [State.op, State.cursor, hw, Option.map]
    have harmed : s.alarms.armed c = some ((s.timer c).time, (s.timer c).func) := by
      simp only [State.alarms, hpending, if_true]
    have htime : (s.timer c).time ≤ s.alarms.now := of_decide_eq_true hdue
    have hfire : (s.fire c).alarms =
        { (s.setTimer c { s.timer c with pending := false }).alarms with
          rung := (c, (s.timer c).func) :: s.called } := rfl
    rw [hop, hfire, alarms_setTimer]
    simp only [Option.elim, Alarms.exec, harmed, if_pos htime, Bool.false_eq_true, if_false]
    rfl
  | pass hw hdue => rfl
  | finish hw => rfl
  | ret hw => rfl

/-- The step starts the timer. -/
def Choice.starts (c : C) : Choice C F → Bool
  | .start d _ _ => d = c
  | _ => false

/-- A timer has been called, or is pending, once for each start at most. -/
theorem Inv.calls_run (h : Inv false s) {is : List (Choice C F)}
    (hr : (callout C F).run s is = some s') (c : C) :
    s'.alarms.calls c ≤ s.alarms.calls c + is.countP (Choice.starts c) := by
  induction is generalizing s with
  | nil =>
    cases hr
    exact Nat.le_add_right ..
  | cons i is ih =>
    obtain ⟨u, hu, hr⟩ := Option.bind_eq_some_iff.mp hr
    have hrest := ih (h.exec nofun hu) hr
    have hstep : u.alarms.calls c ≤ s.alarms.calls c + if i.starts c then 1 else 0 := by
      have halarms := h.alarms_step hu
      cases hop : s.op i with
      | none =>
        rw [hop] at halarms
        rw [show u.alarms = s.alarms from halarms]
        exact Nat.le_add_right ..
      | some op =>
        rw [hop] at halarms
        have harms : op.arms c = i.starts c := by
          cases i with
          | start d toTicks func | stop d | tick delta => cases hop; rfl
          | fire =>
            obtain ⟨d, -, rfl⟩ := Option.map_eq_some_iff.mp hop
            rfl
          | pass | finish | ret => cases hop
        rw [← harms]
        exact Alarms.calls_exec halarms c
    rw [List.countP_cons]
    omega

/-- **Timers are alarms.** In every interleaving of starts and stops, from the functions that are
called and from other threads, with the sweeps: the queue holds the pending timers, each once, and
what the sweep looks at next is one of them; each step is the operation of an alarm clock that it
stands for, so a function is called only for a timer that is pending and due, which is not pending
any more then; and a timer is called no more often than it was started. -/
theorem callout_refines {s₀ : State C F} (h : (callout C F).init s₀) {is : List (Choice C F)}
    (hr : (callout C F).run s₀ is = some s) :
    (s.callqueue.Nodup ∧ (∀ c, c ∈ s.callqueue ↔ (s.timer c).pending = true) ∧
      ∀ c, s.cursor = some c → c ∈ s.callqueue) ∧
    (∀ i s', Callout.exec s i = some s' → (s.op i).elim (s'.alarms = s.alarms)
      (fun op => s.alarms.exec op = some s'.alarms)) ∧
    ∀ c, s.called.countP (fun x => x.1 = c) ≤ is.countP (Choice.starts c) := by
  have hinv := inv_of_reachable ((Machine.Reachable.init h).run hr)
  refine ⟨⟨hinv.nodup, hinv.mem_iff, fun c hc => (hinv.cursor_of hc).mem⟩,
    fun i s' hs => hinv.alarms_step hs, fun c => ?_⟩
  have hcalls := (Inv.init h false).calls_run hr c
  obtain ⟨-, -, hpending, -, -, hcalled⟩ := h
  have hnone : s₀.alarms.calls c = 0 := by
    simp [Alarms.calls, State.alarms, hcalled, hpending]
  have hle : s.called.countP (fun x => x.1 = c) ≤ s.alarms.calls c := Nat.le_add_right ..
  omega

/-- The timers before anything was started. -/
def fresh : State Nat Nat := ⟨0, [], fun _ => ⟨0, 0, false, false⟩, none, .asleep, []⟩

theorem fresh_init : (callout Nat Nat).init fresh := ⟨rfl, rfl, fun _ => rfl, rfl, rfl, rfl⟩

/-- Two timers, of which one is due at the tick and starts itself again. -/
def periodic : List (Choice Nat Nat) :=
  [.start 0 50 7, .start 1 10 8, .tick 10, .pass, .fire, .start 1 10 8, .ret, .finish]

theorem periodic_refines : ∃ s, (callout Nat Nat).run fresh periodic = some s ∧
    s.called = [(1, 8)] ∧ s.callqueue.Nodup ∧
    s.called.countP (fun x => x.1 = 1) ≤ periodic.countP (Choice.starts 1) := by
  have hrun : ((callout Nat Nat).run fresh periodic).any (fun s => s.called = [(1, 8)]) = true := by
    decide +kernel
  obtain ⟨s, hr, hcalled⟩ := (Option.any_eq_true ..).mp hrun
  obtain ⟨⟨hnodup, -, -⟩, -, hcount⟩ := callout_refines fresh_init hr
  exact ⟨s, hr, of_decide_eq_true hcalled, hnodup, hcount 1⟩

/-! ## Sweeps -/

/-- The number of timers that are due. -/
def State.dueCount (s : State C F) : Nat := s.callqueue.countP s.due

def Choice.isTick : Choice C F → Bool
  | .tick _ => true
  | _ => false

def Choice.isFire : Choice C F → Bool
  | .fire => true
  | _ => false

theorem dueCount_unlink (s : State C F) (c : C) :
    (s.unlink c).callqueue.countP s.due ≤ s.dueCount := by
  unfold State.unlink
  split
  · exact List.Sublist.countP_le s.callqueue.erase_sublist
  · exact Nat.le_refl _

theorem due_setTimer (c : C) (t : Timer F) (ht : t.time = (s.timer c).time) :
    (s.setTimer c t).due = s.due := by
  funext d
  by_cases hd : d = c
  · simp [State.due, State.setTimer, hd, ht]
  · simp [State.due, State.setTimer, hd]

/-- A start adds no timer that is due. -/
theorem dueCount_start {c : C} {toTicks : Int32} {func : F} (h : Inv strict s)
    (hok : NoOverflow s (.start c toTicks func)) :
    (sctpOsTimerStart c toTicks func s).dueCount ≤ s.dueCount := by
  obtain ⟨hticks, htimer, -, -⟩ := unlink_frame s c
  let s' := sctpOsTimerStart c toTicks func s
  have hself : s'.due c = false := by
    simp only [s', State.due, sctpOsTimerStart, State.setTimer, Function.update_self, hticks]
    exact decide_eq_false (lt_add_toTicks hok)
  have hother : ∀ d ∈ (s.unlink c).callqueue, s'.due d = true → s.due d = true := by
    intro d hd hdue
    have hne : d ≠ c := ((h.mem_unlink c d).mp hd).2
    simpa only [s', State.due, sctpOsTimerStart, State.setTimer, Function.update_of_ne hne, htimer,
      hticks] using hdue
  calc s'.dueCount
      = (s.unlink c).callqueue.countP s'.due := by
        change ((s.unlink c).callqueue ++ [c]).countP s'.due = _
        rw [List.countP_append, List.countP_singleton, hself]
        rfl
    _ ≤ (s.unlink c).callqueue.countP s.due := List.countP_mono_left hother
    _ ≤ s.dueCount := dueCount_unlink s c

theorem dueCount_stop (s : State C F) (c : C) : (sctpOsTimerStop c s).2.dueCount ≤ s.dueCount := by
  obtain ⟨hticks, htimer, -, -⟩ := unlink_frame s c
  unfold sctpOsTimerStop
  split
  · have hdue : (s.setTimer c { s.timer c with active := false }).due = s.due :=
      due_setTimer c _ rfl
    exact Nat.le_of_eq (congrArg s.callqueue.countP hdue)
  · have hdue : ((s.unlink c).setTimer c { s.timer c with
        active := false, pending := false }).due = s.due := by
      rw [due_setTimer c _ (by rw [htimer])]
      funext d
      rw [State.due, State.due, htimer, hticks]
    rw [State.dueCount, hdue]
    exact dueCount_unlink s c

theorem dueCount_fire {c : C} (hc : c ∈ s.callqueue) (hdue : s.due c = true) :
    (s.fire c).dueCount + 1 = s.dueCount := by
  have hsame : (s.fire c).due = s.due := due_setTimer c { s.timer c with pending := false } rfl
  have hperm := (List.perm_cons_erase hc).countP_eq s.due
  rw [List.countP_cons, if_pos hdue] at hperm
  rw [State.dueCount, hsame]
  exact hperm.symm

theorem dueCount_exec (h : Inv true s) {i : Choice C F} (hok : NoOverflow s i)
    (hi : i.isTick = false) (hs : exec s i = some s') :
    s'.dueCount + (if i.isFire then 1 else 0) ≤ s.dueCount := by
  cases steps_of_exec hs with
  | start hfree => exact dueCount_start h hok
  | stop hfree => exact dueCount_stop s _
  | tick hw => cases hi
  | fire hw hdue =>
    have hcursor := h.cursor_of (by rw [State.cursor, hw])
    exact Nat.le_of_eq (dueCount_fire hcursor.mem hdue)
  | pass hw hdue => exact Nat.le_refl _
  | finish hw => exact Nat.le_refl _
  | ret hw => exact Nat.le_refl _

/-- Between two ticks, no more functions are called than timers were due. -/
theorem ranked_fire : ((callout C F).restrict NoOverflow).Ranked (Inv true)
    (fun i => !i.isTick) Choice.isFire State.dueCount where
  keeps h _ hs := by
    obtain ⟨hok, hs⟩ := Machine.restrict_exec_iff.mp hs
    exact h.exec (fun _ => hok) hs
  le h hi hs := by
    obtain ⟨hok, hs⟩ := Machine.restrict_exec_iff.mp hs
    exact Nat.le_trans (Nat.le_add_right ..) (dueCount_exec h hok (by simpa using hi) hs)
  lt h hi hf hs := by
    obtain ⟨hok, hs⟩ := Machine.restrict_exec_iff.mp hs
    have hle := dueCount_exec h hok (by simpa using hi) hs
    rw [if_pos hf] at hle
    exact hle

/-- The steps of the timer thread, once a sweep has begun. -/
def Choice.isSweep : Choice C F → Bool
  | .fire | .pass | .finish | .ret => true
  | _ => false

/-- The steps that are left of a sweep, when nobody else changes the queue. -/
def State.sweepSteps (s : State C F) : Nat :=
  match s.sweep with
  | .asleep => 0
  | .looking c => 2 * remaining s.callqueue c + 1
  | .calling _ => 2 * remaining s.callqueue s.next + 2

theorem sweepSteps_exec (h : Inv strict s) {i : Choice C F} (hi : i.isSweep = true)
    (hs : exec s i = some s') : s'.sweepSteps < s.sweepSteps := by
  cases steps_of_exec hs with
  | start hfree | stop hfree | tick hw => cases hi
  | fire hw hdue =>
    have hcursor := h.cursor_of (by rw [State.cursor, hw])
    have hremaining := (hcursor.remaining h.nodup).2
    simp only [State.sweepSteps, hw, State.fire]
    omega
  | pass hw hdue =>
    have hcursor := h.cursor_of (by rw [State.cursor, hw])
    have hremaining := (hcursor.remaining h.nodup).1
    simp only [State.sweepSteps, hw]
    omega
  | finish hw => simp [State.sweepSteps, hw]
  | ret hw => simp [State.sweepSteps, hw]

theorem ranked_sweep : ((callout C F).restrict NoOverflow).Ranked (Inv true)
    Choice.isSweep Choice.isSweep State.sweepSteps where
  keeps h _ hs := by
    obtain ⟨hok, hs⟩ := Machine.restrict_exec_iff.mp hs
    exact h.exec (fun _ => hok) hs
  le h hi hs := Nat.le_of_lt (sweepSteps_exec h hi (Machine.restrict_exec_iff.mp hs).2)
  lt h _ hi hs := sweepSteps_exec h hi (Machine.restrict_exec_iff.mp hs).2

/-- The timer thread rests only when it sleeps. -/
theorem asleep_of_atRest (h : ((callout C F).restrict NoOverflow).AtRest Choice.isSweep s) :
    s.sweep = .asleep := by
  have hnone : ∀ i : Choice C F, i.isSweep = true → exec s i = none := by
    intro i hi
    have hrest := h i hi
    cases i with
    | start c toTicks func | stop c | tick delta => cases hi
    | fire | pass | finish | ret => exact hrest
  match hw : s.sweep with
  | .asleep => rfl
  | .looking none =>
    have hfinish := hnone .finish rfl
    simp [exec, hw] at hfinish
  | .looking (some c) =>
    have hfire := hnone .fire rfl
    have hpass := hnone .pass rfl
    cases hdue : s.due c with
    | true => simp [exec, hw, hdue] at hfire
    | false => simp [exec, hw, hdue] at hpass
  | .calling c =>
    have hret := hnone .ret rfl
    simp [exec, hw] at hret

/-- **Sweeps are complete.** Let no start overflow the ticks. Whenever the timer thread sleeps, no
pending timer is due. Until the next tick no more functions are called than timers are due, however
many are started and stopped meanwhile. And a sweep comes to its end when the functions that it
calls return. -/
theorem sweep_complete (h : ((callout C F).restrict NoOverflow).Reachable s) :
    (s.sweep = .asleep → ∀ c, (s.timer c).pending = true → s.ticks < (s.timer c).time) ∧
    (∀ is s', (∀ i ∈ is, Choice.isTick i = false) →
      ((callout C F).restrict NoOverflow).run s is = some s' →
      is.countP Choice.isFire ≤ s.callqueue.countP s.due) ∧
    ∃ is s', (∀ i ∈ is, Choice.isSweep i = true) ∧
      ((callout C F).restrict NoOverflow).run s is = some s' ∧ s'.sweep = .asleep := by
  have hinv : Inv true s :=
    h.restrict_invariant (fun _ h => .init h true) fun _ _ _ h hok hs => h.exec (fun _ => hok) hs
  refine ⟨fun hw c hc => ?_, fun is s' htick hr => ?_, ?_⟩
  · have hcursor := hinv.cursor_of (by rw [State.cursor, hw])
    have hdue := hcursor.all c ((hinv.mem_iff c).mpr hc) rfl
    exact Int32.not_le.mp (of_decide_eq_false hdue)
  · exact ranked_fire.count_le hinv (fun i hi => by rw [htick i hi]; rfl) hr
  · obtain ⟨is, s', hall, hr, hrest⟩ := ranked_sweep.exists_rest (fun _ hi => hi) hinv
    exact ⟨is, s', hall, hr, asleep_of_atRest hrest⟩

theorem periodic_complete : ∃ s, ((callout Nat Nat).restrict NoOverflow).Reachable s ∧
    (s.timer 1).pending = true ∧ s.ticks < (s.timer 1).time := by
  obtain ⟨s, hs, hw, hc⟩ := Machine.Reachable.exists_run
    (M := (callout Nat Nat).restrict NoOverflow)
    (P := fun s => s.sweep = .asleep ∧ (s.timer 1).pending = true) (.init fresh_init) periodic
    (by decide +kernel)
  exact ⟨s, hs, hc, (sweep_complete hs).1 hw 1 hc⟩

-- a time that overflows is due at once
example : ((callout Nat Nat).run fresh [.tick 2147483647, .finish, .start 0 1 7]).any
    (fun s => s.sweep = .asleep ∧ (s.timer 0).pending = true ∧ s.due 0 = true) = true := by
  decide +kernel

end Sctp4Nat.Callout
