import Sctp4Nat.Java.Basic
import Sctp4Nat.Machine.Basic

/-! # `Sctp.init` and `Sctp.finish`

The engine counter, the flag `initialized` and the native stack below them. `init` does not count
(its test is commented out), so `finish` goes on to the native stack unless the counter has
wrapped around. The JNI function `usrsctp_finish` calls the function of the same name up to six
times and returns `JNI_TRUE` when fewer than five of the calls were followed by a wait: a last
call that succeeds is reported as a failure. -/

namespace Sctp4Nat

/-- A call of the JNI function `usrsctp_finish`: what the stack answered and what it returned. -/
structure NativeFinish where
  results : List Int32
  returned : Bool
  deriving DecidableEq, Repr

structure Engine where
  sctpEngineCount : Int32
  initialized : Bool
  /-- The native stack is up. -/
  up : Bool
  /-- The calls of the JNI function so far, the newest first. -/
  natives : List NativeFinish
  deriving DecidableEq, Repr

namespace Engine

def start : Engine where
  sctpEngineCount := 0
  initialized := false
  up := false
  natives := []

/-- `usrsctp_finish()` of the stack, which is torn down when the answer is `0`. -/
def usrsctpFinish (answer : Int32) (up : Bool) : Int32 × Bool :=
  if up then (answer, answer ≠ 0) else (0, false)

/-- The retry loop, from the call with the number `count` on; `answers` are the answers of a stack
that is up. It ends with the last value of `count`. -/
def finishLoop (answers : Nat → Int32) (count : Nat) (up : Bool) : Nat × List Int32 × Bool :=
  let (r, up) := usrsctpFinish (answers count) up
  if r ≠ 0 ∧ count < 5 then
    let (last, results, up) := finishLoop answers (count + 1) up
    (last, r :: results, up)
  else (count, [r], up)
termination_by 5 - count

/-- The JNI function `usrsctp_finish`. -/
def nativeFinish (answers : Nat → Int32) : Java Engine Bool := do
  let e ← get
  let (count, results, up) := finishLoop answers 0 e.up
  let returned := if count ≥ 5 then false else true
  set { e with up, natives := ⟨results, returned⟩ :: e.natives }
  pure returned

def init : Java Engine Unit := do
  if !(← get).initialized then
    modify fun e => { e with up := true, initialized := true }

def finish (answers : Nat → Int32) : Java Engine Unit := do
  modify fun e => { e with sctpEngineCount := e.sctpEngineCount - 1 }
  if (← get).sctpEngineCount > 0 then
    return
  Java.tryFinally
    (do
      if ← nativeFinish answers then
        modify fun e => { e with initialized := false })
    (do
      if (← get).initialized then
        modify fun e => { e with initialized := false }
        throw (.ioException "Failed to shutdown usrsctp stack. Sctp.initialized set to false!"))

/-! ## The retry loop -/

variable {answers : Nat → Int32} {e : Engine}

theorem finishLoop_down (count : Nat) : finishLoop answers count false = (count, [0], false) := by
  rw [finishLoop]
  rfl

/-- On a stack that is up the loop ends with the first answer `0`, or with the sixth answer. -/
theorem finishLoop_up {count : Nat} (hcount : count ≤ 5) :
    ∃ last results, finishLoop answers count true = (last, results, decide (answers last ≠ 0)) ∧
      last ≤ 5 ∧ (∀ i, count ≤ i → i < last → answers i ≠ 0) ∧
      (last < 5 → answers last = 0) ∧ (0 ∈ results ↔ answers last = 0) := by
  -- induction on the waits that are left
  induction hleft : 5 - count generalizing count with
  | zero =>
    obtain rfl : count = 5 := by omega
    refine ⟨5, [answers 5], ?_, Nat.le_refl 5, fun i h h' => by omega, fun h => by omega, ?_⟩
    · rw [finishLoop]
      simp [usrsctpFinish]
    · simp [eq_comm]
  | succ left ih =>
    by_cases hzero : answers count = 0
    · refine ⟨count, [0], ?_, hcount, fun i h h' => by omega, fun _ => hzero, by simp [hzero]⟩
      rw [finishLoop]
      simp [usrsctpFinish, hzero]
    · obtain ⟨last, results, hrun, hlast, hne, hfirst, hmem⟩ :=
        @ih (count + 1) (by omega) (by omega)
      refine ⟨last, answers count :: results, ?_, hlast, fun i h h' => ?_, hfirst, ?_⟩
      · rw [finishLoop]
        simp [usrsctpFinish, hzero, show count < 5 by omega, hrun]
      · rcases Nat.eq_or_lt_of_le h with rfl | h
        · exact hzero
        · exact hne i h h'
      · rw [List.mem_cons, hmem, or_iff_right (Ne.symm hzero)]

/-! ## `finish` -/

theorem init_run : (init.run e) = (.ok (), if e.initialized then e else
    { e with up := true, initialized := true }) := by
  cases h : e.initialized <;> simp [init, Java.run_bind, h]

/-- `finish` when others are left, by the counter. -/
theorem finish_counted (h : 0 < e.sctpEngineCount - 1) :
    (finish answers).run e = (.ok (), { e with sctpEngineCount := e.sctpEngineCount - 1 }) := by
  simp [finish, Java.run_bind, h]

theorem nativeFinish_run {last : Nat} {results : List Int32} {up : Bool}
    (hloop : finishLoop answers 0 e.up = (last, results, up)) :
    (nativeFinish answers).run e =
      (.ok (decide (last < 5)), { e with up, natives := ⟨results, last < 5⟩ :: e.natives }) := by
  by_cases hlast : last < 5
  · simp [nativeFinish, Java.run_bind, hloop, hlast, Nat.not_le.mpr hlast]
  · simp [nativeFinish, Java.run_bind, hloop, hlast, Nat.not_lt.mp hlast]

/-- `finish` when the counter says that no other is left: whatever the stack answers, the flag is
cleared. -/
theorem finish_native (h : ¬ 0 < e.sctpEngineCount - 1) {last : Nat} {results : List Int32}
    {up : Bool} (hloop : finishLoop answers 0 e.up = (last, results, up)) :
    (finish answers).run e =
      (if e.initialized = true ∧ ¬ last < 5 then
        .error (.ioException "Failed to shutdown usrsctp stack. Sctp.initialized set to false!")
      else .ok (),
      { sctpEngineCount := e.sctpEngineCount - 1, initialized := false, up,
        natives := ⟨results, last < 5⟩ :: e.natives }) := by
  have hnative := nativeFinish_run (e := { e with sctpEngineCount := e.sctpEngineCount - 1 }) hloop
  rw [finish, Java.run_bind_ok (Java.run_modify _ e), Java.run_bind_ok (Java.run_get _), if_neg h,
    Java.run_tryFinally, Java.run_bind_ok hnative]
  by_cases hlast : last < 5 <;> cases e.initialized <;> simp [hlast, Java.run_bind]

/-- `finish` calls the JNI function unless the counter says that others are left. -/
theorem finish_natives_length :
    ((finish answers).run e).2.natives.length =
      if 0 < e.sctpEngineCount - 1 then e.natives.length else e.natives.length + 1 := by
  split
  next h => rw [finish_counted h]
  next h =>
    rcases hloop : finishLoop answers 0 e.up with ⟨last, results, up⟩
    rw [finish_native h hloop]
    rfl

/-! ## What `finish` reports -/

/-- How a call of `finish` ended: whether it threw an `IOException`, and whether the stack was up
then. -/
structure Report where
  threw : Bool
  up : Bool
  deriving DecidableEq, Repr

/-- The engine, and the reports of the calls of `finish`, the newest first. -/
structure Calls where
  engine : Engine
  reports : List Report

inductive Call
  | init
  | finish (answers : Nat → Int32)

def isIOExn : Except Throwable Unit → Bool
  | .error (.ioException _) => true
  | _ => false

def Calls.exec (s : Calls) : Call → Calls
  | .init => { s with engine := (init.run s.engine).2 }
  | .finish answers =>
    let (outcome, engine) := (finish answers).run s.engine
    { engine, reports := ⟨isIOExn outcome, engine.up⟩ :: s.reports }

/-- Every run of calls of `init` and `finish`, with every sequence of answers of the stack. -/
def calls : Machine Calls Call where
  init s := s = ⟨start, []⟩
  exec s i := some (s.exec i)

/-- Every `finish` threw just when the stack was still up, and every call of the JNI function
returned `JNI_TRUE` just when one of the answers was `0`. -/
structure Truthful (s : Calls) : Prop where
  finish : ∀ r ∈ s.reports, r.threw = true ↔ r.up = true
  native : ∀ n ∈ s.engine.natives, n.returned = true ↔ 0 ∈ n.results

/-- When a call of `finish` tells the truth, from the state before it and the answers: the stack
is down already, or the counter does not skip it and one of the first five answers is `0`, or all
six are not and the flag is set. -/
def tells (s : Calls) : Call → Prop
  | .init => True
  | .finish answers =>
    s.engine.up = false ∨ (¬ 0 < s.engine.sctpEngineCount - 1 ∧
      ((∃ i < 5, answers i = 0) ∨ (s.engine.initialized = true ∧ ∀ i < 6, answers i ≠ 0)))

instance (s : Calls) : (i : Call) → Decidable (tells s i)
  | .init => inferInstanceAs (Decidable True)
  | .finish _ => inferInstanceAs (Decidable (_ ∨ _))

theorem Truthful.congr {s s' : Calls} (hr : s'.reports = s.reports)
    (hn : s'.engine.natives = s.engine.natives) : Truthful s' ↔ Truthful s := by
  constructor
  · exact fun h => ⟨hr ▸ h.finish, hn ▸ h.native⟩
  · exact fun h => ⟨hr ▸ h.finish, hn ▸ h.native⟩

/-- The report of one more call of `finish`, and of the JNI function if it was called. -/
theorem truthful_cons {s s' : Calls} (r : Report) (ns : List NativeFinish)
    (hr : s'.reports = r :: s.reports) (hn : s'.engine.natives = ns ++ s.engine.natives) :
    Truthful s' ↔ Truthful s ∧ (r.threw = true ↔ r.up = true) ∧
      ∀ n ∈ ns, n.returned = true ↔ 0 ∈ n.results := by
  constructor
  · rintro ⟨hfinish, hnative⟩
    rw [hr, List.forall_mem_cons] at hfinish
    rw [hn, List.forall_mem_append] at hnative
    exact ⟨⟨hfinish.2, hnative.2⟩, hfinish.1, hnative.1⟩
  · rintro ⟨⟨hfinish, hnative⟩, hr', hn'⟩
    refine ⟨?_, ?_⟩
    · rw [hr, List.forall_mem_cons]
      exact ⟨hr', hfinish⟩
    · rw [hn, List.forall_mem_append]
      exact ⟨hn', hnative⟩

theorem truthful_init (s : Calls) : Truthful (s.exec .init) ↔ Truthful s := by
  refine Truthful.congr rfl ?_
  rw [Calls.exec, init_run]
  split <;> rfl

theorem truthful_native {s : Calls} {last : Nat} {results : List Int32} {up : Bool}
    (h : ¬ 0 < s.engine.sctpEngineCount - 1)
    (hloop : finishLoop answers 0 s.engine.up = (last, results, up)) :
    Truthful (s.exec (.finish answers)) ↔ Truthful s ∧
      ((s.engine.initialized = true ∧ ¬ last < 5) ↔ up = true) ∧ (last < 5 ↔ 0 ∈ results) := by
  have hrun := finish_native h hloop
  rw [truthful_cons (s := s) ⟨s.engine.initialized = true ∧ ¬ last < 5, up⟩
    [⟨results, last < 5⟩] ?_ (by rw [Calls.exec, hrun]; rfl)]
  · simp
  · rw [Calls.exec, hrun]
    by_cases hthrows : s.engine.initialized = true ∧ ¬ last < 5
    · simp only [if_pos hthrows, decide_eq_true hthrows, isIOExn]
    · simp only [if_neg hthrows, decide_eq_false hthrows, isIOExn]

theorem truthful_finish (s : Calls) (answers : Nat → Int32) :
    Truthful (s.exec (.finish answers)) ↔ Truthful s ∧ tells s (.finish answers) := by
  by_cases h : 0 < s.engine.sctpEngineCount - 1
  · rw [truthful_cons (s := s) ⟨false, s.engine.up⟩ []
      (by rw [Calls.exec, finish_counted h]; rfl) (by rw [Calls.exec, finish_counted h]; rfl)]
    simp [tells, h]
  cases hup : s.engine.up with
  | false =>
    have hloop : finishLoop answers 0 s.engine.up = (0, [0], false) := by
      rw [hup, finishLoop_down]
    rw [truthful_native h hloop]
    simp [tells, hup]
  | true =>
    obtain ⟨last, results, hloop, hle, hne, hfirst, hmem⟩ :=
      @finishLoop_up answers 0 (Nat.zero_le 5)
    rw [truthful_native h (hup ▸ hloop), hmem]
    refine and_congr_right fun _ => ?_
    rcases Nat.lt_or_ge last 5 with hlast | hlast
    · -- an answer `0` among the first five ends the loop
      have hzero := hfirst hlast
      have htells : ∃ i < 5, answers i = 0 := ⟨last, hlast, hzero⟩
      simp [tells, h, hlast, hzero, htells]
    · obtain rfl : last = 5 := by omega
      have hnone : ¬ ∃ i < 5, answers i = 0 := fun ⟨i, hi, hz⟩ => hne i (Nat.zero_le i) hi hz
      have hall : (∀ i < 6, answers i ≠ 0) ↔ answers 5 ≠ 0 := by
        refine ⟨fun h => h 5 (by omega), fun h i hi => ?_⟩
        rcases Nat.eq_or_lt_of_le (Nat.le_of_lt_succ hi) with rfl | hi
        · exact h
        · exact hne i (Nat.zero_le i) hi
      simp only [tells, hup, h, hnone, hall]
      by_cases hz : answers 5 = 0 <;> simp [hz]

/-- The runs in which every `finish` reports the truth about the stack are the runs in which every
call meets the condition `tells`. -/
theorem truthful_iff {s : Calls} :
    (calls.restrict tells).Reachable s ↔ calls.Reachable s ∧ Truthful s := by
  refine Machine.Reachable.restrict_iff ?_ ?_
  · rintro s rfl
    exact ⟨fun r hr => absurd hr List.not_mem_nil, fun n hn => absurd hn List.not_mem_nil⟩
  · rintro s i s' _ hs
    obtain rfl : s.exec i = s' := Option.some.inj hs
    cases i with
    | init => rw [truthful_init, tells, and_true]
    | finish answers => exact truthful_finish s answers

/-- One `init` and one `finish`, during which the stack is busy for five calls and torn down by
the sixth: `finish` throws and the stack is down. -/
theorem finish_reports_failure : ∃ s, calls.Reachable s ∧ ¬ Truthful s := by
  let answers : Nat → Int32 := fun i => if i < 5 then -1 else 0
  let s : Calls := (Calls.mk start []).exec .init
  have hs : calls.Reachable s := .step (.init rfl) (i := .init) rfl
  refine ⟨s.exec (.finish answers), hs.step (i := .finish answers) rfl, fun h => ?_⟩
  have htells : ¬ tells s (.finish answers) := by decide
  exact htells ((truthful_finish s answers).mp h).2

/-! ## The engines -/

section
variable (T : Type)

/-- The engine and its users: who called `init`, who called `finish`, and for every call of
`finish` that went on to the native stack, the numbers of the calls of `finish` and of `init` by
then. -/
structure Users where
  engine : Engine
  inits : List T
  finishes : List T
  invoked : List (Nat × Nat)

inductive UserCall
  | init (user : T)
  | finish (user : T) (answers : Nat → Int32)

end

variable {T : Type} [DecidableEq T]

/-- Each user calls `init` once, and `finish` once after it. -/
def Users.exec (s : Users T) : UserCall T → Option (Users T)
  | .init user =>
    if user ∈ s.inits then none
    else some { s with engine := (Engine.init.run s.engine).2, inits := user :: s.inits }
  | .finish user answers =>
    if user ∈ s.inits ∧ user ∉ s.finishes then
      let engine := ((finish answers).run s.engine).2
      some { s with
        engine
        finishes := user :: s.finishes
        invoked :=
          if engine.natives.length = s.engine.natives.length then s.invoked
          else (s.finishes.length + 1, s.inits.length) :: s.invoked }
    else none

def users (T : Type) [DecidableEq T] : Machine (Users T) (UserCall T) where
  init s := s = ⟨start, [], [], []⟩
  exec := Users.exec

/-- The native stack was finished only by the last outstanding `finish`, and the flag is set while
a `finish` is outstanding. -/
structure Counted (s : Users T) : Prop where
  last : ∀ n ∈ s.invoked, n.1 = n.2
  initialized : s.finishes.length < s.inits.length → s.engine.initialized = true

/-- A `finish` is called when exactly one is outstanding, or when the counter skips the stack. -/
def isLast (s : Users T) : UserCall T → Prop
  | .init _ => True
  | .finish _ _ =>
    s.inits.length = s.finishes.length + 1 ∨ 0 < s.engine.sctpEngineCount - 1

instance (s : Users T) : (i : UserCall T) → Decidable (isLast s i)
  | .init _ => inferInstanceAs (Decidable True)
  | .finish _ _ => inferInstanceAs (Decidable (_ ∨ _))

/-- What a step of a user is. -/
theorem exec_cases {s s' : Users T} {i : UserCall T} (h : s.exec i = some s') :
    (∃ user, i = .init user ∧ s'.engine = (Engine.init.run s.engine).2 ∧
      s'.inits.length = s.inits.length + 1 ∧ s'.finishes = s.finishes ∧ s'.invoked = s.invoked) ∨
    (∃ user answers, i = .finish user answers ∧
      s'.engine = ((finish answers).run s.engine).2 ∧ s'.inits = s.inits ∧
      s'.finishes.length = s.finishes.length + 1 ∧
      s'.invoked = if 0 < s.engine.sctpEngineCount - 1 then s.invoked
        else (s.finishes.length + 1, s.inits.length) :: s.invoked) := by
  cases i with
  | init user =>
    simp only [Users.exec, Option.ite_none_left_eq_some, Option.some.injEq] at h
    obtain ⟨_, rfl⟩ := h
    exact .inl ⟨user, rfl, rfl, rfl, rfl, rfl⟩
  | finish user answers =>
    simp only [Users.exec, Option.ite_none_right_eq_some, Option.some.injEq] at h
    obtain ⟨_, rfl⟩ := h
    refine .inr ⟨user, answers, rfl, rfl, rfl, rfl, ?_⟩
    simp only [finish_natives_length]
    split <;> simp

/-- A step keeps the record of the calls that went on to the stack clean exactly when it is
allowed. -/
theorem last_step {s s' : Users T} {i : UserCall T} (h : s.exec i = some s') :
    (∀ n ∈ s'.invoked, n.1 = n.2) ↔ (∀ n ∈ s.invoked, n.1 = n.2) ∧ isLast s i := by
  obtain ⟨_, rfl, _, _, _, hinvoked⟩ | ⟨_, _, rfl, _, _, _, hinvoked⟩ := exec_cases h
  · rw [hinvoked, isLast, and_true]
  · rw [hinvoked, isLast]
    split
    next hskip => simp [hskip]
    next hskip =>
      rw [List.forall_mem_cons, and_comm, or_iff_left hskip]
      exact and_congr_right fun _ => eq_comm

/-- Along every run, as long as only the last outstanding `finish` goes on to the stack, the flag
is set while one is outstanding. -/
theorem initialized_of_last {s : Users T} (h : (users T).Reachable s)
    (hlast : ∀ n ∈ s.invoked, n.1 = n.2) (hout : s.finishes.length < s.inits.length) :
    s.engine.initialized = true := by
  induction h with
  | init h =>
    subst h
    cases hout
  | step _ hs ih =>
    obtain ⟨_, rfl, hengine, _⟩ | ⟨_, _, rfl, hengine, hinits, hfinishes, hinvoked⟩ := exec_cases hs
    · rw [hengine, init_run]
      split
      · assumption
      · rfl
    · split at hinvoked
      next hskip =>
        rw [hengine, finish_counted hskip]
        exact ih (hinvoked ▸ hlast) (by rw [hinits] at hout; omega)
      next =>
        -- the one that went on was the last, so none is outstanding now
        rw [hinvoked] at hlast
        have hnow := hlast _ List.mem_cons_self
        rw [hinits, hfinishes] at hout
        omega

/-- The runs in which the engine is counted are those in which every `finish` is the last
outstanding one, or is skipped by the wrapped counter. -/
theorem counted_iff {s : Users T} :
    ((users T).restrict isLast).Reachable s ↔ (users T).Reachable s ∧ Counted s := by
  have hstep : ∀ (s : Users T) i s', (users T).Reachable s → (users T).exec s i = some s' →
      ((∀ n ∈ s'.invoked, n.1 = n.2) ↔ (∀ n ∈ s.invoked, n.1 = n.2) ∧ isLast s i) :=
    fun s i s' _ hs => last_step hs
  rw [Machine.Reachable.restrict_iff (P := fun s => ∀ n ∈ s.invoked, n.1 = n.2) ?_ hstep]
  · refine and_congr_right fun h => ⟨fun hlast => ⟨hlast, ?_⟩, fun hc => hc.last⟩
    exact initialized_of_last h hlast
  · rintro s rfl n hn
    exact absurd hn List.not_mem_nil

/-- Two users: the first to finish tears the stack down under the other. -/
theorem first_finish_tears_down : ∃ s, (users Nat).Reachable s ∧ ¬ Counted s := by
  let s : Users Nat := ⟨(init.run start).2, [1, 0], [], []⟩
  have hs : (users Nat).Reachable s :=
    .step (.step (.init rfl) (i := .init 0) rfl) (i := .init 1) rfl
  let i : UserCall Nat := .finish 0 fun _ => 0
  have hfinish : s.exec i = some _ := rfl
  refine ⟨_, hs.step (i := i) hfinish, fun hc => ?_⟩
  have hlast : ¬ isLast s i := by decide
  exact hlast ((last_step hfinish).mp hc.last).2

end Engine

end Sctp4Nat
