import Mathlib.Logic.Relation

/-! # Machines with explicit choices

A machine is a set of initial states and a partial step function. The label of a step fixes
every choice made in it, by the scheduler or by the environment, so that a machine runs on a
list of labels and a state is reachable when some list leads to it.

Runs that meet a condition at every step are the runs of a restricted machine
(`Machine.restrict`). What a property says about the past of a run is noted by an observer
(`Machine.watch`). A trace is a list of events, the newest first; `Trace.Each` judges every
event of it against the events before. -/

namespace Sctp4Nat

structure Machine (σ ι : Type*) where
  init : σ → Prop
  exec : σ → ι → Option σ

namespace Machine

variable {σ τ ι κ : Type*}

/-- Run a machine on a list of labels; `none` when a step is not enabled. -/
def run (M : Machine σ ι) (s : σ) : List ι → Option σ
  | [] => some s
  | i :: is => (M.exec s i).bind fun s' => M.run s' is

inductive Reachable (M : Machine σ ι) : σ → Prop
  | init : M.init s → Reachable M s
  | step : Reachable M s → M.exec s i = some s' → Reachable M s'

variable {M : Machine σ ι}

theorem run_cons (h : M.exec s i = some s') (is : List ι) : M.run s (i :: is) = M.run s' is := by
  simp only [run, h, Option.bind_some]

theorem Reachable.run (h : M.Reachable s) {is : List ι} (hr : M.run s is = some s') :
    M.Reachable s' := by
  induction is generalizing s with
  | nil => cases hr; exact h
  | cons i is ih =>
    obtain ⟨u, hu, hr⟩ := Option.bind_eq_some_iff.mp hr
    exact ih (h.step hu) hr

/-- Some list of labels leads from one state to the other. -/
def Leads (M : Machine σ ι) : σ → σ → Prop :=
  Relation.ReflTransGen fun s s' => ∃ i, M.exec s i = some s'

theorem Leads.single (h : M.exec s i = some s') : M.Leads s s' :=
  Relation.ReflTransGen.single ⟨i, h⟩

theorem Reachable.leads (h : M.Reachable s) (hl : M.Leads s s') : M.Reachable s' := by
  induction hl with
  | refl => exact h
  | tail _ hs ih =>
    obtain ⟨i, hs⟩ := hs
    exact ih.step hs

/-- What holds at the start and is kept by every step holds in every reachable state. -/
theorem Reachable.invariant {P : σ → Prop} (hinit : ∀ s, M.init s → P s)
    (hstep : ∀ s i s', P s → M.exec s i = some s' → P s') (h : M.Reachable s) : P s := by
  induction h with
  | init h => exact hinit _ h
  | step _ hs ih => exact hstep _ _ _ ih hs

/-- A run that can be evaluated leads to a reachable state with the properties seen there. -/
theorem Reachable.exists_run (h : M.Reachable s) {P : σ → Prop} [DecidablePred P] (is : List ι)
    (hr : (M.run s is).any (fun s' => decide (P s')) = true) : ∃ s', M.Reachable s' ∧ P s' := by
  obtain ⟨s', hs', hp⟩ := (Option.any_eq_true ..).mp hr
  exact ⟨s', h.run hs', of_decide_eq_true hp⟩

/-- The runs of a machine all of whose steps meet `ok` in the state they start from. -/
def restrict (M : Machine σ ι) (ok : σ → ι → Prop) [∀ s i, Decidable (ok s i)] :
    Machine σ ι where
  init := M.init
  exec s i := if ok s i then M.exec s i else none

theorem restrict_exec_iff {ok : σ → ι → Prop} [∀ s i, Decidable (ok s i)] :
    (M.restrict ok).exec s i = some s' ↔ ok s i ∧ M.exec s i = some s' := by
  simp only [restrict]
  split <;> simp_all

/-- The rule for runs all of whose steps meet `ok`. -/
theorem Reachable.restrict_invariant {ok : σ → ι → Prop} [∀ s i, Decidable (ok s i)]
    {P : σ → Prop} (hinit : ∀ s, M.init s → P s)
    (hstep : ∀ s i s', P s → ok s i → M.exec s i = some s' → P s')
    (h : (M.restrict ok).Reachable s) : P s := by
  refine Reachable.invariant (M := M.restrict ok) hinit (fun s i s' hp hs => ?_) h
  obtain ⟨hok, hs⟩ := restrict_exec_iff.mp hs
  exact hstep s i s' hp hok hs

/-- A property that a step breaks exactly when it does not meet `ok` holds exactly where the runs
all of whose steps meet `ok` lead. -/
theorem Reachable.restrict_iff {ok : σ → ι → Prop} [∀ s i, Decidable (ok s i)] {P : σ → Prop}
    (hinit : ∀ s, M.init s → P s)
    (hstep : ∀ s i s', M.Reachable s → M.exec s i = some s' → (P s' ↔ P s ∧ ok s i)) :
    (M.restrict ok).Reachable s ↔ M.Reachable s ∧ P s := by
  constructor
  · intro h
    induction h with
    | init h => exact ⟨.init h, hinit _ h⟩
    | step _ hs ih =>
      obtain ⟨hok, hs⟩ := restrict_exec_iff.mp hs
      exact ⟨ih.1.step hs, (hstep _ _ _ ih.1 hs).mpr ⟨ih.2, hok⟩⟩
  · rintro ⟨h, hp⟩
    induction h with
    | init h => exact .init h
    | step h hs ih =>
      obtain ⟨hp, hok⟩ := (hstep _ _ _ h hs).mp hp
      exact (ih hp).step (restrict_exec_iff.mpr ⟨hok, hs⟩)

/-- A map of states under which every step of `M` is a step of `N` or no step at all. -/
structure Simulation (M : Machine σ ι) (N : Machine τ κ) (f : σ → τ) : Prop where
  init : M.init s → N.init (f s)
  step : M.exec s i = some s' → f s' = f s ∨ ∃ k, N.exec (f s) k = some (f s')

theorem Simulation.reachable {N : Machine τ κ} {f : σ → τ} (S : Simulation M N f)
    (h : M.Reachable s) : N.Reachable (f s) := by
  induction h with
  | init h => exact .init (S.init h)
  | step _ hs ih =>
    rcases S.step hs with he | ⟨k, hk⟩
    · rw [he]; exact ih
    · exact ih.step hk

theorem simulation_restrict {ok : σ → ι → Prop} [∀ s i, Decidable (ok s i)] :
    Simulation (M.restrict ok) M id :=
  ⟨fun h => h, fun h => .inr ⟨_, (restrict_exec_iff.mp h).2⟩⟩

theorem Reachable.of_restrict {ok : σ → ι → Prop} [∀ s i, Decidable (ok s i)]
    (h : (M.restrict ok).Reachable s) : M.Reachable s :=
  simulation_restrict.reachable h

/-- A machine with an observer that notes something of every step. -/
def watch (M : Machine σ ι) (start : τ) (note : τ → σ → ι → τ) : Machine (σ × τ) ι where
  init s := M.init s.1 ∧ s.2 = start
  exec s i := (M.exec s.1 i).map fun s' => (s', note s.2 s.1 i)

theorem watch_exec_iff {start : τ} {note : τ → σ → ι → τ} {s s' : σ × τ} :
    (M.watch start note).exec s i = some s' ↔
      M.exec s.1 i = some s'.1 ∧ s'.2 = note s.2 s.1 i := by
  simp only [watch, Option.map_eq_some_iff]
  constructor
  · rintro ⟨u, hu, rfl⟩
    exact ⟨hu, rfl⟩
  · rintro ⟨hu, hn⟩
    exact ⟨s'.1, hu, Prod.ext rfl hn.symm⟩

/-- The observer is there in every run and hinders none. -/
theorem watch_reachable_iff {start : τ} {note : τ → σ → ι → τ} :
    (∃ n, (M.watch start note).Reachable (s, n)) ↔ M.Reachable s := by
  have hsim : Simulation (M.watch start note) M Prod.fst :=
    ⟨fun h => h.1, fun h => .inr ⟨_, (watch_exec_iff.mp h).1⟩⟩
  constructor
  · rintro ⟨n, h⟩
    exact hsim.reachable h
  · intro h
    induction h with
    | init h => exact ⟨start, .init ⟨h, rfl⟩⟩
    | step _ hs ih =>
      obtain ⟨n, ih⟩ := ih
      exact ⟨_, ih.step (watch_exec_iff.mpr ⟨hs, rfl⟩)⟩

end Machine

namespace Trace

variable {α : Type*}

/-- Every event of a trace satisfies `P` together with the events before it. -/
def Each (P : α → List α → Prop) : List α → Prop
  | [] => True
  | e :: before => P e before ∧ Each P before

theorem Each.of_append {P : α → List α → Prop} {later earlier : List α} {e : α}
    (h : Each P (later ++ e :: earlier)) : P e earlier := by
  induction later with
  | nil => exact h.1
  | cons _ _ ih => exact ih h.2

end Trace

end Sctp4Nat
