import Mathlib.Data.List.Pairwise
import Mathlib.Logic.Function.Basic
import Sctp4Nat.Machine.Basic

/-! # Worker pools

Tasks are queued in the order of their submission and taken from the queue by workers. A worker
performs the effect of its task at some later moment, or drops the task without it; in between
the other workers go on. Effects therefore need not come in the order of submission, not even
with a queue that is first in, first out.

`clash` says which tasks must keep their order. They do when a task is submitted only while no
task that clashes with it is pending (`WorkerPool.in_order`). -/

namespace Sctp4Nat

/-- A task and its number in the order of submission. -/
structure Numbered (τ : Type*) where
  index : Nat
  task : τ
  deriving DecidableEq, Repr

structure WorkerPool (W τ : Type*) where
  queue : List (Numbered τ)
  /-- The task that a worker has taken and neither performed nor dropped. -/
  held : W → Option (Numbered τ)
  /-- The tasks whose effect was performed, in that order. -/
  performed : List (Numbered τ)
  submitted : Nat

namespace WorkerPool

variable {W τ : Type*}

def empty (W τ : Type*) : WorkerPool W τ := ⟨[], fun _ => none, [], 0⟩

inductive Op (W τ : Type*)
  | submit (a : τ)
  | take (w : W)
  | perform (w : W)
  | drop (w : W)

variable [DecidableEq W]

def exec (s : WorkerPool W τ) : Op W τ → Option (WorkerPool W τ)
  | .submit a => some { s with
      queue := s.queue ++ [⟨s.submitted, a⟩]
      submitted := s.submitted + 1 }
  | .take w =>
    match s.held w, s.queue with
    | none, p :: queue => some { s with queue, held := Function.update s.held w (some p) }
    | _, _ => none
  | .perform w => (s.held w).map fun p => { s with
      held := Function.update s.held w none
      performed := s.performed ++ [p] }
  | .drop w => (s.held w).map fun _ => { s with held := Function.update s.held w none }

theorem exec_take {s s' : WorkerPool W τ} (h : s.exec (.take w) = some s') :
    ∃ p rest, s.queue = p :: rest ∧
      s' = { s with queue := rest, held := Function.update s.held w (some p) } := by
  simp only [exec] at h
  split at h
  · cases h; exact ⟨_, _, ‹_›, rfl⟩
  · cases h

def machine (W τ : Type*) [DecidableEq W] : Machine (WorkerPool W τ) (Op W τ) where
  init s := s = empty W τ
  exec := exec

/-- A task that waits in the queue or in the hands of a worker. -/
def Pending (s : WorkerPool W τ) (p : Numbered τ) : Prop := p ∈ s.queue ∨ ∃ w, s.held w = some p

variable (clash : τ → τ → Prop)

/-- A task is submitted only when nothing pending clashes with it. -/
def Waits (s : WorkerPool W τ) : Op W τ → Prop
  | .submit a => (∀ p ∈ s.queue, ¬ clash p.task a) ∧ ∀ w, ∀ p ∈ s.held w, ¬ clash p.task a
  | _ => True

structure Inv (s : WorkerPool W τ) : Prop where
  pending_lt : ∀ p, s.Pending p → p.index < s.submitted
  performed_lt : ∀ p ∈ s.performed, p.index < s.submitted
  queue : s.queue.Pairwise fun p q => ¬ clash p.task q.task
  queue_held : ∀ p ∈ s.queue, ∀ w q, s.held w = some q → ¬ clash p.task q.task
  held : ∀ w u p q, w ≠ u → s.held w = some p → s.held u = some q → ¬ clash p.task q.task
  later : ∀ p ∈ s.performed, ∀ q, s.Pending q → clash p.task q.task → p.index < q.index
  in_order : s.performed.Pairwise fun p q => clash p.task q.task → p.index < q.index

variable {clash} {s s' : WorkerPool W τ}

theorem held_update {f : W → Option (Numbered τ)} (h : Function.update f w x u = some p) :
    u = w ∧ x = some p ∨ u ≠ w ∧ f u = some p := by
  by_cases hu : u = w
  · subst hu; exact .inl ⟨rfl, by rwa [Function.update_self] at h⟩
  · exact .inr ⟨hu, by rwa [Function.update_of_ne hu] at h⟩

variable (hsymm : ∀ a b, clash a b → clash b a)

omit [DecidableEq W] in
include hsymm in
theorem Inv.submit (h : Inv clash s) (hw : s.Waits clash (.submit a)) :
    Inv clash { s with
      queue := s.queue ++ [⟨s.submitted, a⟩]
      submitted := s.submitted + 1 } := by
  have hpending : ∀ p, Pending { s with
      queue := s.queue ++ [⟨s.submitted, a⟩]
      submitted := s.submitted + 1 } p → s.Pending p ∨ p = ⟨s.submitted, a⟩ := by
    rintro p (hp | hp)
    · rcases List.mem_append.mp hp with hp | hp
      · exact .inl (.inl hp)
      · exact .inr (List.mem_singleton.mp hp)
    · exact .inl (.inr hp)
  refine ⟨?_, ?_, ?_, ?_, h.held, ?_, h.in_order⟩
  · intro p hp
    rcases hpending p hp with hp | rfl
    · exact Nat.lt_succ_of_lt (h.pending_lt p hp)
    · exact Nat.lt_succ_self _
  · exact fun p hp => Nat.lt_succ_of_lt (h.performed_lt p hp)
  · refine List.pairwise_append.mpr ⟨h.queue, List.pairwise_singleton .., ?_⟩
    intro p hp q hq
    rw [List.mem_singleton.mp hq]
    exact hw.1 p hp
  · intro p hp w q hw' hc
    rcases List.mem_append.mp hp with hp | hp
    · exact h.queue_held p hp w q hw' hc
    · rw [List.mem_singleton.mp hp] at hc
      exact hw.2 w q hw' (hsymm _ _ hc)
  · intro p hp q hq hc
    rcases hpending q hq with hq | rfl
    · exact h.later p hp q hq hc
    · exact h.performed_lt p hp

include hsymm in
theorem Inv.take (h : Inv clash s) (w : W) (hq : s.queue = p :: rest) :
    Inv clash { s with queue := rest, held := Function.update s.held w (some p) } := by
  have hp : p ∈ s.queue := hq ▸ List.mem_cons_self ..
  have hmem : ∀ q ∈ rest, q ∈ s.queue := fun q hm => hq ▸ List.mem_cons_of_mem _ hm
  have hpair := List.pairwise_cons.mp (hq ▸ h.queue)
  have hpending : ∀ q,
      Pending { s with queue := rest, held := Function.update s.held w (some p) } q →
        s.Pending q := by
    rintro q (hm | ⟨u, hu⟩)
    · exact .inl (hmem q hm)
    · rcases held_update hu with ⟨_, he⟩ | ⟨_, hu⟩
      · cases he; exact .inl hp
      · exact .inr ⟨u, hu⟩
  refine ⟨fun q hm => h.pending_lt q (hpending q hm), h.performed_lt, hpair.2, ?_, ?_,
    fun q hm r hr => h.later q hm r (hpending r hr), h.in_order⟩
  · intro q hm u r hu hc
    rcases held_update hu with ⟨_, he⟩ | ⟨_, hu⟩
    · cases he; exact hpair.1 q hm (hsymm _ _ hc)
    · exact h.queue_held q (hmem q hm) u r hu hc
  · intro u v q r huv hu hv hc
    rcases held_update hu with ⟨eu, he⟩ | ⟨_, hu'⟩
    · cases he
      rcases held_update hv with ⟨ev, _⟩ | ⟨_, hv'⟩
      · exact huv (eu.trans ev.symm)
      · exact h.queue_held _ hp v r hv' hc
    · rcases held_update hv with ⟨_, he⟩ | ⟨_, hv'⟩
      · cases he
        exact h.queue_held _ hp u q hu' (hsymm _ _ hc)
      · exact h.held u v q r huv hu' hv' hc

/-- A worker lets go of its task; nothing else changes. -/
theorem Inv.release (h : Inv clash s) (w : W) :
    Inv clash { s with held := Function.update s.held w none } := by
  have hold : ∀ u q, Function.update s.held w none u = some q → u ≠ w ∧ s.held u = some q := by
    intro u q hu
    rcases held_update hu with ⟨_, he⟩ | hu
    · cases he
    · exact hu
  have hpending : ∀ q, Pending { s with held := Function.update s.held w none } q →
      s.Pending q := by
    rintro q (hm | ⟨u, hu⟩)
    · exact .inl hm
    · exact .inr ⟨u, (hold u q hu).2⟩
  exact ⟨fun q hm => h.pending_lt q (hpending q hm), h.performed_lt, h.queue,
    fun q hm u r hu => h.queue_held q hm u r (hold u r hu).2,
    fun u v q r huv hu hv => h.held u v q r huv (hold u q hu).2 (hold v r hv).2,
    fun q hm r hr => h.later q hm r (hpending r hr), h.in_order⟩

include hsymm in
theorem Inv.perform (h : Inv clash s) (hw : s.held w = some p) :
    Inv clash { s with
      held := Function.update s.held w none
      performed := s.performed ++ [p] } := by
  obtain ⟨pending_lt, performed_lt, queue, queue_held, held, later, in_order⟩ := h.release w
  refine ⟨pending_lt, ?_, queue, queue_held, held, ?_, ?_⟩
  · intro q hq
    rcases List.mem_append.mp hq with hq | hq
    · exact performed_lt q hq
    · rw [List.mem_singleton.mp hq]; exact h.pending_lt p (.inr ⟨w, hw⟩)
  · -- a task still pending cannot clash with the one just performed
    intro q hq r hr hc
    rcases List.mem_append.mp hq with hq | hq
    · exact later q hq r hr hc
    · obtain rfl := List.mem_singleton.mp hq
      rcases hr with hr | ⟨u, hu⟩
      · exact absurd (hsymm _ _ hc) (h.queue_held r hr w q hw)
      · rcases held_update hu with ⟨_, he⟩ | ⟨hne, hu⟩
        · cases he
        · exact absurd hc (h.held w u q r hne.symm hw hu)
  · refine List.pairwise_append.mpr ⟨in_order, List.pairwise_singleton .., ?_⟩
    intro q hq r hr hc
    obtain rfl := List.mem_singleton.mp hr
    exact h.later q hq r (.inr ⟨w, hw⟩) hc

include hsymm in
theorem Inv.exec (h : Inv clash s) {op : Op W τ} (hw : s.Waits clash op)
    (he : s.exec op = some s') : Inv clash s' := by
  cases op with
  | submit a => cases he; exact h.submit hsymm hw
  | take w =>
    obtain ⟨p, rest, hq, rfl⟩ := exec_take he
    exact h.take hsymm w hq
  | perform w =>
    obtain ⟨p, hp, rfl⟩ := Option.map_eq_some_iff.mp he
    exact h.perform hsymm hp
  | drop w =>
    obtain ⟨p, hp, rfl⟩ := Option.map_eq_some_iff.mp he
    exact h.release w

omit [DecidableEq W] in
theorem Inv.empty : Inv clash (WorkerPool.empty W τ) := by
  refine ⟨?_, ?_, .nil, ?_, ?_, ?_, .nil⟩
  · rintro p (hp | ⟨_, hp⟩) <;> cases hp
  · intro p hp; cases hp
  · intro p hp; cases hp
  · intro w u p q _ hp; cases hp
  · intro p hp; cases hp

include hsymm in
/-- Tasks that clash are performed in the order of their submission. -/
theorem in_order [∀ s op, Decidable (Waits (W := W) clash s op)]
    (h : ((machine W τ).restrict (Waits clash)).Reachable s) :
    s.performed.Pairwise fun p q => clash p.task q.task → p.index < q.index := by
  suffices hinv : Inv clash s from hinv.in_order
  induction h with
  | init h => cases h; exact Inv.empty
  | step _ hs ih =>
    obtain ⟨hw, hs⟩ := Machine.restrict_exec_iff.mp hs
    exact ih.exec hsymm hw hs

end WorkerPool

end Sctp4Nat
