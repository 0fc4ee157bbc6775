import Mathlib.Algebra.BigOperators.Group.Finset.Piecewise
import Mathlib.Data.Fintype.Basic
import Mathlib.Algebra.Order.BigOperators.Group.Finset
import Sctp4Nat.Machine.Basic

/-! # Interleaved threads

A configuration is a shared state and the local state of each thread. One step lets one thread
act, so the runs of `threads` are all interleavings. Invariants that count threads are stated
with `Config.total`, the sum of a weight over all threads: a step of `t` exchanges the old weight
of `t` for the new one (`Config.total_set`) and every other thread keeps its own. -/

namespace Sctp4Nat

structure Config (T S L : Type*) where
  shared : S
  thread : T → L

namespace Config

variable {T S L : Type*}

section
variable [DecidableEq T]

/-- The configuration after a step of `t`. -/
def set (c : Config T S L) (t : T) (s : S) (l : L) : Config T S L :=
  ⟨s, Function.update c.thread t l⟩

@[simp] theorem set_shared (c : Config T S L) : (c.set t s l).shared = s := rfl

@[simp] theorem set_thread_self (c : Config T S L) : (c.set t s l).thread t = l :=
  Function.update_self ..

theorem set_thread_of_ne (c : Config T S L) (h : u ≠ t) :
    (c.set t s l).thread u = c.thread u :=
  Function.update_of_ne h ..

@[simp] theorem set_self (c : Config T S L) (t : T) : c.set t c.shared (c.thread t) = c :=
  congrArg (Config.mk _) (Function.update_eq_self t c.thread)

/-- A property of all threads after a step: of the new local state of the acting thread, and of
the others' as they were. -/
theorem forall_set {c : Config T S L} {P : T → L → Prop} (hself : P t l)
    (hrest : ∀ u, u ≠ t → P u (c.thread u)) : ∀ u, P u ((c.set t s l).thread u) := by
  intro u
  by_cases h : u = t
  · subst h; rwa [set_thread_self]
  · rw [set_thread_of_ne c h]; exact hrest u h

/-- A property of one thread after a step was either gained by the acting thread or had
before. -/
theorem of_set {c : Config T S L} (P : L → Prop) (h : P ((c.set t s l).thread u)) :
    u = t ∧ P l ∨ u ≠ t ∧ P (c.thread u) := by
  by_cases hu : u = t
  · subst hu; exact .inl ⟨rfl, by rwa [set_thread_self] at h⟩
  · exact .inr ⟨hu, by rwa [set_thread_of_ne c hu] at h⟩

end

variable [Fintype T]

/-- The sum of a weight over all threads. -/
def total (c : Config T S L) (f : L → Nat) : Nat := ∑ t, f (c.thread t)

theorem total_set [DecidableEq T] (c : Config T S L) (t : T) (s : S) (l : L) (f : L → Nat) :
    (c.set t s l).total f + f (c.thread t) = c.total f + f l := by
  have hcomp : (fun u => f ((c.set t s l).thread u)) =
      Function.update (fun u => f (c.thread u)) t (f l) :=
    Function.comp_update f c.thread t l
  rw [total, hcomp, Finset.sum_update_of_mem (Finset.mem_univ t), total,
    ← Finset.add_sum_erase _ _ (Finset.mem_univ t), Finset.sdiff_singleton_eq_erase]
  omega

theorem le_total (c : Config T S L) (t : T) (f : L → Nat) : f (c.thread t) ≤ c.total f :=
  Finset.single_le_sum (f := fun u => f (c.thread u)) (fun _ _ => Nat.zero_le _)
    (Finset.mem_univ t)

theorem total_pos {c : Config T S L} {f : L → Nat} (h : f (c.thread t) = 1) : 0 < c.total f := by
  have := c.le_total t f
  omega

theorem total_set_eq [DecidableEq T] (c : Config T S L) (t : T) (s : S) (l : L) (f : L → Nat) :
    (c.set t s l).total f = c.total f + f l - f (c.thread t) := by
  have := c.total_set t s l f
  omega

theorem total_eq_zero {c : Config T S L} {f : L → Nat} (h : ∀ t, f (c.thread t) = 0) :
    c.total f = 0 :=
  Finset.sum_eq_zero fun t _ => h t

end Config

/-- All interleavings of threads that start in the local state `l₀`. -/
def threads {T S L α : Type*} [DecidableEq T] (s₀ : S → Prop) (l₀ : L)
    (step : T → S → L → α → Option (S × L)) : Machine (Config T S L) (T × α) where
  init c := s₀ c.shared ∧ ∀ t, c.thread t = l₀
  exec c i := (step i.1 c.shared (c.thread i.1) i.2).map fun r => c.set i.1 r.1 r.2

theorem threads_exec {T S L α : Type*} [DecidableEq T] {s₀ : S → Prop} {l₀ : L}
    {step : T → S → L → α → Option (S × L)} {c c' : Config T S L} {t : T} {a : α} :
    (threads s₀ l₀ step).exec c (t, a) = some c' ↔
      ∃ s l, step t c.shared (c.thread t) a = some (s, l) ∧ c' = c.set t s l := by
  simp only [threads, Option.map_eq_some_iff, Prod.exists]
  exact ⟨fun ⟨s, l, h, e⟩ => ⟨s, l, h, e.symm⟩, fun ⟨s, l, h, e⟩ => ⟨s, l, h, e.symm⟩⟩

theorem threads_exec_of {T S L α : Type*} [DecidableEq T] {s₀ : S → Prop} {s : S} {l₀ l l' : L}
    {step : T → S → L → α → Option (S × L)} {c : Config T S L} {t : T} {a : α}
    (hl : c.thread t = l) (h : step t c.shared l a = some (s, l')) :
    (threads s₀ l₀ step).exec c (t, a) = some (c.set t s l') :=
  threads_exec.mpr ⟨s, l', hl ▸ h, rfl⟩

end Sctp4Nat
