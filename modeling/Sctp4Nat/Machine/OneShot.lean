import Mathlib.Order.BooleanAlgebra.Set
import Mathlib.Data.Set.Subsingleton
import Sctp4Nat.Machine.Basic

/-! # A cell that takes one value

Threads share a cell that takes one value and refuses every later one. A thread first decides to
write the cell (`commit`) and writes it in a later step (`write`). No write is refused exactly
when a thread commits itself only to a cell that is empty and that no other thread is going to
write. -/

namespace Sctp4Nat

@[ext] structure OneShot (X : Type*) where
  /-- The cell is empty. -/
  pending : Bool
  /-- The threads that are going to write the cell. -/
  committed : Set X
  /-- The threads whose write was refused. -/
  refused : Set X

namespace OneShot

variable {X : Type*}

/-- The steps, marked with whether they commit a thread. -/
inductive Step : OneShot X → Bool → OneShot X → Prop
  | other {a : OneShot X} : Step a false a
  | commit {a : OneShot X} (x : X) : x ∉ a.committed →
      Step a true { a with committed := insert x a.committed }
  | write {a : OneShot X} (x : X) : x ∈ a.committed →
      Step a false ⟨false, a.committed \ {x}, if a.pending then a.refused else insert x a.refused⟩

variable {a a' : OneShot X}

/-- Nobody has written the cell or is going to. -/
structure Free (a : OneShot X) : Prop where
  pending : a.pending = true
  committed : a.committed = ∅

/-- No write was refused, and none that is going to be made will be. -/
structure Once (a : OneShot X) : Prop where
  single : a.committed.Subsingleton
  pending : ∀ x ∈ a.committed, a.pending = true
  refused : a.refused = ∅

theorem Free.once (h : Free a) (hr : a.refused = ∅) : Once a where
  single := by rw [h.committed]; exact Set.subsingleton_empty
  pending _ _ := h.pending
  refused := hr

/-- After the commitment of a thread there is no refusal exactly when the cell was free. -/
theorem once_commit_iff {x : X} (hx : x ∉ a.committed) :
    Once { a with committed := insert x a.committed } ↔ Once a ∧ Free a := by
  constructor
  · intro h
    have hfree : Free a := by
      refine ⟨h.pending x (Set.mem_insert ..), Set.eq_empty_iff_forall_notMem.mpr fun y hy => ?_⟩
      have := h.single (Set.mem_insert_of_mem x hy) (Set.mem_insert ..)
      exact hx (this ▸ hy)
    exact ⟨hfree.once h.refused, hfree⟩
  · rintro ⟨h, hfree⟩
    refine ⟨?_, fun _ _ => hfree.pending, h.refused⟩
    simp only [hfree.committed, insert_empty_eq]
    exact Set.subsingleton_singleton

/-- A write is not refused exactly when the writer was alone and the cell was empty. -/
theorem once_write_iff {x : X} (hx : x ∈ a.committed) :
    Once ⟨false, a.committed \ {x}, if a.pending then a.refused else insert x a.refused⟩ ↔
      Once a := by
  constructor
  · rintro ⟨_, hpending, hrefused⟩
    have hall : a.committed ⊆ {x} := Set.sdiff_eq_empty.mp
      (Set.eq_empty_iff_forall_notMem.mpr fun y hy => Bool.false_ne_true (hpending y hy))
    cases hp : a.pending with
    | true =>
      rw [hp, if_pos rfl] at hrefused
      exact ⟨Set.subsingleton_singleton.anti hall, fun _ _ => hp, hrefused⟩
    | false =>
      rw [hp, if_neg Bool.false_ne_true] at hrefused
      exact absurd hrefused (Set.insert_nonempty ..).ne_empty
  · rintro ⟨hsingle, hpending, hrefused⟩
    have hempty : a.committed \ {x} = ∅ :=
      Set.sdiff_eq_empty.mpr fun y hy => Set.mem_singleton_iff.mpr (hsingle hy hx)
    rw [hempty, hpending x hx, if_pos rfl]
    exact ⟨Set.subsingleton_empty, fun _ h => absurd h (Set.notMem_empty _), hrefused⟩

theorem Step.once_iff (h : Step a commits a') : Once a' ↔ Once a ∧ (commits = true → Free a) := by
  cases h with
  | other => simp
  | commit x hx => simpa using once_commit_iff hx
  | write x hx => simpa using once_write_iff hx

end OneShot

end Sctp4Nat
