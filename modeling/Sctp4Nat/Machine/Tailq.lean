import Mathlib.Data.List.Nodup

/-! # Tail queues with a cursor

A traversal of a queue that others change: elements leave it anywhere and enter it at its end. The
cursor is the next element to look at, `none` at the end of the queue, and moves on when its
element leaves. `Cursor P` says that the elements the traversal has left behind meet `P`. -/

namespace Sctp4Nat

variable {α : Type*}

/-- The elements before the cursor meet `P`; without a cursor all elements do. -/
def Cursor (P : α → Prop) (q : List α) (cur : Option α) : Prop :=
  ∃ pre rest, q = pre ++ rest ∧ rest.head? = cur ∧ ∀ x ∈ pre, P x

namespace Cursor

variable {P Q : α → Prop} {q : List α} {cur : Option α} {x : α}

theorem first : Cursor P q q.head? := ⟨[], q, rfl, rfl, fun _ h => absurd h List.not_mem_nil⟩

theorem mem (h : Cursor P q (some x)) : x ∈ q := by
  obtain ⟨pre, rest, rfl, hhead, -⟩ := h
  exact List.mem_append_right pre (List.mem_of_mem_head? hhead)

theorem all (h : Cursor P q none) : ∀ x ∈ q, P x := by
  obtain ⟨pre, rest, rfl, hhead, hpre⟩ := h
  rw [List.head?_eq_none_iff.mp hhead, List.append_nil]
  exact hpre

theorem of_all (h : ∀ x ∈ q, P x) : Cursor P q none := ⟨q, [], (List.append_nil q).symm, rfl, h⟩

theorem imp (h : Cursor P q cur) (hPQ : ∀ x ∈ q, P x → Q x) : Cursor Q q cur := by
  obtain ⟨pre, rest, rfl, hhead, hpre⟩ := h
  exact ⟨pre, rest, rfl, hhead, fun x hx => hPQ x (List.mem_append_left rest hx) (hpre x hx)⟩

/-- What enters comes after the cursor, or is the last element left behind. -/
theorem insertTail (h : Cursor P q cur) (hx : P x) : Cursor P (q ++ [x]) cur := by
  obtain ⟨pre, rest, rfl, rfl, hpre⟩ := h
  cases rest with
  | nil =>
    refine of_all fun y hy => ?_
    rw [List.append_nil, List.mem_append, List.mem_singleton] at hy
    rcases hy with hy | rfl
    · exact hpre y hy
    · exact hx
  | cons y rest => exact ⟨pre, y :: (rest ++ [x]), by simp, rfl, hpre⟩

end Cursor

variable [DecidableEq α]

/-- The element after `x`. -/
def tailqNext (x : α) : List α → Option α
  | [] => none
  | y :: ys => if y = x then ys.head? else tailqNext x ys

theorem tailqNext_append {x : α} {pre rest : List α} (h : x ∉ pre) :
    tailqNext x (pre ++ x :: rest) = rest.head? := by
  induction pre with
  | nil => rw [List.nil_append, tailqNext, if_pos rfl]
  | cons y pre ih =>
    rw [List.mem_cons, not_or] at h
    rw [List.cons_append, tailqNext, if_neg (Ne.symm h.1), ih h.2]

namespace Cursor

variable {P : α → Prop} {q : List α} {cur : Option α} {x : α}

/-- The element at the cursor is left behind. -/
theorem pass (h : Cursor P q (some x)) (hq : q.Nodup) (hx : P x) :
    Cursor P q (tailqNext x q) := by
  obtain ⟨pre, rest, rfl, hhead, hpre⟩ := h
  obtain ⟨rest, rfl⟩ := List.head?_eq_some_iff.mp hhead
  have hnot : x ∉ pre := fun hx => (List.nodup_append.mp hq).2.2 x hx x List.mem_cons_self rfl
  refine ⟨pre ++ [x], rest, by simp, (tailqNext_append hnot).symm, fun y hy => ?_⟩
  rw [List.mem_append, List.mem_singleton] at hy
  rcases hy with hy | rfl
  · exact hpre y hy
  · exact hx

/-- An element leaves the queue. -/
theorem remove (h : Cursor P q cur) (hq : q.Nodup) (hx : x ∈ q) :
    Cursor P (q.erase x) (if cur = some x then tailqNext x q else cur) := by
  obtain ⟨pre, rest, rfl, rfl, hpre⟩ := h
  have hdisjoint := (List.nodup_append.mp hq).2.2
  by_cases hmem : x ∈ pre
  · -- the cursor is behind the element
    have hne : rest.head? ≠ some x := fun hhead =>
      hdisjoint x hmem x (List.mem_of_mem_head? hhead) rfl
    rw [if_neg hne, List.erase_append_left _ hmem]
    exact ⟨pre.erase x, rest, rfl, rfl, fun y hy => hpre y (List.mem_of_mem_erase hy)⟩
  · rw [List.erase_append_right _ hmem]
    cases rest with
    | nil => exact absurd hx (by simpa using hmem)
    | cons y rest =>
      by_cases hyx : y = x
      · subst hyx
        rw [List.head?_cons, if_pos rfl, tailqNext_append hmem, List.erase_cons_head]
        exact ⟨pre, rest, rfl, rfl, hpre⟩
      · have hne : (y :: rest).head? ≠ some x := fun hhead => hyx (Option.some.inj hhead)
        rw [if_neg hne, List.erase_cons_tail (by simpa using hyx)]
        exact ⟨pre, y :: rest.erase x, rfl, rfl, hpre⟩

end Cursor

/-- The number of elements from the cursor on. -/
def remaining (q : List α) : Option α → Nat
  | none => 0
  | some x => (q.dropWhile (· ≠ x)).length

theorem remaining_append {pre rest : List α} (h : (pre ++ rest).Nodup) :
    remaining (pre ++ rest) rest.head? = rest.length := by
  cases rest with
  | nil => rfl
  | cons x rest =>
    have hnot : ∀ y ∈ pre, decide (y ≠ x) = true := fun y hy =>
      decide_eq_true ((List.nodup_append.mp h).2.2 y hy x List.mem_cons_self)
    rw [List.head?_cons, remaining, List.dropWhile_append_of_pos hnot]
    simp

/-- Whether the element at the cursor leaves or is left behind, one less remains. -/
theorem Cursor.remaining {P : α → Prop} {q : List α} {x : α} (h : Cursor P q (some x))
    (hq : q.Nodup) :
    Sctp4Nat.remaining q (tailqNext x q) + 1 = Sctp4Nat.remaining q (some x) ∧
      Sctp4Nat.remaining (q.erase x) (tailqNext x q) + 1 = Sctp4Nat.remaining q (some x) := by
  obtain ⟨pre, rest, rfl, hhead, -⟩ := h
  obtain ⟨rest, rfl⟩ := List.head?_eq_some_iff.mp hhead
  have hnot : x ∉ pre := fun hx => (List.nodup_append.mp hq).2.2 x hx x List.mem_cons_self rfl
  have hhere := remaining_append hq
  have hleft : (pre ++ x :: rest).erase x = pre ++ rest := by
    rw [List.erase_append_right _ hnot, List.erase_cons_head]
  have hpassed : pre ++ x :: rest = (pre ++ [x]) ++ rest := by simp
  rw [List.head?_cons, List.length_cons] at hhere
  rw [tailqNext_append hnot, hhere, hleft, remaining_append (hleft ▸ hq.erase x)]
  refine ⟨?_, rfl⟩
  rw [hpassed] at hq ⊢
  rw [remaining_append hq]

end Sctp4Nat
