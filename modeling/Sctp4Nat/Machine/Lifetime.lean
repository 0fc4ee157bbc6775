import Mathlib.Data.Bool.Basic
import Sctp4Nat.Machine.Basic

/-! # Deferred destruction

A resource with readers that is destroyed once. A closer first asks for the destruction
(`request`) and later looks whether readers are left (`look`); if none is, it takes the resource,
and otherwise the last reader takes it when it leaves (`release`). Whoever took the resource
destroys it (`destroy`). Asking and looking are separate steps, so a last reader and several
closers can meet between them. -/

namespace Sctp4Nat

structure Lifetime where
  /-- Nobody has taken the resource. -/
  present : Bool
  closed : Bool
  readers : Nat
  /-- Closers that asked and have not looked. -/
  closing : Nat
  /-- Those who took the resource and have not destroyed it. -/
  owners : Nat
  destroyed : Nat
  deriving DecidableEq, Repr

namespace Lifetime

inductive Op
  | acquire
  | release
  | request
  | look
  | destroy
  deriving DecidableEq, Repr

/-- Take the resource, if it is there. -/
def take (s : Lifetime) : Lifetime :=
  { s with present := false, owners := s.owners + s.present.toNat }

def exec (s : Lifetime) : Op → Option Lifetime
  | .acquire => if s.present && !s.closed then some { s with readers := s.readers + 1 } else none
  | .release =>
    if s.readers = 0 then none
    else if s.closed && s.readers == 1 then some { s with readers := 0 }.take
    else some { s with readers := s.readers - 1 }
  | .request => some { s with closed := true, closing := s.closing + 1 }
  | .look =>
    if s.closing = 0 then none
    else if s.readers = 0 then some { s with closing := s.closing - 1 }.take
    else some { s with closing := s.closing - 1 }
  | .destroy =>
    if s.owners = 0 then none
    else some { s with owners := s.owners - 1, destroyed := s.destroyed + 1 }

structure Inv (s : Lifetime) : Prop where
  once : s.owners + s.destroyed + s.present.toNat = 1
  gone : s.present = false → s.closed = true ∧ s.readers = 0
  heard : 0 < s.closing → s.closed = true
  asked : s.closed = true → s.present = false ∨ 0 < s.readers + s.closing

variable {s s' : Lifetime}

theorem Inv.exec (h : Inv s) (op : Op) (he : s.exec op = some s') : Inv s' := by
  obtain ⟨once, gone, heard, asked⟩ := h
  cases op with
  | acquire =>
    simp only [Lifetime.exec, Bool.and_eq_true, Bool.not_eq_true', Option.ite_none_right_eq_some,
      Option.some.injEq] at he
    obtain ⟨⟨hp, hc⟩, rfl⟩ := he
    exact ⟨once, by simp [hp], heard, by simp [hc]⟩
  | release =>
    simp only [Lifetime.exec, Bool.and_eq_true, beq_iff_eq] at he
    split at he
    · cases he
    split at he <;> cases he
    · rename_i hr
      exact ⟨by simp [take]; omega, fun _ => ⟨hr.1, rfl⟩, heard, fun _ => .inl rfl⟩
    · rename_i h0 hr
      refine ⟨once, fun hp => absurd (gone hp).2 h0, heard, fun hc => ?_⟩
      rcases asked hc with hp | _
      · exact .inl hp
      · have : s.readers ≠ 1 := fun h1 => hr ⟨hc, h1⟩
        exact .inr (by simp only; omega)
  | request =>
    cases he
    exact ⟨once, fun hp => ⟨rfl, (gone hp).2⟩, fun _ => rfl, fun _ => .inr (by simp only; omega)⟩
  | look =>
    simp only [Lifetime.exec] at he
    split at he
    · cases he
    rename_i h0
    have hc : s.closed = true := heard (by omega)
    split at he <;> cases he
    · rename_i hr
      exact ⟨by simp [take]; omega, fun _ => ⟨hc, hr⟩, fun _ => hc, fun _ => .inl rfl⟩
    · rename_i hr
      exact ⟨once, fun hp => absurd (gone hp).2 hr, fun _ => hc,
        fun _ => .inr (by simp only; omega)⟩
  | destroy =>
    simp only [Lifetime.exec] at he
    split at he <;> cases he
    exact ⟨by simp only; omega, gone, heard, asked⟩

/-- While somebody reads, nobody has taken the resource. -/
theorem Inv.alive (h : Inv s) (hr : 0 < s.readers) : s.owners = 0 ∧ s.destroyed = 0 := by
  cases hp : s.present with
  | false => have := (h.gone hp).2; omega
  | true => have := h.once; simp [hp] at this; exact this

/-- Who holds the resource to destroy it is alone. -/
theorem Inv.exclusive (h : Inv s) (ho : 0 < s.owners) : s.readers = 0 ∧ s.destroyed = 0 := by
  have := h.once
  cases hp : s.present with
  | false => exact ⟨(h.gone hp).2, by omega⟩
  | true => simp [hp] at this; omega

/-- Once everybody has left, a requested destruction has happened. -/
theorem Inv.settled (h : Inv s) (hc : s.closed = true) (hr : s.readers = 0) (hl : s.closing = 0)
    (ho : s.owners = 0) : s.destroyed = 1 := by
  have := h.once
  rcases h.asked hc with hp | hp
  · simp [hp] at this; omega
  · omega

end Lifetime

end Sctp4Nat
