import Mathlib.Logic.Function.Basic
import Sctp4Nat.Machine.Basic

/-! # Alarm clocks

What a timer facility is for. An alarm is armed with a time and a function, in place of an earlier
arming; once its time has come it can ring, which calls the function and disarms it. -/

namespace Sctp4Nat

/-- The armed alarms `C` with their times in `T` and their functions `F`, and the calls that were
made, the newest first. -/
structure Alarms (C T F : Type*) where
  now : T
  armed : C → Option (T × F)
  rung : List (C × F)

namespace Alarms

variable {C T F : Type*}

inductive Op (C T F : Type*)
  | setNow (now : T)
  | arm (c : C) (time : T) (func : F)
  | disarm (c : C)
  | ring (c : C)

variable [DecidableEq C] [LE T] [DecidableLE T]

def exec (s : Alarms C T F) : Op C T F → Option (Alarms C T F)
  | .setNow now => some { s with now }
  | .arm c time func => some { s with armed := Function.update s.armed c (some (time, func)) }
  | .disarm c => some { s with armed := Function.update s.armed c none }
  | .ring c =>
    match s.armed c with
    | none => none
    | some (time, func) =>
      if time ≤ s.now then
        some { s with armed := Function.update s.armed c none, rung := (c, func) :: s.rung }
      else none

/-- The operation arms `c`. -/
def Op.arms (c : C) : Op C T F → Bool
  | .arm d _ _ => d = c
  | _ => false

/-- How often `c` has rung, with the call that is still to come. -/
def calls (s : Alarms C T F) (c : C) : Nat :=
  s.rung.countP (fun x => x.1 = c) + if (s.armed c).isSome then 1 else 0

omit [LE T] [DecidableLE T] in
theorem calls_update (s : Alarms C T F) (c d : C) (x : Option (T × F)) :
    { s with armed := Function.update s.armed d x }.calls c ≤
      s.calls c + if d = c ∧ x.isSome = true then 1 else 0 := by
  by_cases hd : d = c
  · subst hd
    cases x <;> simp [calls]
  · simp [calls, Function.update_of_ne (Ne.symm hd)]

/-- An alarm rings once for each time that it is armed. -/
theorem calls_exec {s s' : Alarms C T F} {op : Op C T F} (h : s.exec op = some s') (c : C) :
    s'.calls c ≤ s.calls c + if op.arms c then 1 else 0 := by
  cases op with
  | setNow now =>
    cases h
    exact Nat.le_add_right ..
  | arm d time func =>
    cases h
    simpa [Op.arms] using s.calls_update c d (some (time, func))
  | disarm d =>
    cases h
    simpa [Op.arms] using s.calls_update c d none
  | ring d =>
    simp only [exec] at h
    split at h
    · cases h
    · rename_i time func harmed
      rw [Option.ite_none_right_eq_some, Option.some.injEq] at h
      obtain ⟨-, rfl⟩ := h
      by_cases hd : d = c
      · subst hd
        simp [calls, harmed, Op.arms]
      · simp [calls, hd, Function.update_of_ne (Ne.symm hd), Op.arms]

end Alarms

end Sctp4Nat
