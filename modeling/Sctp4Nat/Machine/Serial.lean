import Mathlib.Algebra.Group.Nat.Defs
import Mathlib.Tactic.Ring

/-! # Serial numbers

Numbers of a fixed width that count on after they have wrapped around. Which of two comes later can
be told as long as they are less than half of all numbers apart (`gt_wrap`), and so can their
distance (`toNat_wrap_sub`). -/

namespace Sctp4Nat.Serial

variable {w : Nat}

/-- The number `n` after `start`. -/
def wrap (start : BitVec w) (n : Nat) : BitVec w := start + BitVec.ofNat w n

/-- `a` comes after `b`, by less than half of the numbers. -/
def gt (a b : BitVec w) : Bool :=
  (a < b && 2 ^ (w - 1) < (b - a).toNat) || (b < a && (a - b).toNat < 2 ^ (w - 1))

def ge (a b : BitVec w) : Bool := gt a b || a == b

theorem wrap_zero (start : BitVec w) : wrap start 0 = start := by
  simp [wrap]

theorem wrap_add (start : BitVec w) (m n : Nat) :
    wrap start (m + n) = wrap start m + BitVec.ofNat w n := by
  rw [wrap, wrap, BitVec.ofNat_add, BitVec.add_assoc]

theorem wrap_succ (start : BitVec w) (n : Nat) : wrap start (n + 1) = wrap start n + 1 :=
  wrap_add start n 1

/-- The distance of two numbers. -/
theorem toNat_wrap_sub (start : BitVec w) {m n : Nat} (h : n ≤ m) (hlt : m < n + 2 ^ w) :
    (wrap start m - wrap start n).toNat = m - n := by
  obtain ⟨d, rfl⟩ := Nat.exists_eq_add_of_le h
  rw [wrap_add, BitVec.add_comm, BitVec.add_sub_cancel, BitVec.toNat_ofNat, Nat.mod_eq_of_lt]
  · omega
  · omega

theorem wrap_inj (start : BitVec w) {m n : Nat} (h : m < n + 2 ^ w) (h' : n < m + 2 ^ w)
    (heq : wrap start m = wrap start n) : m = n := by
  rcases Nat.le_total n m with hle | hle
  · have := toNat_wrap_sub start hle h
    rw [heq, BitVec.sub_self, BitVec.toNat_zero] at this
    omega
  · have := toNat_wrap_sub start hle h'
    rw [heq, BitVec.sub_self, BitVec.toNat_zero] at this
    omega

/-- The comparison looks at the distance only. -/
theorem gt_iff (hw : 0 < w) {a b : BitVec w} :
    gt a b = true ↔ 0 < (a - b).toNat ∧ (a - b).toNat < 2 ^ (w - 1) := by
  have hpow : 2 ^ w = 2 * 2 ^ (w - 1) := by
    rw [← Nat.pow_succ', Nat.succ_eq_add_one, Nat.sub_add_cancel hw]
  have ha := a.isLt
  have hb := b.isLt
  simp only [gt, Bool.or_eq_true, Bool.and_eq_true, decide_eq_true_eq]
  rcases Nat.lt_trichotomy a.toNat b.toNat with h | h | h
  · have hlt : a < b := h
    have hsub : (b - a).toNat = b.toNat - a.toNat := BitVec.toNat_sub_of_le (Nat.le_of_lt h)
    have hsub' : (a - b).toNat = 2 ^ w - (b.toNat - a.toNat) := by
      rw [BitVec.toNat_sub_of_lt hlt]
    simp only [hlt, hsub, hsub', true_and, BitVec.not_lt.mpr (Nat.le_of_lt h), false_and, or_false]
    omega
  · obtain rfl := BitVec.eq_of_toNat_eq h
    simp
  · have hlt : b < a := h
    have hsub : (a - b).toNat = a.toNat - b.toNat := BitVec.toNat_sub_of_le (Nat.le_of_lt h)
    simp only [hlt, hsub, true_and, BitVec.not_lt.mpr (Nat.le_of_lt h), false_and, false_or]
    omega

/-- Of two numbers that are less than half of all numbers apart, the later one comes after. -/
theorem gt_wrap (hw : 0 < w) (start : BitVec w) {m n : Nat} (h : m < n + 2 ^ (w - 1))
    (h' : n < m + 2 ^ (w - 1)) : gt (wrap start m) (wrap start n) = decide (n < m) := by
  have hpow : 2 ^ w = 2 * 2 ^ (w - 1) := by
    rw [← Nat.pow_succ', Nat.succ_eq_add_one, Nat.sub_add_cancel hw]
  rw [Bool.eq_iff_iff, gt_iff hw, decide_eq_true_eq]
  rcases Nat.lt_or_ge m n with hlt | hle
  · have hsub := toNat_wrap_sub start (Nat.le_of_lt hlt) (by omega)
    have hneg : wrap start m - wrap start n = -(wrap start n - wrap start m) := by
      rw [BitVec.neg_sub, BitVec.add_comm, BitVec.sub_eq_add_neg]
    rw [hneg, BitVec.toNat_neg, hsub, Nat.mod_eq_of_lt (by omega)]
    omega
  · rw [toNat_wrap_sub start hle (by omega)]
    omega

theorem ge_wrap (hw : 0 < w) (start : BitVec w) {m n : Nat} (h : m < n + 2 ^ (w - 1))
    (h' : n < m + 2 ^ (w - 1)) : ge (wrap start m) (wrap start n) = decide (n ≤ m) := by
  have hpow : 2 ^ w = 2 * 2 ^ (w - 1) := by
    rw [← Nat.pow_succ', Nat.succ_eq_add_one, Nat.sub_add_cancel hw]
  rw [ge, gt_wrap hw start h h', Bool.eq_iff_iff, Bool.or_eq_true, decide_eq_true_eq,
    decide_eq_true_eq, beq_iff_eq]
  constructor
  · rintro (hlt | heq)
    · omega
    · rw [wrap_inj start (by omega) (by omega) heq]
  · intro hle
    rcases Nat.lt_or_eq_of_le hle with hlt | rfl
    · exact .inl hlt
    · exact .inr rfl

end Sctp4Nat.Serial
