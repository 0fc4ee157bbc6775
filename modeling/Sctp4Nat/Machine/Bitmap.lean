import Mathlib.Data.List.GetD

/-! # Bitmaps

A set of numbers as an array of bytes: number `i` is bit `i % 8` of byte `i / 8`. -/

namespace Sctp4Nat

abbrev Bitmap := List (BitVec 8)

namespace Bitmap

variable {m m' : Bitmap} {i j : Nat}

def test (m : Bitmap) (i : Nat) : Bool := (m.getD (i / 8) 0).getLsbD (i % 8)

def insert (i : Nat) (m : Bitmap) : Bitmap := m.modify (i / 8) (· ||| BitVec.twoPow 8 (i % 8))

def erase (i : Nat) (m : Bitmap) : Bitmap := m.modify (i / 8) (· &&& ~~~BitVec.twoPow 8 (i % 8))

/-- The numbers of both. -/
def union (m m' : Bitmap) : Bitmap := List.zipWith (· ||| ·) m m'

/-- The bits of a byte, from the lowest on. -/
def bitsOf (val : BitVec 8) : List Bool := (List.range 8).map val.getLsbD

/-- All bits, from number 0 on. -/
def bits (m : Bitmap) : List Bool := m.flatMap bitsOf

def empty (size : Nat) : Bitmap := List.replicate size 0

theorem test_eq_false (h : 8 * m.length ≤ i) : test m i = false := by
  rw [test, List.getD_eq_default _ _ (by omega)]
  exact BitVec.getLsbD_zero

theorem test_cons (b : BitVec 8) (m : Bitmap) (i : Nat) :
    test (b :: m) i = if i < 8 then b.getLsbD i else test m (i - 8) := by
  by_cases h : i < 8
  · rw [if_pos h, test, Nat.div_eq_of_lt h, Nat.mod_eq_of_lt h, List.getD_cons_zero]
  · rw [if_neg h, test, test, show i / 8 = (i - 8) / 8 + 1 by omega, List.getD_cons_succ,
      show i % 8 = (i - 8) % 8 by omega]

@[simp] theorem test_empty (size i : Nat) : test (empty size) i = false := by
  rw [test, empty, List.getD_eq_getElem?_getD, List.getElem?_replicate]
  split <;> exact BitVec.getLsbD_zero

@[simp] theorem length_empty (size : Nat) : (empty size).length = size := List.length_replicate

@[simp] theorem length_insert : (insert i m).length = m.length := List.length_modify ..

@[simp] theorem length_erase : (erase i m).length = m.length := List.length_modify ..

theorem length_union (h : m'.length = m.length) : (union m m').length = m.length := by
  rw [union, List.length_zipWith, h, Nat.min_self]

theorem getD_modify (f : BitVec 8 → BitVec 8) (k l : Nat) (h : l < m.length) :
    (m.modify k f).getD l 0 = if k = l then f (m.getD l 0) else m.getD l 0 := by
  rw [List.getD_eq_getElem?_getD, List.getD_eq_getElem?_getD, List.getElem?_modify,
    List.getElem?_eq_getElem h]
  split <;> rfl

theorem test_insert (h : i < 8 * m.length) :
    test (insert i m) j = (decide (j = i) || test m j) := by
  by_cases hj : j < 8 * m.length
  · have hmod : i % 8 < 8 := Nat.mod_lt _ (by decide)
    rw [test, insert, getD_modify _ _ _ (by omega), test]
    by_cases hdiv : i / 8 = j / 8
    · rw [if_pos hdiv, BitVec.getLsbD_or, BitVec.getLsbD_twoPow, Bool.or_comm,
        decide_eq_true hmod, Bool.true_and]
      congr 1
      rw [decide_eq_decide]
      omega
    · rw [if_neg hdiv, decide_eq_false (by omega), Bool.false_or]
  · have hlen : 8 * (insert i m).length ≤ j := by simpa using hj
    rw [test_eq_false hlen, test_eq_false (m := m) (by omega), decide_eq_false (by omega)]
    rfl

theorem test_erase : test (erase i m) j = (decide (j ≠ i) && test m j) := by
  by_cases hj : j < 8 * m.length
  · have hmod : i % 8 < 8 := Nat.mod_lt _ (by decide)
    have hmod' : j % 8 < 8 := Nat.mod_lt _ (by decide)
    rw [test, erase, getD_modify _ _ _ (by omega), test]
    by_cases hdiv : i / 8 = j / 8
    · rw [if_pos hdiv, BitVec.getLsbD_and, BitVec.getLsbD_not, BitVec.getLsbD_twoPow, Bool.and_comm,
        decide_eq_true hmod, decide_eq_true hmod', Bool.true_and, Bool.true_and, ← decide_not]
      congr 1
      rw [decide_eq_decide]
      omega
    · rw [if_neg hdiv, decide_eq_true (by omega), Bool.true_and]
  · have hlen : 8 * (erase i m).length ≤ j := by simpa using hj
    rw [test_eq_false hlen, test_eq_false (m := m) (by omega), Bool.and_false]

/-- A number is erased if it is there. -/
theorem test_ite_erase :
    test (if m.test i then erase i m else m) j = (decide (j ≠ i) && test m j) := by
  split
  · exact test_erase
  · rename_i hi
    by_cases hj : j = i
    · simpa [hj] using hi
    · simp [hj]

theorem length_ite_erase : (if m.test i then erase i m else m).length = m.length := by
  split
  · exact length_erase
  · rfl

/-- A number is inserted unless it is there. -/
theorem test_ite_insert (h : i < 8 * m.length) :
    test (if m.test i then m else insert i m) j = (decide (j = i) || test m j) := by
  split
  · rename_i hi
    by_cases hj : j = i
    · simpa [hj] using hi
    · simp [hj]
  · exact test_insert h

theorem length_ite_insert : (if m.test i then m else insert i m).length = m.length := by
  split
  · rfl
  · exact length_insert

theorem test_union (h : m'.length = m.length) :
    test (union m m') i = (test m i || test m' i) := by
  by_cases hi : i < 8 * m.length
  · have hlt : i / 8 < m.length := by omega
    simp [test, union, hlt, h]
  · have hi : 8 * m.length ≤ i := Nat.le_of_not_lt hi
    rw [test_eq_false (by rwa [length_union h]), test_eq_false hi, test_eq_false (by rwa [h])]
    rfl

theorem test_append_empty (size : Nat) : test (m ++ empty size) i = test m i := by
  by_cases hi : i < 8 * m.length
  · rw [test, test, List.getD_append _ _ _ _ (by omega)]
  · have hi : 8 * m.length ≤ i := Nat.le_of_not_lt hi
    rw [test_eq_false hi, test, List.getD_append_right _ _ _ _ (by omega), empty,
      List.getD_eq_getElem?_getD, List.getElem?_replicate]
    split <;> exact BitVec.getLsbD_zero

theorem test_drop (k : Nat) : test (m.drop k) i = test m (i + 8 * k) := by
  rw [test, test, List.getD_eq_getElem?_getD, List.getElem?_drop, List.getD_eq_getElem?_getD,
    show (i + 8 * k) / 8 = k + i / 8 by omega, Nat.add_mul_mod_self_left]

theorem test_take (k : Nat) : test (m.take k) i = (decide (i < 8 * k) && test m i) := by
  rw [test, test, List.getD_eq_getElem?_getD, List.getElem?_take, List.getD_eq_getElem?_getD]
  by_cases h : i / 8 < k
  · rw [if_pos h, decide_eq_true (by omega), Bool.true_and]
  · rw [if_neg h, decide_eq_false (by omega), Bool.false_and]
    exact BitVec.getLsbD_zero

/-- The first bytes are cleared. -/
theorem test_clear (k : Nat) :
    test (empty k ++ m.drop k) i = (decide (8 * k ≤ i) && test m i) := by
  have hk : (empty k).length = k := length_empty k
  by_cases hi : i / 8 < k
  · rw [decide_eq_false (by omega), Bool.false_and, test,
      List.getD_append _ _ _ _ (by rwa [hk])]
    exact test_empty k i
  · rw [decide_eq_true (by omega), Bool.true_and, test,
      List.getD_append_right _ _ _ _ (by omega), hk, List.getD_eq_getElem?_getD,
      List.getElem?_drop, Nat.add_sub_cancel' (Nat.le_of_not_lt hi), test,
      List.getD_eq_getElem?_getD]

theorem length_clear {k size : Nat} (hlen : m.length = size) (h : k ≤ size) :
    (empty k ++ m.drop k).length = size := by
  rw [List.length_append, length_empty, List.length_drop, hlen, Nat.add_sub_cancel' h]

/-- The bytes from `k` on are moved to the start. -/
theorem test_move (k d size : Nat) : test ((m.drop k).take d ++ empty size) i =
    (decide (i < 8 * d) && test m (i + 8 * k)) := by
  rw [test_append_empty, test_take, test_drop]

/-- No number is lost when all are below the bytes that are moved. -/
theorem test_move_of_lt {k d : Nat} (size : Nat)
    (hm : ∀ i, 8 * (d + k) ≤ i → test m i = false) (i : Nat) :
    test ((m.drop k).take d ++ empty size) i = test m (i + 8 * k) := by
  rw [test_move]
  by_cases hi : i < 8 * d
  · rw [decide_eq_true hi, Bool.true_and]
  · rw [hm _ (by omega), Bool.and_false]

theorem length_move {k d size : Nat} (hlen : m.length = size) (h : d + k ≤ size) :
    ((m.drop k).take d ++ empty (size - d)).length = size := by
  rw [List.length_append, length_empty, List.length_take, List.length_drop, hlen]
  omega

@[simp] theorem length_bitsOf (val : BitVec 8) : (bitsOf val).length = 8 := by
  simp [bitsOf]

theorem length_bits (m : Bitmap) : m.bits.length = 8 * m.length := by
  induction m with
  | nil => rfl
  | cons val m ih =>
    rw [bits, List.flatMap_cons, List.length_append, length_bitsOf, ← bits, ih, List.length_cons]
    omega

theorem getElem?_bits (m : Bitmap) (i : Nat) :
    m.bits[i]? = if i < 8 * m.length then some (test m i) else none := by
  induction m generalizing i with
  | nil => rfl
  | cons val m ih =>
    rw [bits, List.flatMap_cons, ← bits, test_cons, List.length_cons]
    by_cases h : i < 8
    · rw [List.getElem?_append_left (by rwa [length_bitsOf]), if_pos h, if_pos (by omega)]
      simp [bitsOf, h]
    · rw [List.getElem?_append_right (by rw [length_bitsOf]; omega), length_bitsOf, ih, if_neg h]
      by_cases h' : i - 8 < 8 * m.length
      · rw [if_pos h', if_pos (by omega)]
      · rw [if_neg h', if_neg (by omega)]

end Bitmap

end Sctp4Nat
