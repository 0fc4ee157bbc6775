import Mathlib.Logic.Function.Iterate

/-! # Shift registers with linear feedback

The register of a cyclic redundancy check in its reflected form: the bits are taken in at the low
end, and the bit that falls out there feeds the polynomial back. A shift is linear in exclusive
or, so a register can take in several bits at once (`feed_eq`) and be shifted by way of tables of
its parts (`shifts_split`, `shifts_shiftLeft`).

A register whose polynomial has its highest bit set loses nothing: two inputs that differ only
within a window as long as the register leave it different (`feed_ne_of_window`). One whose
polynomial has an odd number of bits keeps the parity of what it has taken in (`parity_feed`). -/

namespace Sctp4Nat.ShiftRegister

variable {w : Nat}

def shift (poly s : BitVec w) : BitVec w := s >>> 1 ^^^ if s.getLsbD 0 then poly else 0#w

/-- The register takes in a bit. -/
def feedBit (poly s : BitVec w) (b : Bool) : BitVec w :=
  shift poly (s ^^^ (BitVec.ofBool b).setWidth w)

def feed (poly s : BitVec w) (bits : List Bool) : BitVec w := bits.foldl (feedBit poly) s

@[simp] theorem feed_nil (poly s : BitVec w) : feed poly s [] = s := rfl

theorem feed_append (poly s : BitVec w) (xs ys : List Bool) :
    feed poly s (xs ++ ys) = feed poly (feed poly s xs) ys := List.foldl_append

/-! ## Shifts are linear -/

variable (poly : BitVec w)

theorem shift_xor (s t : BitVec w) : shift poly (s ^^^ t) = shift poly s ^^^ shift poly t := by
  have hfeedback : (if (s.getLsbD 0 ^^ t.getLsbD 0) = true then poly else 0#w) =
      (if s.getLsbD 0 = true then poly else 0#w) ^^^ if t.getLsbD 0 = true then poly else 0#w := by
    cases s.getLsbD 0 <;> cases t.getLsbD 0 <;> simp
  rw [shift, BitVec.getLsbD_xor, hfeedback, BitVec.ushiftRight_xor_distrib, shift, shift]
  ac_rfl

theorem shifts_xor (n : Nat) (s t : BitVec w) :
    (shift poly)^[n] (s ^^^ t) = (shift poly)^[n] s ^^^ (shift poly)^[n] t := by
  induction n generalizing s t with
  | zero => rfl
  | succ n ih => rw [Function.iterate_succ_apply, shift_xor, ih]; rfl

/-- A bit that is not set falls out without feedback. -/
theorem shift_shiftLeft {x : BitVec w} (hx : x.getLsbD (w - 1) = false) :
    shift poly (x <<< 1) = x := by
  refine BitVec.eq_of_getLsbD_eq fun i hi => ?_
  have hzero : (x <<< 1).getLsbD 0 = false := by simp
  rw [shift, hzero]
  simp only [Bool.false_eq_true, if_false, BitVec.xor_zero, BitVec.getLsbD_ushiftRight,
    BitVec.getLsbD_shiftLeft]
  rcases Nat.lt_or_ge (1 + i) w with h | h
  · simp [h]
  · obtain rfl : i = w - 1 := by omega
    simp [hx]

/-- The low places are free: the register only moves down. -/
theorem shifts_shiftLeft (m n : Nat) {x : BitVec w} (hx : ∀ i, w ≤ i + n → x.getLsbD i = false) :
    (shift poly)^[m + n] (x <<< n) = (shift poly)^[m] x := by
  induction n with
  | zero => simp
  | succ n ih =>
    have htop : (x <<< n).getLsbD (w - 1) = false := by
      rw [BitVec.getLsbD_shiftLeft, hx (w - 1 - n) (by omega)]
      simp
    rw [← Nat.add_assoc, Function.iterate_succ_apply, BitVec.shiftLeft_add,
      shift_shiftLeft poly htop]
    exact ih fun i hi => hx i (by omega)

/-- The `n` low bits of the register. -/
def low (n : Nat) (s : BitVec w) : BitVec w := (s.setWidth n).setWidth w

theorem low_xor_high (n : Nat) (s : BitVec w) : low n s ^^^ s >>> n <<< n = s := by
  refine BitVec.eq_of_getLsbD_eq fun i hi => ?_
  rcases Nat.lt_or_ge i n with h | h
  · simp [low, hi, h]
  · have hn : n + (i - n) = i := by omega
    simp [low, hi, h, hn]

/-- Shifts by `n` places depend on the low bits alone, but for what moves down. -/
theorem shifts_split (n : Nat) (s : BitVec w) :
    (shift poly)^[n] s = (shift poly)^[n] (low n s) ^^^ s >>> n := by
  have hhigh : (shift poly)^[n] (s >>> n <<< n) = s >>> n := by
    have hx : ∀ i, w ≤ i + n → (s >>> n).getLsbD i = false := by
      intro i hi
      rw [BitVec.getLsbD_ushiftRight]
      exact BitVec.getLsbD_of_ge _ _ (by omega)
    simpa using shifts_shiftLeft poly 0 n hx
  have hs := congrArg (shift poly)^[n] (low_xor_high n s)
  rw [shifts_xor, hhigh] at hs
  exact hs.symm

/-! ## Several bits at once -/

/-- The bits as a number, the first one lowest. -/
def word (w : Nat) (bits : List Bool) : BitVec w := (BitVec.ofBoolListLE bits).setWidth w

theorem getLsbD_word {bits : List Bool} (h : bits.length ≤ w) (i : Nat) :
    (word w bits).getLsbD i = bits.getD i false := by
  rw [word, BitVec.getLsbD_setWidth, BitVec.getLsbD_ofBoolListLE]
  rcases Nat.lt_or_ge i w with hi | hi
  · simp [hi]
  · simp [Nat.le_trans h hi]

theorem word_cons {b : Bool} {bits : List Bool} (h : (b :: bits).length ≤ w) :
    word w (b :: bits) = (BitVec.ofBool b).setWidth w ^^^ word w bits <<< 1 := by
  refine BitVec.eq_of_getLsbD_eq fun i hi => ?_
  have hle : bits.length ≤ w := Nat.le_of_succ_le h
  rw [getLsbD_word h, BitVec.getLsbD_xor, BitVec.getLsbD_shiftLeft, getLsbD_word hle,
    BitVec.getLsbD_setWidth, BitVec.getLsbD_ofBool]
  cases i with
  | zero => simp [hi]
  | succ i => simp [hi]

/-- Taking in the bits one by one is exclusive or with all of them, and then the shifts. -/
theorem feed_eq {bits : List Bool} (h : bits.length ≤ w) (s : BitVec w) :
    feed poly s bits = (shift poly)^[bits.length] (s ^^^ word w bits) := by
  induction bits generalizing s with
  | nil =>
    have hword : word w [] = 0#w := BitVec.setWidth_zero ..
    rw [hword, BitVec.xor_zero]
    rfl
  | cons b bits ih =>
    have hle : bits.length ≤ w := Nat.le_of_succ_le h
    have htop : (word w bits).getLsbD (w - 1) = false := by
      have hnone : bits[w - 1]? = none := List.getElem?_eq_none (Nat.le_pred_of_lt h)
      rw [getLsbD_word hle, List.getD_eq_getElem?_getD, hnone]
      rfl
    calc feed poly s (b :: bits)
        = feed poly (feedBit poly s b) bits := rfl
      _ = (shift poly)^[bits.length] (feedBit poly s b ^^^ word w bits) := ih hle _
      _ = (shift poly)^[bits.length] (shift poly (s ^^^ word w (b :: bits))) := by
        rw [word_cons h, ← BitVec.xor_assoc, shift_xor poly _ (word w bits <<< 1),
          shift_shiftLeft poly htop]
        rfl

/-! ## What a register tells apart -/

section

variable {poly}

/-- The bit that fell out is the highest one now. -/
theorem getLsbD_shift (hp : poly.msb = true) (s : BitVec w) :
    (shift poly s).getLsbD (w - 1) = s.getLsbD 0 := by
  rw [BitVec.msb_eq_getLsbD_last] at hp
  have hhigh : s.getLsbD (1 + (w - 1)) = false := BitVec.getLsbD_of_ge _ _ (by omega)
  rw [shift, BitVec.getLsbD_xor, BitVec.getLsbD_ushiftRight, hhigh]
  cases s.getLsbD 0 <;> simp [hp]

theorem shift_injective (hp : poly.msb = true) : Function.Injective (shift poly) := by
  intro s t h
  have hlow : s.getLsbD 0 = t.getLsbD 0 := by rw [← getLsbD_shift hp, h, getLsbD_shift hp]
  have hhigh : s >>> 1 = t >>> 1 := by
    rw [shift, shift, hlow] at h
    exact (BitVec.xor_left_inj _).mp h
  refine BitVec.eq_of_getLsbD_eq fun i hi => ?_
  cases i with
  | zero => exact hlow
  | succ i =>
    have hi := congrArg (·.getLsbD i) hhigh
    simpa only [BitVec.getLsbD_ushiftRight, Nat.add_comm 1 i] using hi

theorem feed_injective (hp : poly.msb = true) (bits : List Bool) :
    Function.Injective (feed poly · bits) := by
  induction bits with
  | nil => exact fun _ _ h => h
  | cons b bits ih =>
    intro s t h
    have hbit : feedBit poly s b = feedBit poly t b := ih h
    exact (BitVec.xor_left_inj _).mp (shift_injective hp hbit)

theorem word_inj {xs ys : List Bool} (hx : xs.length ≤ w) (hlen : xs.length = ys.length)
    (h : word w xs = word w ys) : xs = ys := by
  refine List.ext_getElem hlen fun i hxi hyi => ?_
  have hi := congrArg (·.getLsbD i) h
  simpa [getLsbD_word hx, getLsbD_word (hlen ▸ hx), hxi, hyi] using hi

/-- A change within as many bits as the register has is not lost. -/
theorem feed_ne_of_window (hp : poly.msb = true) (s : BitVec w) {xs ys : List Bool}
    (hlen : xs.length = ys.length) (hne : xs ≠ ys) (k : Nat)
    (hwin : ∀ i, i < k ∨ k + w ≤ i → xs[i]? = ys[i]?) : feed poly s xs ≠ feed poly s ys := by
  intro h
  have hsplit : ∀ zs : List Bool, zs = zs.take k ++ ((zs.drop k).take w ++ zs.drop (k + w)) := by
    intro zs
    rw [← List.drop_drop, List.take_append_drop, List.take_append_drop]
  have hpre : xs.take k = ys.take k := by
    refine List.ext_getElem? fun i => ?_
    rw [List.getElem?_take, List.getElem?_take]
    split
    · rename_i hi
      exact hwin i (.inl hi)
    · rfl
  have hpost : xs.drop (k + w) = ys.drop (k + w) := by
    refine List.ext_getElem? fun i => ?_
    rw [List.getElem?_drop, List.getElem?_drop]
    exact hwin _ (.inr (Nat.le_add_right ..))
  -- the registers are equal right after the window already
  rw [hsplit xs, hsplit ys, hpre, hpost, feed_append, feed_append, feed_append, feed_append] at h
  have hmid := feed_injective hp _ h
  have hle : ((xs.drop k).take w).length ≤ w := List.length_take_le ..
  have heq : ((xs.drop k).take w).length = ((ys.drop k).take w).length := by simp [hlen]
  have hle' : ((ys.drop k).take w).length ≤ w := List.length_take_le ..
  rw [feed_eq poly hle, feed_eq poly hle', heq] at hmid
  have hword := word_inj hle heq
    ((BitVec.xor_right_inj _).mp ((shift_injective hp).iterate _ hmid))
  exact hne (by rw [hsplit xs, hsplit ys, hpre, hpost, hword])

end

/-! ## Parity -/

/-- Whether an odd number of the first `n` values is `true`. -/
def xorUpTo (f : Nat → Bool) : Nat → Bool
  | 0 => false
  | n + 1 => xorUpTo f n ^^ f n

theorem xorUpTo_xor (f g : Nat → Bool) (n : Nat) :
    xorUpTo (fun i => f i ^^ g i) n = (xorUpTo f n ^^ xorUpTo g n) := by
  induction n with
  | zero => rfl
  | succ n ih =>
    simp only [xorUpTo, ih, Bool.xor_assoc, Bool.xor_left_comm]

theorem xorUpTo_succ (f : Nat → Bool) (n : Nat) :
    xorUpTo f (n + 1) = (f 0 ^^ xorUpTo (fun i => f (i + 1)) n) := by
  induction n with
  | zero => simp [xorUpTo]
  | succ n ih =>
    rw [xorUpTo, ih, xorUpTo, Bool.xor_assoc]

/-- Whether an odd number of bits is set. -/
def parity (x : BitVec w) : Bool := xorUpTo x.getLsbD w

theorem parity_xor (x y : BitVec w) : parity (x ^^^ y) = (parity x ^^ parity y) := by
  rw [parity, parity, parity, ← xorUpTo_xor]
  congr 1
  funext i
  exact BitVec.getLsbD_xor

theorem parity_ushiftRight (x : BitVec w) : parity (x >>> 1) = (parity x ^^ x.getLsbD 0) := by
  have hbits : (x >>> 1).getLsbD = fun i => x.getLsbD (i + 1) := by
    funext i
    rw [BitVec.getLsbD_ushiftRight, Nat.add_comm]
  have hlast : xorUpTo x.getLsbD (w + 1) = parity x := by
    rw [xorUpTo, BitVec.getLsbD_of_ge _ _ (Nat.le_refl w), Bool.xor_false, parity]
  rw [parity, hbits, ← hlast, xorUpTo_succ, Bool.xor_comm (x.getLsbD 0), Bool.xor_assoc,
    Bool.xor_self, Bool.xor_false]

theorem parity_ofBool (hw : 0 < w) (b : Bool) : parity ((BitVec.ofBool b).setWidth w) = b := by
  obtain ⟨n, rfl⟩ : ∃ n, w = n + 1 := ⟨w - 1, by omega⟩
  have hzero : ∀ m, xorUpTo (fun _ => false) m = false := by
    intro m
    induction m with
    | zero => rfl
    | succ m ih => rw [xorUpTo, ih, Bool.xor_false]
  have hhigh : (fun i => ((BitVec.ofBool b).setWidth (n + 1)).getLsbD (i + 1)) =
      fun _ => false := by
    funext i
    simp
  rw [parity, xorUpTo_succ, hhigh, hzero]
  simp

variable {poly}

/-- What falls out is made up for by the feedback. -/
theorem parity_shift (hp : parity poly = true) (s : BitVec w) :
    parity (shift poly s) = parity s := by
  have hfeedback : parity (if s.getLsbD 0 then poly else 0#w) = s.getLsbD 0 := by
    cases s.getLsbD 0 with
    | true => exact hp
    | false =>
      have := parity_xor (0#w) (0#w)
      simpa using this
  rw [shift, parity_xor, parity_ushiftRight, hfeedback, Bool.xor_assoc, Bool.xor_self,
    Bool.xor_false]

/-- Whether an odd number of the values is `true`. -/
def xorAll (bits : List Bool) : Bool := bits.foldr xor false

theorem parity_feed (hp : parity poly = true) (s : BitVec w) (bits : List Bool) :
    parity (feed poly s bits) = (parity s ^^ xorAll bits) := by
  have hw : 0 < w := by
    rcases Nat.eq_zero_or_pos w with rfl | hw
    · cases hp
    · exact hw
  induction bits generalizing s with
  | nil => exact (Bool.xor_false _).symm
  | cons b bits ih =>
    change parity (feed poly (feedBit poly s b) bits) = _
    rw [ih, feedBit, parity_shift hp, parity_xor, parity_ofBool hw, Bool.xor_assoc]
    rfl

theorem xorAll_append (xs ys : List Bool) : xorAll (xs ++ ys) = (xorAll xs ^^ xorAll ys) := by
  induction xs with
  | nil => exact (Bool.false_xor _).symm
  | cons x xs ih =>
    change (x ^^ xorAll (xs ++ ys)) = ((x ^^ xorAll xs) ^^ xorAll ys)
    rw [ih, Bool.xor_assoc]

theorem xorAll_getLsbD (x : BitVec w) : xorAll ((List.range w).map x.getLsbD) = parity x := by
  have hrange : ∀ n, xorAll ((List.range n).map x.getLsbD) = xorUpTo x.getLsbD n := by
    intro n
    induction n with
    | zero => rfl
    | succ n ih =>
      rw [List.range_succ, List.map_append, xorAll_append, ih]
      simp [xorAll, xorUpTo]
  exact hrange w

/-- Two inputs have the same parity unless they differ in an odd number of places. -/
theorem xorAll_xor {xs ys : List Bool} (h : xs.length = ys.length) :
    (xorAll xs ^^ xorAll ys) = decide ((xs.zip ys).countP (fun x => x.1 != x.2) % 2 = 1) := by
  induction xs generalizing ys with
  | nil =>
    cases ys with
    | nil => rfl
    | cons y ys => cases h
  | cons x xs ih =>
    cases ys with
    | nil => cases h
    | cons y ys =>
      have ih := ih (Nat.succ.inj h)
      have hcons : (xorAll (x :: xs) ^^ xorAll (y :: ys)) =
          ((x ^^ y) ^^ (xorAll xs ^^ xorAll ys)) := by
        change ((x ^^ xorAll xs) ^^ (y ^^ xorAll ys)) = _
        simp only [Bool.xor_assoc, Bool.xor_left_comm]
      rw [hcons, ih, List.zip_cons_cons, List.countP_cons]
      generalize (xs.zip ys).countP (fun x => x.1 != x.2) = n
      rcases Nat.mod_two_eq_zero_or_one n with hn | hn <;> cases x <;> cases y <;>
        simp [Nat.add_mod, hn]

end Sctp4Nat.ShiftRegister
