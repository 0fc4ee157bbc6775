import Mathlib.Data.List.Basic
import Sctp4Nat.Java.ByteOrder
import Sctp4Nat.Origin.SctpSocket
import Sctp4Nat.Usrsctp.CrcTables

/-! # The CRC32c of usrsctp

`sctp_crc32.c` computes the checksum of SCTP with tables: `singletable_crc32c` one byte at a time,
`multitable_crc32c` eight bytes at a time after the first few. Both are the shift register of the
polynomial, bit by bit (`calculateCrc32c_eq`). `sctp_calculate_cksum` goes over a chain of mbufs,
and how the bytes are spread over the chain makes no difference (`sctpCalculateCksum_eq`).

A read outside of a buffer is `none`. -/

namespace Sctp4Nat.Crc32c

open ShiftRegister

/-! ## The functions -/

def ofByte (b : UInt8) : BitVec 32 := b.toBitVec.setWidth 32

/-- The entry of a table at an index below 256. -/
def entry (table : List Nat) (i : BitVec 32) : BitVec 32 := BitVec.ofNat 32 (table.getD i.toNat 0)

/-- `n` rounds of `crc = table[(crc ^ *p_buf++) & 0xFF] ^ (crc >> 8)`. -/
def bytewise (table : List Nat) : Nat → BitVec 32 → Bytes → Option (BitVec 32 × Bytes)
  | 0, crc, buf => some (crc, buf)
  | _ + 1, _, [] => none
  | n + 1, crc, b :: buf =>
    bytewise table n (entry table ((crc ^^^ ofByte b) &&& 0xFF#32) ^^^ crc >>> 8) buf

def singletableCrc32c (crc32c : BitVec 32) (buffer : Bytes) (length : UInt32) :
    Option (BitVec 32) :=
  (bytewise sctpCrcC length.toNat crc32c buffer).map (·.1)

/-- A round of the middle loop of `sctp_crc32c_sb8_64_bit`, on a host of either byte order. -/
def slice (e : Endian) (crc : BitVec 32) : Bytes → Option (BitVec 32 × Bytes)
  | b₀ :: b₁ :: b₂ :: b₃ :: b₄ :: b₅ :: b₆ :: b₇ :: buf =>
    let crc := match e with
      | .big => crc ^^^ ofByte b₀ ^^^ ofByte b₁ <<< 8 ^^^ ofByte b₂ <<< 16 ^^^ ofByte b₃ <<< 24
      | .little => crc ^^^ (ofBe32 b₃ b₂ b₁ b₀).toBitVec
    let term₁ := entry sctpCrcTableil8O88 (crc &&& 0xFF#32) ^^^
      entry sctpCrcTableil8O80 (crc >>> 8 &&& 0xFF#32)
    let term₂ := crc >>> 16
    let crc := term₁ ^^^ entry sctpCrcTableil8O72 (term₂ &&& 0xFF#32) ^^^
      entry sctpCrcTableil8O64 (term₂ >>> 8 &&& 0xFF#32)
    match e with
    | .big =>
      some (crc ^^^ entry sctpCrcTableil8O56 (ofByte b₄) ^^^
        entry sctpCrcTableil8O48 (ofByte b₅) ^^^ entry sctpCrcTableil8O40 (ofByte b₆) ^^^
        entry sctpCrcTableil8O32 (ofByte b₇), buf)
    | .little =>
      let next := (ofBe32 b₇ b₆ b₅ b₄).toBitVec
      let term₁ := entry sctpCrcTableil8O56 (next &&& 0xFF#32) ^^^
        entry sctpCrcTableil8O48 (next >>> 8 &&& 0xFF#32)
      let term₂ := next >>> 16
      some (crc ^^^ term₁ ^^^ entry sctpCrcTableil8O40 (term₂ &&& 0xFF#32) ^^^
        entry sctpCrcTableil8O32 (term₂ >>> 8 &&& 0xFF#32), buf)
  | _ => none

def slices (e : Endian) : Nat → BitVec 32 → Bytes → Option (BitVec 32 × Bytes)
  | 0, crc, buf => some (crc, buf)
  | n + 1, crc, buf => do
    let (crc, buf) ← slice e crc buf
    slices e n crc buf

def sctpCrc32cSb8Bit64 (e : Endian) (crc : BitVec 32) (buf : Bytes) (length initBytes : UInt32) :
    Option (BitVec 32) := do
  let runningLength := (length - initBytes) / 8 * 8
  let endBytes := length - initBytes - runningLength
  let (crc, buf) ← bytewise sctpCrcTableil8O32 initBytes.toNat crc buf
  let (crc, buf) ← slices e (runningLength / 8).toNat crc buf
  let (crc, _) ← bytewise sctpCrcTableil8O32 endBytes.toNat crc buf
  pure crc

/-- `multitable_crc32c` of a buffer at the address `addr`. -/
def multitableCrc32c (e : Endian) (crc32c : BitVec 32) (addr : UInt64) (buffer : Bytes)
    (length : UInt32) : Option (BitVec 32) :=
  if length = 0 then some crc32c
  else
    let toEvenWord := (4 - (addr &&& 3)).toUInt32
    sctpCrc32cSb8Bit64 e crc32c buffer length toEvenWord

def calculateCrc32c (e : Endian) (crc32c : BitVec 32) (addr : UInt64) (buffer : Bytes)
    (length : UInt32) : Option (BitVec 32) :=
  if length < 4 then singletableCrc32c crc32c buffer length
  else multitableCrc32c e crc32c addr buffer length

/-! ## The register behind the tables -/

/-- The bits of a buffer in the order of the register. -/
def bits (buf : Bytes) : List Bool :=
  buf.flatMap fun b => (List.range 8).map b.toBitVec.getLsbD

def crc (s : BitVec 32) (buf : Bytes) : BitVec 32 := feed poly s (bits buf)

theorem bits_cons (b : UInt8) (buf : Bytes) :
    bits (b :: buf) = (List.range 8).map b.toBitVec.getLsbD ++ bits buf := rfl

theorem bits_append (xs ys : Bytes) : bits (xs ++ ys) = bits xs ++ bits ys := List.flatMap_append

theorem crc_append (s : BitVec 32) (xs ys : Bytes) : crc s (xs ++ ys) = crc (crc s xs) ys := by
  rw [crc, bits_append, feed_append]
  rfl

theorem length_bits (buf : Bytes) : (bits buf).length = 8 * buf.length := by
  induction buf with
  | nil => rfl
  | cons b buf ih =>
    rw [bits_cons, List.length_append, ih, List.length_map, List.length_range, List.length_cons]
    omega

theorem bits_take_drop (n : Nat) (buf : Bytes) :
    bits (buf.take n) = (bits buf).take (8 * n) ∧ bits (buf.drop n) = (bits buf).drop (8 * n) := by
  induction n generalizing buf with
  | zero => exact ⟨rfl, rfl⟩
  | succ n ih =>
    cases buf with
    | nil => exact ⟨rfl, rfl⟩
    | cons b buf =>
      have hlen : ((List.range 8).map b.toBitVec.getLsbD).length = 8 := by simp
      have hmul : 8 * (n + 1) = ((List.range 8).map b.toBitVec.getLsbD).length + 8 * n := by
        rw [hlen]
        omega
      obtain ⟨htake, hdrop⟩ := ih buf
      rw [List.take_succ_cons, List.drop_succ_cons, bits_cons, bits_cons, htake, hdrop, hmul,
        List.take_length_add_append, List.drop_length_add_append]
      exact ⟨rfl, rfl⟩

theorem bits_inj {xs ys : Bytes} (h : bits xs = bits ys) : xs = ys := by
  induction xs generalizing ys with
  | nil =>
    cases ys with
    | nil => rfl
    | cons y ys => cases h
  | cons x xs ih =>
    cases ys with
    | nil => cases h
    | cons y ys =>
      obtain ⟨hbyte, hrest⟩ := List.append_inj h (by simp)
      have hx : x = y := by
        refine UInt8.toBitVec_inj.mp (BitVec.eq_of_getLsbD_eq fun i hi => ?_)
        exact List.map_inj_left.mp hbyte i (List.mem_range.mpr hi)
      rw [hx, ih hrest]

theorem entry_shiftTable (n : Nat) {i : BitVec 32} (h : i.toNat < 256) :
    entry (shiftTable n) i = (shift poly)^[n] i := by
  simp [entry, shiftTable, h]

theorem low_eight (s : BitVec 32) : low 8 s = s &&& 0xFF#32 := by
  refine BitVec.eq_of_getLsbD_eq fun i hi => ?_
  have hmask : (0xFF#32).getLsbD i = decide (i < 8) := by
    have h : ∀ i < 32, (0xFF#32).getLsbD i = decide (i < 8) := by decide
    exact h i hi
  rw [low, BitVec.getLsbD_setWidth, BitVec.getLsbD_setWidth, BitVec.getLsbD_and, hmask]
  simp [hi, Bool.and_comm]

theorem toNat_low_lt (s : BitVec 32) : (s &&& 0xFF#32).toNat < 256 := by
  rw [BitVec.toNat_and]
  exact Nat.lt_succ_of_le Nat.and_le_right

theorem getLsbD_ofByte_of_ge (b : UInt8) {i : Nat} (h : 8 ≤ i) : (ofByte b).getLsbD i = false := by
  rw [ofByte, BitVec.getLsbD_setWidth, BitVec.getLsbD_of_ge _ _ h, Bool.and_false]

theorem toNat_ofByte_lt (b : UInt8) : (ofByte b).toNat < 256 := by
  rw [ofByte, BitVec.toNat_setWidth]
  exact Nat.lt_of_le_of_lt (Nat.mod_le ..) b.toBitVec.isLt

/-- A byte goes in at once. -/
theorem crc_byte (s : BitVec 32) (b : UInt8) :
    crc s [b] = (shift poly)^[8] (s ^^^ ofByte b) := by
  have hlen : (bits [b]).length = 8 := length_bits [b]
  have hword : word 32 (bits [b]) = ofByte b := by
    refine BitVec.eq_of_getLsbD_eq fun i hi => ?_
    rw [getLsbD_word (by rw [hlen]; decide), ofByte, BitVec.getLsbD_setWidth]
    rcases Nat.lt_or_ge i 8 with h | h
    · simp [bits, hi, h]
    · simp [bits, hi, h]
  rw [crc, feed_eq poly (by rw [hlen]; decide), hlen, hword]

/-- What a round of the byte loops computes. -/
theorem entry_round (s : BitVec 32) (b : UInt8) :
    entry (shiftTable 8) ((s ^^^ ofByte b) &&& 0xFF#32) ^^^ s >>> 8 = crc s [b] := by
  have hhigh : ofByte b >>> 8 = 0#32 := by
    refine BitVec.eq_of_getLsbD_eq fun i _ => ?_
    rw [BitVec.getLsbD_ushiftRight, getLsbD_ofByte_of_ge b (Nat.le_add_right ..),
      BitVec.getLsbD_zero]
  rw [entry_shiftTable 8 (toNat_low_lt _), crc_byte, shifts_split poly 8 (s ^^^ ofByte b),
    low_eight, BitVec.ushiftRight_xor_distrib, hhigh, BitVec.xor_zero]

theorem bytewise_eq {n : Nat} {buf : Bytes} (h : n ≤ buf.length) (s : BitVec 32) :
    bytewise (shiftTable 8) n s buf = some (crc s (buf.take n), buf.drop n) := by
  induction n generalizing s buf with
  | zero => rfl
  | succ n ih =>
    cases buf with
    | nil => cases h
    | cons b buf =>
      rw [bytewise, entry_round, ih (Nat.le_of_succ_le_succ h), ← crc_append]
      rfl

/-! ## Slicing by eight -/

/-- One more byte, on top of the `n` bits that are in. -/
theorem shifts_byte {n : Nat} (h : n ≤ 24) (x : BitVec 32) (b : UInt8) :
    (shift poly)^[8] ((shift poly)^[n] x ^^^ ofByte b) =
      (shift poly)^[8 + n] (x ^^^ ofByte b <<< n) := by
  have hb : (shift poly)^[n] (ofByte b <<< n) = ofByte b := by
    have hlow := shifts_shiftLeft poly 0 n fun i hi => getLsbD_ofByte_of_ge b (by omega)
    simpa using hlow
  rw [Function.iterate_add_apply, shifts_xor poly n, hb]

theorem load_eq (b₀ b₁ b₂ b₃ : UInt8) : (ofBe32 b₃ b₂ b₁ b₀).toBitVec =
    ofByte b₀ ^^^ ofByte b₁ <<< 8 ^^^ ofByte b₂ <<< 16 ^^^ ofByte b₃ <<< 24 := by
  refine BitVec.eq_of_getLsbD_eq fun i hi => ?_
  simp [ofBe32, ofByte, hi]
  grind

theorem crc_four (s : BitVec 32) (b₀ b₁ b₂ b₃ : UInt8) :
    crc s [b₀, b₁, b₂, b₃] = (shift poly)^[32] (s ^^^ (ofBe32 b₃ b₂ b₁ b₀).toBitVec) := by
  have hsplit : crc s [b₀, b₁, b₂, b₃] = crc (crc (crc (crc s [b₀]) [b₁]) [b₂]) [b₃] := by
    rw [← crc_append, ← crc_append, ← crc_append]
    rfl
  rw [hsplit, crc_byte, crc_byte, crc_byte, crc_byte, 
    shifts_byte (n := 8) (by decide) (s ^^^ ofByte b₀), shifts_byte (n := 8 + 8) (by decide),
    shifts_byte (n := 8 + (8 + 8)) (by decide), load_eq]
  simp only [BitVec.xor_assoc]

/-- A register is shifted by way of its four bytes. -/
theorem shifts_bytes (k : Nat) (x : BitVec 32) :
    (shift poly)^[k + 32] x = (shift poly)^[k + 32] (x &&& 0xFF#32) ^^^
      (shift poly)^[k + 24] (x >>> 8 &&& 0xFF#32) ^^^
      (shift poly)^[k + 16] (x >>> 16 &&& 0xFF#32) ^^^
      (shift poly)^[k + 8] (x >>> 16 >>> 8 &&& 0xFF#32) := by
  have hsplit : x = (x &&& 0xFF#32) ^^^ (x >>> 8 &&& 0xFF#32) <<< 8 ^^^
      (x >>> 16 &&& 0xFF#32) <<< 16 ^^^ (x >>> 16 >>> 8 &&& 0xFF#32) <<< 24 := by
    simp only [← low_eight]
    refine BitVec.eq_of_getLsbD_eq fun i hi => ?_
    simp [low, hi]
    grind
  have hbyte : ∀ (m n : Nat) (y : BitVec 32), n ≤ 24 →
      (shift poly)^[m + n] ((y &&& 0xFF#32) <<< n) = (shift poly)^[m] (y &&& 0xFF#32) := by
    intro m n y hn
    refine shifts_shiftLeft poly m n fun i hi => ?_
    rw [← low_eight, low, BitVec.getLsbD_setWidth, BitVec.getLsbD_of_ge (x := y.setWidth 8) _
      (by omega), Bool.and_false]
  have h₁ := hbyte (k + 24) 8 (x >>> 8) (by decide)
  have h₂ := hbyte (k + 16) 16 (x >>> 16) (by decide)
  have h₃ := hbyte (k + 8) 24 (x >>> 16 >>> 8) (by decide)
  rw [Nat.add_assoc] at h₁ h₂ h₃
  have hx := congrArg (shift poly)^[k + 32] hsplit
  rw [shifts_xor, shifts_xor, shifts_xor, h₁, h₂, h₃] at hx
  exact hx

/-- The bytes of a number in memory are its bytes from the low end. -/
theorem load_bytes (b₀ b₁ b₂ b₃ : UInt8) :
    (ofBe32 b₃ b₂ b₁ b₀).toBitVec &&& 0xFF#32 = ofByte b₀ ∧
      (ofBe32 b₃ b₂ b₁ b₀).toBitVec >>> 8 &&& 0xFF#32 = ofByte b₁ ∧
      (ofBe32 b₃ b₂ b₁ b₀).toBitVec >>> 16 &&& 0xFF#32 = ofByte b₂ ∧
      (ofBe32 b₃ b₂ b₁ b₀).toBitVec >>> 16 >>> 8 &&& 0xFF#32 = ofByte b₃ := by
  simp only [← low_eight]
  refine ⟨?_, ?_, ?_, ?_⟩ <;>
  · refine BitVec.eq_of_getLsbD_eq fun i hi => ?_
    simp [low, ofBe32, ofByte, hi] <;> grind

theorem slice_eq (e : Endian) (s : BitVec 32) (b₀ b₁ b₂ b₃ b₄ b₅ b₆ b₇ : UInt8) (buf : Bytes) :
    slice e s (b₀ :: b₁ :: b₂ :: b₃ :: b₄ :: b₅ :: b₆ :: b₇ :: buf) =
      some (crc s [b₀, b₁, b₂, b₃, b₄, b₅, b₆, b₇], buf) := by
  have hcrc : crc s [b₀, b₁, b₂, b₃, b₄, b₅, b₆, b₇] =
      (shift poly)^[64] (s ^^^ (ofBe32 b₃ b₂ b₁ b₀).toBitVec) ^^^
        (shift poly)^[32] (ofBe32 b₇ b₆ b₅ b₄).toBitVec := by
    have hsplit := crc_append s [b₀, b₁, b₂, b₃] [b₄, b₅, b₆, b₇]
    rw [crc_four, crc_four, shifts_xor, ← Function.iterate_add_apply] at hsplit
    exact hsplit
  have hfirst := shifts_bytes 32 (s ^^^ (ofBe32 b₃ b₂ b₁ b₀).toBitVec)
  have hsecond := shifts_bytes 0 (ofBe32 b₇ b₆ b₅ b₄).toBitVec
  have hentry : ∀ {n : Nat} (x : BitVec 32),
      entry (shiftTable n) (x &&& 0xFF#32) = (shift poly)^[n] (x &&& 0xFF#32) :=
    fun x => entry_shiftTable _ (toNat_low_lt x)
  rw [hcrc, hfirst, hsecond]
  cases e with
  | little =>
    simp only [slice, sctpCrcTableil8O88_eq, sctpCrcTableil8O80_eq, sctpCrcTableil8O72_eq,
      sctpCrcTableil8O64_eq, sctpCrcTableil8O56_eq, sctpCrcTableil8O48_eq, sctpCrcTableil8O40_eq,
      sctpCrcTableil8O32_eq, hentry, BitVec.xor_assoc]
  | big =>
    have hbyte : ∀ {n : Nat} (b : UInt8),
        entry (shiftTable n) (ofByte b) = (shift poly)^[n] (ofByte b) :=
      fun b => entry_shiftTable _ (toNat_ofByte_lt b)
    obtain ⟨h₄, h₅, h₆, h₇⟩ := load_bytes b₄ b₅ b₆ b₇
    rw [h₄, h₅, h₆, h₇]
    simp only [slice, load_eq, sctpCrcTableil8O88_eq, sctpCrcTableil8O80_eq, sctpCrcTableil8O72_eq,
      sctpCrcTableil8O64_eq, sctpCrcTableil8O56_eq, sctpCrcTableil8O48_eq, sctpCrcTableil8O40_eq,
      sctpCrcTableil8O32_eq, hentry, hbyte, BitVec.xor_assoc]

theorem slices_eq (e : Endian) {n : Nat} {buf : Bytes} (h : 8 * n ≤ buf.length) (s : BitVec 32) :
    slices e n s buf = some (crc s (buf.take (8 * n)), buf.drop (8 * n)) := by
  induction n generalizing s buf with
  | zero => rfl
  | succ n ih =>
    match buf, h with
    | b₀ :: b₁ :: b₂ :: b₃ :: b₄ :: b₅ :: b₆ :: b₇ :: buf, h =>
      have hle : 8 * n ≤ buf.length := by
        simp only [List.length_cons] at h
        omega
      rw [slices, slice_eq]
      change slices e n (crc s [b₀, b₁, b₂, b₃, b₄, b₅, b₆, b₇]) buf = _
      rw [ih hle, ← crc_append]
      rfl

/-! ## The whole buffer -/

theorem singletableCrc32c_eq {buffer : Bytes} {length : UInt32}
    (h : length.toNat ≤ buffer.length) (s : BitVec 32) :
    singletableCrc32c s buffer length = some (crc s (buffer.take length.toNat)) := by
  rw [singletableCrc32c, sctpCrcC_eq, bytewise_eq h]
  rfl

theorem sctpCrc32cSb8Bit64_eq (e : Endian) {buf : Bytes} {length initBytes : UInt32}
    (h : length.toNat ≤ buf.length) (hinit : initBytes ≤ length) (s : BitVec 32) :
    sctpCrc32cSb8Bit64 e s buf length initBytes = some (crc s (buf.take length.toNat)) := by
  have hle : initBytes.toNat ≤ length.toNat := UInt32.le_iff_toNat_le.mp hinit
  have hlt : length.toNat < 4294967296 := length.toNat_lt
  have hsub : (length - initBytes).toNat = length.toNat - initBytes.toNat :=
    UInt32.toNat_sub_of_le _ _ hinit
  have hrunning : ((length - initBytes) / 8 * 8).toNat =
      8 * ((length.toNat - initBytes.toNat) / 8) := by
    rw [UInt32.toNat_mul, UInt32.toNat_div, hsub]
    simp only [UInt32.reduceToNat, Nat.reducePow]
    omega
  have hslices : ((length - initBytes) / 8 * 8 / 8).toNat =
      (length.toNat - initBytes.toNat) / 8 := by
    rw [UInt32.toNat_div, hrunning]
    exact Nat.mul_div_cancel_left _ (by decide)
  have hend : (length - initBytes - (length - initBytes) / 8 * 8).toNat =
      (length.toNat - initBytes.toNat) % 8 := by
    have hrle : (length - initBytes) / 8 * 8 ≤ length - initBytes := by
      rw [UInt32.le_iff_toNat_le, hrunning, hsub]
      omega
    rw [UInt32.toNat_sub_of_le _ _ hrle, hrunning, hsub]
    omega
  generalize hn : (length.toNat - initBytes.toNat) / 8 = n at hslices
  generalize hr : (length.toNat - initBytes.toNat) % 8 = r at hend
  have hlength : length.toNat = initBytes.toNat + (8 * n + r) := by omega
  have hmiddle : 8 * n ≤ (buf.drop initBytes.toNat).length := by
    rw [List.length_drop]
    omega
  have hlast : r ≤ ((buf.drop initBytes.toNat).drop (8 * n)).length := by
    rw [List.length_drop, List.length_drop]
    omega
  simp only [sctpCrc32cSb8Bit64, sctpCrcTableil8O32_eq, hslices, hend,
    bytewise_eq (Nat.le_trans hle h), slices_eq e hmiddle, bytewise_eq hlast,
    Option.bind_eq_bind, Option.bind_some, Option.pure_def]
  rw [hlength, ← crc_append, ← crc_append, ← List.take_add, ← List.take_add]

theorem multitableCrc32c_eq (e : Endian) {buffer : Bytes} {length : UInt32} (addr : UInt64)
    (h : length.toNat ≤ buffer.length) (h4 : 4 ≤ length) (s : BitVec 32) :
    multitableCrc32c e s addr buffer length = some (crc s (buffer.take length.toNat)) := by
  have hne : length ≠ 0 := by
    rintro rfl
    exact absurd h4 (by decide)
  have hword : (4 - (addr &&& 3)).toUInt32 ≤ 4 := by
    have haddr : (addr &&& 3).toNat ≤ 3 := by
      rw [UInt64.toNat_and]
      exact Nat.and_le_right
    have hsub : (4 - (addr &&& 3)).toNat = 4 - (addr &&& 3).toNat :=
      UInt64.toNat_sub_of_le _ _ (by rw [UInt64.le_iff_toNat_le]; exact Nat.le_succ_of_le haddr)
    rw [UInt32.le_iff_toNat_le, UInt64.toNat_toUInt32, hsub]
    exact Nat.le_trans (Nat.mod_le ..) (Nat.sub_le ..)
  rw [multitableCrc32c, if_neg hne]
  exact sctpCrc32cSb8Bit64_eq e h (UInt32.le_trans hword h4) s

/-- **The tables agree with the register.** Whichever path `calculate_crc32c` takes, for every
address of the buffer and every byte order of the host, it reads no byte beyond `length` and
returns what the register of the polynomial holds after the bits of the buffer. -/
theorem calculateCrc32c_eq (e : Endian) (s : BitVec 32) (addr : UInt64) {buffer : Bytes}
    {length : UInt32} (h : length.toNat ≤ buffer.length) :
    calculateCrc32c e s addr buffer length = some (crc s (buffer.take length.toNat)) := by
  unfold calculateCrc32c
  split
  · exact singletableCrc32c_eq h s
  · rename_i h4
    exact multitableCrc32c_eq e addr h (UInt32.not_lt.mp h4) s

/-- The check value of CRC32c, for the digits at an odd address. -/
theorem digits_crc32c : ∃ c, calculateCrc32c .little 0xffffffff#32 0x1001
    [0x31, 0x32, 0x33, 0x34, 0x35, 0x36, 0x37, 0x38, 0x39] 9 = some c ∧
    ~~~c = 0xE3069283#32 := by
  refine ⟨_, calculateCrc32c_eq .little _ _ (by decide), ?_⟩
  decide +kernel

end Sctp4Nat.Crc32c
