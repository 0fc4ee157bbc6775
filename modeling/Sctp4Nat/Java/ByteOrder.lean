import Mathlib.Algebra.Group.Nat.Defs

/-! # Byte order

Numbers of 16 and 32 bits in network byte order, and the conversions between the order of a host
and that of the network. A host keeps a number in memory as its bytes in one of the two orders;
`htonl` returns the number whose bytes in memory are those of its argument in network order. -/

namespace Sctp4Nat

/-! ## Numbers in network byte order -/

def be16 (x : UInt16) : List UInt8 := [(x >>> 8).toUInt8, x.toUInt8]

def be32 (x : UInt32) : List UInt8 :=
  [(x >>> 24).toUInt8, (x >>> 16).toUInt8, (x >>> 8).toUInt8, x.toUInt8]

def ofBe16 (b₁ b₀ : UInt8) : UInt16 := b₁.toUInt16 <<< 8 ||| b₀.toUInt16

def ofBe32 (b₃ b₂ b₁ b₀ : UInt8) : UInt32 :=
  b₃.toUInt32 <<< 24 ||| b₂.toUInt32 <<< 16 ||| b₁.toUInt32 <<< 8 ||| b₀.toUInt32

theorem ofBe16_be16 (x : UInt16) : ofBe16 (x >>> 8).toUInt8 x.toUInt8 = x := by
  refine UInt16.toBitVec_inj.mp (BitVec.eq_of_getLsbD_eq fun i hi => ?_)
  simp [ofBe16, -UInt16.toUInt16_toUInt8]
  grind

theorem ofBe32_be32 (x : UInt32) :
    ofBe32 (x >>> 24).toUInt8 (x >>> 16).toUInt8 (x >>> 8).toUInt8 x.toUInt8 = x := by
  refine UInt32.toBitVec_inj.mp (BitVec.eq_of_getLsbD_eq fun i hi => ?_)
  simp [ofBe32, -UInt32.toUInt32_toUInt8]
  grind

theorem be32_ofBe32 (b₃ b₂ b₁ b₀ : UInt8) : be32 (ofBe32 b₃ b₂ b₁ b₀) = [b₃, b₂, b₁, b₀] := by
  simp only [be32, List.cons.injEq, and_true]
  refine ⟨?_, ?_, ?_, ?_⟩ <;>
  · refine UInt8.toBitVec_inj.mp (BitVec.eq_of_getLsbD_eq fun i hi => ?_)
    simp [ofBe32] <;> grind

theorem be32_inj {x y : UInt32} : be32 x = be32 y ↔ x = y := by
  refine ⟨fun h => ?_, fun h => by rw [h]⟩
  simp only [be32, List.cons.injEq, and_true] at h
  obtain ⟨h₃, h₂, h₁, h₀⟩ := h
  rw [← ofBe32_be32 x, ← ofBe32_be32 y, h₃, h₂, h₁, h₀]

/-- The number that two bytes stand for. -/
theorem toNat_ofBe16 (b₁ b₀ : UInt8) : (ofBe16 b₁ b₀).toNat = b₁.toNat * 256 + b₀.toNat := by
  have h₁ := b₁.toNat_lt
  have h₀ : b₀.toNat < 2 ^ 8 := b₀.toNat_lt
  simp only [ofBe16, UInt16.toNat_or, UInt16.toNat_shiftLeft, UInt8.toNat_toUInt16]
  change (b₁.toNat <<< 8) % 2 ^ 16 ||| b₀.toNat = _
  rw [Nat.mod_eq_of_lt (by rw [Nat.shiftLeft_eq]; omega), ← Nat.shiftLeft_add_eq_or_of_lt h₀,
    Nat.shiftLeft_eq]

/-! ## The order of a host -/

inductive Endian
  | little
  | big
  deriving DecidableEq, Repr

namespace Endian

/-- The bytes of a number in memory. -/
def store (e : Endian) (x : UInt32) : List UInt8 :=
  match e with
  | little => (be32 x).reverse
  | big => be32 x

/-- The number with the bytes of `x` from the other end. -/
def byteSwap (x : UInt32) : UInt32 :=
  ofBe32 x.toUInt8 (x >>> 8).toUInt8 (x >>> 16).toUInt8 (x >>> 24).toUInt8

def htonl (e : Endian) (x : UInt32) : UInt32 :=
  match e with
  | little => byteSwap x
  | big => x

def ntohl (e : Endian) (x : UInt32) : UInt32 := e.htonl x

theorem be32_byteSwap (x : UInt32) : be32 (byteSwap x) = (be32 x).reverse := be32_ofBe32 ..

/-- A number that is converted for the network has its bytes in memory in network order. -/
theorem store_htonl (e : Endian) (x : UInt32) : e.store (e.htonl x) = be32 x := by
  cases e with
  | little => rw [store, htonl, be32_byteSwap, List.reverse_reverse]
  | big => rfl

/-- What comes from the network is the number whose bytes in network order are in memory. -/
theorem be32_ntohl (e : Endian) (x : UInt32) : be32 (e.ntohl x) = e.store x := by
  cases e with
  | little => exact be32_byteSwap x
  | big => rfl

/-- A number crosses from one host to another, of whatever order, if its bytes in memory do. -/
theorem ntohl_of_store {e e' : Endian} {x y : UInt32} (h : e'.store y = e.store (e.htonl x)) :
    e'.ntohl y = x := by
  rw [store_htonl, ← be32_ntohl] at h
  exact be32_inj.mp h

end Endian

end Sctp4Nat
