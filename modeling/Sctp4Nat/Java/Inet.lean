import Mathlib.Algebra.Group.Nat.Defs
import Sctp4Nat.Java.HashMap
import Sctp4Nat.Java.Text

/-! # `java.net.InetAddress` and `java.net.InetSocketAddress`

Addresses are compared by their bytes: the scope of an IPv6 address is part of its text but not
of its identity. A socket address is resolved, or has only a host name, and then `getAddress`
returns `null`. -/

namespace Sctp4Nat

inductive InetAddress
  | inet4 (addr : BitVec 32)
  /-- The scope is the text after the `%`, an interface name or a number. -/
  | inet6 (addr : BitVec 128) (scope : Option String)
  deriving DecidableEq, Repr

namespace InetAddress

/-- The `i`-th group of `w` bits, counted from the left. -/
def group (addr : BitVec n) (w i : Nat) : Nat := (addr.toNat >>> (n - w * (i + 1))) % 2 ^ w

/-- The text of an address: decimal bytes, or sixteen-bit groups in hexadecimal. -/
def getHostAddress : InetAddress → String
  | .inet4 addr => ".".intercalate ((List.range 4).map fun i => toString (group addr 8 i))
  | .inet6 addr scope =>
    let text := ":".intercalate
      ((List.range 8).map fun i => String.ofList (Nat.toDigits 16 (group addr 16 i)))
    match scope with
    | none => text
    | some s => text ++ "%" ++ s

/-- The bytes of an address, without its scope. -/
def bytes : InetAddress → BitVec 32 ⊕ BitVec 128
  | .inet4 addr => .inl addr
  | .inet6 addr _ => .inr addr

/-! ### The text of an address -/

/-- The groups determine the address. -/
theorem eq_of_group_eq {w k : Nat} {a b : BitVec (w * k)}
    (h : ∀ i < k, group a w i = group b w i) : a = b := by
  refine BitVec.eq_of_getLsbD_eq fun j hj => ?_
  have hw : 0 < w := Nat.pos_of_mul_pos_right (Nat.zero_lt_of_lt hj)
  obtain ⟨q, r, hq, hr, rfl⟩ : ∃ q r, q < k ∧ r < w ∧ j = w * q + r :=
    ⟨j / w, j % w, Nat.div_lt_of_lt_mul hj, Nat.mod_lt j hw, (Nat.div_add_mod j w).symm⟩
  -- the group that ends with the bit `w * q`
  have hshift : w * k - w * (k - 1 - q + 1) = w * q := by
    have he : k - 1 - q + 1 = k - q := by omega
    have hle : w * q ≤ w * k := Nat.mul_le_mul_left w (Nat.le_of_lt hq)
    rw [he, Nat.mul_sub]
    omega
  have hbit := congrArg (Nat.testBit · r) (h (k - 1 - q) (by omega))
  simp only [group, hshift, Nat.testBit_mod_two_pow, Nat.testBit_shiftRight, hr, decide_true,
    Bool.true_and] at hbit
  exact hbit

/-- The text of an IPv4 address. -/
theorem toList_inet4 (addr : BitVec 32) : (getHostAddress (.inet4 addr)).toList =
    ['.'].intercalate ((List.range 4).map fun i => Nat.toDigits 10 (group addr 8 i)) := by
  rw [getHostAddress, String.toList_intercalate, List.map_map]
  congr 1
  exact List.map_congr_left fun i _ => Nat.toList_repr

/-- The groups of an IPv6 address. -/
def groups (addr : BitVec 128) : List Char :=
  [':'].intercalate ((List.range 8).map fun i => Nat.toDigits 16 (group addr 16 i))

/-- The text of a scope. -/
def scopeText : Option String → List Char
  | none => []
  | some s => '%' :: s.toList

theorem scopeText_inj {s t : Option String} (h : scopeText s = scopeText t) : s = t := by
  cases s with
  | none => cases t <;> first | rfl | cases h
  | some s =>
    cases t with
    | none => cases h
    | some t => rw [String.toList_inj.mp (List.cons.inj h).2]

theorem toList_inet6 (addr : BitVec 128) (scope : Option String) :
    (getHostAddress (.inet6 addr scope)).toList = groups addr ++ scopeText scope := by
  have htext : (":".intercalate ((List.range 8).map fun i =>
      String.ofList (Nat.toDigits 16 (group addr 16 i)))).toList = groups addr := by
    rw [groups, String.toList_intercalate, List.map_map]
    congr 1
    exact List.map_congr_left fun i _ => String.toList_ofList
  cases scope with
  | none => simp [getHostAddress, htext, scopeText]
  | some s => simp [getHostAddress, htext, scopeText]

/-- Digits with a separator between them do not contain another character. -/
theorem not_mem_intercalate_toDigits {sep c : Char} (hsep : sep ≠ c)
    (hc : ∀ d < 16, Nat.digitChar d ≠ c) {b k : Nat} (hb : 1 < b) (hb' : b ≤ 16)
    (f : Nat → Nat) :
    c ∉ [sep].intercalate ((List.range k).map fun i => Nat.toDigits b (f i)) := by
  have hgap : Text.Gap (· == c)
      ([sep].intercalate ((List.range k).map fun i => Nat.toDigits b (f i))) := by
    refine Text.gap_intercalate (by simpa using hsep) fun t ht => ?_
    obtain ⟨i, _, rfl⟩ := List.mem_map.mp ht
    exact Text.gap_toDigits (fun d hd => by simpa using hc d hd) hb hb' _
  intro hmem
  simpa using hgap c hmem

theorem colon_mem_groups (addr : BitVec 128) : ':' ∈ groups addr := by
  have hrange : List.range 8 = [0, 1, 2, 3, 4, 5, 6, 7] := rfl
  rw [groups, hrange, List.map_cons, List.map_cons, List.intercalate_cons_cons]
  simp

/-- Addresses with the same text are the same. -/
theorem getHostAddress_inj {a b : InetAddress} (h : a.getHostAddress = b.getHostAddress) :
    a = b := by
  have hlist := congrArg String.toList h
  -- only the text of an IPv6 address has a colon in it
  have hcolon : ∀ addr addr' scope, (getHostAddress (.inet4 addr)).toList ≠
      (getHostAddress (.inet6 addr' scope)).toList := by
    intro addr addr' scope he
    have hmem : ':' ∈ (getHostAddress (.inet6 addr' scope)).toList := by
      rw [toList_inet6]
      exact List.mem_append_left _ (colon_mem_groups addr')
    rw [← he, toList_inet4] at hmem
    exact not_mem_intercalate_toDigits (by decide) (by decide) (by decide) (by decide) _ hmem
  have hpercent : ∀ addr, '%' ∉ groups addr := fun addr =>
    not_mem_intercalate_toDigits (by decide) (by decide) (by decide) (by decide) _
  have hscope : ∀ scope, scopeText scope = [] ∨ ∃ t, scopeText scope = '%' :: t := by
    rintro (_ | s)
    · exact .inl rfl
    · exact .inr ⟨_, rfl⟩
  cases a with
  | inet4 addr =>
    cases b with
    | inet4 addr' =>
      rw [toList_inet4, toList_inet4] at hlist
      have hgroups := Text.intercalate_toDigits_inj (by decide) (by decide) (by decide) hlist
      rw [eq_of_group_eq (w := 8) (k := 4) hgroups]
    | inet6 addr' scope => exact absurd hlist (hcolon addr addr' scope)
  | inet6 addr scope =>
    cases b with
    | inet4 addr' => exact absurd hlist.symm (hcolon addr' addr scope)
    | inet6 addr' scope' =>
      rw [toList_inet6, toList_inet6] at hlist
      obtain ⟨htext, hs⟩ := Text.append_inj_of_sep (hpercent addr) (hpercent addr')
        (hscope scope) (hscope scope') hlist
      have hgroups := Text.intercalate_toDigits_inj (by decide) (by decide) (by decide) htext
      rw [eq_of_group_eq (w := 16) (k := 8) hgroups, scopeText_inj hs]

/-- A text with a separator in it is not empty. -/
theorem intercalate_ne_empty {sep t u : String} (h : sep ≠ "") (texts : List String) :
    sep.intercalate (t :: u :: texts) ≠ "" := by
  rw [String.intercalate_cons_cons]
  simp [h]

theorem getHostAddress_ne_empty (address : InetAddress) : address.getHostAddress ≠ "" := by
  cases address with
  | inet4 addr => exact intercalate_ne_empty (by decide) _
  | inet6 addr scope =>
    cases scope with
    | none => exact intercalate_ne_empty (by decide) _
    | some s => simp [getHostAddress]

end InetAddress

inductive InetSocketAddress
  | resolved (addr : InetAddress) (port : UInt16)
  | unresolved (host : String) (port : UInt16)
  deriving DecidableEq, Repr

namespace InetSocketAddress

def getAddress : InetSocketAddress → Option InetAddress
  | .resolved addr _ => some addr
  | .unresolved .. => none

def getPort : InetSocketAddress → UInt16
  | .resolved _ port | .unresolved _ port => port

/-- What `equals` compares: bytes and port, or host name without case and port. -/
def identity : InetSocketAddress → ((BitVec 32 ⊕ BitVec 128) ⊕ String) × UInt16
  | .resolved addr port => (.inl addr.bytes, port)
  | .unresolved host port => (.inr host.toLower, port)

instance : JavaEq InetSocketAddress where
  equals a b := decide (a.identity = b.identity)
  equals_refl _ := decide_eq_true rfl
  equals_symm h := decide_eq_true (of_decide_eq_true h).symm
  equals_trans h h' := decide_eq_true ((of_decide_eq_true h).trans (of_decide_eq_true h'))

/-- An address that is equal to a resolved one is resolved. -/
theorem isSome_getAddress_congr {a b : InetSocketAddress} (h : equals a b = true) :
    a.getAddress.isSome = b.getAddress.isSome := by
  have hid : a.identity = b.identity := of_decide_eq_true h
  cases a <;> cases b <;> simp_all [identity, getAddress]

/-- The address is resolved to an IPv4 address. -/
def isInet4 : InetSocketAddress → Bool
  | .resolved (.inet4 _) _ => true
  | _ => false

/-- On IPv4 addresses `equals` is equality. -/
theorem equals_inet4_iff {addr : BitVec 32} {port : UInt16} {k : InetSocketAddress} :
    equals (.resolved (.inet4 addr) port) k = true ↔ k = .resolved (.inet4 addr) port := by
  constructor
  · intro h
    have hid : identity (.resolved (.inet4 addr) port) = k.identity := of_decide_eq_true h
    rcases k with ⟨_ | _, _⟩ | _ <;> simp_all [identity, InetAddress.bytes]
  · rintro rfl
    exact equals_refl _

end InetSocketAddress

end Sctp4Nat
