import Sctp4Nat.Machine.Bitmap
import Sctp4Nat.Machine.Runs

/-! # The gaps of a byte

`sack_array` has the runs of set bits of every byte, so that a SACK can be built from the bytes of
the mapping arrays (`sackArray_spec`). -/

namespace Sctp4Nat.MappingArray

/-- An entry of `sack_array`: the first `num_entries` gaps, and whether the byte can be merged with
the byte before it, and with the one after it. -/
structure SackTrack where
  rightEdge : Bool
  leftEdge : Bool
  gaps : List (Nat × Nat)
  deriving DecidableEq

def sackArray : List SackTrack := [
  ⟨false, false, []⟩, ⟨true, false, [(0, 0)]⟩, ⟨false, false, [(1, 1)]⟩, ⟨true, false, [(0, 1)]⟩,
  ⟨false, false, [(2, 2)]⟩, ⟨true, false, [(0, 0), (2, 2)]⟩, ⟨false, false, [(1, 2)]⟩,
  ⟨true, false, [(0, 2)]⟩, ⟨false, false, [(3, 3)]⟩, ⟨true, false, [(0, 0), (3, 3)]⟩,
  ⟨false, false, [(1, 1), (3, 3)]⟩, ⟨true, false, [(0, 1), (3, 3)]⟩, ⟨false, false, [(2, 3)]⟩,
  ⟨true, false, [(0, 0), (2, 3)]⟩, ⟨false, false, [(1, 3)]⟩, ⟨true, false, [(0, 3)]⟩,
  ⟨false, false, [(4, 4)]⟩, ⟨true, false, [(0, 0), (4, 4)]⟩, ⟨false, false, [(1, 1), (4, 4)]⟩,
  ⟨true, false, [(0, 1), (4, 4)]⟩, ⟨false, false, [(2, 2), (4, 4)]⟩,
  ⟨true, false, [(0, 0), (2, 2), (4, 4)]⟩, ⟨false, false, [(1, 2), (4, 4)]⟩,
  ⟨true, false, [(0, 2), (4, 4)]⟩, ⟨false, false, [(3, 4)]⟩, ⟨true, false, [(0, 0), (3, 4)]⟩,
  ⟨false, false, [(1, 1), (3, 4)]⟩, ⟨true, false, [(0, 1), (3, 4)]⟩, ⟨false, false, [(2, 4)]⟩,
  ⟨true, false, [(0, 0), (2, 4)]⟩, ⟨false, false, [(1, 4)]⟩, ⟨true, false, [(0, 4)]⟩,
  ⟨false, false, [(5, 5)]⟩, ⟨true, false, [(0, 0), (5, 5)]⟩, ⟨false, false, [(1, 1), (5, 5)]⟩,
  ⟨true, false, [(0, 1), (5, 5)]⟩, ⟨false, false, [(2, 2), (5, 5)]⟩,
  ⟨true, false, [(0, 0), (2, 2), (5, 5)]⟩, ⟨false, false, [(1, 2), (5, 5)]⟩,
  ⟨true, false, [(0, 2), (5, 5)]⟩, ⟨false, false, [(3, 3), (5, 5)]⟩,
  ⟨true, false, [(0, 0), (3, 3), (5, 5)]⟩, ⟨false, false, [(1, 1), (3, 3), (5, 5)]⟩,
  ⟨true, false, [(0, 1), (3, 3), (5, 5)]⟩, ⟨false, false, [(2, 3), (5, 5)]⟩,
  ⟨true, false, [(0, 0), (2, 3), (5, 5)]⟩, ⟨false, false, [(1, 3), (5, 5)]⟩,
  ⟨true, false, [(0, 3), (5, 5)]⟩, ⟨false, false, [(4, 5)]⟩, ⟨true, false, [(0, 0), (4, 5)]⟩,
  ⟨false, false, [(1, 1), (4, 5)]⟩, ⟨true, false, [(0, 1), (4, 5)]⟩,
  ⟨false, false, [(2, 2), (4, 5)]⟩, ⟨true, false, [(0, 0), (2, 2), (4, 5)]⟩,
  ⟨false, false, [(1, 2), (4, 5)]⟩, ⟨true, false, [(0, 2), (4, 5)]⟩, ⟨false, false, [(3, 5)]⟩,
  ⟨true, false, [(0, 0), (3, 5)]⟩, ⟨false, false, [(1, 1), (3, 5)]⟩,
  ⟨true, false, [(0, 1), (3, 5)]⟩, ⟨false, false, [(2, 5)]⟩, ⟨true, false, [(0, 0), (2, 5)]⟩,
  ⟨false, false, [(1, 5)]⟩, ⟨true, false, [(0, 5)]⟩, ⟨false, false, [(6, 6)]⟩,
  ⟨true, false, [(0, 0), (6, 6)]⟩, ⟨false, false, [(1, 1), (6, 6)]⟩,
  ⟨true, false, [(0, 1), (6, 6)]⟩, ⟨false, false, [(2, 2), (6, 6)]⟩,
  ⟨true, false, [(0, 0), (2, 2), (6, 6)]⟩, ⟨false, false, [(1, 2), (6, 6)]⟩,
  ⟨true, false, [(0, 2), (6, 6)]⟩, ⟨false, false, [(3, 3), (6, 6)]⟩,
  ⟨true, false, [(0, 0), (3, 3), (6, 6)]⟩, ⟨false, false, [(1, 1), (3, 3), (6, 6)]⟩,
  ⟨true, false, [(0, 1), (3, 3), (6, 6)]⟩, ⟨false, false, [(2, 3), (6, 6)]⟩,
  ⟨true, false, [(0, 0), (2, 3), (6, 6)]⟩, ⟨false, false, [(1, 3), (6, 6)]⟩,
  ⟨true, false, [(0, 3), (6, 6)]⟩, ⟨false, false, [(4, 4), (6, 6)]⟩,
  ⟨true, false, [(0, 0), (4, 4), (6, 6)]⟩, ⟨false, false, [(1, 1), (4, 4), (6, 6)]⟩,
  ⟨true, false, [(0, 1), (4, 4), (6, 6)]⟩, ⟨false, false, [(2, 2), (4, 4), (6, 6)]⟩,
  ⟨true, false, [(0, 0), (2, 2), (4, 4), (6, 6)]⟩, ⟨false, false, [(1, 2), (4, 4), (6, 6)]⟩,
  ⟨true, false, [(0, 2), (4, 4), (6, 6)]⟩, ⟨false, false, [(3, 4), (6, 6)]⟩,
  ⟨true, false, [(0, 0), (3, 4), (6, 6)]⟩, ⟨false, false, [(1, 1), (3, 4), (6, 6)]⟩,
  ⟨true, false, [(0, 1), (3, 4), (6, 6)]⟩, ⟨false, false, [(2, 4), (6, 6)]⟩,
  ⟨true, false, [(0, 0), (2, 4), (6, 6)]⟩, ⟨false, false, [(1, 4), (6, 6)]⟩,
  ⟨true, false, [(0, 4), (6, 6)]⟩, ⟨false, false, [(5, 6)]⟩, ⟨true, false, [(0, 0), (5, 6)]⟩,
  ⟨false, false, [(1, 1), (5, 6)]⟩, ⟨true, false, [(0, 1), (5, 6)]⟩,
  ⟨false, false, [(2, 2), (5, 6)]⟩, ⟨true, false, [(0, 0), (2, 2), (5, 6)]⟩,
  ⟨false, false, [(1, 2), (5, 6)]⟩, ⟨true, false, [(0, 2), (5, 6)]⟩,
  ⟨false, false, [(3, 3), (5, 6)]⟩, ⟨true, false, [(0, 0), (3, 3), (5, 6)]⟩,
  ⟨false, false, [(1, 1), (3, 3), (5, 6)]⟩, ⟨true, false, [(0, 1), (3, 3), (5, 6)]⟩,
  ⟨false, false, [(2, 3), (5, 6)]⟩, ⟨true, false, [(0, 0), (2, 3), (5, 6)]⟩,
  ⟨false, false, [(1, 3), (5, 6)]⟩, ⟨true, false, [(0, 3), (5, 6)]⟩, ⟨false, false, [(4, 6)]⟩,
  ⟨true, false, [(0, 0), (4, 6)]⟩, ⟨false, false, [(1, 1), (4, 6)]⟩,
  ⟨true, false, [(0, 1), (4, 6)]⟩, ⟨false, false, [(2, 2), (4, 6)]⟩,
  ⟨true, false, [(0, 0), (2, 2), (4, 6)]⟩, ⟨false, false, [(1, 2), (4, 6)]⟩,
  ⟨true, false, [(0, 2), (4, 6)]⟩, ⟨false, false, [(3, 6)]⟩, ⟨true, false, [(0, 0), (3, 6)]⟩,
  ⟨false, false, [(1, 1), (3, 6)]⟩, ⟨true, false, [(0, 1), (3, 6)]⟩, ⟨false, false, [(2, 6)]⟩,
  ⟨true, false, [(0, 0), (2, 6)]⟩, ⟨false, false, [(1, 6)]⟩, ⟨true, false, [(0, 6)]⟩,
  ⟨false, true, [(7, 7)]⟩, ⟨true, true, [(0, 0), (7, 7)]⟩, ⟨false, true, [(1, 1), (7, 7)]⟩,
  ⟨true, true, [(0, 1), (7, 7)]⟩, ⟨false, true, [(2, 2), (7, 7)]⟩,
  ⟨true, true, [(0, 0), (2, 2), (7, 7)]⟩, ⟨false, true, [(1, 2), (7, 7)]⟩,
  ⟨true, true, [(0, 2), (7, 7)]⟩, ⟨false, true, [(3, 3), (7, 7)]⟩,
  ⟨true, true, [(0, 0), (3, 3), (7, 7)]⟩, ⟨false, true, [(1, 1), (3, 3), (7, 7)]⟩,
  ⟨true, true, [(0, 1), (3, 3), (7, 7)]⟩, ⟨false, true, [(2, 3), (7, 7)]⟩,
  ⟨true, true, [(0, 0), (2, 3), (7, 7)]⟩, ⟨false, true, [(1, 3), (7, 7)]⟩,
  ⟨true, true, [(0, 3), (7, 7)]⟩, ⟨false, true, [(4, 4), (7, 7)]⟩,
  ⟨true, true, [(0, 0), (4, 4), (7, 7)]⟩, ⟨false, true, [(1, 1), (4, 4), (7, 7)]⟩,
  ⟨true, true, [(0, 1), (4, 4), (7, 7)]⟩, ⟨false, true, [(2, 2), (4, 4), (7, 7)]⟩,
  ⟨true, true, [(0, 0), (2, 2), (4, 4), (7, 7)]⟩, ⟨false, true, [(1, 2), (4, 4), (7, 7)]⟩,
  ⟨true, true, [(0, 2), (4, 4), (7, 7)]⟩, ⟨false, true, [(3, 4), (7, 7)]⟩,
  ⟨true, true, [(0, 0), (3, 4), (7, 7)]⟩, ⟨false, true, [(1, 1), (3, 4), (7, 7)]⟩,
  ⟨true, true, [(0, 1), (3, 4), (7, 7)]⟩, ⟨false, true, [(2, 4), (7, 7)]⟩,
  ⟨true, true, [(0, 0), (2, 4), (7, 7)]⟩, ⟨false, true, [(1, 4), (7, 7)]⟩,
  ⟨true, true, [(0, 4), (7, 7)]⟩, ⟨false, true, [(5, 5), (7, 7)]⟩,
  ⟨true, true, [(0, 0), (5, 5), (7, 7)]⟩, ⟨false, true, [(1, 1), (5, 5), (7, 7)]⟩,
  ⟨true, true, [(0, 1), (5, 5), (7, 7)]⟩, ⟨false, true, [(2, 2), (5, 5), (7, 7)]⟩,
  ⟨true, true, [(0, 0), (2, 2), (5, 5), (7, 7)]⟩, ⟨false, true, [(1, 2), (5, 5), (7, 7)]⟩,
  ⟨true, true, [(0, 2), (5, 5), (7, 7)]⟩, ⟨false, true, [(3, 3), (5, 5), (7, 7)]⟩,
  ⟨true, true, [(0, 0), (3, 3), (5, 5), (7, 7)]⟩, ⟨false, true, [(1, 1), (3, 3), (5, 5), (7, 7)]⟩,
  ⟨true, true, [(0, 1), (3, 3), (5, 5), (7, 7)]⟩, ⟨false, true, [(2, 3), (5, 5), (7, 7)]⟩,
  ⟨true, true, [(0, 0), (2, 3), (5, 5), (7, 7)]⟩, ⟨false, true, [(1, 3), (5, 5), (7, 7)]⟩,
  ⟨true, true, [(0, 3), (5, 5), (7, 7)]⟩, ⟨false, true, [(4, 5), (7, 7)]⟩,
  ⟨true, true, [(0, 0), (4, 5), (7, 7)]⟩, ⟨false, true, [(1, 1), (4, 5), (7, 7)]⟩,
  ⟨true, true, [(0, 1), (4, 5), (7, 7)]⟩, ⟨false, true, [(2, 2), (4, 5), (7, 7)]⟩,
  ⟨true, true, [(0, 0), (2, 2), (4, 5), (7, 7)]⟩, ⟨false, true, [(1, 2), (4, 5), (7, 7)]⟩,
  ⟨true, true, [(0, 2), (4, 5), (7, 7)]⟩, ⟨false, true, [(3, 5), (7, 7)]⟩,
  ⟨true, true, [(0, 0), (3, 5), (7, 7)]⟩, ⟨false, true, [(1, 1), (3, 5), (7, 7)]⟩,
  ⟨true, true, [(0, 1), (3, 5), (7, 7)]⟩, ⟨false, true, [(2, 5), (7, 7)]⟩,
  ⟨true, true, [(0, 0), (2, 5), (7, 7)]⟩, ⟨false, true, [(1, 5), (7, 7)]⟩,
  ⟨true, true, [(0, 5), (7, 7)]⟩, ⟨false, true, [(6, 7)]⟩, ⟨true, true, [(0, 0), (6, 7)]⟩,
  ⟨false, true, [(1, 1), (6, 7)]⟩, ⟨true, true, [(0, 1), (6, 7)]⟩, ⟨false, true, [(2, 2), (6, 7)]⟩,
  ⟨true, true, [(0, 0), (2, 2), (6, 7)]⟩, ⟨false, true, [(1, 2), (6, 7)]⟩,
  ⟨true, true, [(0, 2), (6, 7)]⟩, ⟨false, true, [(3, 3), (6, 7)]⟩,
  ⟨true, true, [(0, 0), (3, 3), (6, 7)]⟩, ⟨false, true, [(1, 1), (3, 3), (6, 7)]⟩,
  ⟨true, true, [(0, 1), (3, 3), (6, 7)]⟩, ⟨false, true, [(2, 3), (6, 7)]⟩,
  ⟨true, true, [(0, 0), (2, 3), (6, 7)]⟩, ⟨false, true, [(1, 3), (6, 7)]⟩,
  ⟨true, true, [(0, 3), (6, 7)]⟩, ⟨false, true, [(4, 4), (6, 7)]⟩,
  ⟨true, true, [(0, 0), (4, 4), (6, 7)]⟩, ⟨false, true, [(1, 1), (4, 4), (6, 7)]⟩,
  ⟨true, true, [(0, 1), (4, 4), (6, 7)]⟩, ⟨false, true, [(2, 2), (4, 4), (6, 7)]⟩,
  ⟨true, true, [(0, 0), (2, 2), (4, 4), (6, 7)]⟩, ⟨false, true, [(1, 2), (4, 4), (6, 7)]⟩,
  ⟨true, true, [(0, 2), (4, 4), (6, 7)]⟩, ⟨false, true, [(3, 4), (6, 7)]⟩,
  ⟨true, true, [(0, 0), (3, 4), (6, 7)]⟩, ⟨false, true, [(1, 1), (3, 4), (6, 7)]⟩,
  ⟨true, true, [(0, 1), (3, 4), (6, 7)]⟩, ⟨false, true, [(2, 4), (6, 7)]⟩,
  ⟨true, true, [(0, 0), (2, 4), (6, 7)]⟩, ⟨false, true, [(1, 4), (6, 7)]⟩,
  ⟨true, true, [(0, 4), (6, 7)]⟩, ⟨false, true, [(5, 7)]⟩, ⟨true, true, [(0, 0), (5, 7)]⟩,
  ⟨false, true, [(1, 1), (5, 7)]⟩, ⟨true, true, [(0, 1), (5, 7)]⟩, ⟨false, true, [(2, 2), (5, 7)]⟩,
  ⟨true, true, [(0, 0), (2, 2), (5, 7)]⟩, ⟨false, true, [(1, 2), (5, 7)]⟩,
  ⟨true, true, [(0, 2), (5, 7)]⟩, ⟨false, true, [(3, 3), (5, 7)]⟩,
  ⟨true, true, [(0, 0), (3, 3), (5, 7)]⟩, ⟨false, true, [(1, 1), (3, 3), (5, 7)]⟩,
  ⟨true, true, [(0, 1), (3, 3), (5, 7)]⟩, ⟨false, true, [(2, 3), (5, 7)]⟩,
  ⟨true, true, [(0, 0), (2, 3), (5, 7)]⟩, ⟨false, true, [(1, 3), (5, 7)]⟩,
  ⟨true, true, [(0, 3), (5, 7)]⟩, ⟨false, true, [(4, 7)]⟩, ⟨true, true, [(0, 0), (4, 7)]⟩,
  ⟨false, true, [(1, 1), (4, 7)]⟩, ⟨true, true, [(0, 1), (4, 7)]⟩, ⟨false, true, [(2, 2), (4, 7)]⟩,
  ⟨true, true, [(0, 0), (2, 2), (4, 7)]⟩, ⟨false, true, [(1, 2), (4, 7)]⟩,
  ⟨true, true, [(0, 2), (4, 7)]⟩, ⟨false, true, [(3, 7)]⟩, ⟨true, true, [(0, 0), (3, 7)]⟩,
  ⟨false, true, [(1, 1), (3, 7)]⟩, ⟨true, true, [(0, 1), (3, 7)]⟩, ⟨false, true, [(2, 7)]⟩,
  ⟨true, true, [(0, 0), (2, 7)]⟩, ⟨false, true, [(1, 7)]⟩, ⟨true, true, [(0, 7)]⟩]

theorem sackArray_spec : ∀ val : BitVec 8, sackArray.getD val.toNat ⟨false, false, []⟩ =
    ⟨val.getLsbD 0, val.getLsbD 7, runs 0 (Bitmap.bitsOf val)⟩ := by
  decide +kernel

end Sctp4Nat.MappingArray
