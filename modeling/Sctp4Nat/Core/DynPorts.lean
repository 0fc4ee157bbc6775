import Mathlib.Order.BooleanAlgebra.Set
import Sctp4Nat.Core.World

/-! # The dynamic ports that are handed out

`generateDynPort` draws a port of the dynamic range 49152-65535 until it finds one that is not
in `SctpPorts.portMap`. A run of it is fixed by its draws. The bound of
`nextInt(MAX_PORT - MIN_DYN_PORT)` is exclusive, so the last port of the range is never drawn:
the ports that some draws return are the free ones but that one (`returnedDynPorts_eq`). -/

namespace Sctp4Nat

namespace World

/-- What `RND.nextInt(MAX_PORT - MIN_DYN_PORT)` can return. -/
def IsDraw (draw : Nat) : Prop := draw < maxPort - minDynPort

instance (draw : Nat) : Decidable (IsDraw draw) := inferInstanceAs (Decidable (_ < _))

/-- The ports that `generateDynPort` returns on some sequence of draws. -/
def returnedDynPorts (w : World) : Set Int :=
  { port | ∃ draws, (∀ draw ∈ draws, IsDraw draw) ∧ w.generateDynPort draws = some port }

/-- The ports of the documented dynamic range that are no value of `portMap`. -/
def freeDynPorts (w : World) : Set Int :=
  { port | minDynPort ≤ port ∧ port ≤ maxPort ∧ port ∉ w.portMap.values }

variable {w : World} {port : Int}

theorem isUsedPort_iff : w.isUsedPort port = true ↔ port ∈ w.portMap.values :=
  ConcurrentHashMap.contains_iff

/-- `generateDynPort` returns the first drawn port that is not used. -/
theorem generateDynPort_eq_find? (draws : List Nat) :
    w.generateDynPort draws =
      (draws.map fun draw : Nat => (draw : Int) + minDynPort).find? fun p => !w.isUsedPort p := by
  induction draws with
  | nil => rfl
  | cons draw draws ih =>
    rw [generateDynPort, List.map_cons, List.find?_cons, ih]
    cases w.isUsedPort (draw + minDynPort) <;> rfl

/-- A returned port has been drawn and is not used. -/
theorem generateDynPort_some {draws : List Nat} (h : w.generateDynPort draws = some port) :
    (∃ draw ∈ draws, (draw : Int) + minDynPort = port) ∧ port ∉ w.portMap.values := by
  rw [generateDynPort_eq_find?] at h
  refine ⟨List.mem_map.mp (List.mem_of_find?_eq_some h), fun hmem => ?_⟩
  have hfree : w.isUsedPort port = false := by simpa using List.find?_some h
  rw [isUsedPort_iff.mpr hmem] at hfree
  cases hfree

/-- A free port is returned as soon as it is drawn. -/
theorem generateDynPort_singleton {draw : Nat}
    (h : (draw : Int) + minDynPort ∉ w.portMap.values) :
    w.generateDynPort [draw] = some (draw + minDynPort) := by
  have hfree : ¬ w.isUsedPort (draw + minDynPort) = true := fun hu => h (isUsedPort_iff.mp hu)
  simp only [generateDynPort]
  rw [if_neg hfree]

/-- A port that can be drawn and is not used is returned on some draws, and no other. -/
theorem mem_returnedDynPorts :
    port ∈ w.returnedDynPorts ↔
      minDynPort ≤ port ∧ port < maxPort ∧ port ∉ w.portMap.values := by
  constructor
  · rintro ⟨draws, hdraws, h⟩
    obtain ⟨⟨draw, hmem, rfl⟩, hfree⟩ := generateDynPort_some h
    have hlt : (draw : Int) < maxPort - minDynPort := hdraws draw hmem
    exact ⟨by omega, by omega, hfree⟩
  · rintro ⟨hge, hlt, hfree⟩
    obtain ⟨draw, hdraw⟩ := Int.eq_ofNat_of_zero_le (a := port - minDynPort) (by omega)
    obtain rfl : port = draw + minDynPort := by omega
    refine ⟨[draw], fun d hd => ?_, generateDynPort_singleton hfree⟩
    cases List.mem_singleton.mp hd
    show (draw : Int) < maxPort - minDynPort
    omega

/-- Whatever is in the map, the last port of the range is missing. -/
theorem returnedDynPorts_eq : w.returnedDynPorts = w.freeDynPorts \ {maxPort} := by
  ext port
  rw [mem_returnedDynPorts]
  constructor
  · rintro ⟨hge, hlt, hfree⟩
    exact ⟨⟨hge, by omega, hfree⟩, fun (h : port = maxPort) => by omega⟩
  · rintro ⟨⟨hge, hle, hfree⟩, hne⟩
    have hne : port ≠ maxPort := hne
    exact ⟨hge, by omega, hfree⟩

/-- The ports that can be returned are the free ones of the dynamic range, and the loop can be left
whenever there is one, exactly when the last port of the range is in use. -/
theorem dynPorts_complete_iff (w : World) :
    (w.returnedDynPorts = w.freeDynPorts ∧
      (w.freeDynPorts.Nonempty → ∃ draws, (∀ draw ∈ draws, IsDraw draw) ∧
        (w.generateDynPort draws).isSome = true)) ↔
    maxPort ∈ w.portMap.values := by
  constructor
  · rintro ⟨heq, -⟩
    by_contra hfree
    have hmem : maxPort ∈ w.freeDynPorts := ⟨by decide, by decide, hfree⟩
    rw [← heq, mem_returnedDynPorts] at hmem
    exact absurd hmem.2.1 (Int.lt_irrefl _)
  · intro hused
    have heq : w.returnedDynPorts = w.freeDynPorts := by
      rw [returnedDynPorts_eq]
      exact Set.sdiff_singleton_eq_self fun h => h.2.2 hused
    refine ⟨heq, fun hne => ?_⟩
    obtain ⟨port, draws, hdraws, h⟩ := heq ▸ hne
    exact ⟨draws, hdraws, by rw [h]; rfl⟩

/-- With no port in use, 65535 is a free dynamic port that no draws return. -/
theorem maxPort_not_returned :
    (65535 : Int) ∈ empty.freeDynPorts ∧ (65535 : Int) ∉ empty.returnedDynPorts ∧
      empty.returnedDynPorts ≠ empty.freeDynPorts := by
  have hfree : (65535 : Int) ∈ empty.freeDynPorts :=
    ⟨by decide, by decide, fun h => by cases h⟩
  have hnot : (65535 : Int) ∉ empty.returnedDynPorts := fun h =>
    absurd (mem_returnedDynPorts.mp h).2.1 (by decide)
  exact ⟨hfree, hnot, fun heq => hnot (heq ▸ hfree)⟩

end World

end Sctp4Nat
