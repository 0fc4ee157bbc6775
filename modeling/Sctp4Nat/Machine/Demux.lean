import Mathlib.Data.List.Forall2
import Mathlib.Logic.Function.Basic

/-! # Demultiplexers

Inputs with keys are passed to handlers that are made on demand: the first input of a key makes a
handler, which owns the key from then on and gets all its inputs. `Routed` says what comes of a
list of inputs, in whatever way their keys are interleaved. -/

namespace Sctp4Nat

/-- The owners of the keys, the number of the next handler, and the calls of handlers, the newest
first. -/
@[ext]
structure Demux (K α : Type*) where
  owner : K → Option Nat
  next : Nat
  calls : List (Nat × α)
  owner_lt : ∀ k c, owner k = some c → c < next

namespace Demux

variable {K α : Type*}

def call (D : Demux K α) (c : Nat) (x : α) : Demux K α := { D with calls := (c, x) :: D.calls }

/-- What a demultiplexer does with a list of inputs. -/
structure Routed (D : Demux K α) (inputs : List (K × α)) (D' : Demux K α) : Prop where
  /-- There is one call for each input, in their order, of the owner of its key. -/
  calls : ∃ calls, D'.calls = calls.reverse ++ D.calls ∧
    List.Forall₂ (fun i call => D'.owner i.1 = some call.1 ∧ call.2 = i.2) inputs calls
  /-- A key keeps its owner. -/
  known : ∀ k c, D.owner k = some c → D'.owner k = some c
  /-- A key without an input gets no owner. -/
  silent : ∀ k, (∀ i ∈ inputs, i.1 ≠ k) → D'.owner k = D.owner k
  next : D.next ≤ D'.next
  /-- A key that had no owner gets a new handler. -/
  fresh : ∀ i ∈ inputs, D.owner i.1 = none → ∃ c, D'.owner i.1 = some c ∧ D.next ≤ c ∧ c < D'.next
  /-- A new handler owns exactly one key, which had an input and no owner. -/
  created : ∀ c, D.next ≤ c → c < D'.next →
    ∃ i ∈ inputs, D.owner i.1 = none ∧ ∀ k, D'.owner k = some c ↔ k = i.1

variable {D D₁ D' : Demux K α}

theorem Routed.refl (D : Demux K α) : Routed D [] D where
  calls := ⟨[], rfl, .nil⟩
  known _ _ h := h
  silent _ _ := rfl
  next := Nat.le_refl _
  fresh _ hi := absurd hi List.not_mem_nil
  created _ h h' := absurd h' (Nat.not_lt.mpr h)

theorem Routed.trans {inputs inputs' : List (K × α)} (h : Routed D inputs D₁)
    (h' : Routed D₁ inputs' D') : Routed D (inputs ++ inputs') D' where
  calls := by
    obtain ⟨calls, heq, hcalls⟩ := h.calls
    obtain ⟨calls', heq', hcalls'⟩ := h'.calls
    refine ⟨calls ++ calls', by rw [heq', heq, List.reverse_append, List.append_assoc], ?_⟩
    refine List.rel_append (hcalls.imp fun i call hi => ?_) hcalls'
    exact ⟨h'.known _ _ hi.1, hi.2⟩
  known k c hk := h'.known k c (h.known k c hk)
  silent k hk := by
    rw [h'.silent k fun i hi => hk i (List.mem_append_right _ hi),
      h.silent k fun i hi => hk i (List.mem_append_left _ hi)]
  next := Nat.le_trans h.next h'.next
  fresh i hi hnone := by
    cases hmid : D₁.owner i.1 with
    | some c =>
      -- the key got its owner among the first inputs
      by_cases hin : ∃ j ∈ inputs, j.1 = i.1
      · obtain ⟨j, hj, hji⟩ := hin
        obtain ⟨c', hc', hle, hlt⟩ := h.fresh j hj (hji ▸ hnone)
        rw [hji] at hc'
        exact ⟨c', h'.known _ _ hc', hle, Nat.lt_of_lt_of_le hlt h'.next⟩
      · rw [h.silent i.1 fun j hj hji => hin ⟨j, hj, hji⟩, hnone] at hmid
        cases hmid
    | none =>
      rcases List.mem_append.mp hi with hi | hi
      · obtain ⟨c, hc, _⟩ := h.fresh i hi hnone
        rw [hmid] at hc
        cases hc
      · obtain ⟨c, hc, hle, hlt⟩ := h'.fresh i hi hmid
        exact ⟨c, hc, Nat.le_trans h.next hle, hlt⟩
  created c hle hlt := by
    rcases Nat.lt_or_ge c D₁.next with hc | hc
    · obtain ⟨i, hi, hnone, howner⟩ := h.created c hle hc
      refine ⟨i, List.mem_append_left _ hi, hnone, fun k => ⟨fun hk => ?_, fun hk => ?_⟩⟩
      · cases hmid : D₁.owner k with
        | some c' =>
          rw [h'.known k c' hmid] at hk
          exact (howner k).mp (hmid.trans hk)
        | none =>
          -- what `k` got later is a handler that is not older than `D₁.next`
          by_cases hin : ∃ j ∈ inputs', j.1 = k
          · obtain ⟨j, hj, rfl⟩ := hin
            obtain ⟨c', hc', hge, _⟩ := h'.fresh j hj hmid
            rw [hk, Option.some.injEq] at hc'
            omega
          · rw [h'.silent k fun j hj hjk => hin ⟨j, hj, hjk⟩, hmid] at hk
            cases hk
      · exact h'.known k c ((howner k).mpr hk)
    · obtain ⟨i, hi, hnone, howner⟩ := h'.created c hc hlt
      refine ⟨i, List.mem_append_right _ hi, ?_, howner⟩
      cases hD : D.owner i.1 with
      | none => rfl
      | some c' =>
        rw [h.known _ _ hD] at hnone
        cases hnone

variable [DecidableEq K]

/-- A handler for a key that has none. -/
def make (D : Demux K α) (k : K) : Demux K α where
  owner := Function.update D.owner k (some D.next)
  next := D.next + 1
  calls := D.calls
  owner_lt k' c h := by
    rcases eq_or_ne k' k with rfl | hk
    · rw [Function.update_self, Option.some.injEq] at h
      exact h ▸ Nat.lt_succ_self _
    · rw [Function.update_of_ne hk] at h
      exact Nat.lt_succ_of_lt (D.owner_lt k' c h)

def feed (D : Demux K α) (k : K) (x : α) : Demux K α :=
  match D.owner k with
  | some c => D.call c x
  | none => (D.make k).call D.next x

def feedAll (D : Demux K α) (inputs : List (K × α)) : Demux K α :=
  inputs.foldl (fun D i => D.feed i.1 i.2) D

/-- One input: its key has an owner, or a handler is made for it. -/
theorem routed_feed (D : Demux K α) (k : K) (x : α) : Routed D [(k, x)] (D.feed k x) := by
  cases hk : D.owner k with
  | some c =>
    have hfeed : D.feed k x = D.call c x := by simp only [feed, hk]
    rw [hfeed]
    refine ⟨⟨[(c, x)], rfl, .cons ⟨hk, rfl⟩ .nil⟩, fun _ _ h => h, fun _ _ => rfl, Nat.le_refl _,
      fun i hi hnone => ?_, fun c' h h' => absurd h' (Nat.not_lt.mpr h)⟩
    rw [List.mem_singleton.mp hi, hk] at hnone
    cases hnone
  | none =>
    have hfeed : D.feed k x = (D.make k).call D.next x := by simp only [feed, hk]
    have hself : (D.feed k x).owner k = some D.next := by
      rw [hfeed]
      exact Function.update_self ..
    have hother : ∀ k' ≠ k, (D.feed k x).owner k' = D.owner k' := fun k' hne => by
      rw [hfeed]
      exact Function.update_of_ne hne ..
    have hnext : (D.feed k x).next = D.next + 1 := by rw [hfeed]; rfl
    refine ⟨⟨[(D.next, x)], by rw [hfeed]; rfl, .cons ⟨hself, rfl⟩ .nil⟩, fun k' c h => ?_,
      fun k' h => hother k' (h (k, x) (List.mem_singleton.mpr rfl)).symm,
      by rw [hnext]; exact Nat.le_succ _, fun i hi _ => ?_, fun c h h' => ?_⟩
    · rw [hother k' fun he => by rw [he, hk] at h; cases h]
      exact h
    · rw [List.mem_singleton.mp hi, hnext]
      exact ⟨D.next, hself, Nat.le_refl _, Nat.lt_succ_self _⟩
    · have hc : c = D.next := by omega
      refine ⟨(k, x), List.mem_singleton.mpr rfl, hk, fun k' => ⟨fun h => ?_, ?_⟩⟩
      · by_contra hne
        rw [hother k' hne, hc] at h
        exact Nat.lt_irrefl _ (D.owner_lt k' _ h)
      · rintro rfl
        rw [hc]
        exact hself

/-- **Runs.** Every list of inputs is routed. -/
theorem routed_feedAll (D : Demux K α) (inputs : List (K × α)) :
    Routed D inputs (D.feedAll inputs) := by
  induction inputs generalizing D with
  | nil => exact .refl D
  | cons i inputs ih => exact (routed_feed D i.1 i.2).trans (ih (D.feed i.1 i.2))

end Demux

end Sctp4Nat
