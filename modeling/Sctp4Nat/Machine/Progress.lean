import Mathlib.Logic.Basic
import Sctp4Nat.Machine.Basic

/-! # Machines that come to rest

A rank bounds how often a machine can still act: the steps that count lower it, and no other step
that is allowed raises it. So the counted steps of a run are bounded by the rank of its first
state, whatever comes between them (`Ranked.count_le`), and some run of counted steps leads to a
state in which none is enabled (`Ranked.exists_rest`). -/

namespace Sctp4Nat.Machine

variable {σ ι : Type*}

theorem run_append {M : Machine σ ι} {s u : σ} {is : List ι} (h : M.run s is = some u)
    (js : List ι) : M.run s (is ++ js) = M.run u js := by
  induction is generalizing s with
  | nil =>
    cases h
    rfl
  | cons i is ih =>
    obtain ⟨v, hv, h⟩ := Option.bind_eq_some_iff.mp h
    exact (run_cons hv (is ++ js)).trans (ih h)

/-- The allowed steps keep `Inv`, and lower `rank` when they count. -/
structure Ranked (M : Machine σ ι) (Inv : σ → Prop) (allowed counts : ι → Bool)
    (rank : σ → Nat) : Prop where
  keeps : Inv s → allowed i = true → M.exec s i = some s' → Inv s'
  le : Inv s → allowed i = true → M.exec s i = some s' → rank s' ≤ rank s
  lt : Inv s → allowed i = true → counts i = true → M.exec s i = some s' → rank s' < rank s

variable {M : Machine σ ι} {Inv : σ → Prop} {allowed counts : ι → Bool} {rank : σ → Nat}

/-- A run of allowed steps keeps the invariant, and its counted steps use up the rank. -/
theorem Ranked.run (h : Ranked M Inv allowed counts rank) (hs : Inv s) {is : List ι}
    (hallowed : ∀ i ∈ is, allowed i = true) (hr : M.run s is = some s') :
    Inv s' ∧ is.countP counts + rank s' ≤ rank s := by
  induction is generalizing s with
  | nil =>
    cases hr
    exact ⟨hs, Nat.le_of_eq (Nat.zero_add _)⟩
  | cons i is ih =>
    obtain ⟨u, hu, hr⟩ := Option.bind_eq_some_iff.mp hr
    have hi := hallowed i List.mem_cons_self
    obtain ⟨hinv, hle⟩ := ih (h.keeps hs hi hu)
      (fun j hj => hallowed j (List.mem_cons_of_mem i hj)) hr
    refine ⟨hinv, ?_⟩
    rw [List.countP_cons]
    split
    · rename_i hc
      have := h.lt hs hi hc hu
      omega
    · have := h.le hs hi hu
      omega

theorem Ranked.count_le (h : Ranked M Inv allowed counts rank) (hs : Inv s) {is : List ι}
    (hallowed : ∀ i ∈ is, allowed i = true) (hr : M.run s is = some s') :
    is.countP counts ≤ rank s := by
  obtain ⟨-, hle⟩ := h.run hs hallowed hr
  omega

/-- No counted step is enabled. -/
def AtRest (M : Machine σ ι) (counts : ι → Bool) (s : σ) : Prop :=
  ∀ i, counts i = true → M.exec s i = none

/-- Counted steps lead from every state to one in which no more is enabled. -/
theorem Ranked.exists_rest (h : Ranked M Inv allowed counts rank)
    (hcounts : ∀ i, counts i = true → allowed i = true) (hs : Inv s) :
    ∃ is s', (∀ i ∈ is, counts i = true) ∧ M.run s is = some s' ∧ M.AtRest counts s' := by
  induction hn : rank s using Nat.strongRecOn generalizing s with
  | ind n ih =>
    by_cases hrest : M.AtRest counts s
    · exact ⟨[], s, fun _ hi => absurd hi List.not_mem_nil, rfl, hrest⟩
    · simp only [AtRest, not_forall] at hrest
      obtain ⟨i, hc, hne⟩ := hrest
      obtain ⟨s', hs'⟩ := Option.ne_none_iff_exists'.mp hne
      have hi := hcounts i hc
      have hlt := h.lt hs hi hc hs'
      obtain ⟨is, s'', hall, hr, hrest⟩ := ih (rank s') (hn ▸ hlt) (h.keeps hs hi hs') rfl
      refine ⟨i :: is, s'', ?_, (run_cons hs' is).trans hr, hrest⟩
      intro j hj
      rcases List.mem_cons.mp hj with rfl | hj
      · exact hc
      · exact hall j hj

end Sctp4Nat.Machine
