import Mathlib.Data.List.Perm.Subperm
import Sctp4Nat.Core.SctpMapper
import Sctp4Nat.Machine.Basic

/-! # `SctpMapper.shutdown` beside `register`

`shutdown` is not synchronized: a `register` that has tested `isShutdown` puts its channel at any
later moment. The iterator over `socketMap` is weakly consistent. It returns every entry that was
there when it was created, each once, and may or may not return one that is put afterwards.

`PickedUp` is the condition on a run under which `clear` finds no channel that was not closed. -/

namespace Sctp4Nat.MapperShutdown

/-- A call of `register`. -/
inductive RegisterPc
  | start
  /-- Past the test of `isShutdown`. -/
  | tested
  | refused
  | done
  deriving DecidableEq, Repr

abbrev Entry := InetSocketAddress × ChanId

inductive ShutdownPc
  | start
  | flagged
  | sized (size : Nat)
  /-- In the loop, with the entries that were there when the iterator was created and those it
  has returned. -/
  | iterating (size : Nat) (initial visited : List Entry)
  | awaiting (size : Nat)
  | clearing
  | resetting
  | returned
  | timedOut
  deriving DecidableEq, Repr

structure State (T : Type*) where
  mapper : SctpMapper
  register : T → RegisterPc
  shutdown : ShutdownPc
  /-- The channels on which `close` has been called. -/
  closed : List ChanId
  /-- The close tasks that have not ended. -/
  running : List ChanId
  /-- The `countDown` calls on the latch. -/
  counted : Nat
  /-- The channels that `register` has put. -/
  stored : List ChanId
  /-- The channels that `clear` has removed and that were not closed before. -/
  lost : List ChanId

/-- A `register` makes its test or its put; `shutdown` takes its next step, or its iterator
returns an entry, or its wait ends with the timeout; a close task ends. -/
inductive Choice (T : Type*)
  | test (t : T)
  | put (t : T)
  | go
  | visit (e : Entry)
  | timeout
  | complete (c : ChanId)

/-- The arguments of the `register` calls. -/
structure Calls (T : Type*) where
  remote : T → InetSocketAddress
  so : T → ChanId
  remote_ne : ∀ t u, t ≠ u → equals (remote t) (remote u) = false

variable {T : Type*} [DecidableEq T]

def exec (calls : Calls T) (s : State T) : Choice T → Option (State T)
  | .test t =>
    if s.register t = .start then
      let pc := if s.mapper.isShutdown then .refused else .tested
      some { s with register := Function.update s.register t pc }
    else none
  | .put t =>
    if s.register t = .tested then
      some { s with
        mapper := { s.mapper with
          socketMap := s.mapper.socketMap.put (calls.remote t) (calls.so t) }
        register := Function.update s.register t .done
        stored := calls.so t :: s.stored }
    else none
  | .go =>
    match s.shutdown with
    | .start => some { s with mapper := { s.mapper with isShutdown := true }, shutdown := .flagged }
    | .flagged => some { s with shutdown := .sized s.mapper.socketMap.size }
    | .sized size => some { s with shutdown := .iterating size s.mapper.socketMap.entries [] }
    | .iterating size initial visited =>
      if ∀ e ∈ initial, e ∈ visited then some { s with shutdown := .awaiting size } else none
    | .awaiting size => if size ≤ s.counted then some { s with shutdown := .clearing } else none
    | .clearing => some { s with
        mapper := { s.mapper with socketMap := .empty }
        shutdown := .resetting
        lost := s.mapper.socketMap.values.filter (· ∉ s.closed) }
    | .resetting =>
      some { s with mapper := { s.mapper with isShutdown := false }, shutdown := .returned }
    | .returned | .timedOut => none
  | .visit e =>
    match s.shutdown with
    | .iterating size initial visited =>
      if e ∈ s.mapper.socketMap.entries ∧ e ∉ visited then
        some { s with
          shutdown := .iterating size initial (e :: visited)
          closed := e.2 :: s.closed
          running := e.2 :: s.running }
      else none
    | _ => none
  | .timeout =>
    match s.shutdown with
    | .awaiting _ => some { s with shutdown := .timedOut }
    | _ => none
  | .complete c =>
    if c ∈ s.running then
      some { s with
        mapper := s.mapper.unregister (some c)
        running := s.running.erase c
        counted := s.counted + 1 }
    else none

/-- One `shutdown` and all the `register` calls, from a map with none of their remotes. -/
def machine (calls : Calls T) : Machine (State T) (Choice T) where
  init s := s.mapper.isShutdown = false ∧
    (∀ t, s.mapper.socketMap.containsKey (calls.remote t) = false) ∧
    (∀ t, s.register t = .start) ∧ s.shutdown = .start ∧ s.closed = [] ∧ s.running = [] ∧
    s.counted = 0 ∧ s.stored = [] ∧ s.lost = []
  exec := exec calls

/-- A test and a put with nothing between them are a call of `SctpMapper.register`. -/
theorem test_put_eq_register (calls : Calls T) {s s₁ s₂ : State T} {t : T}
    (h₁ : exec calls s (.test t) = some s₁) (h₂ : exec calls s₁ (.put t) = some s₂) :
    s₂.mapper = s.mapper.register (some (calls.remote t)) (some (calls.so t)) := by
  simp only [exec, Option.ite_none_right_eq_some, Option.some.injEq] at h₁ h₂
  obtain ⟨_, rfl⟩ := h₁
  obtain ⟨htested, rfl⟩ := h₂
  simp only [Function.update_self] at htested
  have hopen : s.mapper.isShutdown = false := by
    cases hs : s.mapper.isShutdown with
    | true => simp [hs] at htested
    | false => rfl
  exact (SctpMapper.register_eq hopen ..).symm

/-- Inside the loop over the entries. -/
def ShutdownPc.inLoop : ShutdownPc → Bool
  | .iterating .. => true
  | _ => false

/-- Between the loop and `clear`. -/
def ShutdownPc.afterLoop : ShutdownPc → Bool
  | .awaiting _ | .clearing => true
  | _ => false

/-- Every entry put before `clear` is one that the iterator returns: when the iteration ends no
entry is left out, and no channel is put between its end and `clear`. -/
def PickedUp (calls : Calls T) (s : State T) : Choice T → Prop
  | .put t => s.shutdown.afterLoop = true → calls.so t ∈ s.closed
  | .go => s.shutdown.inLoop = true → ∀ e ∈ s.mapper.socketMap.entries, e.2 ∈ s.closed
  | _ => True

instance (calls : Calls T) (s : State T) (i : Choice T) : Decidable (PickedUp calls s i) :=
  match i with
  | .put _ | .go => inferInstanceAs (Decidable (_ → _))
  | .test _ | .visit _ | .timeout | .complete _ => isTrue trivial

/-! ## The invariant -/

variable {calls : Calls T} {s s' : State T}

/-- What is known at each step of `shutdown`; in the loop, that the iterator has returned as many
entries as close tasks were submitted. -/
def ShutdownPc.Local (s : State T) : ShutdownPc → Prop
  | .start | .flagged => s.running = [] ∧ s.counted = 0
  | .sized size => size ≤ s.mapper.socketMap.size ∧ s.running = [] ∧ s.counted = 0
  | .iterating size initial visited => size ≤ initial.length ∧ initial.Nodup ∧ visited.Nodup ∧
      visited.length = s.running.length + s.counted
  | .awaiting size => size ≤ s.running.length + s.counted
  | _ => True

structure Inv (calls : Calls T) (s : State T) : Prop where
  /-- The remotes of calls that have not put are free. -/
  fresh : ∀ t, s.register t ≠ .done → s.mapper.socketMap.containsKey (calls.remote t) = false
  pc : s.shutdown.Local s
  /-- After the loop every channel in the map is closed. -/
  picked : s.shutdown.afterLoop = true → ∀ e ∈ s.mapper.socketMap.entries, e.2 ∈ s.closed
  kept : ∀ c ∈ s.stored, c ∈ s.closed ∨ c ∈ s.mapper.socketMap.values
  none_lost : s.lost = []

theorem Inv.put (h : Inv calls s) (ht : s.register t = .tested)
    (hp : PickedUp calls s (.put t)) :
    Inv calls { s with
      mapper := { s.mapper with
        socketMap := s.mapper.socketMap.put (calls.remote t) (calls.so t) }
      register := Function.update s.register t .done
      stored := calls.so t :: s.stored } := by
  have hfresh := h.fresh t (by rw [ht]; simp)
  refine ⟨fun u hu => ?_, ?_, fun ha e he => ?_, fun c hc => ?_, h.none_lost⟩
  · have hut : u ≠ t := fun he => hu (by rw [he]; exact Function.update_self ..)
    rw [ConcurrentHashMap.containsKey_put, calls.remote_ne t u hut.symm, Bool.false_or]
    exact h.fresh u (by simpa [Function.update_of_ne hut] using hu)
  · have := h.pc
    cases hpc : s.shutdown <;> rw [hpc] at this <;> try exact this
    exact ⟨Nat.le_trans this.1 ConcurrentHashMap.size_le_size_put, this.2⟩
  · rcases (ConcurrentHashMap.mem_put_of_fresh hfresh).mp he with he | rfl
    · exact h.picked ha e he
    · exact hp ha
  · have hvalues : ∀ c, c ∈ s.mapper.socketMap.values →
        c ∈ (s.mapper.socketMap.put (calls.remote t) (calls.so t)).values := by
      intro c hc
      obtain ⟨k, hk⟩ := ConcurrentHashMap.mem_values.mp hc
      exact ConcurrentHashMap.mem_values.mpr
        ⟨k, (ConcurrentHashMap.mem_put_of_fresh hfresh).mpr (.inl hk)⟩
    rcases List.mem_cons.mp hc with rfl | hc
    · exact .inr (ConcurrentHashMap.mem_values.mpr
        ⟨_, (ConcurrentHashMap.mem_put_of_fresh hfresh).mpr (.inr rfl)⟩)
    · exact (h.kept c hc).imp_right (hvalues c)

/-- The steps of `shutdown` itself. -/
theorem Inv.go (h : Inv calls s) (hp : PickedUp calls s .go)
    (he : exec calls s .go = some s') : Inv calls s' := by
  have hpc := h.pc
  simp only [exec] at he
  cases hs : s.shutdown with
  | start =>
    rw [hs] at he hpc; cases he
    exact ⟨h.fresh, hpc, (fun ha => nomatch ha), h.kept, h.none_lost⟩
  | flagged =>
    rw [hs] at he hpc; cases he
    exact ⟨h.fresh, ⟨Nat.le_refl _, hpc⟩, (fun ha => nomatch ha), h.kept, h.none_lost⟩
  | sized size =>
    rw [hs] at he hpc; cases he
    obtain ⟨hsize, hrun, hcount⟩ := hpc
    refine ⟨h.fresh, ⟨hsize, s.mapper.socketMap.nodup, .nil, ?_⟩, (fun ha => nomatch ha), h.kept,
      h.none_lost⟩
    simp [hrun, hcount]
  | iterating size initial visited =>
    rw [hs] at he hpc
    simp only [Option.ite_none_right_eq_some, Option.some.injEq] at he
    obtain ⟨hall, rfl⟩ := he
    obtain ⟨hsize, hnodup, _, hlen⟩ := hpc
    -- the iterator has returned at least the entries that were counted
    have hle : initial.length ≤ visited.length := (List.subperm_of_subset hnodup hall).length_le
    exact ⟨h.fresh, by simp only [ShutdownPc.Local]; omega, fun _ => hp (by rw [hs]; rfl), h.kept,
      h.none_lost⟩
  | awaiting size =>
    rw [hs] at he
    simp only [Option.ite_none_right_eq_some, Option.some.injEq] at he
    obtain ⟨_, rfl⟩ := he
    exact ⟨h.fresh, trivial, fun _ => h.picked (by rw [hs]; rfl), h.kept, h.none_lost⟩
  | clearing =>
    rw [hs] at he; cases he
    have hpicked := h.picked (by rw [hs]; rfl)
    have hvalues : ∀ c ∈ s.mapper.socketMap.values, c ∈ s.closed := by
      intro c hc
      obtain ⟨k, hk⟩ := ConcurrentHashMap.mem_values.mp hc
      exact hpicked _ hk
    refine ⟨fun t _ => rfl, trivial, (fun ha => nomatch ha), fun c hc => ?_, ?_⟩
    · exact .inl ((h.kept c hc).elim id (hvalues c))
    · exact List.filter_eq_nil_iff.mpr fun c hc => by simpa using hvalues c hc
  | resetting =>
    rw [hs] at he; cases he
    exact ⟨h.fresh, trivial, (fun ha => nomatch ha), h.kept, h.none_lost⟩
  | returned | timedOut => rw [hs] at he; cases he

theorem Inv.visit (h : Inv calls s) (he : exec calls s (.visit e) = some s') : Inv calls s' := by
  have hpc := h.pc
  simp only [exec] at he
  cases hs : s.shutdown with
  | iterating size initial visited =>
    rw [hs] at he hpc
    simp only [Option.ite_none_right_eq_some, Option.some.injEq] at he
    obtain ⟨⟨_, hnew⟩, rfl⟩ := he
    obtain ⟨hsize, hnodup, hvisited, hlen⟩ := hpc
    refine ⟨h.fresh, ⟨hsize, hnodup, List.nodup_cons.mpr ⟨hnew, hvisited⟩, ?_⟩,
      (fun ha => nomatch ha), fun c hc => ?_, h.none_lost⟩
    · simp only [List.length_cons]; omega
    · exact (h.kept c hc).imp_left (List.mem_cons_of_mem _)
  | _ => rw [hs] at he; cases he

theorem Inv.complete (h : Inv calls s) (he : exec calls s (.complete c) = some s') :
    Inv calls s' := by
  simp only [exec, Option.ite_none_right_eq_some, Option.some.injEq,
    SctpMapper.unregister_eq] at he
  obtain ⟨hc, rfl⟩ := he
  refine ⟨h.fresh, ?_, h.picked, h.kept, h.none_lost⟩
  have hlen := List.length_erase_of_mem hc
  have hpos := List.length_pos_of_mem hc
  have hpc := h.pc
  cases hs : s.shutdown <;> rw [hs] at hpc <;>
    simp only [ShutdownPc.Local, hlen] at hpc ⊢
  · rw [hpc.1] at hc; cases hc
  · rw [hpc.1] at hc; cases hc
  · rw [hpc.2.1] at hc; cases hc
  · exact ⟨hpc.1, hpc.2.1, hpc.2.2.1, by omega⟩
  · omega

theorem Inv.exec (h : Inv calls s) {i : Choice T} (hp : PickedUp calls s i)
    (he : exec calls s i = some s') : Inv calls s' := by
  cases i with
  | test t =>
    simp only [MapperShutdown.exec, Option.ite_none_right_eq_some, Option.some.injEq] at he
    obtain ⟨ht, rfl⟩ := he
    refine ⟨fun u hu => ?_, h.pc, h.picked, h.kept, h.none_lost⟩
    rcases eq_or_ne u t with rfl | hne
    · exact h.fresh u (by rw [ht]; simp)
    · exact h.fresh u (by simpa [Function.update_of_ne hne] using hu)
  | put t =>
    simp only [MapperShutdown.exec, Option.ite_none_right_eq_some, Option.some.injEq] at he
    obtain ⟨ht, rfl⟩ := he
    exact h.put ht hp
  | go => exact h.go hp he
  | visit e => exact h.visit he
  | timeout =>
    simp only [MapperShutdown.exec] at he
    split at he <;> cases he
    exact ⟨h.fresh, trivial, (fun ha => nomatch ha), h.kept, h.none_lost⟩
  | complete c => exact h.complete he

theorem Inv.init (h : (machine calls).init s) : Inv calls s := by
  obtain ⟨_, hfresh, _, hpc, _, hrunning, hcounted, hstored, hlost⟩ := h
  refine ⟨fun t _ => hfresh t, ?_, ?_, ?_, hlost⟩
  · rw [hpc]; exact ⟨hrunning, hcounted⟩
  · rw [hpc]; exact fun ha => nomatch ha
  · rw [hstored]; exact fun c hc => nomatch hc

theorem reachable_inv (h : ((machine calls).restrict (PickedUp calls)).Reachable s) :
    Inv calls s :=
  h.restrict_invariant (fun _ => Inv.init) fun _ _ _ hinv hp he => hinv.exec hp he

/-! ## When the condition fails -/

/-- `shutdown` can go on to return, and has then removed a channel that was not closed. -/
def Loses (calls : Calls T) (s : State T) : Prop :=
  ∃ is s', (machine calls).run s is = some s' ∧ s'.shutdown = .returned ∧ s'.lost ≠ []

theorem Loses.of_step (he : exec calls s i = some s') (h : Loses calls s') : Loses calls s := by
  obtain ⟨is, s₁, hrun, hs₁⟩ := h
  exact ⟨i :: is, s₁, (Machine.run_cons (M := machine calls) he is).trans hrun, hs₁⟩

theorem loses_of_clearing (hs : s.shutdown = .clearing) (he : e ∈ s.mapper.socketMap.entries)
    (hc : e.2 ∉ s.closed) : Loses calls s := by
  have hlost : s.mapper.socketMap.values.filter (· ∉ s.closed) ≠ [] := by
    intro hnil
    have := List.filter_eq_nil_iff.mp hnil e.2 (ConcurrentHashMap.mem_values.mpr ⟨e.1, he⟩)
    simp [hc] at this
  have hclear : exec calls s .go = some { s with
      mapper := { s.mapper with socketMap := .empty }
      shutdown := .resetting
      lost := s.mapper.socketMap.values.filter (· ∉ s.closed) } := by
    simp [exec, hs]
  exact Loses.of_step hclear ⟨[.go], _, rfl, rfl, hlost⟩

/-- All close tasks end, the latch opens, and `clear` follows. -/
theorem loses_of_awaiting (hs : s.shutdown = .awaiting size)
    (hsize : size ≤ s.running.length + s.counted) (he : e ∈ s.mapper.socketMap.entries)
    (hc : e.2 ∉ s.closed) : Loses calls s := by
  generalize hn : s.running.length = n at hsize
  induction n generalizing s with
  | zero =>
    have hopen : exec calls s .go = some { s with shutdown := .clearing } := by
      simp [exec, hs, show size ≤ s.counted by omega]
    exact Loses.of_step hopen (loses_of_clearing rfl he hc)
  | succ n ih =>
    obtain ⟨c, rest, hrun⟩ := List.length_eq_succ_iff.mp hn
    have hmem : c ∈ s.running := by rw [← hrun.1]; exact List.mem_cons_self ..
    have hstep : exec calls s (.complete c) = some { s with
        running := s.running.erase c
        counted := s.counted + 1 } := by
      simp [exec, hmem]
    refine Loses.of_step hstep (ih hs he hc ?_ ?_)
    · simp only [List.length_erase_of_mem hmem]; omega
    · simp only; omega

theorem loses_of_not_pickedUp (h : Inv calls s) (hp : ¬ PickedUp calls s i)
    (he : exec calls s i = some s') : Loses calls s' := by
  cases i with
  | put t =>
    obtain ⟨hafter, hc⟩ := Classical.not_imp.mp hp
    simp only [exec, Option.ite_none_right_eq_some, Option.some.injEq] at he
    obtain ⟨ht, rfl⟩ := he
    have hfresh := h.fresh t (by rw [ht]; simp)
    have hmem := (ConcurrentHashMap.mem_put_of_fresh (v := calls.so t)
      (e := (calls.remote t, calls.so t)) hfresh).mpr (.inr rfl)
    have hpc := h.pc
    cases hs : s.shutdown with
    | awaiting size => rw [hs] at hpc; exact loses_of_awaiting rfl hpc hmem hc
    | clearing => exact loses_of_clearing rfl hmem hc
    | _ => rw [hs] at hafter; cases hafter
  | go =>
    obtain ⟨hin, hall⟩ := Classical.not_imp.mp hp
    obtain ⟨e, hmem, hc⟩ : ∃ e ∈ s.mapper.socketMap.entries, e.2 ∉ s.closed := by
      simpa using hall
    have hpc := h.pc
    cases hs : s.shutdown with
    | iterating size initial visited =>
      simp only [exec, hs, Option.ite_none_right_eq_some, Option.some.injEq] at he
      obtain ⟨hvisited, rfl⟩ := he
      rw [hs] at hpc
      obtain ⟨hsize, hnodup, _, hlen⟩ := hpc
      have hle : initial.length ≤ visited.length :=
        (List.subperm_of_subset hnodup hvisited).length_le
      exact loses_of_awaiting rfl (by simp only; omega) hmem hc
    | _ => rw [hs] at hin; cases hin
  | _ => exact absurd trivial hp

/-- In every run in which the iterator picks up what is put before `clear`, no channel is removed
without being closed, and every registered channel is closed or still in the map; and the first
step that breaks the condition can be continued to a `shutdown` that loses a channel. -/
theorem none_lost_iff_pickedUp (calls : Calls T) :
    (∀ s, ((machine calls).restrict (PickedUp calls)).Reachable s →
      s.lost = [] ∧ ∀ c ∈ s.stored, c ∈ s.closed ∨ c ∈ s.mapper.socketMap.values) ∧
    ∀ s, ((machine calls).restrict (PickedUp calls)).Reachable s →
      ∀ i s', (machine calls).exec s i = some s' → ¬ PickedUp calls s i →
        ∃ is s'', (machine calls).run s' is = some s'' ∧ s''.shutdown = .returned ∧
          s''.lost ≠ [] :=
  ⟨fun _ hs => ⟨(reachable_inv hs).none_lost, (reachable_inv hs).kept⟩,
    fun _ hs _ _ he hp => loses_of_not_pickedUp (reachable_inv hs) hp he⟩

/-- Two `register` calls, from `10.0.0.1` and from `10.0.0.2`. -/
def twoCalls : Calls (Fin 2) where
  remote t := .resolved (.inet4 (0x0a000001 + BitVec.ofNat 32 t)) 5000
  so t := t
  remote_ne := by decide

def initial : State (Fin 2) := ⟨.empty, fun _ => .start, .start, [], [], 0, [], []⟩

/-- The put of the second `register` falls into the loop and the iterator returns its entry. -/
theorem put_in_loop_closed : ∃ s, ((machine twoCalls).restrict (PickedUp twoCalls)).Reachable s ∧
    s.shutdown = .returned ∧ s.stored = [1, 0] ∧ s.lost = [] := by
  have hstart : ((machine twoCalls).restrict (PickedUp twoCalls)).Reachable initial :=
    .init ⟨rfl, fun _ => rfl, fun _ => rfl, rfl, rfl, rfl, rfl, rfl, rfl⟩
  obtain ⟨s, hs, hpc, hstored⟩ := hstart.exists_run
    (P := fun s => s.shutdown = .returned ∧ s.stored = [1, 0])
    [.test 0, .put 0, .test 1, .go, .go, .go, .visit (twoCalls.remote 0, 0), .put 1,
      .visit (twoCalls.remote 1, 1), .go, .complete 0, .complete 1, .go, .go, .go] (by decide)
  exact ⟨s, hs, hpc, hstored, ((none_lost_iff_pickedUp twoCalls).1 s hs).1⟩

/-- The second `register` tests before `shutdown` sets the flag and puts after its loop. -/
theorem put_after_loop_lost : ∃ s, (machine twoCalls).Reachable s ∧ s.shutdown = .returned ∧
    s.lost = [1] ∧ ¬ ∀ c ∈ s.stored, c ∈ s.closed ∨ c ∈ s.mapper.socketMap.values := by
  have hstart : (machine twoCalls).Reachable initial :=
    .init ⟨rfl, fun _ => rfl, fun _ => rfl, rfl, rfl, rfl, rfl, rfl, rfl⟩
  exact hstart.exists_run
    [.test 0, .put 0, .test 1, .go, .go, .go, .visit (twoCalls.remote 0, 0), .go, .put 1,
      .complete 0, .go, .go, .go] (by decide)

end Sctp4Nat.MapperShutdown
