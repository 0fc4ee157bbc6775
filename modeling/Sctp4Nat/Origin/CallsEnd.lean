import Sctp4Nat.Machine.Progress
import Sctp4Nat.Origin.NativeAccept

/-! # Calls on a socket end

`onSctpIn` keeps the monitor of its `SctpSocket` while it accepts, and the accept enters the
monitor again in `lockPtr` and `unlockPtr`; the other methods enter it for these blocks only. The
synchronization scheme of the class was chosen to avoid a deadlock. It does: in every
interleaving some thread that is in a call can take its next step, and each thread comes to the
end of its call after a bounded number of steps (`calls_end`). -/

namespace Sctp4Nat.NativeAccept

variable {T : Type*}

/-! ## The steps that are left -/

/-- The most steps that a native function makes between `lockPtr` and `unlockPtr`. -/
def NativeFn.steps : NativeFn → Nat
  | .accept => 4
  | .calls _ rest => 2 * rest.length + 2

/-- The most steps that follow the bracket around a native function. -/
def Cont.steps : Cont → Nat
  | .ret => 0
  | .send _ => 5
  | .sctpIn => 1

/-- The most steps that are left of a call. -/
def Pc.steps : Pc → Nat
  | .idle => 0
  | .listenReset => 7
  | .sendTest _ => 12
  | .sctpInEnter => 9
  | .sctpInTest => 8
  | .lock fn k => fn.steps + k.steps + 2
  | .read fn k => fn.steps + k.steps + 1
  | .call .accept _ k => k.steps + 4
  | .call (.calls _ rest) _ k => 2 * rest.length + k.steps + 2
  | .closeOld _ k => k.steps + 3
  | .store _ k => k.steps + 2
  | .unlock k _ => k.steps + 1
  | .sendWrite .. => 5
  | .sctpInWrite => 1

theorem sendGuard_steps (a : SendArgs) : (sendGuard a).steps ≤ 4 := by
  unfold sendGuard
  split
  · exact Nat.zero_le 4
  · exact Nat.le_refl 4

theorem continue_steps (rest : List UsrFn) (k : Cont) (ok : Bool) :
    (NativeFn.continue rest k ok).steps = 2 * rest.length + k.steps + 1 := by
  cases rest with
  | nil =>
    change k.steps + 1 = 2 * 0 + k.steps + 1
    omega
  | cons fn rest =>
    change 2 * rest.length + 2 + k.steps + 1 = 2 * (rest.length + 1) + k.steps + 1
    omega

theorem resume_steps (r : Bool) (k : Cont) : (k.resume r).steps = k.steps := by
  cases k <;> rfl

variable [DecidableEq T]

/-- A step of a thread in its call. -/
def Choice.isStep : Choice → Bool
  | .go | .result _ => true
  | .call _ | .associated _ => false

/-- Every step of a thread in its call leaves fewer. -/
theorem step_steps {t : T} {s s' : Shared T} {l l' : Pc} {a : Choice}
    (hs : step t s l a = some (s', l')) (ha : a.isStep = true) : l'.steps < l.steps := by
  cases a with
  | call m => cases ha
  | associated so => cases ha
  | result ok =>
    cases l with
    | call fn so k =>
      cases fn with
      | accept => cases hs
      | calls fn rest =>
        cases hs
        rw [continue_steps]
        change _ < 2 * rest.length + k.steps + 2
        omega
    | _ => cases hs
  | go =>
    cases l with
    | idle => cases hs
    | listenReset =>
      simp only [step] at hs
      split at hs <;> cases hs
      exact Nat.lt_succ_self 6
    | sendTest args =>
      cases hs
      have hguard := sendGuard_steps args
      split
      · change _ < 12
        omega
      · exact Nat.lt_succ_self 11
    | sctpInEnter =>
      simp only [step] at hs
      split at hs <;> cases hs
      exact Nat.lt_succ_self 8
    | sctpInTest =>
      simp only [step] at hs
      split at hs <;> cases hs
      · exact Nat.succ_pos 7
      · exact Nat.lt_succ_self 7
    | lock fn k =>
      simp only [step] at hs
      split at hs
      · split at hs <;> cases hs
        · exact Nat.lt_succ_self _
        · exact Nat.succ_pos _
      · cases hs
    | read fn k =>
      cases hs
      cases fn with
      | accept =>
        change k.steps + 4 < 4 + k.steps + 1
        omega
      | calls fn rest =>
        change 2 * rest.length + k.steps + 2 < 2 * rest.length + 2 + k.steps + 1
        omega
    | call fn so k =>
      cases fn with
      | accept =>
        simp only [step] at hs
        split at hs <;> cases hs
        · exact Nat.lt_succ_self _
        · change k.steps + 1 < k.steps + 4
          omega
      | calls => cases hs
    | closeOld new k =>
      cases hs
      exact Nat.lt_succ_self _
    | store new k =>
      cases hs
      exact Nat.lt_succ_self _
    | unlock k r =>
      simp only [step] at hs
      split at hs
      · split at hs <;> cases hs
        · rw [resume_steps]
          exact Nat.lt_succ_self _
        · exact Nat.succ_pos _
      · cases hs
    | sendWrite args r =>
      cases hs
      exact Nat.lt_succ_of_le (sendGuard_steps args)
    | sctpInWrite =>
      cases hs
      exact Nat.succ_pos 0

/-! ## The owner of the monitor -/

/-- In the block of `onSctpIn`. -/
def Pc.inBlock : Pc → Bool
  | .sctpInTest | .sctpInWrite => true
  | .lock _ .sctpIn | .read _ .sctpIn | .call _ _ .sctpIn => true
  | .closeOld _ .sctpIn | .store _ .sctpIn | .unlock .sctpIn _ => true
  | _ => false

/-- The thread that owns the monitor is in the block, and no other is. -/
def Owned (c : Config T (Shared T) Pc) : Prop :=
  ∀ t, c.shared.owner = some t ↔ (c.thread t).inBlock = true

section

variable {t : T} {s s' : Shared T} {l l' : Pc} {a : Choice}

omit [DecidableEq T] in
theorem inBlock_sendGuard (a : SendArgs) : (sendGuard a).inBlock = false := by
  unfold sendGuard
  split <;> rfl

omit [DecidableEq T] in
/-- An exception that leaves the method gives the monitor back if the method had it. -/
theorem leave_owner (s : Shared T) (k : Cont) :
    (s.leave k).owner = s.owner ∧ k ≠ .sctpIn ∨ (s.leave k).owner = none ∧ k = .sctpIn := by
  cases k with
  | ret => exact .inl ⟨rfl, nofun⟩
  | send args => exact .inl ⟨rfl, nofun⟩
  | sctpIn => exact .inr ⟨rfl, rfl⟩

/-- What a step does to the monitor: nothing, the block is entered, or it is left. -/
theorem step_block (hs : step t s l a = some (s', l')) :
    (s'.owner = s.owner ∧ l'.inBlock = l.inBlock) ∨
      (s.mayEnter t = true ∧ s'.owner = some t ∧ l'.inBlock = true) ∨
      (l.inBlock = true ∧ s'.owner = none ∧ l'.inBlock = false) := by
  cases a with
  | associated so =>
    simp only [step] at hs
    split at hs <;> cases hs
    exact .inl ⟨rfl, rfl⟩
  | call m =>
    cases l with
    | idle => cases hs; exact .inl ⟨rfl, by cases m <;> rfl⟩
    | _ => cases hs
  | result ok =>
    cases l with
    | call fn so k =>
      cases fn with
      | accept => cases hs
      | calls fn rest =>
        cases hs
        exact .inl ⟨rfl, by cases rest <;> cases k <;> rfl⟩
    | _ => cases hs
  | go =>
    cases l with
    | idle => cases hs
    | listenReset =>
      simp only [step] at hs
      split at hs <;> cases hs
      exact .inl ⟨rfl, rfl⟩
    | sendTest args =>
      cases hs
      refine .inl ⟨rfl, ?_⟩
      split
      · exact inBlock_sendGuard args
      · rfl
    | sctpInEnter =>
      simp only [step] at hs
      split at hs <;> cases hs
      exact .inr (.inl ⟨‹_›, rfl, rfl⟩)
    | sctpInTest =>
      simp only [step] at hs
      split at hs <;> cases hs
      · exact .inr (.inr ⟨rfl, rfl, rfl⟩)
      · exact .inl ⟨rfl, rfl⟩
    | lock fn k =>
      simp only [step] at hs
      split at hs
      · split at hs <;> cases hs
        · exact .inl ⟨rfl, by cases k <;> rfl⟩
        · rcases leave_owner { s with socket := _ } k with ⟨ho, hk⟩ | ⟨ho, rfl⟩
          · refine .inl ⟨ho, ?_⟩
            cases k <;> first | rfl | exact absurd rfl hk
          · exact .inr (.inr ⟨rfl, ho, rfl⟩)
      · cases hs
    | read fn k =>
      cases hs
      exact .inl ⟨rfl, by cases k <;> rfl⟩
    | call fn so k =>
      cases fn with
      | accept =>
        simp only [step] at hs
        split at hs <;> cases hs
        · exact .inl ⟨rfl, by cases k <;> rfl⟩
        · exact .inl ⟨rfl, by cases k <;> rfl⟩
      | calls => cases hs
    | closeOld new k =>
      cases hs
      exact .inl ⟨rfl, by cases k <;> rfl⟩
    | store new k =>
      cases hs
      exact .inl ⟨rfl, by cases k <;> rfl⟩
    | unlock k r =>
      simp only [step] at hs
      split at hs
      · split at hs <;> cases hs
        · exact .inl ⟨rfl, by cases k <;> rfl⟩
        · rcases leave_owner { s with socket := _ } k with ⟨ho, hk⟩ | ⟨ho, rfl⟩
          · refine .inl ⟨ho, ?_⟩
            cases k <;> first | rfl | exact absurd rfl hk
          · exact .inr (.inr ⟨rfl, ho, rfl⟩)
      · cases hs
    | sendWrite args r =>
      cases hs
      exact .inl ⟨rfl, inBlock_sendGuard args⟩
    | sctpInWrite =>
      cases hs
      exact .inr (.inr ⟨rfl, rfl, rfl⟩)

/-- A thread in a call that may enter the monitor has a next step. -/
theorem step_enabled (hmay : s.mayEnter t = true) (hl : l ≠ .idle) :
    ∃ a r, a.isStep = true ∧ step t s l a = some r := by
  cases l with
  | idle => exact absurd rfl hl
  | call fn so k =>
    cases fn with
    | accept =>
      by_cases hc : so ∈ s.usr.completed
      · exact ⟨.go, _, rfl, if_pos hc⟩
      · exact ⟨.go, _, rfl, if_neg hc⟩
    | calls fn rest => exact ⟨.result true, _, rfl, rfl⟩
  | listenReset => exact ⟨.go, _, rfl, if_pos hmay⟩
  | sctpInEnter => exact ⟨.go, _, rfl, if_pos hmay⟩
  | sctpInTest =>
    by_cases ha : s.socket.isAccepted = true
    · exact ⟨.go, _, rfl, if_pos ha⟩
    · exact ⟨.go, _, rfl, if_neg ha⟩
  | lock fn k =>
    refine ⟨.go, ?_⟩
    simp only [step, hmay, if_true]
    split <;> exact ⟨_, rfl, rfl⟩
  | unlock k r =>
    refine ⟨.go, ?_⟩
    simp only [step, hmay, if_true]
    split <;> exact ⟨_, rfl, rfl⟩
  | _ => exact ⟨.go, _, rfl, rfl⟩

end

section

variable {c c' : Config T (Shared T) Pc}

theorem Owned.exec (h : Owned c) {i : T × Choice} (he : (native T).exec c i = some c') :
    Owned c' := by
  obtain ⟨s, l, hs, rfl⟩ := threads_exec.mp he
  intro u
  rw [Config.set_shared]
  rcases eq_or_ne u i.1 with rfl | hne
  · rw [Config.set_thread_self]
    rcases step_block hs with ⟨ho, hb⟩ | ⟨-, ho, hb⟩ | ⟨-, ho, hb⟩
    · rw [ho, hb]
      exact h _
    · rw [ho, hb]
      exact iff_of_true rfl rfl
    · rw [ho, hb]
      exact iff_of_false nofun nofun
  · rw [Config.set_thread_of_ne c hne]
    rcases step_block hs with ⟨ho, -⟩ | ⟨hmay, ho, -⟩ | ⟨hb, ho, -⟩
    · rw [ho]
      exact h u
    · -- the monitor was free
      rw [ho, ← h u]
      simp only [Shared.mayEnter, Bool.or_eq_true, decide_eq_true_eq] at hmay
      rcases hmay with hmay | hmay <;> simp [hmay, hne.symm]
    · rw [ho, ← h u, (h i.1).mpr hb]
      exact iff_of_false nofun fun he => hne (Option.some.inj he).symm

/-- While a thread is in a call, some thread that is in a call can take its next step. -/
theorem Owned.enabled (h : Owned c) (hne : c.thread t ≠ .idle) :
    ∃ i c', i.2.isStep = true ∧ (native T).exec c i = some c' := by
  have hgo : ∀ u, c.shared.mayEnter u = true → c.thread u ≠ .idle →
      ∃ i c', i.2.isStep = true ∧ (native T).exec c i = some c' := by
    intro u hmay hu
    obtain ⟨a, r, ha, hs⟩ := step_enabled hmay hu
    exact ⟨(u, a), _, ha, threads_exec.mpr ⟨r.1, r.2, hs, rfl⟩⟩
  cases ho : c.shared.owner with
  | none =>
    refine hgo t ?_ hne
    simp [Shared.mayEnter, ho]
  | some u =>
    have hb := (h u).mp ho
    refine hgo u ?_ fun hu => ?_
    · simp [Shared.mayEnter, ho]
    · rw [hu] at hb
      cases hb

/-- The interleavings that start with the monitor free. -/
def unowned (T : Type*) [DecidableEq T] : Machine (Config T (Shared T) Pc) (T × Choice) where
  init c := (native T).init c ∧ c.shared.owner = none
  exec := (native T).exec

theorem reachable_owned (h : (unowned T).Reachable c) : Owned c := by
  refine Machine.Reachable.invariant (M := unowned T) (fun c hc t => ?_)
    (fun c i c' hc he => hc.exec he) h
  rw [hc.2, hc.1.2 t]
  exact iff_of_false nofun nofun

/-- A call of a method. -/
def isCall (i : T × Choice) : Bool := i.2 matches .call _

/-- While no method is called, the steps of the threads use up what is left of their calls. -/
theorem ranked [Fintype T] : (unowned T).Ranked Owned (fun i => !isCall i) (fun i => i.2.isStep)
    (fun c => c.total Pc.steps) where
  keeps h _ he := h.exec he
  le {c i c'} h ha he := by
    have he : (native T).exec c i = some c' := he
    obtain ⟨s, l, hs, rfl⟩ := threads_exec.mp he
    have htotal := c.total_set i.1 s l Pc.steps
    cases hi : i.2 with
    | call m => simp [isCall, hi] at ha
    | associated so =>
      rw [hi] at hs
      simp only [step] at hs
      split at hs <;> cases hs
      omega
    | go | result ok =>
      have := step_steps hs (by rw [hi]; rfl)
      omega
  lt {c i c'} h _ hstep he := by
    have he : (native T).exec c i = some c' := he
    obtain ⟨s, l, hs, rfl⟩ := threads_exec.mp he
    have htotal := c.total_set i.1 s l Pc.steps
    have := step_steps hs hstep
    omega

/-- **Calls end.** In every interleaving, associations that complete in between included, the
threads in a call make at most as many steps as are left of their calls, and as long as there is
such a thread one of them can make a step. -/
theorem calls_end [Fintype T] (hc : (unowned T).Reachable c) {is : List (T × Choice)}
    (hcalls : ∀ i ∈ is, isCall i = false) (hr : (unowned T).run c is = some c') :
    is.countP (fun i => i.2.isStep) ≤ c.total Pc.steps ∧
      ((∃ t, c'.thread t ≠ .idle) → ∃ i c'', i.2.isStep = true ∧
        (unowned T).exec c' i = some c'') := by
  have hallowed : ∀ i ∈ is, (!isCall i) = true := fun i hi => by rw [hcalls i hi]; rfl
  refine ⟨ranked.count_le (reachable_owned hc) hallowed hr, ?_⟩
  rintro ⟨t, hne⟩
  exact (reachable_owned (hc.run hr)).enabled hne

end

/-- A new socket and two threads. -/
def twoThreads : Config Bool (Shared Bool) Pc :=
  ⟨⟨{ ptr := 7, localPort := 9899 }, none, 0, { next := 1 }⟩, fun _ => .idle⟩

/-- One thread calls `sendNative`, the other `onSctpIn`. -/
def sendBesideSctpIn : List (Bool × Choice) :=
  [(false, .call (.sendNative ⟨[104], 0, 1⟩)), (true, .call .onSctpIn)]

/-- While the second thread accepts in its block, the first one waits for the monitor; both calls
end. -/
theorem send_beside_sctpIn_ends : ∃ c c', (unowned Bool).Reachable c ∧
    (unowned Bool).run c [(false, .go), (true, .go), (true, .go)] = some c' ∧
    (unowned Bool).exec c' (false, .go) = none ∧ 3 ≤ c.total Pc.steps ∧
    ∃ i c'', i.2.isStep = true ∧ (unowned Bool).exec c' i = some c'' := by
  obtain ⟨c, hcalls⟩ := Option.isSome_iff_exists.mp
    (show ((unowned Bool).run twoThreads sendBesideSctpIn).isSome = true from rfl)
  have hc : (unowned Bool).Reachable c :=
    Machine.Reachable.run (.init ⟨⟨⟨rfl, rfl, by decide⟩, fun _ => rfl⟩, rfl⟩) hcalls
  cases hcalls
  refine ⟨_, _, hc, rfl, rfl, ?_⟩
  have hsteps : ∀ i ∈ ([(false, .go), (true, .go), (true, .go)] : List (Bool × Choice)),
      isCall i = false := by decide
  obtain ⟨hcount, hnext⟩ := calls_end hc hsteps rfl
  exact ⟨hcount, hnext ⟨true, by decide⟩⟩

end Sctp4Nat.NativeAccept
