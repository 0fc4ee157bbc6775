import Mathlib.Data.Fintype.Sum
import Mathlib.Tactic.DeriveFintype
import Sctp4Nat.Core.Connect
import Sctp4Nat.Machine.OneShot

/-! # The promise of `connect` is settled once

The deferred of `connect` is a cell that takes one value, and the caller, the calls of the
listener and the timeout thread are the threads that write it. The caller and the listener do not
look at the deferred before they settle it, and the timeout thread looks in one step and rejects in
another. So a second settlement is refused in every run that has one thread decide to settle while
the deferred is settled or another thread is about to. -/

namespace Sctp4Nat

namespace Connect

inductive Thread (T : Type*)
  | caller
  | listener (t : T)
  | timeout
  deriving DecidableEq, Fintype

section
variable {T : Type*}

/-- The caller is going to call `d.reject`. -/
@[simp] def CallerPc.settling (initialized : Bool) : CallerPc → Bool
  | .start => !initialized
  | .catching _ | .rejecting _ => true
  | _ => false

/-- A call of the listener is going to settle the deferred. One that cannot build the text of its
exception never comes to it. -/
@[simp] def ListenerPc.settling (remote : Option InetSocketAddress) : ListenerPc → Bool
  | .resolving => true
  | .rejecting b => (rejection remote b).isOk
  | _ => false

@[simp] def TimeoutPc.settling : TimeoutPc → Bool
  | .rejectingInterrupted | .rejecting => true
  | _ => false

/-- The thread is going to call `d.resolve` or `d.reject`. -/
def settling (c : ChanId) (s : State T) : Thread T → Bool
  | .caller => s.caller.settling s.world.stack.initialized
  | .listener t => (s.listener t).settling (s.world.channel c).remote
  | .timeout => s.timeout.settling

@[simp] def CallerPc.thrown : CallerPc → Option Throwable
  | .threw e => some e
  | _ => none

@[simp] def ListenerPc.thrown : ListenerPc → Option Throwable
  | .threw e => some e
  | _ => none

@[simp] def TimeoutPc.thrown : TimeoutPc → Option Throwable
  | .threw e => some e
  | _ => none

/-- The exception that a thread has ended with. -/
def thrown (s : State T) : Thread T → Option Throwable
  | .caller => s.caller.thrown
  | .listener t => (s.listener t).thrown
  | .timeout => s.timeout.thrown

/-- The thread has called `d.resolve` or `d.reject` on a deferred that was settled. -/
def refused (s : State T) (x : Thread T) : Bool :=
  (thrown s x).any fun
    | .illegalStateException _ => true
    | _ => false

/-- The call of `d.resolve` or `d.reject` that a step makes. -/
def calls (c : ChanId) (s : State T) : Choice T → Bool
  | .caller _ =>
    match s.caller with
    | .start => !s.world.stack.initialized
    | .rejecting _ => true
    | _ => false
  | .settle t => settling c s (.listener t)
  | .timeout _ => settling c s .timeout
  | .deliver .. | .close => false

/-- The step with which a thread decides to settle: `connectNative` throws, a notification calls
for it, or the timeout thread finds the deferred pending. -/
def commits (c : ChanId) (remote : InetSocketAddress) (s : State T) : Choice T → Bool
  | .caller ok => s.caller = .registered && (
      ((Stack.connectNative (s.world.channel c).so remote.getPort ok).run s.world.stack).1 matches
        .error (.ioException _))
  | .deliver _ notification =>
    match branch notification with
    | .commUp => true
    | .shutdownComp | .addrUnreachable | .commLost =>
      (rejection (s.world.channel c).remote (branch notification)).isOk
    | .shutdownEvent | .ignored => false
  | .timeout _ => (s.timeout = .interrupted || s.timeout = .counted) && s.d.isPending
  | .settle _ | .close => false

/-- The deferred as a cell that takes one value. -/
def cell (c : ChanId) (s : State T) : OneShot (Thread T) where
  pending := s.d.isPending
  committed := {x | settling c s x = true}
  refused := {x | refused s x = true}

variable {c : ChanId} {remote : InetSocketAddress} {s s' : State T}

/-- No thread but `x` has come to a settlement, or is refused one. -/
structure Only (c : ChanId) (x : Thread T) (s s' : State T) : Prop where
  settling : ∀ y ≠ x, settling c s' y = settling c s y
  refused : ∀ y ≠ x, refused s' y = refused s y

variable {x : Thread T}

theorem Only.other (h : Only c x s s') (hd : s'.d.isPending = s.d.isPending)
    (hx : Connect.settling c s' x = Connect.settling c s x)
    (hr : Connect.refused s' x = Connect.refused s x) :
    OneShot.Step (cell c s) false (cell c s') := by
  have : cell c s' = cell c s := by
    refine OneShot.ext hd (Set.ext fun y => ?_) (Set.ext fun y => ?_)
    · by_cases hy : y = x
      · simp [cell, hy, hx]
      · simp [cell, h.settling y hy]
    · by_cases hy : y = x
      · simp [cell, hy, hr]
      · simp [cell, h.refused y hy]
  rw [this]
  exact .other

theorem Only.commit (h : Only c x s s') (hd : s'.d.isPending = s.d.isPending)
    (hx : Connect.settling c s x = false) (hx' : Connect.settling c s' x = true)
    (hr : Connect.refused s' x = Connect.refused s x) :
    OneShot.Step (cell c s) true (cell c s') := by
  have : cell c s' = { cell c s with committed := insert x (cell c s).committed } := by
    refine OneShot.ext hd (Set.ext fun y => ?_) (Set.ext fun y => ?_)
    · by_cases hy : y = x
      · simp [cell, hy, hx']
      · simp [cell, hy, h.settling y hy]
    · by_cases hy : y = x
      · simp [cell, hy, hr]
      · simp [cell, h.refused y hy]
  rw [this]
  exact .commit x (by simp [cell, hx])

/-- A thread that settles the deferred is refused when it is settled already. -/
theorem Only.write (h : Only c x s s') (hd : s'.d.isPending = false)
    (hx : Connect.settling c s x = true) (hx' : Connect.settling c s' x = false)
    (hr : Connect.refused s' x = (Connect.refused s x || !s.d.isPending)) :
    OneShot.Step (cell c s) false (cell c s') := by
  have : cell c s' = ⟨false, (cell c s).committed \ {x},
      if (cell c s).pending then (cell c s).refused else insert x (cell c s).refused⟩ := by
    refine OneShot.ext hd (Set.ext fun y => ?_) (Set.ext fun y => ?_)
    · by_cases hy : y = x
      · simp [cell, hy, hx']
      · simp [cell, hy, h.settling y hy]
    · by_cases hy : y = x
      · cases hp : s.d.isPending <;> simp [cell, hy, hr, hp]
      · cases hp : s.d.isPending <;> simp [cell, hy, h.refused y hy, hp]
  rw [this]
  exact .write x (by simp [cell, hx])

theorem only_caller (hw : s'.world.channel = s.world.channel) (hl : s'.listener = s.listener)
    (ht : s'.timeout = s.timeout) : Only c .caller s s' where
  settling y hy := by
    cases y with
    | caller => exact absurd rfl hy
    | listener t => simp only [settling, hl, hw]
    | timeout => simp only [settling, ht]
  refused y hy := by
    cases y with
    | caller => exact absurd rfl hy
    | listener t => simp only [refused, thrown, hl]
    | timeout => simp only [refused, thrown, ht]

theorem only_timeout (hw : s'.world = s.world) (hc : s'.caller = s.caller)
    (hl : s'.listener = s.listener) : Only c .timeout s s' where
  settling y hy := by
    cases y with
    | timeout => exact absurd rfl hy
    | caller => simp only [settling, hc, hw]
    | listener t => simp only [settling, hl, hw]
  refused y hy := by
    cases y with
    | timeout => exact absurd rfl hy
    | caller => simp only [refused, thrown, hc]
    | listener t => simp only [refused, thrown, hl]

theorem timeoutStep_only (h : timeoutStep interrupt s = some s') : Only c .timeout s s' := by
  rw [timeoutStep_frame h]
  exact only_timeout rfl rfl rfl

theorem timeoutStep_cell (h : timeoutStep interrupt s = some s') :
    OneShot.Step (cell c s) (commits c remote s (.timeout interrupt)) (cell c s') := by
  have honly := timeoutStep_only (c := c) h
  cases ht : s.timeout with
  | notSubmitted | returned | threw _ => simp [timeoutStep, ht] at h
  | awaiting | awaited =>
    simp only [timeoutStep, ht, Option.some.injEq] at h
    subst h
    simp only [commits, ht, reduceCtorEq, decide_false, Bool.or_self, Bool.false_and]
    refine honly.other rfl ?_ ?_
    · simp only [settling, ht]
      split_ifs <;> rfl
    · simp only [refused, thrown, ht]
      split_ifs <;> rfl
  | interrupted | counted =>
    simp only [timeoutStep, ht, Option.some.injEq] at h
    have hd : s'.d = s.d := by rw [← h]
    have hr : refused s' .timeout = refused s .timeout := by
      rw [← h]
      simp only [refused, thrown, ht]
      split_ifs <;> rfl
    have hx : settling c s .timeout = false := by simp [settling, ht]
    have hx' : settling c s' .timeout = s.d.isPending := by
      rw [← h]
      cases hp : s.d.isPending <;> simp [settling]
    have hk : commits c remote s (.timeout interrupt) = s.d.isPending := by simp [commits, ht]
    rw [hk]
    cases hp : s.d.isPending with
    | false => exact honly.other (by rw [hd]) (by rw [hx', hp, hx]) hr
    | true => exact honly.commit (by rw [hd]) hx (hx'.trans hp) hr
  | rejectingInterrupted | rejecting =>
    simp only [timeoutStep, ht] at h
    simp only [commits, ht, reduceCtorEq, decide_false, Bool.or_self, Bool.false_and]
    have hx : settling c s .timeout = true := by simp [settling, ht]
    rcases s.d.isPending_reject _ with ⟨hp, hd⟩ | ⟨hp, hd⟩
    · rw [hd] at h
      cases h
      exact honly.write rfl hx rfl (by simp [refused, thrown, ht, hp])
    · rw [hd] at h
      cases h
      exact honly.write hp hx rfl (by simp [refused, thrown, ht, hp])

theorem callerStep_ne_returned (h : callerStep c remote ok s = some s') :
    s.caller ≠ .returned := by
  intro hc
  simp [callerStep, hc] at h

/-- The caller leaves the channels and the listener alone, and the timeout thread until it submits
it and returns. -/
theorem callerStep_frame (h : callerStep c remote ok s = some s') :
    (s'.world.channel = s.world.channel ∧ s'.listener = s.listener) ∧
      (s'.caller = .returned ∧ s'.timeout = .awaiting ∨ s'.timeout = s.timeout) := by
  cases hc : s.caller with
  | refused | returned | threw _ => simp [callerStep, hc] at h
  | submitting =>
    simp only [callerStep, hc, Option.some.injEq] at h
    subst h
    exact ⟨⟨rfl, rfl⟩, .inl ⟨rfl, rfl⟩⟩
  | catching e =>
    simp only [callerStep, hc, Option.some.injEq] at h
    subst h
    exact ⟨⟨rfl, rfl⟩, .inr rfl⟩
  | rejecting e =>
    simp only [callerStep, hc] at h
    split at h <;> cases h <;> exact ⟨⟨rfl, rfl⟩, .inr rfl⟩
  | start | listening =>
    simp only [callerStep, hc] at h
    split_ifs at h
    · cases h
      exact ⟨⟨rfl, rfl⟩, .inr rfl⟩
    · split at h <;> cases h <;> exact ⟨⟨rfl, rfl⟩, .inr rfl⟩
  | registered =>
    simp only [callerStep, hc, World.onStack, Java.run_zoom] at h
    split at h
    all_goals
      rename_i hrun
      obtain ⟨_, rfl⟩ := Prod.mk.inj hrun
      cases h
      exact ⟨⟨rfl, rfl⟩, .inr rfl⟩

theorem callerStep_only (hto : s.timeout = .notSubmitted) (h : callerStep c remote ok s = some s') :
    Only c .caller s s' := by
  obtain ⟨⟨hw, hl⟩, ⟨_, ht⟩ | ht⟩ := callerStep_frame h
  · -- the timeout thread, which is submitted here, does not settle anything yet
    refine ⟨fun y hy => ?_, fun y hy => ?_⟩
    all_goals cases y <;> simp [settling, refused, thrown, hw, hl, ht, hto] at hy ⊢
  · exact only_caller hw hl ht

/-- A step of `connect`, from a state in which the timeout thread is not submitted. -/
theorem callerStep_cell (hto : s.timeout = .notSubmitted) (h : callerStep c remote ok s = some s') :
    OneShot.Step (cell c s) (commits c remote s (.caller ok)) (cell c s') := by
  have honly := callerStep_only hto h
  cases hc : s.caller with
  | refused | returned | threw _ => simp [callerStep, hc] at h
  | start =>
    simp only [commits, hc, reduceCtorEq, decide_false, Bool.false_and]
    simp only [callerStep, hc] at h
    cases hi : s.world.stack.initialized with
    | true =>
      rw [hi, if_pos rfl] at h
      cases h
      exact honly.other rfl (by simp [settling, hc, hi])
        (by simp [refused, thrown, hc])
    | false =>
      rw [hi, if_neg Bool.false_ne_true] at h
      have hx : settling c s .caller = true := by simp [settling, hc, hi]
      rcases s.d.isPending_reject _ with ⟨hp, hd⟩ | ⟨hp, hd⟩
      · rw [hd] at h
        cases h
        exact honly.write rfl hx rfl (by simp [refused, thrown, hc, hp])
      · rw [hd] at h
        cases h
        exact honly.write hp hx rfl (by simp [refused, thrown, hc, hp])
  | listening =>
    simp only [commits, hc, reduceCtorEq, decide_false, Bool.false_and]
    simp only [callerStep, hc] at h
    split_ifs at h
    · cases h
      exact honly.other rfl (by simp [settling, hc])
        (by simp [refused, thrown, hc, Throwable.npe])
    · split at h
      all_goals
        cases h
        exact honly.other rfl (by simp [settling, hc])
          (by simp [refused, thrown, hc, Throwable.npe])
  | registered =>
    simp only [callerStep, hc, World.onStack, Java.run_zoom] at h
    cases hrun : (Stack.connectNative (s.world.channel c).so remote.getPort ok).run
      s.world.stack with
    | mk r st' =>
      rw [hrun] at h
      simp only [commits, hc, hrun, decide_true, Bool.true_and]
      cases r with
      | ok _ =>
        cases h
        exact honly.other rfl (by simp [settling, hc])
          (by simp [refused, thrown, hc])
      | error e =>
        rcases Stack.connectNative_error (congrArg Prod.fst hrun) with ⟨msg, rfl⟩ | ⟨msg, rfl⟩
        · cases h
          exact honly.commit rfl (by simp [settling, hc]) rfl
            (by simp [refused, thrown, hc])
        · cases h
          exact honly.other rfl (by simp [settling, hc])
            (by simp [refused, thrown, hc])
  | catching e =>
    simp only [commits, hc, reduceCtorEq, decide_false, Bool.false_and]
    simp only [callerStep, hc, Option.some.injEq] at h
    subst h
    exact honly.other rfl (by simp [settling, hc])
      (by simp [refused, thrown, hc])
  | rejecting e =>
    simp only [commits, hc, reduceCtorEq, decide_false, Bool.false_and]
    simp only [callerStep, hc] at h
    have hx : settling c s .caller = true := by simp [settling, hc]
    rcases s.d.isPending_reject e with ⟨hp, hd⟩ | ⟨hp, hd⟩
    · rw [hd] at h
      cases h
      exact honly.write rfl hx rfl (by simp [refused, thrown, hc, hp])
    · rw [hd] at h
      cases h
      exact honly.write hp hx rfl (by simp [refused, thrown, hc, hp])
  | submitting =>
    simp only [commits, hc, reduceCtorEq, decide_false, Bool.false_and]
    simp only [callerStep, hc, Option.some.injEq] at h
    subst h
    exact honly.other rfl (by simp [settling, hc]) (by simp [refused, thrown, hc])

theorem closeTask_cell (closes : Nat) : OneShot.Step (cell c s) false
    (cell c { s with
      world := ((World.closeTask c).run s.world).2, closes := closes, closeRan := true }) := by
  refine Only.other (only_caller (World.closeTask_channel ..) rfl rfl) rfl ?_ rfl
  simp only [settling, World.closeTask_initialized]

variable [DecidableEq T]

variable {t : T} {pc : ListenerPc}

/-- Only a call of the listener has moved. -/
structure Moves (t : T) (pc : ListenerPc) (s s' : State T) : Prop where
  world : s'.world = s.world
  caller : s'.caller = s.caller
  timeout : s'.timeout = s.timeout
  listener : s'.listener = Function.update s.listener t pc

theorem Moves.only (h : Moves t pc s s') : Only c (.listener t) s s' where
  settling y hy := by
    cases y with
    | caller => simp only [settling, h.caller, h.world]
    | timeout => simp only [settling, h.timeout]
    | listener t' =>
      have ht : t' ≠ t := fun ht => hy (congrArg _ ht)
      simp only [settling, h.listener, h.world, Function.update_of_ne ht]
  refused y hy := by
    cases y with
    | caller => simp only [refused, thrown, h.caller]
    | timeout => simp only [refused, thrown, h.timeout]
    | listener t' =>
      have ht : t' ≠ t := fun ht => hy (congrArg _ ht)
      simp only [refused, thrown, h.listener, Function.update_of_ne ht]

theorem Moves.settling_self (h : Moves t pc s s') :
    settling c s' (.listener t) = pc.settling (s.world.channel c).remote := by
  simp only [settling, h.listener, h.world, Function.update_self]

theorem Moves.thrown_self (h : Moves t pc s s') : thrown s' (.listener t) = pc.thrown := by
  simp only [thrown, h.listener, Function.update_self]

/-- A call of the listener that was idle commits itself when it moves to a settlement. -/
theorem Moves.step_idle (h : Moves t pc s s') (hidle : s.listener t = .idle) (hd : s'.d = s.d)
    (hpc : pc.thrown = none) {k : Bool} (hset : pc.settling (s.world.channel c).remote = k) :
    OneShot.Step (cell c s) k (cell c s') := by
  have hx : settling c s (.listener t) = false := by simp [settling, hidle]
  have hr : refused s' (.listener t) = refused s (.listener t) := by
    rw [refused, h.thrown_self, hpc]
    simp [refused, thrown, hidle]
  have hset := h.settling_self.trans hset
  cases k with
  | true => exact h.only.commit (by rw [hd]) hx hset hr
  | false => exact h.only.other (by rw [hd]) (hset.trans hx.symm) hr

theorem deliver_moves (c : ChanId) (remote : InetSocketAddress)
    (h : deliver t notification s = some s') :
    ∃ pc : ListenerPc, Moves t pc s s' ∧ s.listener t = .idle ∧ s'.d = s.d ∧ pc.thrown = none ∧
      pc.settling (s.world.channel c).remote = commits c remote s (.deliver t notification) := by
  simp only [deliver, Option.ite_none_right_eq_some, Bool.and_eq_true, decide_eq_true_eq,
    Option.some.injEq] at h
  obtain ⟨⟨_, hidle⟩, rfl⟩ := h
  refine ⟨_, ⟨rfl, rfl, rfl, rfl⟩, hidle, rfl, ?_, ?_⟩
  all_goals cases hb : branch notification <;> simp [commits, hb]

/-- A call of the listener that settles the deferred is refused when it is settled already. -/
theorem Moves.step_settling (h : Moves t pc s s') (hx : settling c s (.listener t) = true)
    (hpc : s.d.isPending = true ∧ s'.d.isPending = false ∧ pc = .returned ∨
      s.d.isPending = false ∧ s'.d = s.d ∧ ∃ msg, pc = .threw (.illegalStateException msg)) :
    OneShot.Step (cell c s) false (cell c s') := by
  have hr : refused s (.listener t) = false := by
    cases hl : s.listener t <;> simp [settling, refused, thrown, hl] at hx ⊢
  rcases hpc with ⟨hp, hd, rfl⟩ | ⟨hp, hd, msg, rfl⟩
  · exact h.only.write hd hx h.settling_self (by rw [refused, h.thrown_self, hr, hp]; rfl)
  · exact h.only.write (by rw [hd, hp]) hx h.settling_self
      (by rw [refused, h.thrown_self, hr, hp]; rfl)

/-- What the listener does to the deferred, or that it fails to build its exception. -/
theorem settle_moves (h : settle c t s = some s') :
    ∃ pc : ListenerPc, Moves t pc s s' ∧
      (settling c s (.listener t) = true ∧
          (s.d.isPending = true ∧ s'.d.isPending = false ∧ pc = .returned ∨
            s.d.isPending = false ∧ s'.d = s.d ∧ ∃ msg, pc = .threw (.illegalStateException msg)) ∨
        settling c s (.listener t) = false ∧ refused s (.listener t) = false ∧ s'.d = s.d ∧
          pc = .threw .npe) := by
  simp only [settle] at h
  cases hl : s.listener t with
  | idle | returned | threw _ => simp [hl] at h
  | resolving =>
    rw [hl] at h
    rcases s.d.isPending_resolve with ⟨hp, hd⟩ | ⟨hp, hd⟩
    · rw [hd] at h
      cases h
      exact ⟨_, ⟨rfl, rfl, rfl, rfl⟩, .inl ⟨by simp [settling, hl], .inl ⟨hp, rfl, rfl⟩⟩⟩
    · rw [hd] at h
      cases h
      exact ⟨_, ⟨rfl, rfl, rfl, rfl⟩, .inl ⟨by simp [settling, hl], .inr ⟨hp, rfl, _, rfl⟩⟩⟩
  | rejecting b =>
    rw [hl] at h
    dsimp only at h
    have hx : settling c s (.listener t) = (rejection (s.world.channel c).remote b).isOk := by
      simp [settling, hl]
    cases hrej : rejection (s.world.channel c).remote b with
    | ok e =>
      rw [hrej, Except.bind] at h
      rw [hrej] at hx
      rcases s.d.isPending_reject e with ⟨hp, hd⟩ | ⟨hp, hd⟩
      · rw [hd] at h
        cases h
        exact ⟨_, ⟨rfl, rfl, rfl, rfl⟩, .inl ⟨hx, .inl ⟨hp, rfl, rfl⟩⟩⟩
      · rw [hd] at h
        cases h
        exact ⟨_, ⟨rfl, rfl, rfl, rfl⟩, .inl ⟨hx, .inr ⟨hp, rfl, _, rfl⟩⟩⟩
    | error e =>
      rw [hrej] at hx
      rw [hrej, rejection_error hrej] at h
      cases h
      refine ⟨_, ⟨rfl, rfl, rfl, rfl⟩, .inr ⟨hx, ?_, rfl, rfl⟩⟩
      simp [refused, thrown, hl]

theorem settle_cell (h : settle c t s = some s') :
    OneShot.Step (cell c s) false (cell c s') := by
  obtain ⟨pc, hmoves, ⟨hx, hpc⟩ | ⟨hx, hr, hd, rfl⟩⟩ := settle_moves h
  · exact hmoves.step_settling hx hpc
  · exact hmoves.only.other (by rw [hd]) (hmoves.settling_self.trans hx.symm)
      (by rw [refused, hmoves.thrown_self, hr]; rfl)

/-- The timeout thread is submitted when `connect` returns. -/
theorem timeout_notSubmitted {w : World} (h : (machine T w c remote).Reachable s) :
    s.caller = .returned ∨ s.timeout = .notSubmitted := by
  refine h.invariant (P := fun s => s.caller = .returned ∨ s.timeout = .notSubmitted) ?_ ?_
  · rintro _ rfl
    exact .inr rfl
  · intro s i s' hP he
    cases i with
    | caller ok =>
      have hto := hP.resolve_left (callerStep_ne_returned he)
      exact (callerStep_frame he).2.imp And.left fun h => h.trans hto
    | deliver t notification =>
      obtain ⟨_, hmoves, _⟩ := deliver_moves c remote he
      rw [hmoves.caller, hmoves.timeout]
      exact hP
    | settle t =>
      obtain ⟨_, hmoves, _⟩ := settle_moves he
      rw [hmoves.caller, hmoves.timeout]
      exact hP
    | timeout interrupt =>
      left
      rw [timeoutStep_frame he]
      refine hP.resolve_right fun ht => ?_
      simp [machine, exec, timeoutStep, ht] at he
    | close =>
      obtain ⟨_, he⟩ := Option.ite_none_right_eq_some.mp he
      cases he
      exact hP

theorem exec_cell {w : World} (hr : (machine T w c remote).Reachable s)
    (he : exec c remote s i = some s') :
    OneShot.Step (cell c s) (commits c remote s i) (cell c s') := by
  cases i with
  | caller ok =>
    exact callerStep_cell ((timeout_notSubmitted hr).resolve_left (callerStep_ne_returned he)) he
  | deliver t notification =>
    obtain ⟨pc, hmoves, hidle, hd, hpc, hset⟩ := deliver_moves c remote he
    exact hmoves.step_idle hidle hd hpc hset
  | settle t => exact settle_cell he
  | timeout interrupt => exact timeoutStep_cell he
  | close =>
    obtain ⟨_, he⟩ := Option.ite_none_right_eq_some.mp he
    cases he
    exact closeTask_cell _

omit [DecidableEq T] in
theorem cell_init (w : World) : (cell c (State.init T w)).Once where
  single := by
    rintro (_ | t | _) hx (_ | t' | _) hy <;> first | rfl | cases hx | cases hy
  pending _ _ := rfl
  refused := Set.eq_empty_iff_forall_notMem.mpr (by rintro (_ | t | _) hx <;> cases hx)

/-- The step has no thread decide to settle the deferred while it is settled or another thread is
going to settle it. -/
def SettlesAlone (c : ChanId) (remote : InetSocketAddress) (s : State T) (i : Choice T) : Prop :=
  commits c remote s i = true → s.d.isPending = true ∧ ∀ x, settling c s x = false

instance [Fintype T] (s : State T) (i : Choice T) : Decidable (SettlesAlone c remote s i) :=
  inferInstanceAs (Decidable (_ → _))

omit [DecidableEq T] in
theorem free_iff : (cell c s).Free ↔ s.d.isPending = true ∧ ∀ x, settling c s x = false := by
  refine ⟨fun h => ⟨h.pending, fun x => ?_⟩, fun h => ⟨h.1, ?_⟩⟩
  · exact Bool.eq_false_iff.mpr (Set.eq_empty_iff_forall_notMem.mp h.committed x)
  · exact Set.eq_empty_iff_forall_notMem.mpr fun x => Bool.eq_false_iff.mp (h.2 x)

omit [DecidableEq T] in
theorem isPending_of_calls (h : (cell c s).Once) (hc : calls c s i = true) :
    s.d.isPending = true := by
  cases i with
  | deliver t notification => cases hc
  | close => cases hc
  | settle t => exact h.pending (.listener t) hc
  | timeout interrupt => exact h.pending .timeout hc
  | caller ok =>
    refine h.pending .caller ?_
    cases hpc : s.caller <;> simp [calls, hpc] at hc <;> simp [cell, settling, hpc, hc]

section
variable {w : World} [∀ (s : State T) i, Decidable (SettlesAlone c remote s i)]

theorem reachable_once_iff :
    ((machine T w c remote).restrict (SettlesAlone c remote)).Reachable s ↔
      (machine T w c remote).Reachable s ∧ (cell c s).Once := by
  refine Machine.Reachable.restrict_iff (M := machine T w c remote)
    (P := fun s => (cell c s).Once) ?_ fun s i s' hr he => ?_
  · rintro _ rfl
    exact cell_init w
  · rw [(exec_cell hr he).once_iff, free_iff]
    rfl

end

/-- **A promise is settled once.** In every run of `connect` in which a thread decides to settle
the deferred only while it is pending and no other thread is going to settle it, every call of
`d.resolve` and `d.reject` is made while the deferred is pending. The condition is exact: when
every thread that decided to settle has done so, no call was made on a settled deferred just in the
runs that meet it. -/
theorem settled_once (T : Type) [DecidableEq T] (w : World) (c : ChanId)
    (remote : InetSocketAddress) [∀ (s : State T) i, Decidable (SettlesAlone c remote s i)]
    (s : State T) :
    (((machine T w c remote).restrict (SettlesAlone c remote)).Reachable s →
      ∀ i, calls c s i = true → s.d.isPending = true) ∧
    ((∀ x, settling c s x = false) →
      (((machine T w c remote).restrict (SettlesAlone c remote)).Reachable s ↔
        (machine T w c remote).Reachable s ∧ ∀ x, refused s x = false)) := by
  refine ⟨fun h i hc => isPending_of_calls (reachable_once_iff.mp h).2 hc, fun hset => ?_⟩
  rw [reachable_once_iff]
  refine and_congr_right fun _ => ⟨fun h x => ?_, fun h => ⟨?_, fun x hx => ?_, ?_⟩⟩
  · exact Bool.eq_false_iff.mpr (Set.eq_empty_iff_forall_notMem.mp h.refused x)
  · exact fun x hx => absurd hx (Bool.eq_false_iff.mp (hset x))
  · exact absurd hx (Bool.eq_false_iff.mp (hset x))
  · exact Set.eq_empty_iff_forall_notMem.mpr fun x => Bool.eq_false_iff.mp (h x)

/-- A channel with a remote and a mapper on an initialised stack. -/
def sampleWorld : World :=
  { World.empty with stack := { Stack.empty with initialized := true } }.withChannel 5000
    (some (.resolved (.inet4 0x0a000002#32) 5000)) none true 16

/-- `connect` up to its return, and the notification that the association is up. -/
def comesUp : List (Choice Bool) :=
  [.caller true, .caller true, .caller true, .caller true,
    .deliver false "SCTP_ASSOC_CHANGE:assocId:0x1,COMM_UP,(in/out)(1/1),err0x0"]

/-- A run in which one notification arrives settles the promise while it is pending. -/
theorem comesUp_pending : ∃ s : State Bool,
    (machine Bool sampleWorld 0 (.resolved (.inet4 0x0a000002#32) 5000)).Reachable s ∧
      calls 0 s (.settle false) = true ∧ s.d.isPending = true := by
  obtain ⟨s, hs, hc⟩ := Machine.Reachable.exists_run
    (M := (machine Bool sampleWorld 0 (.resolved (.inet4 0x0a000002#32) 5000)).restrict
      (SettlesAlone 0 (.resolved (.inet4 0x0a000002#32) 5000)))
    (P := fun s => calls 0 s (.settle false) = true) (.init rfl) comesUp (by decide +kernel)
  exact ⟨s, hs.of_restrict, hc, (settled_once Bool sampleWorld 0 _ s).1 hs _ hc⟩

/-- The loss of an association that had come up is reported to the same listener, which rejects
the promise that it has resolved. -/
theorem lost_after_up : ∃ s s' : State Bool,
    (machine Bool sampleWorld 0 (.resolved (.inet4 0x0a000002#32) 5000)).Reachable s ∧
      calls 0 s (.settle true) = true ∧ s.d = .resolved ∧
      exec 0 (.resolved (.inet4 0x0a000002#32) 5000) s (.settle true) = some s' ∧
      s'.listener true = .threw (.illegalStateException
        "Deferred object already finished, cannot reject again") := by
  obtain ⟨s, hs, hc, hd, hrun⟩ := Machine.Reachable.exists_run
    (M := machine Bool sampleWorld 0 (.resolved (.inet4 0x0a000002#32) 5000))
    (P := fun s => calls 0 s (.settle true) = true ∧ s.d = .resolved ∧
      (exec 0 (.resolved (.inet4 0x0a000002#32) 5000) s (.settle true)).any (fun s' =>
        s'.listener true = .threw (.illegalStateException
          "Deferred object already finished, cannot reject again")) = true) (.init rfl)
    (comesUp ++ [.settle false,
      .deliver true "SCTP_ASSOC_CHANGE:assocId:0x1,COMM_LOST,(in/out)(1/1),err0x0"])
    (by decide +kernel)
  obtain ⟨s', hs', hl⟩ := (Option.any_eq_true ..).mp hrun
  exact ⟨s, s', hs, hc, hd, hs', of_decide_eq_true hl⟩

end

end Connect

end Sctp4Nat
