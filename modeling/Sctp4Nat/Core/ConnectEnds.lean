import Sctp4Nat.Core.SettleOnce
import Sctp4Nat.Machine.Progress
import Sctp4Nat.Machine.Threads

/-! # Every `connect` comes to an end

The latch is counted down before the deferred is resolved, so the timeout thread can find the
count at 0 while the deferred is still pending, and leaves it alone then. The promise that
`connect` returns is settled all the same once the threads have ended: by the timeout thread or
by the listener (`connect_settles`). -/

namespace Sctp4Nat.Connect

variable {T : Type*}

/-! ## The steps that are left -/

/-- The most steps that are left of `connect` and, until it is submitted, of the timeout
thread. -/
def CallerPc.steps : CallerPc → Nat
  | .start => 12
  | .listening => 11
  | .registered => 10
  | .catching _ => 9
  | .rejecting _ => 8
  | .submitting => 7
  | .refused | .returned | .threw _ => 0

/-- The most steps that a notification can still cause: its delivery, the settlement and a close
task. -/
def ListenerPc.steps : ListenerPc → Nat
  | .idle => 3
  | .resolving | .rejecting _ => 1
  | .returned | .threw _ => 0

def TimeoutPc.steps : TimeoutPc → Nat
  | .awaiting => 6
  | .interrupted => 5
  | .rejectingInterrupted => 4
  | .awaited => 3
  | .counted => 2
  | .rejecting => 1
  | .notSubmitted | .returned | .threw _ => 0

/-- The calls of the listener, as threads. -/
def State.listeners (s : State T) : Config T Unit ListenerPc := ⟨(), s.listener⟩

def State.steps [Fintype T] (s : State T) : Nat :=
  s.caller.steps + s.timeout.steps + s.listeners.total ListenerPc.steps + s.closes

section

variable {c : ChanId} {remote : InetSocketAddress} {s s' : State T}

theorem callerStep_steps (h : callerStep c remote ok s = some s') :
    s'.caller.steps + s'.timeout.steps < s.caller.steps + s.timeout.steps ∧
      s'.listener = s.listener ∧ s'.closes = s.closes := by
  cases hc : s.caller with
  | refused | returned | threw _ => simp [callerStep, hc] at h
  | start =>
    simp only [callerStep, hc] at h
    split at h
    · cases h
      exact ⟨by simp [CallerPc.steps], rfl, rfl⟩
    · split at h <;> cases h <;> exact ⟨by simp [CallerPc.steps], rfl, rfl⟩
  | listening =>
    simp only [callerStep, hc] at h
    split at h
    · cases h
      exact ⟨by simp [CallerPc.steps], rfl, rfl⟩
    · split at h <;> cases h <;> exact ⟨by simp [CallerPc.steps], rfl, rfl⟩
  | registered =>
    simp only [callerStep, hc] at h
    split at h <;> cases h <;> exact ⟨by simp [CallerPc.steps], rfl, rfl⟩
  | catching e =>
    simp only [callerStep, hc] at h
    cases h
    exact ⟨by simp [CallerPc.steps], rfl, rfl⟩
  | rejecting e =>
    simp only [callerStep, hc] at h
    split at h <;> cases h <;> exact ⟨by simp [CallerPc.steps], rfl, rfl⟩
  | submitting =>
    simp only [callerStep, hc] at h
    cases h
    refine ⟨?_, rfl, rfl⟩
    change 0 + 6 < 7 + s.timeout.steps
    omega

theorem timeoutStep_steps (h : timeoutStep interrupt s = some s') :
    s'.timeout.steps < s.timeout.steps := by
  cases ht : s.timeout with
  | notSubmitted | returned | threw _ => simp [timeoutStep, ht] at h
  | awaiting | interrupted | awaited | counted =>
    simp only [timeoutStep, ht, Option.some.injEq] at h
    subst h
    dsimp only
    split <;> decide
  | rejectingInterrupted | rejecting =>
    simp only [timeoutStep, ht] at h
    split at h <;> cases h <;> simp [TimeoutPc.steps]

variable [DecidableEq T]

theorem settle_steps (h : settle c t s = some s') :
    (s.listener t).steps = 1 ∧
      ∃ pc : ListenerPc, pc.steps = 0 ∧ s'.listener = Function.update s.listener t pc := by
  cases hl : s.listener t with
  | idle | returned | threw _ => simp [settle, hl] at h
  | resolving =>
    simp only [settle, hl, Option.some.injEq] at h
    subst h
    cases s.d.resolve with
    | ok d => exact ⟨rfl, .returned, rfl, rfl⟩
    | error e => exact ⟨rfl, .threw e, rfl, rfl⟩
  | rejecting b =>
    simp only [settle, hl, Option.some.injEq] at h
    subst h
    cases ((rejection (s.world.channel c).remote b).bind fun e => s.d.reject e) with
    | ok d => exact ⟨rfl, .returned, rfl, rfl⟩
    | error e => exact ⟨rfl, .threw e, rfl, rfl⟩

/-- A delivery has caused its settlement and its close task, or less. -/
theorem deliver_steps (h : deliver t notification s = some s') :
    s.listener t = .idle ∧ s'.caller = s.caller ∧ s'.timeout = s.timeout ∧
      ∃ pc : ListenerPc, s'.listener = Function.update s.listener t pc ∧
        s'.closes + pc.steps ≤ s.closes + 2 := by
  simp only [deliver, Option.ite_none_right_eq_some, Bool.and_eq_true, decide_eq_true_eq,
    Option.some.injEq] at h
  obtain ⟨⟨-, hidle⟩, rfl⟩ := h
  refine ⟨hidle, rfl, rfl, _, rfl, ?_⟩
  cases branch notification <;> simp [Branch.closes, ListenerPc.steps]

/-- Every step of a `connect` leaves fewer. -/
theorem exec_steps [Fintype T] (h : exec c remote s i = some s') : s'.steps < s.steps := by
  have hlisteners : ∀ {t : T} {pc : ListenerPc}, s'.listener = Function.update s.listener t pc →
      s'.listeners.total ListenerPc.steps + (s.listener t).steps =
        s.listeners.total ListenerPc.steps + pc.steps := by
    intro t pc hl
    have hset : s'.listeners = s.listeners.set t () pc := congrArg (Config.mk ()) hl
    rw [hset]
    exact s.listeners.total_set t () pc ListenerPc.steps
  have hframe : s'.listener = s.listener → s'.listeners = s.listeners := congrArg (Config.mk ())
  unfold State.steps
  cases i with
  | caller ok =>
    obtain ⟨hlt, hl, hc⟩ := callerStep_steps h
    rw [hframe hl, hc]
    omega
  | deliver t notification =>
    obtain ⟨hidle, hc, ht, pc, hl, hle⟩ := deliver_steps h
    have htotal := hlisteners hl
    rw [hidle] at htotal
    have hidle : ListenerPc.idle.steps = 3 := rfl
    rw [hc, ht]
    omega
  | settle t =>
    obtain ⟨hone, pc, hpc, hl⟩ := settle_steps h
    have htotal := hlisteners hl
    have hf := settle_frame h
    have hc : s'.caller = s.caller := by rw [hf]
    have ht : s'.timeout = s.timeout := by rw [hf]
    have hcl : s'.closes = s.closes := by rw [hf]
    rw [hc, ht, hcl]
    omega
  | timeout interrupt =>
    have hlt := timeoutStep_steps h
    have hf := timeoutStep_frame h
    have hc : s'.caller = s.caller := by rw [hf]
    have hl : s'.listener = s.listener := by rw [hf]
    have hcl : s'.closes = s.closes := by rw [hf]
    rw [hc, hframe hl, hcl]
    omega
  | close =>
    simp only [exec, Option.ite_none_right_eq_some, Option.some.injEq] at h
    obtain ⟨hpos, rfl⟩ := h
    change s.caller.steps + s.timeout.steps + s.listeners.total ListenerPc.steps + (s.closes - 1) <
      _
    omega

/-! ## The promise -/

/-- The timeout thread has ended. -/
def TimeoutPc.hasEnded : TimeoutPc → Bool
  | .returned | .threw _ => true
  | _ => false

/-- Who answers for the deferred. -/
structure Answered (s : State T) : Prop where
  counted : s.countDown = 0 → s.d.isPending = false ∨ ∃ t, s.listener t = .resolving
  timedOut : s.timeout.hasEnded = true → s.d.isPending = false ∨ s.countDown = 0
  refused : s.caller = .refused → s.d.isPending = false
  submitted : s.caller = .returned → s.timeout ≠ .notSubmitted

omit [DecidableEq T] in
/-- A deferred that is settled answers for everything. -/
theorem Answered.of_settled (hd : s.d.isPending = false)
    (hsubmitted : s.caller = .returned → s.timeout ≠ .notSubmitted) : Answered s :=
  ⟨fun _ => .inl hd, fun _ => .inl hd, fun _ => hd, hsubmitted⟩

theorem isPending_of_reject {d d' : Deferred} (h : d.reject e = .ok d') : d'.isPending = false := by
  cases d <;> cases h
  rfl

theorem not_isPending_of_reject {d : Deferred} (h : d.reject e = .error e') :
    d.isPending = false := by
  cases d <;> first | rfl | cases h

omit [DecidableEq T] in
theorem Answered.caller (h : Answered s) (hs : callerStep c remote ok s = some s') :
    Answered s' := by
  cases hc : s.caller with
  | refused | returned | threw _ => simp [callerStep, hc] at hs
  | start =>
    simp only [callerStep, hc] at hs
    split at hs
    · cases hs
      exact ⟨h.counted, h.timedOut, by rintro ⟨⟩, by rintro ⟨⟩⟩
    · split at hs
      · rename_i hd
        cases hs
        exact .of_settled (isPending_of_reject hd) (by rintro ⟨⟩)
      · cases hs
        exact ⟨h.counted, h.timedOut, by rintro ⟨⟩, by rintro ⟨⟩⟩
  | listening =>
    simp only [callerStep, hc] at hs
    split at hs
    · cases hs
      exact ⟨h.counted, h.timedOut, by rintro ⟨⟩, by rintro ⟨⟩⟩
    · split at hs <;> cases hs <;> exact ⟨h.counted, h.timedOut, by rintro ⟨⟩, by rintro ⟨⟩⟩
  | registered =>
    simp only [callerStep, hc] at hs
    split at hs <;> cases hs <;> exact ⟨h.counted, h.timedOut, by rintro ⟨⟩, by rintro ⟨⟩⟩
  | catching e =>
    simp only [callerStep, hc] at hs
    cases hs
    exact ⟨h.counted, h.timedOut, by rintro ⟨⟩, by rintro ⟨⟩⟩
  | rejecting e =>
    simp only [callerStep, hc] at hs
    split at hs
    · rename_i hd
      cases hs
      exact .of_settled (isPending_of_reject hd) (by rintro ⟨⟩)
    · cases hs
      exact ⟨h.counted, h.timedOut, by rintro ⟨⟩, by rintro ⟨⟩⟩
  | submitting =>
    simp only [callerStep, hc] at hs
    cases hs
    exact ⟨h.counted, by rintro ⟨⟩, by rintro ⟨⟩, fun _ => by rintro ⟨⟩⟩

omit [DecidableEq T] in
theorem Answered.timeout (h : Answered s) (hs : timeoutStep interrupt s = some s') :
    Answered s' := by
  cases ht : s.timeout with
  | notSubmitted | returned | threw _ => simp [timeoutStep, ht] at hs
  | awaiting =>
    simp only [timeoutStep, ht, Option.some.injEq] at hs
    subst hs
    cases interrupt <;> exact ⟨h.counted, by rintro ⟨⟩, h.refused, fun _ => by rintro ⟨⟩⟩
  | interrupted =>
    simp only [timeoutStep, ht, Option.some.injEq] at hs
    subst hs
    cases hd : s.d.isPending <;> simp only [if_true, Bool.false_eq_true, if_false] <;>
      exact ⟨h.counted, by rintro ⟨⟩, h.refused, fun _ => by rintro ⟨⟩⟩
  | awaited =>
    simp only [timeoutStep, ht, Option.some.injEq] at hs
    subst hs
    by_cases hcount : s.countDown > 0
    · rw [if_pos hcount]
      exact ⟨h.counted, by rintro ⟨⟩, h.refused, fun _ => by rintro ⟨⟩⟩
    · rw [if_neg hcount]
      exact ⟨h.counted, fun _ => .inr (Nat.eq_zero_of_not_pos hcount), h.refused,
        fun _ => by rintro ⟨⟩⟩
  | counted =>
    simp only [timeoutStep, ht, Option.some.injEq] at hs
    subst hs
    cases hd : s.d.isPending with
    | true => exact ⟨h.counted, by rintro ⟨⟩, h.refused, fun _ => by rintro ⟨⟩⟩
    | false => exact ⟨h.counted, fun _ => .inl hd, h.refused, fun _ => by rintro ⟨⟩⟩
  | rejectingInterrupted | rejecting =>
    simp only [timeoutStep, ht] at hs
    split at hs
    · rename_i hd
      cases hs
      exact .of_settled (isPending_of_reject hd) fun _ => by rintro ⟨⟩
    · rename_i hd
      cases hs
      have hd := not_isPending_of_reject hd
      exact ⟨h.counted, fun _ => .inl hd, h.refused, fun _ => by rintro ⟨⟩⟩

theorem Answered.deliver (h : Answered s) (hs : deliver t notification s = some s') :
    Answered s' := by
  simp only [Connect.deliver, Option.ite_none_right_eq_some, Bool.and_eq_true, decide_eq_true_eq,
    Option.some.injEq] at hs
  obtain ⟨⟨-, hidle⟩, rfl⟩ := hs
  cases hb : branch notification with
  | commUp =>
    refine ⟨fun _ => .inr ⟨t, Function.update_self ..⟩, fun ht => ?_, h.refused, h.submitted⟩
    rcases h.timedOut ht with hd | hcount
    · exact .inl hd
    · refine .inr ?_
      simp only [if_true, hcount]
  | _ =>
    refine ⟨fun hcount => ?_, h.timedOut, h.refused, h.submitted⟩
    -- another call of the listener is about to resolve
    rcases h.counted hcount with hd | ⟨u, hu⟩
    · exact .inl hd
    · refine .inr ⟨u, ?_⟩
      have hne : u ≠ t := fun hut => by rw [hut, hidle] at hu; cases hu
      exact (Function.update_of_ne hne ..).trans hu

theorem Answered.settle (h : Answered s) (hs : settle c t s = some s') : Answered s' := by
  have hf := settle_frame hs
  have hcount : s'.countDown = s.countDown := by rw [hf]
  have hcaller : s'.caller = s.caller := by rw [hf]
  have htimeout : s'.timeout = s.timeout := by rw [hf]
  have hsettled : s'.d.isPending = false → Answered s' := fun hd =>
    .of_settled hd fun hc => by
      rw [htimeout]
      exact h.submitted (hcaller ▸ hc)
  -- a deferred that is left as it is has its answer elsewhere
  have hkept : ∀ {pc : ListenerPc}, s.listener t ≠ .resolving → s'.d = s.d →
      s'.listener = Function.update s.listener t pc → Answered s' := by
    intro pc hne hd hl
    refine ⟨fun h0 => ?_, fun ht => ?_, fun hc => ?_, fun hc => ?_⟩
    · rw [hd]
      refine (h.counted (hcount ▸ h0)).imp id ?_
      rintro ⟨u, hu⟩
      refine ⟨u, ?_⟩
      have hut : u ≠ t := fun hut => hne (by rw [← hut, hu])
      rw [hl, Function.update_of_ne hut]
      exact hu
    · rw [hd, hcount]
      exact h.timedOut (htimeout ▸ ht)
    · rw [hd]
      exact h.refused (hcaller ▸ hc)
    · rw [htimeout]
      exact h.submitted (hcaller ▸ hc)
  cases hl : s.listener t with
  | idle | returned | threw _ => simp [Connect.settle, hl] at hs
  | resolving =>
    apply hsettled
    simp only [Connect.settle, hl, Option.some.injEq] at hs
    rcases s.d.isPending_resolve with ⟨-, hd⟩ | ⟨hd, he⟩
    · rw [hd] at hs
      rw [← hs]
      rfl
    · rw [he] at hs
      rw [← hs]
      exact hd
  | rejecting b =>
    simp only [Connect.settle, hl, Option.some.injEq] at hs
    cases hr : rejection (s.world.channel c).remote b with
    | error e =>
      rw [hr] at hs
      exact hkept (fun hc => by rw [hl] at hc; cases hc) (by rw [← hs]; rfl) (by rw [← hs]; rfl)
    | ok e =>
      apply hsettled
      rw [hr] at hs
      rcases s.d.isPending_reject e with ⟨-, hd⟩ | ⟨hd, he⟩
      · rw [← hs]
        simp only [Except.bind, hd]
        rfl
      · rw [← hs]
        simp only [Except.bind, he]
        exact hd

theorem Answered.exec (h : Answered s) (hs : exec c remote s i = some s') : Answered s' := by
  cases i with
  | caller ok => exact h.caller hs
  | deliver t notification => exact h.deliver hs
  | settle t => exact h.settle hs
  | timeout interrupt => exact h.timeout hs
  | close =>
    simp only [Connect.exec, Option.ite_none_right_eq_some, Option.some.injEq] at hs
    obtain ⟨-, rfl⟩ := hs
    exact ⟨h.counted, h.timedOut, h.refused, h.submitted⟩

omit [DecidableEq T] in
theorem answered_init (w : World) : Answered (.init T w) :=
  ⟨nofun, nofun, nofun, nofun⟩

/-- Whichever steps of a `connect` are counted, there are no more than `State.steps`. -/
theorem ranked [Fintype T] {w : World} {counts : Choice T → Bool} :
    (machine T w c remote).Ranked Answered (fun _ => true) counts State.steps where
  keeps h _ he := h.exec he
  le _ _ he := Nat.le_of_lt (exec_steps he)
  lt _ _ _ he := exec_steps he

/-- The steps of the threads and the tasks; the stack delivers the notifications. -/
def Choice.isThread : Choice T → Bool
  | .deliver .. => false
  | _ => true

variable {w : World}

theorem caller_atRest (h : (machine T w c remote).AtRest Choice.isThread s) :
    s.caller.hasReturned = true ∨ ∃ e, s.caller = .threw e := by
  have hcaller : callerStep c remote true s = none := h (.caller true) rfl
  cases hc : s.caller with
  | refused | returned => exact .inl rfl
  | threw e => exact .inr ⟨e, rfl⟩
  | start | listening | registered | rejecting e =>
    simp only [callerStep, hc] at hcaller
    repeat' split at hcaller
    all_goals cases hcaller
  | catching e | submitting => simp [callerStep, hc] at hcaller

theorem settled_atRest (h : (machine T w c remote).AtRest Choice.isThread s) (ha : Answered s)
    (hr : s.caller.hasReturned = true) : s.d.isPending = false := by
  have htimeout : timeoutStep false s = none := h (.timeout false) rfl
  have hlistener : ∀ t, s.listener t ≠ .resolving := by
    intro t hl
    have hsettle : settle c t s = none := h (.settle t) rfl
    simp [settle, hl] at hsettle
  cases hc : s.caller with
  | refused => exact ha.refused hc
  | returned =>
    have hended : s.timeout.hasEnded = true := by
      cases ht : s.timeout with
      | returned | threw e => rfl
      | notSubmitted => exact absurd ht (ha.submitted hc)
      | awaiting | interrupted | awaited | counted => simp [timeoutStep, ht] at htimeout
      | rejectingInterrupted | rejecting =>
        simp only [timeoutStep, ht] at htimeout
        split at htimeout <;> cases htimeout
    rcases ha.timedOut hended with hd | h0
    · exact hd
    · refine (ha.counted h0).resolve_right ?_
      rintro ⟨t, ht⟩
      exact hlistener t ht
  | _ => rw [hc] at hr; cases hr

theorem atRest_of_quiescent (h : Quiescent s) (hc : s.caller.hasReturned = true) :
    (machine T w c remote).AtRest Choice.isThread s := by
  intro i hi
  cases i with
  | deliver t notification => cases hi
  | caller ok =>
    cases hp : s.caller with
    | refused | returned => simp [machine, Connect.exec, callerStep, hp]
    | _ => rw [hp] at hc; cases hc
  | settle t =>
    obtain ⟨hres, hrej⟩ := h.listener t
    cases hl : s.listener t with
    | idle | returned | threw e => simp [machine, Connect.exec, Connect.settle, hl]
    | resolving => exact absurd hl hres
    | rejecting b => exact absurd hl (hrej b)
  | timeout interrupt =>
    obtain ht | ht | ⟨e, ht⟩ := h.timeout <;> simp [machine, Connect.exec, timeoutStep, ht]
  | close => simp [machine, Connect.exec, h.closes]

/-- **Every `connect` is answered.** A run of `connect` with its listener, its timeout thread and
the close tasks has at most three steps for each notification and twelve more. The threads come to
rest from each of its states; when they have, `connect` has thrown, or the promise that it has
returned is settled. -/
theorem connect_settles [Fintype T] {is : List (Choice T)}
    (hr : (machine T w c remote).run (.init T w) is = some s) :
    is.length ≤ 3 * Fintype.card T + 12 ∧
      (∃ js s', (∀ j ∈ js, Choice.isThread j = true) ∧
        (machine T w c remote).run s js = some s' ∧
        (machine T w c remote).AtRest Choice.isThread s') ∧
      ((machine T w c remote).AtRest Choice.isThread s → (∃ e, s.caller = .threw e) ∨
        s.caller.hasReturned = true ∧ s.d.isPending = false) := by
  have hsteps : (State.init T w).steps = 3 * Fintype.card T + 12 := by
    have htotal : (State.init T w).listeners.total ListenerPc.steps = Fintype.card T * 3 := by
      simp [Config.total, State.listeners, State.init, ListenerPc.steps]
    rw [State.steps, htotal]
    change 12 + 0 + Fintype.card T * 3 + 0 = _
    omega
  have hall : (machine T w c remote).Ranked Answered (fun _ => true) (fun _ => true)
      State.steps := ranked
  obtain ⟨ha, hcount⟩ := hall.run (answered_init w) (fun _ _ => rfl) hr
  rw [List.countP_true, hsteps] at hcount
  refine ⟨by omega, ranked.exists_rest (fun _ _ => rfl) ha, fun hrest => ?_⟩
  rcases caller_atRest hrest with hret | hthrew
  · exact .inr ⟨hret, settled_atRest hrest ha hret⟩
  · exact .inl hthrew

end

/-- The association comes up, the timeout thread finds the count at 0 before the promise is
resolved, and leaves it to the listener. -/
theorem comesUp_settles : ∃ s : State Bool,
    (machine Bool sampleWorld 0 (.resolved (.inet4 0x0a000002#32) 5000)).run
      (.init Bool sampleWorld)
      (comesUp ++ [.timeout false, .timeout false, .settle false]) = some s ∧
    (machine Bool sampleWorld 0 (.resolved (.inet4 0x0a000002#32) 5000)).AtRest
      Choice.isThread s ∧ s.d.isPending = false := by
  have hrun : ((machine Bool sampleWorld 0 (.resolved (.inet4 0x0a000002#32) 5000)).run
      (.init Bool sampleWorld)
      (comesUp ++ [.timeout false, .timeout false, .settle false])).any (fun s => decide
        (s.caller = .returned ∧ s.timeout = .returned ∧ s.listener false = .returned ∧
          s.listener true = .idle ∧ s.closes = 0)) = true := by decide +kernel
  obtain ⟨s, hr, hs⟩ := (Option.any_eq_true ..).mp hrun
  obtain ⟨hc, ht, hl, hl', hcl⟩ := of_decide_eq_true hs
  have hquiescent : Quiescent s := by
    refine ⟨fun t => ?_, .inr (.inl ht), hcl⟩
    cases t
    · simp [hl]
    · simp [hl']
  have hrest : (machine Bool sampleWorld 0 (.resolved (.inet4 0x0a000002#32) 5000)).AtRest
      Choice.isThread s := atRest_of_quiescent hquiescent (by rw [hc]; rfl)
  refine ⟨s, hr, hrest, ?_⟩
  obtain ⟨e, he⟩ | ⟨-, hd⟩ := (connect_settles hr).2.2 hrest
  · rw [hc] at he
    cases he
  · exact hd

end Sctp4Nat.Connect
