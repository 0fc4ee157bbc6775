import Sctp4Nat.Connection.Effect
import Sctp4Nat.Core.Connect

/-! # What a rejected `connect` leaves behind

The clean-up differs with the way a `connect` fails. The timeout does nothing but reject. The
`catch` block takes the entry of the remote out of the map and leaves the socket open. The
listener calls `close`, whose task closes the socket and leaves the entry in the map. So both are
done only when `connectNative` throws and a closing notification comes too. -/

namespace Sctp4Nat.Connect

variable {T : Type*} {w₀ : World} {c : ChanId} {remote : InetSocketAddress}

/-- What the clean-up depends on. -/
structure Core where
  world : World
  caller : CallerPc
  closes : Nat
  nativeThrew : Bool
  closeNotified : Bool
  closeRan : Bool

def State.core (s : State T) : Core :=
  ⟨s.world, s.caller, s.closes, s.nativeThrew, s.closeNotified, s.closeRan⟩

theorem timeoutStep_core {s s' : State T} (h : timeoutStep interrupt s = some s') :
    s'.core = s.core := by
  rw [timeoutStep_frame h]
  rfl

theorem settle_core [DecidableEq T] {s s' : State T} {t : T} (h : settle c t s = some s') :
    s'.core = s.core := by
  rw [settle_frame h]
  rfl

/-- The map at each point of `connect`. -/
def Phase (w₀ : World) (c : ChanId) (remote : InetSocketAddress) (k : Core) : Prop :=
  let put := w₀.mapper.socketMap.put remote c
  match k.caller with
  | .start => k.world.mapper = w₀.mapper ∧ k.nativeThrew = false ∧ k.closeNotified = false
  | .refused => w₀.stack.initialized = false ∧ k.world.mapper = w₀.mapper ∧
    k.nativeThrew = false ∧ k.closeNotified = false
  | .listening => w₀.stack.initialized = true ∧ k.world.mapper = w₀.mapper ∧ k.nativeThrew = false
  | .registered => w₀.stack.initialized = true ∧ k.world.mapper = ⟨put, false⟩ ∧
    k.nativeThrew = false
  | .catching _ => w₀.stack.initialized = true ∧ k.world.mapper = ⟨put, false⟩ ∧
    k.nativeThrew = true
  | .rejecting _ => w₀.stack.initialized = true ∧ k.world.mapper = ⟨put.remove remote, false⟩ ∧
    k.nativeThrew = true
  | .submitting | .returned => w₀.stack.initialized = true ∧
    k.world.mapper = ⟨if k.nativeThrew then put.remove remote else put, false⟩
  | .threw _ => True

/-- The socket of the channel is closed. -/
def socketClosed (w : World) (c : ChanId) : Bool := (w.stack.socket (w.channel c).so).closed

structure Inv (w₀ : World) (c : ChanId) (remote : InetSocketAddress) (k : Core) : Prop where
  channel : k.world.channel = w₀.channel
  initialized : k.world.stack.initialized = w₀.stack.initialized
  balanced : k.world.stack.Balanced
  phase : Phase w₀ c remote k
  notified : k.closeNotified = (k.closeRan || decide (0 < k.closes))
  closed : socketClosed k.world c = (socketClosed w₀ c || (k.closeRan && w₀.closable c))
  ports : k.closeRan = true ∧ w₀.closable c = true ∨ k.world.portMap = w₀.portMap

theorem inv_init (hb : w₀.stack.Balanced) : Inv w₀ c remote (State.init T w₀).core where
  channel := rfl
  initialized := rfl
  balanced := hb
  phase := ⟨rfl, rfl, rfl⟩
  notified := rfl
  closed := by simp [State.core, State.init]
  ports := .inr rfl

/-- A step of `connect` that leaves the socket, the ports and the close tasks alone. -/
theorem Inv.of_caller {k k' : Core} (h : Inv w₀ c remote k) (hphase : Phase w₀ c remote k')
    (hchannel : k'.world.channel = k.world.channel) (hports : k'.world.portMap = k.world.portMap)
    (hstack : k'.world.stack.socket = k.world.stack.socket ∧
      k'.world.stack.initialized = k.world.stack.initialized)
    (hcloses : k'.closes = k.closes ∧ k'.closeNotified = k.closeNotified ∧
      k'.closeRan = k.closeRan) : Inv w₀ c remote k' where
  channel := hchannel.trans h.channel
  initialized := hstack.2.trans h.initialized
  balanced s := by rw [hstack.1]; exact h.balanced s
  phase := hphase
  notified := by rw [hcloses.1, hcloses.2.1, hcloses.2.2]; exact h.notified
  closed := by
    rw [hcloses.2.2, ← h.closed]
    simp only [socketClosed, hstack.1, hchannel]
  ports := by rw [hcloses.2.2, hports]; exact h.ports

theorem Inv.caller {s s' : State T} (hs : w₀.mapper.isShutdown = false)
    (h : Inv w₀ c remote s.core) (hstep : callerStep c remote ok s = some s') :
    Inv w₀ c remote s'.core := by
  have hphase := h.phase
  have hinit : s.world.stack.initialized = w₀.stack.initialized := h.initialized
  cases hc : s.caller with
  | refused | returned | threw _ => simp [callerStep, hc] at hstep
  | start =>
    simp only [Phase, State.core, hc] at hphase
    cases hi : w₀.stack.initialized with
    | true =>
      simp only [callerStep, hc, hinit, hi, if_true, Option.some.injEq] at hstep
      subst hstep
      exact h.of_caller ⟨hi, hphase.1, hphase.2.1⟩ rfl rfl ⟨rfl, rfl⟩ ⟨rfl, rfl, rfl⟩
    | false =>
      simp only [callerStep, hc, hinit, hi, Bool.false_eq_true, if_false] at hstep
      split at hstep
      · cases hstep
        exact h.of_caller ⟨hi, hphase⟩ rfl rfl ⟨rfl, rfl⟩ ⟨rfl, rfl, rfl⟩
      · cases hstep
        exact h.of_caller trivial rfl rfl ⟨rfl, rfl⟩ ⟨rfl, rfl, rfl⟩
  | listening =>
    simp only [Phase, State.core, hc] at hphase
    obtain ⟨hi, hm, hthrew⟩ := hphase
    simp only [callerStep, hc] at hstep
    split at hstep
    · cases hstep
      exact h.of_caller trivial rfl rfl ⟨rfl, rfl⟩ ⟨rfl, rfl, rfl⟩
    · split at hstep
      · cases hstep
        exact h.of_caller trivial rfl rfl ⟨rfl, rfl⟩ ⟨rfl, rfl, rfl⟩
      · cases hstep
        refine h.of_caller ⟨hi, ?_, hthrew⟩ rfl rfl ⟨rfl, rfl⟩ ⟨rfl, rfl, rfl⟩
        change s.world.mapper.register (some remote) (some c) = _
        rw [hm, SctpMapper.register_eq hs, hs]
  | registered =>
    simp only [Phase, State.core, hc] at hphase
    obtain ⟨hi, hm, hthrew⟩ := hphase
    obtain ⟨r, st', hr, hnative, hso, hin⟩ :=
      World.connectNative_outcome (w := s.world) (h.balanced (s.world.channel c).so)
        remote.getPort ok
    simp only [callerStep, hc, hnative] at hstep
    rcases hr with rfl | ⟨msg, rfl⟩
    · cases hstep
      refine h.of_caller ⟨hi, ?_⟩ rfl rfl ⟨hso, hin⟩ ⟨rfl, rfl, rfl⟩
      simpa [State.core, hthrew] using hm
    · cases hstep
      exact h.of_caller ⟨hi, hm, rfl⟩ rfl rfl ⟨hso, hin⟩ ⟨rfl, rfl, rfl⟩
  | catching e =>
    simp only [Phase, State.core, hc] at hphase
    obtain ⟨hi, hm, hthrew⟩ := hphase
    simp only [callerStep, hc, Option.some.injEq] at hstep
    subst hstep
    refine h.of_caller ⟨hi, ?_, hthrew⟩ rfl rfl ⟨rfl, rfl⟩ ⟨rfl, rfl, rfl⟩
    change s.world.mapper.unregisterRemote (some remote) = _
    rw [hm, SctpMapper.unregisterRemote_eq rfl]
  | rejecting e =>
    simp only [Phase, State.core, hc] at hphase
    obtain ⟨hi, hm, hthrew⟩ := hphase
    simp only [callerStep, hc] at hstep
    split at hstep
    · cases hstep
      refine h.of_caller ⟨hi, ?_⟩ rfl rfl ⟨rfl, rfl⟩ ⟨rfl, rfl, rfl⟩
      simpa [State.core, hthrew] using hm
    · cases hstep
      exact h.of_caller trivial rfl rfl ⟨rfl, rfl⟩ ⟨rfl, rfl, rfl⟩
  | submitting =>
    simp only [Phase, State.core, hc] at hphase
    simp only [callerStep, hc, Option.some.injEq] at hstep
    subst hstep
    exact h.of_caller hphase rfl rfl ⟨rfl, rfl⟩ ⟨rfl, rfl, rfl⟩

/-- After the first line of `connect` only the map and the exception matter. -/
theorem Phase.of_listens {k k' : Core} (h : Phase w₀ c remote k) (hl : k.caller.listens = true)
    (hc : k'.caller = k.caller) (hm : k'.world.mapper = k.world.mapper)
    (hn : k'.nativeThrew = k.nativeThrew) : Phase w₀ c remote k' := by
  simp only [Phase, hc, hm, hn] at h ⊢
  cases hk : k.caller with
  | start | refused => rw [hk] at hl; cases hl
  | listening | registered | catching _ | rejecting _ | submitting | returned | threw _ =>
    rw [hk] at h
    exact h

theorem Inv.deliver [DecidableEq T] {s s' : State T} {t : T} (h : Inv w₀ c remote s.core)
    (hstep : deliver t notification s = some s') : Inv w₀ c remote s'.core := by
  simp only [Connect.deliver, Option.ite_none_right_eq_some, Option.some.injEq,
    Bool.and_eq_true] at hstep
  obtain ⟨⟨hl, _⟩, rfl⟩ := hstep
  refine { h with phase := h.phase.of_listens hl rfl rfl rfl, notified := ?_ }
  have hn : s.closeNotified = (s.closeRan || decide (0 < s.closes)) := h.notified
  cases (branch notification).closes with
  | false => simp [State.core, hn]
  | true => simp [State.core]

/-- What the close task leaves alone. -/
structure CloseFrame (w w' : World) : Prop where
  mapper : w'.mapper = w.mapper
  channel : w'.channel = w.channel
  initialized : w'.stack.initialized = w.stack.initialized
  balanced : w'.stack.Balanced

theorem closeTask_frame {w : World} (hb : w.stack.Balanced) (c : ChanId) :
    CloseFrame w ((World.closeTask c).run w).2 where
  mapper := World.closeTask_mapper w c
  channel := World.closeTask_channel w c
  initialized := World.closeTask_initialized w c
  balanced := World.closeTask_balanced hb c

theorem closeTask_socketClosed (w : World) (c : ChanId) :
    socketClosed ((World.closeTask c).run w).2 c = (socketClosed w c || w.closable c) := by
  cases hc : w.closable c with
  | false =>
    rw [World.closeTask_error hc, Bool.or_false]
    rfl
  | true =>
    rw [Bool.or_true, socketClosed, World.closeTask_channel]
    obtain ⟨st', hclosed, hrun⟩ := World.closeTask_run hc
    rw [hrun]
    exact hclosed

/-- Only a listener that is installed has called `close`. -/
theorem Phase.listens_of_notified {k : Core} (h : Phase w₀ c remote k)
    (hn : k.closeNotified = true) : k.caller.listens = true := by
  simp only [Phase, hn] at h
  cases hk : k.caller with
  | start | refused => simp [hk] at h
  | listening | registered | catching _ | rejecting _ | submitting | returned | threw _ => rfl

/-- The close task: the socket is closed if the task comes to it. -/
theorem Inv.close {k : Core} (hpos : 0 < k.closes) (h : Inv w₀ c remote k) :
    Inv w₀ c remote { k with
      world := ((World.closeTask c).run k.world).2, closes := k.closes - 1, closeRan := true } := by
  have hframe := closeTask_frame h.balanced c
  have hnotified : k.closeNotified = true := by
    rw [h.notified, decide_eq_true hpos, Bool.or_true]
  -- as long as the ports are the first ones, the task ends as it would have at the start
  have hclosable : k.world.portMap = w₀.portMap → k.world.closable c = w₀.closable c :=
    fun hp => by simp only [World.closable, hp, h.channel]
  refine
    { channel := hframe.channel.trans h.channel
      initialized := hframe.initialized.trans h.initialized
      balanced := hframe.balanced
      phase := h.phase.of_listens (h.phase.listens_of_notified hnotified) rfl hframe.mapper rfl
      notified := by simp [hnotified]
      closed := ?_
      ports := ?_ }
  · change socketClosed ((World.closeTask c).run k.world).2 c = _
    rw [closeTask_socketClosed, h.closed]
    rcases h.ports with ⟨hran, hc⟩ | hp
    · simp [hran, hc]
    · rw [hclosable hp]
      cases w₀.closable c <;> simp
  · cases hc : w₀.closable c with
    | true => exact .inl ⟨rfl, rfl⟩
    | false =>
      right
      rcases h.ports with ⟨_, hc'⟩ | hp
      · rw [hc] at hc'
        cases hc'
      · dsimp only
        rw [World.closeTask_error ((hclosable hp).trans hc)]
        exact hp

theorem inv_reachable [DecidableEq T] (hb : w₀.stack.Balanced)
    (hs : w₀.mapper.isShutdown = false) {s : State T} (h : (machine T w₀ c remote).Reachable s) :
    Inv w₀ c remote s.core := by
  refine h.invariant (P := fun s => Inv w₀ c remote s.core) (fun s hs => ?_)
    fun s i s' hinv hstep => ?_
  · cases hs
    exact inv_init hb
  · cases i with
    | caller ok => exact hinv.caller hs hstep
    | deliver t notification => exact hinv.deliver hstep
    | settle t => rw [settle_core hstep]; exact hinv
    | timeout interrupt => rw [timeoutStep_core hstep]; exact hinv
    | close =>
      simp only [machine, exec, Option.ite_none_right_eq_some, Option.some.injEq] at hstep
      obtain ⟨hpos, rfl⟩ := hstep
      exact hinv.close hpos

/-- Nothing of the channel is left: it is not in the map, and its socket is closed. -/
def Clean (w : World) (c : ChanId) : Prop :=
  c ∉ w.mapper.socketMap.values ∧ socketClosed w c = true

/-- When that is so after `connect` was called in `w₀`. On a stack that is not initialised the
channel had to be clean before. Otherwise `connectNative` has to throw, the channel must have no
entry for another address, and its socket was closed before or is closed by the task of a closing
notification. -/
def CleanedUp (w₀ : World) (c : ChanId) (remote : InetSocketAddress) (s : State T) : Prop :=
  if w₀.stack.initialized then
    s.nativeThrew = true ∧ c ∉ w₀.mapper.socketMap.valuesApart remote ∧
      (socketClosed w₀ c = true ∨ s.closeNotified = true ∧ w₀.closable c = true)
  else Clean w₀ c

theorem clean_iff_cleanedUp [DecidableEq T] {s : State T} (h : Inv w₀ c remote s.core)
    (hq : Quiescent s) (hret : s.caller.hasReturned = true) :
    Clean s.world c ↔ CleanedUp w₀ c remote s := by
  have hphase := h.phase
  have hran : s.closeRan = s.closeNotified := by
    have hn : s.closeNotified = (s.closeRan || decide (0 < s.closes)) := h.notified
    rw [hn, hq.closes]
    simp
  have hclosed : socketClosed s.world c =
    (socketClosed w₀ c || (s.closeNotified && w₀.closable c)) := hran ▸ h.closed
  cases hc : s.caller with
  | refused =>
    simp only [Phase, State.core, hc] at hphase
    obtain ⟨hi, hm, _, hn⟩ := hphase
    simp [Clean, CleanedUp, hi, hm, hclosed, hn]
  | returned =>
    simp only [Phase, State.core, hc] at hphase
    obtain ⟨hi, hm⟩ := hphase
    simp only [Clean, CleanedUp, hi, hm, hclosed, if_true]
    cases s.nativeThrew with
    | false =>
      have hmem : c ∈ (w₀.mapper.socketMap.put remote c).values :=
        ConcurrentHashMap.mem_values_put.mpr (.inl rfl)
      simp [hmem]
    | true =>
      have hmem : c ∈ ((w₀.mapper.socketMap.put remote c).remove remote).values ↔
          c ∈ w₀.mapper.socketMap.valuesApart remote := ConcurrentHashMap.mem_valuesApart_put
      simp [hmem]
  | start | listening | registered | catching _ | rejecting _ | submitting | threw _ =>
    simp [hc, CallerPc.hasReturned] at hret

/-- **What a rejected `connect` leaves behind.** For every run of `connect` that ends with a
rejected promise, when every thread has ended and every submitted task has run, nothing of the
channel is left exactly when `CleanedUp` holds. In particular a `connect` that times out, and one
that is rejected by a notification after `connectNative` has returned, leaves its channel in the
map. -/
theorem rejected_clean_iff (T : Type) [DecidableEq T] (w₀ : World)
    (hw : World.program.Reachable w₀) (hs : w₀.mapper.isShutdown = false) (c : ChanId)
    (remote : InetSocketAddress) (s : State T) (h : (machine T w₀ c remote).Reachable s)
    (hq : Quiescent s) (hret : s.caller.hasReturned = true) :
    (∃ e, s.d = .rejected e) → (Clean s.world c ↔ CleanedUp w₀ c remote s) :=
  fun _ => clean_iff_cleanedUp (inv_reachable (World.wf_reachable hw).balanced hs h) hq hret

/-- A stack with one channel, which has a remote and a mapper. -/
def oneChannel : List World.Op :=
  [.setInitialized true, .newChannel 2000 (some samplePeer) none true 16]

/-- What can be evaluated of a run of `connect` with at most one notification. -/
def Ends (s : State Unit) (e : Throwable) : Prop :=
  (s.listener () = .idle ∨ s.listener () = .returned ∨
    s.listener () = .threw (.illegalStateException
      "Deferred object already finished, cannot reject again")) ∧
  s.timeout = .returned ∧ s.closes = 0 ∧ s.caller = .returned ∧ s.d = .rejected e

instance (s : State Unit) (e : Throwable) : Decidable (Ends s e) :=
  inferInstanceAs (Decidable (_ ∧ _))

theorem Ends.quiescent {s : State Unit} {e : Throwable} (h : Ends s e) : Quiescent s where
  listener _ := by rcases h.1 with h | h | h <;> simp [h]
  timeout := .inr (.inl h.2.1)
  closes := h.2.2.1

/-- `usrsctp_connect` fails and the loss of the association is reported too. -/
theorem failed_and_lost_clean : ∃ (w₀ : World) (s : State Unit), World.program.Reachable w₀ ∧
    (machine Unit w₀ 0 samplePeer).Reachable s ∧
    s.d = .rejected (.ioException "Failed to connect SCTP") ∧ Clean s.world 0 := by
  obtain ⟨w₀, hw, hs, hrun⟩ := Machine.Reachable.exists_run (M := World.program) (.init rfl)
    (P := fun w₀ => w₀.mapper.isShutdown = false ∧
      ((machine Unit w₀ 0 samplePeer).run (.init Unit w₀)
        [.caller true, .caller true, .caller false, .caller true, .caller true, .caller true,
          .deliver () "SCTP_ASSOC_CHANGE:assocId:0x1,COMM_LOST,(in/out)(1/1),err0x0", .settle (),
          .close, .timeout false, .timeout false, .timeout false]).any (fun s =>
        decide (Ends s (.ioException "Failed to connect SCTP") ∧ w₀.stack.initialized = true ∧
          s.nativeThrew = true ∧ 0 ∉ w₀.mapper.socketMap.valuesApart samplePeer ∧
          s.closeNotified = true ∧ w₀.closable 0 = true)) = true)
    oneChannel (by decide +kernel)
  obtain ⟨s, hr, hprop⟩ := (Option.any_eq_true ..).mp hrun
  obtain ⟨hends, hi, hn, ha, hcn, hc⟩ := of_decide_eq_true hprop
  have hreach : (machine Unit w₀ 0 samplePeer).Reachable s := Machine.Reachable.run (.init rfl) hr
  refine ⟨w₀, s, hw, hreach, hends.2.2.2.2, ?_⟩
  refine (rejected_clean_iff Unit w₀ hw hs 0 samplePeer s hreach hends.quiescent
    (by rw [hends.2.2.2.1]; rfl) ⟨_, hends.2.2.2.2⟩).mpr ?_
  rw [CleanedUp, if_pos hi]
  exact ⟨hn, ha, .inr ⟨hcn, hc⟩⟩

/-- After a timeout the promise is rejected, and the channel is still in the map and its socket
open. -/
theorem timed_out_connect_left : ∃ (w₀ : World) (s : State Unit), World.program.Reachable w₀ ∧
    w₀.mapper.isShutdown = false ∧ (machine Unit w₀ 0 samplePeer).Reachable s ∧ Quiescent s ∧
    s.caller.hasReturned = true ∧
    s.d = .rejected (.timeoutException "Timeout triggered! Connection could not be set up!") ∧
    0 ∈ s.world.mapper.socketMap.values ∧ socketClosed s.world 0 = false := by
  obtain ⟨w₀, hw, hs, hrun⟩ := Machine.Reachable.exists_run (M := World.program) (.init rfl)
    (P := fun w₀ => w₀.mapper.isShutdown = false ∧
      ((machine Unit w₀ 0 samplePeer).run (.init Unit w₀)
        [.caller true, .caller true, .caller true, .caller true, .timeout false, .timeout false,
          .timeout false, .timeout false]).any (fun s =>
        decide (Ends s (.timeoutException
            "Timeout triggered! Connection could not be set up!") ∧
          0 ∈ s.world.mapper.socketMap.values ∧ socketClosed s.world 0 = false)) = true)
    oneChannel (by decide +kernel)
  obtain ⟨s, hr, hprop⟩ := (Option.any_eq_true ..).mp hrun
  obtain ⟨hends, hmem, hopen⟩ := of_decide_eq_true hprop
  exact ⟨w₀, s, hw, hs, Machine.Reachable.run (.init rfl) hr, hends.quiescent,
    by rw [hends.2.2.2.1]; rfl, hends.2.2.2.2, hmem, hopen⟩

end Sctp4Nat.Connect
