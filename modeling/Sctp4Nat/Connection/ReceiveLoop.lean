import Sctp4Nat.Connection.Effect

/-! # The receive loops

Which datagrams a receive loop survives. Three things throw out of an iteration: an empty
datagram, which `SctpSocket.onConnIn` rejects; a key without an address in `socketMap`, which the
scan of `locate` comes across; and for a new remote a builder chain or a constructor that ends in
`null`. A loop that meets none of them keeps running and hands every datagram to a channel. -/

namespace Sctp4Nat.World

open SctpMapper (isMatch Passable firstMatch)

/-- The mapper has an entry for the source of the datagram. -/
def knows (w : World) (d : Datagram) : Bool :=
  !w.mapper.isShutdown &&
    w.mapper.socketMap.entries.any fun e => isMatch d.address.getHostAddress d.port e.1

/-- What an iteration of the server's loop needs to end without an exception. -/
def serverSurvives (w : World) (localPort : UInt16) (mapper : Bool)
    (it : Iteration (InetSocketAddress × ChanId)) (d : Datagram) (ptr : Ptr) : Bool :=
  (w.mapper.isShutdown ||
    Passable d.address.getHostAddress d.port (it.order w.mapper.socketMap.entries)) &&
  if w.knows d then 0 < d.data.length
  else !w.isUsedPort localPort.toNat && mapper &&
    (!w.stack.initialized || (ptr ≠ 0 && 0 < d.data.length))

/-- What a step needs so that no receive loop ends in it. -/
def survives (w : World) : Op → Bool
  | .serverDatagram l it d ptr =>
    match (w.link l).kind with
    | .server localPort mapper => w.serverSurvives localPort mapper it d ptr
    | .client .. => true
  | .clientDatagram _ _ d => 0 < d.data.length
  | _ => true

/-- The datagram that arrives with an operation. -/
def Op.datagram : Op → Option Datagram
  | .serverDatagram _ _ d _ | .clientDatagram _ _ d => some d
  | _ => none

variable {w w' : World} {l : LinkId} {localPort : UInt16} {mapper : Bool}
  {it : Iteration (InetSocketAddress × ChanId)} {d : Datagram} {ptr : Ptr}

theorem firstMatch_isSome (entries : List (InetSocketAddress × ChanId)) (host : String)
    (port : UInt16) : (firstMatch host port (it.order entries)).isSome =
      entries.any fun e => isMatch host port e.1 := by
  rw [Bool.eq_iff_iff, firstMatch, Option.isSome_map, List.find?_isSome, List.any_eq_true]
  simp

/-- The scan of `locate` ends normally exactly when it passes no key without an address. -/
theorem locate_cases (w : World) (it : Iteration (InetSocketAddress × ChanId)) (d : Datagram) :
    (w.mapper.isShutdown ||
      Passable d.address.getHostAddress d.port (it.order w.mapper.socketMap.entries)) = false ∧
      w.mapper.locate it d.address.getHostAddress d.port = .error .npe ∨
    (w.mapper.isShutdown ||
      Passable d.address.getHostAddress d.port (it.order w.mapper.socketMap.entries)) = true ∧
      ∃ so, w.mapper.locate it d.address.getHostAddress d.port = .ok so ∧
        so.isSome = w.knows d := by
  cases hs : w.mapper.isShutdown with
  | true => exact .inr ⟨rfl, none, by simp [SctpMapper.locate, hs], by simp [knows, hs]⟩
  | false =>
    rw [SctpMapper.locate_eq hs, Bool.false_or]
    cases hp : Passable d.address.getHostAddress d.port (it.order w.mapper.socketMap.entries) with
    | false => exact .inl ⟨rfl, rfl⟩
    | true =>
      refine .inr ⟨rfl, _, rfl, ?_⟩
      rw [firstMatch_isSome, knows, hs, Bool.not_false, Bool.true_and]

/-- `onConnIn` on a datagram: the outcome depends on the length only. -/
theorem onConnIn_ok_iff {c : ChanId} (hb : w.stack.Balanced) {before : Bytes}
    (hbuf : before.length = udpDefaultBufferSize) (d : Datagram) :
    ((onConnIn c (d.buffer before) 0 d.length).run w).1 = .ok () ↔ 0 < d.data.length := by
  rcases Nat.eq_zero_or_pos d.data.length with hd | hd
  · rw [onConnIn_empty (hb _) hbuf d hd]
    simp [hd]
  · rw [onConnIn_datagram (hb _) hbuf d hd]
    simp [hd]

theorem onConnIn_delivered {c : ChanId} (hb : w.stack.Balanced) {before : Bytes}
    (hbuf : before.length = udpDefaultBufferSize) (d : Datagram) :
    ((onConnIn c (d.buffer before) 0 d.length).run w).2.delivered =
      (c, d.data) :: w.delivered := by
  rcases Nat.eq_zero_or_pos d.data.length with hd | hd
  · rw [onConnIn_empty (hb _) hbuf d hd]
  · rw [onConnIn_datagram (hb _) hbuf d hd]
    simp only [withDatagram, withPacket, d.payload_buffer]

theorem balanced_fresh (hb : w.stack.Balanced) :
    ((w.withServerChannel l localPort d ptr).withRegistration d.remote
      w.nextChannel).stack.Balanced :=
  balanced_withSocket hb localPort.toNat (some l) ptr

theorem serverIteration_ok_iff (hb : w.stack.Balanced) :
    ((serverIteration l localPort mapper it d ptr).run w).1 = .ok () ↔
      w.serverSurvives localPort mapper it d ptr = true := by
  rw [serverIteration_run hb, serverSurvives]
  rcases locate_cases w it d with ⟨hp, hloc⟩ | ⟨hp, so, hloc, hk⟩
  · simp [hloc, hp]
  · rw [hp, hloc, ← hk, Bool.true_and]
    cases so with
    | some c => simpa using onConnIn_ok_iff hb Datagram.length_newBuffer d
    | none =>
      cases w.isUsedPort localPort.toNat with
      | true => simp
      | false =>
        cases mapper with
        | false => simp
        | true =>
          cases hi : w.stack.initialized with
          | false => simp
          | true =>
            rcases eq_or_ne ptr 0 with rfl | hptr
            · simp
            · simpa [hptr] using onConnIn_ok_iff (balanced_fresh hb) Datagram.length_newBuffer d

/-- The channel that gets the datagram: the one the mapper has for its source, or a new one that
is registered for it. -/
def Fed (w : World) (it : Iteration (InetSocketAddress × ChanId)) (d : Datagram) (w' : World)
    (c : ChanId) : Prop :=
  w'.delivered = (c, d.data) :: w.delivered ∧
    (w.mapper.locate it d.address.getHostAddress d.port = .ok (some c) ∨
      w.knows d = false ∧ c = w.nextChannel ∧
        w'.mapper = w.mapper.register (some d.remote) (some c))

/-- A surviving iteration on an initialised stack feeds a channel. -/
theorem serverIteration_fed (hb : w.stack.Balanced) (hi : w.stack.initialized = true)
    (h : w.serverSurvives localPort mapper it d ptr = true) :
    ∃ c, Fed w it d ((serverIteration l localPort mapper it d ptr).run w).2 c := by
  rw [serverSurvives, Bool.and_eq_true] at h
  rw [serverIteration_run hb]
  rcases locate_cases w it d with ⟨hp, _⟩ | ⟨_, so, hloc, hk⟩
  · rw [hp] at h
    cases h.1
  · rw [hloc]
    cases so with
    | some c => exact ⟨c, onConnIn_delivered hb Datagram.length_newBuffer d, .inl hloc⟩
    | none =>
      rw [← hk, hi] at h
      obtain ⟨⟨hu, hm⟩, hptr, _⟩ : (w.isUsedPort localPort.toNat = false ∧ mapper = true) ∧
          ptr ≠ 0 ∧ 0 < d.data.length := by simpa using h.2
      simp only [hu, hm, hi, hptr, Bool.false_eq_true, Bool.true_eq_false, or_self, if_false]
      refine ⟨w.nextChannel, ?_, .inr ⟨hk.symm, rfl, ?_⟩⟩
      · rw [onConnIn_delivered (balanced_fresh hb) Datagram.length_newBuffer d]
        rfl
      · exact congrArg Directory.mapper
          ((keeps_onConnIn w.nextChannel _ _ _).quiet (balanced_fresh hb)).directory

theorem isOk_iff {r : Except Throwable Unit} : r.isOk = true ↔ r = .ok () := by
  cases r with
  | error e => simp [Except.isOk, Except.toBool]
  | ok a => simp [Except.isOk, Except.toBool]

theorem iterationOk_of_survives (hb : w.stack.Balanced) {op : Op} (hop : w.survives op = true)
    (h : exec w op = some w') : w.iterationOk op = true := by
  cases op with
  | serverDatagram l it d ptr =>
    cases hkind : (w.link l).kind with
    | client => simp [iterationOk, hkind]
    | server localPort mapper =>
      simp only [survives, iterationOk, hkind] at hop ⊢
      exact isOk_iff.mpr ((serverIteration_ok_iff hb).mpr hop)
  | clientDatagram l before d =>
    cases hkind : (w.link l).kind with
    | server => simp [iterationOk, hkind]
    | client remote c =>
      simp only [exec, hkind] at h
      obtain ⟨hl, _⟩ := guard_eq_some.mp h
      have hbuf : before.length = udpDefaultBufferSize := by simp_all
      simp only [survives, iterationOk, hkind, decide_eq_true_eq] at hop ⊢
      exact isOk_iff.mpr ((onConnIn_ok_iff hb hbuf d).mpr hop)
  | _ => rfl

/-- Runs whose datagrams the loops survive: no loop ends. -/
theorem receiving_of_survives
    (h : (program.restrict fun w op => w.survives op = true).Reachable w) :
    ∀ l, (w.link l).receiving = true := by
  refine invariant_of_restrict (P := fun w => ∀ l, (w.link l).receiving = true) (fun _ => rfl)
    (fun w op w' hwf hw hop hs he l => ?_) h
  exact he.receiving (iterationOk_of_survives hwf.balanced hop hs) l (hw l)

theorem afterIteration_delivered (l : LinkId) (r : Except Throwable Unit × World) :
    (afterIteration l r).delivered = r.2.delivered := by
  obtain ⟨_ | _, w⟩ := r <;> rfl

theorem afterIteration_mapper (l : LinkId) (r : Except Throwable Unit × World) :
    (afterIteration l r).mapper = r.2.mapper := by
  obtain ⟨_ | _, w⟩ := r <;> rfl

/-- The same for a step of the program. -/
theorem exec_fed (hb : w.stack.Balanced) (hi : w.stack.initialized = true)
    (hop : w.survives (.serverDatagram l it d ptr) = true)
    (h : exec w (.serverDatagram l it d ptr) = some w') : ∃ c, Fed w it d w' c := by
  cases hkind : (w.link l).kind with
  | client => simp [exec, hkind] at h
  | server localPort mapper =>
    simp only [exec, survives, hkind] at h hop
    obtain ⟨_, rfl⟩ := guard_eq_some.mp h
    obtain ⟨c, hfed⟩ := serverIteration_fed (l := l) hb hi hop
    exact ⟨c, by rwa [Fed, afterIteration_delivered, afterIteration_mapper]⟩

/-- The datagram of a step that its loop survives is handed to a channel. -/
theorem exec_delivered (hb : w.stack.Balanced) (hi : w.stack.initialized = true) {op : Op}
    (hd : op.datagram = some d) (hop : w.survives op = true) (h : exec w op = some w') :
    ∃ c, w'.delivered = (c, d.data) :: w.delivered := by
  cases op with
  | serverDatagram l it d' ptr =>
    cases hd
    obtain ⟨c, hfed⟩ := exec_fed hb hi hop h
    exact ⟨c, hfed.1⟩
  | clientDatagram l before d' =>
    cases hd
    cases hkind : (w.link l).kind with
    | server => simp [exec, hkind] at h
    | client remote c =>
      simp only [exec, hkind] at h
      obtain ⟨hl, rfl⟩ := guard_eq_some.mp h
      have hbuf : before.length = udpDefaultBufferSize := by simp_all
      exact ⟨c, (afterIteration_delivered ..).trans (onConnIn_delivered hb hbuf d)⟩
  | _ => cases hd

/-- **The receive loops.** An iteration ends without an exception exactly when the datagram and
the mapper meet `serverSurvives` (in a client's loop: when the datagram is not empty). In a run
whose datagrams all do, every link that is not closed goes on receiving, and on an initialised
stack every datagram is handed to a channel. -/
theorem loop_survives_iff (w : World) :
    (program.Reachable w → ∀ l, w.listens l = true →
      (∀ localPort mapper, (w.link l).kind = .server localPort mapper → ∀ it d ptr,
        (((serverIteration l localPort mapper it d ptr).run w).1 = .ok () ↔
          w.serverSurvives localPort mapper it d ptr = true)) ∧
      (∀ remote c, (w.link l).kind = .client remote c → ∀ before d,
        before.length = udpDefaultBufferSize →
          (((clientIteration c before d).run w).1 = .ok () ↔ 0 < d.data.length))) ∧
    ((program.restrict fun w op => w.survives op = true).Reachable w →
      (∀ l < w.nextLink, (w.link l).isShutdown = false → (w.link l).udpClosed = false →
        w.listens l = true) ∧
      ∀ op d w', op.datagram = some d → w.survives op = true → w.stack.initialized = true →
        exec w op = some w' → ∃ c, w'.delivered = (c, d.data) :: w.delivered) := by
  refine ⟨fun hw l _ => ⟨fun localPort mapper _ it d ptr => ?_, fun remote c _ before d hbuf => ?_⟩,
    fun hw => ⟨fun l hl hs hu => ?_, fun op d w' hd hop hi hs => ?_⟩⟩
  · exact serverIteration_ok_iff (wf_reachable hw).balanced
  · exact onConnIn_ok_iff (wf_reachable hw).balanced hbuf d
  · simp [listens, receiving_of_survives hw l, hl, hs, hu]
  · exact exec_delivered (wf_reachable hw.of_restrict).balanced hi hd hop hs

/-- A datagram that 10.0.0.7 sends. -/
def sampleDatagram (data : Bytes) (h : data.length ≤ udpDefaultBufferSize) : Datagram :=
  .sample 0x0A000007#32 data h

/-- One byte reaches a server that has just been started, and is handed to a channel. -/
theorem server_survives_one_byte :
    ∃ w w', program.Reachable w ∧
      ((serverIteration 0 9899 true .id (sampleDatagram [1] (by decide)) 16).run w).1 = .ok () ∧
      exec w (.serverDatagram 0 .id (sampleDatagram [1] (by decide)) 16) = some w' ∧
      w.listens 0 = true ∧ ∃ c, w'.delivered = [(c, [1])] := by
  obtain ⟨w, hw, ⟨hn, hl, hi, hk, hs, hd⟩, he⟩ := Machine.Reachable.exists_run
    (M := program.restrict fun w op => w.survives op = true) (.init rfl)
    (P := fun w => (0 < w.nextLink ∧ w.listens 0 = true ∧ w.stack.initialized = true ∧
      (w.link 0).kind = .server 9899 true ∧
      w.serverSurvives 9899 true .id (sampleDatagram [1] (by decide)) 16 = true ∧
      w.delivered = []) ∧
      (exec w (.serverDatagram 0 .id (sampleDatagram [1] (by decide)) 16)).isSome = true)
    [.setInitialized true, .newServerLink 9899 true] (by decide +kernel)
  obtain ⟨w', hw'⟩ := Option.isSome_iff_exists.mp he
  have hop : w.survives (.serverDatagram 0 .id (sampleDatagram [1] (by decide)) 16) = true := by
    simpa [survives, hk] using hs
  obtain ⟨c, hc⟩ := ((loop_survives_iff w).2 hw).2 _ _ w' rfl hop hi hw'
  exact ⟨w, w', hw.of_restrict,
    (((loop_survives_iff w).1 hw.of_restrict 0 hl).1 9899 true hk .id _ 16).mpr hs, hw', hl, c,
    hd ▸ hc⟩

/-- An empty datagram ends the loop of a server that has just been started. -/
theorem empty_datagram_ends_loop :
    ∃ w, program.Reachable w ∧ w.stack.initialized = true ∧ w.listens 0 = true ∧
      (w.link 0).kind = .server 9899 true ∧
      ((serverIteration 0 9899 true .id (sampleDatagram [] (by decide)) 16).run w).1 ≠ .ok () ∧
      ∃ w', exec w (.serverDatagram 0 .id (sampleDatagram [] (by decide)) 16) = some w' ∧
        w'.listens 0 = false := by
  obtain ⟨w, hw, hi, hl, hk, hs, he⟩ := Machine.Reachable.exists_run (M := program) (.init rfl)
    (P := fun w => w.stack.initialized = true ∧ w.listens 0 = true ∧
      (w.link 0).kind = .server 9899 true ∧
      ((serverIteration 0 9899 true .id (sampleDatagram [] (by decide)) 16).run w).1.isOk = false ∧
      (exec w (.serverDatagram 0 .id (sampleDatagram [] (by decide)) 16)).any
        (fun w' => !w'.listens 0) = true)
    [.setInitialized true, .newServerLink 9899 true] (by decide +kernel)
  obtain ⟨w', hw', hl'⟩ := (Option.any_eq_true ..).mp he
  refine ⟨w, hw, hi, hl, hk, fun hok => ?_, w', hw', by simpa using hl'⟩
  rw [isOk_iff.mpr hok] at hs
  cases hs

end Sctp4Nat.World
