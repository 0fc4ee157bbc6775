import Sctp4Nat.Connection.SctpConnection

/-! # A `connect` that fails

The `catch` block of `SctpChannel.connect` undoes the registration by the address alone, so it
takes an entry that was there before away with its own. `SctpConnection.connect` has a socket as
soon as the builder returns, and no clean-up for the exceptions that come after that. -/

namespace Sctp4Nat

namespace World

variable {w : World} {c : ChanId} {remote : InetSocketAddress}

/-- A `connect` that comes to its registration throws when it logs an address without
`InetAddress`, and else goes on to `connectNative`. -/
theorem connect_run (hi : w.stack.initialized = true) (hm : (w.channel c).mapper = true)
    (ok : Bool) : (connect c remote ok).run w =
      match remote.getAddress with
      | none => (.error .npe, w.withRegistration remote c)
      | some _ => (connectFinish c remote ok).run
          { w.withRegistration remote c with connecting := (c, remote) :: w.connecting } := by
  have hi' : (w.withRegistration remote c).stack.initialized = true := hi
  cases ha : remote.getAddress with
  | none => simp [connect, connectRegister, Java.run_bind, hi, hm, register_run, ha]
  | some address =>
    simp only [connect, connectRegister, Java.run_bind, Java.run_get, hi, hm, register_run, ha,
      Bool.not_true, Bool.false_eq_true, if_false, Java.run_deref_some, Java.run_modify, hi',
      if_true]
    rfl

theorem connectFinish_failed {st' : Stack} {msg : String}
    (h : (Stack.connectNative (w.channel c).so remote.getPort ok).run w.stack =
      (.error (.ioException msg), st')) :
    (connectFinish c remote ok).run w = (.ok (),
      { w with
        connecting := w.connecting.erase (c, remote)
        stack := st'
        mapper := w.mapper.unregisterRemote (some remote) }) := by
  simp [connectFinish, Java.run_bind, Java.run_tryCatch, onStack, Java.run_zoom, h, onMapper]

/-- **The rollback of a failed `connect`.** When `connectNative` throws, the map of the mapper is
what it was before exactly when it had no entry for the remote: the `put` is undone by a `remove`
that takes whatever channel the address had. -/
theorem rollback_iff (w : World) (c : ChanId) (remote : InetSocketAddress) (ok : Bool)
    (hi : w.stack.initialized = true) (hm : (w.channel c).mapper = true)
    (hr : remote.getAddress.isSome = true) (hs : w.mapper.isShutdown = false) (msg : String)
    (st' : Stack) (hfail : (Stack.connectNative (w.channel c).so remote.getPort ok).run w.stack =
      (.error (.ioException msg), st')) :
    ((connect c remote ok).run w).2.mapper.socketMap = w.mapper.socketMap ↔
      w.mapper.socketMap.containsKey remote = false := by
  obtain ⟨address, ha⟩ := Option.isSome_iff_exists.mp hr
  have hmap : ((connect c remote ok).run w).2.mapper.socketMap =
      w.mapper.socketMap.remove remote := by
    rw [connect_run hi hm, ha]
    dsimp only
    rw [connectFinish_failed (w := { w.withRegistration remote c with
      connecting := (c, remote) :: w.connecting }) hfail]
    simp only [withRegistration, SctpMapper.register_eq hs,
      SctpMapper.unregisterRemote_eq (m := { w.mapper with
        socketMap := w.mapper.socketMap.put remote c }) hs, ConcurrentHashMap.remove_put]
  rw [hmap, ConcurrentHashMap.remove_eq_self_iff]

/-- A remote that two channels share. -/
def peer : InetSocketAddress := .resolved (.inet4 0x0a000002#32) 5000

/-- Two channels on an initialised stack; the first one is registered for `peer`. -/
def sharedRemote : World :=
  let w := { empty with stack := { Stack.empty with initialized := true } }
  let w := w.withChannel 5000 (some peer) none true 1
  let w := w.withChannel 5001 (some peer) none true 2
  { w with mapper := w.mapper.register (some peer) (some 0) }

/-- The map is restored when the second channel fails to connect to another remote. -/
theorem rollback_other_remote :
    ((connect 1 (.resolved (.inet4 0x0a000003#32) 5000) false).run
      sharedRemote).2.mapper.socketMap = sharedRemote.mapper.socketMap :=
  (rollback_iff sharedRemote 1 (.resolved (.inet4 0x0a000003#32) 5000) false rfl rfl rfl rfl
    "Failed to connect SCTP" _ rfl).mpr (by decide +kernel)

/-- The first channel loses its entry when the second one fails to connect to the same remote. -/
theorem rollback_loses_entry :
    (sharedRemote.stack.initialized = true ∧ (sharedRemote.channel 1).mapper = true ∧
      sharedRemote.mapper.isShutdown = false) ∧
    ((Stack.connectNative (sharedRemote.channel 1).so peer.getPort false).run
      sharedRemote.stack).1 = .error (.ioException "Failed to connect SCTP") ∧
    sharedRemote.mapper.socketMap.get peer = some 0 ∧
    ((connect 1 peer false).run sharedRemote).2.mapper.socketMap.get peer = none ∧
    ((connect 1 peer false).run sharedRemote).2.mapper.socketMap ≠
      sharedRemote.mapper.socketMap :=
  ⟨by decide, rfl, by decide +kernel, by decide +kernel, fun h =>
    absurd (congrArg (ConcurrentHashMap.get · peer) h) (by decide +kernel)⟩

/-! ## Exceptions after the socket was created -/

/-- The channel can be connected: nothing but the remote makes `connect` throw. -/
structure Connectable (w : World) (c : ChanId) : Prop where
  initialized : w.stack.initialized = true
  mapper : (w.channel c).mapper = true
  balanced : 0 ≤ (w.stack.socket (w.channel c).so).ptrLockCount

theorem connectable_withChannel (hi : w.stack.initialized = true) (localSctpPort : Int)
    (remote : Option InetSocketAddress) (link : Option LinkId) (ptr : Ptr) :
    (w.withChannel localSctpPort remote link true ptr).Connectable w.nextChannel where
  initialized := hi
  mapper := by simp [withChannel]
  balanced := by simp [withChannel, Stack.withSocket]

theorem Connectable.setLink (h : w.Connectable c) (link : Option LinkId) :
    ∃ w', (setLink c link).run w = (.ok (), w') ∧ w'.Connectable c ∧
      w'.stack.sockets = w.stack.sockets := by
  refine ⟨_, setLink_run w c link, ⟨h.initialized, ?_, ?_⟩, rfl⟩
  · simpa [setChannel] using h.mapper
  · simpa [setChannel, Stack.setLink] using h.balanced

theorem Connectable.newUdpClientLink (h : w.Connectable c) (localAddr remote : InetSocketAddress)
    (bindError : Option String) :
    ∃ w', (newUdpClientLink localAddr remote c bindError).run w =
        (match bindError with
          | none => .ok w.nextLink
          | some msg => .error (.ioException msg), w') ∧
      w'.Connectable c ∧ w'.stack.sockets = w.stack.sockets := by
  have hnew : (w.newLink (clientLink localAddr remote c bindError.isNone)).Connectable c :=
    ⟨h.initialized, h.mapper, h.balanced⟩
  obtain ⟨w', hrun, hc, hsockets⟩ := hnew.setLink (some w.nextLink)
  refine ⟨w', ?_, hc, hsockets⟩
  simp only [World.newUdpClientLink, Java.run_bind, Java.run_get, Java.run_set, hrun]
  cases bindError <;> rfl

/-- An `IOException` of `connectNative` goes no further than `connect`. -/
theorem connectFinish_ok (hb : 0 ≤ (w.stack.socket (w.channel c).so).ptrLockCount)
    (remote : InetSocketAddress) (ok : Bool) : ((connectFinish c remote ok).run w).1 = .ok () := by
  obtain ⟨r, st', hr, hrun, _⟩ := connectNative_outcome
    (w := { w with connecting := w.connecting.erase (c, remote) }) hb remote.getPort ok
  rw [connectFinish, Java.run_bind_ok (Java.run_modify _ w), Java.run_bind_ok (Java.run_get _),
    Java.run_tryCatch, hrun]
  rcases hr with rfl | ⟨msg, rfl⟩
  · rfl
  · rfl

theorem Connectable.connect_resolved (h : w.Connectable c) (hr : remote.getAddress.isSome = true)
    (ok : Bool) : ((connect c remote ok).run w).1 = .ok () := by
  obtain ⟨address, ha⟩ := Option.isSome_iff_exists.mp hr
  rw [connect_run h.initialized h.mapper, ha]
  exact connectFinish_ok (w := { w.withRegistration remote c with
    connecting := (c, remote) :: w.connecting }) h.balanced remote ok

end World

namespace SctpConnection

open World

variable {w : World} {c : ChanId} {localAddr remote : InetSocketAddress} {link : Option LinkId}
  {bindError : Option String}

/-- The exceptions after the socket was created: there is no link and no UDP socket for a new one,
or the remote has no `InetAddress`. -/
def failsLate (remote : InetSocketAddress) (link : Option LinkId) (bindError : Option String) :
    Bool :=
  (link.isNone && bindError.isSome) || remote.getAddress.isNone

/-- With a link at hand only the remote can make the rest of `connect` throw. -/
theorem linked_run (hc : w.Connectable c) (l : LinkId) (ok : Bool) :
    (remote.getAddress.isSome = true →
      ((setLink c (some l) >>= fun _ => World.connect c remote ok).run w).1 = .ok ()) ∧
    (remote.getAddress = none → ∃ w',
      (setLink c (some l) >>= fun _ => World.connect c remote ok).run w = (.error .npe, w') ∧
        w'.stack.sockets = w.stack.sockets) := by
  obtain ⟨w', hrun, hc', hsockets⟩ := hc.setLink (some l)
  rw [Java.run_bind_ok hrun]
  refine ⟨fun hr => hc'.connect_resolved hr ok, fun hr => ⟨w'.withRegistration remote c, ?_,
    hsockets⟩⟩
  rw [connect_run hc'.initialized hc'.mapper, hr]

theorem connectSocket_ok (hc : w.Connectable c) (h : failsLate remote link bindError = false)
    (localAddr : InetSocketAddress) (ok : Bool) :
    ((connectSocket localAddr remote c link bindError ok).run w).1 = .ok () := by
  obtain ⟨hlink, hr⟩ : (link = none → bindError = none) ∧ remote.getAddress.isSome = true := by
    cases link <;> cases bindError <;> cases hr : remote.getAddress <;> simp [failsLate, hr] at h ⊢
  cases link with
  | some l => exact (linked_run hc l ok).1 hr
  | none =>
    obtain ⟨w', hrun, hc', _⟩ := hc.newUdpClientLink localAddr remote bindError
    rw [hlink rfl] at hrun ⊢
    rw [connectSocket, Java.run_bind, hrun]
    exact (linked_run hc' _ ok).1 hr

/-- An exception of the rest of `connect` leaves the socket where it is. -/
theorem connectSocket_error (hc : w.Connectable c) (h : failsLate remote link bindError = true)
    (localAddr : InetSocketAddress) (ok : Bool) :
    ∃ e w', (connectSocket localAddr remote c link bindError ok).run w = (.error e, w') ∧
      w'.stack.sockets = w.stack.sockets := by
  cases link with
  | some l =>
    obtain ⟨w', hrun, hsockets⟩ := (linked_run hc l ok).2 (by simpa [failsLate] using h)
    exact ⟨.npe, w', hrun, hsockets⟩
  | none =>
    obtain ⟨w₁, hrun, hc', hsockets⟩ := hc.newUdpClientLink localAddr remote bindError
    rw [connectSocket, Java.run_bind, hrun]
    cases bindError with
    | some msg => exact ⟨.ioException msg, w₁, rfl, hsockets⟩
    | none =>
      obtain ⟨w', hrun', hsockets'⟩ :=
        (linked_run hc' w.nextLink ok).2 (by simpa [failsLate] using h)
      exact ⟨.npe, w', hrun', hsockets'.trans hsockets⟩

/-- The port that `connect` asks for. -/
def requestedPort (conn : SctpConnection) (remote : InetSocketAddress) : Int :=
  if conn.localSctpPort = portNotInitialized then remote.getPort.toNat else conn.localSctpPort

/-- The builder of `connect` makes a channel, and so a socket. -/
def creates (conn : SctpConnection) (w : World) (mapper : Bool) (ptr : Ptr) : Bool :=
  conn.localAddr.isSome && conn.remote.any fun remote =>
    isInValidRange (conn.requestedPort remote) && !w.isUsedPort (conn.requestedPort remote) &&
      mapper && w.stack.initialized && ptr ≠ 0

variable {conn : SctpConnection} {mapper : Bool} {ptr : Ptr}

/-- A `connect` that makes no socket throws and leaves everything as it was. -/
theorem connect_refused (h : conn.creates w mapper ptr = false) (link : Option LinkId)
    (bindError : Option String) (ok : Bool) :
    ∃ e, (conn.connect link mapper bindError ptr ok).run w = (.error e, w) := by
  unfold connect
  cases hremote : conn.remote with
  | none => exact ⟨_, rfl⟩
  | some remote =>
    cases hlocal : conn.localAddr with
    | none => exact ⟨_, rfl⟩
    | some localAddr =>
      simp only [creates, hremote, hlocal, Option.isSome_some, Bool.true_and, Option.any_some]
        at h
      change ∃ e, (tryCatch (buildSocket remote (conn.requestedPort remote) mapper ptr) _ >>=
        _).run w = _
      rw [Java.run_bind, Java.run_tryCatch, buildSocket_run, SctpChannelBuilder.build_run]
      generalize (if (builder remote (conn.requestedPort remote) mapper).localSctpPort =
        portNotInitialized then (0 : Int) else _) = assigned
      split_ifs with hport hm hi hp
      · exact ⟨_, rfl⟩
      · exact ⟨_, rfl⟩
      · exact ⟨_, rfl⟩
      · have hm : mapper = true := by simpa [builder] using hm
        have hi : w.stack.initialized = true := by simpa using hi
        simp [hport.1, hport.2, hm, hi, hp] at h
      · exact ⟨_, rfl⟩

theorem connect_creates (hremote : conn.remote = some remote)
    (hlocal : conn.localAddr = some localAddr) (h : conn.creates w mapper ptr = true)
    (link : Option LinkId) (bindError : Option String) (ok : Bool) :
    (conn.connect link mapper bindError ptr ok).run w =
      (connectSocket localAddr remote w.nextChannel link bindError ok).run
        (w.withChannel (conn.requestedPort remote) (builtRemote remote) none true ptr) := by
  simp only [creates, hremote, hlocal, Option.isSome_some, Bool.true_and, Option.any_some,
    Bool.and_eq_true, Bool.not_eq_true', decide_eq_true_eq] at h
  obtain ⟨⟨⟨⟨hv, hu⟩, rfl⟩, hi⟩, hp⟩ := h
  have hne : (builder remote (conn.requestedPort remote) true).localSctpPort ≠
      portNotInitialized := by
    intro h
    rw [show conn.requestedPort remote = portNotInitialized from h] at hv
    cases hv
  have hbuild : (buildSocket remote (conn.requestedPort remote) true ptr).run w =
      (.ok (some w.nextChannel),
        w.withChannel (conn.requestedPort remote) (builtRemote remote) none true ptr) := by
    rw [buildSocket_run, if_pos ⟨hv, hu⟩, SctpChannelBuilder.build_run, if_neg (by simp [builder]),
      if_neg (by simp [hi]), if_neg hp, if_neg hne, builder_remote]
    rfl
  unfold connect
  rw [hremote, hlocal]
  dsimp only
  rw [Java.run_bind, Java.run_tryCatch, ← requestedPort, hbuild]

/-- **The sockets after a failed `connect`.** Whenever `connect` throws, the sockets are those of
before, except in the calls that have made a channel and then find that its link cannot be made or
that its remote has no address: the new socket then stays in `Sctp.sockets`. -/
theorem leaks_none_iff (conn : SctpConnection) (w : World) (link : Option LinkId) (mapper : Bool)
    (bindError : Option String) (ptr : Ptr) (hptr : w.allocates ptr = true) (ok : Bool) :
    (∀ e w', (conn.connect link mapper bindError ptr ok).run w = (.error e, w') →
        w'.stack.sockets = w.stack.sockets) ↔
      (conn.creates w mapper ptr = true → ∀ remote, conn.remote = some remote →
        failsLate remote link bindError = false) := by
  cases hcreates : conn.creates w mapper ptr with
  | false =>
    obtain ⟨e, hrun⟩ := connect_refused hcreates link bindError ok
    refine ⟨fun _ h => (by cases h), fun _ e' w' h => ?_⟩
    rw [hrun] at h
    cases h
    rfl
  | true =>
    obtain ⟨hlocal, hremote⟩ := Bool.and_eq_true_iff.mp hcreates
    obtain ⟨localAddr, hlocal⟩ := Option.isSome_iff_exists.mp hlocal
    obtain ⟨remote, hremote, hall⟩ := (Option.any_eq_true ..).mp hremote
    obtain ⟨hall, hp⟩ := Bool.and_eq_true_iff.mp hall
    have hc : (w.withChannel (conn.requestedPort remote) (builtRemote remote) none true
        ptr).Connectable w.nextChannel :=
      connectable_withChannel (Bool.and_eq_true_iff.mp hall).2 _ _ _ _
    rw [connect_creates hremote hlocal hcreates]
    cases hlate : failsLate remote link bindError with
    | false =>
      have hok := connectSocket_ok hc hlate localAddr ok
      refine ⟨fun _ _ r hr => ?_, fun _ e w' h => ?_⟩
      · rw [hremote] at hr
        cases hr
        exact hlate
      · rw [h] at hok
        cases hok
    | true =>
      obtain ⟨e, w', hrun, hsockets⟩ := connectSocket_error hc hlate localAddr ok
      refine ⟨fun h _ => ?_, fun h => ?_⟩
      · -- the pointer of the new socket was not in use
        have hnew : w'.stack.sockets.containsKey ptr = true := by
          rw [hsockets]
          simp [withChannel, Stack.withSocket, ConcurrentHashMap.containsKey_put, equals_refl]
        have hptr : w.stack.sockets.containsKey ptr = false := by
          simpa [allocates, of_decide_eq_true hp] using hptr
        rw [h e w' hrun, hptr] at hnew
        cases hnew
      · have := h rfl remote hremote
        rw [hlate] at this
        cases this

/-- A connection from port 5000 of this host to `peer`. -/
def toPeer : SctpConnection where
  localAddr := some (.resolved (.inet4 0x0a000001#32) 5000)
  remote := some peer

/-- A `connect` before the stack is initialised leaves no socket behind. -/
theorem leaks_none_uninitialized :
    ((toPeer.connect none true none 7 true).run empty).1 = .error (.sctpInitException
      "Sctp is currently not initialized! Try init with SctpUtils.init(...)") ∧
    ∀ e w', (toPeer.connect none true none 7 true).run empty = (.error e, w') →
      w'.stack.sockets = empty.stack.sockets :=
  ⟨by decide +kernel, (leaks_none_iff toPeer empty none true none 7 (by decide) true).mpr
    fun h => absurd h (by decide)⟩

/-- When the UDP socket cannot be bound, the new socket stays. -/
theorem bind_failure_leaks :
    let w := { empty with stack := { Stack.empty with initialized := true } }
    let after := (toPeer.connect none true (some "Address already in use") 7 true).run w
    w.allocates 7 = true ∧ after.1 = .error (.ioException "Address already in use") ∧
      w.stack.sockets.containsKey 7 = false ∧ after.2.stack.sockets.containsKey 7 = true ∧
      after.2.stack.sockets ≠ w.stack.sockets :=
  ⟨by decide, by decide +kernel, by decide, by decide +kernel, fun h =>
    absurd (congrArg (ConcurrentHashMap.containsKey · 7) h) (by decide +kernel)⟩

end SctpConnection

end Sctp4Nat
