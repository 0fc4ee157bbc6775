import Sctp4Nat.Connection.MapperKeys

/-! # Outbound packets

usrsctp hands a packet to `Sctp.onSctpOutboundPacket` with the pointer of a socket. The packet goes
to the link of that socket, which sends it over UDP: a server link to the remote of the channel
that `SctpMapper.locate(SctpSocket)` finds, a client link to its own remote. The callback is to
return `0` for a packet that was sent and `-1` for any other. It catches an `IOException`, and then
names the link in a log message; every other exception, and one from that message, goes on into
the native caller. -/

namespace Sctp4Nat

/-- The program and the UDP packets that its links have sent, the newest first. -/
structure Wire where
  world : World
  sent : List (InetSocketAddress × Bytes) := []

namespace World

def onWorld {α : Type} (m : Java World α) : Java Wire α :=
  Java.zoom Wire.world (fun world wire => { wire with world }) m

/-- `udpSocket.send`; `sendError` is the message of an `IOException` of an open socket. -/
def udpSend (l : LinkId) (remote : InetSocketAddress) (data : Bytes) (sendError : Option String) :
    Java Wire Unit := do
  let wire ← get
  match (wire.world.link l).udpSocket with
  | .null => throw .npe
  | .closed => throw (.ioException "Socket is closed")
  | .opened =>
    match sendError with
    | some msg => throw (.ioException msg)
    | none => set { wire with sent := (remote, data) :: wire.sent }

/-- `UdpClientLink.onConnOut`, which does not use the channel. -/
def clientOnConnOut (l : LinkId) (remote : InetSocketAddress) (data : Bytes)
    (sendError : Option String) : Java Wire Unit := do
  let wire ← get
  let localAddr ← Java.deref (wire.world.link l).localAddr
  let _ ← Java.deref localAddr.getAddress
  let _ ← Java.deref remote.getAddress
  udpSend l remote data sendError

/-- `onConnOut` of a link. -/
def onConnOut (l : LinkId) (facade : Option ChanId) (data : Bytes) (sendError : Option String) :
    Java Wire Unit := do
  let wire ← get
  match (wire.world.link l).kind with
  | .server .. =>
    let remote ← onWorld (serverOnConnOut l facade)
    udpSend l remote data sendError
  | .client remote _ => clientOnConnOut l remote data sendError

/-- What `toString` of a link dereferences. A server link asks its UDP socket for the local
address, which is `null` when the socket is closed. -/
def linkToString (l : LinkId) : Java Wire Unit := do
  let wire ← get
  match (wire.world.link l).kind with
  | .server .. => if (wire.world.link l).udpClosed then throw .npe
  | .client remote _ =>
    let localAddr ← Java.deref (wire.world.link l).localAddr
    let _ ← Java.deref localAddr.getAddress
    let _ ← Java.deref remote.getAddress

/-- The `try` statement of `onSctpOut`. -/
def sendThrough (l : LinkId) (facade : Option ChanId) (packet : Bytes)
    (sendError : Option String) : Java Wire Int32 :=
  tryCatch (do onConnOut l facade packet sendError; pure 0) fun
    | .ioException _ => do linkToString l; pure (-1)
    | e => throw e

/-- `SctpSocket.onSctpOut`. -/
def onSctpOut (so : SockId) (it : Iteration (InetSocketAddress × ChanId)) (packet : Bytes)
    (sendError : Option String) : Java Wire Int32 := do
  let wire ← get
  match wire.world.stack.link so with
  | none => pure (-1)
  | some l =>
    let facade := wire.world.mapper.locateSocket (fun c => (wire.world.channel c).so) it so
    sendThrough l facade packet sendError

def onSctpOutboundPacket (ptr : Ptr) (it : Iteration (InetSocketAddress × ChanId))
    (packet : Bytes) (sendError : Option String) : Java Wire Int32 := do
  let wire ← get
  match wire.world.stack.sockets.get ptr with
  | none => pure (-1)
  | some so => onSctpOut so it packet sendError

/-! ## What is reported -/

/-- The packet was sent to the remote of the channel that has the socket. -/
def SentToRemote (w : World) (ptr : Ptr) (packet : Bytes)
    (sent : List (InetSocketAddress × Bytes)) : Prop :=
  ∃ so c remote, w.stack.sockets.get ptr = some so ∧ c < w.nextChannel ∧ (w.channel c).so = so ∧
    (w.channel c).remote = some remote ∧ (remote, packet) ∈ sent

/-- The callback has returned, and its result tells whether the packet was sent. -/
def Reported (w : World) (ptr : Ptr) (packet : Bytes) (r : Except Throwable Int32 × Wire) : Prop :=
  ∃ n, r.1 = .ok n ∧ (n = 0 ∧ SentToRemote w ptr packet r.2.sent ∨
    n = -1 ∧ ¬ SentToRemote w ptr packet r.2.sent)

/-- A server link can send for a channel that the mapper finds and whose remote has an address, and
it can only name itself while its UDP socket is open. A client link needs its own addresses and a
UDP socket, and an open one sends to the right address when the channel has that remote. -/
def LinkReports (w : World) (so : SockId) (l : LinkId) : Prop :=
  match (w.link l).kind with
  | .server .. => w.mapper.isShutdown = false ∧ (w.link l).udpSocket = .opened ∧
    ∃ c ∈ w.mapper.socketMap.values, (w.channel c).so = so ∧
      (w.channel c).remote.any (·.getAddress.isSome) = true
  | .client remote _ => (w.link l).localAddr.any (·.getAddress.isSome) = true ∧
    remote.getAddress.isSome = true ∧ (w.link l).udpSocket ≠ .null ∧
    ((w.link l).udpSocket = .opened → ∃ c < w.nextChannel, (w.channel c).so = so ∧
      (w.channel c).remote = some remote)

variable {w : World} {ptr : Ptr} {packet : Bytes} {so : SockId} {l : LinkId}

theorem not_sentToRemote_nil : ¬ SentToRemote w ptr packet [] := by
  rintro ⟨_, _, _, _, _, _, _, hmem⟩
  exact List.not_mem_nil hmem

/-- The address that a server link sends to. -/
def destination (w : World) (facade : Option ChanId) : Option InetSocketAddress :=
  facade.bind fun c => (w.channel c).remote.filter (·.getAddress.isSome)

theorem destination_eq_some {facade : Option ChanId} {remote : InetSocketAddress} :
    w.destination facade = some remote ↔
      ∃ c, facade = some c ∧ (w.channel c).remote = some remote ∧
        remote.getAddress.isSome = true := by
  simp [destination, Option.bind_eq_some_iff, Option.filter_eq_some_iff]

/-- Without such an address `onConnOut` of a server link throws before it comes to the UDP
socket. -/
theorem serverOnConnOut_npe {facade : Option ChanId} (h : w.destination facade = none) :
    (serverOnConnOut l facade).run w = (.error .npe, w) := by
  cases facade with
  | none => rfl
  | some c =>
    cases hr : (w.channel c).remote with
    | none => simp [serverOnConnOut, Java.run_bind, hr]
    | some remote =>
      have ha : remote.getAddress = none := by simpa [destination, hr] using h
      simp [serverOnConnOut, Java.run_bind, hr, ha]

theorem sendThrough_server {port : UInt16} {mapper : Bool}
    (hk : (w.link l).kind = .server port mapper) (facade : Option ChanId) (packet : Bytes)
    (sendError : Option String) :
    (sendThrough l facade packet sendError).run { world := w } =
      match w.destination facade, (w.link l).udpSocket, sendError with
      | some remote, .opened, none => (.ok 0, { world := w, sent := [(remote, packet)] })
      | some _, .opened, some _ => (.ok (-1), { world := w })
      | _, _, _ => (.error .npe, { world := w }) := by
  cases hd : w.destination facade with
  | none =>
    simp [sendThrough, Java.run_tryCatch, Java.run_bind, onConnOut, hk, onWorld, Java.run_zoom,
      serverOnConnOut_npe hd, Throwable.npe]
  | some remote =>
    obtain ⟨c, rfl, hr, ha⟩ := destination_eq_some.mp hd
    have hout := serverOnConnOut_run hr ha l
    cases hu : (w.link l).udpSocket <;> cases sendError <;>
      simp [sendThrough, Java.run_tryCatch, Java.run_bind, onConnOut, linkToString, udpSend, hk,
        onWorld, Java.run_zoom, hout, Link.udpClosed, hu, Throwable.npe]

theorem sendThrough_client {remote : InetSocketAddress} {c₀ : ChanId}
    (hk : (w.link l).kind = .client remote c₀) (facade : Option ChanId) (packet : Bytes)
    (sendError : Option String) :
    (sendThrough l facade packet sendError).run { world := w } =
      if (w.link l).localAddr.any (·.getAddress.isSome) = true ∧
          remote.getAddress.isSome = true then
        match (w.link l).udpSocket, sendError with
        | .opened, none => (.ok 0, { world := w, sent := [(remote, packet)] })
        | .null, _ => (.error .npe, { world := w })
        | _, _ => (.ok (-1), { world := w })
      else (.error .npe, { world := w }) := by
  cases hl : (w.link l).localAddr with
  | none =>
    simp [sendThrough, Java.run_tryCatch, Java.run_bind, onConnOut, clientOnConnOut, hk, hl,
      Throwable.npe]
  | some localAddr =>
    cases hla : localAddr.getAddress with
    | none =>
      simp [sendThrough, Java.run_tryCatch, Java.run_bind, onConnOut, clientOnConnOut, hk, hl, hla,
        Throwable.npe]
    | some _ =>
      cases hra : remote.getAddress with
      | none =>
        simp [sendThrough, Java.run_tryCatch, Java.run_bind, onConnOut, clientOnConnOut, hk, hl,
          hla, hra, Throwable.npe]
      | some _ =>
        cases hu : (w.link l).udpSocket <;> cases sendError <;>
          simp [sendThrough, Java.run_tryCatch, Java.run_bind, onConnOut, clientOnConnOut,
            linkToString, udpSend, hk, hl, hla, hra, hu, Throwable.npe]

/-- Nothing was sent, and the callback says so. -/
theorem reported_unsent : Reported w ptr packet (.ok (-1), { world := w }) :=
  ⟨-1, rfl, .inr ⟨rfl, not_sentToRemote_nil⟩⟩

theorem not_reported_error {e : Throwable} {wire : Wire} :
    ¬ Reported w ptr packet (.error e, wire) := by
  rintro ⟨n, hn, _⟩
  cases hn

/-- A packet that was sent is reported when it went to the remote of the channel. -/
theorem reported_sent_iff (hso : w.stack.sockets.get ptr = some so) {remote : InetSocketAddress} :
    Reported w ptr packet (.ok 0, { world := w, sent := [(remote, packet)] }) ↔
      ∃ c < w.nextChannel, (w.channel c).so = so ∧ (w.channel c).remote = some remote := by
  have hsent : SentToRemote w ptr packet [(remote, packet)] ↔
      ∃ c < w.nextChannel, (w.channel c).so = so ∧ (w.channel c).remote = some remote := by
    simp only [SentToRemote, hso, List.mem_singleton, Prod.mk.injEq, and_true]
    constructor
    · rintro ⟨_, c, _, hs, hc, hcs, hr, rfl⟩
      cases hs
      exact ⟨c, hc, hcs, hr⟩
    · rintro ⟨c, hc, hcs, hr⟩
      exact ⟨so, c, remote, rfl, hc, hcs, hr, rfl⟩
  rw [← hsent]
  constructor
  · rintro ⟨n, hn, ⟨_, h⟩ | ⟨rfl, _⟩⟩
    · exact h
    · cases hn
  · exact fun h => ⟨0, rfl, .inl ⟨rfl, h⟩⟩

theorem server_reports (hwf : WF w) (hso : w.stack.sockets.get ptr = some so) {port : UInt16}
    {mapper : Bool} (hk : (w.link l).kind = .server port mapper) :
    (∀ it packet sendError, Reported w ptr packet ((sendThrough l
        (w.mapper.locateSocket (fun c => (w.channel c).so) it so) packet sendError).run
          { world := w })) ↔ w.LinkReports so l := by
  simp only [LinkReports, hk]
  constructor
  · intro h
    have h := h .id [] none
    rw [sendThrough_server hk] at h
    split at h
    · rename_i remote hd hu _
      obtain ⟨c, hloc, hr, ha⟩ := destination_eq_some.mp hd
      obtain ⟨hmem, hcs⟩ := SctpMapper.mem_values_of_locateSocket hloc
      have hs : w.mapper.isShutdown = false := by
        cases hs : w.mapper.isShutdown with
        | false => rfl
        | true => simp [SctpMapper.locateSocket, hs] at hloc
      exact ⟨hs, hu, c, hmem, hcs, by simp [hr, ha]⟩
    · rename_i hnone
      cases hnone
    · exact absurd h not_reported_error
  · rintro ⟨hs, hu, c, hmem, rfl, hr⟩ it packet sendError
    obtain ⟨remote, hr, ha⟩ := (Option.any_eq_true ..).mp hr
    have hloc : w.mapper.locateSocket (fun c => (w.channel c).so) it (w.channel c).so = some c :=
      SctpMapper.locateSocket_of_mem_values it hs hmem fun c' hmem' hcs =>
        hwf.so_inj c' (hwf.value_lt hmem') c (hwf.value_lt hmem) hcs
    have hd : w.destination (some c) = some remote :=
      destination_eq_some.mpr ⟨c, rfl, hr, ha⟩
    rw [sendThrough_server hk, hloc, hd, hu]
    cases sendError with
    | none => exact (reported_sent_iff hso).mpr ⟨c, hwf.value_lt hmem, rfl, hr⟩
    | some _ => exact reported_unsent

theorem client_reports (hso : w.stack.sockets.get ptr = some so) {remote : InetSocketAddress}
    {c₀ : ChanId} (hk : (w.link l).kind = .client remote c₀) :
    (∀ it packet sendError, Reported w ptr packet ((sendThrough l
        (w.mapper.locateSocket (fun c => (w.channel c).so) it so) packet sendError).run
          { world := w })) ↔ w.LinkReports so l := by
  simp only [LinkReports, hk, sendThrough_client hk]
  by_cases hok : (w.link l).localAddr.any (·.getAddress.isSome) = true ∧
      remote.getAddress.isSome = true
  · simp only [hok.1, hok.2, true_and]
    cases hu : (w.link l).udpSocket with
    | null =>
      refine ⟨fun h => absurd (h .id [] none) not_reported_error, fun h => absurd rfl h.1⟩
    | closed =>
      exact ⟨fun _ => ⟨nofun, nofun⟩, fun _ _ _ _ => reported_unsent⟩
    | opened =>
      refine ⟨fun h => ⟨nofun, fun _ => (reported_sent_iff hso).mp (h .id [] none)⟩, ?_⟩
      rintro ⟨_, howner⟩ it packet sendError
      cases sendError with
      | none => exact (reported_sent_iff hso).mpr (howner rfl)
      | some _ => exact reported_unsent
  · simp only [if_neg hok]
    refine ⟨fun h => absurd (h .id [] none) not_reported_error, fun h => ?_⟩
    exact absurd ⟨h.1, h.2.1⟩ hok

/-- **Outbound packets are sent or reported.** In every reachable state the callback returns for
every packet, with `0` when the link has sent the packet to the remote of the channel and with `-1`
otherwise, exactly when the socket has no link or one that can report. In particular a server link
makes it throw for every socket while the mapper is shutting down, for a channel that is not in the
map, and once its UDP socket is closed. -/
theorem reported_iff (hw : program.Reachable w) (ptr : Ptr) :
    (∀ it packet sendError, Reported w ptr packet
        ((onSctpOutboundPacket ptr it packet sendError).run { world := w })) ↔
      ∀ so l, w.stack.sockets.get ptr = some so → w.stack.link so = some l →
        w.LinkReports so l := by
  cases hso : w.stack.sockets.get ptr with
  | none =>
    refine ⟨fun _ _ _ h => (by cases h), fun _ it packet sendError => ?_⟩
    simp only [onSctpOutboundPacket, Java.run_bind, Java.run_get, hso]
    exact reported_unsent
  | some so =>
    cases hl : w.stack.link so with
    | none =>
      refine ⟨fun _ so' l h hl' => ?_, fun _ it packet sendError => ?_⟩
      · cases h
        rw [hl] at hl'
        cases hl'
      · simp only [onSctpOutboundPacket, onSctpOut, Java.run_bind, Java.run_get, hso, hl]
        exact reported_unsent
    | some l =>
      have hrun : ∀ it packet sendError,
          (onSctpOutboundPacket ptr it packet sendError).run { world := w } =
            (sendThrough l (w.mapper.locateSocket (fun c => (w.channel c).so) it so) packet
              sendError).run { world := w } := by
        intro it packet sendError
        simp only [onSctpOutboundPacket, onSctpOut, Java.run_bind, Java.run_get, hso, hl]
      simp only [hrun]
      have hreports : (∀ it packet sendError, Reported w ptr packet ((sendThrough l
          (w.mapper.locateSocket (fun c => (w.channel c).so) it so) packet sendError).run
            { world := w })) ↔ w.LinkReports so l := by
        cases hk : (w.link l).kind with
        | server port mapper => exact server_reports (wf_reachable hw) hso hk
        | client remote c₀ => exact client_reports hso hk
      rw [hreports]
      refine ⟨fun h so' l' hs hl' => ?_, fun h => h so l rfl hl⟩
      cases hs
      rw [hl] at hl'
      cases hl'
      exact h

/-- A channel on a server link, registered for its remote. -/
def onServerLink : List Op :=
  [.setInitialized true, .newServerLink 9899 true,
    .newChannel 9899 (some samplePeer) (some 0) true 16, .register samplePeer 0]

theorem server_link_reports : ∃ w, program.Reachable w ∧ ∀ it packet sendError,
    Reported w 16 packet ((onSctpOutboundPacket 16 it packet sendError).run { world := w }) := by
  obtain ⟨w, hw, hso, hl, hk, hs, hu, hmem, hcs, hr⟩ :=
    Machine.Reachable.exists_run (M := program) (.init rfl)
      (P := fun w => w.stack.sockets.get 16 = some 0 ∧ w.stack.link 0 = some 0 ∧
        (w.link 0).kind = .server 9899 true ∧ w.mapper.isShutdown = false ∧
        (w.link 0).udpSocket = .opened ∧ 0 ∈ w.mapper.socketMap.values ∧ (w.channel 0).so = 0 ∧
        (w.channel 0).remote.any (·.getAddress.isSome) = true) onServerLink (by decide +kernel)
  refine ⟨w, hw, (reported_iff hw 16).mpr fun so l hso' hl' => ?_⟩
  rw [hso] at hso'
  cases hso'
  rw [hl] at hl'
  cases hl'
  rw [LinkReports, hk]
  exact ⟨hs, hu, 0, hmem, hcs, hr⟩

/-- While the mapper is shutting down, the callback throws into its native caller. -/
theorem shutting_down_throws : ∃ w, program.Reachable w ∧
    w.stack.sockets.get 16 = some 0 ∧ w.mapper.isShutdown = true ∧
    ((onSctpOutboundPacket 16 .id [1, 2, 3] none).run { world := w }).1 = .error .npe :=
  Machine.Reachable.exists_run (M := program) (.init rfl) (onServerLink ++ [.setShutdown true])
    (by decide +kernel)

end World

end Sctp4Nat
