import Sctp4Nat.Connection.Effect

/-! # Live channels and the mapper

`locate(SctpSocket)` searches the values of a map whose keys are remote addresses, so a channel
is found as long as one of its entries is there. A registration for an address that another
channel has, and the clean-up of a failed `connect`, take that entry away. In the runs where no
step takes the last entry of an open channel every registered open channel is found from its
socket, and is what the data callback gets; the first other step loses one. -/

namespace Sctp4Nat.World

variable {w w' : World} {op : Op} {c : ChanId}

/-- `Sctp.MSG_NOTIFICATION`. -/
def msgNotification : UInt32 := 0x2000

/-- What `Sctp.onSctpInboundPacket` ends in. -/
inductive Inbound
  | noSocket
  | notification (so : SockId)
  /-- The data callback of the socket is called with the channel, or with `null`. -/
  | data (so : SockId) (facade : Option ChanId)
  deriving DecidableEq, Repr

/-- `SctpMapper.locate(SctpSocket)`. -/
def locateSocket (w : World) (it : Iteration (InetSocketAddress × ChanId)) (so : SockId) :
    Option ChanId :=
  w.mapper.locateSocket (fun c => (w.channel c).so) it so

/-- `Sctp.onSctpInboundPacket`, up to the listener or the data callback. -/
def onSctpInboundPacket (w : World) (it : Iteration (InetSocketAddress × ChanId))
    (socketAddr : Ptr) (flags : UInt32) : Inbound :=
  match w.stack.sockets.get socketAddr with
  | none => .noSocket
  | some socket =>
    let so := w.locateSocket it socket
    if flags &&& msgNotification ≠ 0 then .notification socket else .data socket so

/-- The step takes no last entry of an open channel away, and the mapper is not shut down. -/
def keepingStep (w : World) (op : Op) : Bool := (w.action op).all w.directory.keeping

theorem complete_of_keeping
    (h : (program.restrict fun w op => w.keepingStep op = true).Reachable w) :
    w.mapper.isShutdown = false ∧ w.directory.Complete := by
  refine invariant_of_restrict (P := fun w => w.mapper.isShutdown = false ∧ w.directory.Complete)
    ⟨rfl, fun _ hc => absurd hc List.not_mem_nil⟩ (fun w op w' hwf hw hop _ he => ?_) h
  obtain ⟨hsh, hc⟩ := hw
  have hsh' : w'.mapper.isShutdown = w'.directory.mapper.isShutdown := rfl
  rw [hsh', he.directory]
  cases ha : w.action op with
  | none => exact ⟨hsh, hc⟩
  | some a =>
    rw [keepingStep, ha] at hop
    exact ⟨Directory.isShutdown_apply hsh hop, hc.apply hsh hwf.listed hop⟩

/-- A channel in the map is found from its socket. -/
theorem locateSocket_eq (hwf : WF w) (hsh : w.mapper.isShutdown = false)
    (hc : c ∈ w.mapper.socketMap.values) (it : Iteration (InetSocketAddress × ChanId)) :
    w.locateSocket it (w.channel c).so = some c :=
  SctpMapper.locateSocket_of_mem_values it hsh hc fun c' hc' hso =>
    hwf.so_inj c' (hwf.value_lt hc') c (hwf.value_lt hc) hso

/-- A step that registers or unregisters keeps the directory complete only if it takes no last
entry away. -/
theorem lost_of_not_keeping (hwf : WF w) (hsh : w.mapper.isShutdown = false)
    (hcomplete : w.directory.Complete) (hs : exec w op = some w') {remote : InetSocketAddress}
    (ha : (∃ c, w.action op = some (.register remote c)) ∨
      w.action op = some (.unregister remote)) (hop : w.keepingStep op = false) :
    ∃ c ∈ w'.registered, c ∉ w'.closed ∧ ∀ it, w'.locateSocket it (w'.channel c).so ≠ some c := by
  have he := exec_effect hwf.balanced hs
  have hnot : ¬ w'.directory.Complete := by
    rw [he.directory]
    rcases ha with ⟨c, ha⟩ | ha
    · rw [ha]
      refine fun h => Bool.false_ne_true ?_
      rw [← hop, keepingStep, ha]
      exact (hcomplete.register_iff hsh hwf.listed).mp h
    · rw [ha]
      refine fun h => Bool.false_ne_true ?_
      rw [← hop, keepingStep, ha]
      exact (hcomplete.unregister_iff hsh hwf.listed).mp h
  simp only [Directory.Complete, not_forall] at hnot
  obtain ⟨c, hreg, hopen, hnot⟩ := hnot
  exact ⟨c, hreg, hopen, fun it hloc =>
    hnot (SctpMapper.mem_values_of_locateSocket hloc).1⟩

/-- **Every live channel is found from its socket.** In every run in which no step takes the last
entry of an open channel away, a channel that was registered and is not closed is found from its
socket, and the data callback of the socket gets it. The first registration or unregistration
that does take such an entry away loses a channel at once. -/
theorem live_channel_found_iff :
    ∀ w : World, (program.restrict fun w op => w.keepingStep op = true).Reachable w →
      (∀ c ∈ w.registered, c ∉ w.closed → ∀ it,
        w.locateSocket it (w.channel c).so = some c ∧
        ∀ socketAddr flags, w.stack.sockets.get socketAddr = some (w.channel c).so →
          flags &&& msgNotification = 0 →
          w.onSctpInboundPacket it socketAddr flags = .data (w.channel c).so (some c)) ∧
      (∀ op w', exec w op = some w' → ∀ remote,
        ((∃ c, w.action op = some (.register remote c)) ∨
          w.action op = some (.unregister remote)) → w.keepingStep op = false →
        ∃ c ∈ w'.registered, c ∉ w'.closed ∧
          ∀ it, w'.locateSocket it (w'.channel c).so ≠ some c) := by
  intro w hw
  have hwf := wf_reachable hw.of_restrict
  obtain ⟨hsh, hcomplete⟩ := complete_of_keeping hw
  refine ⟨fun c hc hopen it => ?_, fun op w' hs remote ha hop => ?_⟩
  · have hloc := locateSocket_eq hwf hsh (hcomplete c hc hopen) it
    refine ⟨hloc, fun socketAddr flags hso hflags => ?_⟩
    simp [onSctpInboundPacket, hso, hflags, hloc]
  · exact lost_of_not_keeping hwf hsh hcomplete hs ha hop

/-- Two channels are made, and connect to two remotes. -/
def twoChannels (remote : InetSocketAddress) : List Op :=
  [.setInitialized true, .newChannel 2000 (some samplePeer) none true 16,
    .newChannel 2001 (some remote) none true 32, .connectRegister 0 samplePeer,
    .connectRegister 1 remote]

/-- Two channels that connect to different ports of a host are both found. -/
theorem two_ports_both_found : ∃ w,
    (program.restrict fun w op => w.keepingStep op = true).Reachable w ∧
      w.locateSocket .id (w.channel 0).so = some 0 ∧
      w.locateSocket .id (w.channel 1).so = some 1 := by
  obtain ⟨w, hw, h0, h1, hc⟩ := Machine.Reachable.exists_run
    (M := program.restrict fun w op => w.keepingStep op = true) (.init rfl)
    (P := fun w => 0 ∈ w.registered ∧ 1 ∈ w.registered ∧ w.closed = [])
    (twoChannels (.resolved (.inet4 0x0A000007#32) 5001)) (by decide +kernel)
  have hfound := (live_channel_found_iff w hw).1
  exact ⟨w, hw, (hfound 0 h0 (by simp [hc]) .id).1, (hfound 1 h1 (by simp [hc]) .id).1⟩

/-- Two channels connect to the same remote: the second takes the entry of the first, which is
registered and open and is not found any more. -/
theorem second_connect_loses_first : ∃ w, program.Reachable w ∧ w.mapper.isShutdown = false ∧
    0 ∈ w.registered ∧ 0 ∉ w.closed ∧ w.locateSocket .id (w.channel 0).so ≠ some 0 ∧
    w.onSctpInboundPacket .id 16 0 = .data (w.channel 0).so none :=
  Machine.Reachable.exists_run (M := program) (.init rfl)
    (P := fun w => w.mapper.isShutdown = false ∧ 0 ∈ w.registered ∧ 0 ∉ w.closed ∧
      w.locateSocket .id (w.channel 0).so ≠ some 0 ∧
      w.onSctpInboundPacket .id 16 0 = .data (w.channel 0).so none)
    (twoChannels samplePeer) (by decide +kernel)

end Sctp4Nat.World
