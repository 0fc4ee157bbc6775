import Sctp4Nat.Connection.Effect
import Sctp4Nat.Machine.Demux

/-! # Demultiplexing in a server's loop

The receive loop of a server finds the channel of a datagram by the text of its source, and
registers the channel it makes under the source itself. On IPv4 addresses the two agree, so the
mapper with the channels behaves as a demultiplexer, with the sources for keys and the channels for
handlers. -/

namespace Sctp4Nat

/-- A datagram that is not empty, from an IPv4 source, with the order in which `locate` visits the
entries and the native socket that usrsctp has if one is made. -/
structure Arrival where
  it : Iteration (InetSocketAddress × ChanId)
  address : BitVec 32
  port : UInt16
  data : Bytes
  size : data.length ≤ udpDefaultBufferSize
  nonempty : 0 < data.length
  ptr : Ptr
  ptr_ne : ptr ≠ 0

namespace Arrival

def datagram (a : Arrival) : Datagram := ⟨.inet4 a.address, a.port, a.data, a.size⟩

def source (a : Arrival) : InetSocketAddress := .resolved (.inet4 a.address) a.port

theorem equals_source_iff (a : Arrival) {k : InetSocketAddress} :
    equals a.source k = true ↔ k = a.source :=
  InetSocketAddress.equals_inet4_iff

/-- The datagram arrives at the link `l`. -/
def op (l : LinkId) (a : Arrival) : World.Op := .serverDatagram l a.it a.datagram a.ptr

end Arrival

namespace World

/-- An open server link on an initialised stack, with a mapper that is in use and has IPv4
addresses only, and a local port that is not marked as used. -/
structure Serving (w : World) (l : LinkId) (localPort : UInt16) : Prop where
  reachable : program.Reachable w
  listens : w.listens l = true
  kind : (w.link l).kind = .server localPort true
  isShutdown : w.mapper.isShutdown = false
  initialized : w.stack.initialized = true
  unused : w.isUsedPort localPort.toNat = false
  inet4 : ∀ e ∈ w.mapper.socketMap.entries, e.1.isInet4 = true

/-- The native sockets of the arrivals are not in use. -/
structure Allocated (w : World) (arrivals : List Arrival) : Prop where
  distinct : (arrivals.map Arrival.ptr).Nodup
  unused : ∀ a ∈ arrivals, w.stack.sockets.containsKey a.ptr = false

/-- The mapper, the channels and the calls of `onConnIn` as a demultiplexer. -/
def demux (hw : WF w) : Demux InetSocketAddress Bytes where
  owner := w.mapper.socketMap.get
  next := w.nextChannel
  calls := w.delivered
  owner_lt _ _ hk := hw.value_lt (ConcurrentHashMap.mem_values_iff.mpr (.inl hk))

/-- The world after an arrival. -/
def served (w : World) (l : LinkId) (localPort : UInt16) (a : Arrival) : World :=
  match w.mapper.socketMap.get a.source with
  | some c => w.withDatagram c a.datagram Datagram.newBuffer
  | none => ((w.withServerChannel l localPort a.datagram a.ptr).withRegistration a.source
      w.nextChannel).withDatagram w.nextChannel a.datagram Datagram.newBuffer

variable {w : World} {l : LinkId} {localPort : UInt16} {a : Arrival}

/-! ## One arrival -/

theorem Serving.wf (h : Serving w l localPort) : WF w := wf_reachable h.reachable

/-- The iteration returns, with or without a new channel. -/
theorem Serving.iteration_run (h : Serving w l localPort) (a : Arrival) :
    (serverIteration l localPort true a.it a.datagram a.ptr).run w =
      (.ok (), w.served l localPort a) := by
  have hb := h.wf.balanced
  have hloc : w.mapper.locate a.it a.datagram.address.getHostAddress a.datagram.port =
      .ok (w.mapper.socketMap.get a.source) := SctpMapper.locate_inet4 h.isShutdown h.inet4 a.it
  cases hget : w.mapper.socketMap.get a.source with
  | some c =>
    rw [hget] at hloc
    rw [serverIteration_run hb, hloc, served, hget]
    exact onConnIn_datagram (hb _) Datagram.length_newBuffer a.datagram a.nonempty
  | none =>
    rw [hget] at hloc
    have hmakes : w.makesChannel localPort true a.it a.datagram a.ptr = true :=
      makesChannel_iff.mpr ⟨hloc, h.unused, rfl, h.initialized, a.ptr_ne⟩
    rw [serverIteration_makes hb hmakes, served, hget]
    exact onConnIn_datagram (balanced_withSocket hb localPort.toNat (some l) a.ptr _)
      Datagram.length_newBuffer a.datagram a.nonempty

theorem Serving.exec_eq (h : Serving w l localPort)
    (hptr : w.stack.sockets.containsKey a.ptr = false) :
    program.exec w (a.op l) = some (w.served l localPort a) := by
  simp only [program, Arrival.op, exec, h.kind, h.listens, allocates, hptr, h.iteration_run]
  simp [afterIteration]

/-- A datagram that is handed to a channel leaves the sockets and the state of the stack alone. -/
theorem withDatagram_stack (w : World) (c : ChanId) (d : Datagram) (before : Bytes) :
    (w.withDatagram c d before).stack.initialized = w.stack.initialized ∧
      (w.withDatagram c d before).stack.sockets = w.stack.sockets := by
  simp only [withDatagram, withPacket]
  split <;> exact ⟨rfl, rfl⟩

theorem withDatagram_delivered (w : World) (c : ChanId) (d : Datagram) (before : Bytes) :
    (w.withDatagram c d before).delivered = (c, d.data) :: w.delivered := by
  simp only [withDatagram, withPacket, d.payload_buffer]

/-- The two cases of an arrival: a source with a channel, or without. -/
theorem served_cases (w : World) (l : LinkId) (localPort : UInt16) (a : Arrival) :
    (∃ c, w.mapper.socketMap.get a.source = some c ∧
      w.served l localPort a = w.withDatagram c a.datagram Datagram.newBuffer) ∨
    (w.mapper.socketMap.get a.source = none ∧ w.served l localPort a =
      ((w.withServerChannel l localPort a.datagram a.ptr).withRegistration a.source
        w.nextChannel).withDatagram w.nextChannel a.datagram Datagram.newBuffer) := by
  unfold served
  cases w.mapper.socketMap.get a.source with
  | some c => exact .inl ⟨c, rfl, rfl⟩
  | none => exact .inr ⟨rfl, rfl⟩

theorem Serving.step (h : Serving w l localPort)
    (hptr : w.stack.sockets.containsKey a.ptr = false) :
    Serving (w.served l localPort a) l localPort := by
  have hreach : program.Reachable (w.served l localPort a) := h.reachable.step (h.exec_eq hptr)
  obtain ⟨c, _, hs⟩ | ⟨_, hs⟩ := served_cases w l localPort a
  · rw [hs] at hreach ⊢
    exact ⟨hreach, h.listens, h.kind, h.isShutdown,
      (withDatagram_stack ..).1.trans h.initialized, h.unused, h.inet4⟩
  · rw [hs] at hreach ⊢
    refine ⟨hreach, h.listens, h.kind, (SctpMapper.register_isShutdown ..).trans h.isShutdown,
      (withDatagram_stack ..).1.trans h.initialized, h.unused, ?_⟩
    have hput := (ConcurrentHashMap.forall_mem_put (k := a.source) (v := w.nextChannel)
      (R := fun k _ => k.isInet4 = true) (fun k k' _ hk hk4 => ?_) h.inet4).mpr rfl
    · change ∀ e ∈ (w.mapper.register (some a.source) (some w.nextChannel)).socketMap.entries, _
      rw [SctpMapper.register_eq h.isShutdown]
      exact hput
    · rcases k with ⟨_ | _, _⟩ | _
      · rw [InetSocketAddress.equals_inet4_iff.mp hk]
        exact hk4
      · cases hk4
      · cases hk4

/-- An arrival feeds the demultiplexer. -/
theorem Serving.demux_served (h : Serving w l localPort) (hw : WF (w.served l localPort a)) :
    demux hw = (demux h.wf).feed a.source a.data := by
  obtain ⟨c, hget, hs⟩ | ⟨hget, hs⟩ := served_cases w l localPort a
  · have hfeed : (demux h.wf).feed a.source a.data = (demux h.wf).call c a.data := by
      have : (demux h.wf).owner a.source = some c := hget
      simp only [Demux.feed, this]
    rw [hfeed]
    refine Demux.ext ?_ ?_ ?_
    · simp only [demux, hs]
      rfl
    · simp only [demux, hs]
      rfl
    · simp only [demux, hs, withDatagram_delivered]
      rfl
  · have hfeed : (demux h.wf).feed a.source a.data =
        ((demux h.wf).make a.source).call w.nextChannel a.data := by
      have : (demux h.wf).owner a.source = none := hget
      simp only [Demux.feed, this]
      rfl
    rw [hfeed]
    refine Demux.ext ?_ ?_ ?_
    · funext k
      simp only [demux, hs]
      change (w.mapper.register (some a.source) (some w.nextChannel)).socketMap.get k =
        Function.update w.mapper.socketMap.get a.source (some w.nextChannel) k
      rw [SctpMapper.register_eq h.isShutdown, ConcurrentHashMap.get_put]
      rcases eq_or_ne k a.source with rfl | hk
      · rw [Function.update_self, if_pos (equals_refl _)]
      · rw [Function.update_of_ne hk, if_neg (mt a.equals_source_iff.mp hk)]
    · simp only [demux, hs]
      rfl
    · simp only [demux, hs, withDatagram_delivered]
      rfl

/-- The native sockets of later arrivals stay free. -/
theorem Allocated.served {arrivals : List Arrival} (h : Allocated w (a :: arrivals)) :
    Allocated (w.served l localPort a) arrivals := by
  have hnodup := List.nodup_cons.mp (List.map_cons ▸ h.distinct)
  refine ⟨hnodup.2, fun b hb => ?_⟩
  have hunused := h.unused b (List.mem_cons_of_mem _ hb)
  have hne : a.ptr ≠ b.ptr := fun he => hnodup.1 (he ▸ List.mem_map_of_mem hb)
  obtain ⟨c, _, hs⟩ | ⟨_, hs⟩ := served_cases w l localPort a
  · rw [hs, (withDatagram_stack ..).2]
    exact hunused
  · rw [hs, (withDatagram_stack ..).2]
    change (w.stack.sockets.put a.ptr w.stack.next).containsKey b.ptr = false
    rw [ConcurrentHashMap.containsKey_put, hunused, Bool.or_false]
    exact beq_eq_false_iff_ne.mpr hne

/-- The channels from the number `n` on are registered under their remotes only. -/
def NamedFrom (w : World) (n : ChanId) : Prop :=
  ∀ k c, n ≤ c → w.mapper.socketMap.get k = some c → (w.channel c).remote = some k

theorem NamedFrom.served (h : Serving w l localPort) (hnamed : w.NamedFrom n) :
    (w.served l localPort a).NamedFrom n := by
  obtain ⟨c, _, hs⟩ | ⟨hget, hs⟩ := served_cases w l localPort a
  · rw [hs]
    exact hnamed
  · rw [hs]
    intro k c hc hk
    change (w.mapper.register (some a.source) (some w.nextChannel)).socketMap.get k = some c at hk
    change (Function.update w.channel w.nextChannel _ c).remote = some k
    rw [SctpMapper.register_eq h.isShutdown, ConcurrentHashMap.get_put] at hk
    split at hk
    · rename_i he
      rw [a.equals_source_iff.mp he, ← Option.some.inj hk, Function.update_self]
      rfl
    · have hlt := h.wf.value_lt (ConcurrentHashMap.mem_values_iff.mpr (.inl hk))
      rw [Function.update_of_ne (Nat.ne_of_lt hlt)]
      exact hnamed k c hc hk

/-! ## Every sequence of arrivals -/

theorem Serving.run {arrivals : List Arrival} (h : Serving w l localPort)
    (ha : Allocated w arrivals) (hnamed : w.NamedFrom n) :
    ∃ w', program.run w (arrivals.map (Arrival.op l)) = some w' ∧
      ∃ h' : Serving w' l localPort, demux h'.wf =
        (demux h.wf).feedAll (arrivals.map fun a => (a.source, a.data)) ∧ w'.NamedFrom n := by
  induction arrivals generalizing w with
  | nil => exact ⟨w, rfl, h, rfl, hnamed⟩
  | cons a arrivals ih =>
    have hptr := ha.unused a List.mem_cons_self
    have h₁ : Serving (w.served l localPort a) l localPort := h.step hptr
    obtain ⟨w', hrun, h', hfeed, hnamed'⟩ := ih h₁ ha.served (.served h hnamed)
    refine ⟨w', ?_, h', ?_, hnamed'⟩
    · rw [List.map_cons, Machine.run_cons (h.exec_eq hptr)]
      exact hrun
    · rw [hfeed, h.demux_served]
      rfl

/-- **Server demultiplexing.** Whatever datagrams from IPv4 sources arrive at an open server link,
and however their sources are interleaved, the loop gets through them all, and what it does is what
the demultiplexer does: each datagram is passed to the one channel of its source, in the order of
arrival; a source without an entry gets one new channel, and there are no other new channels. A
new channel has the source it is registered under as its remote. -/
theorem server_demultiplexes (h : Serving w l localPort) (arrivals : List Arrival)
    (ha : Allocated w arrivals) :
    ∃ w', program.run w (arrivals.map (Arrival.op l)) = some w' ∧
      ∃ hw' : WF w', (demux h.wf).Routed (arrivals.map fun a => (a.source, a.data)) (demux hw') ∧
        ∀ k c, w.nextChannel ≤ c → w'.mapper.socketMap.get k = some c →
          (w'.channel c).remote = some k := by
  have hnamed : w.NamedFrom w.nextChannel := fun k c hc hk =>
    absurd (h.wf.value_lt (ConcurrentHashMap.mem_values_iff.mpr (.inl hk))) (Nat.not_lt.mpr hc)
  obtain ⟨w', hrun, h', hfeed, hnamed'⟩ := h.run ha hnamed
  refine ⟨w', hrun, h'.wf, ?_, hnamed'⟩
  rw [hfeed]
  exact Demux.routed_feedAll ..

/-- One byte from port 5000 of an IPv4 host. -/
def knock (address : BitVec 32) (byte : UInt8) (ptr : Ptr) (h : ptr ≠ 0) : Arrival where
  it := .id
  address := address
  port := 5000
  data := [byte]
  size := Nat.le_of_ble_eq_true rfl
  nonempty := Nat.one_pos
  ptr := ptr
  ptr_ne := h

/-- Two bytes from 10.0.0.7 with one from 10.0.0.8 between them. -/
def threeKnocks : List Arrival :=
  [knock 0x0A000007#32 1 16 (by decide), knock 0x0A000008#32 2 32 (by decide),
    knock 0x0A000007#32 3 48 (by decide)]

/-- The three bytes reach a server that has just been started, and 10.0.0.7 gets one channel. -/
theorem threeKnocks_demultiplexed : ∃ w w' c, program.Reachable w ∧
    program.run w (threeKnocks.map (Arrival.op 0)) = some w' ∧
    w'.mapper.socketMap.get samplePeer = some c ∧ (w'.channel c).remote = some samplePeer := by
  obtain ⟨w, hw, hl, hk, hs, hi, hu, hkeys, hnone, hptr⟩ := Machine.Reachable.exists_run
    (M := program) (.init rfl)
    (P := fun w => w.listens 0 = true ∧ (w.link 0).kind = .server 9899 true ∧
      w.mapper.isShutdown = false ∧ w.stack.initialized = true ∧
      w.isUsedPort (9899 : UInt16).toNat = false ∧
      (∀ e ∈ w.mapper.socketMap.entries, e.1.isInet4 = true) ∧
      w.mapper.socketMap.get samplePeer = none ∧
      ∀ a ∈ threeKnocks, w.stack.sockets.containsKey a.ptr = false)
    [.setInitialized true, .newServerLink 9899 true] (by decide +kernel)
  have h : Serving w 0 9899 := ⟨hw, hl, hk, hs, hi, hu, hkeys⟩
  obtain ⟨w', hrun, hw', hrouted, hremote⟩ :=
    server_demultiplexes h threeKnocks ⟨by decide, hptr⟩
  obtain ⟨c, hc, hle, _⟩ := hrouted.fresh (samplePeer, [1]) List.mem_cons_self hnone
  exact ⟨w, w', c, hw, hrun, hc, hremote samplePeer c hle hc⟩

end World

end Sctp4Nat
