import Sctp4Nat.Connection.Effect

/-! # Closing a channel of a shared link

The channels that the receive loop of a `UdpServerLink` makes all have that link. The task of
`SctpChannel.close` closes the link of the channel, so the first channel of a server that is
closed takes the link away from all others, for good. -/

namespace Sctp4Nat.World

variable {w w' : World} {c : ChanId} {l : LinkId}

theorem closeTask_closes_link (h : WF w) (hc : c < w.nextChannel)
    (hcr : (w.channel c).creator = some l) (hl : (w.channel c).link = some l) :
    (((closeTask c).run w).2.link l).isShutdown = true ∧
      (((closeTask c).run w).2.link l).udpClosed = true := by
  obtain ⟨⟨address, port, hr⟩, hm⟩ := h.created c hc l hcr
  have hclosable : w.closable c = true := by
    simp [closable, hr, hm, InetSocketAddress.getAddress]
  obtain ⟨st', _, hrun⟩ := closeTask_run hclosable
  rw [hrun]
  simp [closeLink, hl]

/-- A link that is closed stays closed. -/
theorem run_link_closed (h : WF w) (hl : l < w.nextLink) (hs : (w.link l).isShutdown = true)
    (hu : (w.link l).udpClosed = true) {ops : List Op} (hr : program.run w ops = some w') :
    (w'.link l).isShutdown = true ∧ (w'.link l).udpClosed = true := by
  induction ops generalizing w with
  | nil => cases hr; exact ⟨hs, hu⟩
  | cons op ops ih =>
    obtain ⟨u, hstep, hr⟩ := Option.bind_eq_some_iff.mp hr
    have he := exec_effect h.balanced hstep
    have hlink := he.link l hl
    exact ih (h.step he) (Nat.lt_of_lt_of_le hl he.nextLink) (hlink.isShutdown hs)
      (hlink.udpClosed hu) hr

/-- The loop of a closed link takes no datagram. -/
theorem serverDatagram_closed (hs : (w.link l).isShutdown = true)
    (it : Iteration (InetSocketAddress × ChanId)) (d : Datagram) (ptr : Ptr) :
    exec w (.serverDatagram l it d ptr) = none := by
  simp only [exec]
  split
  · simp [listens, hs]
  · rfl

/-- A closed link sends nothing, whatever the channel. -/
theorem serverOnConnOut_closed (hu : (w.link l).udpClosed = true) (facade : Option ChanId) :
    ∃ e, (serverOnConnOut l facade).run w = (.error e, w) := by
  cases facade with
  | none => exact ⟨.npe, rfl⟩
  | some c =>
    cases hr : (w.channel c).remote with
    | none => exact ⟨.npe, by simp [serverOnConnOut, Java.run_bind, hr]⟩
    | some remote =>
      cases ha : remote.getAddress with
      | none => exact ⟨.npe, by simp [serverOnConnOut, Java.run_bind, hr, ha]⟩
      | some address =>
        exact ⟨.ioException "Socket is closed", by
          simp [serverOnConnOut, Java.run_bind, hr, ha, hu]⟩

/-- An open channel that the receive loop of `l` made, and that still has this link. -/
def madeBy (w : World) (l : LinkId) (c : ChanId) : Bool :=
  c < w.nextChannel && !w.closed.contains c && (w.channel c).creator = some l &&
    (w.channel c).link = some l

/-- The receive loop of the open link `l` made the two channels. -/
structure Shares (w : World) (l : LinkId) (c₁ c₂ : ChanId) : Prop where
  created : l < w.nextLink
  isShutdown : (w.link l).isShutdown = false
  udpClosed : (w.link l).udpClosed = false
  ne : c₁ ≠ c₂
  first : w.madeBy l c₁ = true
  second : w.madeBy l c₂ = true

/-- **Closing one channel closes the server.** In every reachable state, when one of two open
channels that the receive loop of an open link made is closed, the link is closed: from then on
the link takes no datagram, neither from the other remote nor from a new one, and sends none. -/
theorem close_one_closes_link (w w' : World) (hw : program.Reachable w) (l : LinkId)
    (c₁ c₂ : ChanId) (hsh : w.Shares l c₁ c₂) (hs : exec w (.closeTask c₁) = some w') :
    (w'.link l).isShutdown = true ∧ (w'.link l).udpClosed = true ∧
      ∀ ops w'', program.run w' ops = some w'' →
        (∀ it d ptr, exec w'' (.serverDatagram l it d ptr) = none) ∧
        ∃ e, (serverOnConnOut l (some c₂)).run w'' = (.error e, w'') := by
  have hwf := wf_reachable hw
  have he := exec_effect hwf.balanced hs
  obtain ⟨h₁, rfl⟩ := guard_eq_some.mp hs
  obtain ⟨⟨_, hcr⟩, hl⟩ : (_ ∧ (w.channel c₁).creator = some l) ∧ (w.channel c₁).link = some l := by
    simpa only [madeBy, Bool.and_eq_true, decide_eq_true_eq] using hsh.first
  obtain ⟨hshut, hudp⟩ := closeTask_closes_link hwf h₁ hcr hl
  refine ⟨hshut, hudp, fun ops w'' hr => ?_⟩
  obtain ⟨hshut', hudp'⟩ := run_link_closed (hwf.step he)
    (Nat.lt_of_lt_of_le hsh.created he.nextLink) hshut hudp hr
  exact ⟨serverDatagram_closed hshut', serverOnConnOut_closed hudp' _⟩

/-- A server that has made channels 0 and 1 for two remotes. -/
def twoRemotes : List Op :=
  [.setInitialized true, .newServerLink 9899 true,
    .serverDatagram 0 .id (.oneByte 0x0A000007#32) 16,
    .serverDatagram 0 .id (.oneByte 0x0A000008#32) 32]

theorem shares_twoRemotes : ∃ w, program.Reachable w ∧ w.Shares 0 0 1 ∧
    ∃ w', exec w (.closeTask 0) = some w' ∧ (w'.link 0).isShutdown = true := by
  obtain ⟨w, hw, ⟨h1, h2, h3, h4, h5⟩, hs⟩ := Machine.Reachable.exists_run
    (M := program) (.init rfl)
    (P := fun w => (0 < w.nextLink ∧ (w.link 0).isShutdown = false ∧
      (w.link 0).udpClosed = false ∧ w.madeBy 0 0 = true ∧ w.madeBy 0 1 = true) ∧
      (exec w (.closeTask 0)).any (fun w' => (w'.link 0).isShutdown) = true)
    twoRemotes (by decide +kernel)
  obtain ⟨w', hs', hshut⟩ := (Option.any_eq_true ..).mp hs
  exact ⟨w, hw, ⟨h1, h2, h3, by decide, h4, h5⟩, w', hs', hshut⟩

/-- The second of two remotes is cut off when the channel of the first is closed. -/
theorem close_first_of_two_remotes : ∃ w w', program.Reachable w ∧ w.Shares 0 0 1 ∧
    exec w (.closeTask 0) = some w' ∧
      exec w' (.serverDatagram 0 .id (.oneByte 0x0A000008#32) 48) = none := by
  obtain ⟨w, hw, hsh, w', hs, _⟩ := shares_twoRemotes
  have h := close_one_closes_link w w' hw 0 0 1 hsh hs
  exact ⟨w, w', hw, hsh, hs, (h.2.2 [] w' rfl).1 ..⟩

/-- It is not so that the close task of one channel leaves the link of the other open. -/
theorem close_one_leaves_link_false :
    ¬ ∀ (w w' : World) (l : LinkId) (c₁ c₂ : ChanId), program.Reachable w → w.Shares l c₁ c₂ →
      exec w (.closeTask c₁) = some w' →
        (w'.link l).isShutdown = false ∧ (w'.link l).udpClosed = false := by
  intro h
  obtain ⟨w, hw, hsh, w', hs, hshut⟩ := shares_twoRemotes
  have := (h w w' 0 0 1 hw hsh hs).1
  rw [hshut] at this
  cases this

end Sctp4Nat.World
