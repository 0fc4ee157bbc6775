import Sctp4Nat.Connection.ReceiveLoop

/-! # Closed channels and the mapper

The close task of a channel calls `SctpMapper.unregister` with the channel, which removes the
entry whose key is equal to it, and no key is a channel. So a close removes the entries of the
channel only when there are none. In the runs where a channel has left the map before it is
closed, and is not registered again, the mapper never returns a closed channel; the first other
step puts one there. -/

namespace Sctp4Nat

namespace SctpMapper

/-- The entries that are left when those of a channel are removed. -/
def without (m : SctpMapper) (c : ChanId) : List (InetSocketAddress × ChanId) :=
  m.socketMap.entries.filter fun e => e.2 ≠ c

theorem entries_eq_without_iff (m : SctpMapper) (c : ChanId) :
    m.socketMap.entries = m.without c ↔ c ∉ m.socketMap.values := by
  rw [eq_comm, without, List.filter_eq_self, ConcurrentHashMap.mem_values]
  simp only [decide_eq_true_eq, not_exists]
  constructor
  · exact fun h k hk => h (k, c) hk rfl
  · rintro h ⟨k, c'⟩ he rfl
    exact h k he

end SctpMapper

namespace World

variable {w w' : World} {op : Op} {c : ChanId}

/-- The step closes only channels that are not in the map, and registers none that is closed. -/
def tidyStep (w : World) (op : Op) : Bool := (w.action op).all w.directory.tidy

theorem noneClosed_of_tidy (h : (program.restrict fun w op => w.tidyStep op = true).Reachable w) :
    w.directory.NoneClosed := by
  refine invariant_of_restrict (P := fun w => w.directory.NoneClosed)
    (fun _ hc => absurd hc List.not_mem_nil) (fun w op w' _ hw hop _ he => ?_) h
  rw [he.directory]
  cases ha : w.action op with
  | none => exact hw
  | some a =>
    rw [tidyStep, ha] at hop
    exact hw.apply_iff.mpr hop

/-- After the first step that is not tidy, the mapper finds a closed channel. -/
theorem untidy_finds_closed (hwf : WF w) (hn : w.directory.NoneClosed)
    (hsh : w.mapper.isShutdown = false) (hs : exec w op = some w') (hop : w.tidyStep op = false) :
    ∃ c ∈ w'.closed, ∀ it, w'.mapper.locateSocket (fun c => (w'.channel c).so) it
      (w'.channel c).so = some c := by
  have he := exec_effect hwf.balanced hs
  have hwf' := hwf.step he
  cases ha : w.action op with
  | none => simp [tidyStep, ha] at hop
  | some a =>
    have hd : w'.directory = w.directory.apply a := by rw [he.directory, ha]; rfl
    have htidy : w.directory.tidy a = false := by simpa [tidyStep, ha] using hop
    have hnot : ¬ w'.directory.NoneClosed := by
      rw [hd, hn.apply_iff, htidy]
      exact Bool.false_ne_true
    have hshut : w'.mapper.isShutdown = false := by
      have := Directory.isShutdown_apply_of_untidy htidy
      rw [← hd] at this
      exact this.trans hsh
    simp only [Directory.NoneClosed, not_forall, not_not] at hnot
    obtain ⟨c, hc, hclosed⟩ := hnot
    refine ⟨c, hclosed, fun it => ?_⟩
    exact SctpMapper.locateSocket_of_mem_values it hshut hc fun c' hc' hso =>
      hwf'.so_inj c' (hwf'.value_lt hc') c (hwf'.value_lt hc) hso

/-- In a tidy run the channel that a datagram is fed to is open. -/
theorem fed_open (h : (program.restrict fun w op => w.tidyStep op = true).Reachable w)
    {l : LinkId} {it : Iteration (InetSocketAddress × ChanId)} {d : Datagram} {ptr : Ptr}
    (hs : exec w (.serverDatagram l it d ptr) = some w') (hfed : Fed w it d w' c) :
    c ∉ w'.closed := by
  have hwf := wf_reachable h.of_restrict
  have he := exec_effect hwf.balanced hs
  have hclosed : w'.closed = w.closed := by
    have hd := congrArg Directory.closed he.directory
    cases ha : w.action (.serverDatagram l it d ptr) with
    | none => rw [ha] at hd; exact hd
    | some a =>
      rw [ha] at hd
      simp only [action] at ha
      split at ha
      · simp only [Option.ite_none_right_eq_some, Option.some.injEq] at ha
        obtain ⟨_, rfl⟩ := ha
        exact hd
      · cases ha
  rw [hclosed]
  rcases hfed.2 with hloc | ⟨_, rfl, _⟩
  · exact noneClosed_of_tidy h c (SctpMapper.mem_values_of_locate hloc)
  · exact fun hc => Nat.lt_irrefl _ (hwf.below.closed _ hc)

/-- **Closed channels leave the mapper only when they were not in it.** `unregister(c)` and the
close task of `c` remove exactly the entries of `c` just when there are none. In the runs where
every step is tidy neither `locate` returns a closed channel, and a datagram is fed to an open
one, new if the mapper has none for its source; a step that is not tidy makes `locate` return a
closed channel at once. -/
theorem closed_leave_mapper_iff (w : World) (c : ChanId) :
    (w.mapper.isShutdown = false →
      ((w.mapper.unregister (some c)).socketMap.entries = w.mapper.without c ↔
        c ∉ w.mapper.socketMap.values)) ∧
    (w.mapper.isShutdown = false → (w.channel c).remote ≠ none →
      (((closeTask c).run w).2.mapper.socketMap.entries = w.mapper.without c ↔
        c ∉ w.mapper.socketMap.values)) ∧
    ((program.restrict fun w op => w.tidyStep op = true).Reachable w →
      (∀ it host port c, w.mapper.locate it host port = .ok (some c) → c ∉ w.closed) ∧
      (∀ it so c, w.mapper.locateSocket (fun c => (w.channel c).so) it so = some c →
        c ∉ w.closed) ∧
      (∀ l it d ptr w', w.stack.initialized = true →
        w.survives (.serverDatagram l it d ptr) = true →
        exec w (.serverDatagram l it d ptr) = some w' → ∃ c, Fed w it d w' c ∧ c ∉ w'.closed) ∧
      (w.mapper.isShutdown = false → ∀ op w', exec w op = some w' → w.tidyStep op = false →
        ∃ c ∈ w'.closed, ∀ it, w'.mapper.locateSocket (fun c => (w'.channel c).so) it
          (w'.channel c).so = some c)) := by
  refine ⟨fun _ => ?_, fun _ _ => ?_, fun hw => ⟨fun it host port c hloc => ?_,
    fun it so c hloc => ?_, fun l it d ptr w' hi hop hs => ?_, fun hsh op w' hs hop => ?_⟩⟩
  · rw [SctpMapper.unregister_eq]
    exact w.mapper.entries_eq_without_iff c
  · rw [closeTask_mapper]
    exact w.mapper.entries_eq_without_iff c
  · exact noneClosed_of_tidy hw c (SctpMapper.mem_values_of_locate hloc)
  · exact noneClosed_of_tidy hw c (SctpMapper.mem_values_of_locateSocket hloc).1
  · obtain ⟨c, hfed⟩ := exec_fed (wf_reachable hw.of_restrict).balanced hi hop hs
    exact ⟨c, hfed, fed_open hw hs hfed⟩
  · exact untidy_finds_closed (wf_reachable hw.of_restrict) (noneClosed_of_tidy hw) hsh hs hop

/-- A datagram of one byte from 10.0.0.7. -/
def knockDatagram : Datagram := .oneByte 0x0A000007#32

/-- The remote is unregistered before its channel is closed; then it knocks on another server,
where it gets an open channel. Closing channel 0 once more removes nothing, and nothing is left
to remove. -/
theorem knock_again_after_unregister : ∃ w w',
    (program.restrict fun w op => w.tidyStep op = true).Reachable w ∧ 0 ∈ w.closed ∧
      ((closeTask 0).run w).2.mapper.socketMap.entries = w.mapper.without 0 ∧
      exec w (.serverDatagram 1 .id knockDatagram 32) = some w' ∧
      ∃ c, Fed w .id knockDatagram w' c ∧ c ∉ w'.closed := by
  obtain ⟨w, hw, ⟨hsh, hr, hv, hc, hi, hop⟩, he⟩ := Machine.Reachable.exists_run
    (M := program.restrict fun w op => w.tidyStep op = true) (.init rfl)
    (P := fun w => (w.mapper.isShutdown = false ∧ (w.channel 0).remote ≠ none ∧
      0 ∉ w.mapper.socketMap.values ∧ 0 ∈ w.closed ∧ w.stack.initialized = true ∧
      w.survives (.serverDatagram 1 .id knockDatagram 32) = true) ∧
      (exec w (.serverDatagram 1 .id knockDatagram 32)).isSome = true)
    [.setInitialized true, .newServerLink 9899 true, .newServerLink 9900 true,
      .serverDatagram 0 .id knockDatagram 16, .unregister knockDatagram.remote, .closeTask 0]
    (by decide +kernel)
  obtain ⟨w', hs⟩ := Option.isSome_iff_exists.mp he
  have h := closed_leave_mapper_iff w 0
  exact ⟨w, w', hw, hc, (h.2.1 hsh hr).mpr hv, hs,
    (h.2.2 hw).2.2.1 1 .id _ 32 w' hi hop hs⟩

/-- The closed channel is still what the mapper has for its remote, and closing it once more does
not remove its entry either. -/
theorem closed_channel_still_located : ∃ w, program.Reachable w ∧ w.mapper.isShutdown = false ∧
    0 ∈ w.closed ∧ (w.channel 0).remote ≠ none ∧
    w.mapper.locate .id "10.0.0.7" 5000 = .ok (some 0) ∧
    ((closeTask 0).run w).2.mapper.socketMap.entries ≠ w.mapper.without 0 := by
  exact Machine.Reachable.exists_run (M := program) (.init rfl)
    (P := fun w => w.mapper.isShutdown = false ∧ 0 ∈ w.closed ∧ (w.channel 0).remote ≠ none ∧
      w.mapper.locate .id "10.0.0.7" 5000 = .ok (some 0) ∧
      ((closeTask 0).run w).2.mapper.socketMap.entries ≠ w.mapper.without 0)
    [.setInitialized true, .newServerLink 9899 true, .serverDatagram 0 .id knockDatagram 16,
      .closeTask 0] (by decide +kernel)

end World

end Sctp4Nat
