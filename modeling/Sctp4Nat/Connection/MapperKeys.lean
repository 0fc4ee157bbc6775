import Sctp4Nat.Connection.SctpConnection

/-! # The keys of the mapper

An entry of `socketMap` is made by a receive loop, which registers a channel it has just built
for the source of a datagram, or by a caller of `connect` or `register`, who may pass any address.
`Lasting.step` says for a property of a key and the remote of its channel which steps keep it.
Two such properties matter. Packets go back to where the datagrams come from when the key is the
remote of the channel (`namesRemote`), and the scan of `locate` needs keys with an `InetAddress`
(`hasAddress`). -/

namespace Sctp4Nat.World

/-- The entry that the caller of an operation makes. -/
def callerEntry (w : World) : Op → Option (InetSocketAddress × ChanId)
  | .connectRegister c remote =>
    if !w.mapper.isShutdown && w.stack.initialized && (w.channel c).mapper then some (remote, c)
    else none
  | .register remote c => if w.mapper.isShutdown then none else some (remote, c)
  | _ => none

/-- A property of the remote of a channel and a key for it. -/
abbrev KeyProperty := Option InetSocketAddress → InetSocketAddress → Bool

/-- The property holds of every entry. -/
def Keys (R : KeyProperty) (w : World) : Prop :=
  ∀ e ∈ w.mapper.socketMap.entries, R (w.channel e.2).remote e.1 = true

/-- The property holds of the entry that the caller makes. -/
def keyStep (R : KeyProperty) (w : World) (op : Op) : Bool :=
  (w.callerEntry op).all fun e => R (w.channel e.2).remote e.1

/-- Equal keys share the property, and an address that is resolved has it as a key for itself. -/
structure Lasting (R : KeyProperty) : Prop where
  congr : ∀ remote k k', equals k k' = true → R remote k = true → R remote k' = true
  source : ∀ address port, R (some (.resolved address port)) (.resolved address port) = true

variable {w w' : World} {op : Op} {R : KeyProperty}

/-- The channels that exist keep their remotes. -/
theorem Graph.remote (h : Graph w w') (hc : c < w.nextChannel) :
    (w'.channel c).remote = (w.channel c).remote := by
  cases h with
  | same _ _ hch => rw [hch c]
  | made _ _ hch => rw [hch c (Nat.ne_of_lt hc)]

/-- The channel that a receive loop makes has the source of the datagram as its remote. -/
theorem serverIteration_remote (hb : w.stack.Balanced) {localPort : UInt16} {mapper : Bool}
    (h : w.makesChannel localPort mapper it d ptr = true) (l : LinkId) :
    (((serverIteration l localPort mapper it d ptr).run w).2.channel w.nextChannel).remote =
      some d.remote := by
  rw [serverIteration_makes hb h]
  have hq := (keeps_onConnIn w.nextChannel (d.buffer Datagram.newBuffer) 0 d.length).quiet
    (w := (w.withServerChannel l localPort d ptr).withRegistration d.remote w.nextChannel)
    (balanced_withSocket hb localPort.toNat (some l) ptr)
  rw [hq.channel]
  simp [withRegistration, withServerChannel]

/-- The entry that a step makes. -/
def stepEntry (w : World) (op : Op) : Option (InetSocketAddress × ChanId) :=
  (w.action op).bind w.directory.entry

theorem stepEntry_eq_some : w.stepEntry op = some e ↔
    w.mapper.isShutdown = false ∧ w.action op = some (.register e.1 e.2) := by
  simp only [stepEntry, Option.bind_eq_some_iff, Directory.entry_eq_some]
  constructor
  · rintro ⟨a, ha, hsh, rfl⟩
    exact ⟨hsh, ha⟩
  · exact fun ⟨hsh, ha⟩ => ⟨_, ha, hsh, rfl⟩

theorem stepEntry_of_caller (hs : exec w op = some w') (h : w.callerEntry op = some e) :
    w.stepEntry op = some e ∧ e.2 < w.nextChannel := by
  rw [stepEntry_eq_some]
  cases op with
  | connectRegister c remote =>
    simp only [callerEntry, Option.ite_none_right_eq_some, Option.some.injEq, Bool.and_eq_true,
      Bool.not_eq_true'] at h
    obtain ⟨⟨⟨hsh, hi⟩, hm⟩, rfl⟩ := h
    exact ⟨⟨hsh, by simp [action, hi, hm]⟩, (guard_eq_some.mp hs).1⟩
  | register remote c =>
    simp only [callerEntry, Option.ite_none_left_eq_some, Option.some.injEq,
      Bool.not_eq_true] at h
    obtain ⟨hsh, rfl⟩ := h
    exact ⟨⟨hsh, rfl⟩, (guard_eq_some.mp hs).1⟩
  | _ => cases h

/-- The entry of a caller is for a channel that exists; any other is for the source of a datagram
and a channel with that source as its remote. -/
theorem stepEntry_cases (hb : w.stack.Balanced) (hs : exec w op = some w')
    (he : w.stepEntry op = some e) :
    (w.callerEntry op = some e ∧ e.2 < w.nextChannel) ∨
      ∃ address port, e.1 = .resolved address port ∧ (w'.channel e.2).remote = some e.1 := by
  obtain ⟨hsh, ha⟩ := stepEntry_eq_some.mp he
  cases op with
  | connectRegister c remote =>
    simp only [action, Option.ite_none_right_eq_some, Option.some.injEq, Bool.and_eq_true,
      Directory.Action.register.injEq] at ha
    obtain ⟨⟨hi, hm⟩, rfl, rfl⟩ := ha
    exact .inl ⟨by simp [callerEntry, hsh, hi, hm], (guard_eq_some.mp hs).1⟩
  | register remote c =>
    simp only [action, Option.some.injEq, Directory.Action.register.injEq] at ha
    obtain ⟨rfl, rfl⟩ := ha
    exact .inl ⟨by simp [callerEntry, hsh], (guard_eq_some.mp hs).1⟩
  | serverDatagram l it d ptr =>
    cases hkind : (w.link l).kind with
    | client => simp [exec, hkind] at hs
    | server localPort mapper =>
      simp only [action, hkind, Option.ite_none_right_eq_some, Option.some.injEq,
        Directory.Action.register.injEq] at ha
      obtain ⟨hm, hremote, hc⟩ := ha
      simp only [exec, hkind] at hs
      obtain ⟨_, rfl⟩ := guard_eq_some.mp hs
      rw [← hremote, ← hc, afterIteration_channel]
      exact .inr ⟨d.address, d.port, rfl, serverIteration_remote hb hm l⟩
  | connectFinish c remote ok =>
    simp only [action] at ha
    split at ha <;> cases ha
  | _ => cases ha

/-- **The keys across a step.** A lasting property is kept exactly when the entry that the caller
makes has it. -/
theorem Lasting.step (hR : Lasting R) (hwf : WF w) (h : w.Keys R) (hs : exec w op = some w') :
    w'.Keys R ↔ w.keyStep R op = true := by
  have he := exec_effect hwf.balanced hs
  -- the entries that were there, judged in the state after the step
  have hold : w.directory.Entries fun k c => R (w'.channel c).remote k = true := by
    intro e hmem
    have hc := hwf.value_lt (List.mem_map_of_mem hmem)
    rw [he.graph.remote hc]
    exact h e hmem
  have hkeys : w'.Keys R ↔ ∀ e ∈ w.stepEntry op, R (w'.channel e.2).remote e.1 = true := by
    change w'.directory.Entries (fun k c => R (w'.channel c).remote k = true) ↔ _
    rw [he.directory, stepEntry]
    cases w.action op with
    | none => simpa using hold
    | some a => exact hold.apply_iff fun k k' c => hR.congr _ k k'
  rw [hkeys, keyStep, Option.all_eq_true]
  constructor
  · intro hnew e hcaller
    obtain ⟨hentry, hc⟩ := stepEntry_of_caller hs hcaller
    rw [← he.graph.remote hc]
    exact hnew e hentry
  · intro hcaller e hentry
    rcases stepEntry_cases hwf.balanced hs hentry with ⟨hmem, hc⟩ | ⟨address, port, hk, hremote⟩
    · rw [he.graph.remote hc]
      exact hcaller e hmem
    · rw [hremote, hk]
      exact hR.source address port

theorem Lasting.keys (hR : Lasting R)
    (h : (program.restrict fun w op => w.keyStep R op = true).Reachable w) : w.Keys R := by
  exact invariant_of_restrict (fun e he => absurd he List.not_mem_nil)
    (fun w op w' hwf hw hop hs _ => (hR.step hwf hw hs).mpr hop) h

theorem keyStep_of_not_registers (h : op.registers = false) : w.keyStep R op = true := by
  cases op with
  | connectRegister _ _ | register _ _ => cases h
  | _ => rfl

/-- A `SctpConnection` to a resolved address registers the channel for the remote that it was built
with. -/
theorem Lasting.sctpConnection (hR : Lasting R)
    (h : (program.restrict fun w op => w.keyStep R op = true).Reachable w) (conn : SctpConnection)
    (hresolved : ∀ remote, conn.remote = some remote → remote.getAddress ≠ none)
    (link : Option LinkId) (mapper : Bool) (bindError : Option String) {ptr : Ptr}
    (hptr : w.allocates ptr = true) (answer : Bool) :
    ((conn.connect link mapper bindError ptr answer).run w).2.Keys R := by
  refine hR.keys (h.leads (conn.connect_leads (fun w op => keyStep_of_not_registers)
    (fun w' c remote hremote hbuilt => ?_) link mapper bindError hptr answer))
  cases remote with
  | unresolved host port => exact absurd rfl (hresolved _ hremote)
  | resolved address port =>
    have hbuilt : (w'.channel c).remote = some (.resolved address port) := hbuilt
    simp only [keyStep, callerEntry, Option.all_eq_true, Option.ite_none_right_eq_some,
      Option.some.injEq]
    rintro e ⟨_, rfl⟩
    rw [hbuilt]
    exact hR.source address port

/-! ## The key is the remote of the channel -/

/-- The channel has a remote, and the key is equal to it. -/
def namesRemote : KeyProperty := fun remote k => remote.any (equals k)

theorem lasting_namesRemote : Lasting namesRemote where
  congr remote k k' hk h := by
    simp only [namesRemote, Option.any_eq_true] at h ⊢
    obtain ⟨r, hr, he⟩ := h
    exact ⟨r, hr, equals_trans (equals_symm hk) he⟩
  source _ _ := equals_refl _

/-- What `onConnOut` of a server link does for a channel whose remote is resolved. -/
theorem serverOnConnOut_run {remote : InetSocketAddress}
    (hr : (w.channel c).remote = some remote) (ha : remote.getAddress.isSome = true) (l : LinkId) :
    (serverOnConnOut l (some c)).run w =
      (if (w.link l).udpClosed then .error (.ioException "Socket is closed") else .ok remote,
        w) := by
  obtain ⟨address, ha⟩ := Option.isSome_iff_exists.mp ha
  cases hu : (w.link l).udpClosed <;> simp [serverOnConnOut, Java.run_bind, hr, ha, hu]

/-- **Packets go to where the datagrams come from.** Along every run in which a caller registers
a channel only for an address that is equal to its remote, every key is the remote of its channel,
so `onConnOut` sends the packets of the channel that `locate` finds to an address equal to the key
that it found; a `SctpConnection` to a resolved address is such a caller. The first step of
another kind makes an entry whose channel has no remote or another one. -/
theorem keys_name_remotes_iff
    (hw : (program.restrict fun w op => w.keyStep namesRemote op = true).Reachable w) :
    w.Keys namesRemote ∧
    (∀ it host port c, w.mapper.locate it host port = .ok (some c) →
      ∃ k remote, SctpMapper.isMatch host port k = true ∧ equals k remote = true ∧
        ∀ l, (serverOnConnOut l (some c)).run w =
          (if (w.link l).udpClosed then .error (.ioException "Socket is closed") else .ok remote,
            w)) ∧
    (∀ (conn : SctpConnection) link mapper bindError ptr answer, w.allocates ptr = true →
      (∀ remote, conn.remote = some remote → remote.getAddress ≠ none) →
      ((conn.connect link mapper bindError ptr answer).run w).2.Keys namesRemote) ∧
    ∀ op w', exec w op = some w' →
      (w'.Keys namesRemote ↔ w.keyStep namesRemote op = true) := by
  have hkeys := lasting_namesRemote.keys hw
  refine ⟨hkeys, fun it host port c hloc => ?_, fun conn link mapper bindError ptr answer hptr hr =>
    lasting_namesRemote.sctpConnection hw conn hr link mapper bindError hptr answer,
    fun op w' hs => lasting_namesRemote.step (wf_reachable hw.of_restrict) hkeys hs⟩
  obtain ⟨k, hk, hmem⟩ := SctpMapper.mem_entries_of_locate hloc
  obtain ⟨remote, hremote, heq⟩ := (Option.any_eq_true ..).mp (hkeys _ hmem)
  have ha := SctpMapper.isSome_getAddress_of_isMatch hk
  rw [InetSocketAddress.isSome_getAddress_congr heq] at ha
  exact ⟨k, remote, hk, heq, serverOnConnOut_run hremote ha⟩

/-- Operations that build a channel for `built` and connect it to `remote`. -/
def buildAndConnect (built : Option InetAddress) (remote : InetSocketAddress) : List Op :=
  [.setInitialized true, .newServerLink 9899 true,
    .build { remoteAddress := built, remotePort := 5000, mapper := true } 49152 16,
    .connectRegister 0 remote, .connectFinish 0 remote true]

/-- A channel that is built for 10.0.0.7 and connected to it. -/
theorem connect_to_built_remote : ∃ w, program.Reachable w ∧
    w.mapper.locate .id "10.0.0.7" 5000 = .ok (some 0) ∧ w.Keys namesRemote := by
  obtain ⟨w, hw, hloc⟩ := Machine.Reachable.exists_run
    (M := program.restrict fun w op => w.keyStep namesRemote op = true) (.init rfl)
    (P := fun w => w.mapper.locate .id "10.0.0.7" 5000 = .ok (some 0))
    (buildAndConnect (some (.inet4 0x0A000007#32)) samplePeer) (by decide +kernel)
  exact ⟨w, hw.of_restrict, hloc, (keys_name_remotes_iff hw).1⟩

/-- A channel that is built without a remote and connected to 10.0.0.7: the mapper has it under
that address, and `onConnOut` throws. -/
theorem connect_without_remote : ∃ w, program.Reachable w ∧
    w.mapper.locate .id "10.0.0.7" 5000 = .ok (some 0) ∧ (w.channel 0).remote = none ∧
    ((serverOnConnOut 0 (some 0)).run w).1 = .error .npe ∧ ¬ w.Keys namesRemote := by
  obtain ⟨w, hw, hloc, hr, hout⟩ := Machine.Reachable.exists_run (M := program) (.init rfl)
    (P := fun w => w.mapper.locate .id "10.0.0.7" 5000 = .ok (some 0) ∧
      (w.channel 0).remote = none ∧ ((serverOnConnOut 0 (some 0)).run w).1 = .error .npe)
    (buildAndConnect none samplePeer) (by decide +kernel)
  refine ⟨w, hw, hloc, hr, hout, fun hkeys => ?_⟩
  obtain ⟨k, _, hmem⟩ := SctpMapper.mem_entries_of_locate hloc
  have := hkeys _ hmem
  rw [hr] at this
  cases this

/-! ## The key has an address -/

/-- The key is a resolved address. -/
def hasAddress : KeyProperty := fun _ k => k.getAddress.isSome

theorem lasting_hasAddress : Lasting hasAddress where
  congr _ k k' hk h := by rwa [hasAddress, ← InetSocketAddress.isSome_getAddress_congr hk]
  source _ _ := rfl

/-- Every call of `locate(String, int)` returns. -/
def LookupSafe (w : World) (it : Iteration (InetSocketAddress × ChanId)) : Prop :=
  ∀ host port, ∃ so, w.mapper.locate it host port = .ok so

theorem lookupSafe_iff (h : w.mapper.isShutdown = false)
    (it : Iteration (InetSocketAddress × ChanId)) : w.LookupSafe it ↔ w.Keys hasAddress :=
  SctpMapper.forall_locate_iff h it

theorem Keys.lookupSafe (h : w.Keys hasAddress) (it : Iteration (InetSocketAddress × ChanId)) :
    w.LookupSafe it := by
  cases hsh : w.mapper.isShutdown with
  | true => exact fun host port => ⟨none, by simp [SctpMapper.locate, hsh]⟩
  | false => exact (lookupSafe_iff hsh it).mpr h

/-- A step that makes an entry leaves the mapper in use. -/
theorem isShutdown_of_stepEntry (hb : w.stack.Balanced) (hs : exec w op = some w')
    (he : w.stepEntry op = some e) : w'.mapper.isShutdown = false := by
  obtain ⟨hsh, ha⟩ := stepEntry_eq_some.mp he
  have hd := congrArg (fun D => D.mapper.isShutdown) (exec_effect hb hs).directory
  rw [ha] at hd
  exact hd.trans ((SctpMapper.register_isShutdown ..).trans hsh)

/-- **One connect can break every lookup.** Along every run in which a caller registers only
addresses that are resolved, every key is resolved and `locate` returns for every text and port, in
whatever order it visits the entries; a `SctpConnection` to a resolved address is such a caller.
After the first step of another kind there is a text for which it throws. -/
theorem lookups_return_iff
    (hw : (program.restrict fun w op => w.keyStep hasAddress op = true).Reachable w) :
    w.Keys hasAddress ∧ (∀ it, w.LookupSafe it) ∧
    (∀ (conn : SctpConnection) link mapper bindError ptr answer, w.allocates ptr = true →
      (∀ remote, conn.remote = some remote → remote.getAddress ≠ none) →
      ∀ it, ((conn.connect link mapper bindError ptr answer).run w).2.LookupSafe it) ∧
    ∀ op w', exec w op = some w' →
      (w'.Keys hasAddress ↔ w.keyStep hasAddress op = true) ∧
      ∀ it, (w'.LookupSafe it ↔ w.keyStep hasAddress op = true) := by
  have hwf := wf_reachable hw.of_restrict
  have hkeys := lasting_hasAddress.keys hw
  refine ⟨hkeys, hkeys.lookupSafe, fun conn link mapper bindError ptr answer hptr hr =>
    (lasting_hasAddress.sctpConnection hw conn hr link mapper bindError hptr answer).lookupSafe,
    fun op w' hs => ?_⟩
  have hstep := lasting_hasAddress.step hwf hkeys hs
  refine ⟨hstep, fun it => ⟨fun hsafe => ?_, fun hop => (hstep.mpr hop).lookupSafe it⟩⟩
  rw [keyStep, Option.all_eq_true]
  intro e he
  have hentry := (stepEntry_of_caller hs he).1
  have hsh := isShutdown_of_stepEntry hwf.balanced hs hentry
  have hop := hstep.mp ((lookupSafe_iff hsh it).mp hsafe)
  rw [keyStep, he] at hop
  exact hop

/-- After a connect to 10.0.0.7 every lookup returns. -/
theorem connect_resolved_lookup : ∃ w, program.Reachable w ∧
    w.mapper.locate .id "10.0.0.7" 5000 = .ok (some 0) ∧ ∀ it, w.LookupSafe it := by
  obtain ⟨w, hw, hloc⟩ := Machine.Reachable.exists_run
    (M := program.restrict fun w op => w.keyStep hasAddress op = true) (.init rfl)
    (P := fun w => w.mapper.locate .id "10.0.0.7" 5000 = .ok (some 0))
    (buildAndConnect none samplePeer) (by decide +kernel)
  exact ⟨w, hw.of_restrict, hloc, (lookups_return_iff hw).2.1⟩

/-- A host name that was not resolved. -/
def sampleHost : InetSocketAddress := .unresolved "nowhere.invalid" 5000

/-- A connect to a host name that was not resolved throws, and its entry stays: 10.0.0.8 cannot be
looked up any more. -/
theorem connect_unresolved_lookup : ∃ w w', program.Reachable w ∧
    ((connectRegister 0 sampleHost).run w).1 = .error .npe ∧
    exec w (.connectRegister 0 sampleHost) = some w' ∧ program.Reachable w' ∧
    w'.mapper.locate .id "10.0.0.8" 5000 = .error .npe ∧ ¬ w'.Keys hasAddress ∧
    ∀ it, ¬ w'.LookupSafe it := by
  obtain ⟨w, hw, hthrows, he⟩ := Machine.Reachable.exists_run (M := program) (.init rfl)
    (P := fun w => ((connectRegister 0 sampleHost).run w).1 = .error .npe ∧
      (exec w (.connectRegister 0 sampleHost)).any (fun w' => w'.mapper.isShutdown = false ∧
        w'.mapper.locate .id "10.0.0.8" 5000 = .error .npe) = true)
    [.setInitialized true, .build { mapper := true } 49152 16] (by decide +kernel)
  obtain ⟨w', hs, h'⟩ := (Option.any_eq_true ..).mp he
  obtain ⟨hsh, hloc⟩ := of_decide_eq_true h'
  have hunsafe : ¬ w'.LookupSafe .id := fun hsafe => by
    obtain ⟨so, hso⟩ := hsafe "10.0.0.8" 5000
    rw [hloc] at hso
    cases hso
  rw [lookupSafe_iff hsh] at hunsafe
  have hstep : program.exec w (.connectRegister 0 sampleHost) = some w' := hs
  exact ⟨w, w', hw, hthrows, hs, hw.step hstep, hloc, hunsafe,
    fun it hsafe => hunsafe ((lookupSafe_iff hsh it).mp hsafe)⟩

end Sctp4Nat.World
