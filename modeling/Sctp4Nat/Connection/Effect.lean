import Sctp4Nat.Connection.Program

/-! # What a step does

`exec_effect` says once what a step of the program can change: the directory as its action says,
the object graph by at most one channel, a link only to a closed one. `WF` collects what holds of
the object graph in every reachable state and follows from that. -/

namespace Sctp4Nat

namespace World

/-- What holds of the link objects across a step. -/
structure LinkStep (k k' : Link) : Prop where
  kind : k'.kind = k.kind
  isShutdown : k.isShutdown = true → k'.isShutdown = true
  udpClosed : k.udpClosed = true → k'.udpClosed = true

/-- A method that leaves the directory and the object graph alone. -/
structure Quiet (w w' : World) : Prop where
  directory : w'.directory = w.directory
  connecting : w'.connecting = w.connecting
  nextChannel : w'.nextChannel = w.nextChannel
  channel : ∀ c, w'.channel c = { w.channel c with link := (w'.channel c).link }
  next : w'.stack.next = w.stack.next
  balanced : w'.stack.Balanced
  nextLink : w'.nextLink = w.nextLink
  link : ∀ l, LinkStep (w.link l) (w'.link l)
  receiving : ∀ l, (w'.link l).receiving = (w.link l).receiving

theorem LinkStep.refl (k : Link) : LinkStep k k := ⟨rfl, id, id⟩

theorem LinkStep.trans (h : LinkStep k k₁) (h' : LinkStep k₁ k₂) : LinkStep k k₂ :=
  ⟨h'.kind.trans h.kind, h'.isShutdown ∘ h.isShutdown, h'.udpClosed ∘ h.udpClosed⟩

theorem Quiet.refl (h : w.stack.Balanced) : Quiet w w :=
  ⟨rfl, rfl, rfl, fun _ => rfl, rfl, h, rfl, fun _ => .refl _, fun _ => rfl⟩

/-- A method that is quiet from every state it can be called in. -/
def Keeps {α : Type} (m : Java World α) : Prop :=
  ∀ w₀, Java.Spec (Quiet w₀) m (fun _ => Quiet w₀) (Quiet w₀)

theorem Keeps.quiet {α : Type} {m : Java World α} (h : Keeps m) (hb : w.stack.Balanced) :
    Quiet w (m.run w).2 :=
  (h w).state (Quiet.refl hb)

theorem Keeps.pure {α : Type} (a : α) : Keeps (pure a : Java World α) :=
  fun _ => .pure fun _ h => h

theorem Keeps.throw {α : Type} (e : Throwable) : Keeps (throw e : Java World α) :=
  fun _ => .throw fun _ h => h

theorem Keeps.get : Keeps (get : Java World World) := fun _ => .get fun _ h => h

theorem Keeps.deref {α : Type} (o : Option α) : Keeps (Java.deref o : Java World α) :=
  fun _ => .deref (fun _ _ _ h => h) fun _ h => h

theorem Keeps.bind {α β : Type} {m : Java World α} {f : α → Java World β} (hm : Keeps m)
    (hf : ∀ a, Keeps (f a)) : Keeps (m >>= f) :=
  fun w => (hm w).bind fun a => hf a w

theorem Keeps.tryCatch {α : Type} {m : Java World α} {f : Throwable → Java World α}
    (hm : Keeps m) (hf : ∀ e, Keeps (f e)) : Keeps (tryCatch m f) :=
  fun w => (hm w).tryCatch fun e => hf e w

theorem Keeps.catchIOException {m : Java World Unit} (hm : Keeps m) :
    Keeps (Java.catchIOException m) :=
  fun w => (hm w).catchIOException fun _ h => h

theorem Keeps.modify {f : World → World} (hf : ∀ w, w.stack.Balanced → Quiet w (f w)) :
    Keeps (modify f : Java World PUnit) := by
  intro w₀
  refine .modify fun w h => ?_
  have hq := hf w h.balanced
  exact ⟨hq.directory.trans h.directory, hq.connecting.trans h.connecting,
    hq.nextChannel.trans h.nextChannel, fun c => by rw [hq.channel c, h.channel c],
    hq.next.trans h.next, hq.balanced, hq.nextLink.trans h.nextLink,
    fun l => (h.link l).trans (hq.link l), fun l => (hq.receiving l).trans (h.receiving l)⟩

/-- A method of the stack that makes no socket. -/
theorem Keeps.onStack {α : Type} {m : Java Stack α}
    (hm : ∀ st, st.Balanced → (m.run st).2.next = st.next ∧ (m.run st).2.Balanced) :
    Keeps (onStack m) := by
  have hput : ∀ {w₀ w : World}, Quiet w₀ w →
      Quiet w₀ { w with stack := (m.run w.stack).2 } := by
    intro w₀ w h
    have hm := hm w.stack h.balanced
    exact { h with next := hm.1.trans h.next, balanced := hm.2 }
  exact fun w₀ => .zoom (fun w _ h _ => hput h) fun w h => hput h

/-! ### The quiet methods -/

theorem keeps_putPort (c : ChanId) (port : Int) : Keeps (putPort c port) :=
  .modify fun _ hb => { Quiet.refl hb with }

theorem keeps_removePort (c : ChanId) : Keeps (removePort c) :=
  fun _ => removePort_spec (fun _ _ h => { h with })

theorem keeps_setLink (c : ChanId) (link : Option LinkId) : Keeps (setLink c link) := by
  refine Keeps.get.bind fun w => ?_
  refine Keeps.bind (Keeps.onStack fun st hb => ?_) fun _ => ?_
  · exact ⟨rfl, hb⟩
  refine .modify fun w hb => { Quiet.refl hb with channel := fun c' => ?_ }
  rcases eq_or_ne c' c with rfl | hc
  · simp [setChannel]
  · simp [setChannel, Function.update_of_ne hc]

theorem keeps_listen (c : ChanId) : Keeps (listen c) :=
  Keeps.get.bind fun _ =>
    .tryCatch (.onStack fun _ hb => ⟨(Stack.listenNative_frame hb).next,
      (Stack.listenNative_frame hb).balanced hb⟩) fun _ => .pure ()

theorem keeps_onConnIn (c : ChanId) (data : Bytes) (offset length : Int32) :
    Keeps (onConnIn c data offset length) := by
  refine Keeps.bind (.modify fun _ hb => { Quiet.refl hb with }) fun _ => Keeps.get.bind fun w => ?_
  refine .catchIOException (.onStack fun st hb => ?_)
  unfold Stack.onConnIn
  split
  · exact ⟨rfl, hb⟩
  · exact ⟨(Stack.bracket_frame hb).next, (Stack.bracket_frame hb).balanced hb⟩

theorem quiet_linkClose {w₀ : World} (h : Quiet w₀ w) (l : LinkId) :
    Quiet w₀ (w.setLinkObj l (w.link l).close) := by
  refine { h with link := fun l' => ?_, receiving := fun l' => ?_ }
  · rcases eq_or_ne l' l with rfl | hl
    · exact ⟨by simpa [setLinkObj] using (h.link l').kind, by simp [setLinkObj],
        by simp [setLinkObj]⟩
    · simpa [setLinkObj, Function.update_of_ne hl] using h.link l'
  · rcases eq_or_ne l' l with rfl | hl
    · simpa [setLinkObj] using h.receiving l'
    · simpa [setLinkObj, Function.update_of_ne hl] using h.receiving l'

theorem keeps_linkClose (l : LinkId) : Keeps (linkClose l) :=
  fun _ => linkClose_spec fun _ h => quiet_linkClose h l

theorem closeTask_quiet (hb : w.stack.Balanced) (c : ChanId) :
    Quiet { w with closed := c :: w.closed } ((closeTask c).run w).2 := by
  let w₀ : World := { w with closed := c :: w.closed }
  refine (closeTask_spec (P := Quiet w₀) (fun _ _ h => { h with }) (fun w s h => ?_)
    (fun w l h => quiet_linkClose h l)).state (Quiet.refl (w := w₀) hb)
  obtain ⟨st', hrun, hframe, _⟩ := Stack.closeNative_run w.stack s
  rw [hrun]
  exact { h with next := hframe.next.trans h.next, balanced := hframe.balanced h.balanced }

/-! ### One step -/

/-- The channels and sockets across a step: the same, or one channel more. -/
inductive Graph (w w' : World) : Prop
  | same (nextChannel : w'.nextChannel = w.nextChannel) (next : w'.stack.next = w.stack.next)
      (channel : ∀ c, w'.channel c = { w.channel c with link := (w'.channel c).link })
  | made (nextChannel : w'.nextChannel = w.nextChannel + 1)
      (next : w'.stack.next = w.stack.next + 1)
      (channel : ∀ c ≠ w.nextChannel,
        w'.channel c = { w.channel c with link := (w'.channel c).link })
      (so : (w'.channel w.nextChannel).so = w.stack.next)
      (creator : ∀ l, (w'.channel w.nextChannel).creator = some l →
        (∃ address port, (w'.channel w.nextChannel).remote = some (.resolved address port)) ∧
          (w'.channel w.nextChannel).mapper = true)

/-- No exception leaves a receive loop in the step. -/
def iterationOk (w : World) : Op → Bool
  | .serverDatagram l it d ptr =>
    match (w.link l).kind with
    | .server localPort mapper => ((serverIteration l localPort mapper it d ptr).run w).1.isOk
    | .client .. => true
  | .clientDatagram l before d =>
    match (w.link l).kind with
    | .client _ c => ((clientIteration c before d).run w).1.isOk
    | .server .. => true
  | _ => true

/-- What every step does. -/
structure Effect (w : World) (op : Op) (w' : World) : Prop where
  directory : w'.directory = (w.action op).elim w.directory w.directory.apply
  known : ∀ a, w.action op = some a → ∀ c, a.channel = some c → c < w'.nextChannel
  connecting : ∀ p ∈ w'.connecting, p ∈ w.connecting ∨ p.1 < w.nextChannel
  graph : Graph w w'
  balanced : w'.stack.Balanced
  nextLink : w.nextLink ≤ w'.nextLink
  link : ∀ l < w.nextLink, LinkStep (w.link l) (w'.link l)
  receiving : w.iterationOk op = true →
    ∀ l, (w.link l).receiving = true → (w'.link l).receiving = true

variable {w w' : World} {op : Op}

theorem Graph.quiet {w₁ : World} (hg : Graph w w₁) (h : Quiet w₁ w') : Graph w w' := by
  cases hg with
  | same hnc hnext hch =>
    exact .same (h.nextChannel.trans hnc) (h.next.trans hnext) fun c => by
      rw [h.channel c, hch c]
  | made hnc hnext hch hso hcr =>
    refine .made (h.nextChannel.trans hnc) (h.next.trans hnext) (fun c hc => ?_) ?_ ?_
    · rw [h.channel c, hch c hc]
    · rw [h.channel]; exact hso
    · rw [h.channel]; exact hcr

theorem Quiet.effect (h : Quiet w w') (ha : w.action op = none) : Effect w op w' where
  directory := by rw [ha, h.directory]; rfl
  known a h := by rw [ha] at h; cases h
  connecting p hp := .inl (h.connecting ▸ hp)
  graph := .same h.nextChannel h.next h.channel
  balanced := h.balanced
  nextLink := Nat.le_of_eq h.nextLink.symm
  link l _ := h.link l
  receiving _ l hl := (h.receiving l).trans hl

theorem Effect.quiet {w₁ : World} (h : Effect w op w₁) (hq : Quiet w₁ w') : Effect w op w' where
  directory := hq.directory.trans h.directory
  known a ha c hc := hq.nextChannel ▸ h.known a ha c hc
  connecting p hp := h.connecting p (hq.connecting ▸ hp)
  graph := h.graph.quiet hq
  balanced := hq.balanced
  nextLink := hq.nextLink ▸ h.nextLink
  link l hl := (h.link l hl).trans (hq.link l)
  receiving hok l hl := (hq.receiving l).trans (h.receiving hok l hl)

/-- A step that acts on the directory and leaves the channels and links alone. -/
theorem effect_of_action {a : Directory.Action} (ha : w.action op = some a)
    (hk : ∀ c, a.channel = some c → c < w.nextChannel) (hd : w'.directory = w.directory.apply a)
    (hc : ∀ p ∈ w'.connecting, p ∈ w.connecting ∨ p.1 < w.nextChannel)
    (hg : w'.nextChannel = w.nextChannel ∧ w'.stack.next = w.stack.next ∧ w'.channel = w.channel)
    (hb : w'.stack.Balanced) (hl : w'.nextLink = w.nextLink ∧ w'.link = w.link) :
    Effect w op w' where
  directory := by rw [ha]; exact hd
  known b hb c hbc := by
    rw [ha] at hb
    cases hb
    rw [hg.1]
    exact hk c hbc
  connecting := hc
  graph := .same hg.1 hg.2.1 fun c => by rw [hg.2.2]
  balanced := hb
  nextLink := Nat.le_of_eq hl.1.symm
  link l _ := by rw [hl.2]; exact .refl _
  receiving _ l h := by rw [hl.2]; exact h

theorem withChannel_graph (w : World) (localSctpPort : Int) (remote : Option InetSocketAddress)
    (link : Option LinkId) (mapper : Bool) (ptr : Ptr) :
    Graph w (w.withChannel localSctpPort remote link mapper ptr) := by
  refine .made rfl rfl (fun c hc => ?_) ?_ ?_
  · simp [withChannel, Function.update_of_ne hc]
  · simp [withChannel]
  · simp [withChannel]

theorem withServerChannel_graph (w : World) (l : LinkId) (localPort : UInt16) (d : Datagram)
    (ptr : Ptr) : Graph w (w.withServerChannel l localPort d ptr) := by
  refine .made rfl rfl (fun c hc => ?_) ?_ ?_
  · simp [withServerChannel, Function.update_of_ne hc]
  · simp [withServerChannel]
  · simp [withServerChannel, Datagram.remote]

theorem balanced_withSocket {st : Stack} (hb : st.Balanced) (localPort : Int)
    (link : Option LinkId) (ptr : Ptr) : (st.withSocket localPort link ptr).Balanced := by
  intro s
  rcases eq_or_ne s st.next with rfl | hs
  · simp [Stack.withSocket]
  · simpa [Stack.withSocket, Function.update_of_ne hs] using hb s

theorem newSctpChannel_effect (hb : w.stack.Balanced) (ha : w.action op = none)
    (localSctpPort : Int) (remote : Option InetSocketAddress) (link : Option LinkId)
    (mapper : Bool) (ptr : Ptr) :
    Effect w op ((newSctpChannel localSctpPort remote link mapper ptr).run w).2 := by
  rw [newSctpChannel_run]
  split
  · exact (Quiet.refl hb).effect ha
  · split
    · exact (Quiet.refl hb).effect ha
    · exact
        { directory := by rw [ha]; rfl
          known := fun a h => by rw [ha] at h; cases h
          connecting := fun p hp => .inl hp
          graph := withChannel_graph ..
          balanced := balanced_withSocket hb localSctpPort link ptr
          nextLink := Nat.le_refl _
          link := fun l _ => .refl _
          receiving := fun _ _ h => h }

theorem build_effect (hb : w.stack.Balanced) (ha : w.action op = none) (b : SctpChannelBuilder)
    (dynPort : Int) (ptr : Ptr) : Effect w op ((b.build dynPort ptr).run w).2 := by
  unfold SctpChannelBuilder.build
  cases b.mapper with
  | false => exact (Quiet.refl hb).effect ha
  | true =>
    dsimp only
    generalize (if b.localSctpPort = portNotInitialized then dynPort else b.localSctpPort) = port
    have hnew := newSctpChannel_effect hb ha port b.remote b.link true ptr
    simp only [Bool.not_true, Bool.false_eq_true, if_false, Java.run_bind]
    revert hnew
    rcases (newSctpChannel port b.remote b.link true ptr).run w with ⟨_ | _, _⟩ <;> exact id

theorem Graph.setLinkObj (h : Graph w w') (l : LinkId) (k : Link) :
    Graph w (w'.setLinkObj l k) := by
  cases h with
  | same hnc hnext hch => exact .same hnc hnext hch
  | made hnc hnext hch hso hcr => exact .made hnc hnext hch hso hcr

/-- The iteration of a receive loop, from what its body does. -/
theorem Effect.afterIteration {r : Except Throwable Unit × World} (h : Effect w op r.2)
    (hr : w.iterationOk op = r.1.isOk) (l : LinkId) : Effect w op (afterIteration l r) := by
  obtain ⟨_ | _, w'⟩ := r
  · refine { h with
      graph := h.graph.setLinkObj l _, link := fun l' hl' => ?_, receiving := fun hok => ?_ }
    · have hstep := h.link l' hl'
      rcases eq_or_ne l' l with rfl | hl
      · exact ⟨by simpa [World.afterIteration, World.setLinkObj] using hstep.kind,
          by simpa [World.afterIteration, World.setLinkObj] using hstep.isShutdown,
          by simpa [World.afterIteration, World.setLinkObj, Link.udpClosed] using hstep.udpClosed⟩
      · simpa [World.afterIteration, World.setLinkObj, Function.update_of_ne hl] using hstep
    · rw [hr] at hok
      cases hok
  · exact h

theorem afterIteration_channel (l : LinkId) (r : Except Throwable Unit × World) :
    (afterIteration l r).channel = r.2.channel := by
  obtain ⟨_ | _, w⟩ := r <;> rfl

theorem connectRegister_effect (hb : w.stack.Balanced) (hc : c < w.nextChannel)
    (remote : InetSocketAddress) :
    Effect w (.connectRegister c remote) ((connectRegister c remote).run w).2 := by
  cases hi : w.stack.initialized with
  | false =>
    have hrun : (connectRegister c remote).run w = (.ok (), w) := by
      simp [connectRegister, Java.run_bind, hi]
    rw [hrun]
    exact (Quiet.refl hb).effect (by simp [action, hi])
  | true =>
    cases hm : (w.channel c).mapper with
    | false =>
      have hrun : (connectRegister c remote).run w = (.error .npe, w) := by
        simp [connectRegister, Java.run_bind, hi, hm]
      rw [hrun]
      exact (Quiet.refl hb).effect (by simp [action, hm])
    | true =>
      let w₁ := w.withRegistration remote c
      have hrun : ((connectRegister c remote).run w).2 = w₁ ∨
          ((connectRegister c remote).run w).2 =
            { w₁ with connecting := (c, remote) :: w.connecting } := by
        cases ha : remote.getAddress <;>
          simp [connectRegister, Java.run_bind, hi, hm, register_run, ha, w₁, withRegistration]
      have ha : w.action (.connectRegister c remote) = some (.register remote c) := by
        simp [action, hi, hm]
      have hk : ∀ c', (Directory.Action.register remote c).channel = some c' →
          c' < w.nextChannel := fun c' h => Option.some.inj h ▸ hc
      rcases hrun with hrun | hrun
      · rw [hrun]
        exact effect_of_action ha hk rfl (fun p hp => .inl hp) ⟨rfl, rfl, rfl⟩ hb ⟨rfl, rfl⟩
      · rw [hrun]
        refine effect_of_action ha hk rfl (fun p hp => ?_) ⟨rfl, rfl, rfl⟩ hb ⟨rfl, rfl⟩
        rcases List.mem_cons.mp hp with rfl | hp
        · exact .inr hc
        · exact .inl hp

/-- `connectFinish` unregisters the address when `connectNative` throws. -/
theorem connectFinish_run (hb : w.stack.Balanced) (c : ChanId) (remote : InetSocketAddress)
    (ok : Bool) : ∃ st' : Stack, st'.Balanced ∧ st'.next = w.stack.next ∧
      ((connectFinish c remote ok).run w).2 =
        { w with
          stack := st'
          connecting := w.connecting.erase (c, remote)
          mapper := if w.connectFails c ok then w.mapper.unregisterRemote (some remote)
            else w.mapper } := by
  obtain ⟨st', hrun, hso, hnext, _⟩ :=
    Stack.connectNative_run (hb (w.channel c).so) remote.getPort ok
  refine ⟨st', fun s => by rw [hso]; exact hb s, hnext, ?_⟩
  rw [connectFinish, Java.run_bind_ok (Java.run_modify _ w), Java.run_bind_ok (Java.run_get _),
    Java.run_tryCatch, onStack, Java.run_zoom]
  dsimp only
  rw [hrun]
  unfold connectFails
  by_cases hc : (w.stack.socket (w.channel c).so).closed = true ∨
      (w.stack.socket (w.channel c).so).ptr = 0
  · simp [hc, onMapper]
  · cases ok <;> simp [hc, onMapper]

theorem connectFinish_effect (hb : w.stack.Balanced) (c : ChanId) (remote : InetSocketAddress)
    (ok : Bool) : Effect w (.connectFinish c remote ok) ((connectFinish c remote ok).run w).2 := by
  obtain ⟨st', hb', hnext, hrun⟩ := connectFinish_run hb c remote ok
  have hcon : ∀ p ∈ w.connecting.erase (c, remote), p ∈ w.connecting ∨ p.1 < w.nextChannel :=
    fun p hp => .inl (List.mem_of_mem_erase hp)
  rw [hrun]
  cases hf : w.connectFails c ok with
  | true =>
    exact effect_of_action (a := .unregister remote) (by simp [action, hf]) (fun _ h => by cases h)
      rfl hcon ⟨rfl, hnext, rfl⟩ hb' ⟨rfl, rfl⟩
  | false =>
    have ha : w.action (.connectFinish c remote ok) = none := by simp [action, hf]
    exact
      { directory := by rw [ha]; rfl
        known := fun a h => by rw [ha] at h; cases h
        connecting := hcon
        graph := .same rfl hnext fun _ => rfl
        balanced := hb'
        nextLink := Nat.le_refl _
        link := fun l _ => .refl _
        receiving := fun _ _ h => h }

/-- A channel made by the receive loop and registered for the source of the datagram. -/
theorem freshChannel_effect (hb : w.stack.Balanced) (l : LinkId) (localPort : UInt16)
    (d : Datagram) (ptr : Ptr) (ha : w.action op = some (.register d.remote w.nextChannel)) :
    Effect w op ((w.withServerChannel l localPort d ptr).withRegistration d.remote
      w.nextChannel) where
  directory := by rw [ha]; rfl
  known a h c hc := by
    rw [ha] at h
    cases h
    cases hc
    exact Nat.lt_succ_self _
  connecting p hp := .inl hp
  graph := by
    obtain ⟨hnc, hnext, hch⟩ | ⟨hnc, hnext, hch, hso, hcr⟩ :=
      withServerChannel_graph w l localPort d ptr
    · exact .same hnc hnext hch
    · exact .made hnc hnext hch hso hcr
  balanced := balanced_withSocket hb localPort.toNat (some l) ptr
  nextLink := Nat.le_refl _
  link _ _ := .refl _
  receiving _ _ h := h

theorem makesChannel_iff {localPort : UInt16} {mapper : Bool}
    {it : Iteration (InetSocketAddress × ChanId)} {d : Datagram} {ptr : Ptr} :
    w.makesChannel localPort mapper it d ptr = true ↔
      w.mapper.locate it d.address.getHostAddress d.port = .ok none ∧
        w.isUsedPort localPort.toNat = false ∧ mapper = true ∧ w.stack.initialized = true ∧
        ptr ≠ 0 := by
  unfold makesChannel
  rcases w.mapper.locate it d.address.getHostAddress d.port with e | _ | c <;> simp [and_assoc]

/-- An iteration that makes a channel hands it the datagram. -/
theorem serverIteration_makes (hb : w.stack.Balanced) {localPort : UInt16} {mapper : Bool}
    {it : Iteration (InetSocketAddress × ChanId)} {d : Datagram} {ptr : Ptr}
    (h : w.makesChannel localPort mapper it d ptr = true) (l : LinkId) :
    (serverIteration l localPort mapper it d ptr).run w =
      (onConnIn w.nextChannel (d.buffer Datagram.newBuffer) 0 d.length).run
        ((w.withServerChannel l localPort d ptr).withRegistration d.remote w.nextChannel) := by
  obtain ⟨hloc, hu, hm, hi, hp⟩ := makesChannel_iff.mp h
  rw [serverIteration_run hb, hloc]
  simp [hu, hm, hi, hp]

theorem serverIteration_effect (hb : w.stack.Balanced) {l : LinkId} {localPort : UInt16}
    {mapper : Bool} (hkind : (w.link l).kind = .server localPort mapper)
    (it : Iteration (InetSocketAddress × ChanId)) (d : Datagram) (ptr : Ptr) :
    Effect w (.serverDatagram l it d ptr)
      ((serverIteration l localPort mapper it d ptr).run w).2 := by
  have hquiet : w.makesChannel localPort mapper it d ptr = false →
      w.action (.serverDatagram l it d ptr) = none := fun h => by simp [action, hkind, h]
  cases hmakes : w.makesChannel localPort mapper it d ptr with
  | true =>
    have ha : w.action (.serverDatagram l it d ptr) =
        some (.register d.remote w.nextChannel) := by simp [action, hkind, hmakes]
    have hfresh := freshChannel_effect hb l localPort d ptr ha
    rw [serverIteration_makes hb hmakes]
    exact hfresh.quiet ((keeps_onConnIn w.nextChannel _ _ _).quiet hfresh.balanced)
  | false =>
    rw [serverIteration_run hb]
    cases hloc : w.mapper.locate it d.address.getHostAddress d.port with
    | error e => exact (Quiet.refl hb).effect (hquiet hmakes)
    | ok so =>
      cases so with
      | some c => exact ((keeps_onConnIn c _ _ _).quiet hb).effect (hquiet hmakes)
      | none =>
        dsimp only
        split_ifs with hu hi hp
        · exact (Quiet.refl hb).effect (hquiet hmakes)
        · exact (Quiet.refl hb).effect (hquiet hmakes)
        · exact (Quiet.refl hb).effect (hquiet hmakes)
        · rw [← Bool.not_eq_true, makesChannel_iff] at hmakes
          exact absurd ⟨hloc, by simpa using not_or.mp hu |>.1, by simpa using not_or.mp hu |>.2,
            by simpa using hi, hp⟩ hmakes

/-- A new link takes a number that is not in use. -/
theorem newLink_effect (hb : w.stack.Balanced) (ha : w.action op = none) {link : Link}
    (hr : link.receiving = true) : Effect w op (w.newLink link) where
  directory := by rw [ha]; rfl
  known a h := by rw [ha] at h; cases h
  connecting p hp := .inl hp
  graph := .same rfl rfl fun _ => rfl
  balanced := hb
  nextLink := Nat.le_succ _
  link l hl := by
    simp only [newLink, setLinkObj, Function.update_of_ne (Nat.ne_of_lt hl)]
    exact .refl _
  receiving _ l hl := by
    rcases eq_or_ne l w.nextLink with rfl | hne
    · simpa [newLink, setLinkObj] using hr
    · simpa [newLink, setLinkObj, Function.update_of_ne hne] using hl

theorem guard_eq_some {p : Prop} [Decidable p] {x y : World} :
    (if p then some x else none) = some y ↔ p ∧ x = y := by
  rw [Option.ite_none_right_eq_some, Option.some.injEq]

theorem exec_effect (hb : w.stack.Balanced) (h : exec w op = some w') : Effect w op w' := by
  cases op with
  | setInitialized b => cases h; exact Quiet.effect { Quiet.refl hb with } rfl
  | setShutdown _ | clearMap | unregister _ =>
    cases h
    exact effect_of_action rfl (fun _ h => by cases h) rfl (fun p hp => .inl hp)
      ⟨rfl, rfl, rfl⟩ hb ⟨rfl, rfl⟩
  | newServerLink localPort mapper => cases h; exact newLink_effect hb rfl rfl
  | newChannel localSctpPort remote link mapper ptr =>
    obtain ⟨_, rfl⟩ := guard_eq_some.mp h
    exact newSctpChannel_effect hb rfl ..
  | build b dynPort ptr =>
    obtain ⟨_, rfl⟩ := guard_eq_some.mp h
    exact build_effect hb rfl b dynPort ptr
  | setLink c link =>
    obtain ⟨_, rfl⟩ := guard_eq_some.mp h
    exact ((keeps_setLink c link).quiet hb).effect rfl
  | listen c =>
    obtain ⟨_, rfl⟩ := guard_eq_some.mp h
    exact ((keeps_listen c).quiet hb).effect rfl
  | putPort c port =>
    obtain ⟨_, rfl⟩ := guard_eq_some.mp h
    exact ((keeps_putPort c port).quiet hb).effect rfl
  | removePort c =>
    obtain ⟨_, rfl⟩ := guard_eq_some.mp h
    exact ((keeps_removePort c).quiet hb).effect rfl
  | linkClose l =>
    obtain ⟨_, rfl⟩ := guard_eq_some.mp h
    exact ((keeps_linkClose l).quiet hb).effect rfl
  | connectRegister c remote =>
    obtain ⟨hc, rfl⟩ := guard_eq_some.mp h
    exact connectRegister_effect hb hc remote
  | connectFinish c remote ok =>
    obtain ⟨_, rfl⟩ := guard_eq_some.mp h
    exact connectFinish_effect hb c remote ok
  | closeTask c =>
    obtain ⟨hc, rfl⟩ := guard_eq_some.mp h
    have hclosed : Effect w (.closeTask c) { w with closed := c :: w.closed } :=
      effect_of_action rfl (fun c' h => Option.some.inj h ▸ hc)
        (by simp [directory, Directory.apply]) (fun p hp => .inl hp) ⟨rfl, rfl, rfl⟩ hb ⟨rfl, rfl⟩
    exact hclosed.quiet (closeTask_quiet hb c)
  | register remote c =>
    obtain ⟨hc, rfl⟩ := guard_eq_some.mp h
    exact effect_of_action rfl (fun c' h => Option.some.inj h ▸ hc) rfl (fun p hp => .inl hp)
      ⟨rfl, rfl, rfl⟩ hb ⟨rfl, rfl⟩
  | newClientLink localAddr remote c bound =>
    obtain ⟨_, rfl⟩ := guard_eq_some.mp h
    exact (newLink_effect hb rfl rfl).quiet ((keeps_setLink c _).quiet hb)
  | serverDatagram l it d ptr =>
    simp only [exec] at h
    cases hkind : (w.link l).kind with
    | client => simp [hkind] at h
    | server localPort mapper =>
      simp only [hkind] at h
      obtain ⟨_, rfl⟩ := guard_eq_some.mp h
      exact (serverIteration_effect hb hkind it d ptr).afterIteration
        (by simp [iterationOk, hkind]) l
  | clientDatagram l before d =>
    simp only [exec] at h
    cases hkind : (w.link l).kind with
    | server => simp [hkind] at h
    | client remote c =>
      simp only [hkind] at h
      obtain ⟨_, rfl⟩ := guard_eq_some.mp h
      have hq : Quiet w ((clientIteration c before d).run w).2 := (keeps_onConnIn c _ _ _).quiet hb
      exact (hq.effect rfl).afterIteration (by simp [iterationOk, hkind]) l

/-! ## The invariant -/

/-- What holds of the object graph in every reachable state. -/
structure WF (w : World) : Prop where
  balanced : w.stack.Balanced
  so_lt : ∀ c < w.nextChannel, (w.channel c).so < w.stack.next
  so_inj : ∀ c < w.nextChannel, ∀ c' < w.nextChannel, (w.channel c).so = (w.channel c').so → c = c'
  listed : w.directory.Listed
  below : w.directory.Below w.nextChannel
  connecting : ∀ p ∈ w.connecting, p.1 < w.nextChannel
  created : ∀ c < w.nextChannel, ∀ l, (w.channel c).creator = some l →
    (∃ address port, (w.channel c).remote = some (.resolved address port)) ∧
      (w.channel c).mapper = true

theorem WF.value_lt (h : WF w) (hc : c ∈ w.mapper.socketMap.values) : c < w.nextChannel :=
  h.below.registered c (h.listed c hc)

theorem wf_empty : WF empty where
  balanced _ := Int.le_refl 0
  so_lt _ hc := absurd hc (Nat.not_lt_zero _)
  so_inj _ hc := absurd hc (Nat.not_lt_zero _)
  listed _ hc := absurd hc List.not_mem_nil
  below := ⟨fun _ hc => absurd hc List.not_mem_nil, fun _ hc => absurd hc List.not_mem_nil⟩
  connecting _ hp := absurd hp List.not_mem_nil
  created _ hc := absurd hc (Nat.not_lt_zero _)

theorem Graph.nextChannel_le (h : Graph w w') : w.nextChannel ≤ w'.nextChannel := by
  cases h with
  | same hnc => exact Nat.le_of_eq hnc.symm
  | made hnc => rw [hnc]; exact Nat.le_succ _

theorem Graph.next_le (h : Graph w w') : w.stack.next ≤ w'.stack.next := by
  cases h with
  | same _ hnext => exact Nat.le_of_eq hnext.symm
  | made _ hnext => rw [hnext]; exact Nat.le_succ _

/-- A channel after a step was there before, and its link is all that may have changed, or the step
made it. -/
theorem Graph.channel_cases (h : Graph w w') (hc : c < w'.nextChannel) :
    (c < w.nextChannel ∧ w'.channel c = { w.channel c with link := (w'.channel c).link }) ∨
      (c = w.nextChannel ∧ w'.stack.next = w.stack.next + 1 ∧ (w'.channel c).so = w.stack.next ∧
        ∀ l, (w'.channel c).creator = some l →
          (∃ address port, (w'.channel c).remote = some (.resolved address port)) ∧
            (w'.channel c).mapper = true) := by
  cases h with
  | same hnc _ hch => exact .inl ⟨hnc ▸ hc, hch c⟩
  | made hnc hnext hch hso hcr =>
    rcases eq_or_ne c w.nextChannel with rfl | hne
    · exact .inr ⟨rfl, hnext, hso, hcr⟩
    · rw [hnc] at hc
      exact .inl ⟨Nat.lt_of_le_of_ne (Nat.le_of_lt_succ hc) hne, hch c hne⟩

theorem WF.step (h : WF w) (he : Effect w op w') : WF w' where
  balanced := he.balanced
  so_lt c hc := by
    rcases he.graph.channel_cases hc with ⟨hlt, hch⟩ | ⟨_, hnext, hso, _⟩
    · rw [hch]
      exact Nat.lt_of_lt_of_le (h.so_lt c hlt) he.graph.next_le
    · rw [hso, hnext]
      exact Nat.lt_succ_self _
  so_inj c hc c' hc' heq := by
    -- the socket of a new channel is newer than all others
    rcases he.graph.channel_cases hc with ⟨hlt, hch⟩ | ⟨hnew, _, hso, _⟩ <;>
      rcases he.graph.channel_cases hc' with ⟨hlt', hch'⟩ | ⟨hnew', _, hso', _⟩
    · rw [hch, hch'] at heq
      exact h.so_inj c hlt c' hlt' heq
    · rw [hch, hso'] at heq
      exact absurd heq (Nat.ne_of_lt (h.so_lt c hlt))
    · rw [hso, hch'] at heq
      exact absurd heq (Nat.ne_of_gt (h.so_lt c' hlt'))
    · rw [hnew, hnew']
  listed := by
    rw [he.directory]
    cases w.action op with
    | none => exact h.listed
    | some a => exact h.listed.apply a
  below := by
    rw [he.directory]
    cases ha : w.action op with
    | none =>
      exact ⟨fun c hc => Nat.lt_of_lt_of_le (h.below.closed c hc) he.graph.nextChannel_le,
        fun c hc => Nat.lt_of_lt_of_le (h.below.registered c hc) he.graph.nextChannel_le⟩
    | some a => exact h.below.apply he.graph.nextChannel_le (he.known a ha)
  connecting p hp := by
    refine Nat.lt_of_lt_of_le ?_ he.graph.nextChannel_le
    rcases he.connecting p hp with hp | hp
    · exact h.connecting p hp
    · exact hp
  created c hc := by
    rcases he.graph.channel_cases hc with ⟨hlt, hch⟩ | ⟨_, _, _, hcr⟩
    · rw [hch]
      exact h.created c hlt
    · exact hcr

theorem wf_reachable (h : program.Reachable w) : WF w := by
  refine h.invariant (fun w hw => ?_) fun w op w' hw hs => hw.step (exec_effect hw.balanced hs)
  cases hw
  exact wf_empty

/-- The rule for runs of the program all of whose steps meet `ok`: what every step keeps, given the
invariant of the object graph and what a step does. -/
theorem invariant_of_restrict {ok : World → Op → Prop} [∀ w op, Decidable (ok w op)]
    {P : World → Prop} (hinit : P empty)
    (hstep : ∀ w op w', WF w → P w → ok w op → exec w op = some w' → Effect w op w' → P w')
    (h : (program.restrict ok).Reachable w) : P w := by
  refine (h.restrict_invariant (P := fun w => WF w ∧ P w) (fun w hw => ?_)
    fun w op w' hw hop hs => ?_).2
  · cases hw
    exact ⟨wf_empty, hinit⟩
  · have he := exec_effect hw.1.balanced hs
    exact ⟨hw.1.step he, hstep w op w' hw.1 hw.2 hop hs he⟩

end World

end Sctp4Nat
