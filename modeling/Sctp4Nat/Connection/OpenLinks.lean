import Sctp4Nat.Connection.ReceiveLoop

/-! # Open links

Only `close` of a link and the task of `SctpChannel.close` close a link, and only an exception ends
a receive loop: what any other operation does leaves the open links open (`exec_isShutdown`), and a
loop whose datagrams do not end it goes on (`exec_loopRuns`). -/

namespace Sctp4Nat.World

/-- The operations that close a link. -/
def closesLink : Op → Bool
  | .closeTask _ | .linkClose _ => true
  | _ => false

/-- A method that leaves the links alone. -/
def KeepsLinks {α : Type} (m : Java World α) : Prop :=
  ∀ links, Java.Spec (fun w => w.link = links) m (fun _ w => w.link = links)
    fun w => w.link = links

theorem KeepsLinks.link {α : Type} {m : Java World α} (h : KeepsLinks m) (w : World) :
    (m.run w).2.link = w.link :=
  (h w.link).state rfl

theorem KeepsLinks.pure {α : Type} (a : α) : KeepsLinks (pure a : Java World α) :=
  fun _ => .pure fun _ h => h

theorem KeepsLinks.throw {α : Type} (e : Throwable) : KeepsLinks (throw e : Java World α) :=
  fun _ => .throw fun _ h => h

theorem KeepsLinks.get : KeepsLinks (get : Java World World) := fun _ => .get fun _ h => h

theorem KeepsLinks.deref {α : Type} (o : Option α) : KeepsLinks (Java.deref o : Java World α) :=
  fun _ => .deref (fun _ _ _ h => h) fun _ h => h

theorem KeepsLinks.modify {f : World → World} (hf : ∀ w, (f w).link = w.link) :
    KeepsLinks (modify f : Java World PUnit) :=
  fun _ => .modify fun w h => (hf w).trans h

theorem KeepsLinks.onStack {α : Type} (m : Java Stack α) : KeepsLinks (onStack m) :=
  fun _ => .zoom (fun _ _ h _ => h) fun _ h => h

theorem KeepsLinks.bind {α β : Type} {m : Java World α} {f : α → Java World β}
    (hm : KeepsLinks m) (hf : ∀ a, KeepsLinks (f a)) : KeepsLinks (m >>= f) :=
  fun links => (hm links).bind fun a => hf a links

theorem KeepsLinks.tryCatch {α : Type} {m : Java World α} {f : Throwable → Java World α}
    (hm : KeepsLinks m) (hf : ∀ e, KeepsLinks (f e)) : KeepsLinks (tryCatch m f) :=
  fun links => (hm links).tryCatch fun e => hf e links

theorem keepsLinks_newSctpChannel (localSctpPort : Int) (remote : Option InetSocketAddress)
    (link : Option LinkId) (mapper : Bool) (ptr : Ptr) :
    KeepsLinks (newSctpChannel localSctpPort remote link mapper ptr) := by
  intro links w hw
  rw [newSctpChannel_run]
  by_cases hi : w.stack.initialized = false
  · rwa [if_pos hi]
  · rw [if_neg hi]
    by_cases hp : ptr = 0
    · rwa [if_pos hp]
    · rwa [if_neg hp]

theorem keepsLinks_build (b : SctpChannelBuilder) (dynPort : Int) (ptr : Ptr) :
    KeepsLinks (b.build dynPort ptr) := by
  unfold SctpChannelBuilder.build
  cases b.mapper with
  | false => exact .pure none
  | true => exact (keepsLinks_newSctpChannel _ _ _ _ _).bind fun c => .pure (some c)

theorem keepsLinks_listen (c : ChanId) : KeepsLinks (listen c) :=
  KeepsLinks.get.bind fun _ => .tryCatch (.onStack _) fun _ => .pure ()

theorem keepsLinks_connectRegister (c : ChanId) (remote : InetSocketAddress) :
    KeepsLinks (connectRegister c remote) := by
  refine KeepsLinks.get.bind fun w => ?_
  cases w.stack.initialized with
  | false => exact .pure ()
  | true =>
    cases (w.channel c).mapper with
    | false => exact .throw .npe
    | true =>
      simp only [Bool.not_true, Bool.false_eq_true, if_false]
      refine .bind (.modify fun _ => rfl) fun _ => .bind (.deref _) fun _ => ?_
      exact .modify fun _ => rfl

theorem keepsLinks_connectFinish (c : ChanId) (remote : InetSocketAddress) (ok : Bool) :
    KeepsLinks (connectFinish c remote ok) := by
  refine .bind (.modify fun _ => rfl) fun _ => KeepsLinks.get.bind fun w => ?_
  refine .tryCatch (.onStack _) fun e => ?_
  cases e with
  | ioException msg => exact .modify fun _ => rfl
  | _ => exact .throw _

theorem keepsLinks_onConnIn (c : ChanId) (data : Bytes) (offset length : Int32) :
    KeepsLinks (onConnIn c data offset length) := by
  refine .bind (.modify fun _ => rfl) fun _ => KeepsLinks.get.bind fun w => fun links => ?_
  exact .catchIOException (KeepsLinks.onStack _ links) fun _ h => h

theorem serverIteration_link {w : World} (hb : w.stack.Balanced) (l : LinkId) (localPort : UInt16)
    (mapper : Bool) (it : Iteration (InetSocketAddress × ChanId)) (d : Datagram) (ptr : Ptr) :
    ((serverIteration l localPort mapper it d ptr).run w).2.link = w.link := by
  rw [serverIteration_run hb]
  cases w.mapper.locate it d.address.getHostAddress d.port with
  | error e => rfl
  | ok so =>
    cases so with
    | some c => exact KeepsLinks.link (keepsLinks_onConnIn _ _ _ _) w
    | none =>
      split_ifs
      · rfl
      · rfl
      · rfl
      · exact KeepsLinks.link (keepsLinks_onConnIn _ _ _ _) _

theorem afterIteration_isShutdown (l : LinkId) (r : Except Throwable Unit × World) (l' : LinkId) :
    ((afterIteration l r).link l').isShutdown = (r.2.link l').isShutdown := by
  obtain ⟨_ | _, w⟩ := r
  · rcases eq_or_ne l' l with rfl | hl
    · simp [afterIteration, setLinkObj]
    · simp [afterIteration, setLinkObj, Function.update_of_ne hl]
  · rfl

theorem newLink_link {w : World} {l : LinkId} (hl : l < w.nextLink) (link : Link) :
    (w.newLink link).link l = w.link l :=
  Function.update_of_ne (Nat.ne_of_lt hl) ..

/-- Every other operation leaves the links open that are. -/
theorem exec_isShutdown {w w' : World} {op : Op} {l : LinkId} (hb : w.stack.Balanced)
    (hop : closesLink op = false) (h : exec w op = some w') (hl : l < w.nextLink) :
    (w'.link l).isShutdown = (w.link l).isShutdown := by
  cases op with
  | setInitialized _ | setShutdown _ | clearMap | unregister _ => cases h; rfl
  | closeTask _ | linkClose _ => cases hop
  | newChannel localSctpPort remote link mapper ptr =>
    obtain ⟨_, rfl⟩ := guard_eq_some.mp h
    rw [KeepsLinks.link (keepsLinks_newSctpChannel _ _ _ _ _)]
  | build b dynPort ptr =>
    obtain ⟨_, rfl⟩ := guard_eq_some.mp h
    rw [KeepsLinks.link (keepsLinks_build _ _ _)]
  | setLink c link | register remote c | putPort c port =>
    obtain ⟨_, rfl⟩ := guard_eq_some.mp h
    rfl
  | listen c =>
    obtain ⟨_, rfl⟩ := guard_eq_some.mp h
    rw [(keepsLinks_listen c).link]
  | connectRegister c remote =>
    obtain ⟨_, rfl⟩ := guard_eq_some.mp h
    rw [(keepsLinks_connectRegister c remote).link]
  | connectFinish c remote ok =>
    obtain ⟨_, rfl⟩ := guard_eq_some.mp h
    rw [(keepsLinks_connectFinish c remote ok).link]
  | removePort c =>
    obtain ⟨_, rfl⟩ := guard_eq_some.mp h
    rw [KeepsLinks.link fun _ => removePort_spec fun _ _ h => h]
  | newServerLink localPort mapper =>
    cases h
    rw [newLink_link hl]
  | newClientLink localAddr remote c bound =>
    obtain ⟨_, rfl⟩ := guard_eq_some.mp h
    exact congrArg Link.isShutdown (newLink_link hl _)
  | serverDatagram l' it d ptr =>
    cases hkind : (w.link l').kind with
    | client => simp [exec, hkind] at h
    | server localPort mapper =>
      simp only [exec, hkind] at h
      obtain ⟨_, rfl⟩ := guard_eq_some.mp h
      rw [afterIteration_isShutdown, serverIteration_link hb]
  | clientDatagram l' before d =>
    cases hkind : (w.link l').kind with
    | server => simp [exec, hkind] at h
    | client remote c =>
      simp only [exec, hkind] at h
      obtain ⟨_, rfl⟩ := guard_eq_some.mp h
      have hlink := KeepsLinks.link (keepsLinks_onConnIn c (d.buffer before) 0 d.length) w
      rw [afterIteration_isShutdown, clientIteration, hlink]

/-- The channels that are closed stay the same. -/
theorem exec_closed {w w' : World} {op : Op} (hb : w.stack.Balanced)
    (hop : closesLink op = false) (h : exec w op = some w') : w'.closed = w.closed := by
  have hclosed : ∀ a ∈ w.action op, (w.directory.apply a).closed = w.closed := by
    intro a ha
    cases op with
    | closeTask _ | linkClose _ => cases hop
    | setShutdown _ | clearMap | register _ _ | unregister _ => cases ha; rfl
    | connectRegister c remote | connectFinish c remote ok =>
      obtain ⟨_, rfl⟩ := Option.ite_none_right_eq_some.mp ha |>.imp_right Option.some.inj
      rfl
    | serverDatagram l it d ptr =>
      simp only [action] at ha
      split at ha
      · obtain ⟨_, rfl⟩ := Option.ite_none_right_eq_some.mp ha |>.imp_right Option.some.inj
        rfl
      · cases ha
    | _ => cases ha
  have hd := congrArg Directory.closed (exec_effect hb h).directory
  cases ha : w.action op with
  | none => rwa [ha] at hd
  | some a =>
    rw [ha] at hd
    exact hd.trans (hclosed a ha)

/-- The receive loop of the link goes on. -/
def loopRuns (w : World) (l : LinkId) : Bool := (w.link l).receiving && !(w.link l).isShutdown

/-- A loop goes on if no link is closed and its datagrams do not end it. -/
theorem exec_loopRuns {w w' : World} {op : Op} {l : LinkId} (hb : w.stack.Balanced)
    (hop : closesLink op = false) (hsurvives : w.survives op = true)
    (h : exec w op = some w') (hl : l < w.nextLink) (hruns : loopRuns w l = true) :
    loopRuns w' l = true := by
  rw [loopRuns, Bool.and_eq_true] at hruns ⊢
  refine ⟨?_, by rw [exec_isShutdown hb hop h hl]; exact hruns.2⟩
  have hok := iterationOk_of_survives hb hsurvives h
  exact (exec_effect hb h).receiving hok l hruns.1

end Sctp4Nat.World
