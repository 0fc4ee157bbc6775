import Sctp4Nat.Connection.Effect

/-! # `SctpConnection`

`SctpConnection.connect` builds a channel for the remote, gives it a link, its own if the caller
has none, and connects it. It is a sequence of operations of the program, between which those of
other threads may fall; `connect_leads` says so for a call that no other thread interrupts, and
for every condition on operations that the calls before the registration meet. -/

namespace Sctp4Nat

open World (portNotInitialized isInValidRange)

/-- The addresses and the port of the builder. `connect` stores the port it falls back to, which
is the one that the next call would fall back to. -/
structure SctpConnection where
  localAddr : Option InetSocketAddress
  remote : Option InetSocketAddress
  localSctpPort : Int := portNotInitialized
  deriving DecidableEq, Repr

namespace World

/-- The constructor of `UdpClientLink`; `bindError` is the message of the exception that
`new DatagramSocket` throws. The channel then has a link without a UDP socket. -/
def newUdpClientLink (localAddr remote : InetSocketAddress) (so : ChanId)
    (bindError : Option String) : Java World LinkId := do
  let w ← get
  set (w.newLink (clientLink localAddr remote so bindError.isNone))
  setLink so (some w.nextLink)
  match bindError with
  | none => pure w.nextLink
  | some msg => throw (.ioException msg)

/-- `SctpChannel.connect`; `ok` is what `usrsctp_connect` returns. -/
def connect (c : ChanId) (remote : InetSocketAddress) (ok : Bool) : Java World Unit := do
  connectRegister c remote
  let w ← get
  if w.stack.initialized then connectFinish c remote ok

end World

namespace SctpConnection

open World

/-- The builder chain in the `try` block of `connect`; `mapper` is whether `SctpUtils.getMapper`
returns one, `ptr` what `usrsctp_socket` returns. -/
def buildSocket (remote : InetSocketAddress) (localSctpPort : Int) (mapper : Bool) (ptr : Ptr) :
    Java World (Option ChanId) := do
  let b := ((({} : SctpChannelBuilder).setRemoteAddress remote.getAddress).setRemotePort
    remote.getPort.toNat).setMapper mapper
  let b ← Java.deref (← b.setLocalSctpPort localSctpPort)
  b.build 0 ptr

/-- The rest of `connect`, once there is a channel. -/
def connectSocket (localAddr remote : InetSocketAddress) (so : ChanId) (link : Option LinkId)
    (bindError : Option String) (ok : Bool) : Java World Unit := do
  let link2 ← match link with
    | none => newUdpClientLink localAddr remote so bindError
    | some l => pure l
  setLink so (some link2)
  World.connect so remote ok

def connect (conn : SctpConnection) (link : Option LinkId) (mapper : Bool)
    (bindError : Option String) (ptr : Ptr) (ok : Bool) : Java World Unit :=
  match conn.remote, conn.localAddr with
  | none, _ => throw (.nullPointerException
      "Remote InetSocketAddress was null. We can't connect to null!")
  | some _, none => throw (.nullPointerException
      "Local InetSocketAddress was null. We can't connect to null!")
  | some remote, some localAddr => do
    let localSctpPort : Int :=
      if conn.localSctpPort = portNotInitialized then remote.getPort.toNat else conn.localSctpPort
    let socket ← tryCatch (buildSocket remote localSctpPort mapper ptr) fun
      | .sctpInitException msg => throw (.sctpInitException msg)
      | e => throw e
    match socket with
    | none => throw (.nullPointerException "Could not create SctpSocketAdapter!")
    | some so => connectSocket localAddr remote so link bindError ok

/-! ## A call as a sequence of operations -/

/-- The remote of the channel that `connect` builds: an address without `InetAddress` is not set
in the builder. -/
def builtRemote (remote : InetSocketAddress) : Option InetSocketAddress :=
  if remote.getAddress.isSome then some remote else none

/-- What the builder chain has collected when it comes to `build`. -/
def builder (remote : InetSocketAddress) (localSctpPort : Int) (mapper : Bool) :
    SctpChannelBuilder where
  localSctpPort := localSctpPort
  remotePort := remote.getPort.toNat
  remoteAddress := remote.getAddress
  mapper := mapper

theorem builder_remote (remote : InetSocketAddress) (localSctpPort : Int) (mapper : Bool) :
    (builder remote localSctpPort mapper).remote = builtRemote remote := by
  cases remote with
  | resolved address port =>
    simp [SctpChannelBuilder.remote, builder, natCast_ne_portNotInitialized, builtRemote,
      InetSocketAddress.getAddress, InetSocketAddress.getPort]
  | unresolved host port =>
    simp [SctpChannelBuilder.remote, builder, builtRemote, InetSocketAddress.getAddress]

/-- The chain ends in a `NullPointerException` on a port that is taken or out of range. -/
theorem buildSocket_run (w : World) (remote : InetSocketAddress) (localSctpPort : Int)
    (mapper : Bool) (ptr : Ptr) : (buildSocket remote localSctpPort mapper ptr).run w =
      if isInValidRange localSctpPort = true ∧ w.isUsedPort localSctpPort = false then
        ((builder remote localSctpPort mapper).build 0 ptr).run w
      else (.error .npe, w) := by
  have hb : ((({} : SctpChannelBuilder).setRemoteAddress remote.getAddress).setRemotePort
      remote.getPort.toNat).setMapper mapper = { builder remote localSctpPort mapper with
        localSctpPort := portNotInitialized } := by
    cases mapper <;> cases ha : remote.getAddress <;>
      simp [SctpChannelBuilder.setRemotePort, SctpChannelBuilder.setRemoteAddress,
        SctpChannelBuilder.setMapper, isInValidRange_port, builder, ha]
  rw [buildSocket, hb]
  cases hv : isInValidRange localSctpPort with
  | false => simp [SctpChannelBuilder.setLocalSctpPort, Java.run_bind, hv]
  | true =>
    cases hu : w.isUsedPort localSctpPort with
    | true => simp [SctpChannelBuilder.setLocalSctpPort, Java.run_bind, hv, hu]
    | false =>
      simp [SctpChannelBuilder.setLocalSctpPort, Java.run_bind, hv, hu]
      rfl

end SctpConnection

namespace World

/-- An operation in which the caller registers an address. -/
def Op.registers : Op → Bool
  | .connectRegister .. | .register .. => true
  | _ => false

section Leads

variable {ok : World → Op → Prop} [∀ w op, Decidable (ok w op)] {w w' : World} {c : ChanId}

theorem exec_leads (hok : ok w op) (h : exec w op = some w') : (program.restrict ok).Leads w w' :=
  .single (Machine.restrict_exec_iff.mpr ⟨hok, h⟩)

/-- A `connect` that has returned from the registration on an initialised stack is about to call
`connectNative`. -/
theorem connectRegister_ok {remote : InetSocketAddress}
    (h : (connectRegister c remote).run w = (.ok u, w')) (hi : w'.stack.initialized = true) :
    (c, remote) ∈ w'.connecting := by
  cases hw : w.stack.initialized with
  | false =>
    have : w = w' := by simpa [connectRegister, Java.run_bind, hw] using h
    rw [this, hi] at hw
    cases hw
  | true =>
    cases hm : (w.channel c).mapper with
    | false => simp [connectRegister, Java.run_bind, hw, hm] at h
    | true =>
      cases ha : remote.getAddress with
      | none => simp [connectRegister, Java.run_bind, hw, hm, register_run, ha] at h
      | some address =>
        simp only [connectRegister, Java.run_bind, Java.run_get, hw, hm, register_run, ha,
          Bool.not_true, Bool.false_eq_true, if_false, Java.run_deref_some, Java.run_modify,
          Prod.mk.injEq] at h
        rw [← h.2]
        exact List.mem_cons_self

variable (hsetup : ∀ w op, op.registers = false → ok w op)
include hsetup

theorem connect_leads {remote : InetSocketAddress} (hc : c < w.nextChannel)
    (hok : ok w (.connectRegister c remote)) (answer : Bool) :
    (program.restrict ok).Leads w ((connect c remote answer).run w).2 := by
  have hreg : exec w (.connectRegister c remote) = some ((connectRegister c remote).run w).2 :=
    guard_eq_some.mpr ⟨hc, rfl⟩
  rw [connect, Java.run_bind]
  cases hr : (connectRegister c remote).run w with
  | mk r w₁ =>
    rw [hr] at hreg
    cases r with
    | error e => exact exec_leads hok hreg
    | ok u =>
      dsimp only
      rw [Java.run_bind_ok (Java.run_get w₁)]
      cases hi : w₁.stack.initialized with
      | false => exact exec_leads hok hreg
      | true =>
        refine (exec_leads hok hreg).tail ⟨.connectFinish c remote answer, ?_⟩
        exact Machine.restrict_exec_iff.mpr ⟨hsetup _ _ rfl,
          guard_eq_some.mpr ⟨connectRegister_ok hr hi, rfl⟩⟩

/-- `setLink` leaves the remote of the channel as it is. -/
theorem setLink_leads (hc : c < w.nextChannel) (link : Option LinkId) :
    ∃ w', (setLink c link).run w = (.ok (), w') ∧ (program.restrict ok).Leads w w' ∧
      w'.nextChannel = w.nextChannel ∧ (w'.channel c).remote = (w.channel c).remote := by
  refine ⟨_, setLink_run w c link, exec_leads (hsetup w (.setLink c link) rfl)
    (guard_eq_some.mpr ⟨hc, rfl⟩), rfl, ?_⟩
  simp [setChannel]

/-- A new client link leaves the remote of the channel as it is, whether it gets its UDP socket
or not. -/
theorem newUdpClientLink_leads (hc : c < w.nextChannel) (localAddr remote : InetSocketAddress)
    (bindError : Option String) :
    ∃ r w', (newUdpClientLink localAddr remote c bindError).run w = (r, w') ∧
      (program.restrict ok).Leads w w' ∧ w'.nextChannel = w.nextChannel ∧
      (w'.channel c).remote = (w.channel c).remote := by
  let w₁ := ((setLink c (some w.nextLink)).run
    (w.newLink (clientLink localAddr remote c bindError.isNone))).2
  have hlink : (program.restrict ok).Leads w w₁ :=
    exec_leads (hsetup w (.newClientLink localAddr remote c bindError.isNone) rfl)
      (guard_eq_some.mpr ⟨hc, rfl⟩)
  have hremote : (w₁.channel c).remote = (w.channel c).remote := by
    simp [w₁, setLink_run, setChannel, newLink, setLinkObj]
  cases bindError with
  | none => exact ⟨.ok w.nextLink, w₁, rfl, hlink, rfl, hremote⟩
  | some msg => exact ⟨.error (.ioException msg), w₁, rfl, hlink, rfl, hremote⟩

end Leads

end World

namespace SctpConnection

open World

variable {ok : World → Op → Prop} [∀ w op, Decidable (ok w op)] {w : World}

theorem connectSocket_leads (hsetup : ∀ w op, op.registers = false → ok w op)
    {localAddr remote : InetSocketAddress} {c : ChanId} (hc : c < w.nextChannel)
    (hok : ∀ w' : World, (w'.channel c).remote = (w.channel c).remote →
      ok w' (.connectRegister c remote)) (link : Option LinkId) (bindError : Option String)
    (answer : Bool) : (program.restrict ok).Leads w
      ((connectSocket localAddr remote c link bindError answer).run w).2 := by
  -- with a link at hand, what is left is `setLink` and `SctpChannel.connect`
  have hrest : ∀ (w₁ : World) (l : LinkId), (program.restrict ok).Leads w w₁ →
      w₁.nextChannel = w.nextChannel → (w₁.channel c).remote = (w.channel c).remote →
      (program.restrict ok).Leads w
        ((setLink c (some l) >>= fun _ => World.connect c remote answer).run w₁).2 := by
    intro w₁ l hl hn hr
    obtain ⟨w₂, hrun, hl₂, hn₂, hr₂⟩ := setLink_leads hsetup (hn ▸ hc : c < w₁.nextChannel) (some l)
    rw [Java.run_bind_ok hrun]
    exact (hl.trans hl₂).trans (connect_leads hsetup (by rw [hn₂, hn]; exact hc)
      (hok w₂ (hr₂.trans hr)) answer)
  cases link with
  | some l => exact hrest w l .refl rfl rfl
  | none =>
    obtain ⟨r, w₁, hrun, hl, hn, hr⟩ := newUdpClientLink_leads hsetup hc localAddr remote bindError
    rw [connectSocket, Java.run_bind, hrun]
    cases r with
    | error e => exact hl
    | ok l => exact hrest w₁ l hl hn hr

/-- A call of `connect` is a sequence of operations of the program. Of these only the
registration puts an entry into the mapper, and the channel it registers was built with the remote
that is registered, unless that has no `InetAddress`. -/
theorem connect_leads (conn : SctpConnection) (hsetup : ∀ w op, op.registers = false → ok w op)
    (hok : ∀ (w' : World) c remote, conn.remote = some remote →
      (w'.channel c).remote = builtRemote remote → ok w' (.connectRegister c remote))
    (link : Option LinkId) (mapper : Bool) (bindError : Option String) {ptr : Ptr}
    (hptr : w.allocates ptr = true) (answer : Bool) :
    (program.restrict ok).Leads w
      ((conn.connect link mapper bindError ptr answer).run w).2 := by
  unfold connect
  cases hremote : conn.remote with
  | none => exact .refl
  | some remote =>
    cases conn.localAddr with
    | none => exact .refl
    | some localAddr =>
      dsimp only
      generalize (if conn.localSctpPort = portNotInitialized then (remote.getPort.toNat : Int)
        else conn.localSctpPort) = port
      rw [Java.run_bind, Java.run_tryCatch, buildSocket_run]
      split_ifs with hport
      swap
      · exact .refl
      have hbuild : exec w (.build (builder remote port mapper) 0 ptr) =
          some (((builder remote port mapper).build 0 ptr).run w).2 :=
        guard_eq_some.mpr ⟨hptr, rfl⟩
      rw [SctpChannelBuilder.build_run] at hbuild ⊢
      generalize (if (builder remote port mapper).localSctpPort = portNotInitialized then (0 : Int)
        else (builder remote port mapper).localSctpPort) = assigned at hbuild ⊢
      split_ifs at hbuild ⊢
      · exact .refl
      · exact .refl
      · exact .refl
      · refine (exec_leads (hsetup _ _ rfl) hbuild).trans
          (connectSocket_leads hsetup (Nat.lt_succ_self _) (fun w' hr => ?_) link bindError answer)
        refine hok w' _ remote hremote (hr.trans ?_)
        simp [withChannel, builder_remote]

end SctpConnection

end Sctp4Nat
