import Sctp4Nat.Connection.Program
import Sctp4Nat.Origin.Engine

/-! # `SctpUtils.init`

`init` brings up the engine and makes the default `UdpServerLink`. The port it binds is picked by
two helpers: `checkFreePort`, which is meant to say that a port is not in use and returns
`isUsedPort`, and `checkRange`, which is a disjunction that holds of every number. So the port of
the caller is used exactly when it is taken, and the tunneling port otherwise (`init_ok`). -/

namespace Sctp4Nat.SctpUtils

/-- `SctpPorts.SCTP_TUNNELING_PORT`. -/
def sctpTunnelingPort : Int32 := 9899

/-- What the host does with a new UDP socket. -/
structure Host where
  /-- The message of the exception when the address and the port cannot be bound. -/
  bindError : InetAddress → UInt16 → Option String
  /-- The port of a socket that asks for port 0. -/
  ephemeral : UInt16

/-- A port number that is in range, as a port. -/
def toPort (port : Int32) : UInt16 := UInt16.ofNat port.toNatClampNeg

/-- `new DatagramSocket(port, laddr)`, with the port that the socket is bound to. -/
def newDatagramSocket {σ : Type} (host : Host) (port : Int32) (laddr : InetAddress) :
    Java σ UInt16 :=
  if port < 0 ∨ port > 65535 then
    throw (.illegalArgumentException ("port out of range:" ++ toString port.toInt))
  else
    match host.bindError laddr (toPort port) with
    | some msg => throw (.ioException msg)
    | none => pure (if port = 0 then host.ephemeral else toPort port)

/-- What a `UdpServerLink` is made with: the address and the port of its UDP socket, and the
callback of its channels. -/
structure ServerLink (Cb : Type) where
  localAddress : InetAddress
  port : UInt16
  cb : Cb

/-- The statics that `init` works on. -/
structure Statics (Cb : Type) where
  world : World
  engine : Engine
  /-- Whether the field `mapper` is set. -/
  mapper : Bool
  link : Option LinkId
  server : LinkId → Option (ServerLink Cb)

variable {Cb : Type}

/-- The constructor of `UdpServerLink` with a port; it stores the link in `SctpUtils.link`. -/
def newUdpServerLinkAt (host : Host) (mapper : Bool) (localAddress : InetAddress)
    (localPort : Int32) (cb : Cb) : Java (Statics Cb) LinkId := do
  let port ← newDatagramSocket host localPort localAddress
  let s ← get
  let l := s.world.nextLink
  set { s with
    world := s.world.newLink { kind := .server (toPort localPort) mapper }
    link := some l
    server := Function.update s.server l (some ⟨localAddress, port, cb⟩) }
  pure l

/-- The constructor of `UdpServerLink` without a port. -/
def newUdpServerLink (host : Host) (mapper : Bool) (localAddress : InetAddress) (cb : Cb) :
    Java (Statics Cb) LinkId :=
  newUdpServerLinkAt host mapper localAddress sctpTunnelingPort cb

/-- Documented to return true if the port is not already used. -/
def checkFreePort (w : World) (sctpServerPort : Int32) : Bool := w.isUsedPort sctpServerPort.toInt

/-- Documented to return true if the port is in the valid range. -/
def checkRange (sctpServerPort : Int32) : Bool :=
  decide (sctpServerPort ≤ 65535) || decide (sctpServerPort > 0)

/-- `Sctp.getInstance().init()`. -/
def sctpInit : Java (Statics Cb) Unit :=
  Java.zoom Statics.engine (fun engine s => { s with
    engine
    world := { s.world with stack := { s.world.stack with initialized := engine.initialized } } })
    Engine.init

/-- The part of `init` that makes the link. -/
def initLink (host : Host) (localAddr : Option InetAddress) (localSctpPort : Int32) (cb : Cb) :
    Java (Statics Cb) LinkId := do
  let s ← get
  match localAddr with
  | none => throw (.sctpInitException
      "ServerAddress was null! Can't init sctp without a valid InetSocketAddress!")
  | some localAddr =>
    if !checkFreePort s.world localSctpPort || !checkRange localSctpPort then
      newUdpServerLink host s.mapper localAddr cb
    else
      newUdpServerLinkAt host s.mapper localAddr localSctpPort cb

/-- `SctpUtils.link` is set and `SctpMapper.setShutdown(false)` is called. -/
def Statics.withLink (s : Statics Cb) (l : LinkId) : Statics Cb :=
  { s with
    link := some l
    world := { s.world with mapper := { s.world.mapper with isShutdown := false } } }

/-- `defaultCb` is what `new SctpDefaultStreamConfig().getCb()` returns. -/
def init (host : Host) (defaultCb : Cb) (localAddr : Option InetAddress) (localSctpPort : Int32)
    (cb : Option Cb) : Java (Statics Cb) Unit := do
  if (← get).engine.initialized then
    throw (.sctpInitException
      "Sctp is already initialized. You should not initialize it twice!")
  sctpInit
  let l ← initLink host localAddr localSctpPort (cb.getD defaultCb)
  modify fun s => s.withLink l

/-! ## The helpers -/

theorem checkRange_eq_true (p : Int32) : checkRange p = true := by
  rw [checkRange, Bool.or_eq_true, decide_eq_true_eq, decide_eq_true_eq]
  simp only [Int32.le_iff_toInt_le, gt_iff_lt, Int32.lt_iff_toInt_lt]
  have hmax : (65535 : Int32).toInt = 65535 := rfl
  have hzero : (0 : Int32).toInt = 0 := rfl
  omega

/-- `init` goes on with the port it was given only when the port is in use. -/
theorem usesDefault_eq (w : World) (p : Int32) :
    (!checkFreePort w p || !checkRange p) = !w.isUsedPort p.toInt := by
  rw [checkRange_eq_true, checkFreePort, Bool.not_true, Bool.or_false]

/-- A port number of the range is the number of its port. -/
theorem toNat_toPort {p : Int32} (h0 : 0 ≤ p.toInt) (hle : p.toInt ≤ 65535) :
    ((toPort p).toNat : Int) = p.toInt := by
  have hclamp : (p.toNatClampNeg : Int) = p.toInt := Int.toNat_of_nonneg h0
  rw [toPort, UInt16.toNat_ofNat']
  omega

/-- A socket is bound to the port that was asked for, but for port 0. -/
theorem newDatagramSocket_ok {σ : Type} {s s' : σ} {host : Host} {p : Int32} {laddr : InetAddress}
    (h : (newDatagramSocket host p laddr).run s = (.ok q, s')) :
    s' = s ∧ 0 ≤ p.toInt ∧ p.toInt ≤ 65535 ∧ q = if p = 0 then host.ephemeral else toPort p := by
  unfold newDatagramSocket at h
  split at h
  · cases h
  · rename_i hrange
    simp only [not_or, gt_iff_lt, Int32.lt_iff_toInt_lt, Int.not_lt] at hrange
    split at h
    · cases h
    · cases h
      exact ⟨rfl, hrange.1, hrange.2, rfl⟩

theorem newUdpServerLinkAt_ok {s s' : Statics Cb} {host : Host} {p : Int32} {cb : Cb}
    {localAddress : InetAddress} {mapper : Bool}
    (h : (newUdpServerLinkAt host mapper localAddress p cb).run s = (.ok l, s')) :
    0 ≤ p.toInt ∧ p.toInt ≤ 65535 ∧
      s'.server l = some ⟨localAddress, if p = 0 then host.ephemeral else toPort p, cb⟩ := by
  obtain ⟨q, s₁, hsock, h⟩ := Java.run_bind_eq_ok h
  obtain ⟨rfl, h0, hle, rfl⟩ := newDatagramSocket_ok hsock
  cases h
  exact ⟨h0, hle, Function.update_self ..⟩

/-! ## The bound port -/

/-- The link of `SctpUtils` is bound to this port. -/
def BoundTo (s : Statics Cb) (port : Int) : Prop :=
  ∃ l server, s.link = some l ∧ s.server l = some server ∧ (server.port.toNat : Int) = port

/-- A link is bound to one port. -/
theorem BoundTo.iff_eq {s : Statics Cb} (h : BoundTo s q) : BoundTo s p ↔ p = q := by
  constructor
  · rintro ⟨l', server', hl', hs', rfl⟩
    obtain ⟨l, server, hl, hs, rfl⟩ := h
    cases hl.symm.trans hl'
    cases hs.symm.trans hs'
    rfl
  · rintro rfl
    exact h

/-- The port a link is bound to that was made for `p`. -/
def Host.assigned (host : Host) (p : Int32) : Int :=
  if p = 0 then host.ephemeral.toNat else p.toInt

section

variable {s s' : Statics Cb} {host : Host} {defaultCb : Cb} {localAddr : InetAddress} {p : Int32}
  {cb : Option Cb}

theorem newUdpServerLinkAt_boundTo {cb : Cb} {mapper : Bool}
    (h : (newUdpServerLinkAt host mapper localAddr p cb).run s = (.ok l, s'))
    (hlink : s₁.link = some l) (hserver : s₁.server = s'.server) :
    BoundTo s₁ (host.assigned p) := by
  obtain ⟨h0, hle, hs⟩ := newUdpServerLinkAt_ok h
  refine ⟨l, _, hlink, hserver ▸ hs, ?_⟩
  unfold Host.assigned
  split
  · rfl
  · exact toNat_toPort h0 hle

theorem sctpInit_portMap (s : Statics Cb) :
    (sctpInit.run s).2.world.portMap = s.world.portMap := rfl

/-- `init` starts the engine and makes the link. -/
theorem init_run_eq_ok (h : (init host defaultCb addr p cb).run s = (.ok (), s')) :
    ∃ l s₁, (initLink host addr p (cb.getD defaultCb)).run (sctpInit.run s).2 = (.ok l, s₁) ∧
      s' = s₁.withLink l := by
  unfold init at h
  obtain ⟨_, _, hget, h⟩ := Java.run_bind_eq_ok h
  cases hget
  cases hi : s.engine.initialized with
  | true =>
    simp only [hi] at h
    cases h
  | false =>
    simp only [hi] at h
    obtain ⟨_, s₀, hinit, h⟩ := Java.run_bind_eq_ok h
    obtain ⟨l, s₁, hlink, h⟩ := Java.run_bind_eq_ok h
    cases h
    exact ⟨l, s₁, by rw [hinit]; exact hlink, rfl⟩

/-- After `init` the link is bound to the port of the caller when that port is in use, and to the
tunneling port when it is not. -/
theorem init_ok (h : (init host defaultCb (some localAddr) p cb).run s = (.ok (), s')) :
    if p.toInt ∈ s.world.portMap.values then
      0 ≤ p.toInt ∧ p.toInt ≤ 65535 ∧ BoundTo s' (host.assigned p)
    else BoundTo s' 9899 := by
  obtain ⟨l, s₁, hlink, rfl⟩ := init_run_eq_ok h
  obtain ⟨_, _, hget, hlink⟩ := Java.run_bind_eq_ok hlink
  cases hget
  dsimp only at hlink
  rw [usesDefault_eq, World.isUsedPort, sctpInit_portMap] at hlink
  by_cases hused : p.toInt ∈ s.world.portMap.values
  · rw [ConcurrentHashMap.contains_iff.mpr hused] at hlink
    obtain ⟨h0, hle, -⟩ := newUdpServerLinkAt_ok hlink
    rw [if_pos hused]
    exact ⟨h0, hle, newUdpServerLinkAt_boundTo hlink rfl rfl⟩
  · rw [Bool.eq_false_iff.mpr fun hc => hused (ConcurrentHashMap.contains_iff.mp hc)] at hlink
    rw [if_neg hused]
    exact newUdpServerLinkAt_boundTo (p := sctpTunnelingPort) hlink rfl rfl

/-- The port is in the range that `checkRange` is documented to test. -/
def InRange (p : Int32) : Prop := 0 < p.toInt ∧ p.toInt ≤ 65535

instance (p : Int32) : Decidable (InRange p) := inferInstanceAs (Decidable (_ ∧ _))

/-- The default link of a caller who asks for `p`: on `p` when it is in range and not in use, else
on the tunneling port. -/
def Honours (s' : Statics Cb) (portMap : ConcurrentHashMap ChanId Int) (p : Int32) : Prop :=
  (InRange p ∧ p.toInt ∉ portMap.values → BoundTo s' p.toInt) ∧
    (¬ InRange p ∨ p.toInt ∈ portMap.values → BoundTo s' 9899)

theorem Host.assigned_eq_iff :
    9899 = host.assigned p ↔ p.toInt = 9899 ∨ p = 0 ∧ host.ephemeral = 9899 := by
  unfold Host.assigned
  split
  · rename_i hzero
    have hport : 9899 = (host.ephemeral.toNat : Int) ↔ host.ephemeral = 9899 := by
      rw [← UInt16.toNat_inj]
      exact eq_comm.trans Int.ofNat_inj
    rw [hport, hzero]
    simp
  · rename_i hne
    simp [hne, eq_comm]

/-- An `init` that succeeds, which it does on an engine that is not initialised only, makes the
link that the caller asked for exactly when the port is the tunneling port, or out of range and
not in use; or else when it is 0, in use, and the host happens to give out the tunneling port. -/
theorem init_honours_iff (h : (init host defaultCb (some localAddr) p cb).run s = (.ok (), s')) :
    Honours s' s.world.portMap p ↔
      p.toInt = 9899 ∨ (¬ InRange p ∧ p.toInt ∉ s.world.portMap.values) ∨
        (p = 0 ∧ p.toInt ∈ s.world.portMap.values ∧ host.ephemeral = 9899) := by
  have hbound := init_ok h
  by_cases hused : p.toInt ∈ s.world.portMap.values
  · rw [if_pos hused] at hbound
    obtain ⟨-, -, hbound⟩ := hbound
    have hhonours : Honours s' s.world.portMap p ↔ BoundTo s' 9899 :=
      ⟨fun hh => hh.2 (.inr hused), fun hb => ⟨fun hfree => absurd hused hfree.2, fun _ => hb⟩⟩
    rw [hhonours, hbound.iff_eq, Host.assigned_eq_iff]
    simp only [hused, not_true_eq_false, and_false, true_and, false_or]
  · rw [if_neg hused] at hbound
    have hhonours : Honours s' s.world.portMap p ↔ (InRange p → p.toInt = 9899) :=
      ⟨fun hh hr => hbound.iff_eq.mp (hh.1 ⟨hr, hused⟩),
        fun hp => ⟨fun hfree => hbound.iff_eq.mpr (hp hfree.1), fun _ => hbound⟩⟩
    rw [hhonours]
    simp only [hused, not_false_eq_true, and_true, false_and, and_false, or_false]
    constructor
    · intro hp
      by_cases hr : InRange p
      · exact .inl (hp hr)
      · exact .inr hr
    · rintro (hp | hr)
      · exact fun _ => hp
      · exact fun hr' => absurd hr' hr

end

/-! ## `init` in a run of the program -/

/-- The method is a sequence of operations of the program, however it ends. -/
def Follows {α : Type} (m : Java (Statics Cb) α) : Prop :=
  ∀ s, World.program.Leads s.world (m.run s).2.world

theorem Follows.bind {α β : Type} {m : Java (Statics Cb) α} {f : α → Java (Statics Cb) β}
    (hm : Follows m) (hf : ∀ a, Follows (f a)) : Follows (m >>= f) := by
  intro s
  have hm := hm s
  rw [Java.run_bind]
  cases hr : m.run s with
  | mk r s' =>
    rw [hr] at hm
    cases r with
    | ok a => exact hm.trans (hf a s')
    | error e => exact hm

theorem Follows.op {m : Java (Statics Cb) α} (op : World → World.Op)
    (h : ∀ s, World.exec s.world (op s.world) = some (m.run s).2.world) : Follows m :=
  fun s => Machine.Leads.single (M := World.program) (h s)

/-- A method that does not touch the world. -/
theorem Follows.of_world {m : Java (Statics Cb) α} (h : ∀ s, (m.run s).2.world = s.world) :
    Follows m := fun s => by rw [h s]; exact .refl

theorem newUdpServerLinkAt_follows (host : Host) (mapper : Bool) (localAddress : InetAddress)
    (localPort : Int32) (cb : Cb) :
    Follows (newUdpServerLinkAt host mapper localAddress localPort cb) := by
  refine Follows.bind (.of_world fun s => ?_) fun port => ?_
  · unfold newDatagramSocket
    split
    · rfl
    · split <;> rfl
  · exact Follows.op (fun _ => .newServerLink (toPort localPort) mapper) fun _ => rfl

theorem sctpInit_follows : Follows (sctpInit : Java (Statics Cb) Unit) := by
  refine Follows.op (fun _ => .setInitialized true) fun s => ?_
  have hinit : (Engine.init.run s.engine).2.initialized = true := by
    cases hi : s.engine.initialized <;> simp [Engine.init, Java.run_bind, hi]
  simp only [sctpInit, Java.run_zoom, hinit, World.exec]

theorem initLink_follows (host : Host) (localAddr : Option InetAddress) (p : Int32) (cb : Cb) :
    Follows (initLink host localAddr p cb) := by
  refine Follows.bind (.of_world fun _ => rfl) fun s => ?_
  cases localAddr with
  | none => exact .of_world fun _ => rfl
  | some localAddr =>
    dsimp only
    split
    · exact newUdpServerLinkAt_follows host s.mapper localAddr sctpTunnelingPort cb
    · exact newUdpServerLinkAt_follows host s.mapper localAddr p cb

/-- A call of `init` is a sequence of operations of the program: it may set `initialized`, make a
server link and clear `SctpMapper.isShutdown`. -/
theorem init_follows (host : Host) (defaultCb : Cb) (localAddr : Option InetAddress) (p : Int32)
    (cb : Option Cb) : Follows (init host defaultCb localAddr p cb) := by
  unfold init
  refine Follows.bind (.of_world fun _ => rfl) fun s => ?_
  split
  · exact .of_world fun _ => rfl
  · refine Follows.bind sctpInit_follows fun _ => ?_
    refine Follows.bind (initLink_follows _ _ _ _) fun l => ?_
    exact Follows.op (fun _ => .setShutdown false) fun _ => rfl

/-- A host on which every port can be bound. -/
def Host.open : Host := ⟨fun _ _ => none, 40000⟩

/-- The statics when the class is loaded. -/
def Statics.fresh : Statics Unit := ⟨.empty, .start, true, none, fun _ => none⟩

/-- The loopback interface. -/
def loopback : InetAddress := .inet4 0x7F000001#32

/-- The caller of `init` who asks for the tunneling port gets it. -/
theorem init_honours_tunnelingPort :
    ∃ s', (init .open () (some loopback) 9899 none).run .fresh = (.ok (), s') ∧
      Honours s' World.empty.portMap 9899 := by
  obtain ⟨s', hrun⟩ : ∃ s', (init .open () (some loopback) 9899 none).run .fresh = (.ok (), s') :=
    ⟨_, rfl⟩
  exact ⟨s', hrun, (init_honours_iff hrun).mpr (.inl rfl)⟩

/-- The caller of `init` who asks for port 2000, which nobody uses, gets a link on 9899. -/
theorem init_ignores_port :
    ∃ s', (init .open () (some loopback) 2000 none).run .fresh = (.ok (), s') ∧
      Statics.fresh.engine.initialized = false ∧ InRange 2000 ∧
      (2000 : Int) ∉ World.empty.portMap.values ∧ BoundTo s' 9899 ∧ ¬ BoundTo s' 2000 ∧
      ¬ Honours s' World.empty.portMap 2000 := by
  obtain ⟨s', hrun⟩ : ∃ s', (init .open () (some loopback) 2000 none).run .fresh = (.ok (), s') :=
    ⟨_, rfl⟩
  have hfree : (2000 : Int32).toInt ∉ Statics.fresh.world.portMap.values := fun h => by cases h
  have hbound := init_ok hrun
  rw [if_neg hfree] at hbound
  have hnot : ¬ BoundTo s' 2000 := fun h => absurd (hbound.iff_eq.mp h) (by decide)
  have hrange : InRange 2000 := by decide
  exact ⟨s', hrun, rfl, hrange, hfree, hbound, hnot, fun h => hnot (h.1 ⟨hrange, hfree⟩)⟩

end Sctp4Nat.SctpUtils
