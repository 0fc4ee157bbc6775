import Sctp4Nat.Connection.Program

/-! # Ports that `build` assigns

`SctpPorts.portMap` is there so that a port is not used twice, and `generateDynPort` looks into
it. No constructor and no builder puts a port there, so in a program that leaves the map to the
library it stays empty: an open channel has a port that is not marked as used, and the next draw
may be the same. A builder moreover keeps the port of its first `build`. -/

namespace Sctp4Nat.AssignedPorts

open World

/-- The program and the builders it uses. -/
structure State where
  world : World
  builder : Nat → SctpChannelBuilder

/-- A builder gets its settings other than the port; `build` is called on it, with the random
draws and the answer of `usrsctp_socket`; a close task runs. -/
inductive Op
  | configure (i : Nat) (b : SctpChannelBuilder)
  | build (i : Nat) (draws : List Nat) (ptr : Ptr)
  | closeTask (c : ChanId)

/-- The port that `build` uses: the one of an earlier `build`, or a generated one. -/
def assignedPort (s : State) (i : Nat) (draws : List Nat) : Option Int :=
  if (s.builder i).localSctpPort = portNotInitialized then s.world.generateDynPort draws
  else some (s.builder i).localSctpPort

def exec (s : State) : Op → Option State
  | .configure i b =>
    let localSctpPort := (s.builder i).localSctpPort
    some { s with builder := Function.update s.builder i { b with localSctpPort } }
  | .build i draws ptr =>
    if ∀ draw ∈ draws, draw < maxPort - minDynPort then do
      let localSctpPort ← assignedPort s i draws
      let b := s.builder i
      let world ← s.world.exec (.build b localSctpPort ptr)
      some { world, builder := Function.update s.builder i { b with localSctpPort } }
    else none
  | .closeTask c => do
    let world ← s.world.exec (.closeTask c)
    some { s with world }

/-- Every sequence of `build` calls without a port of the caller's and of close tasks, on a stack
that is initialised or not. -/
def assign : Machine State Op where
  init s := (∃ b, World.empty.exec (.setInitialized b) = some s.world) ∧ s.builder = fun _ => {}
  exec := exec

/-- The local SCTP port of a channel. -/
def localPort (w : World) (c : ChanId) : Int := (w.stack.socket (w.channel c).so).localPort

/-- A channel that was made and whose close task has not run. -/
def IsOpen (w : World) (c : ChanId) : Prop := c < w.nextChannel ∧ c ∉ w.closed

instance (w : World) (c : ChanId) : Decidable (IsOpen w c) := inferInstanceAs (Decidable (_ ∧ _))

/-- The ports of the open channels are distinct and marked as used. -/
structure PortsTracked (w : World) : Prop where
  distinct : ∀ c c', IsOpen w c → IsOpen w c' → c ≠ c' → localPort w c ≠ localPort w c'
  used : ∀ c, IsOpen w c → w.isUsedPort (localPort w c) = true

/-- The call of `build` makes no channel: it has no mapper, the stack is not initialised or
`usrsctp_socket` returns `0`. -/
def makesNone (s : State) : Op → Prop
  | .build i _ ptr => (s.builder i).mapper = false ∨ s.world.stack.initialized = false ∨ ptr = 0
  | .configure .. | .closeTask _ => True

instance (s : State) : (op : Op) → Decidable (makesNone s op)
  | .build .. => inferInstanceAs (Decidable (_ ∨ _))
  | .configure .. | .closeTask _ => inferInstanceAs (Decidable True)

variable {s s' : State} {w : World} {op : Op}

/-! ## Steps -/

theorem build_run_state (b : SctpChannelBuilder) (dynPort : Int) (ptr : Ptr) :
    (b.mapper = false ∨ w.stack.initialized = false ∨ ptr = 0) ∧
        ((b.build dynPort ptr).run w).2 = w ∨
      ¬ (b.mapper = false ∨ w.stack.initialized = false ∨ ptr = 0) ∧
        ∃ port, ((b.build dynPort ptr).run w).2 = w.withChannel port b.remote b.link true ptr := by
  rw [SctpChannelBuilder.build_run]
  by_cases hm : b.mapper = false
  · exact .inl ⟨.inl hm, by rw [if_pos hm]⟩
  by_cases hi : w.stack.initialized = false
  · exact .inl ⟨.inr (.inl hi), by rw [if_neg hm, if_pos hi]⟩
  by_cases hp : ptr = 0
  · exact .inl ⟨.inr (.inr hp), by rw [if_neg hm, if_neg hi, if_pos hp]⟩
  · exact .inr ⟨by simp [hm, hi, hp], _, by rw [if_neg hm, if_neg hi, if_neg hp]⟩

/-- A step leaves the program as it is, closes a channel or makes one. -/
theorem exec_cases (h : assign.exec s op = some s') :
    makesNone s op ∧ s'.world = s.world ∨
    (∃ c, op = .closeTask c ∧ c < s.world.nextChannel ∧
      s'.world = ((closeTask c).run s.world).2) ∨
    ¬ makesNone s op ∧ ∃ port remote link mapper ptr,
      s'.world = s.world.withChannel port remote link mapper ptr := by
  cases op with
  | configure i b =>
    cases h
    exact .inl ⟨trivial, rfl⟩
  | build i draws ptr =>
    simp only [assign, exec, World.exec, Option.bind_eq_bind, Option.ite_none_right_eq_some,
      Option.bind_eq_some_iff, Option.some.injEq] at h
    obtain ⟨_, port, _, w, ⟨_, rfl⟩, rfl⟩ := h
    rcases build_run_state (w := s.world) (s.builder i) port ptr with ⟨hn, hw⟩ | ⟨hn, port, hw⟩
    · exact .inl ⟨hn, hw⟩
    · exact .inr (.inr ⟨hn, _, _, _, _, _, hw⟩)
  | closeTask c =>
    simp only [assign, exec, World.exec, Option.bind_eq_bind, Option.ite_none_right_eq_some,
      Option.bind_eq_some_iff, Option.some.injEq] at h
    obtain ⟨w, ⟨hc, rfl⟩, rfl⟩ := h
    exact .inr (.inl ⟨c, rfl, hc, rfl⟩)

/-- Nothing puts a port into the map, and only channels that exist are closed. -/
structure Inv (w : World) : Prop where
  portMap : w.portMap = .empty
  closed : ∀ c ∈ w.closed, c < w.nextChannel

theorem closeTask_inv {c : ChanId} (h : Inv w) (hc : c < w.nextChannel) :
    Inv ((closeTask c).run w).2 ∧ ((closeTask c).run w).2.nextChannel = w.nextChannel := by
  have hspec := closeTask_spec (c := c)
    (P := fun w' => w'.portMap = .empty ∧ w'.closed = c :: w.closed ∧
      w'.nextChannel = w.nextChannel) ?_ (fun _ _ h => h) (fun _ _ h => h)
  · obtain ⟨hport, hclosed, hnext⟩ := hspec.state ⟨h.portMap, rfl, rfl⟩
    refine ⟨⟨hport, ?_⟩, hnext⟩
    rw [hclosed, hnext, List.forall_mem_cons]
    exact ⟨hc, h.closed⟩
  · intro w' hk hw'
    rw [hw'.1] at hk
    exact absurd hk (by simp [ConcurrentHashMap.containsKey, ConcurrentHashMap.empty])

theorem Inv.exec (h : Inv s.world) (hs : assign.exec s op = some s') : Inv s'.world := by
  obtain ⟨_, hw⟩ | ⟨c, _, hc, hw⟩ | ⟨_, port, remote, link, mapper, ptr, hw⟩ := exec_cases hs
  · rw [hw]
    exact h
  · rw [hw]
    exact (closeTask_inv h hc).1
  · rw [hw]
    exact ⟨h.portMap, fun c hc => Nat.lt_succ_of_lt (h.closed c hc)⟩

theorem nextChannel_of_makesNone (h : Inv s.world) (hop : makesNone s op)
    (hs : assign.exec s op = some s') : s'.world.nextChannel = s.world.nextChannel := by
  obtain ⟨_, hw⟩ | ⟨c, _, hc, hw⟩ | ⟨hnot, _⟩ := exec_cases hs
  · rw [hw]
  · rw [hw]
    exact (closeTask_inv h hc).2
  · exact absurd hop hnot

/-- With an empty map the ports are tracked just when no channel is open. -/
theorem Inv.portsTracked_iff (h : Inv w) : PortsTracked w ↔ ∀ c, ¬ IsOpen w c := by
  constructor
  · intro ht c hc
    have hused := ht.used c hc
    rw [isUsedPort, h.portMap] at hused
    exact absurd hused (by simp [ConcurrentHashMap.contains, ConcurrentHashMap.empty])
  · exact fun hnone => ⟨fun c _ hc => absurd hc (hnone c), fun c hc => absurd hc (hnone c)⟩

theorem inv_of_init (h : assign.init s) : Inv s.world ∧ s.world.nextChannel = 0 := by
  obtain ⟨⟨b, hb⟩, _⟩ := h
  rw [← Option.some.inj hb]
  exact ⟨⟨rfl, fun c hc => absurd hc List.not_mem_nil⟩, rfl⟩

/-! ## Runs -/

/-- In every run, the ports are tracked in a state just when every channel made so far has been
closed. -/
theorem portsTracked_iff_closed (h : assign.Reachable s) :
    PortsTracked s.world ↔ ∀ c < s.world.nextChannel, c ∈ s.world.closed := by
  have hinv : Inv s.world := h.invariant (P := fun s => Inv s.world)
    (fun _ h => (inv_of_init h).1) (fun _ _ _ h hs => h.exec hs)
  rw [hinv.portsTracked_iff]
  simp only [IsOpen, not_and, not_not]

/-- The ports are tracked along every run in which no `build` makes a channel; and the first
`build` that makes one has a port that is not tracked. -/
theorem portsTracked_iff_makesNone (h : (assign.restrict makesNone).Reachable s) :
    PortsTracked s.world ∧
      ∀ op s', assign.exec s op = some s' → (PortsTracked s'.world ↔ makesNone s op) := by
  have hnone : Inv s.world ∧ s.world.nextChannel = 0 :=
    Machine.Reachable.restrict_invariant (M := assign)
      (P := fun s => Inv s.world ∧ s.world.nextChannel = 0) (fun _ => inv_of_init)
      (fun s op s' h hop hs => ⟨h.1.exec hs, (nextChannel_of_makesNone h.1 hop hs).trans h.2⟩) h
  obtain ⟨hinv, hzero⟩ := hnone
  have htracked : ∀ {w}, Inv w → w.nextChannel = 0 → PortsTracked w := fun hinv hzero =>
    hinv.portsTracked_iff.mpr fun c hc => Nat.not_lt_zero c (hzero ▸ hc.1)
  refine ⟨htracked hinv hzero, fun op s' hs => ⟨fun ht => ?_, fun hop => ?_⟩⟩
  · by_contra hop
    obtain ⟨hnone, _⟩ | ⟨c, rfl, _⟩ | ⟨_, port, remote, link, mapper, ptr, hw⟩ := exec_cases hs
    · exact hop hnone
    · exact hop trivial
    · -- the new channel is open
      rw [(hinv.exec hs).portsTracked_iff, hw] at ht
      exact ht s.world.nextChannel ⟨Nat.lt_succ_self _, fun hc =>
        Nat.lt_irrefl _ (hinv.closed _ hc)⟩
  · exact htracked (hinv.exec hs) ((nextChannel_of_makesNone hinv hop hs).trans hzero)

/-- An initialised stack, and no builder used yet. -/
def start : State where
  world := { World.empty with stack := { Stack.empty with initialized := true } }
  builder _ := {}

theorem start_init : assign.init start := ⟨⟨true, rfl⟩, rfl⟩

/-- A builder without a mapper makes no channel. -/
theorem no_mapper_tracked : ∃ s, (assign.restrict makesNone).Reachable s ∧
    (s.builder 0).localSctpPort = 49159 ∧ PortsTracked s.world := by
  have hs : (assign.restrict makesNone).Reachable _ :=
    .step (.init start_init) (i := .build 0 [7] 16) rfl
  exact ⟨_, hs, by decide, (portsTracked_iff_makesNone hs).1⟩

/-- Two builders with the same draw: both channels are open with the port 49152, which is not
marked as used. -/
theorem same_port_twice : ∃ s, assign.Reachable s ∧ IsOpen s.world 0 ∧ IsOpen s.world 1 ∧
    localPort s.world 0 = localPort s.world 1 ∧
    s.world.isUsedPort (localPort s.world 0) = false ∧ ¬ PortsTracked s.world := by
  obtain ⟨s, hs, h₀, h₁, hport, hused⟩ := Machine.Reachable.exists_run (.init start_init)
    (P := fun s => IsOpen s.world 0 ∧ IsOpen s.world 1 ∧
      localPort s.world 0 = localPort s.world 1 ∧
      s.world.isUsedPort (localPort s.world 0) = false)
    [.configure 0 { mapper := true }, .build 0 [0] 16, .configure 1 { mapper := true },
      .build 1 [0] 32] (by decide)
  exact ⟨s, hs, h₀, h₁, hport, hused, fun ht => ht.distinct 0 1 h₀ h₁ (by decide) hport⟩

end Sctp4Nat.AssignedPorts
