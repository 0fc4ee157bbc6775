import Sctp4Nat.Java.Basic
import Sctp4Nat.Java.Inet

/-! # `SctpMapper`

The statics of `SctpMapper`, which all its instances share, and its methods. A channel is an
object reference here; only `locate(SctpSocket)` looks inside, at the socket of a channel. -/

namespace Sctp4Nat

abbrev ChanId := Nat

/-- The fields `socketMap` and `isShutdown`. -/
structure SctpMapper where
  socketMap : ConcurrentHashMap InetSocketAddress ChanId
  isShutdown : Bool

namespace SctpMapper

def empty : SctpMapper := ⟨.empty, false⟩

/-- The argument of `socketMap.remove`, which takes any object. -/
inductive Key
  | address (remote : InetSocketAddress)
  | channel (so : ChanId)

/-- `equals` of the argument with a key of the map. A channel has the `equals` of `Object`, so it
is equal to no address. -/
def Key.equals : Key → InetSocketAddress → Bool
  | .address remote, k => JavaEq.equals remote k
  | .channel _, _ => false

def register (m : SctpMapper) (remote : Option InetSocketAddress) (so : Option ChanId) :
    SctpMapper :=
  if m.isShutdown then m
  else
    match remote, so with
    | some remote, some so => { m with socketMap := m.socketMap.put remote so }
    | _, _ => m

/-- `unregister(SctpChannel)`. -/
def unregister (m : SctpMapper) (so : Option ChanId) : SctpMapper :=
  if m.isShutdown then m
  else
    match so with
    | none => m
    | some so =>
      if !m.socketMap.contains so then m
      else { m with socketMap := m.socketMap.removeIf (Key.channel so).equals }

/-- `unregister(InetSocketAddress)`. -/
def unregisterRemote (m : SctpMapper) (remote : Option InetSocketAddress) : SctpMapper :=
  if m.isShutdown then m
  else
    match remote with
    | none => m
    | some remote =>
      if !m.socketMap.containsKey remote then m
      else { m with socketMap := m.socketMap.removeIf (Key.address remote).equals }

/-- The loop of `locate(String, int)` over the entries: a key without an address throws. -/
def scan (m : SctpMapper) (remoteAddress : String) (remotePort : UInt16) :
    List (InetSocketAddress × ChanId) → Except Throwable (Option ChanId)
  | [] => .ok none
  | (k, _) :: rest =>
    match k.getAddress with
    | none => .error .npe
    | some address =>
      if k.getPort = remotePort ∧ address.getHostAddress = remoteAddress then
        .ok (m.socketMap.get k)
      else m.scan remoteAddress remotePort rest

/-- `locate(String, int)`, with the order in which the entries are visited. -/
def locate (m : SctpMapper) (it : Iteration (InetSocketAddress × ChanId)) (remoteAddress : String)
    (remotePort : UInt16) : Except Throwable (Option ChanId) :=
  if m.isShutdown then .ok none
  else m.scan remoteAddress remotePort (it.order m.socketMap.entries)

/-- `locate(SctpSocket)`: the first value that contains the socket. -/
def locateSocket {SockId : Type} [DecidableEq SockId] (m : SctpMapper) (socketOf : ChanId → SockId)
    (it : Iteration (InetSocketAddress × ChanId)) (so : SockId) : Option ChanId :=
  if m.isShutdown then none
  else ((it.order m.socketMap.entries).map Prod.snd).find? fun c => socketOf c = so

variable {m : SctpMapper}

/-- `unregister(SctpChannel)` looks for a key equal to the channel, and there is none. -/
@[simp] theorem unregister_eq (m : SctpMapper) (so : Option ChanId) : m.unregister so = m := by
  unfold unregister
  split
  · rfl
  · cases so with
    | none => rfl
    | some so =>
      have : m.socketMap.removeIf (Key.channel so).equals = m.socketMap :=
        ConcurrentHashMap.removeIf_eq_self fun _ _ => rfl
      simp only [this, ite_self]

theorem register_eq (h : m.isShutdown = false) (remote : InetSocketAddress) (so : ChanId) :
    m.register (some remote) (some so) = { m with socketMap := m.socketMap.put remote so } := by
  simp [register, h]

@[simp] theorem register_isShutdown (m : SctpMapper) (remote : Option InetSocketAddress)
    (so : Option ChanId) : (m.register remote so).isShutdown = m.isShutdown := by
  unfold register
  split
  · rfl
  · cases remote <;> cases so <;> rfl

theorem unregisterRemote_eq (h : m.isShutdown = false) (remote : InetSocketAddress) :
    m.unregisterRemote (some remote) = { m with socketMap := m.socketMap.remove remote } := by
  unfold unregisterRemote
  rw [if_neg (by simp [h])]
  cases hc : m.socketMap.containsKey remote with
  | false =>
    simp only [hc, ConcurrentHashMap.remove_of_not_containsKey hc, Bool.not_false, if_true]
  | true =>
    simp only [hc, Bool.not_true, Bool.false_eq_true, if_false]
    rfl

/-! ## The scan of `locate(String, int)` -/

/-- The key has the address and the port that `locate` looks for. -/
def isMatch (remoteAddress : String) (remotePort : UInt16) (k : InetSocketAddress) : Bool :=
  match k.getAddress with
  | none => false
  | some address => k.getPort = remotePort && address.getHostAddress = remoteAddress

/-- The entries that the scan visits before it comes to one that matches. -/
def passed (remoteAddress : String) (remotePort : UInt16)
    (entries : List (InetSocketAddress × ChanId)) : List (InetSocketAddress × ChanId) :=
  entries.takeWhile fun e => !isMatch remoteAddress remotePort e.1

/-- The channel of the first entry that matches. -/
def firstMatch (remoteAddress : String) (remotePort : UInt16)
    (entries : List (InetSocketAddress × ChanId)) : Option ChanId :=
  (entries.find? fun e => isMatch remoteAddress remotePort e.1).map Prod.snd

/-- No key that the scan passes is without an address. -/
def Passable (remoteAddress : String) (remotePort : UInt16)
    (entries : List (InetSocketAddress × ChanId)) : Bool :=
  (passed remoteAddress remotePort entries).all fun e => e.1.getAddress.isSome

variable {remoteAddress : String} {remotePort : UInt16}

theorem scan_eq {entries : List (InetSocketAddress × ChanId)}
    (hsub : ∀ e ∈ entries, e ∈ m.socketMap.entries) :
    m.scan remoteAddress remotePort entries =
      if Passable remoteAddress remotePort entries then
        .ok (firstMatch remoteAddress remotePort entries)
      else .error .npe := by
  induction entries with
  | nil => rfl
  | cons e rest ih =>
    have hget : m.socketMap.get e.1 = some e.2 :=
      ConcurrentHashMap.get_eq_some_iff.mpr ⟨e.1, equals_refl _, hsub e List.mem_cons_self⟩
    have ih := ih fun e' he' => hsub e' (List.mem_cons_of_mem _ he')
    cases ha : e.1.getAddress with
    | none => simp [scan, Passable, passed, isMatch, ha]
    | some address =>
      by_cases hk : e.1.getPort = remotePort ∧ address.getHostAddress = remoteAddress
      · simp [scan, Passable, passed, firstMatch, isMatch, ha, hk, hget]
      · have hm : isMatch remoteAddress remotePort e.1 = false := by
          simpa [isMatch, ha] using hk
        have hp : Passable remoteAddress remotePort (e :: rest) =
            Passable remoteAddress remotePort rest := by
          rw [Passable, passed, List.takeWhile_cons_of_pos (by rw [hm]; rfl), List.all_cons, ha]
          rfl
        have hf : firstMatch remoteAddress remotePort (e :: rest) =
            firstMatch remoteAddress remotePort rest := by
          rw [firstMatch, List.find?_cons_of_neg (by simp [hm])]; rfl
        rw [scan, ha]
        simp only [if_neg hk, ih, hp, hf]

/-- `locate(String, int)` throws when it passes a key without an address, and else returns the
first match. -/
theorem locate_eq (h : m.isShutdown = false) (it : Iteration (InetSocketAddress × ChanId)) :
    m.locate it remoteAddress remotePort =
      if Passable remoteAddress remotePort (it.order m.socketMap.entries) then
        .ok (firstMatch remoteAddress remotePort (it.order m.socketMap.entries))
      else .error .npe := by
  rw [locate, if_neg (by simp [h]), scan_eq fun e he => it.mem_order.mp he]

theorem locate_error {it : Iteration (InetSocketAddress × ChanId)}
    (h : m.locate it remoteAddress remotePort = .error e) : e = .npe := by
  cases hs : m.isShutdown with
  | true => simp [locate, hs] at h
  | false =>
    rw [locate_eq hs] at h
    split at h
    · cases h
    · exact (Except.error.inj h).symm

/-- What `locate(String, int)` returns is the channel of an entry that matches. -/
theorem mem_entries_of_locate {it : Iteration (InetSocketAddress × ChanId)}
    (h : m.locate it remoteAddress remotePort = .ok (some c)) :
    ∃ k, isMatch remoteAddress remotePort k = true ∧ (k, c) ∈ m.socketMap.entries := by
  cases hs : m.isShutdown with
  | true => simp [locate, hs] at h
  | false =>
    rw [locate_eq hs] at h
    split at h
    · simp only [firstMatch, Except.ok.injEq, Option.map_eq_some_iff] at h
      obtain ⟨e, he, rfl⟩ := h
      refine ⟨e.1, ?_, it.mem_order.mp (List.mem_of_find?_eq_some he)⟩
      simpa using List.find?_some he
    · cases h

theorem mem_values_of_locate {it : Iteration (InetSocketAddress × ChanId)}
    (h : m.locate it remoteAddress remotePort = .ok (some c)) : c ∈ m.socketMap.values := by
  obtain ⟨k, _, hmem⟩ := mem_entries_of_locate h
  exact List.mem_map_of_mem hmem

/-- When `locate(String, int)` returns `null`, no entry matches. -/
theorem not_isMatch_of_locate {it : Iteration (InetSocketAddress × ChanId)}
    (hs : m.isShutdown = false) (h : m.locate it remoteAddress remotePort = .ok none) :
    ∀ e ∈ m.socketMap.entries, isMatch remoteAddress remotePort e.1 = false := by
  intro e he
  rw [locate_eq hs] at h
  split at h
  · simp only [firstMatch, Except.ok.injEq, Option.map_eq_none_iff, List.find?_eq_none] at h
    simpa using h e (it.mem_order.mpr he)
  · cases h

theorem isSome_getAddress_of_isMatch {k : InetSocketAddress}
    (h : isMatch remoteAddress remotePort k = true) : k.getAddress.isSome = true := by
  unfold isMatch at h
  cases ha : k.getAddress with
  | none => simp [ha] at h
  | some address => rfl

/-- No key has the empty text for its address. -/
theorem isMatch_empty (remotePort : UInt16) (k : InetSocketAddress) :
    isMatch "" remotePort k = false := by
  unfold isMatch
  cases k.getAddress with
  | none => rfl
  | some address => simp [InetAddress.getHostAddress_ne_empty address]

/-- Every search ends normally just when every key has an address. -/
theorem forall_locate_iff (h : m.isShutdown = false)
    (it : Iteration (InetSocketAddress × ChanId)) :
    (∀ remoteAddress remotePort, ∃ so, m.locate it remoteAddress remotePort = .ok so) ↔
      ∀ e ∈ m.socketMap.entries, e.1.getAddress.isSome = true := by
  constructor
  · intro hsafe e he
    -- a search for the empty text passes every key
    obtain ⟨so, hso⟩ := hsafe "" 0
    have hall : passed "" 0 (it.order m.socketMap.entries ++ []) =
        it.order m.socketMap.entries ++ [] :=
      List.takeWhile_append_of_pos fun e _ => by rw [isMatch_empty]; rfl
    rw [List.append_nil] at hall
    rw [locate_eq h] at hso
    split at hso
    · rename_i hp
      rw [Passable, hall, List.all_eq_true] at hp
      exact hp e (it.mem_order.mpr he)
    · cases hso
  · intro hkeys host port
    refine ⟨_, (locate_eq h it).trans (if_pos ?_)⟩
    rw [Passable, List.all_eq_true]
    exact fun e he => hkeys e (it.mem_order.mp ((List.takeWhile_sublist _).mem he))

/-! ## The scan and the keys -/

variable {address : InetAddress} {port : UInt16}

/-- The text and the port decide which key matches: the address with its scope. -/
theorem isMatch_iff {k : InetSocketAddress} :
    isMatch address.getHostAddress port k = true ↔ k = .resolved address port := by
  cases k with
  | unresolved host port' => simp [isMatch, InetSocketAddress.getAddress]
  | resolved address' port' =>
    simp only [isMatch, InetSocketAddress.getAddress, InetSocketAddress.getPort, Bool.and_eq_true,
      InetSocketAddress.resolved.injEq]
    constructor
    · rintro ⟨hport, htext⟩
      exact ⟨InetAddress.getHostAddress_inj (of_decide_eq_true htext), of_decide_eq_true hport⟩
    · rintro ⟨rfl, rfl⟩
      exact ⟨decide_eq_true rfl, decide_eq_true rfl⟩

/-- The entry under a key that is equal to the address, if there is one, is in reach of the scan:
the mapper is in use and the key has the same scope. -/
def InReach (m : SctpMapper) (address : InetAddress) (port : UInt16) : Prop :=
  ∀ e ∈ m.socketMap.entries, equals (.resolved address port) e.1 = true →
    m.isShutdown = false ∧ e.1 = .resolved address port

/-- In a map of resolved addresses the scan finds what `get` finds, if that is in reach, and else
nothing. -/
theorem locate_eq_get_iff (hkeys : ∀ e ∈ m.socketMap.entries, e.1.getAddress.isSome = true)
    (it : Iteration (InetSocketAddress × ChanId)) :
    m.locate it address.getHostAddress port = .ok (m.socketMap.get (.resolved address port)) ↔
      m.InReach address port := by
  have hget : m.socketMap.get (.resolved address port) = none ↔
      ∀ e ∈ m.socketMap.entries, equals (.resolved address port) e.1 = false := by
    simp [ConcurrentHashMap.get]
  -- what the scan misses is out of reach
  have hmissed : m.locate it address.getHostAddress port = .ok none →
      (m.socketMap.get (.resolved address port) = none ↔ m.InReach address port) := by
    intro hnone
    rw [hget]
    refine forall₂_congr fun e he => ⟨fun hk h => ?_, fun h => Bool.eq_false_iff.mpr fun hk => ?_⟩
    · rw [hk] at h
      cases h
    · obtain ⟨hs, hkey⟩ := h hk
      have hmatch := not_isMatch_of_locate hs hnone e he
      rw [isMatch_iff.mpr hkey] at hmatch
      cases hmatch
  cases hs : m.isShutdown with
  | true =>
    have hnone : m.locate it address.getHostAddress port = .ok none := by simp [locate, hs]
    rw [← hmissed hnone, hnone, Except.ok.injEq, eq_comm]
  | false =>
    obtain ⟨so, hso⟩ := (forall_locate_iff hs it).mpr hkeys address.getHostAddress port
    cases so with
    | none => rw [← hmissed hso, hso, Except.ok.injEq, eq_comm]
    | some c =>
      obtain ⟨k, hk, hmem⟩ := mem_entries_of_locate hso
      obtain rfl := isMatch_iff.mp hk
      rw [hso, ConcurrentHashMap.get_eq_some_iff.mpr ⟨_, equals_refl _, hmem⟩]
      refine ⟨fun _ e he hke => ⟨hs, ?_⟩, fun _ => rfl⟩
      rw [ConcurrentHashMap.entry_unique he hmem (equals_symm hke)]

/-- In a map of IPv4 addresses the scan finds what `get` finds. -/
theorem locate_inet4 {addr : BitVec 32} (hs : m.isShutdown = false)
    (hkeys : ∀ e ∈ m.socketMap.entries, e.1.isInet4 = true)
    (it : Iteration (InetSocketAddress × ChanId)) :
    m.locate it (InetAddress.inet4 addr).getHostAddress port =
      .ok (m.socketMap.get (.resolved (.inet4 addr) port)) := by
  refine (locate_eq_get_iff (fun e he => ?_) it).mpr fun e _ hk =>
    ⟨hs, InetSocketAddress.equals_inet4_iff.mp hk⟩
  have := hkeys e he
  rcases e with ⟨⟨_ | _, _⟩ | _, _⟩ <;> first | rfl | cases this

/-- A `register` leaves the key that is there, so it brings nothing into reach that was not. -/
theorem inReach_register (hs : m.isShutdown = false) (c : ChanId) :
    (m.register (some (.resolved address port)) (some c)).InReach address port ↔
      m.InReach address port := by
  have hentry : ∀ k, equals (.resolved address port) k = true →
      ((∃ v, (k, v) ∈ (m.socketMap.put (.resolved address port) c).entries) ↔
        (∃ v, (k, v) ∈ m.socketMap.entries) ∨
          m.socketMap.containsKey (.resolved address port) = false ∧
            k = .resolved address port) := by
    intro k hk
    simp [ConcurrentHashMap.mem_put, hk]
  rw [register_eq hs]
  constructor
  · rintro h ⟨k, c'⟩ he hk
    obtain ⟨v, hv⟩ := (hentry k hk).mpr (.inl ⟨c', he⟩)
    exact h (k, v) hv hk
  · rintro h ⟨k, c'⟩ he hk
    rcases (hentry k hk).mp ⟨c', he⟩ with ⟨v, hv⟩ | ⟨_, hkey⟩
    · exact h (k, v) hv hk
    · exact ⟨hs, hkey⟩

/-- **The scan and the keyed map.** In a map of resolved addresses `locate(a.getHostAddress(), p)`
returns what is stored under `(a, p)`, and finds what was just registered for it, exactly when the
entry for `(a, p)` is in reach. Keys are equal whatever their scopes, and texts are not, so an
entry of an IPv6 address with another scope is out of reach. -/
theorem scan_agrees_iff (m : SctpMapper)
    (hkeys : ∀ e ∈ m.socketMap.entries, e.1.getAddress.isSome = true) (address : InetAddress)
    (port : UInt16) (it : Iteration (InetSocketAddress × ChanId)) :
    (m.locate it address.getHostAddress port =
        .ok (m.socketMap.get (.resolved address port)) ↔ m.InReach address port) ∧
    ∀ c, m.isShutdown = false →
      ((m.register (some (.resolved address port)) (some c)).locate it address.getHostAddress
        port = .ok (some c) ↔ m.InReach address port) := by
  refine ⟨locate_eq_get_iff hkeys it, fun c hs => ?_⟩
  have hput : (m.register (some (.resolved address port)) (some c)).socketMap =
      m.socketMap.put (.resolved address port) c := by rw [register_eq hs]
  have hkeys' : ∀ e ∈ (m.register (some (.resolved address port)) (some c)).socketMap.entries,
      e.1.getAddress.isSome = true := by
    rw [hput]
    refine (ConcurrentHashMap.forall_mem_put (R := fun (k : InetSocketAddress) _ =>
        k.getAddress.isSome = true) (fun k k' _ hk h => ?_) hkeys).mpr rfl
    rwa [← InetSocketAddress.isSome_getAddress_congr hk]
  have hget : (m.register (some (.resolved address port)) (some c)).socketMap.get
      (.resolved address port) = some c := by
    rw [hput, ConcurrentHashMap.get_put, if_pos (equals_refl _)]
  rw [← inReach_register hs c, ← locate_eq_get_iff hkeys' it, hget]

/-- fe80::1 on an interface, port 5000. -/
def linkLocal (scope : String) : InetAddress :=
  .inet6 0xfe800000000000000000000000000001#128 (some scope)

/-- A remote that is registered is found by its text. -/
theorem registered_found : (empty.register (some (.resolved (linkLocal "eth0") 5000))
    (some 0)).locate .id (linkLocal "eth0").getHostAddress 5000 = .ok (some 0) :=
  ((scan_agrees_iff empty (fun _ he => absurd he List.not_mem_nil) (linkLocal "eth0") 5000 .id).2
    0 rfl).mpr fun _ he => absurd he List.not_mem_nil

/-- The same remote on another interface replaces the channel of the first one, and is not found
by its own text. -/
theorem other_scope_not_found :
    let m := (empty.register (some (.resolved (linkLocal "eth0") 5000)) (some 0)).register
      (some (.resolved (linkLocal "eth1") 5000)) (some 1)
    m.isShutdown = false ∧ (∀ e ∈ m.socketMap.entries, e.1.getAddress.isSome = true) ∧
      m.socketMap.get (.resolved (linkLocal "eth1") 5000) = some 1 ∧
      m.locate .id (linkLocal "eth1").getHostAddress 5000 = .ok none ∧
      m.locate .id (linkLocal "eth0").getHostAddress 5000 = .ok (some 1) := by
  decide +kernel

theorem mem_values_of_locateSocket {SockId : Type} [DecidableEq SockId]
    {socketOf : ChanId → SockId} {it : Iteration (InetSocketAddress × ChanId)} {so : SockId}
    (h : m.locateSocket socketOf it so = some c) : c ∈ m.socketMap.values ∧ socketOf c = so := by
  unfold locateSocket at h
  split at h
  · cases h
  · have hc := List.find?_some h
    have hmem := List.mem_of_find?_eq_some h
    obtain ⟨e, he, rfl⟩ := List.mem_map.mp hmem
    exact ⟨List.mem_map_of_mem (it.mem_order.mp he), by simpa using hc⟩

/-- A value of the map is found from its socket, when no other value has that socket. -/
theorem locateSocket_of_mem_values {SockId : Type} [DecidableEq SockId]
    {socketOf : ChanId → SockId} (it : Iteration (InetSocketAddress × ChanId))
    (hs : m.isShutdown = false) (hc : c ∈ m.socketMap.values)
    (hinj : ∀ c' ∈ m.socketMap.values, socketOf c' = socketOf c → c' = c) :
    m.locateSocket socketOf it (socketOf c) = some c := by
  cases hr : m.locateSocket socketOf it (socketOf c) with
  | some c' =>
    obtain ⟨hmem, hso⟩ := mem_values_of_locateSocket hr
    rw [hinj c' hmem hso]
  | none =>
    rw [locateSocket, if_neg (by simp [hs]), List.find?_eq_none] at hr
    obtain ⟨e, he, rfl⟩ := List.mem_map.mp hc
    have := hr e.2 (List.mem_map_of_mem (it.mem_order.mpr he))
    simp at this

end SctpMapper

end Sctp4Nat
