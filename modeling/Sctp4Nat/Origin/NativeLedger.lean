import Mathlib.Data.Finset.Basic
import Mathlib.Data.Finset.Image
import Sctp4Nat.Machine.Basic
import Sctp4Nat.Origin.SctpNotification

/-! # The native resources of the JNI layer

Three things belong to a socket that Java sees: the `SctpSocket` struct, its registration as an
address of usrsctp and an open `struct socket` whose callbacks get the struct. `usrsctp_socket`
makes them one after the other and undoes only the first when a later step fails; `usrsctp_close`
undoes the first and the last. No function deregisters an address. -/

namespace Sctp4Nat.NativeLedger

/-- A `struct socket` of usrsctp. -/
abbrev Sock := Nat

structure Ledger where
  /-- The `SctpSocket` structs. -/
  allocated : Finset Ptr
  /-- The addresses registered with usrsctp. -/
  registered : Finset Ptr
  /-- The open sockets. -/
  sockets : Finset Sock
  /-- The argument of a socket's callbacks. -/
  owner : Sock → Ptr
  /-- The field `so` of a struct. -/
  so : Ptr → Sock

namespace Ledger

def empty : Ledger where
  allocated := ∅
  registered := ∅
  sockets := ∅
  owner _ := 0
  so _ := 0

/-- The structs that own an open socket. -/
def owners (s : Ledger) : Finset Ptr := s.sockets.image s.owner

def malloc (p : Ptr) (s : Ledger) : Ledger := { s with allocated := insert p s.allocated }

def free (p : Ptr) (s : Ledger) : Ledger := { s with allocated := s.allocated.erase p }

def registerAddress (p : Ptr) (s : Ledger) : Ledger :=
  { s with registered := insert p s.registered }

/-- A new socket with the callback argument `p`. -/
def openSocket (so : Sock) (p : Ptr) (s : Ledger) : Ledger :=
  { s with sockets := insert so s.sockets, owner := Function.update s.owner so p }

def closeSocket (so : Sock) (s : Ledger) : Ledger := { s with sockets := s.sockets.erase so }

def setSo (p : Ptr) (so : Sock) (s : Ledger) : Ledger :=
  { s with so := Function.update s.so p so }

end Ledger

open SctpNotification in
/-- `SCTP_EVENT_TYPES`; the last is `SCTP_ADDR_UNREACHABLE`. -/
def eventTypes : List UInt16 :=
  [sctpAssocChange, sctpPeerAddrChange, sctpRemoteError, sctpSendFailed, sctpShutdownEvent,
    sctpAdaptationIndication, sctpPartialDeliveryEvent, sctpAuthenticationEvent,
    sctpStreamResetEvent, sctpSenderDryEvent, sctpAssocResetEvent, sctpStreamChangeEvent, 0x0002]

/-- What `malloc` and usrsctp answer during `usrsctp_socket`; `event i` is the answer to the
subscription of the event type with the index `i`. The answers for the two buffer sizes are not
looked at. -/
structure SocketAnswers where
  malloc : Option Ptr
  socket : Option Sock
  setNonBlocking : Int32
  linger : Int32
  streamReset : Int32
  nodelay : Int32
  event : Nat → Int32

/-- The JNI function `usrsctp_socket`. -/
def usrsctpSocket (a : SocketAnswers) (s : Ledger) : Ptr × Ledger :=
  match a.malloc with
  | none => (0, s)
  | some p =>
    let s := (s.malloc p).registerAddress p
    match a.socket with
    | none => (0, s.free p)
    | some so =>
      let s := s.openSocket so p
      if a.setNonBlocking < 0 then (0, s.free p)
      else if a.linger ≠ 0 then (0, s.free p)
      else if a.streamReset ≠ 0 then (0, s.free p)
      else if a.nodelay ≠ 0 then (0, s.free p)
      else if (List.range eventTypes.length).any fun i => a.event i < 0 then (0, s.free p)
      else (p, s.setSo p so)

/-- The JNI function `usrsctp_accept`, with the socket that usrsctp accepts. An accepted socket
has the callback argument of the listening one. -/
def usrsctpAccept (ptr : Ptr) (accepted : Option Sock) (s : Ledger) : Bool × Ledger :=
  match accepted with
  | some so =>
    (true, ((s.openSocket so (s.owner (s.so ptr))).closeSocket (s.so ptr)).setSo ptr so)
  | none => (false, s)

/-- The JNI function `usrsctp_close`. -/
def usrsctpClose (ptr : Ptr) (s : Ledger) : Ledger := (s.closeSocket (s.so ptr)).free ptr

inductive Call
  | socket (answers : SocketAnswers)
  | accept (ptr : Ptr) (accepted : Option Sock)
  | close (ptr : Ptr)

/-- `malloc` answers with memory that is not in use, usrsctp with a socket that is not open; Java
calls `usrsctp_accept` and `usrsctp_close` with pointers that `usrsctp_socket` returned and that
are not closed. -/
def exec (s : Ledger) : Call → Option Ledger
  | .socket a =>
    if (∀ p ∈ a.malloc, p ≠ 0 ∧ p ∉ s.allocated) ∧ (∀ so ∈ a.socket, so ∉ s.sockets) then
      some (usrsctpSocket a s).2
    else none
  | .accept ptr accepted =>
    if ptr ∈ s.allocated ∧ (∀ so ∈ accepted, so ∉ s.sockets) then
      some (usrsctpAccept ptr accepted s).2
    else none
  | .close ptr => if ptr ∈ s.allocated then some (usrsctpClose ptr s) else none

/-- All sequences of calls of the three JNI functions. -/
def jni : Machine Ledger Call where
  init s := s = .empty
  exec := exec

/-! ## Balance -/

/-- The three sets are equal. -/
structure Balanced (s : Ledger) : Prop where
  registered : s.registered = s.allocated
  owners : s.owners = s.allocated

/-- What a call has to do to the three sets: they are equal after it, a `usrsctp_socket` that
returns `0` leaves them as they were, and `usrsctp_close` takes its struct out of all three. -/
structure Settles (s : Ledger) (i : Call) (s' : Ledger) : Prop where
  balanced : Balanced s'
  failed : ∀ a, i = .socket a → (usrsctpSocket a s).1 = 0 →
    s'.allocated = s.allocated ∧ s'.registered = s.registered ∧ s'.owners = s.owners
  closed : ∀ p, i = .close p →
    s'.allocated = s.allocated.erase p ∧ s'.registered = s.registered.erase p ∧
      s'.owners = s.owners.erase p

/-- The steps of `usrsctp_socket` after `malloc` all succeed. -/
def SocketAnswers.allSucceed (a : SocketAnswers) : Prop :=
  a.socket.isSome ∧ 0 ≤ a.setNonBlocking ∧ a.linger = 0 ∧ a.streamReset = 0 ∧ a.nodelay = 0 ∧
    ∀ i < eventTypes.length, 0 ≤ a.event i

/-- The calls that have nothing to undo: an accept, and a `usrsctp_socket` that fails in `malloc`
or not at all. -/
def undoesNothing : Call → Prop
  | .socket a => a.malloc = none ∨ a.allSucceed
  | .accept .. => True
  | .close _ => False

instance (a : SocketAnswers) : Decidable a.allSucceed :=
  inferInstanceAs (Decidable (_ ∧ _))

instance : (i : Call) → Decidable (undoesNothing i)
  | .socket _ => inferInstanceAs (Decidable (_ ∨ _))
  | .accept .. => inferInstanceAs (Decidable True)
  | .close _ => inferInstanceAs (Decidable False)

/-- Every struct holds an open socket of its own, and every open socket is held so. -/
structure Inv (s : Ledger) : Prop where
  registered : s.registered = s.allocated
  held : ∀ p ∈ s.allocated, s.so p ∈ s.sockets ∧ s.owner (s.so p) = p
  owned : ∀ so ∈ s.sockets, s.owner so ∈ s.allocated ∧ s.so (s.owner so) = so

variable {s s' : Ledger} {a : SocketAnswers} {p : Ptr} {so : Sock}

theorem Inv.empty : Inv .empty :=
  ⟨rfl, by simp [Ledger.empty], by simp [Ledger.empty]⟩

theorem Inv.balanced (h : Inv s) : Balanced s := by
  refine ⟨h.registered, Finset.ext fun p => ?_⟩
  rw [Ledger.owners, Finset.mem_image]
  constructor
  · rintro ⟨so, hso, rfl⟩
    exact (h.owned so hso).1
  · intro hp
    exact ⟨s.so p, h.held p hp⟩

/-! ## The calls -/

theorem usrsctpSocket_succeeds (hm : a.malloc = some p) (hs : a.socket = some so)
    (ha : a.allSucceed) :
    usrsctpSocket a s =
      (p, (((s.malloc p).registerAddress p).openSocket so p).setSo p so) := by
  obtain ⟨_, h₁, h₂, h₃, h₄, h₅⟩ := ha
  have hevent : ¬ (List.range eventTypes.length).any (fun i => a.event i < 0) = true := by
    simp only [List.any_eq_true, List.mem_range, decide_eq_true_eq, not_exists, not_and]
    exact fun i hi => Int32.not_lt.mpr (h₅ i hi)
  simp only [usrsctpSocket, hm, hs]
  rw [if_neg (Int32.not_lt.mpr h₁), if_neg (not_not.mpr h₂), if_neg (not_not.mpr h₃),
    if_neg (not_not.mpr h₄), if_neg hevent]

/-- After a failure the struct is freed, and its address stays registered. -/
theorem usrsctpSocket_fails (hm : a.malloc = some p) (ha : ¬ a.allSucceed)
    (hp : p ∉ s.allocated) :
    (usrsctpSocket a s).2.allocated = s.allocated ∧ p ∈ (usrsctpSocket a s).2.registered := by
  have hfree : (insert p s.allocated).erase p = s.allocated := Finset.erase_insert hp
  have hreg : p ∈ insert p s.registered := Finset.mem_insert_self p s.registered
  cases hs : a.socket with
  | none =>
    simp only [usrsctpSocket, hm, hs]
    exact ⟨hfree, hreg⟩
  | some so =>
    simp only [usrsctpSocket, hm, hs]
    split_ifs with h₁ h₂ h₃ h₄ h₅
    · exact ⟨hfree, hreg⟩
    · exact ⟨hfree, hreg⟩
    · exact ⟨hfree, hreg⟩
    · exact ⟨hfree, hreg⟩
    · exact ⟨hfree, hreg⟩
    · -- nothing has failed
      simp only [List.any_eq_true, List.mem_range, decide_eq_true_eq, not_exists, not_and] at h₅
      refine absurd ⟨?_, Int32.not_lt.mp h₁, not_not.mp h₂, not_not.mp h₃, not_not.mp h₄,
        fun i hi => Int32.not_lt.mp (h₅ i hi)⟩ ha
      rw [hs]
      rfl

theorem Inv.socket (h : Inv s) (hp : p ∉ s.allocated) (hso : so ∉ s.sockets) :
    Inv ((((s.malloc p).registerAddress p).openSocket so p).setSo p so) := by
  have hne : ∀ q ∈ s.allocated, q ≠ p := fun q hq hqp => hp (hqp ▸ hq)
  have hneSo : ∀ so' ∈ s.sockets, so' ≠ so := fun so' hs' he => hso (he ▸ hs')
  constructor
  · exact congrArg (insert p) h.registered
  · intro q hq
    rcases Finset.mem_insert.mp hq with rfl | hq
    · simp [Ledger.setSo, Ledger.openSocket]
    · have hheld := h.held q hq
      simp [Ledger.setSo, Ledger.openSocket, Ledger.registerAddress, Ledger.malloc,
        Function.update_of_ne (hne q hq), Function.update_of_ne (hneSo _ hheld.1), hheld]
  · intro so' hs'
    rcases Finset.mem_insert.mp hs' with rfl | hs'
    · simp [Ledger.setSo, Ledger.openSocket, Ledger.registerAddress, Ledger.malloc]
    · have howned := h.owned so' hs'
      simp [Ledger.setSo, Ledger.openSocket, Ledger.registerAddress, Ledger.malloc,
        Function.update_of_ne (hneSo so' hs'), Function.update_of_ne (hne _ howned.1), howned]

theorem Inv.accept (h : Inv s) (hp : p ∈ s.allocated) (hso : so ∉ s.sockets) :
    Inv (((s.openSocket so (s.owner (s.so p))).closeSocket (s.so p)).setSo p so) := by
  obtain ⟨hopen, howner⟩ := h.held p hp
  have hneSo : ∀ so' ∈ s.sockets, so' ≠ so := fun so' hs' he => hso (he ▸ hs')
  constructor
  · exact h.registered
  · intro q hq
    rcases eq_or_ne q p with rfl | hqp
    · simp [Ledger.setSo, Ledger.openSocket, Ledger.closeSocket, howner, (hneSo _ hopen).symm]
    · have hheld := h.held q hq
      have hnep : s.so q ≠ s.so p := fun he => hqp (by rw [← hheld.2, he, howner])
      simp [Ledger.setSo, Ledger.openSocket, Ledger.closeSocket, Function.update_of_ne hqp,
        Function.update_of_ne (hneSo _ hheld.1), hheld, hnep]
  · intro so' hs'
    obtain ⟨hnep, hs'⟩ := Finset.mem_erase.mp hs'
    rcases Finset.mem_insert.mp hs' with rfl | hs'
    · simp [Ledger.setSo, Ledger.openSocket, Ledger.closeSocket, howner, hp]
    · have howned := h.owned so' hs'
      have hqp : s.owner so' ≠ p := fun he => hnep (by rw [← howned.2, he])
      simp [Ledger.setSo, Ledger.openSocket, Ledger.closeSocket,
        Function.update_of_ne (hneSo so' hs'), Function.update_of_ne hqp, howned]

/-! ## Runs -/

theorem exec_socket (hs : jni.exec s (.socket a) = some s') :
    ((∀ p ∈ a.malloc, p ≠ 0 ∧ p ∉ s.allocated) ∧ ∀ so ∈ a.socket, so ∉ s.sockets) ∧
      (usrsctpSocket a s).2 = s' := by
  simpa only [jni, exec, Option.ite_none_right_eq_some, Option.some.injEq] using hs

theorem exec_accept {accepted : Option Sock} (hs : jni.exec s (.accept p accepted) = some s') :
    (p ∈ s.allocated ∧ ∀ so ∈ accepted, so ∉ s.sockets) ∧
      (usrsctpAccept p accepted s).2 = s' := by
  simpa only [jni, exec, Option.ite_none_right_eq_some, Option.some.injEq] using hs

theorem exec_close (hs : jni.exec s (.close p) = some s') :
    p ∈ s.allocated ∧ usrsctpClose p s = s' := by
  simpa only [jni, exec, Option.ite_none_right_eq_some, Option.some.injEq] using hs

/-- From a state in which every struct holds its own socket, a call that has nothing to undo leads
to such a state, and settles the sets. -/
theorem Inv.exec (h : Inv s) {i : Call} (hi : undoesNothing i) (hs : jni.exec s i = some s') :
    Inv s' ∧ Settles s i s' := by
  cases i with
  | socket a =>
    obtain ⟨⟨hp, hso⟩, rfl⟩ := exec_socket hs
    cases hm : a.malloc with
    | none =>
      have hsame : usrsctpSocket a s = (0, s) := by simp only [usrsctpSocket, hm]
      rw [hsame]
      exact ⟨h, h.balanced, fun _ _ _ => ⟨rfl, rfl, rfl⟩, fun _ he => Call.noConfusion he⟩
    | some p =>
      have ha : a.allSucceed := hi.resolve_left (by simp [hm])
      obtain ⟨so, hs⟩ := Option.isSome_iff_exists.mp ha.1
      have hinv := h.socket (hp p hm).2 (hso so hs)
      rw [usrsctpSocket_succeeds hm hs ha]
      refine ⟨hinv, hinv.balanced, fun a' he h0 => ?_, fun _ he => Call.noConfusion he⟩
      cases he
      rw [usrsctpSocket_succeeds hm hs ha] at h0
      exact absurd h0 (hp p hm).1
  | accept ptr accepted =>
    obtain ⟨⟨hp, hso⟩, rfl⟩ := exec_accept hs
    have hinv : Inv (usrsctpAccept ptr accepted s).2 := by
      cases accepted with
      | none => exact h
      | some so => exact h.accept hp (hso so rfl)
    exact ⟨hinv, hinv.balanced, fun _ he => Call.noConfusion he, fun _ he => Call.noConfusion he⟩
  | close ptr => exact absurd hi id

/-- Every other call leaves an address registered that is not a struct. -/
theorem Inv.not_balanced (h : Inv s) {i : Call} (hi : ¬ undoesNothing i)
    (hs : jni.exec s i = some s') : ¬ Balanced s' := by
  intro hb
  cases i with
  | socket a =>
    obtain ⟨⟨hp, _⟩, rfl⟩ := exec_socket hs
    obtain ⟨hm, ha⟩ := not_or.mp hi
    obtain ⟨p, hm⟩ := Option.ne_none_iff_exists'.mp hm
    obtain ⟨halloc, hreg⟩ := usrsctpSocket_fails hm ha (hp p hm).2
    rw [hb.registered, halloc] at hreg
    exact (hp p hm).2 hreg
  | accept ptr accepted => exact hi trivial
  | close ptr =>
    obtain ⟨hp, rfl⟩ := exec_close hs
    have hreg : ptr ∈ (usrsctpClose ptr s).registered := h.registered ▸ hp
    rw [hb.registered] at hreg
    exact Finset.notMem_erase ptr s.allocated hreg

/-- Along every sequence of calls that have nothing to undo the three sets are equal; and after it
a call settles them if and only if it has nothing to undo. -/
theorem settles_iff (h : (jni.restrict fun _ i => undoesNothing i).Reachable s) :
    Balanced s ∧ ∀ i s', jni.exec s i = some s' → (Settles s i s' ↔ undoesNothing i) := by
  have hinv : Inv s := Machine.Reachable.restrict_invariant (M := jni) (P := Inv)
    (by rintro s rfl; exact .empty)
    (fun s i s' hinv hi hs => (hinv.exec hi hs).1) h
  refine ⟨hinv.balanced, fun i s' hs => ⟨fun hset => ?_, fun hi => (hinv.exec hi hs).2⟩⟩
  by_contra hi
  exact hinv.not_balanced hi hs hset.balanced

/-- The answers with which `usrsctp_socket` succeeds, and with which it fails at the option
`SO_LINGER`. -/
def succeed (p : Ptr) (so : Sock) : SocketAnswers := ⟨some p, some so, 0, 0, 0, 0, fun _ => 0⟩

def failLinger (p : Ptr) (so : Sock) : SocketAnswers := ⟨some p, some so, 0, -1, 0, 0, fun _ => 0⟩

/-- A second socket, after one that was made. -/
theorem second_socket_settles : ∃ s, (jni.restrict fun _ i => undoesNothing i).Reachable s ∧
    s.allocated = {16} ∧
    Settles s (.socket (succeed 32 2)) (usrsctpSocket (succeed 32 2) s).2 := by
  have hs : (jni.restrict fun _ i => undoesNothing i).Reachable
      (usrsctpSocket (succeed 16 1) .empty).2 := .step (.init rfl) (i := .socket (succeed 16 1)) rfl
  refine ⟨_, hs, rfl, ?_⟩
  exact ((settles_iff hs).2 (.socket (succeed 32 2)) _ rfl).mpr (by decide)

/-- A `usrsctp_socket` that fails at `SO_LINGER` returns `0` and leaves an address registered and
a socket open with a freed struct; a `usrsctp_close` leaves the address registered. -/
theorem failed_socket_and_close_leave :
    (∃ s', jni.exec .empty (.socket (failLinger 16 1)) = some s' ∧
      ¬ Settles .empty (.socket (failLinger 16 1)) s') ∧
    ∃ s s', jni.Reachable s ∧ jni.exec s (.close 16) = some s' ∧ ¬ Settles s (.close 16) s' := by
  have hfail : ¬ undoesNothing (.socket (failLinger 16 1)) := by decide
  have hclose : ¬ undoesNothing (.close 16) := by decide
  have hsocket : jni.exec .empty (.socket (succeed 16 1)) = some _ := rfl
  have hinv := (Inv.empty.exec (by decide) hsocket).1
  constructor
  · exact ⟨_, rfl, fun hset => Inv.empty.not_balanced hfail rfl hset.balanced⟩
  · exact ⟨_, _, .step (.init rfl) hsocket, rfl, fun hset =>
      hinv.not_balanced hclose rfl hset.balanced⟩

end Sctp4Nat.NativeLedger
