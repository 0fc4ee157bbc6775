import Mathlib.Data.Fintype.Basic
import Sctp4Nat.Java.HashMap
import Sctp4Nat.Machine.Threads
import Sctp4Nat.Origin.SctpSocket

/-! # The registry `Sctp.sockets`

`Sctp.createSocket` allocates a native socket and then puts it into `sockets`;
`Sctp.closeSocket` frees the native socket and then removes its address. The allocator may
return any address that is free, one that was freed a moment ago included, so an address can be
put again between the two steps of a `closeSocket`, whose `remove` then hits the new socket. -/

namespace Sctp4Nat.SocketRegistry

/-- A `SctpSocket` object: its identity and its pointer. -/
structure Ref where
  id : Nat
  ptr : Ptr
  deriving DecidableEq, Repr

inductive Pc
  | idle
  /-- In `createSocket`: `usrsctp_socket` has returned `ptr`. -/
  | allocated (ptr : Ptr)
  /-- In `closeSocket`, before `usrsctp_close`. -/
  | closing (s : Ref)
  /-- In `closeSocket`, before `sockets.remove`. -/
  | freed (ptr : Ptr)
  deriving DecidableEq, Repr

structure Shared where
  /-- The native addresses in use. -/
  allocated : List Ptr
  sockets : ConcurrentHashMap Ptr Ref
  /-- The sockets that `createSocket` returned. -/
  returned : List Ref
  /-- The sockets whose `closeSocket` has started. -/
  started : List Ref
  next : Nat

/-- `createSocket` begins, with the answer of the allocator (`0` for a failure); `closeSocket`
begins on a socket; or the thread takes its next step. -/
inductive Choice
  | createSocket (ptr : Ptr)
  | closeSocket (s : Ref)
  | go
  deriving DecidableEq, Repr

def step (s : Shared) : Pc → Choice → Option (Shared × Pc)
  | .idle, .createSocket ptr =>
    if ptr = 0 then some (s, .idle)
    else if ptr ∈ s.allocated then none
    else some ({ s with allocated := ptr :: s.allocated }, .allocated ptr)
  | .allocated ptr, .go =>
    let socket : Ref := ⟨s.next, ptr⟩
    some ({ s with
      sockets := s.sockets.put ptr socket
      returned := socket :: s.returned
      next := s.next + 1 }, .idle)
  -- the pointer protocol hands each socket to `closeSocket` once
  | .idle, .closeSocket so =>
    if so ∈ s.returned ∧ so ∉ s.started then
      some ({ s with started := so :: s.started }, .closing so)
    else none
  | .closing so, .go =>
    some ({ s with allocated := s.allocated.filter (· ≠ so.ptr) }, .freed so.ptr)
  | .freed ptr, .go => some ({ s with sockets := s.sockets.remove ptr }, .idle)
  | _, _ => none

/-- The steps of a thread, one rule for each. -/
inductive Steps (s : Shared) : Pc → Choice → Shared → Pc → Prop
  | createFailed : Steps s .idle (.createSocket 0) s .idle
  | create (hptr : ptr ∉ s.allocated) :
    Steps s .idle (.createSocket ptr) { s with allocated := ptr :: s.allocated } (.allocated ptr)
  | put (ptr : Ptr) :
    Steps s (.allocated ptr) .go
      { s with
        sockets := s.sockets.put ptr ⟨s.next, ptr⟩
        returned := ⟨s.next, ptr⟩ :: s.returned
        next := s.next + 1 } .idle
  | close (hlive : so ∈ s.returned ∧ so ∉ s.started) :
    Steps s .idle (.closeSocket so) { s with started := so :: s.started } (.closing so)
  | free (so : Ref) :
    Steps s (.closing so) .go { s with allocated := s.allocated.filter (· ≠ so.ptr) }
      (.freed so.ptr)
  | remove (ptr : Ptr) :
    Steps s (.freed ptr) .go { s with sockets := s.sockets.remove ptr } .idle

theorem steps_of_step {s s' : Shared} (h : step s l a = some (s', l')) : Steps s l a s' l' := by
  cases l with
  | idle =>
    cases a with
    | createSocket ptr =>
      simp only [step] at h
      split at h
      · rename_i hptr
        cases hptr; cases h; exact .createFailed
      split at h <;> cases h
      exact .create ‹_›
    | closeSocket so =>
      simp only [step] at h
      split at h <;> cases h
      exact .close ‹_›
    | go => cases h
  | allocated ptr =>
    cases a with
    | go => cases h; exact .put ptr
    | createSocket | closeSocket => cases h
  | closing so =>
    cases a with
    | go => cases h; exact .free so
    | createSocket | closeSocket => cases h
  | freed ptr =>
    cases a with
    | go => cases h; exact .remove ptr
    | createSocket | closeSocket => cases h

variable {T : Type*} [DecidableEq T]

def registry (T : Type*) [DecidableEq T] : Machine (Config T Shared Pc) (T × Choice) :=
  threads (fun s => s = ⟨[], .empty, [], [], 0⟩) .idle fun _ => step

/-- The socket that `Sctp.onSctpInboundPacket` and `Sctp.onSctpOutboundPacket` reach with a
native pointer. -/
def Shared.socketOf (s : Shared) (ptr : Ptr) : Option Ref := s.sockets.get ptr

/-- A socket that was returned and not handed to `closeSocket`. -/
def Shared.Live (s : Shared) (so : Ref) : Prop := so ∈ s.returned ∧ so ∉ s.started

/-- Every live socket is found under its pointer. -/
def Shared.AllFound (s : Shared) : Prop := ∀ so, s.Live so → s.socketOf so.ptr = some so

/-- No thread puts an address that another one is about to remove. -/
def NoReuse (c : Config T Shared Pc) (i : T × Choice) : Prop :=
  ∀ ptr, c.thread i.1 = .allocated ptr → ∀ u, c.thread u ≠ .freed ptr

instance [Fintype T] (c : Config T Shared Pc) (i : T × Choice) : Decidable (NoReuse c i) :=
  match h : c.thread i.1 with
  | .allocated ptr => decidable_of_iff (∀ u, c.thread u ≠ .freed ptr)
      ⟨fun hu q hq => by rw [h] at hq; cases hq; exact hu, fun hn => hn ptr h⟩
  | .idle | .closing _ | .freed _ => isTrue fun q hq => by rw [h] at hq; cases hq

/-- The address a thread is responsible for. -/
def Pc.owns : Pc → Ptr → Prop
  | .allocated ptr, q => ptr = q
  | .closing so, q => so.ptr = q
  | _, _ => False

/-- Who is responsible for an address is alone, and the address is in use. -/
structure Inv (c : Config T Shared Pc) : Prop where
  live_found : c.shared.AllFound
  live_allocated : ∀ so, c.shared.Live so → so.ptr ∈ c.shared.allocated
  live_unique : ∀ so so', c.shared.Live so → c.shared.Live so' → so.ptr = so'.ptr → so = so'
  live_not_owned : ∀ so, c.shared.Live so → ∀ t, ¬ (c.thread t).owns so.ptr
  live_not_freed : ∀ so, c.shared.Live so → ∀ t, c.thread t ≠ .freed so.ptr
  owned_allocated : ∀ t ptr, (c.thread t).owns ptr → ptr ∈ c.shared.allocated
  owned_unique : ∀ t u ptr, (c.thread t).owns ptr → (c.thread u).owns ptr → t = u

section
variable {c : Config T Shared Pc}

theorem owns_set {c : Config T Shared Pc} (h : ((c.set t s l).thread u).owns q) :
    u = t ∧ Pc.owns l q ∨ u ≠ t ∧ (c.thread u).owns q :=
  Config.of_set (Pc.owns · q) h

theorem freed_set {c : Config T Shared Pc} (h : (c.set t s l).thread u = .freed q) :
    u = t ∧ l = .freed q ∨ u ≠ t ∧ c.thread u = .freed q :=
  Config.of_set (· = Pc.freed q) h

theorem Inv.create (h : Inv c) (hptr : ptr ∉ c.shared.allocated) :
    Inv (c.set t { c.shared with allocated := ptr :: c.shared.allocated } (.allocated ptr)) where
  live_found := h.live_found
  live_allocated so hso := List.mem_cons_of_mem _ (h.live_allocated so hso)
  live_unique := h.live_unique
  live_not_owned so hso u hu := by
    rcases owns_set hu with ⟨_, rfl⟩ | ⟨_, hu⟩
    · exact hptr (h.live_allocated so hso)
    · exact h.live_not_owned so hso u hu
  live_not_freed so hso u hu := by
    rcases freed_set hu with ⟨_, hl⟩ | ⟨_, hu⟩
    · cases hl
    · exact h.live_not_freed so hso u hu
  owned_allocated u q hu := by
    rcases owns_set hu with ⟨_, rfl⟩ | ⟨_, hu⟩
    · exact List.mem_cons_self
    · exact List.mem_cons_of_mem _ (h.owned_allocated u q hu)
  owned_unique u v q hu hv := by
    rcases owns_set hu with ⟨eu, rfl⟩ | ⟨_, hu'⟩ <;> rcases owns_set hv with ⟨ev, hq⟩ | ⟨_, hv'⟩
    · exact eu.trans ev.symm
    · exact absurd (h.owned_allocated v _ hv') hptr
    · exact absurd (h.owned_allocated u _ (hq ▸ hu')) hptr
    · exact h.owned_unique u v q hu' hv'

theorem Inv.put (h : Inv c) (ht : c.thread t = .allocated ptr)
    (hreuse : ∀ u, c.thread u ≠ .freed ptr) :
    Inv (c.set t { c.shared with
      sockets := c.shared.sockets.put ptr ⟨c.shared.next, ptr⟩
      returned := ⟨c.shared.next, ptr⟩ :: c.shared.returned
      next := c.shared.next + 1 } .idle) := by
  have hown : (c.thread t).owns ptr := by rw [ht]; rfl
  -- a socket that was live before has another address
  have hlive : ∀ so, so ∈ (⟨c.shared.next, ptr⟩ : Ref) :: c.shared.returned →
      so ∉ c.shared.started →
      so = ⟨c.shared.next, ptr⟩ ∨ c.shared.Live so ∧ so.ptr ≠ ptr := by
    intro so hso hst
    rcases List.mem_cons.mp hso with rfl | hso
    · exact .inl rfl
    · exact .inr ⟨⟨hso, hst⟩, fun he => h.live_not_owned so ⟨hso, hst⟩ t (he ▸ hown)⟩
  refine ⟨?_, ?_, ?_, ?_, ?_, ?_, ?_⟩
  · rintro so ⟨hso, hst⟩
    simp only [Shared.socketOf, Config.set_shared, ConcurrentHashMap.get_put]
    rcases hlive so hso hst with rfl | ⟨hso, hne⟩
    · simp [equals]
    · rw [if_neg (by simpa [equals] using hne.symm)]
      exact h.live_found so hso
  · rintro so ⟨hso, hst⟩
    rcases hlive so hso hst with rfl | ⟨hso, _⟩
    · exact h.owned_allocated t ptr hown
    · exact h.live_allocated so hso
  · rintro so so' ⟨hso, hst⟩ ⟨hso', hst'⟩ he
    rcases hlive so hso hst with rfl | ⟨hso, hne⟩ <;>
      rcases hlive so' hso' hst' with rfl | ⟨hso', hne'⟩
    · rfl
    · exact absurd he.symm hne'
    · exact absurd he hne
    · exact h.live_unique so so' hso hso' he
  · rintro so ⟨hso, hst⟩ u hu
    rcases owns_set hu with ⟨_, hl⟩ | ⟨hne, hu⟩
    · exact hl
    rcases hlive so hso hst with rfl | ⟨hso, _⟩
    · exact hne (h.owned_unique u t ptr hu hown)
    · exact h.live_not_owned so hso u hu
  · rintro so ⟨hso, hst⟩ u hu
    rcases freed_set hu with ⟨_, hl⟩ | ⟨_, hu⟩
    · cases hl
    rcases hlive so hso hst with rfl | ⟨hso, _⟩
    · exact hreuse u hu
    · exact h.live_not_freed so hso u hu
  · intro u q hu
    rcases owns_set hu with ⟨_, hl⟩ | ⟨_, hu⟩
    · exact hl.elim
    · exact h.owned_allocated u q hu
  · intro u v q hu hv
    rcases owns_set hu with ⟨_, hl⟩ | ⟨_, hu⟩
    · exact hl.elim
    rcases owns_set hv with ⟨_, hl⟩ | ⟨_, hv⟩
    · exact hl.elim
    · exact h.owned_unique u v q hu hv

theorem Inv.close (h : Inv c) (hso : c.shared.Live so) :
    Inv (c.set t { c.shared with started := so :: c.shared.started } (.closing so)) := by
  have hlive : ∀ so', so' ∈ c.shared.returned → so' ∉ so :: c.shared.started →
      c.shared.Live so' ∧ so'.ptr ≠ so.ptr := by
    intro so' hr hs
    rw [List.mem_cons, not_or] at hs
    obtain ⟨hne, hs⟩ := hs
    exact ⟨⟨hr, hs⟩, fun he => hne (h.live_unique so' so ⟨hr, hs⟩ hso he)⟩
  refine ⟨?_, ?_, ?_, ?_, ?_, ?_, ?_⟩
  · exact fun so' hs => h.live_found so' (hlive so' hs.1 hs.2).1
  · exact fun so' hs => h.live_allocated so' (hlive so' hs.1 hs.2).1
  · exact fun so₁ so₂ h₁ h₂ => h.live_unique so₁ so₂ (hlive so₁ h₁.1 h₁.2).1 (hlive so₂ h₂.1 h₂.2).1
  · intro so' hs u hu
    rcases owns_set hu with ⟨_, hl⟩ | ⟨_, hu⟩
    · exact (hlive so' hs.1 hs.2).2 hl.symm
    · exact h.live_not_owned so' (hlive so' hs.1 hs.2).1 u hu
  · intro so' hs u hu
    rcases freed_set hu with ⟨_, hl⟩ | ⟨_, hu⟩
    · cases hl
    · exact h.live_not_freed so' (hlive so' hs.1 hs.2).1 u hu
  · intro u q hu
    rcases owns_set hu with ⟨_, rfl⟩ | ⟨_, hu⟩
    · exact h.live_allocated so hso
    · exact h.owned_allocated u q hu
  · intro u v q hu hv
    rcases owns_set hu with ⟨eu, rfl⟩ | ⟨_, hu'⟩ <;> rcases owns_set hv with ⟨ev, hq⟩ | ⟨_, hv'⟩
    · exact eu.trans ev.symm
    · exact absurd hv' (h.live_not_owned so hso v)
    · exact absurd (hq ▸ hu') (h.live_not_owned so hso u)
    · exact h.owned_unique u v q hu' hv'

theorem Inv.free (h : Inv c) (ht : c.thread t = .closing so) :
    Inv (c.set t { c.shared with allocated := c.shared.allocated.filter (· ≠ so.ptr) }
      (.freed so.ptr)) := by
  have hown : (c.thread t).owns so.ptr := by rw [ht]; rfl
  refine ⟨h.live_found, ?_, h.live_unique, ?_, ?_, ?_, ?_⟩
  · intro so' hs
    refine List.mem_filter.mpr ⟨h.live_allocated so' hs, ?_⟩
    exact decide_eq_true fun he => h.live_not_owned so' hs t (he ▸ hown)
  · intro so' hs u hu
    rcases owns_set hu with ⟨_, hl⟩ | ⟨_, hu⟩
    · exact hl
    · exact h.live_not_owned so' hs u hu
  · intro so' hs u hu
    rcases freed_set hu with ⟨_, hl⟩ | ⟨_, hu⟩
    · injection hl with hl
      exact h.live_not_owned so' hs t (hl ▸ hown)
    · exact h.live_not_freed so' hs u hu
  · intro u q hu
    rcases owns_set hu with ⟨_, hl⟩ | ⟨hne, hu⟩
    · exact hl.elim
    · refine List.mem_filter.mpr ⟨h.owned_allocated u q hu, ?_⟩
      exact decide_eq_true fun he => hne (h.owned_unique u t q hu (he ▸ hown))
  · intro u v q hu hv
    rcases owns_set hu with ⟨_, hl⟩ | ⟨_, hu⟩
    · exact hl.elim
    rcases owns_set hv with ⟨_, hl⟩ | ⟨_, hv⟩
    · exact hl.elim
    · exact h.owned_unique u v q hu hv

theorem Inv.remove (h : Inv c) (ht : c.thread t = .freed ptr) :
    Inv (c.set t { c.shared with sockets := c.shared.sockets.remove ptr } .idle) := by
  refine ⟨?_, h.live_allocated, h.live_unique, ?_, ?_, ?_, ?_⟩
  · intro so hs
    have hne : ¬ equals ptr so.ptr = true := fun he =>
      h.live_not_freed so hs t (by rw [ht, beq_iff_eq.mp he])
    simp only [Shared.socketOf, Config.set_shared, ConcurrentHashMap.get_remove, if_neg hne]
    exact h.live_found so hs
  · intro so hs u hu
    rcases owns_set hu with ⟨_, hl⟩ | ⟨_, hu⟩
    · exact hl
    · exact h.live_not_owned so hs u hu
  · intro so hs u hu
    rcases freed_set hu with ⟨_, hl⟩ | ⟨_, hu⟩
    · cases hl
    · exact h.live_not_freed so hs u hu
  · intro u q hu
    rcases owns_set hu with ⟨_, hl⟩ | ⟨_, hu⟩
    · exact hl.elim
    · exact h.owned_allocated u q hu
  · intro u v q hu hv
    rcases owns_set hu with ⟨_, hl⟩ | ⟨_, hu⟩
    · exact hl.elim
    rcases owns_set hv with ⟨_, hl⟩ | ⟨_, hv⟩
    · exact hl.elim
    · exact h.owned_unique u v q hu hv

theorem Inv.exec (h : Inv c) {t : T} {a : Choice} (hok : NoReuse c (t, a))
    (he : (registry T).exec c (t, a) = some c') : Inv c' := by
  obtain ⟨s, l, hs, rfl⟩ := threads_exec.mp he
  generalize ht : c.thread t = l₀ at hs
  cases steps_of_step hs with
  | createFailed => rw [← ht, Config.set_self]; exact h
  | create hptr => exact h.create hptr
  | put ptr => exact h.put ht (hok ptr ht)
  | close hlive => exact h.close hlive
  | free so => exact h.free ht
  | remove ptr => exact h.remove ht

theorem Inv.init (h : (registry T).init c) : Inv c := by
  obtain ⟨hs, ht⟩ := h
  have hnone : ∀ so, ¬ c.shared.Live so := by rw [hs]; rintro so ⟨hm, _⟩; cases hm
  have howns : ∀ t q, ¬ (c.thread t).owns q := fun t q hq => by rw [ht] at hq; exact hq
  exact ⟨fun so h => (hnone so h).elim, fun so h => (hnone so h).elim,
    fun so _ h => (hnone so h).elim, fun so h => (hnone so h).elim, fun so h => (hnone so h).elim,
    fun t q h => (howns t q h).elim, fun t _ q h => (howns t q h).elim⟩

/-- Object identities are handed out in order. -/
def Fresh (c : Config T Shared Pc) : Prop :=
  ∀ so, so ∈ c.shared.returned ∨ so ∈ c.shared.started → so.id < c.shared.next

theorem reachable_fresh (h : (registry T).Reachable c) : Fresh c := by
  induction h with
  | init h => rw [Fresh, h.1]; rintro so (hso | hso) <;> cases hso
  | @step c i c' _ he ih =>
    obtain ⟨t, a⟩ := i
    obtain ⟨s, l, hs, rfl⟩ := threads_exec.mp he
    generalize c.thread t = l₀ at hs
    cases steps_of_step hs with
    | put ptr =>
      rintro so (hso | hso)
      · rcases List.mem_cons.mp hso with rfl | hso
        · exact Nat.lt_succ_self _
        · exact Nat.lt_succ_of_lt (ih so (.inl hso))
      · exact Nat.lt_succ_of_lt (ih so (.inr hso))
    | close hlive =>
      rintro so (hso | hso)
      · exact ih so (.inl hso)
      · rcases List.mem_cons.mp hso with rfl | hso
        · exact ih so (.inl hlive.1)
        · exact ih so (.inr hso)
    | createFailed | create | free | remove => exact ih

theorem reachable_inv [Fintype T] (h : ((registry T).restrict NoReuse).Reachable c) : Inv c :=
  h.restrict_invariant (fun _ => Inv.init) fun _ _ _ hinv hok he => hinv.exec hok he

/-- A put of an address that is about to be removed is followed by the removal. -/
theorem lost_after_reuse (hf : Fresh c) (ht : c.thread t = .allocated ptr)
    (hu : c.thread u = .freed ptr) :
    ∃ c', (registry T).run c [(t, .go), (u, .go)] = some c' ∧ ¬ c'.shared.AllFound := by
  have hne : u ≠ t := by rintro rfl; rw [ht] at hu; cases hu
  let so : Ref := ⟨c.shared.next, ptr⟩
  let c₁ := c.set t { c.shared with
    sockets := c.shared.sockets.put ptr so
    returned := so :: c.shared.returned
    next := c.shared.next + 1 } .idle
  have h₁ : (registry T).exec c (t, .go) = some c₁ :=
    threads_exec.mpr ⟨_, _, by rw [ht]; rfl, rfl⟩
  have hu₁ : c₁.thread u = .freed ptr := (Config.set_thread_of_ne c hne).trans hu
  have h₂ : (registry T).exec c₁ (u, .go) =
      some (c₁.set u { c₁.shared with sockets := c₁.shared.sockets.remove ptr } .idle) :=
    threads_exec.mpr ⟨_, _, by rw [hu₁]; rfl, rfl⟩
  refine ⟨_, (Machine.run_cons h₁ _).trans (Machine.run_cons h₂ _), fun hall => ?_⟩
  have hstarted : so ∉ c.shared.started := fun hs => absurd (hf so (.inr hs)) (Nat.lt_irrefl _)
  have hfound := hall so ⟨List.mem_cons_self, hstarted⟩
  simp only [Shared.socketOf, Config.set_shared, ConcurrentHashMap.get_remove] at hfound
  rw [if_pos (equals_refl ptr)] at hfound
  cases hfound

/-- Every live socket is found under its pointer in all runs in which no address is put while it
is about to be removed; and wherever a run comes to such a put, it can go on to lose the new
socket. -/
theorem live_sockets_found_iff_no_reuse [Fintype T] :
    (∀ c : Config T Shared Pc, ((registry T).restrict NoReuse).Reachable c →
      c.shared.AllFound) ∧
    (∀ c : Config T Shared Pc, (registry T).Reachable c → ∀ t, ¬ NoReuse c (t, .go) →
      ∃ u c', (registry T).run c [(t, .go), (u, .go)] = some c' ∧ ¬ c'.shared.AllFound) := by
  refine ⟨fun c h => (reachable_inv h).live_found, fun c h t hreuse => ?_⟩
  simp only [NoReuse, not_forall, not_not] at hreuse
  obtain ⟨ptr, ht, u, hu⟩ := hreuse
  obtain ⟨c', hrun, hlost⟩ := lost_after_reuse (reachable_fresh h) ht hu
  exact ⟨u, c', hrun, hlost⟩

end

/-- An address may come back once its removal is done. -/
theorem reused_address_found_after_remove :
    ∃ c : Config (Fin 2) Shared Pc, ((registry (Fin 2)).restrict NoReuse).Reachable c ∧
      c.shared.Live ⟨1, 16⟩ ∧ c.shared.socketOf 16 = some ⟨1, 16⟩ := by
  have hstart : ((registry (Fin 2)).restrict NoReuse).Reachable
      ⟨⟨[], .empty, [], [], 0⟩, fun _ => .idle⟩ := .init ⟨rfl, fun _ => rfl⟩
  obtain ⟨c, hc, hlive⟩ := hstart.exists_run
    (P := fun c => ⟨1, 16⟩ ∈ c.shared.returned ∧ ⟨1, 16⟩ ∉ c.shared.started)
    [(0, .createSocket 16), (0, .go), (0, .closeSocket ⟨0, 16⟩), (0, .go),
      (1, .createSocket 16), (0, .go), (1, .go)] (by decide)
  exact ⟨c, hc, hlive, live_sockets_found_iff_no_reuse.1 c hc _ hlive⟩

/-- Thread `1` gets the address that thread `0` has freed and not yet removed. -/
theorem reused_address_loses_socket :
    ∃ c : Config (Fin 2) Shared Pc, (registry (Fin 2)).Reachable c ∧
      c.shared.Live ⟨1, 16⟩ ∧ c.shared.socketOf 16 = none ∧ ¬ c.shared.AllFound := by
  have hstart : (registry (Fin 2)).Reachable ⟨⟨[], .empty, [], [], 0⟩, fun _ => .idle⟩ :=
    .init ⟨rfl, fun _ => rfl⟩
  obtain ⟨c, hc, hlive, hnone⟩ := hstart.exists_run
    (P := fun c => (⟨1, 16⟩ ∈ c.shared.returned ∧ ⟨1, 16⟩ ∉ c.shared.started) ∧
      c.shared.socketOf 16 = none)
    [(0, .createSocket 16), (0, .go), (0, .closeSocket ⟨0, 16⟩), (0, .go),
      (1, .createSocket 16), (1, .go), (0, .go)] (by decide)
  refine ⟨c, hc, hlive, hnone, fun hall => ?_⟩
  have := hall _ hlive
  rw [hnone] at this
  cases this

end Sctp4Nat.SocketRegistry
