import Sctp4Nat.Origin.NativeAccept

/-! # The accepted flag

`isAccepted` is to stay set from the accept on until the next `listenNative`. `onSctpIn` tests,
accepts and writes it in one synchronized block; `sendNative` tests it, accepts and writes what
the accept returned, in three steps outside of any block. A call of `sendNative` that has found
the flag unset and whose accept comes too late writes `false` over the `true` of another thread.

What has happened is noted beside the run (`Note`). The flag is kept in every interleaving in
which a thread confirms its accept only when no other thread can still write `false`. -/

namespace Sctp4Nat.NativeAccept

/-- What is noted of the past. -/
structure Note (T : Type*) where
  /-- The last accept of the thread has succeeded. -/
  won : T → Bool
  /-- Since the last `listenNative` a thread whose accept has succeeded has written `true`. -/
  confirmed : Bool

variable {T : Type*} [DecidableEq T]

def note (n : Note T) (c : Config T (Shared T) Pc) (i : T × Choice) : Note T :=
  match c.thread i.1, i.2 with
  | .call .accept so _, .go =>
    { n with won := Function.update n.won i.1 (so ∈ c.shared.usr.completed) }
  | .listenReset, .go => { n with confirmed := false }
  | .sendWrite _ r, .go => { n with confirmed := n.confirmed || r }
  | .sctpInWrite, .go => { n with confirmed := n.confirmed || n.won i.1 }
  | _, _ => n

/-- The interleavings with their notes. -/
def watched (T : Type*) [DecidableEq T] : Machine (Config T (Shared T) Pc × Note T) (T × Choice) :=
  (native T).watch ⟨fun _ => false, false⟩ note

/-! ## The condition -/

/-- A `sendNative` that has found the flag unset and may come to write `false`. -/
def Pc.mayClear : Pc → Bool
  | .lock _ (.send _) | .read _ (.send _) | .call _ _ (.send _) => true
  | .unlock (.send _) false | .sendWrite _ false => true
  | _ => false

/-- The step is the write of a thread whose accept has succeeded. -/
def confirms (c : Config T (Shared T) Pc × Note T) (i : T × Choice) : Bool :=
  match c.1.thread i.1, i.2 with
  | .sendWrite _ r, .go => r
  | .sctpInWrite, .go => c.2.won i.1
  | _, _ => false

/-- A thread confirms its accept only when no other thread may come to write `false`. -/
def Unrivalled (c : Config T (Shared T) Pc × Note T) (i : T × Choice) : Prop :=
  confirms c i = true → ∀ u, u ≠ i.1 → (c.1.thread u).mayClear = false

instance [Fintype T] (c : Config T (Shared T) Pc × Note T) (i : T × Choice) :
    Decidable (Unrivalled c i) :=
  inferInstanceAs (Decidable (_ → _))

/-! ## What a step does to the flag -/

def Pc.writes : Pc → Bool
  | .listenReset | .sendWrite .. | .sctpInWrite => true
  | _ => false

omit [DecidableEq T] in
theorem mayClear_enter (m : Method) : m.enter.mayClear = false := by
  cases m <;> rfl

omit [DecidableEq T] in
theorem mayClear_sendGuard (a : SendArgs) : (sendGuard a).mayClear = false := by
  unfold sendGuard
  split <;> rfl

theorem lockPtr_isAccepted (so : SctpSocket) :
    (SctpSocket.lockPtr.run so).2.isAccepted = so.isAccepted := by
  by_cases h : so.closed = true ∨ so.ptr = 0
  · rw [SctpSocket.lockPtr_closed h]
  · rw [not_or, Bool.not_eq_true] at h
    rw [SctpSocket.lockPtr_open h.1 h.2]

theorem unlockPtr_isAccepted (so : SctpSocket) :
    (SctpSocket.unlockPtr.run so).2.isAccepted = so.isAccepted := by
  by_cases hcount : 0 < so.ptrLockCount
  · by_cases hlast : so.closed = true ∧ so.ptrLockCount = 1
    · rw [SctpSocket.unlockPtr_last hlast.2 hlast.1]
    · rw [not_and_or, Bool.not_eq_true] at hlast
      rw [SctpSocket.unlockPtr_shared hcount hlast]
  · rw [SctpSocket.unlockPtr_unbalanced (by omega)]

section

variable {t : T} {s s' : Shared T} {l l' : Pc} {a : Choice}

theorem step_lock_flag (hs : step t s (.lock fn k) .go = some (s', l')) :
    s'.socket.isAccepted = s.socket.isAccepted ∧
      ((Pc.lock fn k).mayClear = false → l'.mayClear = false) := by
  have hflag := lockPtr_isAccepted s.socket
  simp only [step] at hs
  split at hs
  · split at hs <;> rename_i heq <;> rw [heq] at hflag <;> cases hs
    · exact ⟨hflag, by cases k <;> exact id⟩
    · exact ⟨by rw [leave_socket]; exact hflag, fun _ => rfl⟩
  · cases hs

theorem step_unlock_flag (hs : step t s (.unlock k r) .go = some (s', l')) :
    s'.socket.isAccepted = s.socket.isAccepted ∧
      ((Pc.unlock k r).mayClear = false → l'.mayClear = false) := by
  have hflag := unlockPtr_isAccepted s.socket
  simp only [step] at hs
  split at hs
  · split at hs <;> rename_i heq <;> rw [heq] at hflag <;> cases hs
    · exact ⟨hflag, by cases k <;> cases r <;> exact fun h => h⟩
    · exact ⟨by rw [leave_socket]; exact hflag, fun _ => rfl⟩
  · cases hs

theorem step_accept_flag (hs : step t s (.call .accept so k) .go = some (s', l')) :
    s'.socket.isAccepted = s.socket.isAccepted ∧
      ((Pc.call .accept so k).mayClear = false → l'.mayClear = false) := by
  simp only [step] at hs
  split at hs <;> cases hs
  · exact ⟨rfl, fun _ => rfl⟩
  · exact ⟨rfl, by cases k <;> exact id⟩

/-- A step other than the three writes leaves the flag as it is, and while the flag is set it
brings no thread to where it may clear it. -/
theorem step_flag (hs : step t s l a = some (s', l')) (hw : l.writes = false ∨ a ≠ .go) :
    s'.socket.isAccepted = s.socket.isAccepted ∧
      (s.socket.isAccepted = true → l.mayClear = false → l'.mayClear = false) := by
  cases a with
  | associated so =>
    simp only [step] at hs
    split at hs <;> cases hs
    exact ⟨rfl, fun _ h => h⟩
  | call m =>
    cases l with
    | idle => cases hs; exact ⟨rfl, fun _ _ => mayClear_enter m⟩
    | _ => cases hs
  | result ok =>
    cases l with
    | call fn so k =>
      cases fn with
      | accept => cases hs
      | calls fn rest =>
        cases hs
        refine ⟨rfl, fun _ h => ?_⟩
        cases k <;> cases rest <;> first | rfl | cases h
    | _ => cases hs
  | go =>
    have hw : l.writes = false := hw.resolve_right (fun h => h rfl)
    cases l with
    | idle => cases hs
    | listenReset => cases hw
    | sendTest args =>
      cases hs
      refine ⟨rfl, fun hset _ => ?_⟩
      rw [if_pos hset]
      exact mayClear_sendGuard args
    | sctpInEnter =>
      simp only [step] at hs
      split at hs <;> cases hs
      exact ⟨rfl, fun _ _ => rfl⟩
    | sctpInTest =>
      simp only [step] at hs
      split at hs <;> cases hs
      · exact ⟨rfl, fun _ _ => rfl⟩
      · exact ⟨rfl, fun _ _ => rfl⟩
    | lock fn k => exact (step_lock_flag hs).imp id fun h _ => h
    | read fn k =>
      cases hs
      exact ⟨rfl, fun _ => by cases k <;> exact id⟩
    | call fn so k =>
      cases fn with
      | accept => exact (step_accept_flag hs).imp id fun h _ => h
      | calls => cases hs
    | closeOld new k => cases hs; exact ⟨rfl, fun _ _ => rfl⟩
    | store new k =>
      cases hs
      exact ⟨rfl, fun _ _ => by cases k <;> rfl⟩
    | unlock k r => exact (step_unlock_flag hs).imp id fun h _ => h
    | sendWrite args r => cases hw
    | sctpInWrite => cases hw

end

/-! ## Runs -/

section

variable {c c' : Config T (Shared T) Pc × Note T} {t : T} {a : Choice}

/-- Once an accept is confirmed the flag is set and no thread may clear it. -/
def Settled (c : Config T (Shared T) Pc × Note T) : Prop :=
  c.2.confirmed = true →
    c.1.shared.socket.isAccepted = true ∧ ∀ t, (c.1.thread t).mayClear = false

theorem note_confirmed (n : Note T) {c : Config T (Shared T) Pc}
    (hw : (c.thread t).writes = false ∨ a ≠ .go) : (note n c (t, a)).confirmed = n.confirmed := by
  have hout : (c.thread t).writes = true → a = .go → False := by
    intro hwrites hgo
    rw [hwrites, hgo] at hw
    rcases hw with hw | hw
    · cases hw
    · exact hw rfl
  unfold note
  split
  · rfl
  · rename_i hl ha
    exact (hout (by rw [hl]; rfl) ha).elim
  · rename_i hl ha
    exact (hout (by rw [hl]; rfl) ha).elim
  · rename_i hl ha
    exact (hout (by rw [hl]; rfl) ha).elim
  · rfl

/-- A step that does not write the flag. -/
theorem Settled.outside (h : Settled c) (hw : (c.1.thread t).writes = false ∨ a ≠ .go)
    (hs : step t c.1.shared (c.1.thread t) a = some (s, l)) :
    Settled (c.1.set t s l, note c.2 c.1 (t, a)) := by
  intro hconf
  rw [note_confirmed c.2 hw] at hconf
  obtain ⟨hset, hclear⟩ := h hconf
  obtain ⟨hflag, hnew⟩ := step_flag hs hw
  refine ⟨hflag.trans hset, ?_⟩
  exact Config.forall_set (P := fun _ l => Pc.mayClear l = false)
    (hnew hset (hclear t)) fun u _ => hclear u

/-- The write of `true`, which confirms an accept or does not. -/
theorem Settled.write {s : Shared T} {l : Pc} {n : Note T} (h : Settled c)
    (hset : s.socket.isAccepted = true) (hl : l.mayClear = false)
    (hconf : n.confirmed = true → c.2.confirmed = true ∨
      ∀ u, u ≠ t → (c.1.thread u).mayClear = false) :
    Settled (c.1.set t s l, n) := by
  intro hn
  refine ⟨hset, Config.forall_set (P := fun _ l => Pc.mayClear l = false) hl fun u hu => ?_⟩
  rcases hconf hn with hc | hrest
  · exact (h hc).2 u
  · exact hrest u hu

theorem Settled.exec (h : Settled c) (hu : Unrivalled c (t, a))
    (he : (watched T).exec c (t, a) = some c') : Settled c' := by
  obtain ⟨hexec, hnote⟩ := Machine.watch_exec_iff.mp he
  obtain ⟨s, l, hs, hset⟩ := threads_exec.mp hexec
  obtain rfl : c' = (c.1.set t s l, note c.2 c.1 (t, a)) := Prod.ext hset hnote
  by_cases hw : (c.1.thread t).writes = false ∨ a ≠ .go
  · exact h.outside hw hs
  · obtain ⟨hwrites, rfl⟩ : (c.1.thread t).writes = true ∧ a = .go := by
      simpa only [not_or, Bool.not_eq_false, not_not] using hw
    cases hl : c.1.thread t with
    | listenReset =>
      -- the note is taken back
      intro hconf
      simp only [note, hl] at hconf
      cases hconf
    | sendWrite args r =>
      rw [hl] at hs
      cases hs
      cases r with
      | true =>
        refine h.write rfl (mayClear_sendGuard args) fun _ => .inr (hu ?_)
        simp only [confirms, hl]
      | false =>
        -- a thread that writes `false` would have been one that may clear the flag
        intro hconf
        simp only [note, hl, Bool.or_false] at hconf
        have hclear := (h hconf).2 t
        rw [hl] at hclear
        cases hclear
    | sctpInWrite =>
      rw [hl] at hs
      cases hs
      refine h.write rfl rfl fun hconf => ?_
      simp only [note, hl, Bool.or_eq_true] at hconf
      refine hconf.imp id fun hwon => hu ?_
      simp only [confirms, hl, hwon]
    | _ => rw [hl] at hwrites; cases hwrites

variable [Fintype T]

/-- **The accepted flag is kept.** In every interleaving in which a thread confirms its accept
only when no other thread may come to write `false`: once a thread whose accept has succeeded has
written `true`, `isAccepted` is `true` until the next `listenNative`. -/
theorem accepted_kept (c : Config T (Shared T) Pc × Note T)
    (hc : ((watched T).restrict Unrivalled).Reachable c) (hconf : c.2.confirmed = true) :
    c.1.shared.socket.isAccepted = true := by
  have hsettled : Settled c := by
    refine hc.restrict_invariant (P := Settled) (fun c hc hconf => ?_) fun c i c' h hu hs =>
      h.exec (t := i.1) (a := i.2) hu hs
    rw [hc.2] at hconf
    cases hconf
  exact (hsettled hconf).1

end

/-- A socket that listens and whose association has completed. -/
def listenFirst : List (Bool × Choice) :=
  [(false, .call .listenNative), (false, .go), (false, .go), (false, .go), (false, .result true),
    (false, .go), (false, .result true), (false, .go), (false, .associated 0)]

/-- The start of two threads on a new socket. -/
def start : Config Bool (Shared Bool) Pc × Note Bool :=
  (⟨⟨{ ptr := 7, localPort := 9899 }, none, 0, { next := 1 }⟩, fun _ => .idle⟩,
    ⟨fun _ => false, false⟩)

theorem start_init : (watched Bool).init start := ⟨⟨⟨rfl, rfl, by decide⟩, fun _ => rfl⟩, rfl⟩

def oneByteArgs : SendArgs := ⟨[104], 0, 1⟩

/-- One `sendNative` tests, accepts and writes. -/
def sendAlone (t : Bool) : List (Bool × Choice) :=
  [(t, .call (.sendNative oneByteArgs)), (t, .go), (t, .go), (t, .go), (t, .go), (t, .go),
    (t, .go), (t, .go), (t, .go)]

/-- A `sendNative` on its own confirms its accept, and the flag is set. -/
theorem sends_in_turn_keep : ∃ c, ((watched Bool).restrict Unrivalled).Reachable c ∧
    c.2.confirmed = true ∧ c.1.shared.socket.isAccepted = true := by
  obtain ⟨c, hc, hconf⟩ := Machine.Reachable.exists_run (M := (watched Bool).restrict Unrivalled)
    (.init start_init) (P := fun c => c.2.confirmed = true) (listenFirst ++ sendAlone false)
    (by decide)
  exact ⟨c, hc, hconf, accepted_kept c hc hconf⟩

/-- Two `sendNative` calls find the flag unset. The first one accepts and writes `true`; the
second one accepts in vain, on the socket that was accepted, and writes `false`. -/
theorem late_accept_clears : ∃ c, (watched Bool).Reachable c ∧ (native Bool).Reachable c.1 ∧
    c.2.won false = true ∧ c.2.won true = false ∧ c.1.shared.usr.completed = [] ∧
    c.1.shared.usr.next = 2 ∧ c.2.confirmed = true ∧ c.1.shared.socket.isAccepted = false := by
  obtain ⟨c, hc, hp⟩ := Machine.Reachable.exists_run (M := watched Bool) (.init start_init)
    (P := fun c => c.2.won false = true ∧ c.2.won true = false ∧ c.1.shared.usr.completed = [] ∧
      c.1.shared.usr.next = 2 ∧ c.2.confirmed = true ∧ c.1.shared.socket.isAccepted = false)
    (listenFirst ++ [(true, .call (.sendNative oneByteArgs)), (true, .go)] ++ sendAlone false ++
      [(true, .go), (true, .go), (true, .go), (true, .go), (true, .go)]) (by decide)
  exact ⟨c, hc, Machine.watch_reachable_iff.mp ⟨c.2, hc⟩, hp⟩

end Sctp4Nat.NativeAccept
