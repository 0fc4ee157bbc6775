import Sctp4Nat.Origin.PtrProtocol

/-! # The argument check of `sendNative` and `onConnIn`

The native functions use `data_ + off` and `len` as they are. The check before them adds the two
with Java's `int` addition: a sum above `Integer.MAX_VALUE` is negative and passes. Below it the
check is exact (`outOfRange_guards_iff`), and then no native call of any interleaving reaches
outside its array (`native_inBounds`). -/

namespace Sctp4Nat

open SctpSocket (outOfRange)

/-- `Integer.MAX_VALUE`. -/
def maxValue : Int := 2147483647

/-- The length of a Java array is an `int`. -/
def IsArray (data : Bytes) : Prop := data.length ≤ maxValue

instance (data : Bytes) : Decidable (IsArray data) := inferInstanceAs (Decidable (_ ≤ _))

/-- The indices that a native function reaches from `data_ + off` on. -/
def reached (off len : Int32) : Set Int := { i | off.toInt ≤ i ∧ i < off.toInt + len.toInt }

/-- The arguments of a native function stay in its array. -/
structure InBounds (data : Bytes) (off len : Int32) : Prop where
  off_nonneg : 0 ≤ off.toInt
  len_pos : 0 < len.toInt
  end_le : off.toInt + len.toInt ≤ data.length

theorem InBounds.reached_subset {data : Bytes} {off len : Int32} (h : InBounds data off len) :
    reached off len ⊆ { i | 0 ≤ i ∧ i < data.length } := by
  intro i hi
  exact ⟨h.off_nonneg.trans hi.1, hi.2.trans_le h.end_le⟩

/-- The sum of two arguments that pass the tests for themselves is an `int`. -/
def NoWrap (off len : Int32) : Prop :=
  off.toInt < 0 ∨ len.toInt ≤ 0 ∨ off.toInt + len.toInt ≤ maxValue

instance (off len : Int32) : Decidable (NoWrap off len) :=
  inferInstanceAs (Decidable (_ ∨ _ ∨ _))

section
variable {data : Bytes} {off len : Int32}

/-- The `int` sum of two arguments that pass the tests for themselves. -/
theorem toInt_add_of_nonneg (hoff : 0 ≤ off.toInt) (hlen : 0 < len.toInt) :
    (off + len).toInt = if off.toInt + len.toInt ≤ maxValue then off.toInt + len.toInt
      else off.toInt + len.toInt - 2 ^ 32 := by
  have hoff' := off.toInt_lt
  have hlen' := len.toInt_lt
  rw [Int32.toInt_add, Int.bmod_eq_emod, maxValue]
  split <;> split <;> omega

theorem outOfRange_eq_false (hdata : IsArray data) :
    outOfRange data off len = false ↔
      0 ≤ off.toInt ∧ 0 < len.toInt ∧ (off + len).toInt ≤ data.length := by
  have hlength : (Int32.ofNat data.length).toInt = data.length :=
    Int32.toInt_ofNat_of_lt (by unfold IsArray maxValue at hdata; omega)
  simp only [outOfRange, Bool.or_eq_false_iff, decide_eq_false_iff_not, gt_iff_lt,
    Int32.le_iff_toInt_le, Int32.lt_iff_toInt_lt, hlength, Int32.toInt_zero, not_lt, not_le,
    and_assoc]

/-- The check keeps its arguments in the array exactly when their sum does not wrap. -/
theorem outOfRange_guards_iff (hdata : IsArray data) :
    (outOfRange data off len = false → InBounds data off len) ↔ NoWrap off len := by
  rw [outOfRange_eq_false hdata]
  constructor
  · intro h
    by_contra hwrap
    simp only [NoWrap, not_or, not_lt, not_le] at hwrap
    obtain ⟨hoff, hlen, hsum⟩ := hwrap
    -- the sum is negative, so the check passes
    have hadd : (off + len).toInt ≤ data.length := by
      have := off.toInt_lt
      have := len.toInt_lt
      rw [toInt_add_of_nonneg hoff hlen, if_neg (by omega)]
      omega
    have hend := (h ⟨hoff, hlen, hadd⟩).end_le
    have harray : data.length ≤ maxValue := hdata
    omega
  · rintro hwrap ⟨hoff, hlen, hadd⟩
    have hsum : off.toInt + len.toInt ≤ maxValue := by
      rcases hwrap with h | h | h
      · omega
      · omega
      · exact h
    rw [toInt_add_of_nonneg hoff hlen, if_pos hsum] at hadd
    exact ⟨hoff, hlen, hadd⟩

end

namespace PtrProtocol

/-! ## The methods -/

/-- What the check of `onConnIn` and `sendNative` promises for an array and two `int`s: a call
that gets past it hands the native function arguments that stay in the array. -/
structure Guarded (data : Bytes) (off len : Int32) : Prop where
  onConnIn : (Method.onConnIn (some data) off len).enter = .lock (.onNetworkIn data off len) .ret →
    InBounds data off len ∧ reached off len ⊆ { i | 0 ≤ i ∧ i < data.length }
  sendNative : ∀ ordered sid ppid,
    sendGuard data ⟨some data, off, len, ordered, sid, ppid⟩ =
        .lock (.usrsctpSend data off len ordered sid ppid) .ret →
      InBounds data off len ∧ reached off len ⊆ { i | 0 ≤ i ∧ i < data.length }

theorem onConnIn_passes_iff {data : Bytes} {off len : Int32} :
    (Method.onConnIn (some data) off len).enter = .lock (.onNetworkIn data off len) .ret ↔
      outOfRange data off len = false := by
  cases h : outOfRange data off len <;> simp [Method.enter, h]

theorem Guarded.inBounds {data : Bytes} {off len : Int32} (h : Guarded data off len)
    (hpass : outOfRange data off len = false) : InBounds data off len :=
  (h.onConnIn (onConnIn_passes_iff.mpr hpass)).1

theorem sendNative_passes_iff {data : Bytes} {a : SendArgs} :
    sendGuard data a = .lock (.usrsctpSend data a.offset a.len a.ordered a.sid a.ppid) .ret ↔
      outOfRange data a.offset a.len = false := by
  cases h : outOfRange data a.offset a.len <;> simp [sendGuard, h]

/-- For every array and all pairs of `int`s: the checks keep the native functions in the array if
and only if the sum of the two, when both pass the tests for themselves, is an `int`. -/
theorem guarded_iff {data : Bytes} {off len : Int32} (hdata : IsArray data) :
    Guarded data off len ↔ NoWrap off len := by
  rw [← outOfRange_guards_iff hdata]
  constructor
  · exact Guarded.inBounds
  · intro h
    constructor
    · intro hpass
      have hin := h (onConnIn_passes_iff.mp hpass)
      exact ⟨hin, hin.reached_subset⟩
    · intro ordered sid ppid hpass
      let a : SendArgs := ⟨some data, off, len, ordered, sid, ppid⟩
      have hin := h ((sendNative_passes_iff (a := a)).mp hpass)
      exact ⟨hin, hin.reached_subset⟩

/-- The whole of a packet of four bytes. -/
theorem guarded_whole_packet : Guarded [1, 2, 3, 4] 0 4 :=
  (guarded_iff (by decide)).mpr (by decide)

/-- An offset of `Integer.MAX_VALUE` and a length of one, in an array of four bytes. -/
theorem not_guarded_max_offset : ¬ Guarded [1, 2, 3, 4] 2147483647 1 := by
  intro h
  have hpass : outOfRange [1, 2, 3, 4] 2147483647 1 = false := by decide +kernel
  have hin := (h.inBounds hpass).end_le
  exact absurd hin (by decide +kernel)

/-! ## Runs -/

/-- The method is called with an array and a range whose sum does not wrap. -/
def Method.fits : Method → Bool
  | .onConnIn (some packet) offset len => IsArray packet ∧ NoWrap offset len
  | .sendNative a => a.data.all fun data => IsArray data ∧ NoWrap a.offset a.len
  | _ => true

/-- The native function reaches only bytes of its array. -/
def NativeCall.Bounded : NativeCall → Prop
  | .onNetworkIn pkt off len => InBounds pkt off len
  | .usrsctpSend data off len _ _ _ => InBounds data off len
  | _ => True

/-- A send that has not reached its check fits. -/
def Cont.Fits : Cont → Prop
  | .ret => True
  | .send data a => IsArray data ∧ NoWrap a.offset a.len

/-- What a thread carries past the check, or will bring to it. -/
def Pc.Bounded : Pc → Prop
  | .sendTest data a | .sendWrite data a _ => IsArray data ∧ NoWrap a.offset a.len
  | .lock call k | .native call k _ | .unlock call k _ | .closeDeferred _ call k _ =>
    call.Bounded ∧ k.Fits
  | .idle _ | .listenReset | .setClosed | .closeBlock | .closeSocket _ => True

theorem sendGuard_bounded {data : Bytes} {a : SendArgs}
    (h : IsArray data ∧ NoWrap a.offset a.len) : (sendGuard data a).Bounded := by
  unfold sendGuard
  split
  next => trivial
  next hpass =>
    have hguard := (outOfRange_guards_iff h.1).mpr h.2
    exact ⟨hguard (Bool.not_eq_true _ ▸ hpass), trivial⟩

theorem enter_bounded {m : Method} (h : m.fits = true) : m.enter.Bounded := by
  cases m with
  | onConnIn packet offset len =>
    cases packet with
    | none => trivial
    | some packet =>
      have hfits : IsArray packet ∧ NoWrap offset len := of_decide_eq_true h
      have hguard := (outOfRange_guards_iff hfits.1).mpr hfits.2
      simp only [Method.enter]
      split
      next => trivial
      next hpass => exact ⟨hguard (Bool.not_eq_true _ ▸ hpass), trivial⟩
  | sendNative a =>
    cases hdata : a.data with
    | none => simp only [Method.enter, hdata]; trivial
    | some data =>
      simp only [Method.fits, hdata, Option.all_some] at h
      have hfits : IsArray data ∧ NoWrap a.offset a.len := of_decide_eq_true h
      simp only [Method.enter, hdata]
      exact hfits
  | closeNative | listenNative => trivial
  | acceptNative | connectNative _ | shutdownNative _ => exact ⟨trivial, trivial⟩

theorem resume_bounded {call : NativeCall} {k : Cont} (r : Except Throwable Int32)
    (h : k.Fits) : (k.resume call r).Bounded := by
  cases r with
  | error e => trivial
  | ok r =>
    cases k with
    | ret => trivial
    | send data a => exact h

variable {T : Type*}

/-- The native call that an event records. -/
def Event.Bounded : Event T → Prop
  | .native _ nc _ => nc.Bounded
  | .call .. | .setClosed _ | .lockPtr .. | .unlockPtr .. | .closeSocket .. => True

theorem step_bounded {t : T} {s s' : Shared T} {l l' : Pc} {a : Choice}
    (hs : Steps t s l a s' l') (hcall : ∀ m, a = .call m → m.fits = true) (hl : l.Bounded)
    (hlog : ∀ e ∈ s.log, e.Bounded) : l'.Bounded ∧ ∀ e ∈ s'.log, e.Bounded := by
  cases hs with
  | call last m => exact ⟨enter_bounded (hcall m rfl), List.forall_mem_cons.mpr ⟨trivial, hlog⟩⟩
  | listenReset => exact ⟨⟨trivial, trivial⟩, hlog⟩
  | sendTest data a =>
    refine ⟨?_, hlog⟩
    split
    · exact sendGuard_bounded hl
    · exact ⟨trivial, hl⟩
  | lock call k hrun => exact ⟨hl, List.forall_mem_cons.mpr ⟨trivial, hlog⟩⟩
  | lockFailed call k hrun => exact ⟨trivial, List.forall_mem_cons.mpr ⟨trivial, hlog⟩⟩
  | native call k ptr r => exact ⟨hl, List.forall_mem_cons.mpr ⟨hl.1, hlog⟩⟩
  | unlock call k r hrun =>
    refine ⟨?_, List.forall_mem_cons.mpr ⟨trivial, hlog⟩⟩
    split
    · exact resume_bounded r hl.2
    · exact hl
  | unlockFailed call k r hrun => exact ⟨trivial, List.forall_mem_cons.mpr ⟨trivial, hlog⟩⟩
  | closeDeferred ptr call k r =>
    exact ⟨resume_bounded r hl.2, List.forall_mem_cons.mpr ⟨trivial, hlog⟩⟩
  | sendWrite data a r => exact ⟨sendGuard_bounded hl, hlog⟩
  | setClosed => exact ⟨trivial, List.forall_mem_cons.mpr ⟨trivial, hlog⟩⟩
  | closeBlock hrun =>
    refine ⟨?_, hlog⟩
    split <;> trivial
  | closeBlockFailed hrun => exact ⟨trivial, hlog⟩
  | closeSocket ptr => exact ⟨trivial, List.forall_mem_cons.mpr ⟨trivial, hlog⟩⟩

/-- A call of a method is made with arguments that fit. -/
def callFits (_ : Config T (Shared T) Pc) : T × Choice → Bool
  | (_, .call m) => m.fits
  | _ => true

/-- In every interleaving of calls whose sums do not wrap, the native functions reach only bytes
of the arrays they are given. -/
theorem native_inBounds [DecidableEq T] {c : Config T (Shared T) Pc}
    (h : ((protocol T).restrict fun c i => callFits c i = true).Reachable c) :
    (∀ t, (c.thread t).Bounded) ∧ ∀ e ∈ c.shared.log, e.Bounded := by
  refine Machine.Reachable.restrict_invariant (M := protocol T)
    (P := fun c => (∀ t, (c.thread t).Bounded) ∧ ∀ e ∈ c.shared.log, e.Bounded) ?_ ?_ h
  · intro c hinit
    refine ⟨fun t => ?_, ?_⟩
    · rw [hinit.2 t]; trivial
    · rw [hinit.1.1]
      exact fun e he => absurd he (List.not_mem_nil)
  · rintro c ⟨t, a⟩ c' hc hok hs
    obtain ⟨s, l, hstep, rfl⟩ := threads_exec.mp hs
    have hcall : ∀ m, a = .call m → m.fits = true := fun m ha => by subst ha; exact hok
    obtain ⟨hl, hlog⟩ := step_bounded (steps_of_step hstep) hcall (hc.1 t) hc.2
    exact ⟨Config.forall_set (P := fun _ (l : Pc) => l.Bounded) hl fun u _ => hc.1 u, hlog⟩

end PtrProtocol

end Sctp4Nat
