import Sctp4Nat.Core.SctpMapper

/-! # The directory of channels

What the program does to the statics of `SctpMapper`, apart from everything else: a channel is
registered, an address is unregistered, a channel is closed. Two properties of the directory say
what the mapper is for: it lists no channel that is closed (`NoneClosed`), and it lists every
channel that was registered and is still open (`Complete`). For each, and for a property of the
single entries (`Entries`), the actions that keep it are known exactly. -/

namespace Sctp4Nat

/-- The statics of `SctpMapper` with the channels closed and registered so far. -/
structure Directory where
  mapper : SctpMapper
  closed : List ChanId
  registered : List ChanId

namespace Directory

inductive Action
  | register (remote : InetSocketAddress) (c : ChanId)
  | unregister (remote : InetSocketAddress)
  | close (c : ChanId)
  | clear
  | setShutdown (b : Bool)
  deriving DecidableEq

def apply (D : Directory) : Action → Directory
  | .register remote c =>
    { D with
      mapper := D.mapper.register (some remote) (some c)
      registered := if D.mapper.isShutdown then D.registered else c :: D.registered }
  | .unregister remote => { D with mapper := D.mapper.unregisterRemote (some remote) }
  | .close c => { D with mapper := D.mapper.unregister (some c), closed := c :: D.closed }
  | .clear => { D with mapper := { D.mapper with socketMap := .empty } }
  | .setShutdown b => { D with mapper := { D.mapper with isShutdown := b } }

/-- The values of `socketMap`. -/
def values (D : Directory) : List ChanId := D.mapper.socketMap.values

variable {D : Directory} {a : Action} {c : ChanId} {remote : InetSocketAddress}

theorem values_register (h : D.mapper.isShutdown = false) :
    c' ∈ (D.apply (.register remote c)).values ↔
      c' = c ∨ c' ∈ D.mapper.socketMap.valuesApart remote := by
  simp only [apply, values, SctpMapper.register_eq h]
  exact ConcurrentHashMap.mem_values_put

theorem values_unregister (h : D.mapper.isShutdown = false) :
    (D.apply (.unregister remote)).values = D.mapper.socketMap.valuesApart remote := by
  simp only [apply, values, SctpMapper.unregisterRemote_eq h]
  rfl

theorem apply_register_shutdown (h : D.mapper.isShutdown = true) :
    D.apply (.register remote c) = D := by
  simp [apply, SctpMapper.register, h]

theorem apply_unregister_shutdown (h : D.mapper.isShutdown = true) :
    D.apply (.unregister remote) = D := by
  simp [apply, SctpMapper.unregisterRemote, h]

/-! ## A property of every entry -/

/-- The property holds of every entry of `socketMap`. -/
def Entries (R : InetSocketAddress → ChanId → Prop) (D : Directory) : Prop :=
  ∀ e ∈ D.mapper.socketMap.entries, R e.1 e.2

/-- The entry that an action makes. -/
def entry (D : Directory) : Action → Option (InetSocketAddress × ChanId)
  | .register remote c => if D.mapper.isShutdown then none else some (remote, c)
  | .unregister _ | .close _ | .clear | .setShutdown _ => none

theorem forall_values_iff {P : ChanId → Prop} :
    (∀ c ∈ D.values, P c) ↔ D.Entries fun _ c => P c := by
  simp only [values, ConcurrentHashMap.values, List.forall_mem_map, Entries]

theorem entry_eq_some {e : InetSocketAddress × ChanId} :
    D.entry a = some e ↔ D.mapper.isShutdown = false ∧ a = .register e.1 e.2 := by
  cases a with
  | register remote c => simp [entry, Prod.ext_iff]
  | unregister _ | close _ | clear | setShutdown _ => simp [entry]

theorem Entries.apply_iff {R : InetSocketAddress → ChanId → Prop}
    (hR : ∀ k k' c, equals k k' = true → R k c → R k' c) (h : D.Entries R) :
    (D.apply a).Entries R ↔ ∀ e ∈ D.entry a, R e.1 e.2 := by
  cases a with
  | register remote c =>
    cases hs : D.mapper.isShutdown with
    | true =>
      rw [apply_register_shutdown hs]
      simp only [entry, hs, if_true, Option.not_mem_none, false_imp_iff, implies_true, iff_true]
      exact h
    | false =>
      simp only [Entries, Directory.apply, SctpMapper.register_eq hs,
        ConcurrentHashMap.forall_mem_put hR h, entry, hs]
      simp
  | unregister remote =>
    simp only [entry, Option.not_mem_none, false_imp_iff, implies_true, iff_true]
    cases hs : D.mapper.isShutdown with
    | true => rwa [apply_unregister_shutdown hs]
    | false =>
      intro e he
      simp only [Directory.apply, SctpMapper.unregisterRemote_eq hs] at he
      exact h e (ConcurrentHashMap.mem_removeIf.mp he).1
  | close c => simpa [Directory.apply, Entries, entry] using h
  | clear => simp [Entries, Directory.apply, ConcurrentHashMap.empty, entry]
  | setShutdown b => simpa [Directory.apply, Entries, entry] using h

/-! ## No closed channel is listed -/

def NoneClosed (D : Directory) : Prop := ∀ c ∈ D.values, c ∉ D.closed

/-- A channel is closed after its entries are gone, and is not registered again. -/
def tidy (D : Directory) : Action → Bool
  | .register _ c => D.mapper.isShutdown || !D.closed.contains c
  | .close c => !D.mapper.socketMap.contains c
  | .unregister _ | .clear | .setShutdown _ => true

theorem NoneClosed.apply_iff (h : D.NoneClosed) :
    (D.apply a).NoneClosed ↔ D.tidy a = true := by
  have hentries : D.Entries fun _ c => c ∉ D.closed := forall_values_iff.mp h
  -- an action that closes nothing is judged by the entry it makes
  have hopen : (D.apply a).closed = D.closed →
      ((D.apply a).NoneClosed ↔ ∀ e ∈ D.entry a, e.2 ∉ D.closed) := fun hc => by
    rw [NoneClosed, hc, forall_values_iff]
    exact hentries.apply_iff fun _ _ _ _ hc => hc
  cases a with
  | register remote c =>
    rw [hopen rfl, entry, tidy]
    cases D.mapper.isShutdown <;> simp
  | unregister _ | clear | setShutdown _ => simp [hopen rfl, entry, tidy]
  | close c =>
    have hv : c ∈ D.values ↔ D.mapper.socketMap.contains c = true :=
      ConcurrentHashMap.contains_iff.symm
    simp only [NoneClosed, apply, SctpMapper.unregister_eq, values, tidy, Bool.not_eq_true',
      List.mem_cons, not_or]
    rw [← Bool.not_eq_true, ← hv]
    constructor
    · exact fun h' hc => (h' c hc).1 rfl
    · exact fun hc c' hc' => ⟨fun he => hc (he ▸ hc'), h c' hc'⟩

theorem isShutdown_apply_of_untidy (h : D.tidy a = false) :
    (D.apply a).mapper.isShutdown = D.mapper.isShutdown := by
  cases a with
  | register remote c => exact SctpMapper.register_isShutdown ..
  | close c => simp [apply]
  | unregister _ | clear | setShutdown _ => cases h

/-! ## Every open channel is listed -/

def Complete (D : Directory) : Prop := ∀ c ∈ D.registered, c ∉ D.closed → c ∈ D.values

/-- Only registered channels are listed. -/
def Listed (D : Directory) : Prop := ∀ c ∈ D.values, c ∈ D.registered

/-- The entry of `remote` can go: its channel is closed or listed for another address too. -/
def spares (D : Directory) (remote : InetSocketAddress) : Bool :=
  match D.mapper.socketMap.get remote with
  | none => true
  | some c => D.closed.contains c || (D.mapper.socketMap.valuesApart remote).contains c

/-- No action makes the last entry of an open channel go. -/
def keeping (D : Directory) : Action → Bool
  | .register remote c => D.mapper.socketMap.get remote = some c || D.spares remote
  | .unregister remote => D.spares remote
  | .close _ => true
  | .clear => false
  | .setShutdown b => !b

theorem spares_iff : D.spares remote = true ↔
    ∀ c, D.mapper.socketMap.get remote = some c → c ∉ D.closed →
      c ∈ D.mapper.socketMap.valuesApart remote := by
  unfold spares
  cases D.mapper.socketMap.get remote with
  | none => simp
  | some c =>
    simp only [Option.some.injEq, Bool.or_eq_true, List.contains_eq_mem, decide_eq_true_eq]
    constructor
    · rintro (h | h) c' rfl hc
      · exact absurd h hc
      · exact h
    · intro h
      rcases em (c ∈ D.closed) with hc | hc
      · exact .inl hc
      · exact .inr (h c rfl hc)

theorem registered_subset_apply (D : Directory) (a : Action) :
    D.registered ⊆ (D.apply a).registered := by
  cases a with
  | register remote c =>
    simp only [Directory.apply]
    split
    · exact List.Subset.refl _
    · exact List.subset_cons_self _ _
  | unregister _ | close _ | clear | setShutdown _ => exact List.Subset.refl _

theorem Listed.apply (h : D.Listed) (a : Action) : (D.apply a).Listed := by
  have hentries : D.Entries fun _ c => c ∈ (D.apply a).registered :=
    forall_values_iff.mp fun c hc => registered_subset_apply D a (h c hc)
  refine forall_values_iff.mpr ((hentries.apply_iff fun _ _ _ _ hc => hc).mpr fun e he => ?_)
  obtain ⟨hs, rfl⟩ := entry_eq_some.mp he
  simp [Directory.apply, hs]

/-- The channel that an action is about. -/
def Action.channel : Action → Option ChanId
  | .register _ c | .close c => some c
  | .unregister _ | .clear | .setShutdown _ => none

/-- The channels closed and registered so far have numbers below `n`. -/
structure Below (D : Directory) (n : ChanId) : Prop where
  closed : ∀ c ∈ D.closed, c < n
  registered : ∀ c ∈ D.registered, c < n

theorem Below.apply {n n' : ChanId} (h : D.Below n) (hn : n ≤ n')
    (ha : ∀ c, a.channel = some c → c < n') : (D.apply a).Below n' := by
  have h : D.Below n' :=
    ⟨fun c hc => Nat.lt_of_lt_of_le (h.closed c hc) hn,
      fun c hc => Nat.lt_of_lt_of_le (h.registered c hc) hn⟩
  cases a with
  | register remote c =>
    refine ⟨h.closed, fun c' hc' => ?_⟩
    simp only [Directory.apply] at hc'
    split at hc'
    · exact h.registered c' hc'
    · rcases List.mem_cons.mp hc' with rfl | hc'
      · exact ha _ rfl
      · exact h.registered c' hc'
  | close c =>
    refine ⟨fun c' hc' => ?_, h.registered⟩
    rcases List.mem_cons.mp hc' with rfl | hc'
    · exact ha _ rfl
    · exact h.closed c' hc'
  | unregister _ | clear | setShutdown _ => exact ⟨h.closed, h.registered⟩

theorem Complete.register_iff (hs : D.mapper.isShutdown = false) (hl : D.Listed)
    (h : D.Complete) : (D.apply (.register remote c)).Complete ↔
      D.keeping (.register remote c) = true := by
  have hreg : (D.apply (.register remote c)).registered = c :: D.registered := by
    simp [Directory.apply, hs]
  simp only [keeping, Bool.or_eq_true, decide_eq_true_eq, spares_iff]
  constructor
  · intro h'
    refine or_iff_not_imp_left.mpr fun hne c' hget hc' => ?_
    have hmem : c' ∈ D.values := ConcurrentHashMap.mem_values_iff.mpr (.inl hget)
    have := h' c' (by rw [hreg]; exact .tail _ (hl c' hmem)) hc'
    rcases (values_register hs).mp this with rfl | hv
    · exact absurd hget hne
    · exact hv
  · intro hk c' hc' hopen
    rw [values_register hs]
    rw [hreg, List.mem_cons] at hc'
    rcases hc' with rfl | hc'
    · exact .inl rfl
    · rcases ConcurrentHashMap.mem_values_iff (k := remote) |>.mp (h c' hc' hopen) with hg | hv
      · rcases hk with hk | hk
        · rw [hk] at hg
          exact .inl (Option.some.inj hg).symm
        · exact .inr (hk c' hg hopen)
      · exact .inr hv

theorem Complete.unregister_iff (hs : D.mapper.isShutdown = false) (hl : D.Listed)
    (h : D.Complete) : (D.apply (.unregister remote)).Complete ↔
      D.keeping (.unregister remote) = true := by
  simp only [keeping, spares_iff]
  constructor
  · intro h' c hget hc
    have hmem : c ∈ D.values := ConcurrentHashMap.mem_values_iff.mpr (.inl hget)
    rw [← values_unregister hs]
    exact h' c (hl c hmem) hc
  · intro hk c hc hopen
    rw [values_unregister hs]
    rcases ConcurrentHashMap.mem_values_iff (k := remote) |>.mp (h c hc hopen) with hg | hv
    · exact hk c hg hopen
    · exact hv

theorem Complete.apply (hs : D.mapper.isShutdown = false) (hl : D.Listed) (h : D.Complete)
    (hk : D.keeping a = true) : (D.apply a).Complete := by
  cases a with
  | register remote c => exact (h.register_iff hs hl).mpr hk
  | unregister remote => exact (h.unregister_iff hs hl).mpr hk
  | close c =>
    intro c' hc' hopen
    simp only [Directory.apply, values, SctpMapper.unregister_eq]
    exact h c' hc' fun hc => hopen (.tail _ hc)
  | clear => cases hk
  | setShutdown b => exact h

theorem isShutdown_apply (hs : D.mapper.isShutdown = false) (hk : D.keeping a = true) :
    (D.apply a).mapper.isShutdown = false := by
  cases a with
  | register remote c => exact (SctpMapper.register_isShutdown ..).trans hs
  | unregister remote => simp [Directory.apply, SctpMapper.unregisterRemote_eq hs, hs]
  | close c => simpa [Directory.apply] using hs
  | clear => cases hk
  | setShutdown b => simpa [keeping, Directory.apply] using hk

end Directory

end Sctp4Nat
