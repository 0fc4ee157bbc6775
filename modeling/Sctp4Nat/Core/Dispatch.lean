import Sctp4Nat.Core.Connect

/-! # Dispatch of notifications

The listener that `SctpChannel.connect` installs and the one that `SctpChannelBuilder.build`
installs decide by keywords in the text of a notification. `has_toString` says what they find
there, for every notification that `parse` accepts: the formatted numbers have no character of a
keyword, so a keyword is found exactly where it was written, and the fields decide the branch.
The one exception is the shutdown event, whose text is the keyword: it is found at the index `0`
and the test is `> 0`. -/

namespace Sctp4Nat.Connect

open SctpNotification
open Text (Word Gap)

/-! ## The search -/

theorem indexOf_isSome {text str : List Char} : (indexOf text str).isSome ↔ str <:+: text := by
  induction text with
  | nil =>
    unfold indexOf
    cases str <;> simp
  | cons c text ih =>
    unfold indexOf
    rw [List.infix_cons_iff, ← ih]
    split
    next h => simp [List.isPrefixOf_iff_prefix.mp h]
    next h => simp [mt List.isPrefixOf_iff_prefix.mpr h]

/-- The test `indexOf(..) > 0`: the text has the keyword and does not begin with it. -/
theorem indexOf_pos {text str : List Char} :
    (indexOf text str).any (0 < ·) ↔ str <:+: text ∧ ¬ str <+: text := by
  cases text with
  | nil =>
    unfold indexOf
    cases str <;> simp
  | cons c text =>
    unfold indexOf
    rw [List.infix_cons_iff]
    split
    next h => simp [List.isPrefixOf_iff_prefix.mp h]
    next h =>
      rw [Option.any_map, ← indexOf_isSome]
      cases indexOf text str <;> simp [mt List.isPrefixOf_iff_prefix.mpr h]

/-- The text contains the string. -/
abbrev Has (text str : String) : Prop := str.toList <:+: text.toList

/-! ## The listeners -/

/-- The branch that the listener of `build` takes: it does not look for the start of an
association. -/
def builderBranch (notification : String) : Branch :=
  let has (str : String) := (indexOf notification.toList str.toList).isSome
  if has shutdownCompStr then .shutdownComp
  else if has addrUnreachableStr then .addrUnreachable
  else if has commLostStr then .commLost
  else if (indexOf notification.toList shutdownEventStr.toList).any (0 < ·) then .shutdownEvent
  else .ignored

theorem builderBranch_eq (text : String) :
    builderBranch text =
      if Has text shutdownCompStr then .shutdownComp
      else if Has text addrUnreachableStr then .addrUnreachable
      else if Has text commLostStr then .commLost
      else if Has text shutdownEventStr ∧ ¬ shutdownEventStr.toList <+: text.toList then
        .shutdownEvent
      else .ignored := by
  simp only [builderBranch, indexOf_isSome, indexOf_pos]

theorem branch_eq (text : String) :
    branch text = if Has text commUpStr then .commUp else builderBranch text := by
  simp only [branch, builderBranch, indexOf_isSome]

/-- What the listeners act on: the latch and the deferred of `connect`, and the calls of `close`
on the channel. -/
structure Listened where
  countDown : Nat
  d : Deferred
  closes : Nat
  deriving DecidableEq, Repr

namespace Listened

def settle (f : Deferred → Except Throwable Deferred) : Java Listened Unit := do
  let d ← Java.ofExcept (f (← get).d)
  modify fun s => { s with d }

theorem settle_run (f : Deferred → Except Throwable Deferred) (s : Listened) :
    (settle f).run s = match f s.d with
      | .ok d => (.ok (), { s with d })
      | .error e => (.error e, s) := by
  rw [settle, Java.run_bind_ok (Java.run_get s)]
  cases hf : f s.d with
  | ok d => exact Java.run_bind_ok (Java.run_ofExcept _ _)
  | error e => exact Java.run_bind_error (Java.run_ofExcept _ _)

def close : Java Listened Unit := modify fun s => { s with closes := s.closes + 1 }

end Listened

/-- `close()`, then `d.reject(..)`. -/
def closeAndReject (remote : Option InetSocketAddress) (b : Branch) : Java Listened Unit := do
  Listened.close
  let e ← Java.ofExcept (rejection remote b)
  Listened.settle (Deferred.reject e)

/-- `onSctpNotification` of the listener that `connect` installs on a channel with this remote. -/
def connectListener (remote : Option InetSocketAddress) (notification : SctpNotification) :
    Java Listened Unit :=
  match branch notification.toString with
  | .commUp => do
    modify fun s => { s with countDown := s.countDown - 1 }
    Listened.settle Deferred.resolve
  | .shutdownEvent => Listened.close
  | .ignored => pure ()
  | b => closeAndReject remote b

/-- `onSctpNotification` of the listener that `build` installs. -/
def builderListener (notification : SctpNotification) : Java Listened Unit :=
  if (builderBranch notification.toString).closes then Listened.close else pure ()

/-! ## Keywords in the text -/

/-- The strings that the listeners look for. -/
def keywords : List String :=
  [commUpStr, shutdownCompStr, addrUnreachableStr, commLostStr, shutdownEventStr]

/-- The characters of the keywords. -/
def keyChar (c : Char) : Bool := c ∈ "ABCDEHLMNOPRSTUVW_".toList

theorem word_of_mem_keywords {key : String} (h : key ∈ keywords) : Word keyChar key.toList :=
  have hall : ∀ key ∈ keywords, key.toList ≠ [] ∧ key.toList.all keyChar = true := by decide
  ⟨(hall key h).1, List.all_eq_true.mp (hall key h).2⟩

theorem gap_toHexString (n : Nat) : Gap keyChar (toHexString n).toList := by
  rw [toHexString, String.toList_ofList]
  exact Text.gap_toDigits (by decide) (by decide) (by decide) n

theorem gap_toString (n : Nat) : Gap keyChar (ToString.toString n).toList := by
  rw [Nat.toString_eq_ofList_toDigits, String.toList_ofList]
  exact Text.gap_toDigits (by decide) (by decide) (by decide) n

variable {key : String}

/-- Formatted numbers after a text without keywords. -/
theorem not_has_append {lit text : String} (hlit : ∀ key ∈ keywords, ¬ Has lit key)
    (htext : Gap keyChar text.toList) (h : key ∈ keywords) : ¬ Has (lit ++ text) key := by
  rw [Has, String.toList_append, (word_of_mem_keywords h).infix_append_gap_right htext]
  exact hlit key h

/-- A keyword in a text that is looked up in a table, where `R` says which entries have it. -/
theorem has_lookup {α : Type} [BEq α] [LawfulBEq α] {names : List (α × String)} {a : α}
    {other : String} {R : α → Prop} (hnames : ∀ e ∈ names, Has e.2 key ↔ R e.1)
    (hR : R a → names.lookup a ≠ none) (hother : ¬ Has other key) :
    Has ((names.lookup a).getD other) key ↔ R a := by
  cases hl : names.lookup a with
  | none => exact iff_of_false hother fun hr => hR hr hl
  | some name =>
    obtain ⟨l₁, l₂, rfl, _⟩ := List.lookup_eq_some_iff.mp hl
    exact hnames (a, name) (by simp)

theorem has_typeText (h : key ∈ keywords) {type : UInt16} :
    Has (typeText type) key ↔ key = shutdownEventStr ∧ type = sctpShutdownEvent := by
  have hnames : ∀ key ∈ keywords, ∀ e ∈ typeNames,
      Has e.2 key ↔ key = shutdownEventStr ∧ e.1 = sctpShutdownEvent := by decide +kernel
  refine has_lookup (R := fun type => key = shutdownEventStr ∧ type = sctpShutdownEvent)
    (hnames key h) ?_ ?_
  · rintro ⟨_, rfl⟩
    decide
  · exact not_has_append (by decide) (gap_toHexString _) h

/-- The keyword for the state of an association. -/
def assocKey (state : UInt16) : Option String :=
  if state = sctpCommUp then some commUpStr
  else if state = sctpShutdownComp then some shutdownCompStr
  else if state = sctpCommLost then some commLostStr
  else none

/-- The keyword for the state of a peer address. -/
def addrKey (state : Int32) : Option String :=
  if state = sctpAddrUnreachable then some addrUnreachableStr else none

theorem has_assocStateText (h : key ∈ keywords) {state : UInt16} :
    Has (assocStateText state) key ↔ assocKey state = some key := by
  have hnames : ∀ key ∈ keywords, ∀ e ∈ assocStateNames,
      Has e.2 key ↔ assocKey e.1 = some key := by decide +kernel
  refine has_lookup (R := fun state => assocKey state = some key) (hnames key h) ?_ ?_
  · intro hk
    unfold assocKey at hk
    split_ifs at hk with h₁ h₂ h₃
    · exact h₁ ▸ (by decide)
    · exact h₂ ▸ (by decide)
    · exact h₃ ▸ (by decide)
  · exact not_has_append (by decide) (gap_toHexString _) h

theorem has_addrStateText (h : key ∈ keywords) {state : Int32} :
    Has (addrStateText state) key ↔ addrKey state = some key := by
  have hnames : ∀ key ∈ keywords, ∀ e ∈ addrStateNames,
      Has e.2 key ↔ addrKey e.1 = some key := by decide +kernel
  refine has_lookup (R := fun state => addrKey state = some key) (hnames key h) ?_ ?_
  · intro hk
    unfold addrKey at hk
    split_ifs at hk with h₁
    exact h₁ ▸ (by decide)
  · exact (word_of_mem_keywords h).not_infix_gap (gap_toHexString _)

/-- A keyword in the text of a notification with a state is in the name of its type or in the name
of the state: the identifier before the state and what comes after it are gaps. -/
theorem has_stateText (h : key ∈ keywords) {type lit state rest : String} {assocId : Int32}
    (hlit : Gap keyChar lit.toList) (hne : lit.toList ≠ []) (hrest : Gap keyChar rest.toList) :
    Has (type ++ (lit ++ longHex assocId ++ "," ++ state ++ rest)) key ↔
      Has type key ∨ Has state key := by
  have hw := word_of_mem_keywords h
  have hcomma : Gap keyChar ",".toList := by decide
  simp only [Has, String.toList_append, List.append_assoc]
  refine (hw.infix_append_gap hlit hne).trans (or_congr_right ?_)
  rw [longHex, hw.infix_gap_append (gap_toHexString _), hw.infix_gap_append hcomma]
  exact hw.infix_append_gap_right hrest

theorem has_associationChange (h : key ∈ keywords) {type : String}
    {state error outboundStreams inboundStreams : UInt16} {assocId : Int32} :
    Has (type ++ associationChangeText state error outboundStreams inboundStreams assocId) key ↔
      Has type key ∨ Has (assocStateText state) key := by
  have htext : associationChangeText state error outboundStreams inboundStreams assocId =
      ":assocId:0x" ++ longHex assocId ++ "," ++ assocStateText state ++
        (",(in/out)(" ++ ToString.toString inboundStreams.toNat ++ "/" ++
          ToString.toString outboundStreams.toNat ++ ")" ++ ",err0x" ++
          toHexString error.toNat) := by
    unfold associationChangeText
    simp only [String.append_assoc]
  rw [htext]
  refine has_stateText h (by decide) (by decide) ?_
  simp only [String.toList_append]
  exact .append (.append (.append (.append (.append (.append (by decide) (gap_toString _))
    (by decide)) (gap_toString _)) (by decide)) (by decide)) (gap_toHexString _)

theorem has_peerAddressChange (h : key ∈ keywords) {type : String}
    {state error assocId : Int32} :
    Has (type ++ peerAddressChangeText state error assocId) key ↔
      Has type key ∨ Has (addrStateText state) key := by
  have htext : peerAddressChangeText state error assocId =
      ",assocId:0x" ++ longHex assocId ++ "," ++ addrStateText state ++
        (",err:" ++ longHex error) := by
    unfold peerAddressChangeText
    rw [String.append_assoc]
  rw [htext]
  refine has_stateText h (by decide) (by decide) ?_
  rw [String.toList_append]
  exact .append (by decide) (gap_toHexString _)

theorem not_has_sendFailed (h : key ∈ keywords) {flags : UInt16} {error : Int32} :
    ¬ Has (typeText sctpSendFailed ++ sendFailedText flags error) key := by
  have herr : Gap keyChar (longHex error).toList := gap_toHexString _
  unfold sendFailedText
  rw [← String.append_assoc]
  refine not_has_append ?_ herr h
  split <;> split <;> decide +kernel

theorem not_has_senderDry (h : key ∈ keywords) {assocId : Int32} :
    ¬ Has (typeText sctpSenderDryEvent ++ senderDryText assocId) key := by
  have hid : Gap keyChar (longHex assocId).toList := gap_toHexString _
  unfold senderDryText
  rw [← String.append_assoc]
  exact not_has_append (by decide) hid h

/-- The keyword that the fields of a notification put into its text. -/
def named (n : SctpNotification) : Option String :=
  match n.body with
  | .associationChange state _ _ _ _ => assocKey state
  | .peerAddressChange state _ _ => addrKey state
  | .sendFailed _ | .senderDry _ | .streamReset | .plain =>
    if n.snType = sctpShutdownEvent then some shutdownEventStr else none

/-- The text of a notification has at most one keyword, the one that its fields call for. -/
theorem has_toString {n : SctpNotification} (hn : n.body.Matches n.snType) (h : key ∈ keywords) :
    Has n.toString key ↔ named n = some key := by
  obtain ⟨type, flags, len, body⟩ := n
  have htype : type ≠ sctpShutdownEvent → ¬ Has (typeText type) key := by
    rw [has_typeText h]
    exact fun hne hk => hne hk.2
  cases body with
  | associationChange state error outboundStreams inboundStreams assocId =>
    obtain rfl : type = sctpAssocChange := hn
    calc Has (typeText sctpAssocChange ++ associationChangeText _ _ _ _ _) key
        ↔ Has (typeText sctpAssocChange) key ∨ Has (assocStateText state) key :=
          has_associationChange h
      _ ↔ Has (assocStateText state) key := or_iff_right (htype (by decide))
      _ ↔ assocKey state = some key := has_assocStateText h
  | peerAddressChange state error assocId =>
    obtain rfl : type = sctpPeerAddrChange := hn
    calc Has (typeText sctpPeerAddrChange ++ peerAddressChangeText _ _ _) key
        ↔ Has (typeText sctpPeerAddrChange) key ∨ Has (addrStateText state) key :=
          has_peerAddressChange h
      _ ↔ Has (addrStateText state) key := or_iff_right (htype (by decide))
      _ ↔ addrKey state = some key := has_addrStateText h
  | sendFailed error =>
    obtain rfl : type = sctpSendFailed := hn
    have hnone : named ⟨sctpSendFailed, flags, len, .sendFailed error⟩ = none := rfl
    exact iff_of_false (not_has_sendFailed h) (by simp [hnone])
  | senderDry assocId =>
    obtain rfl : type = sctpSenderDryEvent := hn
    have hnone : named ⟨sctpSenderDryEvent, flags, len, .senderDry assocId⟩ = none := rfl
    exact iff_of_false (not_has_senderDry h) (by simp [hnone])
  | streamReset | plain =>
    have hempty : typeText type ++ "" = typeText type := by simp
    rw [SctpNotification.toString, bodyText, hempty, has_typeText h]
    simp [named, eq_comm, and_comm]

/-- Only the name of its type puts the keyword of the shutdown event into a text, and the type
comes first there. -/
theorem prefix_of_named {n : SctpNotification} (h : named n = some shutdownEventStr) :
    shutdownEventStr.toList <+: n.toString.toList := by
  have htype : n.snType = sctpShutdownEvent := by
    unfold named assocKey addrKey at h
    split at h <;> split_ifs at h <;> first | assumption | exact absurd h (by decide)
  rw [SctpNotification.toString, htype, String.toList_append]
  exact List.prefix_append (typeText sctpShutdownEvent).toList _

/-- The keyword of the shutdown event stands at the index `0`, so its branch is never taken. -/
theorem builderBranch_toString {n : SctpNotification} (hn : n.body.Matches n.snType) :
    builderBranch n.toString =
      if named n = some shutdownCompStr then .shutdownComp
      else if named n = some addrUnreachableStr then .addrUnreachable
      else if named n = some commLostStr then .commLost
      else .ignored := by
  have hevent : ¬ (Has n.toString shutdownEventStr ∧
      ¬ shutdownEventStr.toList <+: n.toString.toList) := by
    rw [has_toString hn (by decide)]
    exact fun h => h.2 (prefix_of_named h.1)
  rw [builderBranch_eq]
  simp only [has_toString hn (by decide : shutdownCompStr ∈ keywords),
    has_toString hn (by decide : addrUnreachableStr ∈ keywords),
    has_toString hn (by decide : commLostStr ∈ keywords), if_neg hevent]

theorem branch_toString {n : SctpNotification} (hn : n.body.Matches n.snType) :
    branch n.toString = if named n = some commUpStr then .commUp
      else builderBranch n.toString := by
  simp only [branch_eq, has_toString hn (by decide : commUpStr ∈ keywords)]

/-! ## The actions that the fields call for -/

/-- The state of an association change. -/
def assocState (n : SctpNotification) : Option UInt16 :=
  match n.body with
  | .associationChange state _ _ _ _ => some state
  | _ => none

/-- The state of an address change. -/
def addrState (n : SctpNotification) : Option Int32 :=
  match n.body with
  | .peerAddressChange state _ _ => some state
  | _ => none

/-- The association has come up. -/
def CallsForConnect (n : SctpNotification) : Prop :=
  n.snType = sctpAssocChange ∧ assocState n = some sctpCommUp

/-- The association has ended, the peer cannot be reached, or the peer shuts down. -/
def CallsForClose (n : SctpNotification) : Prop :=
  (n.snType = sctpAssocChange ∧
      (assocState n = some sctpShutdownComp ∨ assocState n = some sctpCommLost)) ∨
    (n.snType = sctpPeerAddrChange ∧ addrState n = some sctpAddrUnreachable) ∨
    n.snType = sctpShutdownEvent

theorem named_eq_commUp {n : SctpNotification} (hn : n.body.Matches n.snType) :
    named n = some commUpStr ↔ CallsForConnect n := by
  obtain ⟨type, flags, len, body⟩ := n
  cases body with
  | associationChange state =>
    obtain rfl : type = sctpAssocChange := hn
    have hkey : assocKey state = some commUpStr ↔ state = sctpCommUp := by
      unfold assocKey
      split_ifs with h₁ <;> simp [h₁] <;> decide
    simp [named, CallsForConnect, assocState, hkey]
  | peerAddressChange state =>
    have hkey : addrKey state ≠ some commUpStr := by
      unfold addrKey
      split_ifs <;> decide
    simp [named, CallsForConnect, assocState, hkey]
  | _ =>
    have hkey : shutdownEventStr ≠ commUpStr := by decide
    simp [named, CallsForConnect, assocState, hkey]

/-- The keywords on which the listeners close, other than that of the shutdown event. -/
def closeKeys : List String := [shutdownCompStr, addrUnreachableStr, commLostStr]

theorem named_mem_closeKeys {n : SctpNotification} (hn : n.body.Matches n.snType) :
    (∃ key ∈ closeKeys, named n = some key) ↔ CallsForClose n ∧ n.snType ≠ sctpShutdownEvent := by
  obtain ⟨type, flags, len, body⟩ := n
  cases body with
  | associationChange state =>
    obtain rfl : type = sctpAssocChange := hn
    have htype : sctpAssocChange ≠ sctpPeerAddrChange ∧ sctpAssocChange ≠ sctpShutdownEvent := by
      decide
    have hkey : (∃ key ∈ closeKeys, assocKey state = some key) ↔
        state = sctpShutdownComp ∨ state = sctpCommLost := by
      unfold assocKey
      split_ifs with h₁ h₂ h₃
      · subst h₁
        decide
      · subst h₂
        decide
      · subst h₃
        decide
      · simp [h₂, h₃]
    simp [named, CallsForClose, assocState, htype, hkey]
  | peerAddressChange state =>
    obtain rfl : type = sctpPeerAddrChange := hn
    have htype : sctpPeerAddrChange ≠ sctpAssocChange ∧ sctpPeerAddrChange ≠ sctpShutdownEvent := by
      decide
    have hkey : (∃ key ∈ closeKeys, addrKey state = some key) ↔ state = sctpAddrUnreachable := by
      unfold addrKey
      split_ifs with h₁
      · subst h₁
        decide
      · simp [h₁]
    simp [named, CallsForClose, addrState, htype, hkey]
  | _ =>
    have hkey : shutdownEventStr ∉ closeKeys := by decide
    simp [named, CallsForClose, assocState, addrState, hkey]

theorem branch_commUp {n : SctpNotification} (hn : n.body.Matches n.snType) :
    branch n.toString = .commUp ↔ CallsForConnect n := by
  rw [branch_toString hn, builderBranch_toString hn, ← named_eq_commUp hn]
  split_ifs with h₁ <;> simp [h₁]

theorem builderBranch_closes {n : SctpNotification} (hn : n.body.Matches n.snType) :
    (builderBranch n.toString).closes = true ↔
      CallsForClose n ∧ n.snType ≠ sctpShutdownEvent := by
  rw [builderBranch_toString hn, ← named_mem_closeKeys hn]
  split_ifs with h₁ h₂ h₃ <;> simp [closeKeys, Branch.closes, *]

theorem branch_closes {n : SctpNotification} (hn : n.body.Matches n.snType) :
    (branch n.toString).closes = true ↔ CallsForClose n ∧ n.snType ≠ sctpShutdownEvent := by
  rw [← builderBranch_closes hn, branch_toString hn]
  split
  next h =>
    have hignored : builderBranch n.toString = .ignored := by
      rw [builderBranch_toString hn, h]
      rfl
    simp [hignored, Branch.closes]
  next => rfl

/-! ## What the listeners do -/

/-- The channel is closed before the remote is read and the deferred is rejected, so a failure
there does not matter to it. -/
theorem closeAndReject_run (remote : Option InetSocketAddress) (b : Branch) (s : Listened) :
    ∃ d, ((closeAndReject remote b).run s).2 = { s with closes := s.closes + 1, d } ∧
      (d = s.d ∨ ∃ e, d = .rejected e) := by
  rw [closeAndReject, Listened.close, Java.run_bind_ok (Java.run_modify _ s), Java.run_bind,
    Java.run_ofExcept]
  cases rejection remote b with
  | error e => exact ⟨s.d, rfl, .inl rfl⟩
  | ok e =>
    simp only [Listened.settle_run]
    cases hd : s.d with
    | pending => exact ⟨.rejected e, rfl, .inr ⟨e, rfl⟩⟩
    | resolved | rejected => exact ⟨s.d, by rw [hd]; rfl, .inl hd⟩

theorem connectListener_commUp {remote : Option InetSocketAddress} {n : SctpNotification}
    (h : branch n.toString = .commUp) {s : Listened} (hd : s.d = .pending) :
    (connectListener remote n).run s =
      (.ok (), { s with countDown := s.countDown - 1, d := .resolved }) := by
  simp [connectListener, h, Listened.settle_run, Java.run_bind, hd, Deferred.resolve]

theorem connectListener_closes (remote : Option InetSocketAddress) (n : SctpNotification)
    (s : Listened) :
    ((connectListener remote n).run s).2.closes =
      if (branch n.toString).closes then s.closes + 1 else s.closes := by
  unfold connectListener
  cases branch n.toString with
  | commUp =>
    rw [Java.run_bind_ok (Java.run_modify _ s), Listened.settle_run]
    split <;> rfl
  | shutdownComp | addrUnreachable | commLost =>
    obtain ⟨d, hrun, _⟩ := closeAndReject_run remote _ s
    rw [hrun]
    rfl
  | shutdownEvent | ignored => rfl

/-- Only the branch of `COMM_UP` resolves the deferred. -/
theorem connectListener_resolves {remote : Option InetSocketAddress} {n : SctpNotification}
    {s : Listened} (hs : s.d ≠ .resolved)
    (h : ((connectListener remote n).run s).2.d = .resolved) : branch n.toString = .commUp := by
  unfold connectListener at h
  cases hb : branch n.toString with
  | commUp => rfl
  | shutdownComp | addrUnreachable | commLost =>
    obtain ⟨d, hrun, hd⟩ := closeAndReject_run remote (branch n.toString) s
    rw [hb] at h hrun
    simp only [hrun] at h
    rcases hd with rfl | ⟨e, rfl⟩
    · exact absurd h hs
    · cases h
  | shutdownEvent | ignored =>
    rw [hb] at h
    exact absurd h hs

theorem builderListener_closes (n : SctpNotification) (s : Listened) :
    ((builderListener n).run s).2.closes =
      if (builderBranch n.toString).closes then s.closes + 1 else s.closes := by
  unfold builderListener
  split <;> rfl

section
variable {T : Type*} [DecidableEq T] {s : State T} {t : T}

/-- What the listener acts on, in the state of a call of `connect`. -/
def State.listened (s : State T) : Listened where
  countDown := s.countDown
  d := s.d
  closes := s.closes

/-- A call of the listener during `connect`, with no step of another thread in it. -/
def listenerCall (c : ChanId) (t : T) (n : SctpNotification) (s : State T) : Option (State T) := do
  let s ← deliver t n.toString s
  if s.listener t = .returned then pure s else settle c t s

/-- The two steps of the listener in `Connect.machine` do together what its body does. -/
theorem listenerCall_eq (c : ChanId) (n : SctpNotification) (hl : s.caller.listens = true)
    (ht : s.listener t = .idle) :
    ∃ s', listenerCall c t n s = some s' ∧ s'.world = s.world ∧
      s'.listened = ((connectListener (s.world.channel c).remote n).run s.listened).2 := by
  have hcond : (s.caller.listens && decide (s.listener t = .idle)) = true := by simp [hl, ht]
  unfold listenerCall deliver connectListener
  rw [if_pos hcond]
  cases hb : branch n.toString with
  | commUp =>
    rw [Java.run_bind_ok (Java.run_modify _ _), Listened.settle_run]
    cases hd : s.d <;>
      simp [settle, Deferred.resolve, State.listened, hd, Branch.closes]
  | shutdownComp | addrUnreachable | commLost =>
    -- the rejection may fail on the remote, and the deferred may be settled already
    rcases hr : rejection (s.world.channel c).remote (branch n.toString) with e | e <;>
      rw [hb] at hr <;> cases hd : s.d <;>
      simp [settle, closeAndReject, Listened.close, Listened.settle_run, Java.run_bind, hr, hd,
        State.listened, Branch.closes, Except.bind, Deferred.reject]
  | shutdownEvent | ignored => simp [State.listened, Branch.closes, Listened.close]

end

/-! ## Complete and sound -/

/-- The listeners take the action that the fields of the notification call for, while the
promise of `connect` is pending. -/
structure TakesAction (n : SctpNotification) : Prop where
  connects : CallsForConnect n → ∀ remote (s : Listened), s.d = .pending →
    (connectListener remote n).run s =
      (.ok (), { s with countDown := s.countDown - 1, d := .resolved })
  connectCloses : CallsForClose n → ∀ remote (s : Listened), s.d = .pending →
    ((connectListener (some remote) n).run s).2.closes = s.closes + 1
  builderCloses : CallsForClose n → ∀ s : Listened,
    ((builderListener n).run s).2.closes = s.closes + 1

theorem not_takesAction {n : SctpNotification} (hn : n.body.Matches n.snType)
    (htype : n.snType = sctpShutdownEvent) : ¬ TakesAction n := by
  intro ha
  have hcloses := ha.builderCloses (.inr (.inr htype)) ⟨1, .pending, 0⟩
  have hbranch : ¬ (builderBranch n.toString).closes = true := by
    rw [builderBranch_closes hn]
    exact fun hc => hc.2 htype
  rw [builderListener_closes, if_neg hbranch] at hcloses
  cases hcloses

/-- The listeners take the action that the fields call for exactly on the notifications that are
not shutdown events: the text of a shutdown event is the keyword itself, `indexOf` is `0` and the
test is `> 0`. -/
theorem takesAction_iff {data : Bytes} {n : SctpNotification} (h : parse data = .ok n) :
    TakesAction n ↔ n.snType ≠ sctpShutdownEvent := by
  have hn := matches_of_parse h
  constructor
  · exact fun ha htype => not_takesAction hn htype ha
  · intro htype
    refine ⟨fun hc remote s hd => ?_, fun hc remote s _ => ?_, fun hc s => ?_⟩
    · exact connectListener_commUp ((branch_commUp hn).mpr hc) hd
    · rw [connectListener_closes, if_pos ((branch_closes hn).mpr ⟨hc, htype⟩)]
    · rw [builderListener_closes, if_pos ((builderBranch_closes hn).mpr ⟨hc, htype⟩)]

/-- A communication lost on an association with no streams. -/
theorem takesAction_commLost :
    parse [1, 0, 0, 0, 20, 0, 0, 0, 2, 0, 0, 0, 0, 0, 0, 0, 0, 0, 0, 0] =
      .ok ⟨sctpAssocChange, 0, 20, .associationChange sctpCommLost 0 0 0 0⟩ ∧
    TakesAction ⟨sctpAssocChange, 0, 20, .associationChange sctpCommLost 0 0 0 0⟩ :=
  have hparse : parse [1, 0, 0, 0, 20, 0, 0, 0, 2, 0, 0, 0, 0, 0, 0, 0, 0, 0, 0, 0] =
      .ok ⟨sctpAssocChange, 0, 20, .associationChange sctpCommLost 0 0 0 0⟩ := rfl
  ⟨hparse, (takesAction_iff hparse).mpr (by decide)⟩

/-- The bytes of a shutdown event are accepted, and neither listener closes the channel. -/
theorem shutdownEvent_ignored :
    parse [5, 0, 0, 0, 12, 0, 0, 0, 0, 0, 0, 0] = .ok ⟨sctpShutdownEvent, 0, 12, .plain⟩ ∧
      ¬ TakesAction ⟨sctpShutdownEvent, 0, 12, .plain⟩ :=
  ⟨rfl, not_takesAction trivial rfl⟩

/-- What the listeners do on a notification is what its fields allow. -/
structure Sound (n : SctpNotification) : Prop where
  resolves : ∀ remote (s : Listened), s.d ≠ .resolved →
    ((connectListener remote n).run s).2.d = .resolved → CallsForConnect n
  connectCloses : ∀ remote (s : Listened),
    ((connectListener remote n).run s).2.closes ≠ s.closes → CallsForClose n
  builderCloses : ∀ s : Listened,
    ((builderListener n).run s).2.closes ≠ s.closes → CallsForClose n
  notBoth : ∀ remote (s : Listened), s.d ≠ .resolved →
    ¬ (((connectListener remote n).run s).2.d = .resolved ∧
      ((connectListener remote n).run s).2.closes ≠ s.closes)
  builderKeeps : ∀ s : Listened, ((builderListener n).run s).2.d = s.d
  agree : ∀ remote (s : Listened),
    ((connectListener remote n).run s).2.closes = ((builderListener n).run s).2.closes

theorem sound_of_parse {data : Bytes} {n : SctpNotification} (h : parse data = .ok n) :
    Sound n := by
  have hn := matches_of_parse h
  have hagree : (branch n.toString).closes = (builderBranch n.toString).closes := by
    rw [Bool.eq_iff_iff, branch_closes hn, builderBranch_closes hn]
  refine ⟨fun remote s hs hd => ?_, fun remote s hc => ?_, fun s hc => ?_,
    fun remote s hs hboth => ?_, fun s => ?_, fun remote s => ?_⟩
  · exact (branch_commUp hn).mp (connectListener_resolves hs hd)
  · rw [connectListener_closes, ne_eq, ite_eq_right_iff, not_forall] at hc
    exact ((branch_closes hn).mp hc.1).1
  · rw [builderListener_closes, ne_eq, ite_eq_right_iff, not_forall] at hc
    exact ((builderBranch_closes hn).mp hc.1).1
  · have hup := connectListener_resolves hs hboth.1
    rw [connectListener_closes, hup] at hboth
    exact hboth.2 rfl
  · unfold builderListener
    split <;> rfl
  · rw [connectListener_closes, builderListener_closes, hagree]

/-- The start of an association with one stream in each direction. -/
theorem sound_commUp :
    parse [1, 0, 0, 0, 20, 0, 0, 0, 1, 0, 0, 0, 1, 0, 1, 0, 7, 0, 0, 0] =
      .ok ⟨sctpAssocChange, 0, 20, .associationChange sctpCommUp 0 1 1 7⟩ ∧
    Sound ⟨sctpAssocChange, 0, 20, .associationChange sctpCommUp 0 1 1 7⟩ :=
  have hparse : parse [1, 0, 0, 0, 20, 0, 0, 0, 1, 0, 0, 0, 1, 0, 1, 0, 7, 0, 0, 0] =
      .ok ⟨sctpAssocChange, 0, 20, .associationChange sctpCommUp 0 1 1 7⟩ := rfl
  ⟨hparse, sound_of_parse hparse⟩

end Sctp4Nat.Connect
