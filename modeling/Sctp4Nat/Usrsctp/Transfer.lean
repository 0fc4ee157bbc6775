import Mathlib.Data.List.Perm.Basic
import Sctp4Nat.Usrsctp.SackReport
import Sctp4Nat.Usrsctp.Sender

/-! # The transfer of chunks

One direction of an association: a sender, a receiver, and between them a network that may lose
`DATA` chunks and SACKs, deliver them many times and in any order. A packet is on its way for less
than `window` chunks, and so many may wait to be acknowledged.

In every run the receiver accepts only chunks that were sent, each at most once, and a chunk leaves
the sender only after the receiver has accepted it (`nothing_lost`). -/

namespace Sctp4Nat.MappingArray

open Serial (wrap)

/-- What is on its way, and how many chunks had a TSN when it was sent. -/
structure Packet (α : Type) where
  chunk : α
  sentAt : Nat

structure Transfer where
  sender : Sender
  receiver : Asoc
  /-- Everything that was ever sent may arrive again. -/
  data : List (Packet Tsn)
  sacks : List (Packet Sack)
  /-- How many chunks have a TSN. -/
  given : Nat

/-- A chunk gets its TSN, is sent or sent again, seems late or is struck by a SACK; packet `i`
arrives; the receiver does something by itself or sends a SACK. -/
inductive TransferChoice
  | assign
  | transmit (i : Nat)
  | retransmit (i : Nat)
  | resend (late : List Tsn)
  | strike (struck : List Tsn)
  | data (i : Nat) (memory : Bool) (fate : Fate)
  | receiver (c : Choice)
  | sendSack (space : Nat)
  | sack (i : Nat) (prSctp drained : Bool)

namespace Transfer

variable (s : Transfer)

/-- A `DATA` chunk is sent. -/
def putData (sent : Tsn × Sender) : Transfer :=
  { s with sender := sent.2, data := s.data ++ [⟨sent.1, s.given⟩] }

def putSack (sent : Sack × Asoc) : Transfer :=
  { s with receiver := sent.2, sacks := s.sacks ++ [⟨sent.1, s.given⟩] }

def exec (drain : Bool) : TransferChoice → Option Transfer
  | .assign => some { s with sender := sctpMoveToOutqueue s.sender, given := s.given + 1 }
  | .transmit i => (sctpCleanUpDatalist i s.sender).map s.putData
  | .retransmit i => (sctpChunkRetransmission i s.sender).map s.putData
  | .resend late => some { s with sender := sctpMarkAllForResend late s.sender }
  | .strike struck => some { s with sender := sctpStrikeGapAckChunks struck s.sender }
  | .data i memory fate => s.data[i]?.bind fun p =>
    (MappingArray.exec drain s.receiver (.data memory p.chunk fate)).map ({ s with receiver := · })
  | .receiver c =>
    if c.quiet then (MappingArray.exec drain s.receiver c).map ({ s with receiver := · }) else none
  | .sendSack space => some (s.putSack (sctpSendSack space s.receiver))
  | .sack i prSctp drained => s.sacks[i]?.bind fun p =>
    (processSack prSctp drained p.chunk s.sender).map ({ s with sender := · })

/-- The packet has not been on its way for too long. -/
def recent {α : Type} (p : Packet α) : Prop := s.given < p.sentAt + window

instance {α : Type} (p : Packet α) : Decidable (s.recent p) := Nat.decLt ..

def timely : TransferChoice → Prop
  | .assign => (s.sender.sendingSeq - s.sender.lastAckedSeq).toNat ≤ window
  | .data i _ _ => ∀ p ∈ s.data[i]?, s.recent p
  | .sack i _ _ => ∀ p ∈ s.sacks[i]?, s.recent p
  | _ => True

instance (c : TransferChoice) : Decidable (s.timely c) := by
  cases c <;> simp only [timely] <;> infer_instance

end Transfer

/-- A new association whose first chunk has the TSN. -/
def transfer (drain : Bool) (initialTsn : Tsn) : Machine Transfer TransferChoice where
  init s := s =
    { sender := .new initialTsn
      receiver := sctpProcessInit initialTsn
      data := []
      sacks := []
      given := 0 }
  exec s := s.exec drain

/-- The runs in which no packet and no TSN gets too old. -/
def timelyTransfer (drain : Bool) (initialTsn : Tsn) : Machine Transfer TransferChoice :=
  (transfer drain initialTsn).restrict fun s c => fresh s.receiver ∧ s.timely c

/-! ## What holds in every run -/

/-- The sender, the receiver and the packets on their way. -/
structure TransferRep (z : Tsn) (s : Transfer) (k : Sending) (r : Numbers) : Prop where
  sender : SenderRep z (· ∈ r.accepted) s.sender k
  receiver : Rep near z s.receiver r
  skipped : r.skipped = 0
  given : s.given + 1 = k.next
  /-- Only chunks that were sent are accepted. -/
  accepted : ∀ n ∈ r.accepted, k.Transmitted n
  /-- Only chunks that were accepted have left the sender. -/
  acked_le : k.acked ≤ r.cum
  data : ∀ p ∈ s.data, ∃ n, p.chunk = wrap z n ∧ 0 < n ∧ k.Transmitted n ∧ p.sentAt < n + window
  sacks : ∀ p ∈ s.sacks, ∃ c, Reports z (· ∈ r.accepted) p.chunk c ∧ c ≤ r.cum ∧
    p.sentAt ≤ c + window

theorem Reports.mono {z : Tsn} {Got Got' : Nat → Prop} {sack : Sack} {c : Nat}
    (h : Reports z Got sack c) (hgot : ∀ n, Got n → Got' n) : Reports z Got' sack c :=
  ⟨h.cumTsnAck, fun n hn hle => hgot n (h.upTo n hn hle),
    fun frag hf n hn => hgot n (h.gaps frag hf n hn)⟩

/-- Some block has the number. -/
theorem exists_within_iff {c n : Nat} {frags : List GapAckBlock} :
    (∃ frag ∈ frags, Within c n frag) ↔ c ≤ n ∧ Covers (intervals frags) (n - c) := by
  simp only [Covers, intervals, List.mem_map, exists_exists_and_eq_and, Within]
  constructor
  · rintro ⟨frag, hfrag, hn, hn'⟩
    exact ⟨by omega, frag, hfrag, by omega, by omega⟩
  · rintro ⟨hle, frag, hfrag, hn, hn'⟩
    exact ⟨frag, hfrag, by omega, by omega⟩

namespace TransferRep

variable {z : Tsn} {s : Transfer} {k : Sending} {r : Numbers} {n : Nat}

theorem has_iff (h : TransferRep z s k r) : r.Has n ↔ 0 < n ∧ n ∈ r.accepted := by
  rw [Numbers.Has, h.skipped]
  refine and_congr_right fun hn => or_iff_right (Nat.not_le_of_lt hn)

theorem mem_accepted (h : TransferRep z s k r) (hn : 0 < n) (hle : n ≤ r.cum) : n ∈ r.accepted :=
  (h.has_iff.mp (h.receiver.contiguous n hn hle)).2

theorem cum_le (h : TransferRep z s k r) : r.cum ≤ s.given := by
  rcases Nat.eq_zero_or_pos r.cum with h0 | hpos
  · rw [h0]
    exact Nat.zero_le _
  · have := h.sender.lt_next (h.accepted _ (h.mem_accepted hpos (Nat.le_refl _)))
    have := h.given
    omega

theorem given_le (h : TransferRep z s k r) : s.given ≤ k.acked + window := by
  have := h.given
  have := h.sender.next_le
  omega

theorem init (initialTsn : Tsn) : TransferRep (initialTsn - 1)
    { sender := .new initialTsn
      receiver := sctpProcessInit initialTsn
      data := []
      sacks := []
      given := 0 }
    { unsent := [], sent := [], next := 1, acked := 0 }
    { accepted := [], held := [], skipped := 0, base := 1, cum := 0, highestMap := 0
      highestNrMap := 0 } where
  sender :=
    { sendQueue := rfl
      sentQueue := .nil
      sendingSeq := by rw [Serial.wrap_succ, Serial.wrap_zero, BitVec.sub_add_cancel]; rfl
      lastAckedSeq := (Serial.wrap_zero _).symm
      freed := rfl
      nodup := .nil
      sorted := .nil
      apart := fun n hn => absurd hn List.not_mem_nil
      mem_iff := fun n => by simp; omega
      acked_lt := Nat.one_pos
      next_le := by decide }
  receiver := .init initialTsn
  skipped := rfl
  given := rfl
  accepted := fun n hn => absurd hn List.not_mem_nil
  acked_le := Nat.le_refl 0
  data := fun p hp => absurd hp List.not_mem_nil
  sacks := fun p hp => absurd hp List.not_mem_nil

/-- The sender does something that acknowledges no chunk. -/
theorem of_sender (h : TransferRep z s k r) {sender : Sender} {k' : Sending} {given : Nat}
    (hsender : SenderRep z (· ∈ r.accepted) sender k') (hgiven : given + 1 = k'.next)
    (hsent : ∀ n, k.Transmitted n → k'.Transmitted n) (hacked : k'.acked ≤ r.cum) :
    TransferRep z { s with sender, given } k' r :=
  { h with
    sender := hsender
    given := hgiven
    accepted := fun n hn => hsent n (h.accepted n hn)
    acked_le := hacked
    data := fun p hp => by
      obtain ⟨n, hp, hn, hsentn, hlt⟩ := h.data p hp
      exact ⟨n, hp, hn, hsent n hsentn, hlt⟩ }

/-- A chunk that was sent is put on its way. -/
theorem putData (h : TransferRep z s k r) {tsn : Tsn} (hn : n ∈ k.sent) (htsn : tsn = wrap z n) :
    TransferRep z { s with data := s.data ++ [⟨tsn, s.given⟩] } k r :=
  { h with
    data := fun p hp => by
      rcases List.mem_append.mp hp with hp | hp
      · exact h.data p hp
      · obtain rfl := List.mem_singleton.mp hp
        have hlt := h.sender.sent_lt hn
        have hgiven := h.given_le
        exact ⟨n, htsn, by omega, .inr hn, by simp only; omega⟩ }

/-- The receiver accepts no chunk. -/
theorem of_same (h : TransferRep z s k r) {receiver : Asoc} {r' : Numbers}
    (hrep : Rep near z receiver r') (hsame : r.Same r') :
    TransferRep z { s with receiver } k r' :=
  { h with
    sender := hsame.accepted ▸ h.sender
    receiver := hrep
    skipped := hsame.skipped.trans h.skipped
    accepted := hsame.accepted ▸ h.accepted
    acked_le := Nat.le_trans h.acked_le hsame.cum_le
    sacks := fun p hp => by
      obtain ⟨c, hreports, hle, hsent⟩ := h.sacks p hp
      exact ⟨c, hsame.accepted ▸ hreports, Nat.le_trans hle hsame.cum_le, hsent⟩ }

/-- The receiver accepts a chunk. -/
theorem of_accepted (h : TransferRep z s k r) {receiver : Asoc} {r' : Numbers}
    (hrep : Rep near z receiver r') (hskipped : r'.skipped = r.skipped) (hcum : r.cum ≤ r'.cum)
    (haccepted : r'.accepted = n :: r.accepted) (hn : k.Transmitted n) :
    TransferRep z { s with receiver } k r' := by
  have hmore : ∀ m ∈ r.accepted, m ∈ r'.accepted := fun m hm => haccepted ▸ .tail _ hm
  exact
    { h with
      sender := h.sender.mono hmore
      receiver := hrep
      skipped := hskipped.trans h.skipped
      accepted := fun m hm => by
        rw [haccepted] at hm
        rcases List.mem_cons.mp hm with rfl | hm
        · exact hn
        · exact h.accepted m hm
      acked_le := Nat.le_trans h.acked_le hcum
      sacks := fun p hp => by
        obtain ⟨c, hreports, hle, hsent⟩ := h.sacks p hp
        exact ⟨c, hreports.mono hmore, Nat.le_trans hle hcum, hsent⟩ }

/-- A `DATA` chunk arrives. -/
theorem receive (h : TransferRep z s k r) (hf : fresh s.receiver) {p : Packet Tsn}
    (hp : p ∈ s.data) (hrecent : s.recent p) {drain memory : Bool} {fate : Fate} {receiver : Asoc}
    (he : MappingArray.exec drain s.receiver (.data memory p.chunk fate) = some receiver) :
    ∃ r', TransferRep z { s with receiver } k r' := by
  obtain ⟨n, hchunk, hpos, hsent, hold⟩ := h.data p hp
  have hlt := h.sender.lt_next hsent
  have hcum := h.cum_le
  have hgiven := h.given_le
  have hacked := h.acked_le
  have hnext := h.given
  simp only [Transfer.recent, window] at hrecent hold hgiven
  rw [hchunk] at he
  rcases h.receiver.data_at hf hpos (by omega) (by omega) he with
    ⟨-, hrep⟩ | ⟨-, r', hrep, hskipped, hle, haccepted⟩
  · exact ⟨r, h.of_same hrep ⟨rfl, rfl, Nat.le_refl _⟩⟩
  · exact ⟨r', h.of_accepted hrep hskipped hle haccepted hsent⟩

/-- A SACK of the receiver reports only what it has accepted. -/
theorem reports (h : TransferRep z s k r) {space cum : Nat} {a : Asoc} {sack : Sack}
    (hsent : Rep.Sent space z a r cum sack) : Reports z (· ∈ r.accepted) sack cum where
  cumTsnAck := hsent.cumTsnAck
  upTo n hn hle := (h.has_iff.mp (hsent.upTo n hn hle)).2
  gaps frag hfrag n hn := by
    obtain ⟨hle, hcovers⟩ := exists_within_iff.mp ⟨frag, hfrag, hn⟩
    have hhas := (hsent.sound _ hcovers).2
    rw [Nat.add_sub_cancel' hle] at hhas
    exact (h.has_iff.mp hhas).2

/-- The receiver sends a SACK. -/
theorem sendSack (h : TransferRep z s k r) (hf : fresh s.receiver) (space : Nat) :
    ∃ r', TransferRep z (s.putSack (sctpSendSack space s.receiver)) k r' := by
  obtain ⟨r', hrep, haccepted, hskipped, hle, hsent⟩ :=
    (h.receiver.of_fresh hf).sent (by decide) space
  have hrep' := h.of_same (hrep.mono (by decide)) ⟨haccepted, hskipped, hle⟩
  refine ⟨r', { hrep' with sacks := fun p hp => ?_ }⟩
  rcases List.mem_append.mp hp with hp | hp
  · exact hrep'.sacks p hp
  obtain rfl := List.mem_singleton.mp hp
  have hgiven := h.given_le
  have hacked := h.acked_le
  exact ⟨r'.cum, haccepted ▸ h.reports hsent, Nat.le_refl _, by simp only; omega⟩

/-- A SACK arrives. -/
theorem processSack (h : TransferRep z s k r) {p : Packet Sack} (hp : p ∈ s.sacks)
    (hrecent : s.recent p) (prSctp drained : Bool) :
    ∃ c sender, p.chunk.cumTsnAck = wrap z c ∧
      MappingArray.processSack prSctp drained p.chunk s.sender = some sender ∧
      SenderRep.Acknowledged z (· ∈ r.accepted) k c p.chunk.gapAckBlks sender ∧
      TransferRep z { s with sender } (k.ackTo c) r := by
  obtain ⟨c, hreports, hle, hold⟩ := h.sacks p hp
  have hnext := h.given
  simp only [Transfer.recent, window] at hrecent hold
  obtain ⟨sender, hsender, hrep⟩ :=
    h.sender.processSack h.accepted hreports (by omega) prSctp drained
  refine ⟨c, sender, hreports.cumTsnAck, hsender, hrep, h.of_sender hrep.rep hnext ?_ ?_⟩
  · rintro n (hn | hn)
    · exact .inl (Nat.le_trans hn (Nat.le_max_left ..))
    · by_cases hle : n ≤ c
      · exact .inl (Nat.le_trans hle (Nat.le_max_right ..))
      · exact .inr (List.mem_filter.mpr ⟨hn, decide_eq_true (Nat.lt_of_not_le hle)⟩)
  · exact Nat.max_le.mpr ⟨h.acked_le, hle⟩

/-- **Every step.** -/
theorem step (h : TransferRep z s k r) (hf : fresh s.receiver) {c : TransferChoice}
    (ht : s.timely c) {drain : Bool} {s' : Transfer} (he : s.exec drain c = some s') :
    ∃ k' r', TransferRep z s' k' r' := by
  cases c with
  | assign =>
    cases he
    have hlt := h.sender.acked_lt
    have hle := h.sender.next_le
    have hwindow : k.next ≤ k.acked + window := by
      rw [Transfer.timely, h.sender.sendingSeq, h.sender.lastAckedSeq,
        Serial.toNat_wrap_sub z (Nat.le_of_lt hlt) (by simp only [window] at hle; omega)] at ht
      omega
    have hgiven := h.given
    exact ⟨_, r, h.of_sender (h.sender.moveToOutqueue hwindow) (by simp only; omega)
      (fun n hn => hn) h.acked_le⟩
  | transmit i =>
    obtain ⟨⟨tsn, sender⟩, hs, rfl⟩ := Option.map_eq_some_iff.mp he
    obtain ⟨n, k', hsender, htsn, hn, hsent, hnext, hacked⟩ := h.sender.cleanUpDatalist hs
    have hrep := h.of_sender hsender (h.given.trans hnext.symm) hsent (hacked ▸ h.acked_le)
    exact ⟨k', r, hrep.putData hn htsn⟩
  | retransmit i =>
    obtain ⟨⟨tsn, sender⟩, hs, rfl⟩ := Option.map_eq_some_iff.mp he
    obtain ⟨n, hn, htsn, hsender⟩ := h.sender.chunkRetransmission hs
    exact ⟨k, r, (h.of_sender hsender h.given (fun n hn => hn) h.acked_le).putData hn htsn⟩
  | resend late =>
    cases he
    exact ⟨k, r, h.of_sender (h.sender.markAllForResend late) h.given (fun n hn => hn) h.acked_le⟩
  | strike struck =>
    cases he
    exact ⟨k, r,
      h.of_sender (h.sender.strikeGapAckChunks struck) h.given (fun n hn => hn) h.acked_le⟩
  | data i memory fate =>
    obtain ⟨p, hp, he⟩ := Option.bind_eq_some_iff.mp he
    obtain ⟨receiver, hdata, rfl⟩ := Option.map_eq_some_iff.mp he
    exact ⟨k, h.receive hf (List.mem_of_getElem? hp) (ht p hp) hdata⟩
  | receiver c =>
    obtain ⟨hc, he⟩ := Option.ite_none_right_eq_some.mp he
    obtain ⟨receiver, hquiet, rfl⟩ := Option.map_eq_some_iff.mp he
    obtain ⟨r', hrep, hsame⟩ := h.receiver.quiet hf hc hquiet
    exact ⟨k, r', h.of_same hrep hsame⟩
  | sendSack space =>
    cases he
    exact ⟨k, h.sendSack hf space⟩
  | sack i prSctp drained =>
    obtain ⟨p, hp, he⟩ := Option.bind_eq_some_iff.mp he
    obtain ⟨sender, hsender, rfl⟩ := Option.map_eq_some_iff.mp he
    obtain ⟨c, sender', -, hsender', -, hrep⟩ :=
      h.processSack (List.mem_of_getElem? hp) (ht p hp) prSctp drained
    cases hsender.symm.trans hsender'
    exact ⟨_, r, hrep⟩

end TransferRep

variable {drain : Bool} {initialTsn : Tsn} {s : Transfer}

theorem exists_transferRep (h : (timelyTransfer drain initialTsn).Reachable s) :
    ∃ k r, TransferRep (initialTsn - 1) s k r := by
  refine Machine.Reachable.restrict_invariant
    (P := fun s => ∃ k r, TransferRep (initialTsn - 1) s k r) ?_ ?_ h
  · rintro s rfl
    exact ⟨_, _, .init initialTsn⟩
  · rintro s c s' ⟨k, r, hrep⟩ ⟨hf, ht⟩ he
    exact hrep.step hf ht he

/-- The first of three chunks is lost; the third comes before the second, which comes twice. -/
def lossy : List TransferChoice := [
  .assign, .assign, .assign, .transmit 1, .transmit 1, .transmit 0,
  .data 1 true .express, .data 0 true (.queue []), .data 0 true .express,
  .sendSack 1000, .sack 0 false true]

theorem lossy_reachable : ∃ s, (timelyTransfer true 5#32).Reachable s ∧
    s.sender.sentQueue = [⟨5#32, 1⟩, ⟨6#32, 10010⟩, ⟨7#32, 10010⟩] ∧
      s.receiver.accepted = [6#32, 7#32] :=
  Machine.Reachable.exists_run (.init rfl) lossy (by decide +kernel)

/-- **Everything arrives exactly once.** In every run, when no chunk waits on the queues of the
sender any more, the receiver has accepted each chunk, and each once. -/
theorem all_delivered (h : (timelyTransfer drain initialTsn).Reachable s)
    (hsend : s.sender.sendQueue = []) (hsent : s.sender.sentQueue = []) :
    ∃ accepted : List Nat, accepted.Perm (List.range' 1 s.given) ∧
      s.receiver.accepted = accepted.map (wrap (initialTsn - 1)) := by
  obtain ⟨k, r, hrep⟩ := exists_transferRep h
  have hunsent : k.unsent = [] := List.map_eq_nil_iff.mp (hrep.sender.sendQueue.symm.trans hsend)
  have hnil : k.sent = [] := List.forall₂_nil_left_iff.mp (hsent ▸ hrep.sender.sentQueue)
  have hgiven := hrep.given
  have hall : s.given ≤ k.acked := by
    by_contra hlt
    have := (hrep.sender.mem_iff s.given).mpr ⟨by omega, by omega⟩
    rw [hunsent, hnil] at this
    exact this.elim List.not_mem_nil List.not_mem_nil
  refine ⟨r.accepted, ?_, hrep.receiver.accepted⟩
  refine (List.perm_ext_iff_of_nodup hrep.receiver.nodup (List.nodup_range' ..)).mpr fun n => ?_
  rw [List.mem_range'_1]
  constructor
  · intro hn
    have hpos := hrep.receiver.accepted_pos n hn
    have hlt := hrep.sender.lt_next (hrep.accepted n hn)
    omega
  · rintro ⟨hpos, hlt⟩
    exact hrep.mem_accepted hpos (Nat.le_trans (by omega) hrep.acked_le)

/-- The first chunk is sent again, and all are acknowledged. -/
def recovered : List TransferChoice :=
  lossy ++ [
    .resend [5#32], .retransmit 0, .data 3 true .express, .sendSack 1000, .sack 1 false true]

theorem recovered_delivered : ∃ (s : Transfer) (accepted : List Nat),
    s.given = 3 ∧ accepted.Perm (List.range' 1 s.given) ∧
      s.receiver.accepted = accepted.map (wrap (5#32 - 1)) := by
  obtain ⟨s, h, hgiven, hsend, hsent⟩ : ∃ s, (timelyTransfer true 5#32).Reachable s ∧
      s.given = 3 ∧ s.sender.sendQueue = [] ∧ s.sender.sentQueue = [] :=
    Machine.Reachable.exists_run (.init rfl) recovered (by decide +kernel)
  obtain ⟨accepted, hperm, haccepted⟩ := all_delivered h hsend hsent
  exact ⟨s, accepted, hgiven, hperm, haccepted⟩

/-- **No SACK aborts the association.** In every run, whichever SACK arrives, an old one or one that
came before, the sender takes it, and it has then removed the chunks up to the cumulative TSN, and
no others, if they are not removed yet. -/
theorem sack_taken (h : (timelyTransfer drain initialTsn).Reachable s) {p : Packet Sack}
    (hp : p ∈ s.sacks) (hrecent : s.recent p) (prSctp drained : Bool) :
    ∃ (cum acked : Nat) (sender : Sender), p.chunk.cumTsnAck = wrap (initialTsn - 1) cum ∧
      processSack prSctp drained p.chunk s.sender = some sender ∧
      s.sender.freed = ((List.range' 1 acked).map (wrap (initialTsn - 1))).reverse ∧
      sender.freed = ((List.range' 1 (max acked cum)).map (wrap (initialTsn - 1))).reverse := by
  obtain ⟨k, r, hrep⟩ := exists_transferRep h
  obtain ⟨c, sender, hcum, hsender, hacked, -⟩ := hrep.processSack hp hrecent prSctp drained
  exact ⟨c, k.acked, sender, hcum, hsender, hrep.sender.freed, hacked.rep.freed⟩

/-- The SACK from before the loss was made up for comes again. -/
theorem recovered_taken : ∃ (s : Transfer) (cum acked : Nat) (sender : Sender),
    s.sender.freed = [7#32, 6#32, 5#32] ∧
      s.sender.freed = ((List.range' 1 acked).map (wrap (5#32 - 1))).reverse ∧
      sender.freed = ((List.range' 1 (max acked cum)).map (wrap (5#32 - 1))).reverse := by
  obtain ⟨s, h, hfreed, hrecent⟩ : ∃ s, (timelyTransfer true 5#32).Reachable s ∧
      s.sender.freed = [7#32, 6#32, 5#32] ∧ ∃ p ∈ s.sacks, s.recent p :=
    Machine.Reachable.exists_run (.init rfl) recovered (by decide +kernel)
  obtain ⟨p, hp, hrecent⟩ := hrecent
  obtain ⟨cum, acked, sender, -, -, hacked, hsender⟩ := sack_taken h hp hrecent false true
  exact ⟨s, cum, acked, sender, hfreed, hacked, hsender⟩

/-- **The list of sent chunks never gets out of order.** In no run does
`sctp_mark_all_for_resend` find a chunk that is acknowledged already. -/
theorem list_in_order (h : (timelyTransfer drain initialTsn).Reachable s) :
    s.sender.outOfOrder = false := by
  obtain ⟨k, r, hrep⟩ := exists_transferRep h
  exact hrep.sender.inOrder

theorem lossy_in_order : ∃ s : Transfer,
    s.sender.sentQueue = [⟨5#32, 1⟩, ⟨6#32, 10010⟩, ⟨7#32, 10010⟩] ∧
      s.sender.outOfOrder = false := by
  obtain ⟨s, h, hqueue, -⟩ := lossy_reachable
  exact ⟨s, hqueue, list_in_order h⟩

end Sctp4Nat.MappingArray
