import Mathlib.Data.List.Forall2
import Mathlib.Data.List.InsertIdx
import Mathlib.Data.List.Sort
import Sctp4Nat.Usrsctp.SentQueue

/-! # The sender

A chunk gets its TSN when it leaves the queue of its stream. It goes to the queue of sent chunks
when it is sent for the first time, which may be in another order, and stays there until the
cumulative TSN of a SACK is past it; meanwhile it is sent again when it seems lost. `SenderRep`
relates the state of the sender to the numbers of its chunks.

A SACK that reports only chunks that the peer has got never aborts the association. It removes the
chunks up to its cumulative TSN and no others (`SenderRep.processSack`). -/

namespace Sctp4Nat.MappingArray

open Serial (wrap)

/-! ## Chunks are sent -/

/-- `sctp_move_to_outqueue`: the next chunk gets its TSN. -/
def sctpMoveToOutqueue (s : Sender) : Sender :=
  { s with sendQueue := s.sendQueue ++ [s.sendingSeq], sendingSeq := s.sendingSeq + 1 }

/-- The chunk comes after the last one that is not later than it; the queue is reversed. -/
def insertBack (chunk : TmitChunk) : List TmitChunk → List TmitChunk
  | [] => [chunk]
  | tp1 :: queue =>
    if tsnGt tp1.tsn chunk.tsn then tp1 :: insertBack chunk queue else chunk :: tp1 :: queue

/-- `sctp_clean_up_datalist`: the chunk `i` of the chunks that are not sent yet is sent. -/
def sctpCleanUpDatalist (i : Nat) (s : Sender) : Option (Tsn × Sender) :=
  s.sendQueue[i]?.map fun tsn =>
    (tsn, { s with
      sendQueue := s.sendQueue.eraseIdx i
      sentQueue := (insertBack ⟨tsn, sctpDatagramSent⟩ s.sentQueue.reverse).reverse })

/-- `sctp_chunk_retransmission`: the sent chunk `i` is sent again. -/
def sctpChunkRetransmission (i : Nat) (s : Sender) : Option (Tsn × Sender) :=
  (s.sentQueue[i]?.filter (·.sent = sctpDatagramResend)).map fun c =>
    (c.tsn, { s with
      sentQueue := s.sentQueue.modify i fun c => { c with sent := sctpDatagramSent } })

/-! ## Chunks seem lost -/

/-- A chunk on the queue is not after `last_acked_seq`. -/
def Sender.outOfOrder (s : Sender) : Bool := s.sentQueue.any fun c => tsnGe s.lastAckedSeq c.tsn

/-- `sctp_recover_sent_list`. -/
def sctpRecoverSentList (s : Sender) : Sender :=
  { s with
    sentQueue := s.sentQueue.filter fun c => !tsnGe s.lastAckedSeq c.tsn
    freed := ((s.sentQueue.filter fun c => tsnGe s.lastAckedSeq c.tsn).map (·.tsn)).reverse ++
      s.freed }

/-- `sctp_mark_all_for_resend`; `late` are the chunks that were sent to the address long enough
ago. -/
def sctpMarkAllForResend (late : List Tsn) (s : Sender) : Sender :=
  let s := if s.outOfOrder then sctpRecoverSentList s else s
  { s with
    sentQueue := s.sentQueue.map fun c =>
      if late.contains c.tsn ∧ c.sent < sctpDatagramAcked then { c with sent := sctpDatagramResend }
      else c }

/-- `sctp_strike_gap_ack_chunks`; `struck` are the chunks that a SACK reports as missing. -/
def sctpStrikeGapAckChunks (struck : List Tsn) (s : Sender) : Sender :=
  { s with
    sentQueue := s.sentQueue.map fun c =>
      if struck.contains c.tsn ∧ c.sent ≠ sctpDatagramUnsent ∧ c.sent < sctpDatagramResend then
        { c with sent := c.sent + 1 }
      else c }

/-- The sender's side of a new association. -/
def Sender.new (initialTsn : Tsn) : Sender where
  sendQueue := []
  sentQueue := []
  sendingSeq := initialTsn
  lastAckedSeq := initialTsn - 1
  sawSackWithFrags := false
  freed := []

/-! ## The numbers of a sender -/

/-- The numbers of the chunks on the two queues, of the next chunk and of the last that was
acknowledged. -/
structure Sending where
  unsent : List Nat
  sent : List Nat
  next : Nat
  acked : Nat

/-- The chunk was sent. -/
def Sending.Transmitted (k : Sending) (n : Nat) : Prop := n ≤ k.acked ∨ n ∈ k.sent

/-- The chunks up to `c` are acknowledged. -/
def Sending.ackTo (k : Sending) (c : Nat) : Sending :=
  { k with sent := k.sent.filter (c < ·), acked := max k.acked c }

/-- The most chunks that are not acknowledged. -/
def window : Nat := 2 ^ 28

/-- The chunk has the number, and it is acknowledged only if `Got` holds of the number. -/
structure ChunkRep (z : Tsn) (Got : Nat → Prop) (chunk : TmitChunk) (n : Nat) : Prop where
  tsn : chunk.tsn = wrap z n
  sent : chunk.sent ≠ sctpDatagramUnsent
  got : sctpDatagramAcked ≤ chunk.sent → Got n

/-- The state of a sender whose chunk number `n` has the TSN `wrap z n`; `Got` are the chunks that
the peer has got. -/
structure SenderRep (z : Tsn) (Got : Nat → Prop) (s : Sender) (k : Sending) : Prop where
  sendQueue : s.sendQueue = k.unsent.map (wrap z)
  sentQueue : List.Forall₂ (ChunkRep z Got) s.sentQueue k.sent
  sendingSeq : s.sendingSeq = wrap z k.next
  lastAckedSeq : s.lastAckedSeq = wrap z k.acked
  freed : s.freed = ((List.range' 1 k.acked).map (wrap z)).reverse
  nodup : k.unsent.Nodup
  sorted : k.sent.Pairwise (· < ·)
  apart : ∀ n ∈ k.unsent, n ∉ k.sent
  mem_iff : ∀ n, (n ∈ k.unsent ∨ n ∈ k.sent) ↔ k.acked < n ∧ n < k.next
  acked_lt : k.acked < k.next
  next_le : k.next ≤ k.acked + 1 + window

variable {z : Tsn} {Got Got' : Nat → Prop} {s : Sender} {k : Sending} {c n i : Nat}
  {queue : List TmitChunk} {ks : List Nat}

theorem ChunkRep.mono {chunk : TmitChunk} (h : ChunkRep z Got chunk n)
    (hgot : ∀ n, Got n → Got' n) : ChunkRep z Got' chunk n :=
  ⟨h.tsn, h.sent, fun ha => hgot n (h.got ha)⟩

/-- A chunk that is not acknowledged. -/
theorem ChunkRep.of_lt {chunk : TmitChunk} (htsn : chunk.tsn = wrap z n)
    (hsent : sctpDatagramUnsent < chunk.sent ∧ chunk.sent < sctpDatagramAcked) :
    ChunkRep z Got chunk n :=
  ⟨htsn, Nat.ne_of_gt hsent.1, fun ha => absurd hsent.2 (Nat.not_lt_of_le ha)⟩

theorem sent_lt_acked :
    sctpDatagramUnsent < sctpDatagramSent ∧ sctpDatagramSent < sctpDatagramAcked := by decide

theorem resend_lt_acked :
    sctpDatagramUnsent < sctpDatagramResend ∧ sctpDatagramResend < sctpDatagramAcked := by decide

theorem ChunkRep.ack {chunk : TmitChunk} (h : ChunkRep z Got chunk n) (hn : Got n) :
    ChunkRep z Got chunk.ack n := by
  rw [TmitChunk.ack]
  split
  · exact h
  · exact ⟨h.tsn, (by decide : sctpDatagramAcked ≠ sctpDatagramUnsent), fun _ => hn⟩

theorem ChunkRep.mark {chunk : TmitChunk} (h : ChunkRep z Got chunk n) (hn : Got n) :
    ChunkRep z Got chunk.mark n := by
  rw [TmitChunk.mark]
  split
  · exact h
  · exact ⟨h.tsn, (by decide : sctpDatagramMarked ≠ sctpDatagramUnsent), fun _ => hn⟩

/-- A chunk that is taken back is not acknowledged any more. -/
theorem ChunkRep.revoke {chunk : TmitChunk} (h : ChunkRep z Got chunk n) :
    ChunkRep z Got chunk.revoke n := by
  rw [TmitChunk.revoke]
  split
  · exact .of_lt h.tsn sent_lt_acked
  · split
    · rename_i hmarked
      exact ⟨h.tsn, (by decide : sctpDatagramAcked ≠ sctpDatagramUnsent),
        fun _ => h.got (by rw [hmarked]; decide)⟩
    · exact h

/-- The chunks of the queue have the numbers, and the acknowledged ones are got. -/
abbrev QueueRep (z : Tsn) (Got : Nat → Prop) : List TmitChunk → List Nat → Prop :=
  List.Forall₂ (ChunkRep z Got)

namespace QueueRep

theorem tsns (h : QueueRep z Got queue ks) : queue.map (·.tsn) = ks.map (wrap z) := by
  induction h with
  | nil => rfl
  | cons hchunk _ ih => rw [List.map_cons, List.map_cons, hchunk.tsn, ih]

theorem numbered (h : QueueRep z Got queue ks) (hsorted : ks.Pairwise (· < ·)) :
    Numbered z queue ks :=
  ⟨h.tsns, hsorted⟩

theorem map {R S : TmitChunk → Nat → Prop} (h : List.Forall₂ R queue ks)
    {f : TmitChunk → TmitChunk} (hf : ∀ chunk n, n ∈ ks → R chunk n → S (f chunk) n) :
    List.Forall₂ S (queue.map f) ks := by
  induction h with
  | nil => exact .nil
  | cons hchunk _ ih =>
    exact .cons (hf _ _ List.mem_cons_self hchunk) (ih fun chunk n hn => hf chunk n (.tail _ hn))

theorem imp {R S : TmitChunk → Nat → Prop} (h : List.Forall₂ R queue ks)
    (hf : ∀ chunk n, n ∈ ks → R chunk n → S chunk n) : List.Forall₂ S queue ks :=
  List.map_id queue ▸ map h hf

/-- The chunks up to the cumulative TSN are at the head of the queue. -/
theorem split {R : TmitChunk → Nat → Prop} (h : List.Forall₂ R queue ks)
    (hsorted : ks.Pairwise (· < ·)) {past : TmitChunk → Bool}
    (hpast : ∀ chunk n, n ∈ ks → R chunk n → past chunk = decide (n ≤ c)) :
    List.Forall₂ R (queue.takeWhile past) (ks.filter (· ≤ c)) ∧
      List.Forall₂ R (queue.dropWhile past) (ks.filter (c < ·)) := by
  induction h with
  | nil => exact ⟨.nil, .nil⟩
  | @cons chunk n queue ks hchunk hrest ih =>
    obtain ⟨hlt, hsorted⟩ := List.pairwise_cons.mp hsorted
    rw [List.takeWhile_cons, List.dropWhile_cons, hpast chunk n List.mem_cons_self hchunk]
    by_cases hn : n ≤ c
    · obtain ⟨htake, hdrop⟩ := ih hsorted fun chunk n hn => hpast chunk n (.tail _ hn)
      rw [decide_eq_true hn, if_pos rfl, if_pos rfl,
        List.filter_cons_of_pos (by simpa using hn), List.filter_cons_of_neg (by simpa using hn)]
      exact ⟨.cons hchunk htake, hdrop⟩
    · have hall : ∀ m ∈ n :: ks, c < m := fun m hm => by
        rcases List.mem_cons.mp hm with rfl | hm
        · exact Nat.lt_of_not_le hn
        · exact Nat.lt_trans (Nat.lt_of_not_le hn) (hlt m hm)
      rw [decide_eq_false hn, if_neg Bool.false_ne_true, if_neg Bool.false_ne_true,
        List.filter_eq_nil_iff.mpr fun m hm => by simpa using hall m hm,
        List.filter_eq_self.mpr fun m hm => by simpa using hall m hm]
      exact ⟨.nil, .cons hchunk hrest⟩

theorem ackUpTo (h : QueueRep z Got queue ks) {lastTsn : Tsn}
    (hgot : ∀ chunk n, n ∈ ks → ChunkRep z Got chunk n → tsnGe lastTsn chunk.tsn = true → Got n) :
    QueueRep z Got (Sender.ackUpTo lastTsn queue) ks := by
  induction h with
  | nil => exact .nil
  | @cons chunk n queue ks hchunk hrest ih =>
    rw [Sender.ackUpTo, List.takeWhile_cons, List.dropWhile_cons]
    cases hge : tsnGe lastTsn chunk.tsn with
    | false => exact .cons hchunk hrest
    | true =>
      have hn := hgot chunk n List.mem_cons_self hchunk hge
      exact .cons (hchunk.ack hn) (ih fun chunk n hn => hgot chunk n (.tail _ hn))

theorem checkForRevoked (h : QueueRep z Got queue ks) (cumack biggest : Tsn) :
    QueueRep z Got (sctpCheckForRevoked cumack biggest queue) ks := by
  induction h with
  | nil => exact .nil
  | @cons chunk n queue ks hchunk hrest ih =>
    have hrevoke : ChunkRep z Got (if tsnGt chunk.tsn cumack then chunk.revoke else chunk) n := by
      split
      · exact hchunk.revoke
      · exact hchunk
    rw [sctpCheckForRevoked]
    generalize (if tsnGt chunk.tsn cumack then chunk.revoke else chunk) = chunk' at hrevoke
    split
    · exact .cons hchunk hrest
    · simp only
      split
      · exact .cons hrevoke hrest
      · exact .cons hrevoke ih

theorem handleSegments (h : QueueRep z Got queue ks) (hsorted : ks.Pairwise (· < ·))
    (hk : ∀ x < 2 ^ 16, Around (c + x) ks) {frags : List GapAckBlock}
    (hgot : ∀ frag ∈ frags, ∀ n, Within c n frag → Got n) :
    QueueRep z Got (sctpHandleSegments (wrap z c) frags queue).1 ks := by
  rw [handleSegments_eq (h.numbered hsorted) hk]
  refine map h fun chunk n hn hchunk => ?_
  rw [markIf, hchunk.tsn]
  split
  · rename_i hreported
    obtain ⟨frag, hfrag, hwithin⟩ :=
      (reported_iff_within (fun x hx => hk x hx n hn) frags).mp hreported
    exact hchunk.mark (hgot frag hfrag n hwithin)
  · exact hchunk

theorem exists_number (h : QueueRep z Got queue ks) {chunk : TmitChunk} (hc : chunk ∈ queue) :
    ∃ n ∈ ks, ChunkRep z Got chunk n := by
  induction h with
  | nil => cases hc
  | cons hchunk _ ih =>
    rcases List.mem_cons.mp hc with rfl | hc
    · exact ⟨_, List.mem_cons_self, hchunk⟩
    · obtain ⟨n, hn, hrep⟩ := ih hc
      exact ⟨n, .tail _ hn, hrep⟩

theorem modify (h : QueueRep z Got queue ks) {f : TmitChunk → TmitChunk}
    (hf : ∀ chunk n, ChunkRep z Got chunk n → ChunkRep z Got (f chunk) n) (i : Nat) :
    QueueRep z Got (queue.modify i f) ks := by
  induction h generalizing i with
  | nil =>
    rw [List.modify_nil]
    exact .nil
  | cons hchunk hrest ih =>
    cases i with
    | zero =>
      rw [List.modify_zero_cons]
      exact .cons (hf _ _ hchunk) hrest
    | succ i =>
      rw [List.modify_succ_cons]
      exact .cons hchunk (ih i)

/-- A new chunk goes to its place; both lists are reversed. -/
theorem insertBack (h : QueueRep z Got queue ks) (hsorted : ks.Pairwise (· > ·)) {chunk : TmitChunk}
    (hchunk : ChunkRep z Got chunk n) (hnew : n ∉ ks)
    (hnear : ∀ m ∈ ks, m < n + 2 ^ 31 ∧ n < m + 2 ^ 31) :
    ∃ ks', QueueRep z Got (insertBack chunk queue) ks' ∧ ks'.Pairwise (· > ·) ∧
      ∀ m, m ∈ ks' ↔ m = n ∨ m ∈ ks := by
  induction h with
  | nil =>
    refine ⟨[n], .cons hchunk .nil, List.pairwise_singleton .., fun m => ?_⟩
    rw [List.mem_singleton, or_iff_left List.not_mem_nil]
  | @cons tp1 m queue ks htp1 hrest ih =>
    obtain ⟨hlt, hrestSorted⟩ := List.pairwise_cons.mp hsorted
    obtain ⟨hm, hm'⟩ := hnear m List.mem_cons_self
    have hne : m ≠ n := fun heq => hnew (heq ▸ List.mem_cons_self)
    rw [MappingArray.insertBack, htp1.tsn, hchunk.tsn, tsnGt_wrap z hm hm']
    by_cases hback : n < m
    · obtain ⟨ks', hks', hsorted', hmem⟩ := ih hrestSorted (fun hn => hnew (.tail _ hn))
        fun m hm => hnear m (.tail _ hm)
      rw [decide_eq_true hback, if_pos rfl]
      refine ⟨m :: ks', .cons htp1 hks', List.pairwise_cons.mpr ⟨fun d hd => ?_, hsorted'⟩, ?_⟩
      · rcases (hmem d).mp hd with rfl | hd
        · exact hback
        · exact hlt d hd
      · intro d
        rw [List.mem_cons, List.mem_cons, hmem, or_left_comm]
    · rw [decide_eq_false hback, if_neg Bool.false_ne_true]
      have hgt : m < n := by omega
      refine ⟨n :: m :: ks, .cons hchunk (.cons htp1 hrest),
        List.pairwise_cons.mpr ⟨fun d hd => ?_, hsorted⟩, fun d => List.mem_cons⟩
      rcases List.mem_cons.mp hd with rfl | hd
      · exact hgt
      · exact Nat.lt_trans (hlt d hd) hgt

end QueueRep

/-! ## Exactly what the peer has got -/

/-- The chunk is acknowledged exactly if the peer has got it. -/
def Exact (Got : Nat → Prop) (chunk : TmitChunk) (n : Nat) : Prop :=
  sctpDatagramAcked ≤ chunk.sent ↔ Got n

/-- The chunk is marked if the peer has got it, and else not acknowledged. -/
structure Marked (Got : Nat → Prop) (chunk : TmitChunk) (n : Nat) : Prop where
  marked : Got n → sctpDatagramMarked ≤ chunk.sent
  unmarked : ¬ Got n → chunk.sent < sctpDatagramAcked

theorem Marked.exact {chunk : TmitChunk} (h : Marked Got chunk n) : Exact Got chunk n := by
  constructor
  · intro ha
    by_contra hn
    exact Nat.not_lt_of_le ha (h.unmarked hn)
  · exact fun hn => Nat.le_trans (by decide) (h.marked hn)

/-- No chunk is taken back that was marked. -/
theorem Marked.revoke {chunk : TmitChunk} (h : Marked Got chunk n) :
    Exact Got chunk.revoke n := by
  rw [TmitChunk.revoke]
  split
  · rename_i hacked
    refine iff_of_false (by decide : ¬ sctpDatagramAcked ≤ sctpDatagramSent) fun hn => ?_
    have := h.marked hn
    rw [hacked] at this
    exact absurd this (by decide)
  · split
    · rename_i hmarked
      refine iff_of_true (Nat.le_refl sctpDatagramAcked) ?_
      by_contra hn
      have := h.unmarked hn
      rw [hmarked] at this
      exact absurd this (by decide)
    · exact h.exact

theorem ChunkRep.marked {chunk : TmitChunk} (h : ChunkRep z Got chunk n) {reported : Bool}
    (hreported : reported = true ↔ Got n) :
    Marked Got (if reported then chunk.mark else chunk) n := by
  cases reported with
  | false =>
    have hn : ¬ Got n := fun hn => Bool.false_ne_true (hreported.mpr hn)
    exact ⟨fun hgot => absurd hgot hn, fun _ => Nat.lt_of_not_le fun ha => hn (h.got ha)⟩
  | true =>
    refine ⟨fun _ => ?_, fun hn => absurd (hreported.mp rfl) hn⟩
    rw [if_pos rfl, TmitChunk.mark]
    split
    · rename_i hsent
      rcases hsent with hsent | hsent | hsent
      · exact absurd hsent h.sent
      · rw [hsent]; decide
      · rw [hsent]; decide
    · exact Nat.le_refl sctpDatagramMarked

namespace QueueRep

theorem exact_of_none (h : QueueRep z Got queue ks) (hnone : ∀ n ∈ ks, ¬ Got n) :
    List.Forall₂ (Exact Got) queue ks :=
  imp h fun _ n hn hchunk => iff_of_false (fun ha => hnone n hn (hchunk.got ha)) (hnone n hn)

theorem checkForRevoked_exact (h : List.Forall₂ (Marked Got) queue ks) (cumack biggest : Tsn) :
    List.Forall₂ (Exact Got) (sctpCheckForRevoked cumack biggest queue) ks := by
  induction h with
  | nil => exact .nil
  | @cons chunk n queue ks hchunk hrest ih =>
    have hrevoke : Exact Got (if tsnGt chunk.tsn cumack then chunk.revoke else chunk) n := by
      split
      · exact hchunk.revoke
      · exact hchunk.exact
    have hexact := hrest.imp fun _ _ hchunk => hchunk.exact
    rw [sctpCheckForRevoked]
    generalize (if tsnGt chunk.tsn cumack then chunk.revoke else chunk) = chunk' at hrevoke
    split
    · exact .cons hchunk.exact hexact
    · simp only
      split
      · exact .cons hrevoke hexact
      · exact .cons hrevoke ih

/-- The blocks that report all chunks that the peer has got mark these. -/
theorem handleSegments_marked (h : QueueRep z Got queue ks) (hsorted : ks.Pairwise (· < ·))
    (hk : ∀ x < 2 ^ 16, Around (c + x) ks) {frags : List GapAckBlock}
    (hgot : ∀ frag ∈ frags, ∀ n, Within c n frag → Got n)
    (hall : ∀ n ∈ ks, c < n → Got n → ∃ frag ∈ frags, Within c n frag) :
    List.Forall₂ (fun chunk n => chunk.tsn = wrap z n ∧ (c < n → Marked Got chunk n))
      (sctpHandleSegments (wrap z c) frags queue).1 ks := by
  rw [handleSegments_eq (h.numbered hsorted) hk]
  refine map h fun chunk n hn hchunk => ⟨(markIf_tsn _ chunk).trans hchunk.tsn, fun hlt => ?_⟩
  rw [markIf, hchunk.tsn]
  refine hchunk.marked ((reported_iff_within (fun x hx => hk x hx n hn) frags).trans ?_)
  refine ⟨fun hreported => ?_, hall n hn hlt⟩
  obtain ⟨frag, hfrag, hwithin⟩ := hreported
  exact hgot frag hfrag n hwithin

end QueueRep

/-! ## Every step of the sender -/

namespace SenderRep

theorem mono (h : SenderRep z Got s k) (hgot : ∀ n, Got n → Got' n) : SenderRep z Got' s k :=
  { h with sentQueue := h.sentQueue.imp fun _ _ hchunk => hchunk.mono hgot }

theorem sent_lt (h : SenderRep z Got s k) (hn : n ∈ k.sent) : k.acked < n ∧ n < k.next :=
  (h.mem_iff n).mp (.inr hn)

theorem unsent_lt (h : SenderRep z Got s k) (hn : n ∈ k.unsent) : k.acked < n ∧ n < k.next :=
  (h.mem_iff n).mp (.inl hn)

theorem lt_next (h : SenderRep z Got s k) (hn : k.Transmitted n) : n < k.next :=
  hn.elim (fun hle => Nat.lt_of_le_of_lt hle h.acked_lt) fun hn => (h.sent_lt hn).2

/-- A change of `sent` that acknowledges no chunk. -/
theorem map (h : SenderRep z Got s k) {f : TmitChunk → TmitChunk}
    (hf : ∀ chunk n, ChunkRep z Got chunk n → ChunkRep z Got (f chunk) n) :
    SenderRep z Got { s with sentQueue := s.sentQueue.map f } k :=
  { h with sentQueue := QueueRep.map h.sentQueue fun chunk n _ => hf chunk n }

theorem moveToOutqueue (h : SenderRep z Got s k) (hroom : k.next ≤ k.acked + window) :
    SenderRep z Got (sctpMoveToOutqueue s)
      { k with unsent := k.unsent ++ [k.next], next := k.next + 1 } := by
  have hnew : k.next ∉ k.unsent := fun hn => Nat.lt_irrefl _ (h.unsent_lt hn).2
  exact
    { h with
      sendQueue := by rw [sctpMoveToOutqueue, h.sendQueue, h.sendingSeq, List.map_append]; rfl
      sendingSeq := by rw [sctpMoveToOutqueue, h.sendingSeq, Serial.wrap_succ]
      nodup := List.nodup_append'.mpr ⟨h.nodup, List.nodup_singleton _, by simpa using hnew⟩
      apart := fun n hn hn' => by
        rcases List.mem_append.mp hn with hn | hn
        · exact h.apart n hn hn'
        · rw [List.mem_singleton.mp hn] at hn'
          exact Nat.lt_irrefl _ (h.sent_lt hn').2
      mem_iff := fun n => by
        rw [List.mem_append, List.mem_singleton, or_right_comm, h.mem_iff]
        have := h.acked_lt
        simp only
        omega
      acked_lt := Nat.lt_succ_of_lt h.acked_lt
      next_le := by simp only; omega }

theorem exists_unsent (h : SenderRep z Got s k) {tsn : Tsn} (hi : s.sendQueue[i]? = some tsn) :
    ∃ n ∈ k.unsent, tsn = wrap z n ∧ s.sendQueue.eraseIdx i = (k.unsent.erase n).map (wrap z) := by
  rw [h.sendQueue, List.getElem?_map] at hi
  obtain ⟨n, hn, rfl⟩ := Option.map_eq_some_iff.mp hi
  obtain ⟨hlt, rfl⟩ := List.getElem?_eq_some_iff.mp hn
  exact ⟨_, List.getElem_mem hlt, rfl,
    by rw [h.sendQueue, List.eraseIdx_map, h.nodup.erase_getElem i hlt]⟩

theorem cleanUpDatalist (h : SenderRep z Got s k) {tsn : Tsn} {s' : Sender}
    (hs : sctpCleanUpDatalist i s = some (tsn, s')) :
    ∃ n k', SenderRep z Got s' k' ∧ tsn = wrap z n ∧ n ∈ k'.sent ∧
      (∀ m, k.Transmitted m → k'.Transmitted m) ∧ k'.next = k.next ∧ k'.acked = k.acked := by
  obtain ⟨tsn, hi, heq⟩ := Option.map_eq_some_iff.mp hs
  cases heq
  obtain ⟨n, hn, rfl, herase⟩ := h.exists_unsent hi
  have hlt := h.unsent_lt hn
  have hnext := h.next_le
  simp only [window] at hnext
  have hchunk : ChunkRep z Got ⟨wrap z n, sctpDatagramSent⟩ n := .of_lt rfl sent_lt_acked
  obtain ⟨ks', hqueue, hsorted, hmem⟩ := QueueRep.insertBack
    (List.forall₂_reverse_iff.mpr h.sentQueue) (List.pairwise_reverse.mpr h.sorted) hchunk
    (fun hn' => h.apart n hn (List.mem_reverse.mp hn')) fun m hm => by
      have := h.sent_lt (List.mem_reverse.mp hm)
      omega
  simp only [List.mem_reverse] at hmem
  have hmem' : ∀ m, m ∈ ks'.reverse ↔ m = n ∨ m ∈ k.sent := fun m => by
    rw [List.mem_reverse, hmem]
  refine ⟨n, { k with unsent := k.unsent.erase n, sent := ks'.reverse }, ?_, rfl,
    (hmem' n).mpr (.inl rfl), fun m hm => hm.imp_right fun hm => (hmem' m).mpr (.inr hm),
    rfl, rfl⟩
  exact
    { h with
      sendQueue := herase
      sentQueue := List.forall₂_reverse_iff.mpr hqueue
      nodup := h.nodup.erase n
      sorted := List.pairwise_reverse.mpr hsorted
      apart := fun m hm hm' => by
        obtain ⟨hne, hm⟩ := h.nodup.mem_erase_iff.mp hm
        exact ((hmem' m).mp hm').elim hne (h.apart m hm)
      mem_iff := fun m => by
        rw [h.nodup.mem_erase_iff, hmem', ← h.mem_iff m]
        by_cases heq : m = n
        · simp [heq, hn]
        · simp [heq] }

theorem chunkRetransmission (h : SenderRep z Got s k) {tsn : Tsn} {s' : Sender}
    (hs : sctpChunkRetransmission i s = some (tsn, s')) :
    ∃ n ∈ k.sent, tsn = wrap z n ∧ SenderRep z Got s' k := by
  obtain ⟨chunk, hchunk, heq⟩ := Option.map_eq_some_iff.mp hs
  cases heq
  obtain ⟨hi, -⟩ := Option.filter_eq_some_iff.mp hchunk
  obtain ⟨n, hn, hrep⟩ := QueueRep.exists_number h.sentQueue (List.mem_of_getElem? hi)
  refine ⟨n, hn, hrep.tsn, { h with sentQueue := QueueRep.modify h.sentQueue ?_ i }⟩
  exact fun chunk n hchunk => .of_lt hchunk.tsn sent_lt_acked

/-- **The list never gets out of order**, so `sctp_recover_sent_list` never finds a chunk. -/
theorem inOrder (h : SenderRep z Got s k) : s.outOfOrder = false := by
  refine List.any_eq_false.mpr fun chunk hchunk => ?_
  obtain ⟨n, hn, hrep⟩ := QueueRep.exists_number h.sentQueue hchunk
  have hlt := h.sent_lt hn
  have hnext := h.next_le
  simp only [window] at hnext
  rw [h.lastAckedSeq, hrep.tsn, tsnGe_wrap z (by omega) (by omega), decide_eq_true_eq]
  omega

theorem markAllForResend (h : SenderRep z Got s k) (late : List Tsn) :
    SenderRep z Got (sctpMarkAllForResend late s) k := by
  rw [sctpMarkAllForResend, h.inOrder, if_neg Bool.false_ne_true]
  refine h.map fun chunk n hchunk => ?_
  split
  · exact .of_lt hchunk.tsn resend_lt_acked
  · exact hchunk

theorem strikeGapAckChunks (h : SenderRep z Got s k) (struck : List Tsn) :
    SenderRep z Got (sctpStrikeGapAckChunks struck s) k := by
  refine h.map fun chunk n hchunk => ?_
  split
  · rename_i hstruck
    exact .of_lt hchunk.tsn ⟨Nat.succ_pos _, Nat.lt_of_le_of_lt hstruck.2.2 (by decide)⟩
  · exact hchunk

/-! ### A SACK arrives -/

/-- The TSN after the last one that was sent is after all chunks that were sent. -/
theorem sendS_eq (h : SenderRep z Got s k) :
    ∃ m, s.sendS = wrap z m ∧ k.acked < m ∧ m ≤ k.next ∧ ∀ n, k.Transmitted n → n < m := by
  have hlast : s.sentQueue.getLast?.map (·.tsn) = k.sent.getLast?.map (wrap z) := by
    rw [← List.getLast?_map, ← List.getLast?_map, QueueRep.tsns h.sentQueue]
  rw [Sender.sendS]
  cases hsent : k.sent.getLast? with
  | none =>
    rw [hsent, Option.map_none, Option.map_eq_none_iff] at hlast
    refine ⟨k.next, ?_, h.acked_lt, Nat.le_refl _, fun n hn => h.lt_next hn⟩
    rw [hlast]
    exact h.sendingSeq
  | some m =>
    rw [hsent, Option.map_some, Option.map_eq_some_iff] at hlast
    obtain ⟨chunk, hchunk, htsn⟩ := hlast
    obtain ⟨init, hinit⟩ := List.getLast?_eq_some_iff.mp hsent
    have hm := h.sent_lt (hinit ▸ List.mem_concat_self)
    refine ⟨m + 1, ?_, Nat.lt_succ_of_lt hm.1, hm.2, ?_⟩
    · rw [hchunk, Serial.wrap_succ, ← htsn]
    · rintro n (hn | hn)
      · exact Nat.lt_succ_of_le (Nat.le_trans hn (Nat.le_of_lt hm.1))
      · have hsorted := hinit ▸ h.sorted
        rw [hinit] at hn
        rcases List.mem_append.mp hn with hn | hn
        · exact Nat.lt_succ_of_lt
            ((List.pairwise_append.mp hsorted).2.2 n hn m (List.mem_singleton_self m))
        · exact List.mem_singleton.mp hn ▸ Nat.lt_succ_self m

/-- A SACK that reports only chunks that were sent does not abort the association. -/
theorem not_ge_sendS (h : SenderRep z Got s k) (hc : k.Transmitted n) (hold : k.next < n + 2 ^ 30) :
    tsnGe (wrap z n) s.sendS = false := by
  obtain ⟨m, hm, hacked, hle, hsent⟩ := h.sendS_eq
  have hlt := hsent n hc
  rw [hm, tsnGe_wrap z (by omega) (by omega)]
  exact decide_eq_false (Nat.not_le_of_lt hlt)

/-- No block reaches beyond the chunks that were sent. -/
theorem biggest_not_ge_sendS (h : SenderRep z Got s k) (hgot : ∀ n, Got n → k.Transmitted n)
    (hc : k.Transmitted c) (hold : k.next < c + 2 ^ 30) {frags : List GapAckBlock}
    (hgaps : ∀ frag ∈ frags, ∀ n, Within c n frag → Got n) (queue : List TmitChunk) :
    tsnGe (sctpHandleSegments (wrap z c) frags queue).2 s.sendS = false := by
  rw [sctpHandleSegments]
  rcases handleSegments_biggest (wrap z c) frags 0 0 (wrap z c) queue with
    heq | ⟨frag, hfrag, hle, heq⟩
  · rw [heq]
    exact h.not_ge_sendS hc hold
  · have hn : Got (c + frag.2.toNat) := hgaps frag hfrag _ ⟨by omega, Nat.le_refl _⟩
    rw [heq, ← Serial.wrap_add]
    exact h.not_ge_sendS (hgot _ hn) (by omega)

theorem tsnGe_eq (h : SenderRep z Got s k) (hc : k.Transmitted c) (hold : k.next < c + 2 ^ 30)
    (hn : n ∈ k.sent) : tsnGe (wrap z c) (wrap z n) = decide (n ≤ c) := by
  have hlt := h.lt_next hc
  have hnext := h.next_le
  have hsent := h.sent_lt hn
  simp only [window] at hnext
  exact tsnGe_wrap z (by omega) (by omega)

theorem not_tsnGt_eq (h : SenderRep z Got s k) (hc : k.Transmitted c) (hold : k.next < c + 2 ^ 30)
    (hn : n ∈ k.sent) : (!tsnGt (wrap z n) (wrap z c)) = decide (n ≤ c) := by
  have hlt := h.lt_next hc
  have hnext := h.next_le
  have hsent := h.sent_lt hn
  simp only [window] at hnext
  rw [tsnGt_wrap z (by omega) (by omega), Bool.eq_iff_iff, Bool.not_eq_true',
    decide_eq_false_iff_not, Nat.not_lt, decide_eq_true_eq]

theorem ackTo_eq (h : SenderRep z Got s k) (hc : c ≤ k.acked) : k.ackTo c = k := by
  have hfilter : k.sent.filter (c < ·) = k.sent := List.filter_eq_self.mpr fun n hn =>
    decide_eq_true (Nat.lt_of_le_of_lt hc (h.sent_lt hn).1)
  rw [Sending.ackTo, hfilter, Nat.max_eq_left hc]

/-- The chunks up to the cumulative TSN are removed. -/
theorem free (h : SenderRep z Got s k) (hacked : k.acked ≤ c) (hnext : c < k.next)
    (hsent : ∀ n, k.acked < n → n ≤ c → n ∈ k.sent) {past : TmitChunk → Bool}
    (hpast : ∀ chunk n, n ∈ k.sent → chunk.tsn = wrap z n → past chunk = decide (n ≤ c)) :
    SenderRep z Got { s.free past with lastAckedSeq := wrap z c } (k.ackTo c) := by
  obtain ⟨htake, hdrop⟩ := QueueRep.split h.sentQueue h.sorted fun chunk n hn hchunk =>
    hpast chunk n hn hchunk.tsn
  have hrange : k.sent.filter (· ≤ c) = List.range' (1 + k.acked) (c - k.acked) := by
    refine (h.sorted.filter _).eq_of_mem_iff List.pairwise_lt_range' fun n => ?_
    rw [List.mem_filter, List.mem_range'_1, decide_eq_true_eq]
    constructor
    · rintro ⟨hn, hle⟩
      have := (h.sent_lt hn).1
      omega
    · rintro ⟨hlt, hle⟩
      exact ⟨hsent n (by omega) (by omega), by omega⟩
  have hfreed : List.range' 1 k.acked ++ List.range' (1 + k.acked) (c - k.acked) =
      List.range' 1 c := by
    rw [List.range'_append_1, Nat.add_sub_cancel' hacked]
  exact
    { h with
      sentQueue := hdrop
      lastAckedSeq := by rw [Sending.ackTo, Nat.max_eq_right hacked]
      freed := by
        rw [Sending.ackTo, Nat.max_eq_right hacked, ← hfreed, List.map_append, List.reverse_append,
          ← hrange, ← QueueRep.tsns htake, ← h.freed]
        rfl
      sorted := h.sorted.filter _
      apart := fun n hn hn' => h.apart n hn (List.mem_of_mem_filter hn')
      mem_iff := fun n => by
        simp only [Sending.ackTo, List.mem_filter, decide_eq_true_eq, Nat.max_eq_right hacked]
        constructor
        · rintro (hn | ⟨hn, hlt⟩)
          · have hlt := h.unsent_lt hn
            refine ⟨Nat.lt_of_not_le fun hle => h.apart n hn (hsent n hlt.1 hle), hlt.2⟩
          · exact ⟨hlt, (h.sent_lt hn).2⟩
        · rintro ⟨hlt, hn⟩
          exact ((h.mem_iff n).mpr ⟨by omega, hn⟩).imp_right fun hn => ⟨hn, hlt⟩
      acked_lt := Nat.max_lt.mpr ⟨h.acked_lt, hnext⟩
      next_le := by
        have := h.next_le
        simp only [Sending.ackTo]
        omega }

theorem checkRevoked (h : SenderRep z Got s k) (cumAck biggest : Tsn) (frags : List GapAckBlock) :
    SenderRep z Got (s.checkRevoked cumAck biggest frags) k := by
  rw [Sender.checkRevoked]
  split
  · exact { h with sentQueue := QueueRep.checkForRevoked h.sentQueue cumAck biggest }
  split
  · have hrep := h.map (f := fun chunk =>
      if chunk.sent = sctpDatagramAcked then { chunk with sent := sctpDatagramSent } else chunk)
      fun chunk n hchunk => by
        split
        · exact .of_lt hchunk.tsn sent_lt_acked
        · exact hchunk
    exact { hrep with }
  · exact h

/-- What is left after a SACK: the chunks after the cumulative TSN. If its blocks report all of
them that the peer has got, they are acknowledged exactly if the peer has got them. -/
structure Acknowledged (z : Tsn) (Got : Nat → Prop) (k : Sending) (c : Nat)
    (frags : List GapAckBlock) (s' : Sender) : Prop where
  rep : SenderRep z Got s' (k.ackTo c)
  exact : k.acked ≤ c → (∀ n ∈ k.sent, c < n → Got n → ∃ frag ∈ frags, Within c n frag) →
    List.Forall₂ (Exact Got) s'.sentQueue (k.ackTo c).sent

theorem Acknowledged.of_none {s' : Sender} (h : SenderRep z Got s' (k.ackTo c)) :
    Acknowledged z Got k c [] s' := by
  refine ⟨h, fun _ hall => QueueRep.exact_of_none h.sentQueue fun n hn hgot => ?_⟩
  obtain ⟨hn, hlt⟩ := List.mem_filter.mp hn
  obtain ⟨frag, hfrag, -⟩ := hall n hn (of_decide_eq_true hlt) hgot
  exact absurd hfrag List.not_mem_nil

theorem expressHandleSack (h : SenderRep z Got s k) (hc : k.Transmitted c)
    (hold : k.next < c + 2 ^ 30) (hsent : ∀ n, k.acked < n → n ≤ c → n ∈ k.sent) :
    ∃ s', sctpExpressHandleSack (wrap z c) s = some s' ∧ SenderRep z Got s' (k.ackTo c) := by
  have hlt := h.lt_next hc
  have hacked := h.acked_lt
  have hnext := h.next_le
  simp only [window] at hnext
  have hne : wrap z k.acked = wrap z c ↔ k.acked = c := wrap_inj z (by omega) (by omega)
  rw [sctpExpressHandleSack, h.lastAckedSeq, h.not_ge_sendS hc hold,
    tsnGt_wrap z (by omega) (by omega), tsnGt_wrap z (by omega) (by omega)]
  by_cases hle : c ≤ k.acked
  · refine ⟨s, ?_, by rwa [h.ackTo_eq hle]⟩
    rcases Nat.lt_or_eq_of_le hle with hlt | rfl
    · rw [decide_eq_true hlt, if_pos rfl]
    · rw [decide_eq_false (Nat.lt_irrefl _), if_neg Bool.false_ne_true, if_pos rfl]
  · rw [decide_eq_false (by omega), if_neg Bool.false_ne_true,
      if_neg fun heq => hle (Nat.le_of_eq (hne.mp heq).symm),
      if_neg Bool.false_ne_true, decide_eq_true (Nat.lt_of_not_le hle), if_pos rfl]
    refine ⟨_, rfl, h.free (by omega) hlt hsent fun chunk n hn htsn => ?_⟩
    rw [htsn, h.tsnGe_eq hc hold hn]

theorem handleSack (h : SenderRep z Got s k) (hgot : ∀ n, Got n → k.Transmitted n)
    (hc : k.Transmitted c) (hold : k.next < c + 2 ^ 30) (hupTo : ∀ n, 0 < n → n ≤ c → Got n)
    {frags : List GapAckBlock} (hgaps : ∀ frag ∈ frags, ∀ n, Within c n frag → Got n)
    (drained : Bool) :
    ∃ s', sctpHandleSack drained (wrap z c) frags s = some s' ∧
      Acknowledged z Got k c frags s' := by
  have hlt := h.lt_next hc
  have hacked := h.acked_lt
  have hnext := h.next_le
  simp only [window] at hnext
  have hsent : ∀ n, k.acked < n → n ≤ c → n ∈ k.sent := fun n hn hle =>
    (hgot n (hupTo n (by omega) hle)).resolve_left (Nat.not_le_of_lt hn)
  have hpast : ∀ (chunk : TmitChunk) n, n ∈ k.sent → chunk.tsn = wrap z n →
      (!tsnGt chunk.tsn (wrap z c)) = decide (n ≤ c) := fun chunk n hn htsn =>
    htsn ▸ h.not_tsnGt_eq hc hold hn
  simp only [sctpHandleSack, h.not_ge_sendS hc hold, if_neg Bool.false_ne_true]
  rw [h.lastAckedSeq, tsnGt_wrap z (by omega) (by omega)]
  by_cases hle : c < k.acked
  · rw [decide_eq_true hle, if_pos rfl]
    exact ⟨s, rfl, by rwa [h.ackTo_eq (Nat.le_of_lt hle)], fun hle' => absurd hle
      (Nat.not_lt_of_le hle')⟩
  rw [decide_eq_false hle, if_neg Bool.false_ne_true]
  by_cases hempty : s.sentQueue = [] ∧ s.sendQueue = [] ∧ drained = true
  · -- nothing was sent since the last acknowledgement
    rw [if_pos hempty]
    have hnil : k.sent = [] := List.forall₂_nil_left_iff.mp (hempty.1 ▸ h.sentQueue)
    have hcum : c ≤ k.acked := hc.elim id fun hmem => absurd (hnil ▸ hmem) List.not_mem_nil
    refine ⟨s, rfl, by rwa [h.ackTo_eq hcum], fun _ _ => ?_⟩
    rw [h.ackTo_eq hcum, hempty.1, hnil]
    exact .nil
  rw [if_neg hempty]
  have hqueue : QueueRep z Got (Sender.ackUpTo (wrap z c) s.sentQueue) k.sent :=
    QueueRep.ackUpTo h.sentQueue fun chunk n hn hchunk hpast => by
      rw [hchunk.tsn, h.tsnGe_eq hc hold hn] at hpast
      exact hupTo n (Nat.lt_of_le_of_lt (Nat.zero_le _) (h.sent_lt hn).1) (of_decide_eq_true hpast)
  -- what the blocks mark, and the biggest TSN in them
  by_cases hfrags : frags = []
  · subst hfrags
    simp only [List.length_nil, Nat.lt_irrefl, gt_iff_lt, if_false, h.not_ge_sendS hc hold,
      Bool.and_false, Bool.false_eq_true]
    have hrep : SenderRep z Got
        { s with sentQueue := Sender.ackUpTo (wrap z c) s.sentQueue } k :=
      { h with sentQueue := hqueue }
    exact ⟨_, rfl, .of_none ((hrep.free (Nat.le_of_not_lt hle) hlt hsent hpast).checkRevoked ..)⟩
  have hpos : frags.length > 0 := List.length_pos_of_ne_nil hfrags
  have hbiggest := h.biggest_not_ge_sendS hgot hc hold hgaps
    (Sender.ackUpTo (wrap z c) s.sentQueue)
  simp only [if_pos hpos, hbiggest, Bool.and_false, if_neg Bool.false_ne_true]
  have hnear : ∀ x < 2 ^ 16, Around (c + x) k.sent := fun x hx n hn => by
    have := h.sent_lt hn
    omega
  have hmarked := QueueRep.handleSegments hqueue h.sorted hnear hgaps
  have hrep : SenderRep z Got { s with sentQueue := (sctpHandleSegments (wrap z c) frags
      (Sender.ackUpTo (wrap z c) s.sentQueue)).1 } k := { h with sentQueue := hmarked }
  refine ⟨_, rfl, (hrep.free (Nat.le_of_not_lt hle) hlt hsent hpast).checkRevoked ..,
    fun _ hall => ?_⟩
  rw [Sender.checkRevoked, if_pos hpos]
  refine QueueRep.checkForRevoked_exact ?_ ..
  simp only [Sender.free]
  have hmarks := QueueRep.handleSegments_marked hqueue h.sorted hnear hgaps hall
  have hdrop := (QueueRep.split hmarks h.sorted fun chunk n hn hchunk =>
    hpast chunk n hn hchunk.1).2
  exact QueueRep.imp hdrop fun chunk n hn hchunk =>
    hchunk.2 (of_decide_eq_true (List.mem_filter.mp hn).2)

end SenderRep

/-- A SACK with the cumulative TSN of the chunk `c`, which reports only what the peer has got. -/
structure Reports (z : Tsn) (Got : Nat → Prop) (sack : Sack) (c : Nat) : Prop where
  cumTsnAck : sack.cumTsnAck = wrap z c
  upTo : ∀ n, 0 < n → n ≤ c → Got n
  gaps : ∀ frag ∈ sack.gapAckBlks, ∀ n, Within c n frag → Got n

/-- **What a SACK does.** -/
theorem SenderRep.processSack {sack : Sack} (h : SenderRep z Got s k)
    (hgot : ∀ n, Got n → k.Transmitted n) (hsack : Reports z Got sack c)
    (hold : k.next < c + 2 ^ 30) (prSctp drained : Bool) :
    ∃ s', processSack prSctp drained sack s = some s' ∧
      Acknowledged z Got k c sack.gapAckBlks s' := by
  have hc : k.Transmitted c := by
    rcases Nat.eq_zero_or_pos c with rfl | hpos
    · exact .inl (Nat.zero_le _)
    · exact hgot c (hsack.upTo c hpos (Nat.le_refl c))
  have hsent : ∀ n, k.acked < n → n ≤ c → n ∈ k.sent := fun n hn hle =>
    (hgot n (hsack.upTo n (by omega) hle)).resolve_left (Nat.not_le_of_lt hn)
  rw [MappingArray.processSack, hsack.cumTsnAck]
  split
  · rename_i hexpress
    have hnil : sack.gapAckBlks = [] := by simp at hexpress; exact hexpress.1.1.1.2
    obtain ⟨s', hs', hrep⟩ := h.expressHandleSack hc hold hsent
    exact ⟨s', hs', hnil ▸ .of_none hrep⟩
  · exact h.handleSack hgot hc hold hsack.upTo hsack.gaps drained

end Sctp4Nat.MappingArray
