import Sctp4Nat.Usrsctp.Sack

/-! # What a SACK does to the queue of sent chunks

The chunks that were sent stay on a queue, in the order of their TSNs, until the cumulative TSN of a
SACK is past them. A chunk in a gap ack block is marked. The source goes through the queue with a
cursor that it takes on from one block to the next; that cursor never misses a chunk
(`handleSegments_eq`). -/

namespace Sctp4Nat.MappingArray

open Serial (wrap)

def sctpDatagramUnsent : Nat := 0
def sctpDatagramSent : Nat := 1
def sctpDatagramResend : Nat := 4
def sctpDatagramAcked : Nat := 10010
def sctpDatagramMarked : Nat := 20010
def sctpForwardTsnSkip : Nat := 30010
def sctpDatagramNrAcked : Nat := 40010

structure TmitChunk where
  tsn : Tsn
  sent : Nat
  deriving DecidableEq

/-- The chunk is in a gap ack block. -/
def TmitChunk.mark (c : TmitChunk) : TmitChunk :=
  if c.sent = sctpDatagramUnsent ∨ c.sent = sctpForwardTsnSkip ∨ c.sent = sctpDatagramNrAcked then c
  else { c with sent := sctpDatagramMarked }

/-- The chunk is up to the cumulative TSN. -/
def TmitChunk.ack (c : TmitChunk) : TmitChunk :=
  if c.sent = sctpDatagramUnsent ∨ c.sent = sctpDatagramNrAcked then c
  else { c with sent := sctpDatagramAcked }

/-! ## Gap ack blocks -/

/-- The queue, the index of the chunk `tp1` in it, and whether `tp1` has been at the end. -/
structure Cursor where
  queue : List TmitChunk
  tp1 : Nat
  circled : Bool

/-- The cursor stops at a chunk that has the TSN or a later one. -/
def stopsAt (theTsn : Tsn) (c : TmitChunk) : Bool := c.tsn = theTsn || tsnGt c.tsn theTsn

/-- The chunk where the cursor stops, which starts again at the first chunk once. -/
def Cursor.seek (k : Cursor) (theTsn : Tsn) : Option Nat × Bool :=
  match (k.queue.drop k.tp1).findIdx? (stopsAt theTsn) with
  | some i => (some (k.tp1 + i), k.circled)
  | none => if k.circled then (none, true) else (k.queue.findIdx? (stopsAt theTsn), true)

/-- One TSN of a gap ack block. -/
def Cursor.visit (k : Cursor) (theTsn : Tsn) : Cursor :=
  match k.seek theTsn with
  | (some i, circled) =>
    { queue := k.queue.modify i fun c => if c.tsn = theTsn then c.mark else c, tp1 := i, circled }
  | (none, _) => { k with tp1 := 0, circled := false }

/-- The loop of `sctp_process_segment_range` over the TSNs of a block from `j` on. -/
def Cursor.visitAll (lastTsn : Tsn) : Nat → Nat → Cursor → Cursor
  | _, 0, k => k
  | j, n + 1, k => visitAll lastTsn (j + 1) n (k.visit (lastTsn + BitVec.ofNat 32 j))

/-- `sctp_process_segment_range`: the queue, and where the cursor is. -/
def sctpProcessSegmentRange (lastTsn : Tsn) (fragStrt fragEnd : Nat) (queue : List TmitChunk)
    (tp1 : Nat) : List TmitChunk × Nat :=
  let k := Cursor.visitAll lastTsn fragStrt (fragEnd + 1 - fragStrt) ⟨queue, tp1, false⟩
  (k.queue, k.tp1)

/-- The loop of `sctp_handle_segments`, and the biggest TSN that is acknowledged. -/
def handleSegments (lastTsn : Tsn) :
    List GapAckBlock → Nat → Nat → Tsn → List TmitChunk → List TmitChunk × Tsn
  | [], _, _, biggest, queue => (queue, biggest)
  | frag :: frags, prevFragEnd, tp1, biggest, queue =>
    let fragStrt := frag.1.toNat
    let fragEnd := frag.2.toNat
    if fragStrt > fragEnd then handleSegments lastTsn frags prevFragEnd tp1 biggest queue
    else
      let tp1 := if fragStrt ≤ prevFragEnd then 0 else tp1
      let last := lastTsn + BitVec.ofNat 32 fragEnd
      let biggest := if tsnGt last biggest then last else biggest
      let (queue, tp1) := sctpProcessSegmentRange lastTsn fragStrt fragEnd queue tp1
      handleSegments lastTsn frags fragEnd tp1 biggest queue

/-- `sctp_handle_segments` of a SACK. -/
def sctpHandleSegments (lastTsn : Tsn) (frags : List GapAckBlock) (queue : List TmitChunk) :
    List TmitChunk × Tsn :=
  handleSegments lastTsn frags 0 0 lastTsn queue

/-! ## The whole SACK -/

/-- The peer has taken the chunk back, or has reported it again. -/
def TmitChunk.revoke (c : TmitChunk) : TmitChunk :=
  if c.sent = sctpDatagramAcked then { c with sent := sctpDatagramSent }
  else if c.sent = sctpDatagramMarked then { c with sent := sctpDatagramAcked }
  else c

/-- `sctp_check_for_revoked`. -/
def sctpCheckForRevoked (cumack biggestTsnAcked : Tsn) : List TmitChunk → List TmitChunk
  | [] => []
  | c :: queue =>
    if tsnGt c.tsn cumack && tsnGt c.tsn biggestTsnAcked then c :: queue
    else
      let c := if tsnGt c.tsn cumack then c.revoke else c
      if c.sent = sctpDatagramUnsent then c :: queue
      else c :: sctpCheckForRevoked cumack biggestTsnAcked queue

/-- The sender's side of an association. -/
structure Sender where
  /-- The TSNs of the chunks that are not sent yet. -/
  sendQueue : List Tsn
  sentQueue : List TmitChunk
  sendingSeq : Tsn
  lastAckedSeq : Tsn
  sawSackWithFrags : Bool
  /-- The chunks that were removed from `sentQueue`, with their data. -/
  freed : List Tsn

namespace Sender

variable (s : Sender)

/-- The TSN after the last one that was sent. -/
def sendS : Tsn :=
  match s.sentQueue.getLast? with
  | some c => c.tsn + 1
  | none => s.sendingSeq

/-- The loop over the chunks up to the cumulative TSN. -/
def ackUpTo (lastTsn : Tsn) (queue : List TmitChunk) : List TmitChunk :=
  (queue.takeWhile fun c => tsnGe lastTsn c.tsn).map TmitChunk.ack ++
    queue.dropWhile fun c => tsnGe lastTsn c.tsn

/-- The chunks for which `past` holds are removed from the head of the queue. -/
def free (past : TmitChunk → Bool) : Sender :=
  { s with
    sentQueue := s.sentQueue.dropWhile past
    freed := ((s.sentQueue.takeWhile past).map (·.tsn)).reverse ++ s.freed }

/-- The chunks that the peer has taken back. -/
def checkRevoked (cumAck biggest : Tsn) (frags : List GapAckBlock) : Sender :=
  if frags.length > 0 then
    { s with
      sentQueue := sctpCheckForRevoked cumAck biggest s.sentQueue
      sawSackWithFrags := true }
  else if s.sawSackWithFrags then
    { s with
      sentQueue := s.sentQueue.map fun c =>
        if c.sent = sctpDatagramAcked then { c with sent := sctpDatagramSent } else c
      sawSackWithFrags := false }
  else s

end Sender

/-- `sctp_express_handle_sack`, as far as it is about the queue of sent chunks; `none` when the
association is aborted. -/
def sctpExpressHandleSack (cumack : Tsn) (s : Sender) : Option Sender :=
  if tsnGt s.lastAckedSeq cumack then some s
  else if s.lastAckedSeq = cumack then some s
  else if tsnGe cumack s.sendS then none
  else
    let s := if tsnGt cumack s.lastAckedSeq then s.free fun c => tsnGe cumack c.tsn else s
    some { s with lastAckedSeq := cumack }

/-- `sctp_handle_sack`, as far as it is about the queue of sent chunks; `none` when the association
is aborted. `drained` is whether nothing waits on the queues of the streams. -/
def sctpHandleSack (drained : Bool) (cumAck : Tsn) (frags : List GapAckBlock) (s : Sender) :
    Option Sender :=
  let sendS := s.sendS
  if tsnGe cumAck sendS then none
  else if tsnGt s.lastAckedSeq cumAck then some s
  else if s.sentQueue = [] ∧ s.sendQueue = [] ∧ drained then some s
  else
    let queue := Sender.ackUpTo cumAck s.sentQueue
    let (queue, biggest) :=
      if frags.length > 0 then sctpHandleSegments cumAck frags queue else (queue, cumAck)
    if frags.length > 0 && tsnGe biggest sendS then none
    else
      let s := { s with sentQueue := queue, lastAckedSeq := cumAck }
      some ((s.free fun c => !tsnGt c.tsn cumAck).checkRevoked cumAck biggest frags)

/-- What `sctp_process_control` does with a SACK. `prSctp` is whether there are chunks that may be
given up. -/
def processSack (prSctp drained : Bool) (sack : Sack) (s : Sender) : Option Sender :=
  if !prSctp && sack.gapAckBlks.length = 0 && tsnGe sack.cumTsnAck s.lastAckedSeq &&
      !s.sawSackWithFrags && s.sentQueue ≠ [] then
    sctpExpressHandleSack sack.cumTsnAck s
  else sctpHandleSack drained sack.cumTsnAck sack.gapAckBlks s

/-! ## The cursor misses no chunk -/

variable {z : Tsn} {t p : Nat} {queue : List TmitChunk} {ks : List Nat}

/-- The chunks of the queue have these numbers, in increasing order. -/
structure Numbered (z : Tsn) (queue : List TmitChunk) (ks : List Nat) : Prop where
  tsns : queue.map (·.tsn) = ks.map (wrap z)
  sorted : ks.Pairwise (· < ·)

/-- All numbers are less than half of all TSNs away. -/
def Around (t : Nat) (ks : List Nat) : Prop := ∀ n ∈ ks, n < t + 2 ^ 31 ∧ t < n + 2 ^ 31

/-- The chunk of the TSN is marked. -/
def markAt (theTsn : Tsn) (c : TmitChunk) : TmitChunk := if c.tsn = theTsn then c.mark else c

@[simp] theorem mark_tsn (c : TmitChunk) : c.mark.tsn = c.tsn := by
  rw [TmitChunk.mark]
  split <;> rfl

@[simp] theorem markAt_tsn (theTsn : Tsn) (c : TmitChunk) : (markAt theTsn c).tsn = c.tsn := by
  rw [markAt]
  split
  · exact mark_tsn c
  · rfl

namespace Numbered

theorem length_eq (h : Numbered z queue ks) : queue.length = ks.length := by
  simpa using congrArg List.length h.tsns

theorem tsn_eq (h : Numbered z queue ks) {j : Nat} (hj : j < queue.length)
    (hj' : j < ks.length) : (queue[j]).tsn = wrap z ks[j] := by
  have := congrArg (·[j]?) h.tsns
  simpa [hj, hj'] using this

theorem map_tsn (h : Numbered z queue ks) {f : TmitChunk → TmitChunk}
    (hf : ∀ c, (f c).tsn = c.tsn) : Numbered z (queue.map f) ks :=
  ⟨by rw [List.map_map, ← h.tsns]; exact List.map_congr_left fun c _ => hf c, h.sorted⟩

theorem stopsAt_eq (h : Numbered z queue ks) (hk : Around t ks) {j : Nat} (hj : j < queue.length)
    (hj' : j < ks.length) : stopsAt (wrap z t) queue[j] = decide (t ≤ ks[j]) := by
  obtain ⟨hlt, hgt⟩ := hk _ (List.getElem_mem hj')
  rw [stopsAt, h.tsn_eq hj hj', tsnGt_wrap z hlt hgt]
  generalize ks[j] = n at hlt hgt ⊢
  have heq : wrap z n = wrap z t ↔ n = t := wrap_inj z hlt hgt
  rw [Bool.eq_iff_iff]
  simp only [heq, Bool.or_eq_true, decide_eq_true_eq]
  omega

end Numbered

/-- The chunks before the cursor are before the TSN. -/
def Before (ks : List Nat) (p t : Nat) : Prop := ∀ n ∈ ks.take p, n < t

theorem before_iff : Before ks p t ↔ ∀ j (hj : j < ks.length), j < p → ks[j] < t := by
  constructor
  · intro h j hj hjp
    refine h _ (List.mem_iff_getElem.mpr ⟨j, ?_, List.getElem_take⟩)
    rw [List.length_take]
    omega
  · intro h n hn
    obtain ⟨j, hj, rfl⟩ := List.mem_iff_getElem.mp hn
    rw [List.length_take] at hj
    rw [List.getElem_take]
    exact h j (by omega) (by omega)

/-- At the first chunk that is not before the TSN, no other chunk has it. -/
theorem Numbered.modify_eq_map (h : Numbered z queue ks) (hk : Around t ks) {i : Nat}
    (hi : i < ks.length) (hbefore : Before ks i t) (hle : t ≤ ks[i]) :
    queue.modify i (markAt (wrap z t)) = queue.map (markAt (wrap z t)) := by
  refine List.ext_getElem (by simp) fun j hj _ => ?_
  rw [List.length_modify] at hj
  rw [List.getElem_modify, List.getElem_map]
  by_cases hji : i = j
  · rw [if_pos hji]
  have hlen := h.length_eq
  have hj' : j < ks.length := hlen ▸ hj
  obtain ⟨hlt, hgt⟩ := hk _ (List.getElem_mem hj')
  rw [if_neg hji, markAt, if_neg]
  rw [h.tsn_eq hj hj', wrap_inj z hlt hgt]
  rcases Nat.lt_or_gt_of_ne hji with hij | hij
  · have := List.pairwise_iff_getElem.mp h.sorted i j hi hj' hij
    omega
  · have := before_iff.mp hbefore j hj' hij
    omega

/-- A TSN that no chunk has. -/
theorem Numbered.map_markAt_eq (h : Numbered z queue ks) (hk : Around t ks)
    (hbefore : ∀ n ∈ ks, n < t) : queue.map (markAt (wrap z t)) = queue := by
  refine (List.map_congr_left fun c hc => ?_).trans (List.map_id queue)
  obtain ⟨j, hj, rfl⟩ := List.mem_iff_getElem.mp hc
  have hj' : j < ks.length := h.length_eq ▸ hj
  have hmem := List.getElem_mem hj'
  rw [markAt, if_neg, id]
  rw [h.tsn_eq hj hj', wrap_inj z (hk _ hmem).1 (hk _ hmem).2]
  exact Nat.ne_of_lt (hbefore _ hmem)

/-- **One TSN.** Its chunk is marked, if it is on the queue, and the cursor has passed no later
chunk. -/
theorem visit_eq {k : Cursor} (h : Numbered z k.queue ks) (hk : Around t ks)
    (hp : Before ks k.tp1 t) :
    (k.visit (wrap z t)).queue = k.queue.map (markAt (wrap z t)) ∧
      Before ks (k.visit (wrap z t)).tp1 t := by
  have hlen := h.length_eq
  rw [Cursor.visit, Cursor.seek]
  cases hfind : (k.queue.drop k.tp1).findIdx? (stopsAt (wrap z t)) with
  | some i =>
    obtain ⟨hi, hstop, hpassed⟩ := List.findIdx?_eq_some_iff_getElem.mp hfind
    rw [List.length_drop] at hi
    have hi' : k.tp1 + i < k.queue.length := by omega
    have hi'' : k.tp1 + i < ks.length := hlen ▸ hi'
    rw [List.getElem_drop, h.stopsAt_eq hk hi' hi'', decide_eq_true_eq] at hstop
    have hbefore : Before ks (k.tp1 + i) t := before_iff.mpr fun j hj hji => by
      rcases Nat.lt_or_ge j k.tp1 with hlt | hge
      · exact before_iff.mp hp j hj hlt
      · obtain ⟨d, rfl⟩ := Nat.exists_eq_add_of_le hge
        have := hpassed d (by omega)
        rw [List.getElem_drop, h.stopsAt_eq hk (by omega) (by omega), decide_eq_true_eq] at this
        exact Nat.lt_of_not_le this
    exact ⟨h.modify_eq_map hk hi'' hbefore hstop, hbefore⟩
  | none =>
    have hall : ∀ n ∈ ks, n < t := fun n hn => by
      obtain ⟨j, hj, rfl⟩ := List.mem_iff_getElem.mp hn
      rcases Nat.lt_or_ge j k.tp1 with hlt | hge
      · exact before_iff.mp hp j hj hlt
      · obtain ⟨d, rfl⟩ := Nat.exists_eq_add_of_le hge
        have hmem : k.queue[k.tp1 + d] ∈ k.queue.drop k.tp1 :=
          List.mem_iff_getElem.mpr ⟨d, by rw [List.length_drop]; omega, List.getElem_drop⟩
        have := List.findIdx?_eq_none_iff.mp hfind _ hmem
        rw [h.stopsAt_eq hk (by omega) hj] at this
        exact Nat.lt_of_not_le (of_decide_eq_false this)
    have hnone : k.queue.findIdx? (stopsAt (wrap z t)) = none :=
      List.findIdx?_eq_none_iff.mpr fun c hc => by
        obtain ⟨j, hj, rfl⟩ := List.mem_iff_getElem.mp hc
        rw [h.stopsAt_eq hk hj (hlen ▸ hj)]
        exact decide_eq_false (Nat.not_le_of_lt (hall _ (List.getElem_mem _)))
    have hseek : (if k.circled then (none, true)
        else (k.queue.findIdx? (stopsAt (wrap z t)), true)) = ((none : Option Nat), true) := by
      rw [hnone]
      exact ite_self _
    rw [hseek]
    refine ⟨(h.map_markAt_eq hk hall).symm, ?_⟩
    exact before_iff.mpr fun j _ hj => absurd hj (Nat.not_lt_zero j)

/-! ## All blocks -/

/-- The chunks whose TSN has the property are marked. -/
def markIf (P : Tsn → Bool) (c : TmitChunk) : TmitChunk := if P c.tsn then c.mark else c

@[simp] theorem mark_mark (c : TmitChunk) : c.mark.mark = c.mark := by
  by_cases h : c.sent = sctpDatagramUnsent ∨ c.sent = sctpForwardTsnSkip ∨
      c.sent = sctpDatagramNrAcked
  · rw [TmitChunk.mark, TmitChunk.mark, if_pos h, if_pos h]
  · have hmark : c.mark = { c with sent := sctpDatagramMarked } := if_neg h
    rw [hmark]
    rfl

theorem markIf_tsn (P : Tsn → Bool) (c : TmitChunk) : (markIf P c).tsn = c.tsn := by
  rw [markIf]
  split
  · exact mark_tsn c
  · rfl

theorem map_markIf (P Q : Tsn → Bool) (queue : List TmitChunk) :
    (queue.map (markIf P)).map (markIf Q) = queue.map (markIf fun tsn => P tsn || Q tsn) := by
  rw [List.map_map]
  refine List.map_congr_left fun c _ => ?_
  rw [Function.comp_apply, markIf, markIf_tsn]
  cases hP : P c.tsn <;> cases hQ : Q c.tsn <;> simp [markIf, hP, hQ]

theorem map_markIf_false (queue : List TmitChunk) : queue.map (markIf fun _ => false) = queue :=
  List.map_id queue

/-- The gap ack blocks report the TSN. -/
def reported (lastTsn : Tsn) (frags : List GapAckBlock) (tsn : Tsn) : Bool :=
  frags.any fun frag => (List.range' frag.1.toNat (frag.2.toNat + 1 - frag.1.toNat)).any fun x =>
    tsn = lastTsn + BitVec.ofNat 32 x

variable {c : Nat}

theorem visitAll_eq {k : Cursor} (h : Numbered z k.queue ks)
    (hk : ∀ x < 2 ^ 16, Around (c + x) ks) {j n : Nat} (hn : j + n ≤ 2 ^ 16)
    (hp : Before ks k.tp1 (c + j)) :
    (Cursor.visitAll (wrap z c) j n k).queue = k.queue.map
      (markIf fun tsn => (List.range' j n).any fun x => tsn = wrap z c + BitVec.ofNat 32 x) ∧
      Before ks (Cursor.visitAll (wrap z c) j n k).tp1 (c + j + n) := by
  induction n generalizing j k with
  | zero => exact ⟨(map_markIf_false _).symm, hp⟩
  | succ n ih =>
    obtain ⟨hqueue, hbefore⟩ := visit_eq h (hk j (by omega)) hp
    rw [Cursor.visitAll, ← Serial.wrap_add]
    have hnumbered : Numbered z (k.visit (wrap z (c + j))).queue ks :=
      hqueue ▸ h.map_tsn (markAt_tsn _)
    obtain ⟨hrest, hlast⟩ := ih (j := j + 1) hnumbered (by omega)
      fun n hn => Nat.lt_succ_of_lt (hbefore n hn)
    refine ⟨?_, by rwa [show c + j + (n + 1) = c + (j + 1) + n by omega]⟩
    have hat : markAt (wrap z (c + j)) = markIf fun tsn => tsn = wrap z c + BitVec.ofNat 32 j := by
      funext d
      rw [← Serial.wrap_add, markAt, markIf]
      simp only [decide_eq_true_eq]
    rw [hrest, hqueue, hat, map_markIf]
    simp only [List.range'_succ, List.any_cons]

theorem handleSegments_queue (h : Numbered z queue ks) (hk : ∀ x < 2 ^ 16, Around (c + x) ks)
    (frags : List GapAckBlock) {prevFragEnd tp1 : Nat} (biggest : Tsn)
    (hp : Before ks tp1 (c + prevFragEnd + 1)) :
    (handleSegments (wrap z c) frags prevFragEnd tp1 biggest queue).1 =
      queue.map (markIf (reported (wrap z c) frags)) := by
  induction frags generalizing queue prevFragEnd tp1 biggest with
  | nil => exact (map_markIf_false queue).symm
  | cons frag frags ih =>
    have hfrag : reported (wrap z c) (frag :: frags) = fun tsn =>
        (List.range' frag.1.toNat (frag.2.toNat + 1 - frag.1.toNat)).any
          (fun x => tsn = wrap z c + BitVec.ofNat 32 x) || reported (wrap z c) frags tsn := rfl
    rw [handleSegments, hfrag]
    by_cases hlt : frag.1.toNat > frag.2.toNat
    · -- a block that is malformed has no TSN
      have hnone : frag.2.toNat + 1 - frag.1.toNat = 0 := by omega
      simp only [if_pos hlt, hnone, List.range'_zero, List.any_nil, Bool.false_or]
      exact ih h biggest hp
    simp only [if_neg hlt]
    have hend := frag.2.isLt
    have hbefore :
        Before ks (if frag.1.toNat ≤ prevFragEnd then 0 else tp1) (c + frag.1.toNat) := by
      split
      · exact fun n hn => absurd hn (by simp)
      · exact fun n hn => Nat.lt_of_lt_of_le (hp n hn) (by omega)
    generalize (if frag.1.toNat ≤ prevFragEnd then 0 else tp1) = tp1 at hbefore ⊢
    obtain ⟨hqueue, hlast⟩ := visitAll_eq (k := ⟨queue, tp1, false⟩) h hk
      (n := frag.2.toNat + 1 - frag.1.toNat) (by omega) hbefore
    rw [show c + frag.1.toNat + (frag.2.toNat + 1 - frag.1.toNat) = c + frag.2.toNat + 1 by omega]
      at hlast
    simp only [sctpProcessSegmentRange]
    generalize Cursor.visitAll (wrap z c) frag.1.toNat _ _ = k at hqueue hlast ⊢
    have hnumbered : Numbered z k.queue ks := hqueue ▸ h.map_tsn (markIf_tsn _)
    rw [ih hnumbered _ hlast, hqueue, map_markIf]

/-- **The cursor misses no chunk.** `sctp_handle_segments` marks the chunks that the blocks report,
whatever their order. -/
theorem handleSegments_eq (h : Numbered z queue ks) (hk : ∀ x < 2 ^ 16, Around (c + x) ks)
    (frags : List GapAckBlock) :
    (sctpHandleSegments (wrap z c) frags queue).1 =
      queue.map (markIf (reported (wrap z c) frags)) :=
  handleSegments_queue h hk frags _ fun n hn => absurd hn (by simp)

/-- The biggest TSN is the end of a block, or where the count started. -/
theorem handleSegments_biggest (lastTsn : Tsn) (frags : List GapAckBlock) (prevFragEnd tp1 : Nat)
    (biggest : Tsn) (queue : List TmitChunk) :
    (handleSegments lastTsn frags prevFragEnd tp1 biggest queue).2 = biggest ∨
      ∃ frag ∈ frags, frag.1.toNat ≤ frag.2.toNat ∧
        (handleSegments lastTsn frags prevFragEnd tp1 biggest queue).2 =
          lastTsn + BitVec.ofNat 32 frag.2.toNat := by
  induction frags generalizing prevFragEnd tp1 biggest queue with
  | nil => exact .inl rfl
  | cons frag frags ih =>
    rw [handleSegments]
    by_cases hlt : frag.1.toNat > frag.2.toNat
    · simp only [if_pos hlt]
      rcases ih prevFragEnd tp1 biggest queue with heq | ⟨f, hf, hle, heq⟩
      · exact .inl heq
      · exact .inr ⟨f, .tail _ hf, hle, heq⟩
    · simp only [if_neg hlt]
      rcases ih frag.2.toNat _ _ _ with heq | ⟨f, hf, hle, heq⟩
      · rw [heq]
        split
        · exact .inr ⟨frag, List.mem_cons_self, Nat.le_of_not_lt hlt, rfl⟩
        · exact .inl rfl
      · exact .inr ⟨f, .tail _ hf, hle, heq⟩

/-- The block has the number, counted from the cumulative one. -/
def Within (c n : Nat) (frag : GapAckBlock) : Prop :=
  c + frag.1.toNat ≤ n ∧ n ≤ c + frag.2.toNat

instance (c n : Nat) (frag : GapAckBlock) : Decidable (Within c n frag) := instDecidableAnd

theorem reported_iff_within {n : Nat} (hn : ∀ x < 2 ^ 16, n < c + x + 2 ^ 31 ∧ c + x < n + 2 ^ 31)
    (frags : List GapAckBlock) :
    reported (wrap z c) frags (wrap z n) = true ↔ ∃ frag ∈ frags, Within c n frag := by
  simp only [reported, List.any_eq_true, decide_eq_true_eq, List.mem_range'_1]
  refine exists_congr fun frag => and_congr_right fun _ => ?_
  have hend := frag.2.isLt
  constructor
  · rintro ⟨x, hx, heq⟩
    rw [← Serial.wrap_add, wrap_inj z (hn x (by omega)).1 (hn x (by omega)).2] at heq
    exact ⟨by omega, by omega⟩
  · rintro ⟨hle, hge⟩
    refine ⟨n - c, by omega, ?_⟩
    rw [← Serial.wrap_add, Nat.add_sub_cancel' (by omega)]

/-- **What the gap ack blocks do.** Exactly the chunks that some block has are marked, in whatever
order the blocks come, and whether or not they overlap. -/
theorem segments_exact (h : Numbered z queue ks) (hk : ∀ x < 2 ^ 16, Around (c + x) ks)
    (frags : List GapAckBlock) :
    (sctpHandleSegments (wrap z c) frags queue).1 =
      List.zipWith (fun chunk n => if ∃ frag ∈ frags, Within c n frag then chunk.mark else chunk)
        queue ks := by
  rw [handleSegments_eq h hk]
  refine List.ext_getElem (by simp [h.length_eq]) fun j hj hj' => ?_
  rw [List.length_map] at hj
  have hj'' : j < ks.length := h.length_eq ▸ hj
  have hmem := List.getElem_mem hj''
  rw [List.getElem_map, List.getElem_zipWith, markIf, h.tsn_eq hj hj'']
  exact if_congr (reported_iff_within (fun x hx => hk x hx _ hmem) frags) rfl rfl

/-- The blocks come in the wrong order, the TSNs wrap around, and there is a malformed block. -/
theorem wrapped_segments :
    (sctpHandleSegments (wrap 0xfffffffd#32 0) [(4#16, 5#16), (9#16, 7#16), (1#16, 2#16)]
        [⟨0xfffffffe#32, 1⟩, ⟨0#32, 4⟩, ⟨1#32, 1⟩, ⟨2#32, 2⟩]).1 =
      List.zipWith
        (fun chunk n =>
          if ∃ frag ∈ [(4#16, 5#16), (9#16, 7#16), (1#16, 2#16)], Within 0 n frag then chunk.mark
          else chunk)
        [⟨0xfffffffe#32, 1⟩, ⟨0#32, 4⟩, ⟨1#32, 1⟩, ⟨2#32, 2⟩] [1, 3, 4, 5] :=
  segments_exact (z := 0xfffffffd#32) (c := 0) ⟨by decide, by decide⟩
    (fun x hx n hn => by simp at hn; omega) _

end Sctp4Nat.MappingArray
