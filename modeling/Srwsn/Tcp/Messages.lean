import Srwsn.Lib.Sorted
import Srwsn.Tcp.ReceiveQueue

/-! Streams of messages over TCP. Each message is attached to the segments that hold its last octet;
the receiver hands it over as `rcv_nxt` passes its end. -/
namespace Srwsn

open Serial TCPVirtualDataRcvQueue List

structure Payload (α : Type) where
  endSequenceNo : UInt32
  msg : α
  deriving DecidableEq, Repr

structure MsgSegment (α : Type) where
  sequenceNo : UInt32
  payloadLength : UInt32
  payloads : List (Payload α)
  deriving DecidableEq, Repr

structure TCPMsgBasedSendQueue (α : Type) where
  beginSeq : UInt32
  endSeq : UInt32
  payloadQueue : List (Payload α)
  deriving DecidableEq, Repr

/- `payloadList` is in the order of the map: by the numbers themselves, as unsigned integers. -/
structure TCPMsgBasedRcvQueue (α : Type) extends TCPVirtualDataRcvQueue where
  payloadList : List (Payload α)
  deriving DecidableEq, Repr

variable {α : Type}

namespace TCPMsgBasedSendQueue

def init (startSeq : UInt32) : TCPMsgBasedSendQueue α := ⟨startSeq, startSeq, []⟩

def enqueueAppData (q : TCPMsgBasedSendQueue α) (msg : α) (byteLength : UInt32) :
    TCPMsgBasedSendQueue α :=
  ⟨q.beginSeq, q.endSeq + byteLength, q.payloadQueue ++ [⟨q.endSeq + byteLength, msg⟩]⟩

def createSegmentWithBytes (q : TCPMsgBasedSendQueue α) (fromSeq numBytes : UInt32) :
    Except TcpFault (MsgSegment α) :=
  if seqLE q.beginSeq fromSeq && seqLE (fromSeq + numBytes) q.endSeq then
    .ok ⟨fromSeq, numBytes, (q.payloadQueue.dropWhile fun p =>
      seqLE p.endSequenceNo fromSeq).takeWhile fun p => seqLE p.endSequenceNo (fromSeq + numBytes)⟩
  else .error .outsideQueue

def discardUpTo (q : TCPMsgBasedSendQueue α) (seqNum : UInt32) :
    Except TcpFault (TCPMsgBasedSendQueue α) :=
  if seqLE q.beginSeq seqNum && seqLE seqNum q.endSeq then
    .ok ⟨seqNum, q.endSeq, q.payloadQueue.dropWhile fun p => seqLE p.endSequenceNo seqNum⟩
  else .error .assertion

end TCPMsgBasedSendQueue

namespace TCPMsgBasedRcvQueue

def init (startSeq : UInt32) : TCPMsgBasedRcvQueue α := ⟨.init startSeq, []⟩

def insertPayload (p : Payload α) : List (Payload α) → List (Payload α)
  | [] => [p]
  | i :: rest =>
    if p.endSequenceNo < i.endSequenceNo then p :: i :: rest
    else if p.endSequenceNo = i.endSequenceNo then i :: rest
    else i :: insertPayload p rest

def insertPayloads (payloads list : List (Payload α)) : List (Payload α) :=
  payloads.foldl (fun list p => insertPayload p list) list

def insertBytesFromSegment (q : TCPMsgBasedRcvQueue α) (seg : MsgSegment α) :
    TCPMsgBasedRcvQueue α :=
  ⟨q.toTCPVirtualDataRcvQueue.insertBytesFromSegment seg.sequenceNo seg.payloadLength,
    insertPayloads seg.payloads q.payloadList⟩

def extractBytesUpTo (q : TCPMsgBasedRcvQueue α) (seq : UInt32) :
    Except TcpFault (Option α × TCPMsgBasedRcvQueue α) := do
  let (_, regions) ← q.toTCPVirtualDataRcvQueue.extractTo seq
  match q.payloadList with
  | [] => return (none, ⟨regions, []⟩)
  | p :: rest =>
    if seqGreater p.endSequenceNo seq then return (none, ⟨regions, p :: rest⟩)
    else return (some p.msg, ⟨regions, rest⟩)

def extractAll (seq : UInt32) :
    Nat → TCPMsgBasedRcvQueue α → Except TcpFault (List α × TCPMsgBasedRcvQueue α)
  | 0, _ => .error .outOfFuel
  | fuel + 1, q => do
    let (first, q) ← q.extractBytesUpTo seq
    match first with
    | none => return ([], q)
    | some msg => do
      let (more, q) ← extractAll seq fuel q
      return (msg :: more, q)

end TCPMsgBasedRcvQueue

structure MsgReceiver (α : Type) where
  rcvNxt : UInt32
  maxRcvBuffer : UInt32
  receiveQueue : TCPMsgBasedRcvQueue α
  delivered : List α
  deriving DecidableEq, Repr

namespace MsgReceiver

def init (startSeq maxRcvBuffer : UInt32) : MsgReceiver α :=
  ⟨startSeq, maxRcvBuffer, .init startSeq, []⟩

variable (s : MsgReceiver α) (seg : MsgSegment α)

def takes (rcvWnd : UInt32) : Bool :=
  isSegmentAcceptable s.rcvNxt rcvWnd seg.sequenceNo seg.payloadLength && seg.payloadLength != 0 &&
    decide (seg.payloadLength ≤ s.receiveQueue.getAmountOfFreeBytes s.maxRcvBuffer)

def processText : Except TcpFault (MsgReceiver α) := do
  let queue := s.receiveQueue.insertBytesFromSegment seg
  if queue.rcvNxt = s.rcvNxt then return { s with receiveQueue := queue }
  else do
    let (messages, queue) ← queue.extractAll queue.rcvNxt (queue.payloadList.length + 1)
    return { s with
      rcvNxt := queue.rcvNxt, receiveQueue := queue, delivered := s.delivered ++ messages }

def receive (rcvWnd : UInt32) : Except TcpFault (MsgReceiver α) :=
  if s.takes seg rcvWnd then s.processText seg else .ok s

end MsgReceiver

/-- A sender, the segments it has made and a receiver. The rest is history: positions count octets
from the start of the stream and do not wrap, `sent` has the end of every message, `network` the
beginning of every segment, and `moved` is the position of `rcv_nxt`. -/
structure Transfer (α : Type) where
  sendQueue : TCPMsgBasedSendQueue α
  network : List (Nat × MsgSegment α)
  receiver : MsgReceiver α
  start : UInt32
  sent : List (Nat × α)
  total : Nat
  acked : Nat
  moved : Nat

namespace Transfer

inductive Event (α : Type) where
  | send (msg : α) (byteLength : UInt32)
  | transmit (fromSeq numBytes : UInt32)
  | discard (seqNum : UInt32)
  | deliver (index : Nat) (rcvWnd : UInt32)

def init (start maxRcvBuffer : UInt32) : Transfer α :=
  ⟨.init start, [], .init start maxRcvBuffer, start, [], 0, 0, 0⟩

/-- A segment stays in the network when it is delivered: it may be duplicated, and it may be 
lost. -/
def step (t : Transfer α) : Event α → Except TcpFault (Transfer α)
  | .send msg byteLength => .ok { t with
      sendQueue := t.sendQueue.enqueueAppData msg byteLength
      sent := t.sent ++ [(t.total + byteLength.toNat, msg)]
      total := t.total + byteLength.toNat }
  | .transmit fromSeq numBytes => do
    let seg ← t.sendQueue.createSegmentWithBytes fromSeq numBytes
    return { t with network := t.network ++ [(t.acked + ahead t.sendQueue.beginSeq fromSeq, seg)] }
  | .discard seqNum => do
    let queue ← t.sendQueue.discardUpTo seqNum
    return { t with sendQueue := queue, acked := t.acked + ahead t.sendQueue.beginSeq seqNum }
  | .deliver index rcvWnd =>
    match t.network[index]? with
    | none => .ok t
    | some (_, seg) => do
      let receiver ← t.receiver.receive seg rcvWnd
      return { t with
        receiver := receiver, moved := t.moved + ahead t.receiver.rcvNxt receiver.rcvNxt }

/-- Every message whose last octet is below `rcv_nxt` was handed over once, in the order of sending,
and no other message was. -/
def InOrder (t : Transfer α) : Prop :=
  t.receiver.rcvNxt = t.start + UInt32.ofNat t.moved ∧
    t.receiver.delivered = (t.sent.filter fun m => m.1 ≤ t.moved).map Prod.snd

end Transfer

open TCPMsgBasedRcvQueue (insertPayload insertPayloads)

def payloadOf (start : UInt32) (m : Nat × α) : Payload α := ⟨start + UInt32.ofNat m.1, m.2⟩

section Positions

variable {start : UInt32} {low m n : Nat}

theorem seqGreater_position (above : low ≤ m) (above' : low ≤ n) (near : m < low + 2 ^ 31)
    (near' : n < low + 2 ^ 31) :
    seqGreater (start + UInt32.ofNat m) (start + UInt32.ofNat n) = decide (n < m) := by
  have first := ahead_ofNat start above (by omega)
  have second := ahead_ofNat start above' (by omega)
  have order := @seqGreater_iff (start + UInt32.ofNat low) (start + UInt32.ofNat m)
    (start + UInt32.ofNat n) (by omega) (by omega)
  rw [Bool.eq_iff_iff, order, decide_eq_true_iff]
  omega

end Positions

namespace TCPMsgBasedSendQueue

structure Ordered (q : TCPMsgBasedSendQueue α) : Prop where
  short : ahead q.beginSeq q.endSeq < 2 ^ 31
  inside : ∀ p ∈ q.payloadQueue, ahead q.beginSeq p.endSequenceNo ≤ ahead q.beginSeq q.endSeq
  increasing : q.payloadQueue.Pairwise fun p p' =>
    ahead q.beginSeq p.endSequenceNo ≤ ahead q.beginSeq p'.endSequenceNo

section Ordered

variable {q : TCPMsgBasedSendQueue α} (ordered : q.Ordered)

include ordered

theorem Ordered.cut {seq : UInt32} (near : ahead q.beginSeq seq < 2 ^ 31) {l : List (Payload α)}
    (part : l.Sublist q.payloadQueue) : (l.dropWhile fun p => seqLE p.endSequenceNo seq) =
        l.filter (fun p => decide (ahead q.beginSeq seq < ahead q.beginSeq p.endSequenceNo)) ∧
      (l.takeWhile fun p => seqLE p.endSequenceNo seq) =
        l.filter fun p => decide (ahead q.beginSeq p.endSequenceNo ≤ ahead q.beginSeq seq) := by
  have read : ∀ p ∈ l, seqLE p.endSequenceNo seq =
      decide (ahead q.beginSeq p.endSequenceNo ≤ ahead q.beginSeq seq) := fun p member =>
    Bool.eq_iff_iff.mpr ((seqLE_iff ((ordered.inside p (part.subset member)).trans_lt ordered.short)
      near).trans decide_eq_true_iff.symm)
  have cut : l.Pairwise fun a b => seqLE b.endSequenceNo seq = true →
      seqLE a.endSequenceNo seq = true := by
    refine (ordered.increasing.sublist part).imp_of_mem fun {a b} ha hb le => ?_
    rw [read a ha, read b hb, decide_eq_true_iff, decide_eq_true_iff]
    exact le.trans
  rw [Sorted.dropWhile_eq_filter cut, Sorted.takeWhile_eq_filter cut]
  refine ⟨filter_congr fun p member => ?_, filter_congr read⟩
  rw [read p member, ← decide_not, decide_eq_decide, not_le]

theorem Ordered.createSegmentWithBytes {fromSeq numBytes : UInt32}
    (fits : ahead q.beginSeq fromSeq + numBytes.toNat ≤ ahead q.beginSeq q.endSeq) :
    q.createSegmentWithBytes fromSeq numBytes =
    .ok ⟨fromSeq, numBytes, q.payloadQueue.filter fun p =>
      decide (ahead q.beginSeq fromSeq < ahead q.beginSeq p.endSequenceNo ∧
        ahead q.beginSeq p.endSequenceNo ≤ ahead q.beginSeq fromSeq + numBytes.toNat)⟩ := by
  have short := ordered.short
  have last := @ahead_add q.beginSeq fromSeq numBytes (by omega)
  have above : seqLE q.beginSeq fromSeq = true := by
    rw [seqLE_eq, decide_eq_true_iff]
    omega
  have below : seqLE (fromSeq + numBytes) q.endSeq = true :=
    (seqLE_iff (by omega) short).mpr (by omega)
  have dropped :=
    (ordered.cut (show ahead q.beginSeq fromSeq < 2 ^ 31 by omega) (List.Sublist.refl _)).1
  have taken := (ordered.cut (show ahead q.beginSeq (fromSeq + numBytes) < 2 ^ 31 by omega)
    (dropWhile_sublist fun p => seqLE p.endSequenceNo fromSeq)).2
  rw [TCPMsgBasedSendQueue.createSegmentWithBytes, above, below]
  refine congrArg (fun l => Except.ok (MsgSegment.mk fromSeq numBytes l)) (taken.trans ?_)
  rw [dropped, List.filter_filter, last]
  refine filter_congr fun p _ => ?_
  rw [← Bool.decide_and, decide_eq_decide, and_comm]

theorem Ordered.discardUpTo {seqNum : UInt32}
    (fits : ahead q.beginSeq seqNum ≤ ahead q.beginSeq q.endSeq) :
    q.discardUpTo seqNum = .ok ⟨seqNum, q.endSeq, q.payloadQueue.filter fun p =>
      decide (ahead q.beginSeq seqNum < ahead q.beginSeq p.endSequenceNo)⟩ := by
  have short := ordered.short
  have above : seqLE q.beginSeq seqNum = true := by
    rw [seqLE_eq, decide_eq_true_iff]
    omega
  have below : seqLE seqNum q.endSeq = true := (seqLE_iff (by omega) short).mpr fits
  have dropped := (ordered.cut (fits.trans_lt short) (List.Sublist.refl _)).1
  rw [TCPMsgBasedSendQueue.discardUpTo, above, below, dropped]
  rfl

end Ordered

inductive Call (α : Type) where
  | enqueueAppData (msg : α) (byteLength : UInt32)
  | discardUpTo (seqNum : UInt32)

def Runs (q : TCPMsgBasedSendQueue α) : Call α → TCPMsgBasedSendQueue α → Prop
  | .enqueueAppData msg byteLength, q' => q.enqueueAppData msg byteLength = q'
  | .discardUpTo seqNum, q' => q.discardUpTo seqNum = .ok q'

def Fits (q : TCPMsgBasedSendQueue α) : Call α → Prop
  | .enqueueAppData _ byteLength => ahead q.beginSeq q.endSeq + byteLength.toNat < 2 ^ 31
  | .discardUpTo _ => True

variable {q q' : TCPMsgBasedSendQueue α}

theorem init_ordered (startSeq : UInt32) : (init startSeq : TCPMsgBasedSendQueue α).Ordered := by
  constructor <;> simp [init]

theorem Ordered.runs {call : Call α} (ordered : q.Ordered) (ran : q.Runs call q')
    (fits : q.Fits call) : q'.Ordered := by
  have short := ordered.short
  cases call with
  | enqueueAppData msg byteLength =>
    cases ran
    simp only [Fits] at fits
    have last := @ahead_add q.beginSeq q.endSeq byteLength (by omega)
    refine ⟨by simp only [enqueueAppData]; omega, fun p member => ?_, ?_⟩
    · rcases mem_snoc member with old | rfl
      · have := ordered.inside p old
        simp only [enqueueAppData]
        omega
      · exact le_rfl
    · refine pairwise_append.mpr ⟨ordered.increasing, pairwise_singleton _ _,
        fun p old p' new => ?_⟩
      cases mem_singleton.mp new
      have := ordered.inside p old
      simp only [enqueueAppData]
      omega
  | discardUpTo seqNum =>
    simp only [Runs] at ran
    have range : ahead q.beginSeq seqNum ≤ ahead q.beginSeq q.endSeq := by
      unfold TCPMsgBasedSendQueue.discardUpTo at ran
      split at ran
      · rename_i both
        rw [Bool.and_eq_true, seqLE_eq, seqLE_eq, decide_eq_true_iff, decide_eq_true_iff] at both
        exact (@ahead_between q.beginSeq seqNum q.beginSeq q.endSeq (by simp) short both.1 both.2).2
      · cases ran
    rw [ordered.discardUpTo range] at ran
    cases ran
    have moved : ∀ x, ahead q.beginSeq seqNum ≤ ahead q.beginSeq x →
        ahead seqNum x = ahead q.beginSeq x - ahead q.beginSeq seqNum := fun x le => ahead_of_le le
    have later : ∀ p ∈ q.payloadQueue.filter fun p =>
        decide (ahead q.beginSeq seqNum < ahead q.beginSeq p.endSequenceNo),
        p ∈ q.payloadQueue ∧ ahead seqNum p.endSequenceNo =
          ahead q.beginSeq p.endSequenceNo - ahead q.beginSeq seqNum := fun p member => by
      obtain ⟨old, above⟩ := mem_filter.mp member
      exact ⟨old, moved _ (of_decide_eq_true above).le⟩
    refine ⟨by simp only [moved _ range]; omega, fun p member => ?_, ?_⟩
    · obtain ⟨old, same⟩ := later p member
      have := ordered.inside p old
      simp only [same, moved _ range]
      omega
    · refine (ordered.increasing.filter _).imp_of_mem fun {p p'} member member' le => ?_
      simp only [(later p member).2, (later p' member').2]
      omega

theorem ordered_of_path {calls : List (Call α)} (ran : Trace.Path Runs Fits q calls q')
    (ordered : q.Ordered) : q'.Ordered := by
  induction ran with
  | nil => exact ordered
  | cons stepped fits rest ih => exact ih (ordered.runs stepped fits)

def createSegments (q : TCPMsgBasedSendQueue α) :
    UInt32 → List UInt32 → Except TcpFault (List (MsgSegment α))
  | _, [] => .ok []
  | fromSeq, numBytes :: sizes => do
    let seg ← q.createSegmentWithBytes fromSeq numBytes
    let segs ← createSegments q (fromSeq + numBytes) sizes
    return seg :: segs

theorem Ordered.createSegments (ordered : q.Ordered) {fromSeq : UInt32} {sizes : List UInt32}
    (fits : ahead q.beginSeq fromSeq + (sizes.map UInt32.toNat).sum ≤ ahead q.beginSeq q.endSeq) :
    ∃ segs, q.createSegments fromSeq sizes = .ok segs ∧
    segs.flatMap MsgSegment.payloads = q.payloadQueue.filter
      fun p => decide (ahead q.beginSeq fromSeq < ahead q.beginSeq p.endSequenceNo ∧
        ahead q.beginSeq p.endSequenceNo ≤
        ahead q.beginSeq fromSeq + (sizes.map UInt32.toNat).sum) := by
  have short := ordered.short
  induction sizes generalizing fromSeq with
  | nil =>
    refine ⟨[], rfl, (filter_eq_nil_iff.mpr fun p _ => ?_).symm⟩
    simp
  | cons numBytes sizes ih =>
    rw [map_cons, sum_cons] at fits ⊢
    have last := @ahead_add q.beginSeq fromSeq numBytes (by omega)
    obtain ⟨segs, made, payloads⟩ := @ih (fromSeq + numBytes) (by omega)
    have first :=
      ordered.createSegmentWithBytes (show ahead q.beginSeq fromSeq + numBytes.toNat ≤ _ by omega)
    refine ⟨_, by simp [TCPMsgBasedSendQueue.createSegments, first, made]; rfl, ?_⟩
    -- the queue is in order, so the messages of the first segment come before the others
    rw [flatMap_cons, payloads, last]
    refine Eq.trans ?_ (Sorted.filter_split_le ordered.increasing _ (ahead q.beginSeq fromSeq +
      numBytes.toNat)).symm
    congr 1 <;> refine filter_congr fun p _ => ?_ <;>
      simp only [← decide_not, ← Bool.decide_and, decide_eq_decide] <;> omega

/-- However a range of the queue is cut, the segments carry exactly the messages that end in it. -/
theorem segments_exact {startSeq : UInt32} {calls : List (Call α)} {q : TCPMsgBasedSendQueue α}
    (ran : Trace.Path Runs Fits (init startSeq) calls q) :
    (∀ fromSeq sizes, ahead q.beginSeq fromSeq + (sizes.map UInt32.toNat).sum ≤
      ahead q.beginSeq q.endSeq →
      ∃ segs, q.createSegments fromSeq sizes = .ok segs ∧
      segs.flatMap MsgSegment.payloads = q.payloadQueue.filter
        fun p => decide (ahead q.beginSeq fromSeq < ahead q.beginSeq p.endSequenceNo ∧
          ahead q.beginSeq p.endSequenceNo ≤
          ahead q.beginSeq fromSeq + (sizes.map UInt32.toNat).sum)) ∧
    ∀ seqNum, ahead q.beginSeq seqNum ≤ ahead q.beginSeq q.endSeq →
      q.discardUpTo seqNum = .ok ⟨seqNum, q.endSeq, q.payloadQueue.filter fun p =>
        decide (ahead q.beginSeq seqNum < ahead q.beginSeq p.endSequenceNo)⟩ := by
  have ordered := ordered_of_path ran (init_ordered startSeq)
  exact ⟨fun fromSeq sizes fits => ordered.createSegments fits, fun seqNum fits =>
    ordered.discardUpTo fits⟩

theorem segments_exact_two :
    ∃ segs, createSegments (((init 1).enqueueAppData 'A' 100).enqueueAppData 'B' 50) 1 [100, 20] =
    .ok segs ∧ segs.flatMap MsgSegment.payloads = [⟨101, 'A'⟩] := by
  have ran : Trace.Path Runs Fits (init 1) [.enqueueAppData 'A' 100, .enqueueAppData 'B' 50]
      (((init 1).enqueueAppData 'A' 100).enqueueAppData 'B' 50) :=
    .cons rfl (show _ < _ by decide) (.cons rfl (show _ < _ by decide) (.nil _))
  obtain ⟨segs, made, payloads⟩ := (segments_exact ran).1 1 [100, 20] (by decide)
  exact ⟨segs, made, payloads.trans (by decide)⟩

end TCPMsgBasedSendQueue

namespace Transfer

structure Carries (start : UInt32) (sent : List (Nat × α)) (total : Nat) (s : Nat × MsgSegment α) :
    Prop where
  begins : s.2.sequenceNo = start + UInt32.ofNat s.1
  ends : s.1 + s.2.payloadLength.toNat ≤ total
  payloads : s.2.payloads =
    (sent.filter fun m => decide (s.1 < m.1 ∧ m.1 ≤ s.1 + s.2.payloadLength.toNat)).map
      (payloadOf start)

structure Streamed (t : Transfer α) : Prop where
  increasing : t.sent.Pairwise fun m m' => m.1 < m'.1
  within : ∀ m ∈ t.sent, m.1 ≤ t.total
  first : t.sendQueue.beginSeq = t.start + UInt32.ofNat t.acked
  last : t.sendQueue.endSeq = t.start + UInt32.ofNat t.total
  inside : t.acked ≤ t.total
  short : t.total < t.acked + 2 ^ 31
  queued : t.sendQueue.payloadQueue =
    (t.sent.filter fun m => decide (t.acked < m.1)).map (payloadOf t.start)
  carried : ∀ s ∈ t.network, Carries t.start t.sent t.total s

/-- A segment that is taken fits into half the sequence space together with all that is there,
brings no message that ends at or below `rcv_nxt`, and leaves the messages that wait on one side of
it as plain numbers. -/
def InHalf (t : Transfer α) (position : Nat) (seg : MsgSegment α) : Prop :=
  ∃ low, low ≤ t.moved ∧ low ≤ position ∧ t.moved < low + 2 ^ 31 ∧
    position + seg.payloadLength.toNat < low + 2 ^ 31 ∧
    ∀ r ∈ t.receiver.receiveQueue.regionList,
      t.moved + ahead t.receiver.rcvNxt r.endSeq < low + 2 ^ 31

def OneSide (rcvNxt : UInt32) (payloads : List (Payload α)) : Prop :=
  (∀ p ∈ payloads, rcvNxt < p.endSequenceNo) ∨ (∀ p ∈ payloads, p.endSequenceNo < rcvNxt)

def Admits (t : Transfer α) : Event α → Prop
  | .send _ byteLength =>
    0 < byteLength ∧ ahead t.sendQueue.beginSeq t.sendQueue.endSeq + byteLength.toNat < 2 ^ 31
  | .transmit fromSeq numBytes =>
    ahead t.sendQueue.beginSeq fromSeq + numBytes.toNat ≤
      ahead t.sendQueue.beginSeq t.sendQueue.endSeq
  | .discard seqNum =>
    ahead t.sendQueue.beginSeq seqNum ≤ ahead t.sendQueue.beginSeq t.sendQueue.endSeq
  | .deliver index rcvWnd => ∀ position seg, t.network[index]? = some (position, seg) →
    t.receiver.takes seg rcvWnd = true → t.InHalf position seg ∧
      (∀ p ∈ seg.payloads, seqGreater p.endSequenceNo t.receiver.rcvNxt = true) ∧
      OneSide t.receiver.rcvNxt (t.receiver.receiveQueue.payloadList ++ seg.payloads)

section Sender

variable {t : Transfer α} (streamed : t.Streamed)

include streamed

theorem buffered : ahead t.sendQueue.beginSeq t.sendQueue.endSeq = t.total - t.acked := by
  have short := streamed.short
  rw [streamed.first, streamed.last, ahead_ofNat t.start streamed.inside (by omega)]

theorem position_of_ahead (seq : UInt32) :
    seq = t.start + UInt32.ofNat (t.acked + ahead t.sendQueue.beginSeq seq) := by
  rw [ahead, add_ofNat_add, ← streamed.first, add_sub_cancel]

theorem send_streamed {t' : Transfer α} {msg : α} {byteLength : UInt32} (some : 0 < byteLength)
    (fits : ahead t.sendQueue.beginSeq t.sendQueue.endSeq + byteLength.toNat < 2 ^ 31)
    (done : t.step (.send msg byteLength) = .ok t') : t'.Streamed := by
  cases done
  have few := buffered streamed ▸ fits
  have some' : 0 < byteLength.toNat := some
  have inside := streamed.inside
  have last : t.sendQueue.endSeq + byteLength =
      t.start + UInt32.ofNat (t.total + byteLength.toNat) := by
    rw [streamed.last, add_ofNat_add]
  constructor
  case increasing =>
    refine pairwise_append.mpr ⟨streamed.increasing, pairwise_singleton _ _, ?_⟩
    intro m member m' new
    cases mem_singleton.mp new
    have := streamed.within m member
    simp only
    omega
  case within =>
    intro m member
    rcases mem_snoc member with old | rfl
    · have := streamed.within m old
      simp only
      omega
    · exact le_rfl
  case first => exact streamed.first
  case last => exact last
  case inside =>
    simp only
    omega
  case short =>
    simp only
    omega
  case queued =>
    have new : t.acked < t.total + byteLength.toNat := by omega
    simp [TCPMsgBasedSendQueue.enqueueAppData, streamed.queued, last, payloadOf, new]
  case carried =>
    intro s member
    obtain ⟨begins, ends, payloads⟩ := streamed.carried s member
    refine ⟨begins, ?_, ?_⟩
    · simp only
      omega
    · have later : ¬ (s.1 < t.total + byteLength.toNat ∧
          t.total + byteLength.toNat ≤ s.1 + s.2.payloadLength.toNat) := by omega
      simp only [payloads, filter_append, filter_singleton, later, decide_false]
      simp

theorem ahead_queued {m : Nat × α} (member : m ∈ t.sent) (later : t.acked < m.1) :
    ahead t.sendQueue.beginSeq (payloadOf t.start m).endSequenceNo = m.1 - t.acked := by
  have within := streamed.within m member
  have short := streamed.short
  rw [streamed.first, payloadOf, ahead_ofNat t.start later.le (by omega)]

theorem queued_filter (test : Nat → Prop) [DecidablePred test] :
    (t.sendQueue.payloadQueue.filter fun p =>
      decide (test (ahead t.sendQueue.beginSeq p.endSequenceNo))) =
      (t.sent.filter fun m => decide (t.acked < m.1 ∧ test (m.1 - t.acked))).map
        (payloadOf t.start) := by
  rw [streamed.queued, List.filter_map, List.filter_filter]
  refine congrArg (List.map _) (filter_congr fun m sent => ?_)
  by_cases later : t.acked < m.1
  · simp [Function.comp, ahead_queued streamed sent later, later]
  · simp [later]

theorem transmit_streamed (ordered : t.sendQueue.Ordered) {fromSeq numBytes : UInt32}
    (fits : ahead t.sendQueue.beginSeq fromSeq + numBytes.toNat ≤
      ahead t.sendQueue.beginSeq t.sendQueue.endSeq) {seg : MsgSegment α}
    (made : t.sendQueue.createSegmentWithBytes fromSeq numBytes = .ok seg) : Streamed { t with
      network := t.network ++ [(t.acked + ahead t.sendQueue.beginSeq fromSeq, seg)] } := by
  rw [ordered.createSegmentWithBytes fits] at made
  cases made
  rw [buffered streamed] at fits
  have inside := streamed.inside
  refine { streamed with carried := fun s member => ?_ }
  rcases mem_snoc member with old | rfl
  · exact streamed.carried s old
  · refine ⟨position_of_ahead streamed fromSeq, by simp only; omega, ?_⟩
    refine (queued_filter streamed fun n => ahead t.sendQueue.beginSeq fromSeq < n ∧ n ≤ _).trans
      (congrArg (List.map _) (filter_congr fun m _ => ?_))
    simp only [decide_eq_decide]
    omega

theorem discard_streamed (ordered : t.sendQueue.Ordered) {seqNum : UInt32}
    (fits : ahead t.sendQueue.beginSeq seqNum ≤ ahead t.sendQueue.beginSeq t.sendQueue.endSeq)
    {queue : TCPMsgBasedSendQueue α} (kept : t.sendQueue.discardUpTo seqNum = .ok queue) :
    Streamed { t with
      sendQueue := queue, acked := t.acked + ahead t.sendQueue.beginSeq seqNum } := by
  rw [ordered.discardUpTo fits] at kept
  cases kept
  rw [buffered streamed] at fits
  have inside := streamed.inside
  have short := streamed.short
  refine { streamed with
    first := position_of_ahead streamed seqNum
    inside := by simp only; omega
    short := by simp only; omega
    queued := ?_ }
  refine (queued_filter streamed fun n => ahead t.sendQueue.beginSeq seqNum < n).trans
    (congrArg (List.map _) (filter_congr fun m _ => ?_))
  simp only [decide_eq_decide]
  omega

end Sender

abbrev InMapOrder (l : List (Payload α)) : Prop :=
  l.Pairwise fun p q => p.endSequenceNo < q.endSequenceNo

section Payloads

variable {p q : Payload α} {l ps : List (Payload α)}

theorem mem_insertPayload (member : q ∈ insertPayload p l) : q = p ∨ q ∈ l := by
  induction l with
  | nil => exact .inl (mem_singleton.mp member)
  | cons i l ih =>
    rw [insertPayload] at member
    split_ifs at member
    · exact mem_cons.mp member
    · exact .inr member
    · rcases mem_cons.mp member with rfl | member
      · exact .inr mem_cons_self
      · exact (ih member).imp_right (mem_cons_of_mem i)

theorem mem_insertPayload_of_mem (member : q ∈ l) : q ∈ insertPayload p l := by
  induction l with
  | nil => cases member
  | cons i l ih =>
    rw [insertPayload]
    split_ifs
    · exact mem_cons_of_mem p member
    · exact member
    · rcases mem_cons.mp member with rfl | member
      · exact mem_cons_self
      · exact mem_cons_of_mem i (ih member)

theorem insertPayload_present : ∃ q ∈ insertPayload p l, q.endSequenceNo = p.endSequenceNo := by
  induction l with
  | nil => exact ⟨p, mem_singleton_self p, rfl⟩
  | cons i l ih =>
    rw [insertPayload]
    split_ifs with less same
    · exact ⟨p, mem_cons_self, rfl⟩
    · exact ⟨i, mem_cons_self, same.symm⟩
    · obtain ⟨q, member, key⟩ := ih
      exact ⟨q, mem_cons_of_mem i member, key⟩

theorem insertPayload_sorted (sorted : InMapOrder l) : InMapOrder (insertPayload p l) := by
  induction l with
  | nil => exact pairwise_singleton _ _
  | cons i l ih =>
    obtain ⟨first, rest⟩ := pairwise_cons.mp sorted
    rw [insertPayload]
    split_ifs with less same
    · refine pairwise_cons.mpr ⟨fun q member => ?_, sorted⟩
      rcases mem_cons.mp member with rfl | member
      · exact less
      · exact UInt32.lt_trans less (first q member)
    · exact sorted
    · refine pairwise_cons.mpr ⟨fun q member => ?_, ih rest⟩
      rcases mem_insertPayload member with rfl | member
      · exact UInt32.lt_of_le_of_ne (UInt32.not_lt.mp less) (Ne.symm same)
      · exact first q member

theorem insertPayloads_sorted (sorted : InMapOrder l) : InMapOrder (insertPayloads ps l) := by
  induction ps generalizing l with
  | nil => exact sorted
  | cons p ps ih => exact ih (insertPayload_sorted sorted)

theorem mem_insertPayloads_iff (unique : ∀ p ∈ l ++ ps, ∀ q ∈ l ++ ps,
    p.endSequenceNo = q.endSequenceNo → p = q) : q ∈ insertPayloads ps l ↔ q ∈ l ++ ps := by
  induction ps generalizing l with
  | nil => simp [insertPayloads]
  | cons p ps ih =>
    have inserted : ∀ q, q ∈ insertPayload p l ↔ q = p ∨ q ∈ l := by
      refine fun q => ⟨mem_insertPayload, ?_⟩
      rintro (rfl | member)
      · obtain ⟨other, member, key⟩ := @insertPayload_present α q l
        have known : other ∈ l ++ q :: ps := by
          rcases mem_insertPayload member with rfl | old
          · exact mem_append_right l mem_cons_self
          · exact mem_append_left _ old
        rwa [unique other known q (mem_append_right l mem_cons_self) key] at member
      · exact mem_insertPayload_of_mem member
    have same : ∀ q, q ∈ insertPayload p l ++ ps ↔ q ∈ l ++ p :: ps := by
      intro q
      simp only [mem_append, inserted, mem_cons]
      tauto
    have rest := @ih (insertPayload p l) fun p hp q hq =>
      unique p ((same p).mp hp) q ((same q).mp hq)
    exact rest.trans (same q)

end Payloads

section Extract

variable {regions regions' : TCPVirtualDataRcvQueue} {seq : UInt32} {l : List (Payload α)}

theorem extractAll_messages {octets octets' : UInt32}
    (extracts : regions.extractTo seq = .ok (octets, regions'))
    (settled : regions'.extractTo seq = .ok (octets', regions')) :
    TCPMsgBasedRcvQueue.extractAll seq (l.length + 1) ⟨regions, l⟩ =
      .ok ((l.takeWhile fun p => !seqGreater p.endSequenceNo seq).map Payload.msg,
        ⟨regions', l.dropWhile fun p => !seqGreater p.endSequenceNo seq⟩) := by
  induction l generalizing regions octets with
  | nil => simp [TCPMsgBasedRcvQueue.extractAll, TCPMsgBasedRcvQueue.extractBytesUpTo, extracts]
  | cons p l ih =>
    have later := ih settled
    cases beyond : seqGreater p.endSequenceNo seq <;>
      simp_all [TCPMsgBasedRcvQueue.extractAll, TCPMsgBasedRcvQueue.extractBytesUpTo, bind,
        Except.bind]

end Extract

def Known (t : Transfer α) (p : Payload α) : Prop :=
  ∃ m ∈ t.sent, p = payloadOf t.start m ∧ t.moved < m.1 ∧ m.1 < t.moved + 2 ^ 31

structure Kept (t : Transfer α) : Prop where
  position : t.receiver.rcvNxt = t.start + UInt32.ofNat t.moved
  agree : t.receiver.receiveQueue.rcvNxt = t.receiver.rcvNxt
  above : Separated t.receiver.rcvNxt 1 t.receiver.receiveQueue.regionList
  behind : t.moved ≤ t.total
  arrived : ∀ octet, Covers t.receiver.rcvNxt t.receiver.receiveQueue.regionList octet →
    t.moved + octet < t.total
  sorted : t.receiver.receiveQueue.payloadList.Pairwise fun p q => p.endSequenceNo < q.endSequenceNo
  known : ∀ p ∈ t.receiver.receiveQueue.payloadList, t.Known p
  complete : ∀ m ∈ t.sent, ∀ octet, m.1 = t.moved + octet + 1 →
    Covers t.receiver.rcvNxt t.receiver.receiveQueue.regionList octet →
      payloadOf t.start m ∈ t.receiver.receiveQueue.payloadList
  delivered : t.receiver.delivered = (t.sent.filter fun m => decide (m.1 ≤ t.moved)).map Prod.snd

theorem send_kept {t t' : Transfer α} (kept : t.Kept) {msg : α} {byteLength : UInt32}
    (some : 0 < byteLength) (done : t.step (.send msg byteLength) = .ok t') : t'.Kept := by
  cases done
  have some' : 0 < byteLength.toNat := some
  have behind := kept.behind
  refine { kept with behind := ?_, arrived := ?_, known := ?_, complete := ?_, delivered := ?_ }
  · simp only
    omega
  · intro octet covered
    have := kept.arrived octet covered
    simp only
    omega
  · intro p member
    obtain ⟨m, sent, facts⟩ := kept.known p member
    exact ⟨m, mem_append_left _ sent, facts⟩
  · intro m member octet ends covered
    rcases mem_snoc member with old | rfl
    · exact kept.complete m old octet ends covered
    · have := kept.arrived octet covered
      simp only at ends
      omega
  · have later : ¬ t.total + byteLength.toNat ≤ t.moved := by omega
    simp [kept.delivered, later]

theorem filter_le_append {l : List (Nat × α)} (increasing : l.Pairwise fun m m' => m.1 < m'.1)
    {a b : Nat} (le : a ≤ b) : (l.filter fun m => decide (m.1 ≤ b)) =
      (l.filter fun m => decide (m.1 ≤ a)) ++ l.filter fun m => decide (a < m.1 ∧ m.1 ≤ b) := by
  rw [Sorted.filter_split_le (increasing.imp Nat.le_of_lt) _ a]
  congr 1 <;> refine filter_congr fun m _ => ?_ <;>
    simp only [← decide_not, ← Bool.decide_and, decide_eq_decide] <;> omega

section Waiting

variable {t : Transfer α} {l : List (Payload α)} (streamed : t.Streamed) (kept : t.Kept)
  (known : ∀ p ∈ l, t.Known p) (sorted : InMapOrder l) (side : OneSide t.receiver.rcvNxt l)
  {moved' : Nat}
  (le : t.moved ≤ moved') (short : moved' < t.moved + 2 ^ 31)
  (all : ∀ m ∈ t.sent, t.moved < m.1 → m.1 ≤ moved' → payloadOf t.start m ∈ l)

include kept in
theorem ahead_of_known {m : Nat × α} (above : t.moved < m.1) (near : m.1 < t.moved + 2 ^ 31) :
    ahead t.receiver.rcvNxt (payloadOf t.start m).endSequenceNo = m.1 - t.moved := by
  rw [kept.position, payloadOf, ahead_ofNat t.start above.le (by omega)]

include streamed in
theorem eq_of_position {m m' : Nat × α} (member : m ∈ t.sent) (member' : m' ∈ t.sent)
    (same : m.1 = m'.1) : m = m' := by
  by_contra different
  rcases pairwise_iff_getElem.mp streamed.increasing with increasing
  obtain ⟨i, hi, rfl⟩ := getElem_of_mem member
  obtain ⟨j, hj, rfl⟩ := getElem_of_mem member'
  rcases Nat.lt_trichotomy i j with less | rfl | less
  · exact absurd same (increasing i j hi hj less).ne
  · exact different rfl
  · exact absurd same (increasing j i hj hi less).ne'

include streamed kept known in
theorem known_unique : ∀ p ∈ l, ∀ q ∈ l, p.endSequenceNo = q.endSequenceNo → p = q := by
  intro p hp q hq key
  obtain ⟨m, member, rfl, above, near⟩ := known p hp
  obtain ⟨m', member', rfl, above', near'⟩ := known q hq
  have first := ahead_of_known kept above near
  have second := ahead_of_known kept above' near'
  rw [key, second] at first
  rw [eq_of_position streamed member member' (by omega)]

include kept side in
/-- On one side of `rcv_nxt`, the map has the messages in the order of sending. -/
theorem side_order {m m' : Nat × α} (member : payloadOf t.start m ∈ l)
    (member' : payloadOf t.start m' ∈ l) (above : t.moved < m.1) (near : m.1 < t.moved + 2 ^ 31)
    (above' : t.moved < m'.1)
    (near' : m'.1 < t.moved + 2 ^ 31) :
    (payloadOf t.start m).endSequenceNo < (payloadOf t.start m').endSequenceNo ↔ m.1 < m'.1 := by
  have first := ahead_of_known kept above near
  have second := ahead_of_known kept above' near'
  have both := side.imp (fun all => And.intro (all _ member) (all _ member')) fun all =>
    And.intro (all _ member) (all _ member')
  rw [lt_iff_ahead_lt both, first, second]
  omega

include le short in
theorem seqGreater_payloadOf {m : Nat × α} (above : t.moved < m.1) (near : m.1 < t.moved + 2 ^ 31) :
    seqGreater (payloadOf t.start m).endSequenceNo (t.start + UInt32.ofNat moved') =
    decide (moved' < m.1) :=
  seqGreater_position above.le le near short

include streamed kept known sorted side le short all

theorem passed_eq :
    (l.filter fun p => !seqGreater p.endSequenceNo (t.start + UInt32.ofNat moved')) =
      (t.sent.filter fun m => decide (t.moved < m.1 ∧ m.1 ≤ moved')).map (payloadOf t.start) := by
  have irrefl : Std.Irrefl fun p q : Payload α => p.endSequenceNo < q.endSequenceNo :=
    ⟨fun p => UInt32.lt_irrefl p.endSequenceNo⟩
  have antisymm : Std.Antisymm fun p q : Payload α => p.endSequenceNo < q.endSequenceNo :=
    ⟨fun p q less less' => absurd (UInt32.lt_trans less less') (UInt32.lt_irrefl _)⟩
  refine List.Pairwise.eq_of_mem_iff (sorted.filter _) ?_ fun p => ?_
  · refine pairwise_map.mpr ((streamed.increasing.filter _).imp_of_mem fun {m m'} hm hm' less => ?_)
    obtain ⟨member, range⟩ := mem_filter.mp hm
    obtain ⟨member', range'⟩ := mem_filter.mp hm'
    rw [decide_eq_true_iff] at range range'
    exact (side_order kept side (all m member range.1 range.2) (all m' member' range'.1 range'.2)
      range.1 (by omega) range'.1 (by omega)).mpr less
  · simp only [mem_filter, List.mem_map, Bool.not_eq_true', decide_eq_true_eq]
    constructor
    · rintro ⟨member, passed⟩
      obtain ⟨m, sent, rfl, above, near⟩ := known p member
      rw [seqGreater_payloadOf le short above near, decide_eq_false_iff_not, Nat.not_lt] at passed
      exact ⟨m, ⟨sent, above, passed⟩, rfl⟩
    · rintro ⟨m, ⟨sent, above, passed⟩, rfl⟩
      refine ⟨all m sent above passed, ?_⟩
      rw [seqGreater_payloadOf le short above (by omega), decide_eq_false_iff_not, Nat.not_lt]
      exact passed

/-- As `rcv_nxt` moves on, the messages it passes are at the head of the map, in order. -/
theorem handed_over :
    ((l.takeWhile fun p => !seqGreater p.endSequenceNo (t.start + UInt32.ofNat moved')).map
        Payload.msg) = (t.sent.filter fun m => decide (t.moved < m.1 ∧ m.1 ≤ moved')).map Prod.snd ∧
      (l.dropWhile fun p => !seqGreater p.endSequenceNo (t.start + UInt32.ofNat moved')) =
        l.filter fun p => seqGreater p.endSequenceNo (t.start + UInt32.ofNat moved') := by
  have cut : l.Pairwise fun p q =>
      (!seqGreater q.endSequenceNo (t.start + UInt32.ofNat moved')) = true →
        (!seqGreater p.endSequenceNo (t.start + UInt32.ofNat moved')) = true := by
    refine sorted.imp_of_mem fun {p q} hp hq less => ?_
    obtain ⟨m, -, rfl, above, near⟩ := known p hp
    obtain ⟨m', -, rfl, above', near'⟩ := known q hq
    have order := (side_order kept side hp hq above near above' near').mp less
    rw [seqGreater_payloadOf le short above near, seqGreater_payloadOf le short above' near']
    simp only [Bool.not_eq_true', decide_eq_false_iff_not]
    omega
  rw [Sorted.takeWhile_eq_filter cut, Sorted.dropWhile_eq_filter cut]
  refine ⟨?_, by simp⟩
  rw [passed_eq streamed kept known sorted side le short all, List.map_map]
  rfl

end Waiting

end Transfer

namespace MsgReceiver

variable {s : MsgReceiver α} {seg : MsgSegment α} {base : UInt32} {low : Nat} {first : Region}
  {rest : List Region}

variable (agree : s.receiveQueue.rcvNxt = s.rcvNxt)
  (merged : merge ⟨seg.sequenceNo, seg.sequenceNo + seg.payloadLength⟩ s.receiveQueue.regionList =
    first :: rest)

include agree merged

theorem processText_waits (above : seqGE s.rcvNxt first.beginSeq = false) :
    s.processText seg = .ok { s with receiveQueue := ⟨⟨s.rcvNxt, first :: rest⟩,
      insertPayloads seg.payloads s.receiveQueue.payloadList⟩ } := by
  simp [processText, TCPMsgBasedRcvQueue.insertBytesFromSegment, insertBytesFromSegment, merged,
    agree, above]

theorem processText_advances (sorted : Separated base low (first :: rest))
    (reached : seqGE s.rcvNxt first.beginSeq = true) (advanced : first.endSeq ≠ s.rcvNxt)
    {l : List (Payload α)}
    (inserted : insertPayloads seg.payloads s.receiveQueue.payloadList = l) :
    s.processText seg = .ok { s with
      rcvNxt := first.endSeq
      receiveQueue :=
        ⟨⟨first.endSeq, rest⟩, l.dropWhile fun p => !seqGreater p.endSequenceNo first.endSeq⟩
      delivered := s.delivered ++
        (l.takeWhile fun p => !seqGreater p.endSequenceNo first.endSeq).map Payload.msg } := by
  have extracted :=
    @Transfer.extractAll_messages α _ _ _ l _ _ (extractTo_first sorted) (extractTo_rest sorted)
  simp [processText, TCPMsgBasedRcvQueue.insertBytesFromSegment,
    insertBytesFromSegment, merged, agree, reached, advanced, inserted, extracted]

end MsgReceiver

namespace Transfer

section Deliver

variable {t : Transfer α} {position low : Nat} {seg : MsgSegment α} (kept : t.Kept)
  (carries : Carries t.start t.sent t.total (position, seg)) (le : low ≤ t.moved) (le' : low ≤
    position)
  (near : t.moved < low + 2 ^ 31) (near' : position + seg.payloadLength.toNat < low + 2 ^ 31)

include carries le' near' in
theorem ahead_sequenceNo : ahead (t.start + UInt32.ofNat low) seg.sequenceNo = position - low := by
  rw [carries.begins, ahead_ofNat t.start le' (by omega)]

include kept le near

theorem ahead_rcvNxt : ahead (t.start + UInt32.ofNat low) t.receiver.rcvNxt = t.moved - low := by
  rw [kept.position, ahead_ofNat t.start le (by omega)]

include carries le' near' in
theorem all_known (fresh : ∀ p ∈ seg.payloads, seqGreater p.endSequenceNo t.receiver.rcvNxt =
    true) : ∀ p ∈ t.receiver.receiveQueue.payloadList ++ seg.payloads, t.Known p := by
  intro p member
  rcases mem_append.mp member with old | new
  · exact kept.known p old
  · have above := fresh p new
    rw [carries.payloads] at new
    obtain ⟨m, inside, rfl⟩ := List.mem_map.mp new
    obtain ⟨sent, range⟩ := mem_filter.mp inside
    rw [decide_eq_true_iff] at range
    simp only at range
    rw [kept.position, payloadOf, seqGreater_position (show low ≤ m.1 by omega) le (by omega) near,
      decide_eq_true_iff] at above
    exact ⟨m, sent, rfl, above, by omega⟩

include carries le' near' in
theorem merged_arrived (text : seg.payloadLength ≠ 0)
    (sorted : Separated (t.start + UInt32.ofNat low) (t.moved - low + 1)
      t.receiver.receiveQueue.regionList)
    (inserted : ∀ p, p ∈ insertPayloads seg.payloads
      t.receiver.receiveQueue.payloadList ↔ p ∈ t.receiver.receiveQueue.payloadList ++ seg.payloads)
    {octet : Nat} (covered : Covers (t.start + UInt32.ofNat low)
      (merge ⟨seg.sequenceNo, seg.sequenceNo + seg.payloadLength⟩
        t.receiver.receiveQueue.regionList) octet) :
    low + octet < t.total ∧ ∀ m ∈ t.sent, m.1 = low + octet + 1 → payloadOf t.start m ∈
        insertPayloads seg.payloads t.receiver.receiveQueue.payloadList := by
  have first := ahead_sequenceNo carries le' near'
  obtain ⟨filled, nearEnd, -⟩ :=
    @segment_region (t.start + UInt32.ofNat low) seg.sequenceNo seg.payloadLength text (by omega)
  have last := @ahead_add (t.start + UInt32.ofNat low) seg.sequenceNo seg.payloadLength (by omega)
  have next := ahead_rcvNxt kept le near
  rcases (merge_covers ⟨seg.sequenceNo, seg.sequenceNo + seg.payloadLength⟩ filled nearEnd
    sorted).mp covered with has | old
  · have ends := carries.ends
    obtain ⟨from_, upto⟩ := has
    simp only at from_ upto ends
    refine ⟨by omega, fun m sent position => (inserted _).mpr (mem_append_right _ ?_)⟩
    rw [carries.payloads]
    refine List.mem_map_of_mem (mem_filter.mpr ⟨sent, decide_eq_true ?_⟩)
    simp only
    omega
  · obtain ⟨r, member, has⟩ := old
    have above := (sorted.mem member).1
    have far := has.1
    obtain ⟨beyond, rfl⟩ := Nat.exists_eq_add_of_le (show t.moved - low ≤ octet by omega)
    have old' : Covers t.receiver.rcvNxt t.receiver.receiveQueue.regionList beyond := by
      rw [← next] at sorted has
      exact (covers_rebase sorted).mpr ⟨r, member, has⟩
    have arrived := kept.arrived beyond old'
    refine ⟨by omega, fun m sent position => (inserted _).mpr (mem_append_left _ ?_)⟩
    exact kept.complete m sent beyond (by omega) old'

variable {first : Region} {rest : List Region} {l : List (Payload α)} (inOrder : InMapOrder l)
  (known : ∀ p ∈ l, t.Known p)
  (arrived : ∀ octet, Covers (t.start + UInt32.ofNat low) (first :: rest) octet →
    low + octet < t.total ∧ ∀ m ∈ t.sent, m.1 = low + octet + 1 → payloadOf t.start m ∈ l)

include inOrder known arrived

theorem waits_kept (sorted : Separated (t.start + UInt32.ofNat low) (t.moved - low + 1)
    (first :: rest)) : Kept { t with receiver := { t.receiver with
      receiveQueue := ⟨⟨t.receiver.rcvNxt, first :: rest⟩, l⟩ } } := by
  have next := ahead_rcvNxt kept le near
  rw [← next] at sorted
  have here : ∀ octet, Covers t.receiver.rcvNxt (first :: rest) octet →
      Covers (t.start + UInt32.ofNat low) (first :: rest) (t.moved - low + octet) := by
    intro octet covered
    rw [← next]
    exact (covers_rebase sorted).mp covered
  refine { kept with
    agree := rfl, above := sorted.moved, arrived := ?_, sorted := inOrder, known := known
    complete := ?_ }
  · intro octet covered
    have := (arrived _ (here octet covered)).1
    simp only
    omega
  · intro m sent octet ends covered
    simp only at ends
    exact (arrived _ (here octet covered)).2 m sent (by omega)

/-- The segment closes the gap: `rcv_nxt` moves to the end of the first region, and the messages
that end in it are handed over. -/
theorem advances_kept (streamed : t.Streamed) (sorted : Separated (t.start + UInt32.ofNat low)
      (ahead (t.start + UInt32.ofNat low) first.beginSeq) (first :: rest))
    (reached : ahead (t.start + UInt32.ofNat low) first.beginSeq ≤ t.moved - low)
    (past : t.moved - low < ahead (t.start + UInt32.ofNat low) first.endSeq)
    (side : OneSide t.receiver.rcvNxt l) :
    Kept { t with
      receiver := { t.receiver with
        rcvNxt := first.endSeq
        receiveQueue :=
          ⟨⟨first.endSeq, rest⟩, l.dropWhile fun p => !seqGreater p.endSequenceNo first.endSeq⟩
        delivered := t.receiver.delivered ++
          (l.takeWhile fun p => !seqGreater p.endSequenceNo first.endSeq).map Payload.msg }
      moved := t.moved + ahead t.receiver.rcvNxt first.endSeq } := by
  have nearEnd := sorted.2.2.1
  have next := ahead_rcvNxt kept le near
  have step := ahead_of_le (next.trans_le past.le)
  obtain ⟨moved', same⟩ : ∃ moved', moved' = t.moved + ahead t.receiver.rcvNxt first.endSeq :=
    ⟨_, rfl⟩
  have place : first.endSeq = t.start + UInt32.ofNat moved' := by
    rw [same, ahead, add_ofNat_add, ← kept.position, add_sub_cancel]
  have whole : moved' = low + ahead (t.start + UInt32.ofNat low) first.endSeq := by omega
  have here : ∀ octet, Covers first.endSeq rest octet →
    Covers (t.start + UInt32.ofNat low) (first :: rest)
        (ahead (t.start + UInt32.ofNat low) first.endSeq + octet) := by
    intro octet covered
    obtain ⟨r, member, has⟩ := (covers_rebase sorted.2.2.2).mp covered
    exact ⟨r, mem_cons_of_mem first member, has⟩
  have passed : ∀ m ∈ t.sent, t.moved < m.1 → m.1 ≤ moved' → payloadOf t.start m ∈ l := by
    intro m sent after upto
    refine (arrived (m.1 - low - 1) ⟨first, mem_cons_self, ?_, ?_⟩).2 m sent ?_
    all_goals omega
  have onward : t.moved ≤ moved' := by omega
  have short : moved' < t.moved + 2 ^ 31 := by omega
  have handed := handed_over streamed kept known inOrder side onward short passed
  rw [← same, place, handed.1, handed.2]
  constructor
  case position => rfl
  case agree => rfl
  case above =>
    rw [← place]
    exact sorted.2.2.2.moved
  case behind =>
    have last := (arrived (ahead (t.start + UInt32.ofNat low) first.endSeq - 1)
      ⟨first, mem_cons_self, by omega, by omega⟩).1
    simp only
    omega
  case arrived =>
    rw [← place]
    intro octet covered
    have := (arrived _ (here octet covered)).1
    simp only
    omega
  case sorted => exact inOrder.filter _
  case known =>
    intro p member
    obtain ⟨inside, later⟩ := mem_filter.mp member
    obtain ⟨m, sent, rfl, above, near⟩ := known p inside
    rw [seqGreater_payloadOf onward short above near, decide_eq_true_iff] at later
    exact ⟨m, sent, rfl, later, by simp only; omega⟩
  case complete =>
    rw [← place]
    intro m sent octet ends covered
    have inside := here octet covered
    obtain ⟨r, member, has⟩ := inside
    have bound := (sorted.mem member).2.2
    have below := has.2
    simp only at ends
    refine mem_filter.mpr ⟨(arrived _ (here octet covered)).2 m sent (by omega), ?_⟩
    rw [place, seqGreater_payloadOf onward short (by omega) (by omega), decide_eq_true_iff]
    omega
  case delivered =>
    simp only [kept.delivered]
    rw [filter_le_append streamed.increasing onward, map_append]

end Deliver

theorem deliver_kept {t : Transfer α} {position : Nat} {seg : MsgSegment α} {rcvWnd : UInt32}
    (streamed : t.Streamed) (kept : t.Kept) (member : (position, seg) ∈ t.network)
    (takes : t.receiver.takes seg rcvWnd = true) (inHalf : t.InHalf position seg)
    (fresh : ∀ p ∈ seg.payloads, seqGreater p.endSequenceNo t.receiver.rcvNxt = true)
    (side : OneSide t.receiver.rcvNxt (t.receiver.receiveQueue.payloadList ++ seg.payloads)) :
    ∃ receiver, t.receiver.processText seg = .ok receiver ∧ Kept { t with
      receiver := receiver, moved := t.moved + ahead t.receiver.rcvNxt receiver.rcvNxt } := by
  obtain ⟨low, le, le', near, near', nearRegions⟩ := inHalf
  have carries := streamed.carried _ member
  simp only [MsgReceiver.takes, Bool.and_eq_true, bne_iff_ne] at takes
  obtain ⟨⟨acceptable, text⟩, -⟩ := takes
  have next := ahead_rcvNxt kept le near
  have begins := ahead_sequenceNo carries le' near'
  obtain ⟨filled, nearEnd, -⟩ :=
    @segment_region (t.start + UInt32.ofNat low) seg.sequenceNo seg.payloadLength text (by omega)
  have sorted : Separated (t.start + UInt32.ofNat low) (t.moved - low + 1)
      t.receiver.receiveQueue.regionList := by
    rw [← next]
    refine kept.above.rebase (by omega) fun r member => ?_
    have := nearRegions r member
    rw [ahead_trans (show ahead _ t.receiver.rcvNxt + _ < 2 ^ 32 by omega)]
    omega
  have beyond :=
    @acceptable_reaches (t.start + UInt32.ofNat low) _ _ _ _ acceptable text (by omega) (by omega)
  have known := all_known kept carries le le' near near' fresh
  have inserted :=
    fun p => @mem_insertPayloads_iff α p t.receiver.receiveQueue.payloadList seg.payloads
    (known_unique streamed kept known)
  have arrived :=
    fun octet => @merged_arrived α t position low seg kept carries le le' near near' text
    sorted inserted octet
  have inOrder := @insertPayloads_sorted α _ seg.payloads kept.sorted
  have known' := fun p member => known p ((inserted p).mp member)
  have side' : OneSide t.receiver.rcvNxt
      (insertPayloads seg.payloads t.receiver.receiveQueue.payloadList) :=
    side.imp (fun all p member => all p ((inserted p).mp member))
      fun all p member => all p ((inserted p).mp member)
  obtain ⟨first, rest, merged, ⟨above, -, sorted'⟩ | ⟨reached, advanced, sorted', start, past⟩⟩ :=
    merge_cases ⟨seg.sequenceNo, seg.sequenceNo + seg.payloadLength⟩ filled nearEnd (by omega)
      (next ▸ sorted) beyond
  · refine ⟨_, MsgReceiver.processText_waits kept.agree merged above, ?_⟩
    rw [merged] at arrived
    rw [next] at sorted'
    simpa using waits_kept kept le near inOrder known' arrived sorted'
  · refine ⟨_, MsgReceiver.processText_advances kept.agree merged sorted' reached advanced rfl, ?_⟩
    rw [merged] at arrived
    rw [next] at start past
    exact advances_kept kept le near inOrder known' arrived streamed sorted'
      (start ▸ Nat.min_le_left _ _) past side'

theorem init_kept (start maxRcvBuffer : UInt32) : (init start maxRcvBuffer : Transfer α).Streamed ∧
    (TCPMsgBasedSendQueue.init start : TCPMsgBasedSendQueue α).Ordered ∧
    (init start maxRcvBuffer : Transfer α).Kept := by
  refine ⟨?_, TCPMsgBasedSendQueue.init_ordered start, ?_⟩
  · constructor <;> simp [init, TCPMsgBasedSendQueue.init]
  · constructor <;> simp [init, MsgReceiver.init, TCPMsgBasedRcvQueue.init,
      TCPVirtualDataRcvQueue.init, Separated, Covers]

theorem step_kept {t : Transfer α} {event : Event α} (streamed : t.Streamed)
    (ordered : t.sendQueue.Ordered) (kept : t.Kept) (admits : t.Admits event) :
    ∃ t', t.step event = .ok t' ∧ t'.Streamed ∧ t'.sendQueue.Ordered ∧ t'.Kept := by
  cases event with
  | send msg byteLength =>
    exact ⟨_, rfl, send_streamed streamed admits.1 admits.2 rfl,
      @TCPMsgBasedSendQueue.Ordered.runs _ _ _ (.enqueueAppData msg byteLength) ordered
      rfl admits.2,
      send_kept kept admits.1 rfl⟩
  | transmit fromSeq numBytes =>
    have made := ordered.createSegmentWithBytes admits
    refine ⟨_, ?_, transmit_streamed streamed ordered admits made, ordered, { kept with }⟩
    simp [step, made]
  | discard seqNum =>
    have left := ordered.discardUpTo admits
    refine ⟨_, ?_, discard_streamed streamed ordered admits left,
      @TCPMsgBasedSendQueue.Ordered.runs _ _ _ (.discardUpTo seqNum) ordered left trivial,
      { kept with }⟩
    simp [step, left]
  | deliver index rcvWnd =>
    cases found : t.network[index]? with
    | none => exact ⟨t, by simp [step, found], streamed, ordered, kept⟩
    | some s =>
      obtain ⟨position, seg⟩ := s
      cases takes : t.receiver.takes seg rcvWnd with
      | false =>
        refine ⟨t, ?_, streamed, ordered, kept⟩
        simp [step, found, MsgReceiver.receive, takes]
      | true =>
        obtain ⟨inHalf, fresh, side⟩ := admits position seg found takes
        obtain ⟨receiver, received, kept'⟩ :=
          deliver_kept streamed kept (mem_of_getElem? found) takes inHalf fresh side
        refine ⟨{ t with
          receiver := receiver, moved := t.moved + ahead t.receiver.rcvNxt receiver.rcvNxt }, ?_,
          { streamed with }, ordered, kept'⟩
        simp [step, found, MsgReceiver.receive, takes, received]

def Moves (t : Transfer α) (event : Event α) (t' : Transfer α) : Prop := t.step event = .ok t'

/-- Whatever the sender cuts and repeats and in whatever order segments arrive, the messages below
`rcv_nxt` are handed over once and in order. -/
theorem messages_in_order {start maxRcvBuffer : UInt32} {events : List (Event α)}
    (admitted : Trace.Each Moves Admits (init start maxRcvBuffer) events) :
    Trace.Always Moves (fun t => t.InOrder ∧ ∀ event, t.Admits event → ∃ t', Moves t event t')
      (init start maxRcvBuffer) events := by
  refine Trace.always_of_each (I := fun t => t.Streamed ∧ t.sendQueue.Ordered ∧ t.Kept) ?_ ?_
    (init_kept _ _) admitted
  · rintro t event t' ⟨streamed, ordered, kept⟩ admits moves
    obtain ⟨_, stepped, kept'⟩ := step_kept streamed ordered kept admits
    cases stepped.symm.trans moves
    exact kept'
  · rintro t ⟨streamed, ordered, kept⟩
    refine ⟨⟨kept.position, kept.delivered⟩, fun event admits => ?_⟩
    obtain ⟨t', stepped, -⟩ := step_kept streamed ordered kept admits
    exact ⟨t', stepped⟩

def reordered : List (Event Char) :=
  [.send 'A' 100, .send 'B' 50, .transmit 1 100, .transmit 101 50, .deliver 1 7504, .deliver 0 7504,
    .discard 101]

theorem reordered_in_order :
    (∃ t, reordered.foldlM step (init 1 7504) = .ok t ∧ t.receiver.delivered = ['A', 'B']) ∧
    Trace.Always Moves (fun t => t.InOrder ∧ ∀ event, t.Admits event → ∃ t', Moves t event t')
      (init 1 7504) reordered := by
  have half : ∀ {t : Transfer Char} {index : Nat} {s : Nat × MsgSegment Char},
    t.network[index]? = some s →
      (t.InHalf s.1 s.2 ∧ (∀ p ∈ s.2.payloads, seqGreater p.endSequenceNo t.receiver.rcvNxt =
        true) ∧ OneSide t.receiver.rcvNxt (t.receiver.receiveQueue.payloadList ++ s.2.payloads)) →
      t.Admits (.deliver index 7504) := by
    intro t index s found admits position seg found' _
    cases found.symm.trans found'
    exact admits
  refine ⟨⟨_, rfl, rfl⟩, messages_in_order ?_⟩
  refine .cons (fun _ => Except.ok.inj) ⟨by decide, by decide⟩ ?_
  refine .cons (fun _ => Except.ok.inj) ⟨by decide, by decide⟩ ?_
  iterate 2 refine .cons (fun _ => Except.ok.inj) (Nat.le_of_ble_eq_true rfl) ?_
  iterate 2
    refine .cons (fun _ => Except.ok.inj) (half rfl ⟨⟨0, by decide⟩, by decide, ?_⟩) ?_
    · exact .inl (by decide)
  exact .cons (fun _ => Except.ok.inj) (Nat.le_of_ble_eq_true rfl) trivial

instance [DecidableEq α] (t : Transfer α) : Decidable t.InOrder :=
  inferInstanceAs (Decidable (_ ∧ _))

/-- A message arrives and is repeated together with the next one: it is handed over twice. Across
the wrap the second of two messages is first in the map. -/
theorem repeatedAndWrapped_out_of_order :
    (∃ t, [Event.send 'A' 100, .transmit 1 100, .deliver 0 7504, .send 'B' 50, .transmit 1 150,
        .deliver 1 7504].foldlM step (init 1 7504) = .ok t ∧
        t.receiver.delivered = ['A', 'A', 'B'] ∧ ¬ t.InOrder) ∧
    ∃ t, [Event.send 'A' 50, .send 'B' 100, .transmit 4294967196 50, .transmit 4294967246 100,
        .deliver 1 7504, .deliver 0 7504].foldlM step (init 4294967196 7504) = .ok t ∧
      t.receiver.delivered = ['B', 'A'] ∧ ¬ t.InOrder := by
  refine ⟨⟨_, rfl, rfl, ?_⟩, _, rfl, rfl, ?_⟩
  · decide
  · decide

end Transfer

end Srwsn
