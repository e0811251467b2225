import Srwsn.Sctp.ReceiveStream

/-! The send streams of an SCTP association: queueing user messages, choosing a stream, 
fragmenting. -/
namespace Srwsn

open Outcome Function

def SCTP_COMMON_HEADER : Nat := 12
def SCTP_DATA_CHUNK_LENGTH : Nat := 16
def IP_HEADER_LENGTH : Nat := 20

def ADD_PADDING (x : Nat) : Nat := (x + 3) / 4 * 4

def stateHeader : UInt32 := 0

/-- A user message in a send queue, or a fragment of one. The number of the message counts from 
1. -/
structure SCTPDataMsg where
  sid : UInt16
  ppid : UInt32
  ordered : Bool
  msgNum : Nat
  booksize : UInt32
  userData : SCTPSimpleMessage
  bBit : Bool := false
  eBit : Bool := false
  fragment : Bool := false
  deriving DecidableEq

namespace SCTPDataMsg

/-- The variable `b` of `dequeueOutboundDataMsg`. -/
def chunkSize (msg : SCTPDataMsg) : Int32 :=
  Int32.ofNat (ADD_PADDING (msg.userData.byteLength + SCTP_DATA_CHUNK_LENGTH))

def tooLong (assocPmtu : UInt32) (msg : SCTPDataMsg) : Bool :=
  decide (msg.chunkSize > assocPmtu.toInt32 - Int32.ofNat IP_HEADER_LENGTH -
    Int32.ofNat SCTP_COMMON_HEADER)

def room (msg : SCTPDataMsg) : UInt64 :=
  UInt64.ofNat (ADD_PADDING (msg.userData.byteLength + SCTP_DATA_CHUNK_LENGTH))

def fragmentAt (msg : SCTPDataMsg) (offset msgbytes : UInt32) : SCTPDataMsg where
  sid := msg.sid
  ppid := msg.ppid
  ordered := msg.ordered
  msgNum := msg.msgNum
  booksize := msgbytes + stateHeader
  userData := ⟨msgbytes, (msg.userData.data.drop offset.toNat).take msgbytes.toNat, msgbytes.toNat⟩
  bBit := decide (offset = 0)
  eBit := decide (msg.userData.dataLen = offset + msgbytes)
  fragment := true

/-- The loop over the fragments. With `payload` 0 it does not end. -/
def fragments (payload : UInt32) (msg : SCTPDataMsg) :
    Nat → (offset : UInt32) → Except SctpFault (List SCTPDataMsg)
  | 0, _ => .error .outOfFuel
  | fuel + 1, offset =>
    let left := msg.userData.dataLen - offset
    let msgbytes := if payload > left then left else payload
    if msg.userData.data.length < offset.toNat + msgbytes.toNat then .error .oppError
    else if msg.userData.dataLen = offset + msgbytes then .ok [msg.fragmentAt offset msgbytes]
    else (fragments payload msg fuel (offset + msgbytes)).map (msg.fragmentAt offset msgbytes :: ·)

def fragmented (assocPmtu : UInt32) (msg : SCTPDataMsg) : Except SctpFault (List SCTPDataMsg) :=
  fragments (assocPmtu - UInt32.ofNat (IP_HEADER_LENGTH + SCTP_COMMON_HEADER +
    SCTP_DATA_CHUNK_LENGTH)) msg (msg.userData.dataLen.toNat + 1) 0

theorem cut_within {payload offset dataLen msgbytes : UInt32} (inside : offset ≤ dataLen)
    (chosen : (if payload > dataLen - offset then dataLen - offset else payload) = msgbytes) :
    offset.toNat + msgbytes.toNat ≤ dataLen.toNat ∧
      (offset + msgbytes).toNat = offset.toNat + msgbytes.toNat ∧
      (msgbytes = 0 → payload = 0 ∨ offset = dataLen) := by
  have left := UInt32.toNat_sub_of_le _ _ inside
  have below := dataLen.toNat_lt
  rw [UInt32.le_iff_toNat_le] at inside
  simp only [← UInt32.toNat_inj, UInt32.toNat_zero, UInt32.toNat_add]
  rw [← chosen]
  split_ifs with less
  · omega
  · rw [gt_iff_lt, UInt32.lt_iff_toNat_lt] at less
    omega

theorem fragments_ok {payload : UInt32} {msg : SCTPDataMsg} (progress : payload ≠ 0)
    (whole : msg.userData.dataLen.toNat ≤ msg.userData.data.length) {fuel : Nat} {offset : UInt32}
    (inside : offset.toNat ≤ msg.userData.dataLen.toNat)
    (enough : msg.userData.dataLen.toNat - offset.toNat < fuel) :
    ∃ parts, fragments payload msg fuel offset = .ok parts := by
  induction fuel generalizing offset with
  | zero => omega
  | succ fuel ih =>
    unfold fragments
    dsimp only
    generalize chosen : (if payload > msg.userData.dataLen - offset then
      msg.userData.dataLen - offset
      else payload) = msgbytes
    obtain ⟨bound, next, stuck⟩ := cut_within (UInt32.le_iff_toNat_le.mpr inside) chosen
    rw [if_neg (by omega)]
    split_ifs with done
    · exact ⟨_, rfl⟩
    · have moved : msgbytes.toNat ≠ 0 := fun none => by
        have zero : msgbytes = 0 := UInt32.toNat_inj.mp none
        rw [zero, UInt32.add_zero] at done
        exact (stuck zero).elim progress (Ne.symm done)
      obtain ⟨parts, rest⟩ := @ih (offset + msgbytes) (by omega) (by omega)
      rw [rest]
      exact ⟨_, rfl⟩

theorem fragmented_ok {assocPmtu : UInt32} (msg : SCTPDataMsg)
    (whole : msg.userData.dataLen.toNat ≤ msg.userData.data.length)
    (wide : assocPmtu ≠ UInt32.ofNat (IP_HEADER_LENGTH + SCTP_COMMON_HEADER +
      SCTP_DATA_CHUNK_LENGTH)) :
    ∃ parts, msg.fragmented assocPmtu = .ok parts := by
  apply fragments_ok
  · exact sub_ne_zero.mpr wide
  · exact whole
  · exact Nat.zero_le _
  · exact Nat.lt_succ_self _

def withBits (msg : SCTPDataMsg) : SCTPDataMsg :=
  if msg.fragment then msg else { msg with bBit := true, eBit := true }

end SCTPDataMsg

structure SCTPSendStream where
  streamQ : List SCTPDataMsg := []
  uStreamQ : List SCTPDataMsg := []
  nextStreamSeqNum : UInt16 := 0

namespace SCTPSendStream

variable (stream : SCTPSendStream)

def isUsable : Bool := !stream.streamQ.isEmpty || !stream.uStreamQ.isEmpty

def servesUnordered : Bool := !stream.uStreamQ.isEmpty

def queue (unordered : Bool) : List SCTPDataMsg :=
  if unordered then stream.uStreamQ else stream.streamQ

def setQueue (unordered : Bool) (q : List SCTPDataMsg) : SCTPSendStream :=
  if unordered then { stream with uStreamQ := q } else { stream with streamQ := q }

end SCTPSendStream

structure SCTPSendStreams where
  outboundStreams : Nat
  sendStreams : Nat → SCTPSendStream := fun _ => {}
  lastStreamScheduled : Nat := 0
  assocPmtu : UInt32
  nextTSN : UInt32
  msgNum : Nat := 0
  queuedMessages : UInt32 := 0
  roomSumSendStreams : UInt64 := 0
  bookedSumSendStreams : UInt64 := 0

namespace SCTPSendStreams

variable (s : SCTPSendStreams)

def setStream (sid : Nat) (stream : SCTPSendStream) : SCTPSendStreams :=
  { s with sendStreams := update s.sendStreams sid stream }

def newMsg (sid : UInt16) (sendUnordered : Bool) (ppid : UInt32) (smsg : SCTPSimpleMessage) :
    SCTPDataMsg where
  sid := sid
  ppid := ppid
  ordered := !sendUnordered
  msgNum := s.msgNum + 1
  booksize := UInt32.ofNat smsg.byteLength + stateHeader
  userData := smsg

def processSend (sid : UInt16) (sendUnordered : Bool) (ppid : UInt32)
    (smsg : SCTPSimpleMessage) : Except SctpFault SCTPSendStreams :=
  if sid.toNat < s.outboundStreams then
    let msg := s.newMsg sid sendUnordered ppid smsg
    let stream := s.sendStreams sid.toNat
    let queue := stream.queue sendUnordered ++ [msg]
    .ok { s.setStream sid.toNat (stream.setQueue sendUnordered queue) with
      msgNum := s.msgNum + 1
      queuedMessages := s.queuedMessages + 1
      roomSumSendStreams := s.roomSumSendStreams + msg.room
      bookedSumSendStreams := s.bookedSumSendStreams + msg.booksize.toUInt64 }
  else .error .oppError

def numUsableStreams : Nat :=
  (List.range s.outboundStreams).countP fun sid => (s.sendStreams sid).isUsable

/-- With several usable streams, those after the last one scheduled are tried, round to it. -/
def streamScheduler : Option Nat :=
  let sids := List.range s.outboundStreams
  if s.numUsableStreams > 1 then
    ((sids.map fun k => (s.lastStreamScheduled + 1 + k) % s.outboundStreams).takeWhile
      (· ≠ s.lastStreamScheduled)).find? fun sid => (s.sendStreams sid).isUsable
  else if s.numUsableStreams = 1 then sids.find? fun sid => (s.sendStreams sid).isUsable
  else none

def fragmentFront (sid : Nat) (unordered : Bool) (front : SCTPDataMsg) (rest : List SCTPDataMsg) :
    Except SctpFault SCTPSendStreams :=
  (front.fragmented s.assocPmtu).map fun parts =>
    { s.setStream sid ((s.sendStreams sid).setQueue unordered (parts ++ rest)) with
      queuedMessages := s.queuedMessages + UInt32.ofNat parts.length - 1
      roomSumSendStreams := s.roomSumSendStreams + (parts.map SCTPDataMsg.room).sum - front.room
      bookedSumSendStreams :=
        s.bookedSumSendStreams + (parts.map fun part => part.booksize.toUInt64).sum -
          front.booksize.toUInt64 }

def popFront (sid : Nat) (unordered : Bool) (bytes : Int32) :
    Option SCTPDataMsg × SCTPSendStreams :=
  match (s.sendStreams sid).queue unordered with
  | [] => (none, s)
  | front :: rest =>
    if front.chunkSize ≤ bytes then
      (some front.withBits, { s.setStream sid ((s.sendStreams sid).setQueue unordered rest) with
        roomSumSendStreams := s.roomSumSendStreams - front.room
        bookedSumSendStreams := s.bookedSumSendStreams - front.booksize.toUInt64 })
    else (none, s)

def dequeueOutboundDataMsg (bytes : Int32) :
    Except SctpFault (Option SCTPDataMsg × SCTPSendStreams) :=
  match s.streamScheduler with
  | none => .ok (none, s)
  | some sid =>
    let s := { s with lastStreamScheduled := sid }
    let unordered := (s.sendStreams sid).servesUnordered
    match (s.sendStreams sid).queue unordered with
    | [] => .ok (none, s)
    | front :: rest =>
      if front.tooLong s.assocPmtu then
        (s.fragmentFront sid unordered front rest).map fun s => s.popFront sid unordered bytes
      else .ok (s.popFront sid unordered bytes)

/-- What `sendAll` does with the message, up to the TSN: the stream sequence number goes on after
the last fragment of an ordered message. The chunk gets the number of the message. -/
def takeMsg (msg : SCTPDataMsg) : SCTPDataVariables × SCTPSendStreams :=
  let stream := s.sendStreams msg.sid.toNat
  let next := if msg.ordered && msg.eBit then stream.nextStreamSeqNum + 1
    else stream.nextStreamSeqNum
  ({ userData := msg.userData
     bbit := msg.bBit
     ebit := msg.eBit
     ordered := msg.ordered
     len := UInt32.ofNat (msg.userData.byteLength * 8)
     tsn := 0
     sid := msg.sid
     ssn := if msg.ordered then stream.nextStreamSeqNum else 0
     ppid := msg.ppid
     numbers := [msg.msgNum] },
   { s.setStream msg.sid.toNat { stream with nextStreamSeqNum := next } with
     queuedMessages := s.queuedMessages - 1 })

/-- A TSN of 0 stands for none. -/
def assignTsn (chunk : SCTPDataVariables) : SCTPDataVariables × SCTPSendStreams :=
  if chunk.tsn = 0 then ({ chunk with tsn := s.nextTSN }, { s with nextTSN := s.nextTSN + 1 })
    else (chunk, s)

theorem assignTsn_new {s : SCTPSendStreams} {chunk : SCTPDataVariables} (new : chunk.tsn = 0) :
    s.assignTsn chunk = ({ chunk with tsn := s.nextTSN }, { s with nextTSN := s.nextTSN + 1 }) :=
    if_pos new

theorem assignTsn_old {s : SCTPSendStreams} {chunk : SCTPDataVariables} (old : chunk.tsn ≠ 0) :
    s.assignTsn chunk = (chunk, s) := if_neg old

def queueOf (q : Nat × Bool) : List SCTPDataMsg := (s.sendStreams q.1).queue q.2

def served : Option (Nat × Bool) :=
  s.streamScheduler.map fun sid => (sid, (s.sendStreams sid).servesUnordered)

variable {s s' : SCTPSendStreams}

theorem queueOf_setQueue (sid : Nat) (unordered : Bool) (q : List SCTPDataMsg) :
    (s.setStream sid ((s.sendStreams sid).setQueue unordered q)).queueOf =
    update s.queueOf (sid, unordered) q := by
  funext ⟨sid', unordered'⟩
  by_cases same : sid' = sid
  · subst same
    cases unordered <;> cases unordered' <;>
      simp [queueOf, setStream, SCTPSendStream.setQueue, SCTPSendStream.queue]
  · simp [queueOf, setStream, same]

theorem streamScheduler_usable {sid : Nat} (choice : s.streamScheduler = some sid) :
    sid < s.outboundStreams ∧ (s.sendStreams sid).isUsable = true := by
  unfold streamScheduler at choice
  dsimp only at choice
  split_ifs at choice
  · have usable := List.find?_some choice
    obtain ⟨k, inside, rfl⟩ :=
      List.mem_map.mp ((List.takeWhile_sublist _).subset (List.mem_of_find?_eq_some choice))
    exact ⟨Nat.mod_lt _ (Nat.zero_lt_of_lt (List.mem_range.mp inside)), usable⟩
  · have usable := List.find?_some choice
    exact ⟨List.mem_range.mp (List.mem_of_find?_eq_some choice), usable⟩

theorem served_usable {q : Nat × Bool} (served : s.served = some q) : q.1 < s.outboundStreams ∧
    (s.sendStreams q.1).isUsable = true ∧ (s.sendStreams q.1).servesUnordered = q.2 := by
  obtain ⟨sid, choice, rfl⟩ := Option.map_eq_some_iff.mp served
  obtain ⟨known, usable⟩ := streamScheduler_usable choice
  exact ⟨known, usable, rfl⟩

/-- Nothing waits in another stream, and the queue is the one of its stream that goes first. -/
def Alone (s : SCTPSendStreams) (q : Nat × Bool) : Prop :=
  (∀ sid < s.outboundStreams, sid ≠ q.1 → (s.sendStreams sid).isUsable = false) ∧
    (s.sendStreams q.1).servesUnordered = q.2

theorem Alone.served {q q' : Nat × Bool} (alone : s.Alone q) (served : s.served = some q') :
    q = q' := by
  obtain ⟨known, usable, first⟩ := served_usable served
  have same : q'.1 = q.1 := by
    by_contra other
    rw [alone.1 q'.1 known other] at usable
    cases usable
  refine Prod.ext same.symm (alone.2.symm.trans ?_)
  rw [← same]
  exact first

theorem processSend_spec {sid : UInt16} {sendUnordered : Bool} {ppid : UInt32}
    {smsg : SCTPSimpleMessage} : Yields (s.processSend sid sendUnordered ppid smsg) fun s' =>
      s'.queueOf = update s.queueOf (sid.toNat, sendUnordered)
          (s.queueOf (sid.toNat, sendUnordered) ++ [s.newMsg sid sendUnordered ppid smsg]) ∧
        s'.msgNum = s.msgNum + 1 ∧ s'.nextTSN = s.nextTSN := by
  refine .ite (.ok ⟨?_, rfl, rfl⟩) .error
  exact queueOf_setQueue sid.toNat sendUnordered _

theorem queueOf_takeMsg (msg : SCTPDataMsg) : (s.takeMsg msg).2.queueOf = s.queueOf := by
  funext ⟨sid, unordered⟩
  by_cases same : sid = msg.sid.toNat
  · subst same
    cases unordered <;> simp [takeMsg, queueOf, setStream, SCTPSendStream.queue]
  · simp [takeMsg, queueOf, setStream, same]

def Opened (s : SCTPSendStreams) (q : Nat × Bool) (l : List SCTPDataMsg) : Prop :=
  s.queueOf q = l ∨ ∃ front rest parts, s.queueOf q = front :: rest ∧
    front.tooLong s.assocPmtu = true ∧ front.fragmented s.assocPmtu = .ok parts ∧ l = parts ++ rest

structure Dequeues (s : SCTPSendStreams) (r : Option SCTPDataMsg × SCTPSendStreams) : Prop where
  msgNum : r.2.msgNum = s.msgNum
  nextTSN : r.2.nextTSN = s.nextTSN
  queues : (r.1 = none ∧ r.2.queueOf = s.queueOf) ∨ ∃ q l, s.served = some q ∧ s.Opened q l ∧
    ((r.1 = none ∧ r.2.queueOf = update s.queueOf q l) ∨
      ∃ front rest, l = front :: rest ∧ r.1 = some front.withBits ∧
      r.2.queueOf = update s.queueOf q rest)

theorem popFront_cases (sid : Nat) (unordered : Bool) (bytes : Int32) :
    (s.popFront sid unordered bytes = (none, s)) ∨ ∃ front rest, s.queueOf (sid, unordered) =
      front :: rest ∧ (s.popFront sid unordered bytes).1 = some front.withBits ∧
      (s.popFront sid unordered bytes).2.queueOf = update s.queueOf (sid, unordered) rest ∧
      (s.popFront sid unordered bytes).2.msgNum = s.msgNum ∧
      (s.popFront sid unordered bytes).2.nextTSN = s.nextTSN := by
  unfold popFront
  split
  · exact .inl rfl
  · rename_i front rest here
    split_ifs
    · refine .inr ⟨front, rest, here, rfl, ?_, rfl, rfl⟩
      exact queueOf_setQueue sid unordered rest
    · exact .inl rfl

theorem Dequeues.popFront {q : Nat × Bool} {l : List SCTPDataMsg} (served : s.served = some q)
    (opened : s.Opened q l) (queues : s'.queueOf = update s.queueOf q l)
    (msgNum : s'.msgNum = s.msgNum)
    (nextTSN : s'.nextTSN = s.nextTSN) (bytes : Int32) :
    s.Dequeues (s'.popFront q.1 q.2 bytes) := by
  rcases popFront_cases (s := s') q.1 q.2 bytes with stays | ⟨front, rest, here, taken, left,
    msgNum', nextTSN'⟩
  · rw [stays]
    exact ⟨msgNum, nextTSN, .inr ⟨q, l, served, opened, .inl ⟨rfl, queues⟩⟩⟩
  · rw [queues, update_self] at here
    refine ⟨msgNum'.trans msgNum, nextTSN'.trans nextTSN,
      .inr ⟨q, l, served, opened, .inr ⟨front, rest, here, taken, ?_⟩⟩⟩
    rw [left, queues, update_idem]

theorem dequeueOutboundDataMsg_spec {bytes : Int32} :
    Yields (s.dequeueOutboundDataMsg bytes) s.Dequeues := by
  unfold dequeueOutboundDataMsg
  cases choice : s.streamScheduler with
  | none => exact .ok ⟨rfl, rfl, .inl ⟨rfl, rfl⟩⟩
  | some sid =>
    have served : s.served = some (sid, (s.sendStreams sid).servesUnordered) := by
      rw [SCTPSendStreams.served, choice]; rfl
    dsimp only
    split
    · exact .ok ⟨rfl, rfl, .inl ⟨rfl, rfl⟩⟩
    · rename_i front rest here
      refine yields_ite (fun long => .map (.map ?_)) fun _ => .ok ?_
      · intro parts fragmented
        refine .popFront served (.inr ⟨front, rest, parts, here, long, fragmented, rfl⟩) ?_
          ?_ ?_ bytes
        · exact queueOf_setQueue (s := s) sid _ (parts ++ rest)
        · rfl
        · rfl
      · refine .popFront served (.inl here) ?_ ?_ ?_ bytes
        · exact (Function.update_eq_self_iff.mpr here.symm).symm
        · rfl
        · rfl

/-- A message at the front of a queue that is too long for a packet is no fragment and has its data,
and a packet has room for data. -/
def Cuttable (s : SCTPSendStreams) : Prop :=
  ∀ sid < s.outboundStreams, ∀ unordered, ∀ front ∈ (s.queueOf (sid, unordered)).head?,
    front.tooLong s.assocPmtu = true → front.fragment = false ∧
      front.userData.dataLen.toNat ≤ front.userData.data.length ∧
      s.assocPmtu ≠ UInt32.ofNat (IP_HEADER_LENGTH + SCTP_COMMON_HEADER + SCTP_DATA_CHUNK_LENGTH)

theorem Cuttable.dequeue (cuttable : s.Cuttable) (bytes : Int32) :
    ∃ r, s.dequeueOutboundDataMsg bytes = .ok r := by
  unfold dequeueOutboundDataMsg
  cases choice : s.streamScheduler with
  | none => exact ⟨_, rfl⟩
  | some sid =>
    dsimp only
    split
    · exact ⟨_, rfl⟩
    · rename_i front rest here
      split_ifs with long
      · obtain ⟨-, whole, wide⟩ :=
          cuttable sid (streamScheduler_usable choice).1 (s.sendStreams sid).servesUnordered front
          (by rw [queueOf, here]; rfl) long
        obtain ⟨parts, cut⟩ := front.fragmented_ok whole wide
        rw [fragmentFront, cut]
        exact ⟨_, rfl⟩
      · exact ⟨_, rfl⟩

end SCTPSendStreams

end Srwsn
