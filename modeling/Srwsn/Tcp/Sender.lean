import Srwsn.Tcp.RexmitQueue

/-! The sending half of a TCP connection. -/
namespace Srwsn

structure TCPVirtualDataSendQueue where
  beginSeq : UInt32
  endSeq : UInt32
  deriving DecidableEq, Repr

namespace TCPVirtualDataSendQueue

def init (startSeq : UInt32) : TCPVirtualDataSendQueue := ⟨startSeq, startSeq⟩

variable (q : TCPVirtualDataSendQueue)

def enqueueAppData (byteLength : UInt32) : TCPVirtualDataSendQueue :=
  { q with endSeq := q.endSeq + byteLength }

def getBytesAvailable (fromSeq : UInt32) : UInt32 :=
  if seqLess fromSeq q.endSeq then q.endSeq - fromSeq else 0

def createSegmentWithBytes (fromSeq numBytes : UInt32) : Except TcpFault Unit :=
  if seqLE q.beginSeq fromSeq && seqLE (fromSeq + numBytes) q.endSeq then .ok ()
    else .error .outsideQueue

def discardUpTo (seqNum : UInt32) : Except TcpFault TCPVirtualDataSendQueue :=
  if seqLE q.beginSeq seqNum && seqLE seqNum q.endSeq then .ok { q with beginSeq := seqNum }
  else .error .assertion

end TCPVirtualDataSendQueue

/- `highestSent` is history that no function reads: one past the highest sequence number sent. -/
structure Sender where
  sndMss : UInt32
  sndUna : UInt32
  sndNxt : UInt32
  sndMax : UInt32
  sndWnd : UInt32
  sndWl1 : UInt32
  sndWl2 : UInt32
  sendFin : Bool
  sndFinSeq : UInt32
  finAckRcvd : Bool
  afterRto : Bool
  lossRecovery : Bool
  limitedTransmitEnabled : Bool
  sackEnabled : Bool
  sackedBytes : UInt32
  sackedBytesOld : UInt32
  highRxt : UInt32
  sendQueue : TCPVirtualDataSendQueue
  rexmitQueue : TCPSACKRexmitQueue
  highestSent : UInt32
  deriving DecidableEq, Repr

/- `sacks` has the pieces the blocks of the SACK option are cut into, and `pastEnd` what is read
behind the retransmission queue. -/
structure AckSegment where
  sequenceNo : UInt32
  ackNo : UInt32
  payloadLength : UInt32
  window : UInt32
  sacks : List (UInt32 × UInt32)
  pastEnd : UInt32
  deriving DecidableEq, Repr

namespace Sender

def init (iss sndMss sndWnd : UInt32) (sackEnabled limitedTransmitEnabled : Bool) : Sender where
  sndMss := sndMss
  sndUna := iss
  sndNxt := iss + 1
  sndMax := iss + 1
  sndWnd := sndWnd
  sndWl1 := 0
  sndWl2 := 0
  sendFin := false
  sndFinSeq := 0
  finAckRcvd := false
  afterRto := false
  lossRecovery := false
  limitedTransmitEnabled := limitedTransmitEnabled
  sackEnabled := sackEnabled
  sackedBytes := 0
  sackedBytesOld := 0
  highRxt := 0
  sendQueue := .init (iss + 1)
  rexmitQueue := TCPSACKRexmitQueue.new.init (iss + 1)
  highestSent := iss + 1

variable (s : Sender) (seg : AckSegment)

def record (endSeq : UInt32) : Sender :=
  { s with highestSent := if seqGreater endSeq s.highestSent then endSeq else s.highestSent }

def setNxt (seqNum : UInt32) : Sender := { s with sndNxt := seqNum }

def forwarded : UInt32 :=
  if s.sackEnabled && s.afterRto then
    s.sndNxt + s.rexmitQueue.checkRexmitQueueForSackedOrRexmittedSegments s.sndNxt
  else s.sndNxt

/-- The segment is there: remember it, advance over it and over the FIN, if it is next. -/
def sent (fromSeq bytes : UInt32) : Sender :=
  let s := if s.sackEnabled then
      { s with rexmitQueue := s.rexmitQueue.enqueueSentData fromSeq (fromSeq + bytes) } else s
  let s := { s with sndNxt := fromSeq + bytes }
  let s := if s.afterRto && seqGE s.sndNxt s.sndMax then { s with afterRto := false } else s
  let s := if s.sendFin && s.sndNxt == s.sndFinSeq then { s with sndNxt := s.sndFinSeq + 1 } else s
  s.record s.sndNxt

def sendSegment (bytes : UInt32) : Except TcpFault Sender := do
  s.sendQueue.createSegmentWithBytes s.forwarded bytes
  return s.sent s.forwarded bytes

def sendSegments : Nat → UInt32 → Sender → Except TcpFault Sender
  | 0, _, _ => .error .outOfFuel
  | fuel + 1, bytesToSend, s =>
    if s.sndMss ≤ bytesToSend then do
      let s ← s.sendSegment s.sndMss
      sendSegments fuel (bytesToSend - s.sndMss) s
    else .ok s

/- `std::max`, by the numbers themselves. -/
def raiseMax : Sender := { s with sndMax := if s.sndNxt < s.sndMax then s.sndMax else s.sndNxt }

def sendFromNxt (fullSegmentsOnly : Bool) (congestionWindow : UInt32) : Except TcpFault Sender :=
  let buffered := s.sendQueue.getBytesAvailable s.sndNxt
  if buffered = 0 then .ok s
  else
    let maxWindow := min s.sndWnd congestionWindow
    let effectiveWin := maxWindow - (s.sndNxt - s.sndUna)
    -- a signed number in the source
    if effectiveWin = 0 ∨ 2147483648 ≤ effectiveWin then .ok s
    else
      let bytesToSend := if buffered < effectiveWin then buffered else effectiveWin
      if fullSegmentsOnly ∧ bytesToSend < s.sndMss then .ok s
      else do
        let s ← (if bytesToSend ≤ s.sndMss then s.sendSegment bytesToSend
          else sendSegments (bytesToSend.toNat + 1) bytesToSend s)
        return s.raiseMax

def sendData (fullSegmentsOnly : Bool) (congestionWindow : UInt32) : Except TcpFault Sender :=
  if s.afterRto then s.sendFromNxt fullSegmentsOnly congestionWindow
  else (s.setNxt s.sndMax).sendFromNxt fullSegmentsOnly congestionWindow

def sendProbe : Except TcpFault Sender :=
  if s.sendQueue.getBytesAvailable s.sndMax = 0 then .ok (s.setNxt s.sndMax)
  else do
    let s ← (s.setNxt s.sndMax).sendSegment 1
    return { s with sndMax := s.sndNxt }

def retransmitOneSegment : Except TcpFault Sender :=
  let bytes := min s.sndMss (s.sndMax - s.sndUna)
  if bytes = 0 then .error .assertion
  else do
    let s ← (s.setNxt s.sndUna).sendSegment bytes
    return if s.sackEnabled then { s with highRxt := s.rexmitQueue.getHighestRexmittedSeqNum }
      else s

def retransmitLoop : Nat → UInt32 → Sender → Except TcpFault Sender
  | 0, _, _ => .error .outOfFuel
  | fuel + 1, bytesToSend, s =>
    if bytesToSend = 0 then .ok s
    else do
      let bytes := min (min bytesToSend s.sndMss) (s.sendQueue.getBytesAvailable s.sndNxt)
      let s ← s.sendSegment bytes
      -- nothing is sent after the FIN
      if s.sendFin && s.sndNxt == s.sndFinSeq + 1 then return s
      else retransmitLoop fuel (bytesToSend - bytes) s

def retransmitData : Except TcpFault Sender :=
  let bytesToSend := s.sndMax - s.sndUna
  if bytesToSend = 0 then .error .assertion
  else retransmitLoop (bytesToSend.toNat + 1) bytesToSend (s.setNxt s.sndUna)

def sendSegmentDuringLossRecoveryPhase (seqNum : UInt32) : Except TcpFault Sender :=
  if s.sackEnabled && s.lossRecovery then do
    let next ← (s.setNxt seqNum).sendSegment s.sndMss
    let sentSeqNum := seqNum + s.sndMss
    if seqLE sentSeqNum next.sndMax then
      if sentSeqNum = next.rexmitQueue.getHighestRexmittedSeqNum then
        return { next with highRxt := next.rexmitQueue.getHighestRexmittedSeqNum }
      else throw .assertion
    else if seqGE sentSeqNum next.sndMax then return { next with sndMax := sentSeqNum }
    else return next
  else .error .assertion

def sendOneNewSegment (fullSegmentsOnly : Bool) (congestionWindow : UInt32) :
    Except TcpFault Sender :=
  if !s.limitedTransmitEnabled then .error .assertion
  else if s.sackEnabled ∧ s.sackedBytesOld = s.sackedBytes then .ok s
  else
    let buffered := s.sendQueue.getBytesAvailable s.sndMax
    if s.sndMss ≤ buffered ∨ (!fullSegmentsOnly ∧ 0 < buffered) then
      let outstandingData := s.sndMax - s.sndUna
      if outstandingData + s.sndMss ≤ s.sndWnd ∧
          outstandingData + s.sndMss ≤ congestionWindow + 2 * s.sndMss then
        let effectiveWin := min s.sndWnd congestionWindow - outstandingData + 2 * s.sndMss
        let bytes := min effectiveWin s.sndMss
        if s.sndMss ≤ bytes ∨ (!fullSegmentsOnly ∧ 0 < bytes) then do
          let oldSndNxt := s.sndNxt
          let s ← (s.setNxt s.sndMax).sendSegment bytes
          let s := s.raiseMax
          return if s.afterRto then s.setNxt (oldSndNxt + bytes) else s
        else .ok s
      else .ok s
    else .ok s

/-- What the algorithms do to these variables when the retransmission timer expires. -/
def rexmitTimeout : Sender :=
  if s.sackEnabled then { s with
    rexmitQueue := s.rexmitQueue.resetSackedBit.resetRexmittedBit
    lossRecovery := false
    afterRto := true }
  else { s with afterRto := true }

def updateWndInfo : Sender :=
  if seqLess s.sndWl1 seg.sequenceNo || (s.sndWl1 == seg.sequenceNo && seqLE s.sndWl2 seg.ackNo) ||
      (s.sndWl2 == seg.ackNo && decide (s.sndWnd < seg.window)) then
    { s with sndWnd := seg.window, sndWl1 := seg.sequenceNo, sndWl2 := seg.ackNo }
  else s

def readHeaderOptions : Sender :=
  if s.sackEnabled ∧ seg.sacks ≠ [] then
    let queue := seg.sacks.foldl (fun queue piece =>
      if seqGE piece.1 s.sndUna then queue.setSackedBit piece.1 piece.2 else queue) s.rexmitQueue
    { s with
      rexmitQueue := queue
      sackedBytesOld := s.sackedBytes
      sackedBytes := queue.getTotalAmountOfSackedBytes }
  else s

/-- The result tells whether the segment may be processed further. -/
def processAckInEstabEtc : Except TcpFault (Bool × Sender) :=
  if seqGE s.sndUna seg.ackNo then
    if s.sndUna = seg.ackNo ∧ seg.payloadLength = 0 ∧ s.sndUna ≠ s.sndMax then
      .ok (true, (s.updateWndInfo seg).readHeaderOptions seg)
    else .ok (true, s)
  else if seqLE seg.ackNo s.sndMax then do
    let acksFin := s.sendFin && seg.ackNo == s.sndFinSeq + 1
    -- the FIN is not in the queue
    let discardUpToSeq := if acksFin then seg.ackNo - 1 else seg.ackNo
    let sendQueue ← s.sendQueue.discardUpTo discardUpToSeq
    let rexmitQueue ← (if s.sackEnabled then s.rexmitQueue.discardUpTo discardUpToSeq seg.pastEnd
      else .ok s.rexmitQueue)
    let s := { s with
      sndUna := seg.ackNo
      sndNxt := if seqLess s.sndNxt seg.ackNo then seg.ackNo else s.sndNxt
      finAckRcvd := s.finAckRcvd || acksFin
      sendQueue := sendQueue
      rexmitQueue := rexmitQueue }
    return (true, (s.updateWndInfo seg).readHeaderOptions seg)
  else if seqGreater seg.ackNo s.sndMax then .ok (false, s)
  else .error .assertion

/-- SEND and CLOSE where they are carried out: the data is queued; the FIN goes out if there is
nothing before it, and otherwise waits for the end of the queue. The result tells if it went out. -/
def enqueue (byteLength : UInt32) : Sender :=
  { s with sendQueue := s.sendQueue.enqueueAppData byteLength }

def close : Bool × Sender :=
  if s.sndMax = s.sendQueue.endSeq then
    (true, ({ s with
      sndNxt := s.sndMax + 1
      sndMax := s.sndMax + 1
      sendFin := true
      sndFinSeq := s.sendQueue.endSeq } : Sender).record (s.sndMax + 1))
  else (false, { s with sendFin := true, sndFinSeq := s.sendQueue.endSeq })

/-- The calls an algorithm may make; in which states it makes them, and with which congestion
window, is up to the algorithm. -/
inductive Call where
  | sendData (fullSegmentsOnly : Bool) (congestionWindow : UInt32)
  | sendProbe
  | retransmitOneSegment
  | retransmitData
  | sendSegmentDuringLossRecoveryPhase (seqNum : UInt32)
  | sendOneNewSegment (fullSegmentsOnly : Bool) (congestionWindow : UInt32)
  | rexmitTimeout
  | setLossRecovery (lossRecovery : Bool)
  deriving DecidableEq, Repr

def call : Call → Except TcpFault Sender
  | .sendData fullSegmentsOnly congestionWindow => s.sendData fullSegmentsOnly congestionWindow
  | .sendProbe => s.sendProbe
  | .retransmitOneSegment => s.retransmitOneSegment
  | .retransmitData => s.retransmitData
  | .sendSegmentDuringLossRecoveryPhase seqNum => s.sendSegmentDuringLossRecoveryPhase seqNum
  | .sendOneNewSegment fullSegmentsOnly congestionWindow =>
    s.sendOneNewSegment fullSegmentsOnly congestionWindow
  | .rexmitTimeout => .ok s.rexmitTimeout
  | .setLossRecovery lossRecovery => .ok { s with lossRecovery := lossRecovery }

inductive Event where
  | send (byteLength : UInt32)
  | close
  | ack (seg : AckSegment)
  | call (c : Call)
  deriving DecidableEq, Repr

def step : Event → Except TcpFault Sender
  | .send byteLength => .ok (s.enqueue byteLength)
  | .close => .ok s.close.2
  | .ack seg => do
    let (_, s) ← s.processAckInEstabEtc seg
    return s
  | .call c => s.call c

def Moves (event : Event) (s' : Sender) : Prop := s.step event = .ok s'

structure Same (s s' : Sender) : Prop where
  sndMss : s'.sndMss = s.sndMss
  sndUna : s'.sndUna = s.sndUna
  sendFin : s'.sendFin = s.sendFin
  sndFinSeq : s'.sndFinSeq = s.sndFinSeq
  sackEnabled : s'.sackEnabled = s.sackEnabled
  sendQueue : s'.sendQueue = s.sendQueue

theorem Same.refl : Same s s := ⟨rfl, rfl, rfl, rfl, rfl, rfl⟩

theorem Same.trans {s s' s'' : Sender} (first : Same s s') (second : Same s' s'') : Same s s'' :=
  ⟨second.sndMss.trans first.sndMss, second.sndUna.trans first.sndUna,
    second.sendFin.trans first.sendFin,
    second.sndFinSeq.trans first.sndFinSeq, second.sackEnabled.trans first.sackEnabled,
    second.sendQueue.trans first.sendQueue⟩

section Sent

variable (s : Sender) (fromSeq bytes : UInt32)

theorem setNxt_same : Same s (s.setNxt fromSeq) := ⟨rfl, rfl, rfl, rfl, rfl, rfl⟩

@[simp] theorem setNxt_sndNxt : (s.setNxt fromSeq).sndNxt = fromSeq := rfl

@[simp] theorem setNxt_sndMax : (s.setNxt fromSeq).sndMax = s.sndMax := rfl

theorem sent_same : Same s (s.sent fromSeq bytes) := by
  constructor <;> simp only [sent, record] <;> split_ifs <;> rfl

@[simp] theorem sent_sndMax : (s.sent fromSeq bytes).sndMax = s.sndMax := by
  simp only [sent, record]
  split_ifs <;> rfl

theorem sent_sndNxt : (s.sent fromSeq bytes).sndNxt =
    if s.sendFin && fromSeq + bytes == s.sndFinSeq then s.sndFinSeq + 1 else fromSeq + bytes := by
  simp only [sent, record]
  split_ifs <;> simp_all

theorem sent_afterRto :
    (s.sent fromSeq bytes).afterRto = (s.afterRto && !seqGE (fromSeq + bytes) s.sndMax) := by
  simp only [sent, record]
  split_ifs <;> simp_all

theorem sent_highestSent : (s.sent fromSeq bytes).highestSent =
    if seqGreater (s.sent fromSeq bytes).sndNxt s.highestSent then (s.sent fromSeq bytes).sndNxt
    else s.highestSent := by
  simp only [sent, record]
  split_ifs <;> simp_all

end Sent

open Outcome

theorem sendSegment_same (bytes : UInt32) : Yields (s.sendSegment bytes) (Same s) := by
  refine .after fun _ => ?_
  exact .ok (sent_same s _ _)

section Same

variable {s s' : Sender} (same : Same s s')

include same

theorem Same.sendSegment (bytes : UInt32) : Yields (s'.sendSegment bytes) (Same s) :=
  (sendSegment_same s' bytes).mono fun _ => same.trans

theorem sendSegments_same (fuel : Nat) (bytesToSend : UInt32) :
    Yields (sendSegments fuel bytesToSend s') (Same s) := by
  induction fuel generalizing s' bytesToSend with
  | zero => exact .error
  | succ fuel ih =>
    unfold sendSegments
    refine .ite ?_ (.ok same)
    exact (same.sendSegment _).bind fun _ same => ih same _

theorem raiseMax_same : Same s s'.raiseMax := { same with }

theorem sendFromNxt_same (fullSegmentsOnly : Bool)
    (congestionWindow : UInt32) :
    Yields (s'.sendFromNxt fullSegmentsOnly congestionWindow) (Same s) := by
  have stays : Yields (.ok s' : Except TcpFault Sender) (Same s) := .ok same
  unfold sendFromNxt
  refine .ite stays (.ite stays (.ite stays ?_))
  refine .bind (P := Same s) ?_ fun s'' same => .ok (raiseMax_same same)
  exact .ite (same.sendSegment _) (sendSegments_same same _ _)

theorem retransmitLoop_same (fuel : Nat) (bytesToSend : UInt32) :
    Yields (retransmitLoop fuel bytesToSend s') (Same s) := by
  induction fuel generalizing s' bytesToSend with
  | zero => exact .error
  | succ fuel ih =>
    unfold retransmitLoop
    refine .ite (.ok same) ?_
    refine (same.sendSegment _).bind fun _ same => ?_
    exact .ite (.ok same) (ih same _)

end Same

theorem call_same (c : Call) : Yields (s.call c) (Same s) := by
  have moved : ∀ seqNum, Same s (s.setNxt seqNum) := fun seqNum => setNxt_same s seqNum
  cases c with
  | sendData fullSegmentsOnly congestionWindow =>
    exact .ite (sendFromNxt_same (.refl s) _ _) (sendFromNxt_same (moved _) _ _)
  | sendProbe =>
    refine .ite (.ok (moved _)) ?_
    exact ((moved _).sendSegment _).bind fun _ same => .ok { same with }
  | retransmitOneSegment =>
    refine .ite .error ?_
    refine ((moved _).sendSegment _).bind fun s' same => .ok ?_
    split_ifs
    · exact { same with }
    · exact same
  | retransmitData =>
    exact .ite .error (retransmitLoop_same (moved _) _ _)
  | sendSegmentDuringLossRecoveryPhase seqNum =>
    refine .ite ?_ .error
    refine ((moved _).sendSegment _).bind fun s' same => ?_
    refine .ite ?_ (.ite ?_ (.ok same))
    · exact .ite (.ok { same with }) yields_throw
    · exact .ok { same with }
  | sendOneNewSegment fullSegmentsOnly congestionWindow =>
    have stays : Yields (.ok s : Except TcpFault Sender) (Same s) := .ok (.refl s)
    refine .ite .error (.ite stays (.ite ?_ stays))
    refine .ite ?_ stays
    refine .ite ?_ stays
    refine ((moved _).sendSegment _).bind fun s' same => .ok ?_
    have raised := raiseMax_same same
    split_ifs
    · exact raised.trans (setNxt_same _ _)
    · exact raised
  | rexmitTimeout =>
    refine .ok ?_
    unfold rexmitTimeout
    split_ifs
    · exact { Same.refl s with }
    · exact { Same.refl s with }
  | setLossRecovery lossRecovery => exact .ok { Same.refl s with }

structure Unmoved (s s' : Sender) : Prop extends Same s s' where
  sndNxt : s'.sndNxt = s.sndNxt
  sndMax : s'.sndMax = s.sndMax
  highestSent : s'.highestSent = s.highestSent

structure Acked (s : Sender) (ackNo upTo : UInt32) (s' : Sender) : Prop where
  later : seqGE s.sndUna ackNo = false
  sent : seqLE ackNo s.sndMax = true
  choice : upTo = ackNo ∨ upTo = ackNo - 1
  above : seqLE s.sendQueue.beginSeq upTo = true
  below : seqLE upTo s.sendQueue.endSeq = true
  queue : s'.sendQueue = ⟨upTo, s.sendQueue.endSeq⟩
  una : s'.sndUna = ackNo
  nxt : s'.sndNxt = if seqLess s.sndNxt ackNo then ackNo else s.sndNxt
  top : s'.sndMax = s.sndMax
  sendFin : s'.sendFin = s.sendFin
  finSeq : s'.sndFinSeq = s.sndFinSeq
  highest : s'.highestSent = s.highestSent

theorem updateWndInfo_unmoved : Unmoved s (s.updateWndInfo seg) := by
  unfold updateWndInfo
  split_ifs
  · exact ⟨⟨rfl, rfl, rfl, rfl, rfl, rfl⟩, rfl, rfl, rfl⟩
  · exact ⟨.refl s, rfl, rfl, rfl⟩

theorem readHeaderOptions_unmoved : Unmoved s (s.readHeaderOptions seg) := by
  unfold readHeaderOptions
  split_ifs
  · exact ⟨⟨rfl, rfl, rfl, rfl, rfl, rfl⟩, rfl, rfl, rfl⟩
  · exact ⟨.refl s, rfl, rfl, rfl⟩

theorem Unmoved.trans {s s' s'' : Sender} (first : Unmoved s s') (second : Unmoved s' s'') :
    Unmoved s s'' :=
  ⟨first.toSame.trans second.toSame, second.sndNxt.trans first.sndNxt,
    second.sndMax.trans first.sndMax, second.highestSent.trans first.highestSent⟩

theorem Acked.trans {s s' s'' : Sender} {ackNo upTo : UInt32} (first : Acked s ackNo upTo s')
    (second : Unmoved s' s'') : Acked s ackNo upTo s'' :=
  { first with
    queue := second.sendQueue.trans first.queue
    una := second.sndUna.trans first.una
    nxt := second.sndNxt.trans first.nxt
    top := second.sndMax.trans first.top
    sendFin := second.sendFin.trans first.sendFin
    finSeq := second.sndFinSeq.trans first.finSeq
    highest := second.highestSent.trans first.highest }

theorem rexmitQueue_discard_averts (queue : TCPSACKRexmitQueue) (seqNum pastEnd : UInt32) :
    Averts .outsideQueue (queue.discardUpTo seqNum pastEnd) fun _ => True := by
  unfold TCPSACKRexmitQueue.discardUpTo
  refine .ite (.ok trivial) (.ite ?_ (.error nofun))
  split <;> exact .ok trivial

theorem processAckInEstabEtc_cases : Averts .outsideQueue (s.processAckInEstabEtc seg) fun result =>
      Unmoved s result.2 ∨ ∃ upTo, Acked s seg.ackNo upTo result.2 := by
  have same : Unmoved s s := ⟨.refl s, rfl, rfl, rfl⟩
  have read : ∀ s : Sender, Unmoved s ((s.updateWndInfo seg).readHeaderOptions seg) := fun s =>
    (updateWndInfo_unmoved s seg).trans (readHeaderOptions_unmoved _ seg)
  unfold processAckInEstabEtc
  refine averts_ite (fun _ => ?_) fun later => ?_
  · exact .ite (.ok (.inl (read s))) (.ok (.inl same))
  refine averts_ite (fun sent => ?_) fun _ =>
    .ite (.ok (.inl same)) (.error nofun)
  rw [Bool.not_eq_true] at later
  obtain ⟨upTo, cut, choice⟩ : ∃ upTo,
      (if (s.sendFin && seg.ackNo == s.sndFinSeq + 1) = true then seg.ackNo - 1 else seg.ackNo) =
        upTo ∧ (upTo = seg.ackNo ∨ upTo = seg.ackNo - 1) := by
    refine ⟨_, rfl, ?_⟩
    split_ifs
    · exact .inr rfl
    · exact .inl rfl
  simp only [cut]
  refine .bind (P := fun queue => queue = ⟨upTo, s.sendQueue.endSeq⟩ ∧
    seqLE s.sendQueue.beginSeq upTo = true ∧ seqLE upTo s.sendQueue.endSeq = true) ?_ ?_
  · unfold TCPVirtualDataSendQueue.discardUpTo
    refine averts_ite (fun inside => .ok ?_) fun _ => .error nofun
    rw [Bool.and_eq_true] at inside
    exact ⟨rfl, inside⟩
  rintro queue ⟨kept, above, below⟩
  refine .bind (P := fun _ => True) ?_ ?_
  · exact .ite (rexmitQueue_discard_averts _ _ _) (.ok trivial)
  rintro rexmitQueue -
  refine .ok (.inr ⟨upTo, Acked.trans ?_ (read _)⟩)
  exact ⟨later, sent, choice, above, below, kept, rfl, rfl, rfl, rfl, rfl, rfl⟩

end Sender

end Srwsn
