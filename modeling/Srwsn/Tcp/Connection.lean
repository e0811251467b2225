import Srwsn.Tcp.ReceiveQueue
import Srwsn.Tcp.Sender

/-! A TCP connection: its state machine, and what commands, segments and timers do in each state. -/
namespace Srwsn

inductive TcpState where
  | init
  | closed
  | listen
  | synSent
  | synRcvd
  | established
  | closeWait
  | lastAck
  | finWait1
  | finWait2
  | closing
  | timeWait
  deriving DecidableEq, Repr

inductive TCPEventCode where
  | ignore
  | openActive
  | openPassive
  | send
  | close
  | abort
  | status
  | rcvAck
  | rcvSyn
  | rcvSynAck
  | rcvFin
  | rcvFinAck
  | rcvRst
  | rcvUnexpSyn
  | timeout2Msl
  | timeoutConnEstab
  | timeoutFinWait2
  deriving DecidableEq, Repr

def TcpState.next (active : Bool) : TcpState → TCPEventCode → TcpState
  | .init, .openPassive => .listen
  | .init, .openActive => .synSent
  | .listen, .openActive => .synSent
  | .listen, .send => .synSent
  | .listen, .close => .closed
  | .listen, .abort => .closed
  | .listen, .rcvSyn => .synRcvd
  | .synRcvd, .close => .finWait1
  | .synRcvd, .abort => .closed
  | .synRcvd, .timeoutConnEstab => if active then .closed else .listen
  | .synRcvd, .rcvRst => if active then .closed else .listen
  | .synRcvd, .rcvAck => .established
  | .synRcvd, .rcvFin => .closeWait
  | .synRcvd, .rcvUnexpSyn => .closed
  | .synSent, .close => .closed
  | .synSent, .abort => .closed
  | .synSent, .timeoutConnEstab => .closed
  | .synSent, .rcvRst => .closed
  | .synSent, .rcvSynAck => .established
  | .synSent, .rcvSyn => .synRcvd
  | .established, .close => .finWait1
  | .established, .abort => .closed
  | .established, .rcvFin => .closeWait
  | .established, .rcvRst => .closed
  | .established, .rcvUnexpSyn => .closed
  | .closeWait, .close => .lastAck
  | .closeWait, .abort => .closed
  | .closeWait, .rcvRst => .closed
  | .closeWait, .rcvUnexpSyn => .closed
  | .lastAck, .abort => .closed
  | .lastAck, .rcvAck => .closed
  | .lastAck, .rcvRst => .closed
  | .lastAck, .rcvUnexpSyn => .closed
  | .finWait1, .abort => .closed
  | .finWait1, .rcvFin => .closing
  | .finWait1, .rcvAck => .finWait2
  | .finWait1, .rcvFinAck => .timeWait
  | .finWait1, .rcvRst => .closed
  | .finWait1, .rcvUnexpSyn => .closed
  | .finWait2, .abort => .closed
  | .finWait2, .rcvFin => .timeWait
  | .finWait2, .timeoutFinWait2 => .closed
  | .finWait2, .rcvRst => .closed
  | .finWait2, .rcvUnexpSyn => .closed
  | .closing, .abort => .closed
  | .closing, .rcvAck => .timeWait
  | .closing, .rcvRst => .closed
  | .closing, .rcvUnexpSyn => .closed
  | .timeWait, .abort => .closed
  | .timeWait, .timeout2Msl => .closed
  | .timeWait, .rcvRst => .closed
  | .timeWait, .rcvUnexpSyn => .closed
  | state, _ => state

inductive Indication where
  | established
  | peerClosed
  | closed
  | connectionRefused
  | connectionReset
  | timedOut
  deriving DecidableEq, Repr

structure TCPSegment extends AckSegment where
  synBit : Bool
  ackBit : Bool
  finBit : Bool
  rstBit : Bool
  mss : Option UInt32
  sackPermitted : Bool
  deriving DecidableEq, Repr

namespace Sender

def new (sndMss : UInt32) (limitedTransmitEnabled : Bool) : Sender where
  sndMss := sndMss
  sndUna := 0
  sndNxt := 0
  sndMax := 0
  sndWnd := 0
  sndWl1 := 0
  sndWl2 := 0
  sendFin := false
  sndFinSeq := 0
  finAckRcvd := false
  afterRto := false
  lossRecovery := false
  limitedTransmitEnabled := limitedTransmitEnabled
  sackEnabled := false
  sackedBytes := 0
  sackedBytesOld := 0
  highRxt := 0
  sendQueue := .init 0
  rexmitQueue := .new
  highestSent := 0

def selectInitialSeqNum (s : Sender) (iss : UInt32) : Sender :=
  { s with
    sndUna := iss
    sndNxt := iss
    sndMax := iss
    sendQueue := .init (iss + 1)
    rexmitQueue := s.rexmitQueue.init (iss + 1)
    highestSent := iss }

def setNxtMax (s : Sender) (seqNum : UInt32) : Sender :=
  { s with sndNxt := seqNum, sndMax := seqNum }

def synSent (s : Sender) (iss : UInt32) : Sender := (s.setNxtMax (iss + 1)).record (iss + 1)

end Sender

/- `remoteSpecified`: the foreign socket is known. `indications` is what the application was 
told. -/
structure Connection where
  fsm : TcpState
  active : Bool
  remoteSpecified : Bool
  sackSupport : Bool
  sndSackPerm : Bool
  rcvSackPerm : Bool
  synRexmitCount : Nat
  iss : UInt32
  sender : Sender
  receiver : Receiver
  finRcvd : Bool
  rcvFinSeq : UInt32
  indications : List Indication
  deriving DecidableEq, Repr

namespace Connection

def new (sndMss maxRcvBuffer : UInt32) (sackSupport limitedTransmitEnabled : Bool) :
    Connection where
  fsm := .init
  active := false
  remoteSpecified := false
  sackSupport := sackSupport
  sndSackPerm := false
  rcvSackPerm := false
  synRexmitCount := 0
  iss := 0
  sender := .new sndMss limitedTransmitEnabled
  receiver := ⟨0, 0, maxRcvBuffer, .init 0, []⟩
  finRcvd := false
  rcvFinSeq := 0
  indications := []

variable (c : Connection) (seg : TCPSegment)

def initConnection : Connection :=
  new c.sender.sndMss c.receiver.maxRcvBuffer c.sackSupport c.sender.limitedTransmitEnabled

def sendIndicationToApp (code : Indication) : Connection :=
  { c with indications := c.indications ++ [code] }

def notify (calls : List Sender.Call) : Except TcpFault Connection := do
  let sender ← calls.foldlM Sender.call c.sender
  return { c with sender := sender }

def performStateTransition (event : TCPEventCode) : Except TcpFault Connection :=
  if c.fsm = .closed then .error .assertion else .ok { c with fsm := c.fsm.next c.active event }

def selectInitialSeqNum (iss : UInt32) : Connection :=
  { c with iss := iss, sender := c.sender.selectInitialSeqNum iss }

def writesSynOptions : Bool :=
  match c.fsm with
  | .init | .listen => true
  | .synSent | .synRcvd => decide (0 < c.synRexmitCount)
  | _ => false

def writeHeaderOptions : Connection :=
  if c.writesSynOptions && c.sackSupport then
    { c with sndSackPerm := true, sender := { c.sender with sackEnabled := c.rcvSackPerm } }
  else c

def sendSyn : Except TcpFault Connection :=
  if c.remoteSpecified then
    .ok ({ c with sender := c.sender.synSent c.iss } : Connection).writeHeaderOptions
  else .error .oppError

def sendSynAck : Connection :=
  ({ c with sender := c.sender.synSent c.iss } : Connection).writeHeaderOptions

def startSynRexmitTimer : Connection := { c with synRexmitCount := 0 }

def readHeaderOptions : Connection :=
  let c := match seg.mss with
    | none => c
    | some mss =>
      let sndMss := min c.sender.sndMss mss
      { c with sender := { c.sender with sndMss := if sndMss = 0 then 536 else sndMss } }
  let c := if seg.sackPermitted then
      { c with
        rcvSackPerm := true
        sender := { c.sender with sackEnabled := c.sackSupport && c.sndSackPerm } }
    else c
  { c with sender := c.sender.readHeaderOptions seg.toAckSegment }

/-- RCV.NXT and the receive queue start behind the SYN. What the queue held stays in it. -/
def receiveSyn : Connection :=
  { c with receiver := { c.receiver with
    irs := seg.sequenceNo
    rcvNxt := seg.sequenceNo + 1
    receiveQueue := ⟨seg.sequenceNo + 1, c.receiver.receiveQueue.regionList⟩ } }

def insertSynText : Bool × Connection :=
  if seg.payloadLength = 0 then (true, c)
  else if seg.payloadLength ≤
    c.receiver.receiveQueue.getAmountOfFreeBytes c.receiver.maxRcvBuffer then
    (true, { c with receiver := { c.receiver with
      receiveQueue :=
        c.receiver.receiveQueue.insertBytesFromSegment seg.sequenceNo seg.payloadLength } })
  else (false, c)

def processOpenActive (iss : UInt32) : Except TcpFault (TCPEventCode × Connection) :=
  match c.fsm with
  | .init => do
    let c := { c.initConnection with active := true, remoteSpecified := true }
    let c ← (c.selectInitialSeqNum iss).sendSyn
    return (.openActive, c.startSynRexmitTimer)
  | _ => .error .oppError

def processOpenPassive : Except TcpFault (TCPEventCode × Connection) :=
  match c.fsm with
  | .init => .ok (.openPassive, { c.initConnection with active := false })
  | _ => .error .oppError

/-- Fill in the foreign socket and send SYN+ACK. Without an ACK there is no window to pick up. -/
def answerSyn (iss : UInt32) : Connection :=
  let c :=
    (({ c with remoteSpecified := true } : Connection).receiveSyn seg).selectInitialSeqNum iss
  ((c.readHeaderOptions seg).sendSynAck).startSynRexmitTimer

def processSegmentInListen (iss : UInt32) : TCPEventCode × Connection :=
  if seg.rstBit then (.ignore, c)
  else if seg.ackBit then (.ignore, c)
  else if seg.synBit then
    let text := (c.answerSyn seg iss).insertSynText seg
    (if text.1 then .rcvSyn else .ignore, text.2)
  else (.ignore, c)

def ackSyn : Except TcpFault Connection := do
  let s := c.sender
  let sendQueue ← s.sendQueue.discardUpTo seg.ackNo
  let rexmitQueue ← (if s.sackEnabled then s.rexmitQueue.discardUpTo seg.ackNo seg.pastEnd
    else .ok s.rexmitQueue)
  let s := { s with sndUna := seg.ackNo, sendQueue := sendQueue, rexmitQueue := rexmitQueue }
  return { c with sender := s.updateWndInfo seg.toAckSegment }

def processSegmentInSynSent (calls : List Sender.Call) :
    Except TcpFault (TCPEventCode × Connection) :=
  if seg.ackBit && (seqLE seg.ackNo c.iss || seqGreater seg.ackNo c.sender.sndNxt) then
    .ok (.ignore, c)
  else if seg.rstBit then
    if seg.ackBit then .ok (.rcvRst, c.sendIndicationToApp .connectionReset) else .ok (.ignore, c)
  else if seg.synBit then do
    let c := c.receiveSyn seg
    let c ← (if seg.ackBit then c.ackSyn seg else .ok c)
    if seqGreater c.sender.sndUna c.iss then
      let text := c.insertSynText seg
      if text.1 then do
        let c ← (text.2.readHeaderOptions seg).notify calls
        return (.rcvSynAck, c.sendIndicationToApp .established)
      else return (.ignore, text.2)
    else
      let c :=
        ({ c with sender := c.sender.setNxtMax c.iss } : Connection).sendSynAck.startSynRexmitTimer
      let text := c.insertSynText seg
      return (if text.1 then .rcvSyn else .ignore, text.2)
  else .ok (.ignore, c)

def processRstInSynReceived : Except TcpFault (TCPEventCode × Connection) := do
  let s := c.sender
  let sendQueue ← s.sendQueue.discardUpTo s.sendQueue.endSeq
  let rexmitQueue ← (if s.sackEnabled then
    s.rexmitQueue.discardUpTo s.rexmitQueue.endSeq seg.pastEnd
    else .ok s.rexmitQueue)
  let c := { c with sender := { s with sendQueue := sendQueue, rexmitQueue := rexmitQueue } }
  return (.rcvRst, if c.active then c.sendIndicationToApp .connectionRefused else c)

/-! Segments once the connection is there, in the steps of RFC 793. -/

inductive Progress where
  | done (event : TCPEventCode) (c : Connection)
  | next (event : TCPEventCode) (c : Connection)

def Progress.connection : Progress → Connection
  | .done _ c => c
  | .next _ c => c

/-- The algorithm is notified of acknowledgements of new data and of duplicate ones. -/
def processAckInEstabEtc (calls : List Sender.Call) : Except TcpFault (Bool × Connection) := do
  let s := c.sender
  let notified := !seqGE s.sndUna seg.ackNo ||
    (s.sndUna == seg.ackNo && seg.payloadLength == 0 && s.sndUna != s.sndMax)
  let (ok, sender) ← s.processAckInEstabEtc seg.toAckSegment
  let c := { c with sender := sender }
  let c ← (if ok && notified then c.notify calls else .ok c)
  return (ok, c)

def checkRst : Except TcpFault (TCPEventCode × Connection) :=
  match c.fsm with
  | .synRcvd => c.processRstInSynReceived seg
  | .established | .finWait1 | .finWait2 | .closeWait =>
    .ok (.rcvRst, c.sendIndicationToApp .connectionReset)
  | .closing | .lastAck => .ok (.rcvRst, c.sendIndicationToApp .closed)
  | .timeWait => .ok (.rcvRst, c)
  | _ => .error .assertion

def checkFinAcked (event : TCPEventCode) : Progress :=
  match c.fsm with
  | .finWait1 => .next (if c.sender.finAckRcvd then .rcvAck else event) c
  | .closing =>
    if c.sender.finAckRcvd then .next .rcvAck (c.sendIndicationToApp .closed) else .next event c
  | .lastAck =>
    if c.sender.sendFin && seg.ackNo == c.sender.sndFinSeq + 1 then
      .done .rcvAck (c.sendIndicationToApp .closed)
    else .next event c
  | _ => .next event c

def checkAck (calls : List Sender.Call) : Except TcpFault Progress :=
  if !seg.ackBit then .ok (.done .ignore c)
  else
    match c.fsm with
    | .synRcvd =>
      if !seqLE c.sender.sndUna seg.ackNo || !seqLE seg.ackNo c.sender.sndNxt then
        .ok (.done .ignore c)
      else do
        let (ok, c) ← (c.sendIndicationToApp .established).processAckInEstabEtc seg calls
        return if ok then .next .rcvAck c else .done .ignore c
    | .established | .finWait1 | .finWait2 | .closeWait | .closing => do
      let (ok, c) ← c.processAckInEstabEtc seg calls
      return if ok then c.checkFinAcked seg .ignore else .done .ignore c
    | _ => .ok (c.checkFinAcked seg .ignore)

def takesText : Bool :=
  match c.fsm with
  | .synRcvd | .established | .finWait1 | .finWait2 => true
  | _ => false

def processText (rcvWnd : UInt32) (event : TCPEventCode) : Except TcpFault Progress :=
  if c.takesText && seg.payloadLength != 0 then
    if seg.payloadLength ≤ c.receiver.receiveQueue.getAmountOfFreeBytes
      c.receiver.maxRcvBuffer then do
      let receiver ← c.receiver.processText ⟨seg.sequenceNo, seg.payloadLength, rcvWnd⟩
      let moved := receiver.rcvNxt != c.receiver.rcvNxt
      let c := { c with receiver := receiver }
      if moved && c.finRcvd && receiver.rcvNxt == c.rcvFinSeq then
        let c := { c with receiver := { receiver with rcvNxt := c.rcvFinSeq + 1 } }
        return .next event (c.sendIndicationToApp .peerClosed)
      else return .next event c
    else .ok (.done .ignore c)
  else .ok (.next event c)

def receiveFin (finSeq : UInt32) : Connection :=
  if c.receiver.rcvNxt = finSeq then
    ({ c with receiver := { c.receiver with rcvNxt := c.receiver.rcvNxt + 1 } } :
      Connection).sendIndicationToApp .peerClosed
  else { c with finRcvd := true, rcvFinSeq := finSeq }

def checkFin (event : TCPEventCode) : TCPEventCode × Connection :=
  if seg.finBit then
    let c := c.receiveFin (seg.sequenceNo + seg.payloadLength)
    match c.fsm with
    | .finWait1 =>
      if c.sender.finAckRcvd then (.rcvFinAck, c.sendIndicationToApp .closed) else (.rcvFin, c)
    | .finWait2 => (.rcvFin, c.sendIndicationToApp .closed)
    | _ => (.rcvFin, c)
  else (event, c)

/-- A CLOSE that was deferred is carried out once the FIN has been sent. -/
def deferredClose (oldSndNxt : UInt32) (event : TCPEventCode) : TCPEventCode :=
  let finSent := c.sender.sendFin && c.sender.sndNxt == c.sender.sndFinSeq + 1
  match c.fsm with
  | .established | .synRcvd => if finSent then .close else event
  | .closeWait => if finSent && oldSndNxt != c.sender.sndNxt then .close else event
  | _ => event

def processSegment1stThru8th (rcvWnd : UInt32)
    (calls : List Sender.Call) : Except TcpFault (TCPEventCode × Connection) :=
  if !isSegmentAcceptable c.receiver.rcvNxt rcvWnd seg.sequenceNo seg.payloadLength then
    .ok (.ignore, c)
  else if seg.rstBit then c.checkRst seg
  else if seg.synBit then .ok (.rcvUnexpSyn, c.sendIndicationToApp .connectionReset)
  else do
    let oldSndNxt := c.sender.sndNxt
    match ← c.checkAck seg calls with
    | .done event c => return (event, c)
    | .next event c =>
      match ← c.processText seg rcvWnd event with
      | .done event c => return (event, c)
      | .next event c =>
        let fin := c.checkFin seg event
        return (fin.2.deferredClose oldSndNxt fin.1, fin.2)

def processRcvSegment (iss rcvWnd : UInt32) (calls : List Sender.Call) :
    Except TcpFault (TCPEventCode × Connection) :=
  match c.fsm with
  -- no segment is for a connection that is not open
  | .init => .error .assertion
  | .listen => .ok (c.processSegmentInListen seg iss)
  | .synSent => c.processSegmentInSynSent seg calls
  | _ => c.processSegment1stThru8th seg rcvWnd calls

def processSend (iss byteLength : UInt32) (calls : List Sender.Call) :
    Except TcpFault (TCPEventCode × Connection) :=
  match c.fsm with
  | .init => .error .oppError
  | .listen => do
    let c ← (({ c with active := true } : Connection).selectInitialSeqNum iss).sendSyn
    return (.send, { c.startSynRexmitTimer with sender := c.sender.enqueue byteLength })
  | .synRcvd | .synSent => .ok (.send, { c with sender := c.sender.enqueue byteLength })
  | .established | .closeWait => do
    let c ← ({ c with sender := c.sender.enqueue byteLength } : Connection).notify calls
    return (.send, c)
  | .lastAck | .finWait1 | .finWait2 | .closing | .timeWait => .error .oppError
  | .closed => .ok (.send, c)

def processClose : Except TcpFault (TCPEventCode × Connection) :=
  match c.fsm with
  | .init => .error .oppError
  | .listen | .synSent => .ok (.close, c)
  | .synRcvd | .established | .closeWait =>
    let closed := c.sender.close
    .ok (if closed.1 then .close else .ignore, { c with sender := closed.2 })
  | .finWait1 | .finWait2 | .closing | .lastAck | .timeWait => .error .oppError
  | .closed => .ok (.close, c)

def processAbort : Except TcpFault (TCPEventCode × Connection) :=
  if c.fsm = .init then .error .oppError else .ok (.abort, c)

def processStatus : Except TcpFault (TCPEventCode × Connection) :=
  if c.fsm = .init then .error .oppError else .ok (.status, c)

def processTimeoutConnEstab : Except TcpFault (TCPEventCode × Connection) :=
  match c.fsm with
  | .synRcvd | .synSent =>
    .ok (.timeoutConnEstab, if c.active then c.sendIndicationToApp .timedOut else c)
  | _ => .error .oppError

def processTimeout2Msl : Except TcpFault (TCPEventCode × Connection) :=
  if c.fsm = .timeWait then .ok (.timeout2Msl, c) else .error .oppError

def processTimeoutFinWait2 : Except TcpFault (TCPEventCode × Connection) :=
  if c.fsm = .finWait2 then .ok (.timeoutFinWait2, c.sendIndicationToApp .closed)
    else .error .oppError

def maxSynRexmitCount : Nat := 12

def processTimeoutSynRexmit : Except TcpFault (TCPEventCode × Connection) :=
  let c := { c with synRexmitCount := c.synRexmitCount + 1 }
  if maxSynRexmitCount < c.synRexmitCount then .ok (.abort, c)
  else
    match c.fsm with
    | .synSent => do
      let c ← c.sendSyn
      return (.ignore, c)
    | .synRcvd => .ok (.ignore, c.sendSynAck)
    | _ => .error .oppError

/-- Initial sequence numbers come from the clock, `calls` is what the algorithm does about the
event, and `rcvWnd` is the receive window at the time. -/
inductive Event where
  | openActive (iss : UInt32)
  | openPassive
  | send (iss byteLength : UInt32) (calls : List Sender.Call)
  | close
  | abort
  | status
  | segment (seg : TCPSegment) (iss rcvWnd : UInt32) (calls : List Sender.Call)
  | timeoutConnEstab
  | timeout2Msl
  | timeoutFinWait2
  | timeoutSynRexmit
  | algorithmTimer (calls : List Sender.Call)
  -- the retransmission timer, once too often
  | rexmitGivenUp
  deriving DecidableEq, Repr

def process : Event → Except TcpFault (TCPEventCode × Connection)
  | .openActive iss => c.processOpenActive iss
  | .openPassive => c.processOpenPassive
  | .send iss byteLength calls => c.processSend iss byteLength calls
  | .close => c.processClose
  | .abort => c.processAbort
  | .status => c.processStatus
  | .segment seg iss rcvWnd calls => c.processRcvSegment seg iss rcvWnd calls
  | .timeoutConnEstab => c.processTimeoutConnEstab
  | .timeout2Msl => c.processTimeout2Msl
  | .timeoutFinWait2 => c.processTimeoutFinWait2
  | .timeoutSynRexmit => c.processTimeoutSynRexmit
  | .algorithmTimer calls => do
    let c ← c.notify calls
    return (.ignore, c)
  | .rexmitGivenUp => .ok (.abort, c.sendIndicationToApp .timedOut)

/-- First do actions, then state transitions. -/
def step (event : Event) : Except TcpFault Connection := do
  let (code, c) ← c.process event
  c.performStateTransition code

def Moves (event : Event) (c' : Connection) : Prop := c.step event = .ok c'

end Connection

end Srwsn
