import Srwsn.Link.GuaranteedSlots
import Srwsn.Link.History

/-! The 802.15.4 MAC as a state machine. Times are left out: whether a backoff, a boundary or a
guaranteed slot still fits is part of the event. -/
namespace Srwsn

def aMaxMACFrameSize : Nat := 102
def aMaxFrameRetries : UInt8 := 3
def aMaxBE : UInt8 := 5
def macMinBE : UInt8 := 3
def macMaxCSMABackoffs : UInt8 := 4
def ack4Data : Bool := true

inductive PHYenum where
  | busy
  | busyTx
  | forceTrxOff
  | idle
  | rxOn
  | success
  | trxOff
  | txOn
  deriving DecidableEq, Repr

inductive TxOption where
  | direct
  | indirect
  | gts
  deriving DecidableEq, Repr

inductive FrFunc where
  | none
  | csmacaCallBack
  | handlePDDataConfirm
  | handleAck
  | handleAckTimeoutTimer
  | handleBeacon
  | handleGtsTimer
  | handleIfsTimer
  deriving DecidableEq, Repr

inductive PktError where
  | none
  | collision
  | rxDuringCCA
  deriving DecidableEq, Repr

inductive MacCmdType where
  | associationRequest
  | associationResponse
  | disassociationNotification
  | dataRequest
  | panidConflictNotification
  | orphanNotification
  | beaconRequest
  | coordinatorRealignment
  | gtsRequest
  deriving DecidableEq, Repr

structure MacFrame extends Frame where
  kind : PktError
  cmdType : MacCmdType
  ackReq : Bool
  dstAddrMode : UInt8
  srcPanId : UInt16
  dstPanId : UInt16
  dstAddr : UInt16
  isGTS : Bool
  deriving DecidableEq, Repr

def addrModeNone : UInt8 := 0
def addrMode16 : UInt8 := 2
def addrMode64 : UInt8 := 3

structure TaskPending where
  mcpsDataRequest : Bool
  mcpsDataRequestStep : UInt8
  mcpsDataRequestFrFunc : FrFunc
  mcpsDataRequestTxOption : TxOption
  ccaCsmaca : Bool
  rxOnCsmaca : Bool
  deriving DecidableEq, Repr

inductive Output where
  | requestPacket
  | setTrxState (state : PHYenum)
  | ccaRequest
  | transmit (frame : MacFrame)
  | indicate (frame : MacFrame)
  deriving DecidableEq, Repr

inductive MacFault where
  | assertion
  | error (text : String)
  | pointer
  | bounds
  | history (fault : Linked.Fault)
  deriving DecidableEq, Repr

structure MacParams where
  isPANCoor : Bool
  dataTransMode : TxOption
  ack4Gts : Bool
  isRecvGTS : Bool
  macBeaconOrder : UInt8
  macRxOnWhenIdle : Bool
  aExtendedAddress : UInt16
  queueModule : Bool

structure MacStats where
  numUpperPkt : Nat
  numUpperPktLost : Nat
  numCollision : Nat
  numTxBcnPkt : Nat
  numTxDataSucc : Nat
  numTxDataFail : Nat
  numTxGTSSucc : Nat
  numTxGTSFail : Nat
  numTxAckPkt : Nat
  numRxBcnPkt : Nat
  numRxDataPkt : Nat
  numRxGTSPkt : Nat
  numRxAckPkt : Nat
  numTxAckInactive : Nat
  deriving DecidableEq, Repr

/-- Pointers to frames are addresses; a buffer may go on pointing to a frame that was deleted. -/
structure MacBuffers where
  txPkt : Option Nat
  txBeacon : Option Nat
  txBcnCmdUpper : Option Nat
  txBcnCmd : Option Nat
  txData : Option Nat
  txGTS : Option Nat
  txAck : Option Nat
  txCsmaca : Option Nat
  tmpCsmaca : Option Nat
  rxData : Option Nat
  rxCmd : Option Nat
  deriving DecidableEq, Repr

structure MacCsma where
  beaconEnabled : Bool
  nb : UInt8
  cw : UInt8
  be : UInt8
  backoffStatus : UInt8
  bPeriodsLeft : Int
  csmacaAckReq : Bool
  csmacaWaitNextBeacon : Bool
  backoffTimer : Bool
  deferCCATimer : Bool
  deriving DecidableEq, Repr

structure MacTransmission where
  inTransmission : Bool
  trxStateReq : PHYenum
  waitBcnCmdAck : Bool
  waitBcnCmdUpperAck : Bool
  waitDataAck : Bool
  waitGTSAck : Bool
  numBcnCmdRetry : UInt8
  numBcnCmdUpperRetry : UInt8
  numDataRetry : UInt8
  numGTSRetry : UInt8
  ackTimeoutTimer : Bool
  deriving DecidableEq, Repr

structure MacSuperframe where
  macPANId : UInt16
  macShortAddress : UInt16
  macCoordShortAddress : UInt16
  macDSN : UInt8
  macBSN : UInt8
  rxBO : UInt8
  rxFinalCap : UInt8
  beaconWaitingTx : Bool
  notAssociated : Bool
  bcnLossCounter : UInt8
  inTxSD : Bool
  inRxSD : Bool
  txNowBcnTxTimer : Bool
  indexCurrGts : UInt8
  indexGtsTimer : UInt8
  gtsStartSlot : UInt8
  gtsTimer : Bool
  deriving DecidableEq, Repr

structure Mac where
  params : MacParams
  stats : MacStats
  taskP : TaskPending
  buf : MacBuffers
  csma : MacCsma
  tx : MacTransmission
  sf : MacSuperframe
  frames : Nat → Option MacFrame
  history : History
  coor : PANCoordinator
  outputs : List Output

/-- What the clock decides during one event: whether a backoff fits and what is left of it, whether
now is a backoff boundary, whether a guaranteed slot fits. -/
structure Timing where
  canProceed : Bool
  periodsLeft : Nat
  onBoundary : Bool
  gtsCanProceed : Bool

abbrev MacResult := Except MacFault Mac

def check (condition : Prop) [Decidable condition] : Except MacFault Unit :=
  if condition then .ok () else .error .assertion

namespace Mac

variable (m : Mac) (t : Timing) (frame : MacFrame)

def withStats (f : MacStats → MacStats) : Mac := { m with stats := f m.stats }
def withTask (f : TaskPending → TaskPending) : Mac := { m with taskP := f m.taskP }
def withBuf (f : MacBuffers → MacBuffers) : Mac := { m with buf := f m.buf }
def withCsma (f : MacCsma → MacCsma) : Mac := { m with csma := f m.csma }
def withTx (f : MacTransmission → MacTransmission) : Mac := { m with tx := f m.tx }
def withSf (f : MacSuperframe → MacSuperframe) : Mac := { m with sf := f m.sf }

def emit (o : Output) : Mac := { m with outputs := m.outputs ++ [o] }

def plmeSetTrxStateRequest (state : PHYenum) : Mac :=
  (m.emit (.setTrxState state)).withTx fun x => { x with trxStateReq := state }

def reqtMsgFromIFq : Mac := if m.params.queueModule then m.emit .requestPacket else m

def sendDown : Mac :=
  (m.withTx fun x => { x with inTransmission := true }).emit (.transmit frame)

def read : Option Nat → Except MacFault MacFrame
  | none => .error .pointer
  | some a =>
    match m.frames a with
    | none => .error .pointer
    | some frame => .ok frame

def alloc (a : Nat) (frame : MacFrame) : MacResult :=
  match m.frames a with
  | none => .ok { m with frames := Function.update m.frames a (some frame) }
  | some _ => .error .pointer

def delete : Option Nat → Mac
  | none => m
  | some a => { m with frames := Function.update m.frames a none }

/-- An entry behind the granted ones has the values it was initialised with. -/
def gtsAt (index : UInt8) : Except MacFault GTSDescriptor :=
  match m.coor.gtsList[index.toNat]? with
  | some g => .ok g
  | none => if index < 7 then .ok ⟨0xffff, 0, 0, false, false⟩ else .error .bounds

def setTxPending (index : Nat) (pending : Bool) : Mac :=
  let gtsList := m.coor.gtsList.modify index fun g => { g with isTxPending := pending }
  { m with coor := { m.coor with gtsList := gtsList } }

def beaconsUsed : Bool := m.params.macBeaconOrder != 15 || m.sf.rxBO != 15

def resetTRX : Mac :=
  let whenIdle := if m.params.macRxOnWhenIdle then .rxOn else .trxOff
  m.plmeSetTrxStateRequest
    (if m.beaconsUsed then
      if !m.sf.inTxSD && !m.sf.inRxSD then .trxOff else if m.sf.inTxSD then .rxOn else whenIdle
    else whenIdle)

def csmacaReset : Mac :=
  m.withCsma fun c =>
    if c.beaconEnabled then { c with nb := 0, cw := 2, be := macMinBE }
    else { c with nb := 0, be := macMinBE }

def csmacaCanProceed : Mac :=
  m.withCsma fun c =>
    if t.canProceed then { c with csmacaWaitNextBeacon := false, bPeriodsLeft := -1 }
    else { c with csmacaWaitNextBeacon := true, bPeriodsLeft := t.periodsLeft }

def startBackoffTimer : Mac := m.withCsma fun c => { c with backoffTimer := true }

def csmacaBegin (frame : Option Nat) (ackReq : Bool) : MacResult := do
  check (m.buf.tmpCsmaca = none)
  let m := (m.withCsma fun c => { c with beaconEnabled := m.beaconsUsed }).csmacaReset
  return (m.withBuf fun b => { b with tmpCsmaca := frame }).withCsma fun c =>
    { c with csmacaAckReq := ackReq }

def csmacaStart (firsttime : Bool) (frame : Option Nat) (ackReq : Bool) : MacResult :=
  if m.buf.txAck.isSome then
    .ok ((m.withCsma fun c => { c with backoffStatus := 0 }).withBuf fun b =>
      { b with tmpCsmaca := none })
  else do
    check (m.csma.backoffTimer = false)
    let m ← (if firsttime then m.csmacaBegin frame ackReq else .ok m)
    check (m.buf.tmpCsmaca ≠ none)
    return if !m.csma.beaconEnabled then m.startBackoffTimer
      else if t.canProceed then (m.csmacaCanProceed t).startBackoffTimer
      else m.csmacaCanProceed t

def csmacaTake (frame : Option Nat) : MacResult := do
  let ackReq := (← m.read frame).ackReq
  let m := m.withCsma fun c => { c with backoffStatus := 99 }
  (m.withBuf fun b => { b with txCsmaca := frame }).csmacaStart t true frame ackReq

/-- A data frame may have been interrupted: its task goes back to the first step. -/
def csmacaResume : MacResult :=
  if m.csma.backoffStatus != 99 && !m.tx.inTransmission then
    if m.buf.txBcnCmd.isSome && !m.tx.waitBcnCmdAck then m.csmacaTake t m.buf.txBcnCmd
    else if m.buf.txBcnCmdUpper.isSome && !m.tx.waitBcnCmdUpperAck then
      m.csmacaTake t m.buf.txBcnCmdUpper
    else if m.buf.txData.isSome && !m.tx.waitDataAck then
      (m.withTask fun p =>
        { p with mcpsDataRequestFrFunc := .csmacaCallBack, mcpsDataRequestStep := 1 }).csmacaTake t
          m.buf.txData
    else .ok m
  else .ok m

def csmacaCancel : Mac :=
  (if m.csma.backoffTimer then m.withCsma fun c => { c with backoffTimer := false }
    else if m.csma.deferCCATimer then m.withCsma fun c => { c with deferCCATimer := false }
    else m.withTask fun p => { p with ccaCsmaca := false }).withBuf fun b =>
      { b with tmpCsmaca := none }

def csmacaStop : Mac :=
  if m.csma.backoffStatus = 99 then
    (m.withCsma fun c => { c with backoffStatus := 0 }).csmacaCancel
  else m

def csmacaTrxBeacon : MacResult :=
  let m := if m.buf.txAck.isSome then m else m.plmeSetTrxStateRequest .rxOn
  let m := (m.withCsma fun c => { c with beaconEnabled := m.beaconsUsed }).csmacaReset
  if m.csma.csmacaWaitNextBeacon && m.buf.tmpCsmaca.isSome && !m.csma.backoffTimer then do
    check (m.csma.bPeriodsLeft ≥ 0)
    if m.csma.bPeriodsLeft = 0 then m.csmacaStart t false none false
    else if t.canProceed then .ok (m.csmacaCanProceed t).startBackoffTimer
    else .ok (m.csmacaCanProceed t)
  else .ok (m.withCsma fun c => { c with csmacaWaitNextBeacon := false })

def waitFor (step : UInt8) (frFunc : FrFunc) : Mac :=
  m.withTask fun p => { p with mcpsDataRequestStep := step, mcpsDataRequestFrFunc := frFunc }

def endTask : Mac := m.withTask fun p => { p with mcpsDataRequest := false }

/-- The next packet is asked for only when the MAC is idle for data transmission. -/
def askForPacket : Mac := if m.taskP.mcpsDataRequest then m else m.reqtMsgFromIFq

def dropBeacon : Mac :=
  ((m.delete m.buf.txBeacon).withBuf fun b => { b with txBeacon := none }).withSf fun f =>
    { f with beaconWaitingTx := false }

def dropAck : Mac :=
  (m.delete m.buf.txAck).withBuf fun b => { b with txAck := none }

def dropData : Mac :=
  (m.delete m.buf.txData).withBuf fun b => { b with txData := none }

def dropGTS : Mac :=
  (m.delete m.buf.txGTS).withBuf fun b => { b with txGTS := none }

def taskSuccessBeacon (anyCAP : Bool) : MacResult := do
  let m := m.plmeSetTrxStateRequest (if anyCAP then .rxOn else .trxOff)
  let m ← (if m.csma.backoffStatus = 99 then m.csmacaTrxBeacon t else .ok m)
  let m := m.dropBeacon.withStats fun s => { s with numTxBcnPkt := s.numTxBcnPkt + 1 }
  if anyCAP then m.csmacaResume t else .ok m

def taskSuccessAck : MacResult := do
  let m := m.withStats fun s => { s with numTxAckPkt := s.numTxAckPkt + 1 }
  check (m.buf.txAck ≠ none)
  m.dropAck.csmacaResume t

def taskSuccessData : MacResult := do
  check (m.buf.txData ≠ none)
  let m := m.dropData.withStats fun s => { s with numTxDataSucc := s.numTxDataSucc + 1 }
  m.askForPacket.csmacaResume t

def clearTxPending : MacResult :=
  if m.params.isPANCoor then do
    let current ← m.gtsAt m.sf.indexCurrGts
    check (current.isTxPending = true)
    return m.setTxPending m.sf.indexCurrGts.toNat false
  else .ok m

def taskSuccessGTS : MacResult := do
  check (m.buf.txGTS ≠ none)
  let m ← m.clearTxPending
  let m := m.dropGTS.withStats fun s => { s with numTxGTSSucc := s.numTxGTSSucc + 1 }
  return m.askForPacket

def taskFailedData : MacResult := do
  check (m.buf.txData ≠ none)
  let m := m.dropData.withStats fun s => { s with numTxDataFail := s.numTxDataFail + 1 }
  let m ← m.csmacaResume t
  return m.askForPacket

def taskFailedGTS : MacResult := do
  check (m.buf.txGTS ≠ none)
  let m ← m.clearTxPending
  let m := m.dropGTS.withStats fun s => { s with numTxGTSFail := s.numTxGTSFail + 1 }
  return m.askForPacket

def awaitAck : Mac :=
  ((m.waitFor 3 .handleAck).plmeSetTrxStateRequest .rxOn).withTx fun x =>
    { x with ackTimeoutTimer := true }

def fsmDirect (pStatus : PHYenum) : MacResult :=
  match m.taskP.mcpsDataRequestStep with
  | 1 =>
    if pStatus = .idle then
      .ok ((m.waitFor 2 .handlePDDataConfirm).plmeSetTrxStateRequest .txOn)
    else m.csmacaResume t
  | 2 => do
    let frame ← m.read m.buf.txData
    if frame.ackReq then .ok (m.awaitAck.withTx fun x => { x with waitDataAck := true })
    else m.endTask.resetTRX.taskSuccessData t
  | 3 => do
    let _ ← m.read m.buf.txData
    let waited := m.withTx fun x => { x with waitDataAck := false }
    if pStatus = .success then waited.endTask.resetTRX.taskSuccessData t
    else
      let retried := waited.withTx fun x => { x with numDataRetry := x.numDataRetry + 1 }
      if retried.tx.numDataRetry ≤ aMaxFrameRetries then
        (retried.waitFor 1 .csmacaCallBack).csmacaResume t
      else retried.endTask.resetTRX.taskFailedData t
  | _ => .ok m

def fsmGTS (pStatus : PHYenum) : MacResult :=
  match m.taskP.mcpsDataRequestStep with
  | 1 =>
    .ok (((m.waitFor 2 .handlePDDataConfirm).plmeSetTrxStateRequest
      .forceTrxOff).plmeSetTrxStateRequest .txOn)
  | 2 => do
    let frame ← m.read m.buf.txGTS
    if frame.ackReq then .ok (m.awaitAck.withTx fun x => { x with waitGTSAck := true })
    else .ok ((m.plmeSetTrxStateRequest .forceTrxOff).waitFor 4 .handleIfsTimer)
  | 3 => do
    let _ ← m.read m.buf.txGTS
    let waited := m.withTx fun x => { x with waitGTSAck := false }
    if pStatus = .success then
      .ok ((waited.plmeSetTrxStateRequest .forceTrxOff).waitFor 4 .handleIfsTimer)
    else
      let retried := waited.withTx fun x => { x with numGTSRetry := x.numGTSRetry + 1 }
      if retried.tx.numGTSRetry ≤ aMaxFrameRetries then
        .ok ((retried.waitFor 1 .handleGtsTimer).plmeSetTrxStateRequest .forceTrxOff)
      else (retried.endTask.plmeSetTrxStateRequest .forceTrxOff).taskFailedGTS
  | 4 => m.endTask.taskSuccessGTS
  | _ => .ok m

def fsmMCPSDataRequest (pStatus : PHYenum) : MacResult :=
  match m.taskP.mcpsDataRequestTxOption with
  | .direct => m.fsmDirect t pStatus
  | .indirect => .ok m
  | .gts => m.fsmGTS pStatus

def waitsFor (frFunc : FrFunc) : Bool :=
  m.taskP.mcpsDataRequest && m.taskP.mcpsDataRequestFrFunc == frFunc

def dispatchAckSent : MacResult :=
  if m.buf.rxCmd.isSome then do
    let _ ← m.read m.buf.rxCmd
    m.resetTRX.taskSuccessAck t
  else if m.buf.rxData.isSome then do
    let frame ← m.read m.buf.rxData
    if frame.isGTS then
      (m.plmeSetTrxStateRequest (if m.params.isPANCoor then .rxOn else .trxOff)).taskSuccessAck t
    else m.resetTRX.taskSuccessAck t
  else m.resetTRX.taskSuccessAck t

def dispatchSent (anyCAP : Bool) : MacResult :=
  if m.buf.txPkt = m.buf.txBeacon then do
    let _ ← m.read m.buf.txBeacon
    m.resetTRX.taskSuccessBeacon t anyCAP
  else if m.buf.txPkt = m.buf.txAck then m.dispatchAckSent t
  else if m.buf.txPkt = m.buf.txData then do
    check (m.waitsFor .handlePDDataConfirm = true)
    let _ ← m.read m.buf.txData
    m.fsmMCPSDataRequest t .success
  else if m.buf.txPkt = m.buf.txGTS then do
    check (m.waitsFor .handlePDDataConfirm = true)
    check (m.taskP.mcpsDataRequestTxOption = .gts)
    m.fsmMCPSDataRequest t .success
  else .ok m

/-- The default for a late acknowledgement ends the task whatever it was waiting for. -/
def dispatchAck : MacResult :=
  if m.buf.txPkt = m.buf.txData then
    if m.waitsFor .handleAck then m.fsmMCPSDataRequest t .success
    else m.endTask.resetTRX.taskSuccessData t
  else if m.buf.txPkt = m.buf.txGTS then
    if m.waitsFor .handleAck then m.fsmMCPSDataRequest t .success else .ok m
  else .ok m

def dispatchAckTimeout : MacResult :=
  if m.buf.txPkt = m.buf.txData then
    if m.waitsFor .handleAck then m.fsmMCPSDataRequest t .busy else .ok m
  else if m.buf.txPkt = m.buf.txGTS then do
    check (m.waitsFor .handleAck = true)
    check (m.taskP.mcpsDataRequestTxOption = .gts)
    m.fsmMCPSDataRequest t .busy
  else .ok m

def dispatchCallBack (pStatus : PHYenum) : MacResult :=
  if m.buf.txCsmaca = m.buf.txBcnCmdUpper then .ok m
  else if m.buf.txCsmaca = m.buf.txData then do
    check (m.waitsFor .csmacaCallBack = true)
    m.fsmMCPSDataRequest t pStatus
  else .ok m

def dispatch (pStatus : PHYenum) (frFunc : FrFunc) (anyCAP : Bool) : MacResult :=
  match frFunc with
  | .csmacaCallBack => m.dispatchCallBack t pStatus
  | .handlePDDataConfirm => m.dispatchSent t anyCAP
  | .handleAck => m.dispatchAck t
  | .handleAckTimeoutTimer => m.dispatchAckTimeout t
  | _ => .ok m

def csmacaCallBack (status : PHYenum) : MacResult :=
  if (m.buf.txBcnCmd.isNone || m.tx.waitBcnCmdAck) &&
      (m.buf.txBcnCmdUpper.isNone || m.tx.waitBcnCmdUpperAck) &&
      (m.buf.txData.isNone || m.tx.waitDataAck) then .ok m
  else
    (m.withCsma fun c => { c with backoffStatus := if status = .idle then 1 else 2 }).dispatch t
      status .csmacaCallBack true

def handleBackoffTimer : Mac :=
  (m.withTask fun p => { p with rxOnCsmaca := true }).plmeSetTrxStateRequest .rxOn

def handleDeferCCATimer : Mac :=
  (m.withTask fun p => { p with ccaCsmaca := true }).emit .ccaRequest

def handleAckTimeoutTimer (m : Mac) (t : Timing) : MacResult :=
  if m.buf.txBcnCmd.isSome || m.buf.txBcnCmdUpper.isSome || m.buf.txData.isSome ||
      (m.buf.txGTS.isSome && m.tx.waitGTSAck) then
    m.dispatch t .busy .handleAckTimeoutTimer true
  else .error (.error "handleAckTimeoutTimer")

def transmit (p : Option Nat) : MacResult := do
  let frame ← m.read p
  return (m.withBuf fun b => { b with txPkt := p }).sendDown frame

def handleTxAckBoundTimer : MacResult :=
  if !m.sf.beaconWaitingTx && m.buf.txAck.isSome then m.transmit m.buf.txAck else .ok m

def handleTxCmdDataBoundTimer : MacResult :=
  if m.buf.txBcnCmd = m.buf.txCsmaca then m.transmit m.buf.txBcnCmd
  else if m.buf.txBcnCmdUpper = m.buf.txCsmaca then m.transmit m.buf.txBcnCmdUpper
  else if m.buf.txData = m.buf.txCsmaca then m.transmit m.buf.txData
  else .ok m

def mcpsDataIndication : Mac :=
  (m.withStats fun s =>
    if frame.isGTS then { s with numRxGTSPkt := s.numRxGTSPkt + 1 }
    else { s with numRxDataPkt := s.numRxDataPkt + 1 }).emit (.indicate frame)

def handleIfsTimer : MacResult := do
  check (m.buf.rxData.isSome || m.buf.rxCmd.isSome || m.buf.txGTS.isSome)
  if m.buf.rxCmd.isSome then .ok m
  else if m.buf.rxData.isSome then do
    let frame ← m.read m.buf.rxData
    return ((m.mcpsDataIndication frame).delete m.buf.rxData).withBuf fun b =>
      { b with rxData := none }
  else do
    check (m.taskP.mcpsDataRequest = true ∧ m.taskP.mcpsDataRequestStep = 4)
    m.fsmMCPSDataRequest t .success

def handleSDTimer : Mac :=
  let m := m.withSf fun f => { f with
    inTxSD := false
    inRxSD := false
    indexCurrGts := if m.params.isPANCoor then 99 else f.indexCurrGts }
  if m.buf.txAck.isNone then m.plmeSetTrxStateRequest .trxOff
  else m.withStats fun s => { s with numTxAckInactive := s.numTxAckInactive + 1 }

def handleFinalCapTimer : MacResult := do
  check (m.sf.gtsStartSlot.toNat > m.sf.rxFinalCap.toNat + 1)
  return m.plmeSetTrxStateRequest .trxOff

/-- A beacon that is missed counts as a collision. -/
def handleBcnRxTimer : Mac :=
  if m.sf.rxBO != 15 then
    let m := m.dropAck.plmeSetTrxStateRequest .rxOn
    (m.withStats fun s => { s with
      numCollision :=
        if m.sf.bcnLossCounter ≠ 0 then s.numCollision + 1 else s.numCollision }).withSf
        fun f => { f with bcnLossCounter := f.bcnLossCounter + 1 }
  else m

def beaconFrame : MacFrame where
  frmType := .beacon
  srcAddr := if m.sf.macShortAddress = 0xfffe then m.params.aExtendedAddress
    else m.sf.macShortAddress
  bdsn := m.sf.macBSN
  kind := .none
  cmdType := .associationRequest
  ackReq := false
  dstAddrMode := addrModeNone
  srcPanId := m.sf.macPANId
  dstPanId := 0
  dstAddr := 0
  isGTS := false

def prepareBeacon : Mac :=
  let m :=
    (m.withSf fun f => { f with beaconWaitingTx := true }).plmeSetTrxStateRequest .forceTrxOff
  m.dropAck.plmeSetTrxStateRequest .txOn

def sendBeacon (a : Nat) : MacResult := do
  check (m.buf.txBeacon = none)
  let beacon := m.beaconFrame
  let m ← m.alloc a beacon
  let m := (m.withBuf fun b => { b with txBeacon := some a, txPkt := some a }).sendDown beacon
  check (m.sf.inTxSD = false)
  return m.withSf fun f => { f with
    macBSN := f.macBSN + 1
    inTxSD := true
    indexGtsTimer := if m.coor.gtsCount > 0 then UInt8.ofNat (m.coor.gtsCount - 1)
      else f.indexGtsTimer
    gtsTimer := if m.coor.gtsCount > 0 then true else f.gtsTimer }

/-- Twice for each beacon: first to turn the transmitter on, then to send it. -/
def handleBcnTxTimer (a : Nat) : MacResult := do
  let m ← (if m.params.macBeaconOrder = 15 then .ok m
    else if !m.sf.txNowBcnTxTimer then .ok m.prepareBeacon else m.sendBeacon a)
  return m.withSf fun f => { f with txNowBcnTxTimer := !f.txNowBcnTxTimer }

def gtsStarts : MacResult := do
  check (m.taskP.mcpsDataRequest = true ∧ m.taskP.mcpsDataRequestStep = 1)
  m.fsmMCPSDataRequest t .success

def handleGtsTimerCoor : MacResult := do
  let m := m.withSf fun f => { f with indexCurrGts := f.indexGtsTimer }
  let current ← m.gtsAt m.sf.indexCurrGts
  let m ← (if !current.isRecvGTS then .ok (m.plmeSetTrxStateRequest .rxOn)
    else if m.buf.txGTS.isSome && current.isTxPending then m.gtsStarts t
    else .ok (m.plmeSetTrxStateRequest .trxOff))
  return if m.sf.indexGtsTimer > 0 then
    m.withSf fun f => { f with indexGtsTimer := f.indexGtsTimer - 1, gtsTimer := true } else m

def handleGtsTimer : MacResult :=
  if m.params.isPANCoor then m.handleGtsTimerCoor t
  else if m.sf.indexGtsTimer ≠ 99 then do
    let m ← (if m.params.isRecvGTS then .ok (m.plmeSetTrxStateRequest .rxOn)
      else if m.buf.txGTS.isSome then m.gtsStarts t
      else .ok (m.plmeSetTrxStateRequest .forceTrxOff))
    return m.withSf fun f => { f with indexGtsTimer := 99, gtsTimer := true }
  else .ok ((m.withSf fun f => { f with indexGtsTimer := 0 }).plmeSetTrxStateRequest .trxOff)

def handlePDDataConfirm (status : PHYenum) (anyCAP : Bool) : MacResult :=
  let m := (m.withTx fun x => { x with inTransmission := false }).withCsma fun c =>
    { c with backoffStatus := if c.backoffStatus = 1 then 0 else c.backoffStatus }
  if status = .success then m.dispatch t status .handlePDDataConfirm anyCAP
  else if m.buf.txPkt = m.buf.txBeacon then .ok m.dropBeacon
  else if m.buf.txPkt = m.buf.txAck then .ok m.dropAck
  else if m.buf.txPkt = m.buf.txGTS then .error (.error "[GTS]: GTS transmission failed")
  else .ok m

def csmacaDone (status : PHYenum) : MacResult :=
  (m.withBuf fun b => { b with tmpCsmaca := none }).csmacaCallBack t status

def handlePLMECCAIdle : MacResult :=
  if !m.csma.beaconEnabled then m.csmacaDone t .idle
  else
    let m := m.withCsma fun c => { c with cw := c.cw - 1 }
    if m.csma.cw = 0 then
      if t.canProceed then (m.csmacaCanProceed t).csmacaDone t .idle
      else .ok (m.withCsma fun c =>
        { c with cw := 2, bPeriodsLeft := 0, csmacaWaitNextBeacon := true })
    else .ok m.handleBackoffTimer

def handlePLMECCABusy : MacResult :=
  let m := m.withCsma fun c => { c with cw := if c.beaconEnabled then 2 else c.cw, nb := c.nb + 1 }
  if m.csma.nb > macMaxCSMABackoffs then m.csmacaDone t .busy
  else
    (m.withCsma fun c => { c with
      be := if c.be + 1 > aMaxBE then aMaxBE else c.be + 1 }).csmacaStart t false none false

def handlePLMECCAConfirm (status : PHYenum) : MacResult :=
  if m.taskP.ccaCsmaca then
    let m := m.withTask fun p => { p with ccaCsmaca := false }
    if status = .idle then m.handlePLMECCAIdle t else m.handlePLMECCABusy t
  else .ok m

def csmacaHandleRxOnConfirm (status : PHYenum) : Mac :=
  if status ≠ .rxOn then
    if status = .busyTx then m.withTask fun p => { p with rxOnCsmaca := true }
    else m.handleBackoffTimer
  else if !m.csma.beaconEnabled || t.onBoundary then m.handleDeferCCATimer
  else m.withCsma fun c => { c with deferCCATimer := true }

def sendOnTxOn : MacResult :=
  if m.sf.beaconWaitingTx then .ok m
  else if m.buf.txAck.isSome then do
    let ack ← m.read m.buf.txAck
    if !m.beaconsUsed || ack.isGTS || t.onBoundary then m.handleTxAckBoundTimer else .ok m
  else if m.buf.txGTS.isSome then m.transmit m.buf.txGTS
  else if !m.beaconsUsed then m.handleTxCmdDataBoundTimer
  else do
    let _ ← m.read m.buf.txCsmaca
    if t.onBoundary then m.handleTxCmdDataBoundTimer else .ok m

def handlePLMESetTrxStateConfirm (confirmed : PHYenum) : MacResult :=
  let status := if confirmed = .success then m.tx.trxStateReq else confirmed
  let m :=
    if m.csma.backoffStatus = 99 && m.tx.trxStateReq = .rxOn && m.taskP.rxOnCsmaca then
      (m.withTask fun p => { p with rxOnCsmaca := false }).csmacaHandleRxOnConfirm t status
    else m
  if status = .txOn then m.sendOnTxOn t else .ok m

structure UpperPacket where
  byteLength : Nat
  toParent : Bool
  dest : Option UInt16
  deriving DecidableEq, Repr

def dataFrame (dstAddr : UInt16) : MacFrame where
  frmType := .data
  srcAddr := m.sf.macShortAddress
  bdsn := m.sf.macDSN
  kind := .none
  cmdType := .associationRequest
  ackReq := if m.params.dataTransMode = .gts then m.params.ack4Gts else ack4Data
  dstAddrMode := addrMode16
  srcPanId := m.sf.macPANId
  dstPanId := m.sf.macPANId
  dstAddr := dstAddr
  isGTS := m.params.dataTransMode = .gts

def requestDirect (a : Nat) : MacResult := do
  check (m.buf.txData = none)
  let m := (m.waitFor 1 .csmacaCallBack).withBuf fun b => { b with txData := some a }
  (m.withTx fun x => { x with waitDataAck := false, numDataRetry := 0 }).csmacaResume t

/-- A device whose slot has begun tries at once; everybody else waits for the start of the slot. -/
def requestGTS (a : Nat) : MacResult := do
  check (m.buf.txGTS = none)
  let m := (m.waitFor 1 .handleGtsTimer).withBuf fun b => { b with txGTS := some a }
  let m := m.withTx fun x => { x with numGTSRetry := 0 }
  if !m.params.isPANCoor && m.sf.indexGtsTimer = 99 then do
    check (m.sf.gtsTimer = true)
    if t.gtsCanProceed then m.fsmMCPSDataRequest t .success else .ok m
  else .ok m

def mcpsDataRequest (m : Mac) (t : Timing) (dstAddr : UInt16) (a : Nat) : MacResult :=
  if m.taskP.mcpsDataRequest then .error (.error "[MAC-TASK]: task overflow")
  else do
    let frame := m.dataFrame dstAddr
    let m := m.withTask fun p => { p with
      mcpsDataRequest := true
      mcpsDataRequestStep := 0
      mcpsDataRequestFrFunc := .none
      mcpsDataRequestTxOption := m.params.dataTransMode }
    let m ← (m.withSf fun f => { f with macDSN := f.macDSN + 1 }).alloc a frame
    match m.params.dataTransMode with
    | .direct => m.requestDirect t a
    | .indirect => .ok m
    | .gts => m.requestGTS t a

def dropUpper : Mac :=
  (m.withStats fun s => { s with numUpperPktLost := s.numUpperPktLost + 1 }).reqtMsgFromIFq

def toCoordinator (a : Nat) : MacResult :=
  if m.sf.notAssociated then .ok m.dropUpper
  else if m.params.dataTransMode = .gts then do
    check (m.params.isPANCoor = false)
    if m.sf.gtsStartSlot = 0 || m.params.isRecvGTS then .ok m.dropUpper
    else m.mcpsDataRequest t m.sf.macCoordShortAddress a
  else m.mcpsDataRequest t m.sf.macCoordShortAddress a

def toDevice (destAddr : UInt16) (a : Nat) : MacResult :=
  if !m.coor.deviceList.contains destAddr then .ok m.dropUpper
  else if m.params.dataTransMode = .gts then do
    check (m.params.isPANCoor = true)
    match m.coor.gtsList.findIdx? fun g => g.devShortAddr == destAddr && g.isRecvGTS with
    | none => .ok m.dropUpper
    | some index => (m.setTxPending index true).mcpsDataRequest t destAddr a
  else m.mcpsDataRequest t destAddr a

def handleUpperMsg (packet : UpperPacket) (a : Nat) : MacResult :=
  let m := m.withStats fun s => { s with numUpperPkt := s.numUpperPkt + 1 }
  if m.taskP.mcpsDataRequest then .ok m.dropUpper
  else if packet.byteLength > aMaxMACFrameSize then .ok m.dropUpper
  else if packet.toParent then m.toCoordinator t a
  else
    match packet.dest with
    | none => .error (.error "[MAC]: address conversion fails, destination host does not exist!")
    | some destAddr => m.toDevice t destAddr a

def frameFilter : Bool :=
  frame.kind != .none ||
  (frame.frmType == .beacon && m.sf.macPANId != 0xffff && frame.srcPanId != m.sf.macPANId) ||
  ((frame.dstAddrMode == addrMode16 || frame.dstAddrMode == addrMode64) &&
    frame.dstPanId != 0xffff && frame.dstPanId != m.sf.macPANId) ||
  (frame.dstAddrMode == addrMode16 && frame.dstAddr != 0xffff &&
    frame.dstAddr != m.sf.macShortAddress) ||
  (frame.dstAddrMode == addrMode64 && frame.dstAddr != m.params.aExtendedAddress) ||
  (frame.frmType == .ack && frame.dstAddr != m.params.aExtendedAddress) ||
  ((frame.frmType == .data || frame.frmType == .cmd) && frame.dstAddrMode == addrModeNone &&
    !m.params.isPANCoor)

def checkGtsTiming : Except MacFault Unit :=
  if frame.frmType ≠ .data || !frame.isGTS then .ok ()
  else if m.params.isPANCoor then do
    let late := .error (.error
      "[GTS]: timing error, PAN coordinator is not supposed to receive this DATA pkt at this time!")
    if m.sf.indexCurrGts = 99 then late
    else do
      let current ← m.gtsAt m.sf.indexCurrGts
      if current.isRecvGTS || current.devShortAddr != frame.srcAddr then late else .ok ()
  else if m.sf.indexGtsTimer ≠ 99 || !m.params.isRecvGTS ||
      frame.srcAddr ≠ m.sf.macCoordShortAddress then
    .error (.error
      "[GTS]: timing error, the device is not supposed to receive this DATA pkt at this time!")
  else .ok ()

def ackFrame : MacFrame where
  frmType := .ack
  srcAddr := 0
  bdsn := frame.bdsn
  kind := .none
  cmdType := .associationRequest
  ackReq := false
  dstAddrMode := addrModeNone
  srcPanId := 0
  dstPanId := 0
  dstAddr := frame.srcAddr
  isGTS := frame.isGTS

def constructACK (a : Nat) : MacResult := do
  let m ← m.alloc a (ackFrame frame)
  check (m.buf.txAck = none)
  return m.withBuf fun b => { b with txAck := some a }

def busyWithCmd : Bool := m.buf.rxCmd.isSome || m.buf.txBcnCmd.isSome

/-- Sent whether or not the frame turns out to be a duplicate. -/
def acknowledge (a : Nat) : MacResult :=
  if frame.frmType ≠ .data && frame.frmType ≠ .cmd then .ok m
  else if frame.ackReq then
    if frame.frmType = .cmd && m.busyWithCmd then .ok m
    else do
      let m ← m.constructACK frame a
      return m.csmacaStop.plmeSetTrxStateRequest .txOn
  else if frame.isGTS then
    .ok (m.plmeSetTrxStateRequest (if m.params.isPANCoor then .rxOn else .trxOff))
  else .ok m.resetTRX

/-- The superframe a beacon announces and, for a device that associates with its sender, the replies
to the two calls it makes there. -/
structure BeaconInfo where
  bo : UInt8
  finalCap : UInt8
  shortAddress : UInt16
  gtsStartSlot : UInt8

def associate (info : BeaconInfo) : MacResult := do
  check (m.sf.macCoordShortAddress = 0xffff)
  check (m.sf.macPANId = 0xffff)
  let m := m.withSf fun f => { f with
    notAssociated := false
    macPANId := frame.srcPanId
    macCoordShortAddress := frame.srcAddr
    macShortAddress := info.shortAddress }
  if m.params.dataTransMode = .gts then
    if info.gtsStartSlot = 0 then .error (.error "[GTS]: request for GTS failed!")
    else .ok (m.withSf fun f => { f with gtsStartSlot := info.gtsStartSlot })
  else .ok m

def trackGts : MacResult :=
  if m.sf.gtsStartSlot = 0 then .ok m
  else do
    check (m.sf.gtsStartSlot.toNat = m.sf.rxFinalCap.toNat + 1 ∨ m.sf.gtsStartSlot >
      m.sf.rxFinalCap)
    return m.withSf fun f => { f with gtsTimer := true }

def handleBeacon (info : BeaconInfo) (a : Nat) : MacResult := do
  check (m.sf.inRxSD = false)
  let m := m.withSf fun f => { f with
    rxBO := info.bo
    rxFinalCap := info.finalCap
    inRxSD := true
    bcnLossCounter := 0 }
  let m ← (if m.sf.notAssociated then m.associate frame info else m.trackGts)
  let m ← m.dispatch t .success .handleBeacon true
  let m ← (if m.csma.backoffStatus = 99 then m.csmacaTrxBeacon t else .ok m)
  return (m.resetTRX.delete (some a)).withStats fun s => { s with numRxBcnPkt := s.numRxBcnPkt + 1 }

def handleData (a : Nat) : MacResult := do
  check (m.buf.rxData = none)
  return m.withBuf fun b => { b with rxData := some a }

def handleCommand (a : Nat) : MacResult :=
  match frame.cmdType with
  | .associationRequest | .dataRequest => do
    check (m.buf.rxCmd = none)
    return m.withBuf fun b => { b with rxCmd := some a }
  | .beaconRequest => .error (.error "Beacon request")
  | _ => .ok (m.delete (some a))

def resetRetry : Mac :=
  m.withTx fun x =>
    if m.buf.txPkt = m.buf.txBcnCmd then { x with numBcnCmdRetry := 0 }
    else if m.buf.txPkt = m.buf.txBcnCmdUpper then { x with numBcnCmdUpperRetry := 0 }
    else if m.buf.txPkt = m.buf.txData then { x with numDataRetry := 0 }
    else { x with numGTSRetry := 0 }

def ackInTime : Mac :=
  ((m.withStats fun s => { s with numRxAckPkt := s.numRxAckPkt + 1 }).withTx fun x =>
    { x with ackTimeoutTimer := false }).resetRetry

def handleAck (a : Nat) : MacResult :=
  if m.buf.txBcnCmd = none ∧ m.buf.txBcnCmdUpper = none ∧ m.buf.txData = none ∧
    m.buf.txGTS = none then
    .ok (m.delete (some a))
  else if m.buf.txPkt ≠ m.buf.txBcnCmd ∧ m.buf.txPkt ≠ m.buf.txBcnCmdUpper ∧
      m.buf.txPkt ≠ m.buf.txData ∧ m.buf.txPkt ≠ m.buf.txGTS then .ok (m.delete (some a))
  else do
    let sent ← m.read m.buf.txPkt
    if frame.bdsn ≠ sent.bdsn then .ok (m.delete (some a))
    else if m.tx.ackTimeoutTimer then do
      let m ← m.ackInTime.dispatch t .success .handleAck true
      return m.delete (some a)
    else if m.buf.txPkt ≠ m.buf.txData then .ok (m.delete (some a))
    else do
      let m ← m.csmacaStop.dispatch t .success .handleAck true
      return m.delete (some a)

def processFrame (a : Nat) (info : BeaconInfo) : MacResult :=
  match frame.frmType with
  | .beacon => m.handleBeacon t frame info a
  | .data => m.handleData a
  | .ack => m.handleAck t frame a
  | .cmd => m.handleCommand frame a

def checkAndProcess (a : Nat) (i : Int32) (info : BeaconInfo) : MacResult :=
  match m.history.checkDuplication ⟨frame.toFrame, i⟩ with
  | .error fault => .error (.history fault)
  | .ok (true, history) => .ok ({ m with history := history }.delete (some a))
  | .ok (false, history) => { m with history := history }.processFrame t frame a info

def handleLowerMsg (a ack : Nat) (i : Int32) (info : BeaconInfo) : MacResult := do
  let m ← m.alloc a frame
  if m.frameFilter frame then
    return (m.withStats fun s => { s with
      numCollision :=
        if frame.kind = .collision then s.numCollision + 1 else s.numCollision }).delete (some a)
  else do
    m.checkGtsTiming frame
    let m ← m.acknowledge frame ack
    if frame.frmType = .cmd && m.busyWithCmd then .ok (m.delete (some a))
    else if frame.frmType = .data && m.buf.rxData.isSome then .ok (m.delete (some a))
    else m.checkAndProcess t frame a i info

def initial (params : MacParams) (coor : PANCoordinator) (macBSN macDSN : UInt8) : Mac where
  params := params
  stats := ⟨0, 0, 0, 0, 0, 0, 0, 0, 0, 0, 0, 0, 0, 0⟩
  taskP := ⟨false, 0, .none, .direct, false, false⟩
  buf := ⟨none, none, none, none, none, none, none, none, none, none, none⟩
  csma := ⟨false, 0, 0, 0, 0, 0, false, false, false, false⟩
  tx := ⟨false, .trxOff, false, false, false, false, 0, 0, 0, 0, false⟩
  sf := {
    macPANId := 0xffff
    macShortAddress := 0xffff
    macCoordShortAddress := 0xffff
    macDSN := macDSN
    macBSN := macBSN
    rxBO := 15
    rxFinalCap := 0
    beaconWaitingTx := false
    notAssociated := true
    bcnLossCounter := 0
    inTxSD := false
    inRxSD := false
    txNowBcnTxTimer := false
    indexCurrGts := 99
    indexGtsTimer := 0
    gtsStartSlot := 0
    gtsTimer := false }
  frames := fun _ => none
  history := History.empty
  coor := coor
  outputs := []

def start (params : MacParams) (macSuperframeOrder macBSN macDSN : UInt8) : MacResult :=
  match PANCoordinator.startPANCoor params.macBeaconOrder macSuperframeOrder with
  | .error text => .error (.error text)
  | .ok coor =>
    if params.dataTransMode = .indirect then
      .error (.error "[MAC]: data transfer mode = 2 is not supported in the model!")
    else if params.isPANCoor then .ok (initial params coor macBSN macDSN)
    else
      .ok ((initial { params with macBeaconOrder := 15 } coor macBSN macDSN).plmeSetTrxStateRequest
        .rxOn)

def startPANCoor (a : Nat) : MacResult := do
  let m := m.withSf fun f => { f with
    macShortAddress := m.params.aExtendedAddress
    macPANId := m.params.aExtendedAddress
    txNowBcnTxTimer := true
    beaconWaitingTx := true }
  check (m.params.macBeaconOrder ≠ 15)
  ((m.plmeSetTrxStateRequest .forceTrxOff).plmeSetTrxStateRequest .txOn).handleBcnTxTimer a

/-- The events of `handleMessage`, and the calls that devices make on their coordinator, with the
addresses `new` returns. -/
inductive Event where
  | upper (packet : UpperPacket) (a : Nat)
  | lower (frame : MacFrame) (a ack : Nat) (i : Int32) (info : BeaconInfo)
  | pdDataConfirm (status : PHYenum) (anyCAP : Bool)
  | plmeCCAConfirm (status : PHYenum)
  | plmeSetTrxStateConfirm (status : PHYenum)
  | backoffTimer
  | deferCCATimer
  | bcnRxTimer
  | bcnTxTimer (a : Nat)
  | ackTimeoutTimer
  | txAckBoundTimer
  | txCmdDataBoundTimer
  | ifsTimer
  | sdTimer
  | finalCapTimer
  | gtsTimer
  | startPANCoorTimer (a : Nat)
  | deviceCall (call : PANCoordinator.Call)

def handleMessage : Event → MacResult
  | .upper packet a => m.handleUpperMsg t packet a
  | .lower frame a ack i info => m.handleLowerMsg t frame a ack i info
  | .pdDataConfirm status anyCAP => m.handlePDDataConfirm t status anyCAP
  | .plmeCCAConfirm status => m.handlePLMECCAConfirm t status
  | .plmeSetTrxStateConfirm status => m.handlePLMESetTrxStateConfirm t status
  | .backoffTimer => .ok (m.withCsma fun c => { c with backoffTimer := false }).handleBackoffTimer
  | .deferCCATimer => .ok (m.withCsma fun c =>
      { c with deferCCATimer := false }).handleDeferCCATimer
  | .bcnRxTimer => .ok m.handleBcnRxTimer
  | .bcnTxTimer a => m.handleBcnTxTimer a
  | .ackTimeoutTimer => (m.withTx fun x =>
      { x with ackTimeoutTimer := false }).handleAckTimeoutTimer t
  | .txAckBoundTimer => m.handleTxAckBoundTimer
  | .txCmdDataBoundTimer => m.handleTxCmdDataBoundTimer
  | .ifsTimer => m.handleIfsTimer t
  | .sdTimer => .ok m.handleSDTimer
  | .finalCapTimer => m.handleFinalCapTimer
  | .gtsTimer => (m.withSf fun f => { f with gtsTimer := false }).handleGtsTimer t
  | .startPANCoorTimer a => m.startPANCoor a
  | .deviceCall call => .ok { m with coor := m.coor.call call }

end Mac

end Srwsn
