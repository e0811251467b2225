import Srwsn.Switch.RelayUnit

/-! The Ethernet MAC. Times are in ticks. -/
namespace Srwsn

open Outcome Function

inductive TransmitState where
  | txIdle | waitIFG | transmitting | jamming | backoff | pause
  deriving DecidableEq

inductive ReceiveState where
  | rxIdle | receiving | rxCollision
  deriving DecidableEq

inductive SelfMsg where
  | endTransmission | endIFG | endPause | endReception | endBackoff | endJamming | endAutoconfig
  deriving DecidableEq

instance : Fintype SelfMsg :=
  .ofList [.endTransmission, .endIFG, .endPause, .endReception, .endBackoff, .endJamming,
    .endAutoconfig] fun msg => by
    cases msg <;> simp

/- `pauseTime` is there in a PAUSE frame. `number` counts the frames taken from the upper layer
before. -/
structure EtherMacFrame extends EtherFrame where
  byteLength : Nat
  pauseTime : Option Int32 := none
  hasBitError : Bool := false
  number : Nat := 0
  deriving DecidableEq

def EtherMacFrame.bitLength (f : EtherMacFrame) : Nat := 8 * f.byteLength

inductive NetworkMsg where
  | frame (frame : EtherMacFrame)
  | jam (byteLength : Nat)
  | autoconfig (txrate : Nat) (halfDuplex : Bool)
  deriving DecidableEq

def NetworkMsg.bitLength : NetworkMsg → Nat
  | frame f => f.bitLength
  | jam byteLength => 8 * byteLength
  | autoconfig _ _ => 0

inductive EtherMacFault where
  | localDest | tooLong | queueLimit | unexpectedClass | longPropagation | strayJam | notIdle
  | inconsistent | wrongState | noFrame | scheduledTwice | inThePast | nonstandardRate
  | negativeLength
  deriving DecidableEq

inductive MacAction where
  | advertises (txrate : Nat) (halfDuplex : Bool)
  | transmits (frame : EtherMacFrame)
  | jams
  | passesUp (frame : EtherMacFrame)
  | requestsPacket
  | completes (frame : EtherMacFrame)
  | cancels (frame : EtherMacFrame)
  deriving DecidableEq

def MAX_ETHERNET_FRAME : Nat := 1518
def MIN_ETHERNET_FRAME : Nat := 64
def GIGABIT_MIN_FRAME_WITH_EXT : Nat := 512
def GIGABIT_MAX_BURST_BYTES : Nat := 8192
def INTERFRAME_GAP_BITS : Nat := 96
def ETHERNET_TXRATE : Nat := 10000000
def FAST_ETHERNET_TXRATE : Nat := 100000000
def GIGABIT_ETHERNET_TXRATE : Nat := 1000000000
def FAST_GIGABIT_ETHERNET_TXRATE : Nat := 10000000000
def SLOT_TIME : Nat := 512 * SECOND / ETHERNET_TXRATE
def GIGABIT_SLOT_TIME : Nat := 4096 * SECOND / GIGABIT_ETHERNET_TXRATE
def MAX_ATTEMPTS : Nat := 16
def BACKOFF_RANGE_LIMIT : Nat := 10
def JAM_SIGNAL_BYTES : Nat := 4
def PREAMBLE_BYTES : Nat := 7
def SFD_BYTES : Nat := 1
def PAUSE_BITTIME : Nat := 512
def AUTOCONFIG_PERIOD : Nat := SECOND / 1000

structure MacParameters where
  bitTime : Nat := 0
  slotTime : Nat := 0
  interFrameGap : Nat := 0
  jamDuration : Nat := 0
  shortestFrameDuration : Nat := 0
  carrierExtension : Bool := false
  frameBursting : Bool := false
  deriving DecidableEq

/-- The shortest frame duration is a number of bytes that is used as seconds. -/
def calculateParameters (connected duplexMode : Bool) (txrate : Nat) :
    Except EtherMacFault MacParameters :=
  if !connected then .ok {}
  else if txrate ≠ ETHERNET_TXRATE ∧ txrate ≠ FAST_ETHERNET_TXRATE ∧
    txrate ≠ GIGABIT_ETHERNET_TXRATE ∧
      txrate ≠ FAST_GIGABIT_ETHERNET_TXRATE then .error .nonstandardRate
  else
    let bitTime := SECOND / txrate
    let slotTime := if txrate = ETHERNET_TXRATE ∨ txrate = FAST_ETHERNET_TXRATE then SLOT_TIME
      else GIGABIT_SLOT_TIME
    let carrierExtension := decide (slotTime = GIGABIT_SLOT_TIME) && !duplexMode
    .ok
      { bitTime := bitTime
        slotTime := slotTime
        interFrameGap := INTERFRAME_GAP_BITS * SECOND / txrate
        jamDuration := 8 * JAM_SIGNAL_BYTES * bitTime
        shortestFrameDuration := SECOND * if carrierExtension then GIGABIT_MIN_FRAME_WITH_EXT
          else MIN_ETHERNET_FRAME
        carrierExtension := carrierExtension
        frameBursting :=
          decide (txrate = GIGABIT_ETHERNET_TXRATE ∨ txrate = FAST_GIGABIT_ETHERNET_TXRATE) }

structure EtherMAC where
  address : MACAddress
  promiscuous : Bool
  connected : Bool
  parTxrate : Nat
  duplexEnabled : Bool
  txQueueLimit : Int
  hasQueueModule : Bool
  autoconfigInProgress : Bool := false
  lowestTxrateSuggested : Nat := 0
  duplexVetoed : Bool := false
  duplexMode : Bool := false
  params : MacParameters := {}
  transmitState : TransmitState := .txIdle
  receiveState : ReceiveState := .rxIdle
  pauseUnitsRequested : Int32 := 0
  txQueue : List EtherMacFrame := []
  backoffs : Nat := 0
  numConcurrentTransmissions : Int := 0
  frameBeingReceived : Option EtherMacFrame := none
  framesSentInBurst : Nat := 0
  bytesSentInBurst : Nat := 0
  scheduled : SelfMsg → Option Nat := fun _ => none
  log : List MacAction := []

namespace EtherMAC

variable (mac : EtherMAC) (now : Nat) (frame : EtherMacFrame)

def record (act : MacAction) : EtherMAC := { mac with log := act :: mac.log }

def scheduleAt (time : Nat) (msg : SelfMsg) : Except EtherMacFault EtherMAC :=
  if mac.scheduled msg = none then
    .ok { mac with scheduled := update mac.scheduled msg (some time) }
  else .error .scheduledTwice

def cancelEvent (msg : SelfMsg) : EtherMAC :=
  { mac with scheduled := update mac.scheduled msg none }

def scheduleEndIFGPeriod : Except EtherMacFault EtherMAC :=
  (mac.scheduleAt (now + mac.params.interFrameGap) .endIFG).map
    ({ · with transmitState := .waitIFG })

def scheduleEndTxPeriod : Except EtherMacFault EtherMAC :=
  (mac.scheduleAt (now + frame.bitLength * mac.params.bitTime) .endTransmission).map
    ({ · with transmitState := .transmitting })

/-- The number of bit times is an `int`, which a long pause wraps round. -/
def scheduleEndPausePeriod (pauseUnits : Int32) : Except EtherMacFault EtherMAC :=
  let bits := (pauseUnits * Int32.ofNat PAUSE_BITTIME).toInt
  if bits < 0 then .error .inThePast
  else
    (mac.scheduleAt (now + bits.toNat * mac.params.bitTime) .endPause).map
      ({ · with transmitState := .pause })

def scheduleEndRxPeriod : Except EtherMacFault EtherMAC :=
  (mac.scheduleAt (now + frame.bitLength * mac.params.bitTime) .endReception).map
    ({ · with receiveState := .receiving })

def sendJamSignal : Except EtherMacFault EtherMAC :=
  ((mac.record .jams).scheduleAt (now + mac.params.jamDuration) .endJamming).map
    ({ · with transmitState := .jamming })

def beginSendFrames : Except EtherMacFault EtherMAC :=
  if mac.txQueue ≠ [] then mac.scheduleEndIFGPeriod now
  else
    let mac := { mac with transmitState := .txIdle }
    .ok (if mac.hasQueueModule then mac.record .requestsPacket else mac)

def enqueue : Except EtherMacFault EtherMAC :=
  if frame.pauseTime = none then
    if mac.txQueueLimit ≠ 0 ∧ mac.txQueueLimit < mac.txQueue.length then .error .queueLimit
    else
      let frame := if frame.src.isUnspecified then { frame with src := mac.address } else frame
      .ok { mac with txQueue := mac.txQueue ++ [frame] }
  else .ok { mac with txQueue := frame :: mac.txQueue }

def processFrameFromUpperLayer : Except EtherMacFault EtherMAC :=
  if frame.dest = mac.address then .error .localDest
  else if MAX_ETHERNET_FRAME < frame.byteLength then .error .tooLong
  else do
    let mac ← mac.enqueue frame
    if !mac.autoconfigInProgress ∧ (mac.duplexMode ∨ mac.receiveState = .rxIdle) ∧
      mac.transmitState = .txIdle then
      mac.scheduleEndIFGPeriod now
    else .ok mac

def processPauseCommand (pauseUnits : Int32) : Except EtherMacFault EtherMAC :=
  match mac.transmitState with
  | .txIdle => if 0 < pauseUnits then mac.scheduleEndPausePeriod now pauseUnits else .ok mac
  | .pause =>
    let mac := mac.cancelEvent .endPause
    if 0 < pauseUnits then mac.scheduleEndPausePeriod now pauseUnits else .ok mac
  | _ => .ok { mac with pauseUnitsRequested := pauseUnits }

def processReceivedDataFrame : Except EtherMacFault EtherMAC :=
  if frame.hasBitError then .ok mac
  else if frame.byteLength < PREAMBLE_BYTES + SFD_BYTES then .error .negativeLength
  else if !mac.promiscuous && !frame.dest.isBroadcast && decide (frame.dest ≠ mac.address) then
    .ok mac
  else .ok (mac.record (.passesUp
    { frame with byteLength := frame.byteLength - (PREAMBLE_BYTES + SFD_BYTES) }))

def frameReceptionComplete : Except EtherMacFault EtherMAC :=
  match frame.pauseTime with
  | some pauseUnits => mac.processPauseCommand now pauseUnits
  | none => mac.processReceivedDataFrame frame

/-- A jam marks the end of one transmission; after the last one the collision ends with it. A frame
may make the collision longer. -/
def countOverlap (msg : NetworkMsg) : Except EtherMacFault EtherMAC :=
  let endRxTime := now + msg.bitLength * mac.params.bitTime
  match msg with
  | .jam _ =>
    if mac.numConcurrentTransmissions ≤ 0 then .error .strayJam
    else
      let mac := { mac with numConcurrentTransmissions := mac.numConcurrentTransmissions - 1 }
      if mac.numConcurrentTransmissions = 0 then
        (mac.cancelEvent .endReception).scheduleAt endRxTime .endReception
      else .ok mac
  | _ =>
    let mac := { mac with numConcurrentTransmissions := mac.numConcurrentTransmissions + 1 }
    if (mac.scheduled .endReception).getD 0 < endRxTime then
      (mac.cancelEvent .endReception).scheduleAt endRxTime .endReception
    else .ok mac

def processOverlap (msg : NetworkMsg) : Except EtherMacFault EtherMAC :=
  (mac.countOverlap now msg).map fun mac => { mac with
    frameBeingReceived := if mac.receiveState = .receiving then none else mac.frameBeingReceived
    receiveState := .rxCollision }

def processCollision (msg : NetworkMsg) : Except EtherMacFault EtherMAC := do
  let endRxTime := now + msg.bitLength * mac.params.bitTime
  let mac ← (mac.cancelEvent .endTransmission).sendJamSignal now
  let endJamTime := now + mac.params.jamDuration
  { mac with
    receiveState := .rxCollision
    numConcurrentTransmissions := mac.numConcurrentTransmissions + 1 }.scheduleAt
      (if endRxTime < endJamTime then endJamTime else endRxTime) .endReception

/-- The next frame begins before the end of the last one is handled, at the same time. -/
def backToBack : Bool :=
  decide (mac.receiveState = .receiving) &&
    decide (((mac.scheduled .endReception).getD 0 : Int) - now < mac.params.bitTime)

def completeReception : Except EtherMacFault EtherMAC :=
  match mac.frameBeingReceived with
  | none => .error .noFrame
  | some frame => { mac with frameBeingReceived := none }.frameReceptionComplete now frame

def startReception : Except EtherMacFault EtherMAC :=
  { mac with frameBeingReceived := some frame }.scheduleEndRxPeriod now frame

def tooFar (sendingTime : Nat) : Bool :=
  !mac.duplexMode && decide (sendingTime + mac.params.shortestFrameDuration ≤ now)

def processMsgFromNetwork (sendingTime : Nat) (msg : NetworkMsg) : Except EtherMacFault EtherMAC :=
  match msg with
  | .autoconfig _ _ => .error .unexpectedClass
  | .jam byteLength =>
    if mac.tooFar now sendingTime then .error .longPropagation
    else if !mac.duplexMode ∧ mac.transmitState = .transmitting then .error .strayJam
    else if mac.receiveState = .rxIdle then .error .strayJam
    else mac.processOverlap now (.jam byteLength)
  | .frame frame =>
    if mac.tooFar now sendingTime then .error .longPropagation
    else if !mac.duplexMode ∧ mac.transmitState = .transmitting then
      mac.processCollision now (.frame frame)
    else if mac.receiveState = .rxIdle then
      if mac.frameBeingReceived ≠ none then .error .notIdle
      else
        { mac with numConcurrentTransmissions := mac.numConcurrentTransmissions + 1 }.startReception
          now frame
    else if mac.backToBack now then do
      let mac ← (mac.cancelEvent .endReception).completeReception now
      mac.startReception now frame
    else mac.processOverlap now (.frame frame)

/-- A copy of the first frame goes out. A reception that began in the gap is not heard before. -/
def startFrameTransmission : Except EtherMacFault EtherMAC :=
  match mac.txQueue with
  | [] => .error .noFrame
  | origFrame :: _ => do
    let frame :=
      { origFrame with byteLength := origFrame.byteLength + (PREAMBLE_BYTES + SFD_BYTES) }
    let mac := mac.record (.transmits frame)
    let mac :=
      if mac.params.frameBursting then
        { mac with
          bytesSentInBurst := frame.byteLength, framesSentInBurst := mac.framesSentInBurst + 1 }
      else mac
    if !mac.duplexMode ∧ mac.receiveState ≠ .rxIdle then
      let mac ← mac.sendJamSignal now
      .ok { mac with
        frameBeingReceived := if mac.receiveState = .receiving then none else mac.frameBeingReceived
        receiveState := .rxCollision }
    else mac.scheduleEndTxPeriod now frame

def extended : EtherMacFrame :=
  if mac.params.carrierExtension ∧ frame.byteLength < GIGABIT_MIN_FRAME_WITH_EXT then
    { frame with byteLength := GIGABIT_MIN_FRAME_WITH_EXT }
  else frame

def handleEndIFGPeriod : Except EtherMacFault EtherMAC :=
  if mac.transmitState ≠ .waitIFG then .error .wrongState
  else
    match mac.txQueue with
    | [] => .error .noFrame
    | frame :: rest =>
      let mac := { mac with txQueue := mac.extended (mac.extended frame) :: rest }
      let mac := if mac.params.frameBursting then
        { mac with framesSentInBurst := 0, bytesSentInBurst := 0 } else mac
      mac.startFrameTransmission now

def afterTransmission : Except EtherMacFault EtherMAC :=
  if 0 < mac.pauseUnitsRequested then
    (mac.scheduleEndPausePeriod now mac.pauseUnitsRequested).map
      ({ · with pauseUnitsRequested := 0 })
  else if mac.params.frameBursting ∧ mac.txQueue ≠ [] ∧ mac.bytesSentInBurst <
    GIGABIT_MAX_BURST_BYTES then
    mac.startFrameTransmission now
  else mac.beginSendFrames now

def handleEndTxPeriod : Except EtherMacFault EtherMAC :=
  if mac.transmitState ≠ .transmitting ∨ (!mac.duplexMode ∧ mac.receiveState ≠ .rxIdle) then
    .error .wrongState
  else
    match mac.txQueue with
    | [] => .error .noFrame
    | frame :: rest => ({ mac with txQueue := rest, backoffs := 0 }.record
        (.completes frame)).afterTransmission now

def finishReception : Except EtherMacFault EtherMAC :=
  if mac.receiveState = .receiving then mac.completeReception now else .ok mac

def handleEndRxPeriod : Except EtherMacFault EtherMAC := do
  let mac ← mac.finishReception now
  let mac := { mac with receiveState := .rxIdle, numConcurrentTransmissions := 0 }
  if mac.transmitState = .txIdle ∧ mac.txQueue ≠ [] then mac.scheduleEndIFGPeriod now else .ok mac

def handleEndBackoffPeriod : Except EtherMacFault EtherMAC :=
  if mac.transmitState ≠ .backoff then .error .wrongState
  else if mac.txQueue = [] then .error .noFrame
  else if mac.receiveState = .rxIdle then mac.scheduleEndIFGPeriod now
  else .ok { mac with transmitState := .txIdle }

def backoffrange (backoffs : Nat) : Nat := if BACKOFF_RANGE_LIMIT ≤ backoffs then 1024
    else 2 ^ backoffs

def handleRetransmission (slotNumber : Nat) : Except EtherMacFault EtherMAC :=
  let mac := { mac with backoffs := mac.backoffs + 1 }
  if MAX_ATTEMPTS < mac.backoffs then
    match mac.txQueue with
    | [] => .error .noFrame
    | frame :: rest =>
      .ok ({ mac with txQueue := rest, transmitState := .txIdle, backoffs := 0 }.record
        (.cancels frame))
  else
    (mac.scheduleAt (now + slotNumber * mac.params.slotTime) .endBackoff).map
      ({ · with transmitState := .backoff })

def handleEndJammingPeriod (slotNumber : Nat) : Except EtherMacFault EtherMAC :=
  if mac.transmitState ≠ .jamming then .error .wrongState
    else mac.handleRetransmission now slotNumber

def handleEndPausePeriod : Except EtherMacFault EtherMAC :=
  if mac.transmitState ≠ .pause then .error .wrongState else mac.beginSendFrames now

def agreedTxrate : Nat :=
  if mac.parTxrate = 0 ∧ mac.lowestTxrateSuggested = 0 then 100000000
  else if mac.parTxrate = 0 then mac.lowestTxrateSuggested
  else if mac.lowestTxrateSuggested = 0 then mac.parTxrate
  else if mac.lowestTxrateSuggested < mac.parTxrate then mac.lowestTxrateSuggested
  else mac.parTxrate

def endAutoconfig : Except EtherMacFault EtherMAC := do
  let duplexMode := mac.duplexEnabled && !mac.duplexVetoed
  let params ← calculateParameters mac.connected duplexMode mac.agreedTxrate
  let mac := { mac with autoconfigInProgress := false, duplexMode := duplexMode, params := params }
  if mac.txQueue ≠ [] then mac.scheduleEndIFGPeriod now else .ok mac

def handleAutoconfigAdvert (msg : NetworkMsg) : Except EtherMacFault EtherMAC :=
  match msg with
  | .autoconfig txrate halfDuplex =>
    .ok { mac with
      lowestTxrateSuggested :=
        if 0 < txrate ∧ (txrate < mac.lowestTxrateSuggested ∨ mac.lowestTxrateSuggested = 0) then
          txrate
        else mac.lowestTxrateSuggested
      duplexVetoed := mac.duplexVetoed || halfDuplex }
  | _ => .error .unexpectedClass

end EtherMAC

inductive MacEvent where
  | upper (frame : EtherMacFrame)
  | network (sendingTime : Nat) (msg : NetworkMsg)
  | selfMsg (msg : SelfMsg) (slotNumber : Nat)
  deriving DecidableEq

namespace EtherMAC

variable (mac : EtherMAC)

def handleSelfMsg (now slotNumber : Nat) : SelfMsg → Except EtherMacFault EtherMAC
  | .endIFG => mac.handleEndIFGPeriod now
  | .endTransmission => mac.handleEndTxPeriod now
  | .endReception => mac.handleEndRxPeriod now
  | .endBackoff => mac.handleEndBackoffPeriod now
  | .endJamming => mac.handleEndJammingPeriod now slotNumber
  | .endPause => mac.handleEndPausePeriod now
  | .endAutoconfig => .error .unexpectedClass

def handleMessage (now : Nat) (e : MacEvent) : Except EtherMacFault EtherMAC :=
  if mac.autoconfigInProgress then
    match e with
    | .upper frame => mac.processFrameFromUpperLayer now frame
    | .network _ msg => mac.handleAutoconfigAdvert msg
    | .selfMsg msg _ => (mac.cancelEvent msg).endAutoconfig now
  else if !mac.duplexMode ∧ mac.transmitState = .transmitting ∧ mac.receiveState ≠ .rxIdle then
    .error .inconsistent
  else
    match e with
    | .upper frame => mac.processFrameFromUpperLayer now frame
    | .network sendingTime msg => mac.processMsgFromNetwork now sendingTime msg
    | .selfMsg msg slotNumber => (mac.cancelEvent msg).handleSelfMsg now slotNumber msg

def startAutoconfig (now : Nat) : Except EtherMacFault EtherMAC :=
  let mac := { mac with
    autoconfigInProgress := true, lowestTxrateSuggested := 0, duplexVetoed := false, duplexMode :=
      mac.duplexEnabled }
  let mac :=
    if !mac.duplexEnabled ∨ 0 <
      mac.parTxrate then mac.record (.advertises mac.parTxrate !mac.duplexEnabled) else mac
  mac.scheduleAt (now + AUTOCONFIG_PERIOD) .endAutoconfig

def reset : EtherMAC := { mac with
  autoconfigInProgress := false, transmitState := .txIdle, receiveState :=
    .rxIdle, pauseUnitsRequested := 0
  txQueue := [], backoffs := 0, numConcurrentTransmissions := 0, frameBeingReceived := none
  framesSentInBurst := 0, bytesSentInBurst := 0, scheduled := fun _ => none
  log := if mac.hasQueueModule then [.requestsPacket] else [] }

def begin : Except EtherMacFault EtherMAC :=
  if mac.connected then mac.reset.startAutoconfig 0
  else
    (calculateParameters mac.connected mac.duplexEnabled mac.parTxrate).map fun params =>
      { mac.reset with duplexMode := mac.duplexEnabled, params := params }

end EtherMAC

namespace EtherMAC

variable {mac mac' : EtherMAC} {now : Nat} {time : Nat}

theorem scheduleAt_eq {msg : SelfMsg} (done : mac.scheduleAt time msg = .ok mac') :
    mac.scheduled msg = none ∧
    mac' = { mac with scheduled := update mac.scheduled msg (some time) } := by
  unfold scheduleAt at done
  split_ifs at done with free
  exact ⟨free, (Except.ok.inj done).symm⟩

abbrev entered (mac : EtherMAC) (msg : SelfMsg) (time : Nat) (state : TransmitState) : EtherMAC :=
  { mac with scheduled := update mac.scheduled msg (some time), transmitState := state }

theorem enter_eq {msg : SelfMsg} {state : TransmitState}
    (done : (mac.scheduleAt time msg).map ({ · with transmitState := state }) = .ok mac') :
    mac' = mac.entered msg time state := by
  obtain ⟨m, scheduled, rfl⟩ := map_eq_ok done
  obtain ⟨-, rfl⟩ := scheduleAt_eq scheduled
  rfl

variable {frame : EtherMacFrame}

theorem enqueue_eq (done : mac.enqueue frame = .ok mac') :
    ∃ f : EtherMacFrame, f.number = frame.number ∧ f.pauseTime = frame.pauseTime ∧
      mac' = { mac with
        txQueue := if frame.pauseTime = none then mac.txQueue ++ [f] else f :: mac.txQueue } := by
  unfold enqueue at done
  split_ifs at done with data limit unset
  · cases done
    exact ⟨{ frame with src := mac.address }, rfl, rfl, by rw [if_pos data]⟩
  · cases done
    exact ⟨frame, rfl, rfl, by rw [if_pos data]⟩
  · cases done
    exact ⟨frame, rfl, rfl, by rw [if_neg data]⟩

theorem postpone_eq (done : (mac.cancelEvent .endReception).scheduleAt time .endReception =
    .ok mac') :
    mac' = { mac with scheduled := update mac.scheduled .endReception (some time) } := by
  obtain ⟨-, rfl⟩ := scheduleAt_eq done
  simp [cancelEvent]

variable {msg : NetworkMsg}

theorem countOverlap_eq (done : mac.countOverlap now msg = .ok mac') :
    ∃ n, mac' = { mac with numConcurrentTransmissions := n } ∨ ∃ time, mac' = { mac with
      numConcurrentTransmissions := n, scheduled :=
        update mac.scheduled .endReception (some time) } := by
  unfold countOverlap at done
  dsimp only at done
  split at done
  · split_ifs at done
    · cases postpone_eq done
      exact ⟨_, .inr ⟨_, rfl⟩⟩
    · exact ⟨_, .inl (Except.ok.inj done).symm⟩
  · split_ifs at done
    · cases postpone_eq done
      exact ⟨_, .inr ⟨_, rfl⟩⟩
    · exact ⟨_, .inl (Except.ok.inj done).symm⟩

theorem processOverlap_eq (done : mac.processOverlap now msg = .ok mac') :
    ∃ s n b, mac' = { mac with
        scheduled := s, numConcurrentTransmissions := n, frameBeingReceived := b, receiveState :=
          .rxCollision } ∧
      (s = mac.scheduled ∨ ∃ time, s = update mac.scheduled .endReception (some time)) := by
  obtain ⟨m, counted, rfl⟩ := map_eq_ok done
  obtain ⟨n, rfl | ⟨time, rfl⟩⟩ := countOverlap_eq counted
  · exact ⟨_, n, _, rfl, .inl rfl⟩
  · exact ⟨_, n, _, rfl, .inr ⟨time, rfl⟩⟩

theorem sendJamSignal_eq (done : mac.sendJamSignal now = .ok mac') :
    ∃ time, mac' = (mac.record .jams).entered .endJamming time .jamming := ⟨_, enter_eq done⟩

theorem processCollision_eq (done : mac.processCollision now msg = .ok mac') :
    ∃ n jam time, mac' = { mac with
      log := .jams :: mac.log, transmitState := .jamming, receiveState :=
        .rxCollision, numConcurrentTransmissions := n
      scheduled := update (update (update mac.scheduled .endTransmission none)
        .endJamming (some jam)) .endReception (some time) } := by
  obtain ⟨m, jammed, rest⟩ := bind_eq_ok done
  obtain ⟨jam, rfl⟩ := sendJamSignal_eq jammed
  obtain ⟨-, rfl⟩ := scheduleAt_eq rest
  exact ⟨_, jam, _, rfl⟩

theorem startReception_eq (done : mac.startReception now frame = .ok mac') :
    ∃ time, mac' = { mac with
      frameBeingReceived := some frame, receiveState := .receiving
      scheduled := update mac.scheduled .endReception (some time) } := by
  obtain ⟨m, scheduled, rfl⟩ := map_eq_ok done
  obtain ⟨-, rfl⟩ := scheduleAt_eq scheduled
  exact ⟨_, rfl⟩

variable {pauseUnits : Int32}

theorem scheduleEndPausePeriod_eq (done : mac.scheduleEndPausePeriod now pauseUnits = .ok mac') :
    ∃ time, mac' = mac.entered .endPause time .pause := by
  unfold scheduleEndPausePeriod at done
  dsimp only at done
  split_ifs at done
  exact ⟨_, enter_eq done⟩

theorem processPauseCommand_cases (done : mac.processPauseCommand now pauseUnits = .ok mac') :
    (mac.transmitState = .txIdle ∧ ¬ 0 < pauseUnits ∧ mac' = mac) ∨
    (mac.transmitState = .pause ∧ ¬ 0 < pauseUnits ∧ mac' = mac.cancelEvent .endPause) ∨
    ((mac.transmitState = .txIdle ∨ mac.transmitState = .pause) ∧ 0 < pauseUnits ∧ ∃ time,
      mac' = mac.entered .endPause time .pause) ∨
    (mac.transmitState ≠ .txIdle ∧ mac.transmitState ≠ .pause ∧
      mac' = { mac with pauseUnitsRequested := pauseUnits }) := by
  unfold processPauseCommand at done
  split at done
  · next idle =>
    split_ifs at done with long
    · exact .inr (.inr (.inl ⟨.inl idle, long, scheduleEndPausePeriod_eq done⟩))
    · exact .inl ⟨idle, long, (Except.ok.inj done).symm⟩
  · next pausing =>
    dsimp only at done
    split_ifs at done with long
    · obtain ⟨time, rfl⟩ := scheduleEndPausePeriod_eq done
      exact .inr (.inr (.inl ⟨.inr pausing, long, time, by simp [cancelEvent]⟩))
    · exact .inr (.inl ⟨pausing, long, (Except.ok.inj done).symm⟩)
  · next idle pausing => exact .inr (.inr (.inr ⟨idle, pausing, (Except.ok.inj done).symm⟩))

theorem completeReception_cases (done : mac.completeReception now = .ok mac') :
    ∃ frame, mac.frameBeingReceived = some frame ∧
      ((frame.pauseTime = none ∧ ∃ log, (log = mac.log ∨ ∃ f, log = .passesUp f :: mac.log) ∧
          mac' = { mac with frameBeingReceived := none, log := log }) ∨
        ∃ pauseUnits, frame.pauseTime = some pauseUnits ∧
          { mac with frameBeingReceived := none }.processPauseCommand now pauseUnits =
          .ok mac') := by
  unfold completeReception at done
  split at done
  · cases done
  · next frame received =>
    refine ⟨frame, received, ?_⟩
    unfold frameReceptionComplete at done
    split at done
    · next pauseUnits pausing => exact .inr ⟨pauseUnits, pausing, done⟩
    · next data =>
      refine .inl ⟨data, ?_⟩
      unfold processReceivedDataFrame at done
      split_ifs at done
      · exact ⟨_, .inl rfl, (Except.ok.inj done).symm⟩
      · exact ⟨_, .inl rfl, (Except.ok.inj done).symm⟩
      · exact ⟨_, .inr ⟨_, rfl⟩, (Except.ok.inj done).symm⟩

theorem startFrameTransmission_eq (done : mac.startFrameTransmission now = .ok mac') :
    ∃ frame rest copy a b, mac.txQueue = frame :: rest ∧ copy.number = frame.number ∧
      ((mac.receiveState ≠ .rxIdle ∧ ∃ time f, mac' = { mac.entered .endJamming time .jamming with
          log := .jams :: .transmits copy :: mac.log, framesSentInBurst := a, bytesSentInBurst := b
          frameBeingReceived := f, receiveState := .rxCollision }) ∨
        ∃ time, mac' = { mac.entered .endTransmission time .transmitting with
          log := .transmits copy :: mac.log, framesSentInBurst := a, bytesSentInBurst := b }) := by
  unfold startFrameTransmission at done
  split at done
  · cases done
  · next frame rest queue =>
    dsimp only at done
    have burst : ∀ copy : EtherMacFrame, ∃ a b,
      (if (mac.record (.transmits copy)).params.frameBursting = true then
        { mac.record (.transmits copy) with
          bytesSentInBurst := copy.byteLength
          framesSentInBurst := (mac.record (.transmits copy)).framesSentInBurst + 1 }
        else mac.record (.transmits copy)) =
          { mac with
            log := .transmits copy :: mac.log, framesSentInBurst := a, bytesSentInBurst := b } := by
      intro copy
      split_ifs
      · exact ⟨_, _, rfl⟩
      · exact ⟨_, _, rfl⟩
    obtain ⟨a, b, same⟩ :=
      burst { frame with byteLength := frame.byteLength + (PREAMBLE_BYTES + SFD_BYTES) }
    dsimp only at same done
    rw [same] at done
    refine ⟨frame, rest,
      { frame with byteLength := frame.byteLength + (PREAMBLE_BYTES + SFD_BYTES) }, a, b, queue,
      rfl, ?_⟩
    split_ifs at done with hit
    · obtain ⟨m, jammed, last⟩ := bind_eq_ok done
      obtain ⟨time, rfl⟩ := sendJamSignal_eq jammed
      cases last
      exact .inl ⟨hit.2, time, _, rfl⟩
    · exact .inr ⟨_, enter_eq done⟩

theorem handleEndIFGPeriod_eq (done : mac.handleEndIFGPeriod now = .ok mac') :
    mac.transmitState = .waitIFG ∧ ∃ frame f rest a b, mac.txQueue = frame :: rest ∧
      f.number = frame.number ∧ f.pauseTime = frame.pauseTime ∧
      { mac with
        txQueue := f :: rest, framesSentInBurst := a, bytesSentInBurst := b
      }.startFrameTransmission now = .ok mac' := by
  have same : ∀ frame, (mac.extended frame).number = frame.number ∧
      (mac.extended frame).pauseTime = frame.pauseTime := by
    intro frame
    unfold extended
    split_ifs <;> exact ⟨rfl, rfl⟩
  unfold handleEndIFGPeriod at done
  split_ifs at done with wrong
  refine ⟨not_not.mp wrong, ?_⟩
  split at done
  · cases done
  · next frame rest queue =>
    have number := (same (mac.extended frame)).1.trans (same frame).1
    have pauseTime := (same (mac.extended frame)).2.trans (same frame).2
    dsimp only at done
    split_ifs at done
    · exact ⟨frame, _, rest, 0, 0, queue, number, pauseTime, done⟩
    · exact ⟨frame, _, rest, _, _, queue, number, pauseTime, done⟩

theorem handleEndTxPeriod_eq (done : mac.handleEndTxPeriod now = .ok mac') :
    mac.transmitState = .transmitting ∧ ∃ frame rest, mac.txQueue = frame :: rest ∧
      { mac with
        txQueue := rest, backoffs := 0, log := .completes frame :: mac.log }.afterTransmission now =
        .ok mac' := by
  unfold handleEndTxPeriod at done
  split_ifs at done with wrong
  refine ⟨not_not.mp fun other => wrong (.inl other), ?_⟩
  split at done
  · cases done
  · next frame rest queue => exact ⟨frame, rest, queue, done⟩

theorem afterTransmission_cases (done : mac.afterTransmission now = .ok mac') :
    (∃ time, mac' = { mac.entered .endPause time .pause with pauseUnitsRequested := 0 }) ∨
      mac.startFrameTransmission now = .ok mac' ∨ mac.beginSendFrames now = .ok mac' := by
  unfold afterTransmission at done
  split_ifs at done
  · obtain ⟨m, paused, rfl⟩ := map_eq_ok done
    obtain ⟨time, rfl⟩ := scheduleEndPausePeriod_eq paused
    exact .inl ⟨time, rfl⟩
  · exact .inr (.inl done)
  · exact .inr (.inr done)

theorem beginSendFrames_cases (done : mac.beginSendFrames now = .ok mac') :
    (∃ time, mac' = mac.entered .endIFG time .waitIFG) ∨
    (mac.txQueue = [] ∧ ∃ log, (log = mac.log ∨ log = .requestsPacket :: mac.log) ∧
      mac' = { mac with transmitState := .txIdle, log := log }) := by
  unfold beginSendFrames at done
  split_ifs at done with waiting
  · exact .inl ⟨_, enter_eq done⟩
  · refine .inr ⟨not_not.mp waiting, ?_⟩
    cases done
    split_ifs
    · exact ⟨_, .inr rfl, rfl⟩
    · exact ⟨_, .inl rfl, rfl⟩

theorem handleEndJammingPeriod_cases {slotNumber : Nat}
    (done : mac.handleEndJammingPeriod now slotNumber = .ok mac') : mac.transmitState = .jamming ∧
      ((MAX_ATTEMPTS ≤ mac.backoffs ∧ ∃ frame rest, mac.txQueue = frame :: rest ∧ mac' = { mac with
          txQueue := rest, transmitState := .txIdle, backoffs := 0, log :=
            .cancels frame :: mac.log }) ∨
        (mac.backoffs < MAX_ATTEMPTS ∧ ∃ time,
          mac' = { mac.entered .endBackoff time .backoff with backoffs := mac.backoffs + 1 })) := by
  unfold handleEndJammingPeriod at done
  split_ifs at done with wrong
  refine ⟨not_not.mp wrong, ?_⟩
  unfold handleRetransmission at done
  dsimp only at done
  split_ifs at done with given
  · refine .inl ⟨Nat.lt_succ_iff.mp given, ?_⟩
    split at done
    · cases done
    · next frame rest queue => exact ⟨frame, rest, queue, (Except.ok.inj done).symm⟩
  · exact .inr ⟨Nat.not_le.mp fun many => given (Nat.lt_succ_iff.mpr many), _, enter_eq done⟩

theorem handleEndRxPeriod_cases (done : mac.handleEndRxPeriod now = .ok mac') :
    ∃ m, ((mac.receiveState = .receiving ∧ mac.completeReception now = .ok m) ∨
        (mac.receiveState ≠ .receiving ∧ m = mac)) ∧
        ((m.transmitState = .txIdle ∧ m.txQueue ≠ [] ∧ ∃ time,
          mac' = { m.entered .endIFG time .waitIFG with
            receiveState := .rxIdle, numConcurrentTransmissions := 0 }) ∨
        (¬ (m.transmitState = .txIdle ∧ m.txQueue ≠ []) ∧ mac' = { m with
          receiveState := .rxIdle, numConcurrentTransmissions := 0 })) := by
  obtain ⟨m, finished, rest⟩ := bind_eq_ok done
  refine ⟨m, ?_, ?_⟩
  · unfold finishReception at finished
    split_ifs at finished with receiving
    · exact .inl ⟨receiving, finished⟩
    · exact .inr ⟨receiving, (Except.ok.inj finished).symm⟩
  · dsimp only at rest
    split_ifs at rest with free
    · exact .inl ⟨free.1, free.2, _, enter_eq rest⟩
    · exact .inr ⟨free, (Except.ok.inj rest).symm⟩

theorem handleEndBackoffPeriod_cases (done : mac.handleEndBackoffPeriod now = .ok mac') :
    mac.transmitState = .backoff ∧ ((∃ time, mac' = mac.entered .endIFG time .waitIFG) ∨
      (mac.receiveState ≠ .rxIdle ∧ mac' = { mac with transmitState := .txIdle })) := by
  unfold handleEndBackoffPeriod at done
  split_ifs at done with wrong empty idle
  · exact ⟨not_not.mp wrong, .inl ⟨_, enter_eq done⟩⟩
  · exact ⟨not_not.mp wrong, .inr ⟨idle, (Except.ok.inj done).symm⟩⟩

theorem handleEndPausePeriod_eq (done : mac.handleEndPausePeriod now = .ok mac') :
    mac.transmitState = .pause ∧ mac.beginSendFrames now = .ok mac' := by
  unfold handleEndPausePeriod at done
  split_ifs at done with wrong
  exact ⟨not_not.mp wrong, done⟩

theorem processFrameFromUpperLayer_cases
    (done : mac.processFrameFromUpperLayer now frame = .ok mac') :
    ∃ m, mac.enqueue frame = .ok m ∧
    ((m.transmitState = .txIdle ∧ ∃ time, mac' = m.entered .endIFG time .waitIFG) ∨
        (¬ (m.autoconfigInProgress = false ∧ m.receiveState = .rxIdle ∧ m.transmitState = .txIdle) ∧
          mac' = m)) := by
  unfold processFrameFromUpperLayer at done
  split_ifs at done
  obtain ⟨m, queued, rest⟩ := bind_eq_ok done
  refine ⟨m, queued, ?_⟩
  split_ifs at rest with free
  · exact .inl ⟨free.2.2, _, enter_eq rest⟩
  · refine .inr ⟨?_, (Except.ok.inj rest).symm⟩
    rintro ⟨configured, idle, ready⟩
    exact free ⟨by simp [configured], .inr idle, ready⟩

theorem processMsgFromNetwork_cases {sendingTime : Nat}
    (done : mac.processMsgFromNetwork now sendingTime msg = .ok mac') :
    (mac.receiveState ≠ .rxIdle ∧ ((∃ frame, msg = .frame frame) → ¬ mac.backToBack now) ∧
      mac.processOverlap now msg = .ok mac') ∨
    (mac.transmitState = .transmitting ∧ mac.processCollision now msg = .ok mac') ∨ ∃ frame,
    msg = .frame frame ∧
      ((mac.receiveState = .rxIdle ∧
        ∃ n, { mac with numConcurrentTransmissions := n }.startReception now frame = .ok mac') ∨
        (mac.backToBack now ∧ ∃ m, (mac.cancelEvent .endReception).completeReception now = .ok m ∧
          m.startReception now frame = .ok mac')) := by
  unfold processMsgFromNetwork at done
  split at done
  · cases done
  · split_ifs at done with far stray idle
    refine .inl ⟨idle, ?_, done⟩
    rintro ⟨frame, same⟩
    cases same
  · next frame =>
    split_ifs at done with far hit idle clean next
    · exact .inr (.inl ⟨hit.2, done⟩)
    · exact .inr (.inr ⟨frame, rfl, .inl ⟨idle, _, done⟩⟩)
    · exact .inr (.inr ⟨frame, rfl, .inr ⟨next, bind_eq_ok done⟩⟩)
    · exact .inl ⟨idle, fun _ => next, done⟩

end EtherMAC

/-! A run. The frames from the upper layer are numbered as they are taken; a self message comes at
its time, and nothing comes after the time of a self message that is still there. -/

structure MacRun where
  mac : EtherMAC
  now : Nat := 0
  accepted : Nat := 0

namespace MacRun

variable (w : MacRun)

def numbered : MacEvent → MacEvent
  | .upper frame => .upper { frame with number := w.accepted }
  | e => e

def handle (time : Nat) (e : MacEvent) : Except EtherMacFault MacRun :=
  (w.mac.handleMessage time (w.numbered e)).map fun mac =>
    { mac := mac
      now := time
      accepted := match e with | .upper _ => w.accepted + 1 | _ => w.accepted }

def Enabled (time : Nat) (e : MacEvent) : Prop :=
  w.now ≤ time ∧ (∀ msg, ∀ t ∈ w.mac.scheduled msg, time ≤ t) ∧
    match e with
    | .upper _ => True
    | .network sendingTime _ => sendingTime ≤ time
    | .selfMsg msg slotNumber =>
      w.mac.scheduled msg = some time ∧ slotNumber < EtherMAC.backoffrange (w.mac.backoffs + 1)

def Next (e : Nat × MacEvent) (w' : MacRun) : Prop := w.Enabled e.1 e.2 ∧ w.handle e.1 e.2 = .ok w'

instance (time : Nat) (e : MacEvent) : Decidable (w.Enabled time e) := by
  unfold Enabled
  cases e <;> infer_instance

def step (e : Nat × MacEvent) : Option MacRun :=
  if w.Enabled e.1 e.2 then (w.handle e.1 e.2).toOption else none

theorem next_of_step (e : Nat × MacEvent) (w' : MacRun) (same : w.step e = some w') :
    w.Next e w' := by
  unfold step at same
  split_ifs at same with enabled
  exact ⟨enabled, eq_ok_of_toOption same⟩

def after (e : Nat × MacEvent) : MacRun := (w.step e).getD w

theorem Next.eq_after {w w' : MacRun} {e : Nat × MacEvent} (next : w.Next e w') :
    w.after e = w' := by
  rw [after, step, if_pos next.1, next.2]
  rfl

end MacRun

def fastEthernet (duplexMode : Bool) : EtherMAC where
  address := hostAddress 1
  promiscuous := false
  connected := true
  parTxrate := FAST_ETHERNET_TXRATE
  duplexEnabled := duplexMode
  txQueueLimit := 0
  hasQueueModule := false
  duplexMode := duplexMode
  params := ((calculateParameters true duplexMode FAST_ETHERNET_TXRATE).toOption).getD {}

example : calculateParameters true true FAST_ETHERNET_TXRATE =
    .ok (fastEthernet true).params := by decide

def dataFrame (byteLength : Nat) : EtherMacFrame :=
  { src := hostAddress 1, dest := hostAddress 2, byteLength := byteLength }

def pauseFrame (pauseTime : Int32) : EtherMacFrame :=
  { src := hostAddress 2, dest := hostAddress 1, byteLength := 72, pauseTime := some pauseTime }

end Srwsn
