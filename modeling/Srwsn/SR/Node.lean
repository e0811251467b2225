import Srwsn.Lib.Radio
import Srwsn.SR.Reservation
import Srwsn.SR.TableRARE

/-! One SR node and its handlers. Delays are dropped, since every order of deliveries is a run of
the network. -/
namespace Srwsn

/-- Zero, the value of a field no setter has touched, is `unset`. -/
inductive SRMsg where
  | unset
  | discovery
  | normal
  | alert
  deriving DecidableEq, Repr

inductive SRQuery where
  | unset
  | request
  | reply
  deriving DecidableEq, Repr

structure SRPacket where
  msgType : SRMsg := .unset
  queryType : SRQuery := .unset
  queryId : Int32 := 0
  srcMACAddress : MACAddress := MACAddress.UNSPECIFIED_ADDRESS
  destMACAddress : MACAddress := MACAddress.UNSPECIFIED_ADDRESS
  Id : UInt16 := 0
  amIAlertGenerator : Bool := false
  alertTimeStamp : UInt16 := 0
  bloom : Option BloomFilter := none
  hopCount : UInt16 := 0
  myTimestamp : UInt32 := 0

inductive STATUS where
  | disco
  | normal
  | alert
  deriving DecidableEq, Repr

structure Statics where
  numberSensorNotKnown : UInt16 := 0
  iCanSendRequest : Bool := true
  stopSim : Bool := false
  lastPosition : Nat := 0
  areaBitmap : BitVec 16 := 0
  generatorBitmap : BitVec 64 := 0

structure SR where
  isSink : Bool
  myMACAddress : MACAddress
  bt : BloomTable
  tr : TableRARE
  myID : UInt16 := 65535
  iDBuilder : IDBuilder
  areaNumber : UInt16 := 0
  firstSinkMsg : Bool := true
  neighborList : Std.TreeMap UInt16 MACAddress := ∅
  RecordTable : Std.TreeMap UInt16 MACAddress := ∅
  hasSentAdvertMsg : Bool := false
  sensorStatus : STATUS := .disco
  currentRequestTimeStamp : UInt32 := 0
  iAmTheLast : Bool
  selfGenerateRequestMsg : Option UInt32 := none

inductive Note where
  | setMyID (id : UInt16)
  | slotReserved (pos : Nat)
  | areaReserved (pos : Nat)
  | generated (id : UInt16) (timestamp : UInt32)
  | takenUp (id : UInt16) (timestamp : UInt32)
  | discarded (id : UInt16) (timestamp : UInt32)
  | answerArrived (queryId : Int32)
  deriving DecidableEq, Repr

inductive Timer where
  | generateRequest
  | updateStats
  deriving DecidableEq, Repr

/-- Everything a handler takes from outside: random draws, the raw clock and the timer. -/
structure Input where
  draws : List Nat := []
  raw : Nat := 0
  timer : Timer := .generateRequest

abbrev Outcome := Except Fault (Radio.Effect SR Statics SRPacket Note)

namespace SR
open MACAddress

def EVENT_MAX_LIVETIME : UInt32 := 4096
def NB_EVENT_IN_LIVETIME : UInt32 := 64
def LIVETIME : UInt32 := EVENT_MAX_LIVETIME * NB_EVENT_IN_LIVETIME

/- `initialize` sets neither the id inside the packer nor `iAmTheLast`. -/
def initializeSR (isSink : Bool) (bt : BloomTable) (tr : TableRARE) (my_id : UInt16)
    (iAmTheLast : Bool) : SR :=
  { isSink, myMACAddress := UNSPECIFIED_ADDRESS, bt, tr, iDBuilder := ⟨my_id⟩, iAmTheLast }

variable (me : SR) (st : Statics) (input : Input) (message msg : SRPacket)

def scheduleMsgToSendNic (srPacket : SRPacket) : SRPacket :=
  { srPacket with srcMACAddress := me.myMACAddress }

def addNeighbor (neighborMACAddress : MACAddress) (neighborID : UInt16)
    (neighborBloom : Option BloomFilter) : SR :=
  { me with
    bt := me.bt.AddFilter neighborBloom neighborMACAddress
    neighborList := me.neighborList.insert neighborID neighborMACAddress }

/- `neighborList[id]` in a log line: the subscript inserts a default address for a new key. -/
def logNeighbor (id : UInt16) : SR :=
  { me with neighborList := me.neighborList.insertIfNew id UNSPECIFIED_ADDRESS }

def recordOf (id : UInt16) : MACAddress × SR :=
  (me.RecordTable.getD id UNSPECIFIED_ADDRESS,
    { me with RecordTable := me.RecordTable.insertIfNew id UNSPECIFIED_ADDRESS })

def randomTime (raw pos rand : Nat) : UInt32 :=
  let timeInSeconds := UInt32.ofNat raw
  let timeInCurrentLivetime := timeInSeconds % LIVETIME
  let nextSlotTime := (timeInCurrentLivetime / EVENT_MAX_LIVETIME + 1) * EVENT_MAX_LIVETIME
    - timeInCurrentLivetime
  nextSlotTime + UInt32.ofNat pos * EVENT_MAX_LIVETIME + UInt32.ofNat rand % EVENT_MAX_LIVETIME

/-- The slot is kept in the shared bitmap only; the node remembers the delay of its timer. -/
def scheduleTimeToGenerateRequest : Except Fault (SR × Statics × List Note) :=
  match Reservation.reserve st.generatorBitmap 64 64 input.draws with
  | .error fault => .error fault
  | .ok (none, _) => .ok (me, st, [])
  | .ok (some _, []) => .error .outOfDraws
  | .ok (some randPosInBitmap, rand :: _) =>
    let st := { st with
      generatorBitmap := st.generatorBitmap + Reservation.mask 64 randPosInBitmap }
    let timer := some (randomTime input.raw randPosInBitmap rand)
    if st.lastPosition < randPosInBitmap then
      .ok ({ me with iAmTheLast := true, selfGenerateRequestMsg := timer },
        { st with lastPosition := randPosInBitmap }, [.slotReserved randPosInBitmap])
    else .ok ({ me with selfGenerateRequestMsg := timer }, st, [.slotReserved randPosInBitmap])

def getID (srcSensorID : UInt16) : Except Fault SR :=
  match (me.iDBuilder.setID srcSensorID).setMACExt me.myMACAddress.str with
  | .error failure => .error (.idBuilder failure)
  | .ok extended =>
    match extended.setSinkDistance (extended.getSinkDistance + 1) with
    | .error failure => .error (.idBuilder failure)
    | .ok built => .ok { me with iDBuilder := built, myID := built.my_id }

def advertisement : SRPacket :=
  { Id := me.myID, msgType := .discovery, bloom := some me.bt.BloomPerso,
    destMACAddress := BROADCAST_ADDRESS }

/-- The two blocks that give a sensor its identity differ only in a delay and in the display. -/
def join (srcSensorID : UInt16) : Outcome :=
  match me.getID srcSensorID with
  | .error fault => .error fault
  | .ok named =>
    let known := { named with hasSentAdvertMsg := true, sensorStatus := .normal }
    let st := { st with numberSensorNotKnown := st.numberSensorNotKnown - 1 }
    match known.scheduleTimeToGenerateRequest st input with
    | .error fault => .error fault
    | .ok (known, st, notes) =>
      .ok ⟨known, st, [named.scheduleMsgToSendNic named.advertisement],
        .setMyID named.myID :: notes⟩

def discoRequest (srcMACAddress : MACAddress) : SRPacket :=
  { Id := me.myID, msgType := .discovery, queryType := .request, bloom := some me.bt.BloomPerso,
    destMACAddress := srcMACAddress }

def firstSinkMessage : Outcome :=
  let me := me.addNeighbor msg.srcMACAddress msg.Id msg.bloom
  match Reservation.reserve st.areaBitmap 4 16 input.draws with
  | .error fault => .error fault
  | .ok (none, _) => .error .areaExhausted
  | .ok (some randPosInBitmap, _) =>
    .ok ⟨{ me with firstSinkMsg := false },
      { st with areaBitmap := st.areaBitmap + Reservation.mask 16 randPosInBitmap },
      [me.scheduleMsgToSendNic (me.discoRequest msg.srcMACAddress)],
      [.areaReserved randPosInBitmap]⟩

def handleNicDiscoveryMsg : Outcome :=
  let me := { me with iDBuilder := me.iDBuilder.setID msg.Id }
  if me.iDBuilder.getSinkDistance = 0 then
    if me.firstSinkMsg then me.firstSinkMessage st input msg
    else
      let me := me.logNeighbor msg.Id
      if me.hasSentAdvertMsg then .ok ⟨me, st, [], []⟩ else me.join st input msg.Id
  else if msg.Id ∈ me.neighborList then .ok ⟨me, st, [], []⟩
  else
    let me := me.addNeighbor msg.srcMACAddress msg.Id msg.bloom
    if me.hasSentAdvertMsg then .ok ⟨me, st, [], []⟩ else me.join st input msg.Id

def handleNicAlertMsg (alertMsg : SRPacket) : Outcome :=
  if !alertMsg.amIAlertGenerator then .ok ⟨me, st, [], []⟩
  else if me.sensorStatus ≠ .alert then .ok ⟨me, st, [], []⟩
  else .ok ⟨me, st, [me.scheduleMsgToSendNic { alertMsg with
    amIAlertGenerator := false, msgType := .alert, Id := me.myID,
    destMACAddress := BROADCAST_ADDRESS }], []⟩

def response (nextHop : MACAddress) : SRPacket :=
  { msgType := .normal, queryType := .reply, Id := message.Id, hopCount := message.hopCount,
    srcMACAddress := me.myMACAddress, myTimestamp := me.currentRequestTimeStamp,
    destMACAddress := nextHop, queryId := message.queryId }

/-- A request that its own originator takes up is answered over the air to itself. -/
def answer : Outcome :=
  let notes := [Note.takenUp message.Id message.myTimestamp]
  if message.Id = me.myID then
    .ok ⟨me, st, [me.scheduleMsgToSendNic (me.response message me.myMACAddress)], notes⟩
  else
    let (nextHop, me) := me.recordOf message.Id
    .ok ⟨me, st, [me.scheduleMsgToSendNic (me.response message nextHop)], notes⟩

def forwardLearned : Outcome :=
  let notes := [Note.takenUp message.Id message.myTimestamp]
  match TableRARE.LearningPeerSelection (me.tr.selectionFuel input.draws) me.tr input.draws
      message.queryId with
  | .error fault => .error fault
  | .ok (PeerWithAnswer, tr, _) =>
    let me := { me with tr := tr }
    if PeerWithAnswer.isUnspecified then
      match me.neighborList.toList.find? (fun entry => !message.destMACAddress.equals entry.2) with
      | none => .ok ⟨me, st, [], notes⟩
      | some entry =>
        .ok ⟨me, st, [me.scheduleMsgToSendNic { message with destMACAddress := entry.2 }], notes⟩
    else
      .ok ⟨me, st, [me.scheduleMsgToSendNic { message with destMACAddress := PeerWithAnswer }],
        notes⟩

def takeUp : Outcome :=
  let me := { me with
    currentRequestTimeStamp := message.myTimestamp
    RecordTable := me.RecordTable.insert message.Id message.srcMACAddress }
  match me.bt.GetNextHop message.queryId false me.myMACAddress with
  | .error fault => .error fault
  | .ok PeerWithAnswer =>
    if PeerWithAnswer.equals me.myMACAddress then me.answer st message
    else if !PeerWithAnswer.isUnspecified && !PeerWithAnswer.equals message.srcMACAddress then
      .ok ⟨me, st, [me.scheduleMsgToSendNic { message with destMACAddress := PeerWithAnswer }],
        [.takenUp message.Id message.myTimestamp]⟩
    else me.forwardLearned st input message

def forwardReply : Outcome :=
  match me.tr.UpdateTable message.queryId message.srcMACAddress with
  | .error fault => .error fault
  | .ok tr =>
    let (nextPeerMAC, me) := { me with tr := tr }.recordOf message.Id
    .ok ⟨me, st, [me.scheduleMsgToSendNic { message with destMACAddress := nextPeerMAC }], []⟩

def acceptReply : Outcome :=
  match me.tr.UpdateTable message.queryId message.srcMACAddress with
  | .error fault => .error fault
  | .ok tr =>
    .ok ⟨{ me with tr := tr }, { st with stopSim := me.iAmTheLast || st.stopSim }, [],
      [.answerArrived message.queryId]⟩

def handleNicNormalMsg : Outcome :=
  match message.queryType with
  | .request =>
    if me.currentRequestTimeStamp = message.myTimestamp then
      .ok ⟨me, st, [], [.discarded message.Id message.myTimestamp]⟩
    else me.takeUp st input message
  | .reply => if message.Id ≠ me.myID then me.forwardReply st message else me.acceptReply st message
  | .unset => .ok ⟨me, st, [], []⟩

def handleSRMsg : Outcome :=
  let msg := { msg with hopCount := msg.hopCount + 1 }
  match msg.msgType with
  | .discovery => me.handleNicDiscoveryMsg st input msg
  | .alert => me.handleNicAlertMsg st msg
  | .normal => me.handleNicNormalMsg st input msg
  | .unset => .ok ⟨me, st, [], []⟩

def request (PeerWithAnswer : MACAddress) : SRPacket :=
  { Id := me.myID, msgType := .normal, queryType := .request, queryId := BloomTable.SENSOR_HUMIDITY,
    hopCount := 0, myTimestamp := me.currentRequestTimeStamp, destMACAddress := PeerWithAnswer }

/- `iCanSendRequest` is read for a log line only; the request goes out either way. -/
def generaterRandomRequest : Outcome :=
  let st := { st with iCanSendRequest := false }
  let me := { me with currentRequestTimeStamp := UInt32.ofNat input.raw % LIVETIME }
  let notes := [Note.generated me.myID me.currentRequestTimeStamp]
  match me.bt.GetNextHop BloomTable.SENSOR_HUMIDITY true me.myMACAddress with
  | .error fault => .error fault
  | .ok PeerWithAnswer =>
    if PeerWithAnswer.isUnspecified then
      match TableRARE.LearningPeerSelection (me.tr.selectionFuel input.draws) me.tr input.draws
          BloomTable.SENSOR_HUMIDITY with
      | .error fault => .error fault
      | .ok (learned, tr, _) =>
        let me := { me with tr := tr }
        let peer := if learned.isUnspecified then BROADCAST_ADDRESS else learned
        .ok ⟨me, st, [me.scheduleMsgToSendNic (me.request peer)], notes⟩
    else .ok ⟨me, st, [me.scheduleMsgToSendNic (me.request PeerWithAnswer)], notes⟩

def selfInitialization (macAddress : MACAddress) (param : Fin 5) : SR :=
  { me with myMACAddress := macAddress, bt := me.bt.selectRandomType param }

def handleSelfMsg : Outcome :=
  if input.timer = .generateRequest ∧ me.selfGenerateRequestMsg.isSome then
    me.generaterRandomRequest st input
  else .ok ⟨me, st, [], []⟩

def SINK_discoInit : SRPacket :=
  { Id := me.myID, msgType := .discovery, queryType := .request, bloom := some me.bt.BloomPerso,
    destMACAddress := BROADCAST_ADDRESS }

def SINK_selfInitialization (macAddress : MACAddress) : Except Fault (SR × SRPacket) :=
  if macAddress.isUnspecified then .error .unspecifiedAddress
  else
    let me := { me with myMACAddress := macAddress, bt := me.bt.AddToBloomPerso "SINK".toList }
    match me.iDBuilder.setMACExt me.myMACAddress.str with
    | .error failure => .error (.idBuilder failure)
    | .ok extended =>
      match extended.setSinkDistance 0 with
      | .error failure => .error (.idBuilder failure)
      | .ok near =>
        match near.setArea 0 with
        | .error failure => .error (.idBuilder failure)
        | .ok built =>
          let me := { me with iDBuilder := built, myID := built.my_id, sensorStatus := .normal }
          .ok (me, me.scheduleMsgToSendNic me.SINK_discoInit)

def SINK_discoReply (srcMACAddress : MACAddress) : SRPacket :=
  { Id := me.myID, msgType := .discovery, queryType := .reply, destMACAddress := srcMACAddress }

def SINK_handleNicDiscoveryMsg : Outcome :=
  match msg.queryType with
  | .request =>
    let me := me.addNeighbor msg.srcMACAddress msg.Id msg.bloom
    match (me.iDBuilder.setID me.myID).setArea me.areaNumber with
    | .error failure => .error (.idBuilder failure)
    | .ok built =>
      let me := { me with iDBuilder := built, myID := built.my_id, areaNumber := me.areaNumber + 1 }
      .ok ⟨me, st, [me.scheduleMsgToSendNic (me.SINK_discoReply msg.srcMACAddress)],
        [.setMyID me.myID]⟩
  | .reply => .ok ⟨me, st, [], []⟩
  | .unset => .ok ⟨me, st, [], []⟩

def SINK_handleSRMsg : Outcome :=
  match msg.msgType with
  | .discovery => me.SINK_handleNicDiscoveryMsg st msg
  | .alert => .ok ⟨me, st, [], []⟩
  | .normal => me.handleNicNormalMsg st input msg
  | .unset => .ok ⟨me, st, [], []⟩

def SINK_handleSelfMsg : Outcome :=
  match input.timer with
  | .updateStats => .ok ⟨me, { st with iCanSendRequest := true }, [], []⟩
  | .generateRequest => .ok ⟨me, st, [], []⟩

/-- A packet from the network, or `none` for a message the node sent itself. -/
def handleMessage : Option SRPacket → Outcome
  | none => if me.isSink then me.SINK_handleSelfMsg st input else me.handleSelfMsg st input
  | some msg => if me.isSink then me.SINK_handleSRMsg st input msg else me.handleSRMsg st input msg

def accepts (p : SRPacket) : Bool :=
  p.destMACAddress.equals me.myMACAddress || p.destMACAddress.isBroadcast

end SR
end Srwsn
