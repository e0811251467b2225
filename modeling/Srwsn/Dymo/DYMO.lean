import Srwsn.Net.RoutingTable

/-! The routing messages of DYMO. -/
namespace Srwsn

open Outcome

namespace DYMO

def LL_MANET_ROUTERS : UInt32 := 0xE000005A

inductive Fault where
  | noSeqNum | distOverflow | vanishedRoute | validRoute
  deriving DecidableEq

structure AddressBlock where
  address : UInt32
  seqNum : Option UInt16 := none
  prefixLength : Option UInt8 := none
  dist : Option UInt8 := none
  deriving DecidableEq

namespace AddressBlock

variable (ab : AddressBlock)

def getSeqNum : Except Fault UInt16 :=
  match ab.seqNum with
  | some seqNum => .ok seqNum
  | none => .error .noSeqNum

def prefixOr32 : Int :=
  match ab.prefixLength with
  | some length => length.toNat
  | none => 32

def nodeDist : UInt32 :=
  match ab.dist with
  | some dist => dist.toUInt32 + 1
  | none => 0

def incrementDistIfAvailable : Except Fault AddressBlock :=
  match ab.dist with
  | none => .ok ab
  | some dist => if dist = 0xFF then .error .distOverflow
      else .ok { ab with dist := some (dist + 1) }

def overflows : Bool :=
  match ab.dist with
  | some dist => dist ≥ 0xFF - 1
  | none => false

end AddressBlock

inductive RMKind where
  | RREQ | RREP
  deriving DecidableEq

structure RM where
  kind : RMKind
  msgHdrHopLimit : Int
  targetNode : AddressBlock
  origNode : AddressBlock
  additionalNodes : List AddressBlock := []
  deriving DecidableEq

def RM.blocks (routingMsg : RM) : List AddressBlock :=
  routingMsg.origNode :: routingMsg.additionalNodes

def RM.isRREQ (routingMsg : RM) : Bool := routingMsg.kind == .RREQ

def getNextHopAddress (routingMsg : RM) : UInt32 :=
  match routingMsg.additionalNodes.getLast? with
  | some node => node.address
  | none => routingMsg.origNode.address

structure RoutingEntry where
  routeAddress : UInt32
  routeSeqNum : UInt32
  routeNextHopAddress : UInt32
  routeBroken : Bool
  routeDist : UInt32
  routePrefix : Int
  deriving DecidableEq

def longestMatch (addr : UInt32) :
    List RoutingEntry → Nat → Int → Option (Nat × RoutingEntry) → Option (Nat × RoutingEntry)
  | [], _, _, longestPrefixEntry => longestPrefixEntry
  | entry :: rest, i, longestPrefix, longestPrefixEntry =>
    if entry.routePrefix > longestPrefix ∧
        IPAddress.prefixMatches addr entry.routeAddress entry.routePrefix then
      longestMatch addr rest (i + 1) entry.routePrefix (some (i, entry))
    else longestMatch addr rest (i + 1) longestPrefix longestPrefixEntry

def getForAddress (routeVector : List RoutingEntry) (addr : UInt32) : Option (Nat × RoutingEntry) :=
  longestMatch addr routeVector 0 0 none

/-- Both numbers are compared as 16 bit integers. -/
def seqNumIsFresher (seqNumInQuestion referenceSeqNum : UInt32) : Bool :=
  referenceSeqNum.toUInt16.toInt16.toInt - seqNumInQuestion.toUInt16.toInt16.toInt < 0

def isSuperior (entry : RoutingEntry) (seqNum : UInt16) (nodeDist routeDist : Int) (isRREQ : Bool) :
    Bool :=
  if seqNumIsFresher entry.routeSeqNum seqNum.toUInt32 then false
  else if seqNum.toUInt32 = entry.routeSeqNum then
    if nodeDist = 0 then false
    else if routeDist = 0 then false
    else if nodeDist > routeDist + 1 then false
    else if nodeDist > routeDist then false
    else if nodeDist = routeDist ∧ !entry.routeBroken ∧ isRREQ then false
    else true
  else true

def isRBlockBetter (entry : RoutingEntry) (ab : AddressBlock) (isRREQ : Bool) : Except Fault Bool :=
  ab.getSeqNum.map fun seqNum =>
    isSuperior entry seqNum ab.nodeDist.toNat entry.routeDist.toInt32.toInt isRREQ

structure OutstandingRREQ where
  destAddr : UInt32
  tries : UInt32
  deriving DecidableEq

structure Transmission where
  transmitter : UInt32
  destAddr : UInt32
  message : RM
  deriving DecidableEq

structure Parameters where
  RESPONSIBLE_ADDRESSES_PREFIX : Int32 := -1
  MIN_HOPLIMIT : Int32 := 5
  MAX_HOPLIMIT : Int32 := 10
  RREQ_TRIES : Int32 := 3

/- `ownSeqNumLossTimeout` tells whether that timer is running. -/
structure Node extends Parameters where
  myAddr : UInt32
  ownSeqNum : UInt32 := 1
  ownSeqNumLossTimeout : Bool := false
  routingTable : List RoutingEntry := []
  outstandingRREQList : List OutstandingRREQ := []

namespace Node

def incSeqNum (n : Node) : Node :=
  { n with ownSeqNum := if n.ownSeqNum = 0xffff then 0x0100 else n.ownSeqNum + 1 }

def ownBlock (n : Node) : AddressBlock where
  address := n.myAddr
  seqNum := some n.ownSeqNum.toUInt16
  prefixLength :=
    if n.RESPONSIBLE_ADDRESSES_PREFIX = -1 then none
    else some n.RESPONSIBLE_ADDRESSES_PREFIX.toUInt32.toUInt8
  dist := some 0

def sendDown (n : Node) (routingMsg : RM) (destAddr : UInt32) : Transmission where
  transmitter := n.myAddr
  destAddr := if destAddr = LL_MANET_ROUTERS then IPAddress.ALLONES_ADDRESS else destAddr
  message := routingMsg

def transmit (n : Node) (routingMsg : RM) (destAddr : UInt32) : List Transmission :=
  if n.ownSeqNumLossTimeout then [] else [n.sendDown routingMsg destAddr]

def checkAndSendQueuedPkts (n : Node) (destinationAddress : UInt32) (routePrefix : Int) : Node :=
  { n with outstandingRREQList := n.outstandingRREQList.eraseP fun o =>
      IPAddress.prefixMatches destinationAddress o.destAddr routePrefix }

end Node

def AddressBlock.toEntry (ab : AddressBlock) (nextHopAddress : UInt32) (seqNum : UInt16) :
    RoutingEntry where
  routeAddress := ab.address
  routeSeqNum := seqNum.toUInt32
  routeNextHopAddress := nextHopAddress
  routeBroken := false
  routeDist := ab.nodeDist
  routePrefix := ab.prefixOr32

namespace Node

variable (n : Node) (routingMsg : RM)

def learn (ab : AddressBlock) (routingTable : List RoutingEntry) : Node :=
  checkAndSendQueuedPkts { n with routingTable } ab.address ab.prefixOr32

def updateRoutesFromAddressBlock (ab : AddressBlock) (isRREQ : Bool) (nextHopAddress : UInt32) :
    Except Fault (Node × Bool) :=
  match getForAddress n.routingTable ab.address with
  | none => ab.getSeqNum.map fun seqNum =>
    (n.learn ab (n.routingTable ++ [ab.toEntry nextHopAddress seqNum]), true)
  | some (i, entry) => isRBlockBetter entry ab isRREQ >>= fun better =>
    if better then ab.getSeqNum.map fun seqNum =>
      (n.learn ab (n.routingTable.set i (ab.toEntry nextHopAddress seqNum)), true)
    else .ok (n, false)

/-- The loop of `updateRoutes`: the blocks to keep, or `none` at one of the node itself. -/
def updateAdditionalNodes (isRREQ : Bool) (nextHopAddress : UInt32) :
    Node → List AddressBlock → Except Fault (Node × Option (List AddressBlock))
  | n, [] => .ok (n, some [])
  | n, ab :: rest =>
    if ab.address = n.myAddr then .ok (n, none)
    else n.updateRoutesFromAddressBlock ab isRREQ nextHopAddress >>= fun updated =>
      (updateAdditionalNodes isRREQ nextHopAddress updated.1 rest).map fun done =>
        (done.1, done.2.map fun kept => if updated.2 then ab :: kept else kept)

def updateRoutes (pkt : RM) (nextHopAddress : UInt32) : Except Fault (Node × Option RM) :=
  if pkt.origNode.address = n.myAddr then .ok (n, none)
  else n.updateRoutesFromAddressBlock pkt.origNode pkt.isRREQ nextHopAddress >>= fun orig =>
    (updateAdditionalNodes pkt.isRREQ nextHopAddress orig.1 pkt.additionalNodes).map fun done =>
      (done.1, if orig.2 then done.2.map fun kept => { pkt with additionalNodes := kept } else none)

def sendRREQ (destAddr : UInt32) (msgHdrHopLimit : Int) (targetSeqNum targetDist : UInt32)
    (granted : Bool) : Node × List Transmission :=
  let n := n.incSeqNum
  (n, if granted then n.transmit {
    kind := .RREQ
    msgHdrHopLimit
    targetNode := {
      address := destAddr
      seqNum := if targetSeqNum = 0 then none else some targetSeqNum.toUInt16
      dist := if targetDist = 0 then none else some targetDist.toUInt8 }
    origNode := n.ownBlock } LL_MANET_ROUTERS else [])

def sendReply (destAddr tSeqNum : UInt32) : Except Fault (Node × List Transmission) :=
  match getForAddress n.routingTable destAddr with
  | none => .error .vanishedRoute
  | some (_, entry) =>
    let n := if tSeqNum = 0 ∨ seqNumIsFresher n.ownSeqNum tSeqNum then n.incSeqNum else n
    .ok (n, n.transmit {
      kind := .RREP
      msgHdrHopLimit := n.MAX_HOPLIMIT.toInt
      targetNode := {
        address := destAddr
        seqNum := some entry.routeSeqNum.toUInt16
        dist := some entry.routeDist.toUInt8 }
      origNode := n.ownBlock } entry.routeNextHopAddress)

def targetBlock (routeToTargetNode : RoutingEntry) : AddressBlock where
  address := routeToTargetNode.routeAddress
  seqNum :=
    if routeToTargetNode.routeSeqNum = 0 then none else some routeToTargetNode.routeSeqNum.toUInt16
  dist := if routeToTargetNode.routeDist = 0 then none else some routeToTargetNode.routeDist.toUInt8

def origBlock (origNode : AddressBlock) : AddressBlock where
  address := origNode.address
  seqNum := origNode.seqNum
  dist := origNode.dist.map (· + 1)

def rrepToOrigNode (origNode : AddressBlock) (routeToTargetNode : RoutingEntry) : RM where
  kind := .RREP
  msgHdrHopLimit := n.MAX_HOPLIMIT.toInt
  targetNode := origBlock origNode
  origNode := n.ownBlock
  additionalNodes := [targetBlock routeToTargetNode]

def rrepToTargetNode (origNode targetNode : AddressBlock) : RM where
  kind := .RREP
  msgHdrHopLimit := n.MAX_HOPLIMIT.toInt
  targetNode :=
    { address := targetNode.address, seqNum := targetNode.seqNum, dist := targetNode.dist }
  origNode := n.ownBlock
  additionalNodes := [origBlock origNode]

def sendReplyAsIntermediateRouter (origNode targetNode : AddressBlock)
    (routeToTargetNode : RoutingEntry) : Except Fault (Node × List Transmission) :=
  match getForAddress n.routingTable origNode.address with
  | none => .error .vanishedRoute
  | some (_, routeToOrigNode) => origNode.getSeqNum.map fun _ =>
    let n := n.incSeqNum
    (n, n.transmit (n.rrepToOrigNode origNode routeToTargetNode)
      routeToOrigNode.routeNextHopAddress ++
      n.transmit (n.rrepToTargetNode origNode targetNode) routeToTargetNode.routeNextHopAddress)

def validRoute (addr : UInt32) : Option RoutingEntry :=
  ((getForAddress n.routingTable addr).map Prod.snd).filter fun entry => !entry.routeBroken

def answers (targetNode : AddressBlock) (entry : RoutingEntry) : Bool :=
  match targetNode.seqNum with
  | some seqNum => !seqNumIsFresher seqNum.toUInt32 entry.routeSeqNum
  | none => false

def additionalNodesToRelay : List AddressBlock → Except Fault (List AddressBlock)
  | [] => .ok []
  | ab :: rest =>
    if ab.overflows then additionalNodesToRelay rest
    else ab.incrementDistIfAvailable >>= fun ab => (additionalNodesToRelay rest).map (ab :: ·)

def relayed (origNode : AddressBlock) (additionalNodes : List AddressBlock) : RM :=
  { routingMsg with
    origNode
    additionalNodes := additionalNodes ++ [n.ownBlock]
    msgHdrHopLimit := routingMsg.msgHdrHopLimit - 1 }

/-- The part of `handleLowerRMForRelay` that passes on the message. `granted` is what the rate
limiter answers for a request. -/
def relay (destAddr : UInt32) (granted : Bool) : Except Fault (Node × List Transmission) :=
  if routingMsg.origNode.overflows then .ok (n, [])
  else routingMsg.origNode.incrementDistIfAvailable >>= fun origNode =>
    (additionalNodesToRelay routingMsg.additionalNodes).map fun additionalNodes =>
      let n := n.incSeqNum
      let routingMsg := n.relayed routingMsg origNode additionalNodes
      (n, if routingMsg.msgHdrHopLimit < 1 ∨ !granted then [] else n.transmit routingMsg destAddr)

def handleLowerRMForRelay (granted : Bool) : Except Fault (Node × List Transmission) :=
  match routingMsg.kind, n.validRoute routingMsg.targetNode.address with
  | .RREP, none => .ok (n, [])
  | .RREP, some entry => n.relay routingMsg entry.routeNextHopAddress true
  | .RREQ, none => n.relay routingMsg LL_MANET_ROUTERS granted
  | .RREQ, some entry =>
    if answers routingMsg.targetNode entry then
      n.sendReplyAsIntermediateRouter routingMsg.origNode routingMsg.targetNode entry
    else n.relay routingMsg LL_MANET_ROUTERS granted

def handleLowerRMForMe : Except Fault (Node × List Transmission) :=
  match routingMsg.kind with
  | .RREQ => n.sendReply routingMsg.origNode.address
      ((routingMsg.targetNode.seqNum.map UInt16.toUInt32).getD 0)
  | .RREP => .ok (n.checkAndSendQueuedPkts routingMsg.origNode.address
      routingMsg.origNode.prefixOr32, [])

def answerRM (granted : Bool) (routingMsg : RM) : Except Fault (Node × List Transmission) :=
  if n.myAddr = routingMsg.targetNode.address then n.handleLowerRMForMe routingMsg
  else n.handleLowerRMForRelay routingMsg granted

def handleLowerRM (nextHopAddress : UInt32) (granted : Bool) :
    Except Fault (Node × List Transmission) :=
  n.updateRoutes routingMsg nextHopAddress >>= fun updated =>
    match updated.2 with
    | none => .ok (updated.1, [])
    | some routingMsg => updated.1.answerRM granted routingMsg

def discover (destAddr targetSeqNum targetDist : UInt32) (granted : Bool) :
    Node × List Transmission :=
  if n.outstandingRREQList.any fun o => IPAddress.prefixMatches destAddr o.destAddr 32 then (n, [])
  else
    let sent := n.sendRREQ destAddr n.MIN_HOPLIMIT.toInt targetSeqNum targetDist granted
    ({ sent.1 with outstandingRREQList := sent.1.outstandingRREQList ++ [⟨destAddr, 1⟩] }, sent.2)

/-- A datagram without a route. `isLocal` tells whether it comes from this node. -/
def processPacket (destAddr : UInt32) (isLocal granted : Bool) :
    Except Fault (Node × List Transmission) :=
  match getForAddress n.routingTable destAddr with
  | none => .ok (if isLocal then n.discover destAddr 0 0 granted else (n, []))
  | some (_, entry) =>
    if !entry.routeBroken then .error .validRoute
    else .ok (if isLocal then n.discover destAddr entry.routeSeqNum entry.routeDist granted
      else (n, []))

def ringHopLimit (tries : UInt32) : Int :=
  (n.MIN_HOPLIMIT.toUInt32 +
    (n.MAX_HOPLIMIT - n.MIN_HOPLIMIT).toUInt32 * (tries - 1) /
    (n.RREQ_TRIES - 1).toUInt32).toInt32.toInt

def retry (i : Nat) (o : OutstandingRREQ) (entry : Option RoutingEntry) (granted : Bool) :
    Node × List Transmission :=
  let tries := o.tries + 1
  let n := { n with outstandingRREQList := n.outstandingRREQList.set i { o with tries } }.incSeqNum
  n.sendRREQ o.destAddr (n.ringHopLimit tries)
    (if tries < n.RREQ_TRIES.toUInt32 then (entry.map RoutingEntry.routeSeqNum).getD 0 else 0)
    ((entry.map RoutingEntry.routeDist).getD 0) granted

def handleRREQTimeout (i : Nat) (granted : Bool) : Node × List Transmission :=
  match n.outstandingRREQList[i]? with
  | none => (n, [])
  | some o =>
    if o.tries < n.RREQ_TRIES.toUInt32 then
      match n.validRoute o.destAddr with
      | some entry => (n.checkAndSendQueuedPkts entry.routeAddress entry.routePrefix, [])
      | none => n.retry i o ((getForAddress n.routingTable o.destAddr).map Prod.snd) granted
    else ({ n with outstandingRREQList := n.outstandingRREQList.eraseIdx i }, [])

/-- Route errors and link failures mark routes as broken, and change nothing else of them. -/
def markBroken (which : RoutingEntry → Bool) : Node :=
  { n with routingTable := n.routingTable.map fun entry =>
      if which entry then { entry with routeBroken := true } else entry }

def deleteRoute (i : Nat) : Node := { n with routingTable := n.routingTable.eraseIdx i }

def seqNumLossExpired : Node := { n with ownSeqNum := 1, ownSeqNumLossTimeout := false }

end Node

inductive Event where
  | packet (addr destAddr : UInt32) (isLocal granted : Bool)
  | rreqTimeout (addr : UInt32) (i : Nat) (granted : Bool)
  | receive (addr : UInt32) (t : Transmission) (granted : Bool)
  | broken (addr : UInt32) (which : RoutingEntry → Bool)
  | expired (addr : UInt32) (i : Nat)
  | seqNumLoss (addr : UInt32)

namespace Event

def addr : Event → UInt32
  | packet addr .. => addr
  | rreqTimeout addr .. => addr
  | receive addr .. => addr
  | broken addr _ => addr
  | expired addr _ => addr
  | seqNumLoss addr => addr

def handle (nextHop : Transmission → UInt32) (n : Node) :
    Event → Except Fault (Node × List Transmission)
  | packet _ destAddr isLocal granted => n.processPacket destAddr isLocal granted
  | rreqTimeout _ i granted => .ok (n.handleRREQTimeout i granted)
  | receive _ t granted => n.handleLowerRM t.message (nextHop t) granted
  | broken _ which => .ok (n.markBroken which, [])
  | expired _ i => .ok (n.deleteRoute i, [])
  | seqNumLoss _ => .ok (n.seqNumLossExpired, [])

end Event

/-- Nodes are told apart by their addresses. A message stays on the air, so it may be received late,
several times or never. -/
structure Network where
  nodes : UInt32 → Node
  air : List Transmission := []

namespace Network

def Enabled (s : Network) : Event → Prop
  | .receive addr t _ => t ∈ s.air ∧ (t.destAddr = IPAddress.ALLONES_ADDRESS ∨ t.destAddr = addr)
  | _ => True

instance (s : Network) (e : Event) : Decidable (s.Enabled e) :=
  match e with
  | .receive .. => inferInstanceAs (Decidable (_ ∧ _))
  | .packet .. | .rreqTimeout .. | .broken .. | .expired .. | .seqNumLoss .. =>
    inferInstanceAs (Decidable True)

def act (nextHop : Transmission → UInt32) (s : Network) (e : Event) : Except Fault Network :=
  (e.handle nextHop (s.nodes e.addr)).map fun done =>
    { nodes := Function.update s.nodes e.addr done.1, air := s.air ++ done.2 }

def Next (nextHop : Transmission → UInt32) (s : Network) (e : Event) (s' : Network) : Prop :=
  s.Enabled e ∧ s.act nextHop e = .ok s'

def start (parameters : UInt32 → Parameters) : Network where
  nodes addr := { parameters addr with myAddr := addr }

end Network

end DYMO

end Srwsn
