import Srwsn.Lib.Index
import Srwsn.Net.RoutingTable6
import Srwsn.Tcp.Connection
import Srwsn.Tcp.Window

/-! The TCP module: its connections, and the maps by which commands and segments find them. What a
connection makes of an event is any event code that `Connection.process` can return in its state. -/
namespace Srwsn

open Function

inductive IPvXAddress where
  | v4 (d : UInt32)
  | v6 (d : IPv6Address)
deriving DecidableEq

namespace IPvXAddress

def unspecified : IPvXAddress := .v4 0

def isUnspecified (a : IPvXAddress) : Bool := a == unspecified

end IPvXAddress

structure AppConnKey where
  appGateIndex : Int
  connId : Int32
deriving DecidableEq

/-- Ports are of type `short` in the keys and of type `int` in the connections. -/
structure SockPair where
  localAddr : IPvXAddress
  remoteAddr : IPvXAddress
  localPort : Int16
  remotePort : Int16
deriving DecidableEq

/- `heard` records that the connection has taken a SYN in LISTEN, and `origin` the passive open,
with forking, that it stems from. -/
structure TCPConnection where
  appGateIndex : Int
  connId : Int32
  localAddr : IPvXAddress := .unspecified
  remoteAddr : IPvXAddress := .unspecified
  localPort : Int := -1
  remotePort : Int := -1
  fsm : TcpState := .init
  state : TCPStateVariables := {}
  rexmitQueue : Option Nat := none
  heard : Bool := false
  origin : Option Nat := none
deriving DecidableEq

structure TCPOpenCommand where
  localAddr : IPvXAddress
  remoteAddr : IPvXAddress
  localPort : Int
  remotePort : Int
  fork : Bool

/- `iss`, `rcvWnd` and `calls` are as in `Connection.Event`; `number` is what `getUniqueNumber`
returns if the connection forks, `buffered` what its receive queue holds; `learned` and `code` say
whether the segment fills in a socket pair in SYN_SENT, and which event it is. -/
structure SegmentArrival where
  srcAddr : IPvXAddress
  destAddr : IPvXAddress
  srcPort : UInt16
  destPort : UInt16
  seg : TCPSegment
  iss : UInt32
  rcvWnd : UInt32
  calls : List Sender.Call
  number : Int32
  buffered : UInt32
  learned : Bool
  code : TCPEventCode

inductive DemuxFault where
  | addressInUse
  | portsExhausted
  | assertion
  | oppError
  | nullPointer
deriving DecidableEq

namespace TCPConnection

def appKey (c : TCPConnection) : AppConnKey := ⟨c.appGateIndex, c.connId⟩

def sockPair (c : TCPConnection) : SockPair :=
  ⟨c.localAddr, c.remoteAddr, .ofInt c.localPort, .ofInt c.remotePort⟩

def withSockets (c : TCPConnection) (localAddr remoteAddr : IPvXAddress)
    (localPort remotePort : Int) : TCPConnection :=
  { c with
    localAddr := localAddr, remoteAddr := remoteAddr, localPort := localPort, remotePort :=
      remotePort }

def configured (par : TCPParameters) (c : TCPConnection) : Except DemuxFault TCPConnection :=
  match configureStateVariables par c.state with
  | .error _ => .error .assertion
  | .ok state => .ok { c with state := state }

/-- The connection that `cloneListeningConnection` creates. It is not configured and has no queue:
both are set in the one that is cloned. -/
def newConn (c : TCPConnection) : TCPConnection where
  appGateIndex := c.appGateIndex
  connId := c.connId
  localAddr := c.localAddr
  localPort := c.localPort
  fsm := .listen
  state := { active := false, fork := true }
  origin := c.origin

end TCPConnection

/- `conns` are the connections by address, `rexmitQueues` the connection each queue was created for,
and `numbers` what `getUniqueNumber` has returned so far. -/
structure TCP where
  par : TCPParameters
  conns : Nat → Option TCPConnection
  fresh : Nat
  tcpAppConnMap : AppConnKey → Option Nat
  tcpConnMap : SockPair → Option Nat
  lastEphemeralPort : Int16
  usedEphemeralPorts : List Int16
  rexmitQueues : List Nat
  numbers : List Int32

namespace TCP

def start (par : TCPParameters) : TCP :=
  ⟨par, fun _ => none, 0, fun _ => none, fun _ => none, 1024, [], [], []⟩

variable (s : TCP)

def setConn (i : Nat) (c : TCPConnection) : TCP :=
  { s with conns := update s.conns i (some c) }

def findConnForSegment (a : SegmentArrival) : Option Nat :=
  let key : SockPair := ⟨a.destAddr, a.srcAddr, .ofNat a.destPort.toNat, .ofNat a.srcPort.toNat⟩
  let blank : SockPair := { key with remoteAddr := .unspecified, remotePort := -1 }
  s.tcpConnMap key <|>
    s.tcpConnMap { key with localAddr := .unspecified } <|>
    s.tcpConnMap blank <|>
    s.tcpConnMap { blank with localAddr := .unspecified }

def findConnForApp (key : AppConnKey) : Option Nat := s.tcpAppConnMap key

def isEphemeral (port : Int) : Bool := decide (1024 ≤ port) && decide (port < 5000)

def nextPort (port : Int16) : Int16 := if port + 1 = 5000 then 1024 else port + 1

def searchPort (used : List Int16) (searchUntil : Int16) : Nat → Int16 → Except DemuxFault Int16
  | 0, _ => .error .portsExhausted
  | n + 1, port =>
    if port ∈ used then
      if port = searchUntil then .error .portsExhausted
        else searchPort used searchUntil n (nextPort port)
    else .ok port

def getEphemeralPort : Except DemuxFault (Int16 × TCP) := do
  let port ← searchPort s.usedEphemeralPorts s.lastEphemeralPort 3976 (nextPort s.lastEphemeralPort)
  return (port, { s with lastEphemeralPort := port })

def addSockPair (i : Nat) (c : TCPConnection) (localAddr remoteAddr : IPvXAddress)
    (localPort remotePort : Int) : Except DemuxFault (TCPConnection × TCP) :=
  let c := c.withSockets localAddr remoteAddr localPort remotePort
  if (s.tcpConnMap c.sockPair).isSome then .error .addressInUse
  else .ok (c, { s.setConn i c with
    tcpConnMap := update s.tcpConnMap c.sockPair (some i)
    usedEphemeralPorts :=
      if isEphemeral localPort then .ofInt localPort :: s.usedEphemeralPorts
        else s.usedEphemeralPorts })

/-- Remove the connection from its old place, and insert it with the new key. There is no check for
it. -/
def refile (i : Nat) (c c' : TCPConnection) : TCP :=
  { s.setConn i c' with
    tcpConnMap := update (update s.tcpConnMap c.sockPair none) c'.sockPair (some i) }

def updateSockPair (i : Nat) (c : TCPConnection) (localAddr remoteAddr : IPvXAddress)
    (localPort remotePort : Int) : Except DemuxFault (TCPConnection × TCP) :=
  if s.tcpConnMap c.sockPair ≠ some i || c.localPort ≠ localPort then .error .assertion
  else
    let c' := c.withSockets localAddr remoteAddr c.localPort remotePort
    .ok (c', s.refile i c c')

/- `conn` gets a new connId, and the one at `j` lives on with the old one. -/
def addForkedConnection (i : Nat) (conn : TCPConnection) (j : Nat) (newConn : TCPConnection)
    (localAddr remoteAddr : IPvXAddress) (localPort remotePort : Int) (number : Int32) :
    Except DemuxFault (TCPConnection × TCP) := do
  let updated ← s.updateSockPair i conn localAddr remoteAddr localPort remotePort
  let added ← updated.2.addSockPair j newConn newConn.localAddr newConn.remoteAddr newConn.localPort
    newConn.remotePort
  let s := added.2
  let conn := { updated.1 with connId := number }
  return (conn, { s.setConn i conn with
    tcpAppConnMap := update (update (update s.tcpAppConnMap updated.1.appKey none)
      conn.appKey (some i)) newConn.appKey (some j)
    numbers := number :: s.numbers })

section

variable (i : Nat) (c : TCPConnection)

def removeConnection : TCP :=
  { s with
    conns := update s.conns i none
    tcpAppConnMap := update s.tcpAppConnMap c.appKey none
    tcpConnMap := update s.tcpConnMap c.sockPair none
    usedEphemeralPorts := s.usedEphemeralPorts.erase (.ofInt c.localPort) }

def enter (fsm : TcpState) : TCP :=
  if fsm = .closed then s.removeConnection i { c with fsm := fsm }
    else s.setConn i { c with fsm := fsm }

def performStateTransition (code : TCPEventCode) : Except DemuxFault TCP :=
  if c.fsm = .closed then .error .assertion else .ok (s.enter i c (c.fsm.next c.state.active code))

def initConnection : Except DemuxFault (TCPConnection × TCP) := do
  let c ← ({ c with state := {}, rexmitQueue := some s.rexmitQueues.length } :
    TCPConnection).configured s.par
  return (c, { s.setConn i c with rexmitQueues := s.rexmitQueues ++ [i] })

/- `rexmitQueue = new TCPSACKRexmitQueue()` and `configureStateVariables()` are about the connection
that is cloned. -/
def cloneListeningConnection : Except DemuxFault (TCPConnection × TCP) := do
  let cloned ← ({ c with rexmitQueue := some s.rexmitQueues.length } : TCPConnection).configured
    s.par
  return (cloned, { (s.setConn i cloned).setConn s.fresh c.newConn with
    rexmitQueues := s.rexmitQueues ++ [i], fresh := s.fresh + 1 })

def takeSyn (a : SegmentArrival) : Except DemuxFault (TCPConnection × TCP) :=
  if c.state.fork then do
    let cloned ← s.cloneListeningConnection i c
    cloned.2.addForkedConnection i cloned.1 s.fresh c.newConn a.destAddr a.srcAddr a.destPort.toNat
      a.srcPort.toNat a.number
  else s.updateSockPair i c a.destAddr a.srcAddr a.destPort.toNat a.srcPort.toNat

/-- The sequence numbers start in `rexmitQueue`, too. If the buffer has no room for the text of the
SYN the connection does not leave its state. -/
def processSegmentInListen (a : SegmentArrival) :
    Except DemuxFault (TCPEventCode × TCPConnection × TCP) :=
  if a.seg.rstBit || a.seg.ackBit || !a.seg.synBit then .ok (.ignore, c, s)
  else do
    let taken ← s.takeSyn i c a
    if taken.1.rexmitQueue.isNone then .error .nullPointer
    else
      let c := { taken.1 with
        state := { taken.1.state with rcvNxt := a.seg.sequenceNo + 1, irs := a.seg.sequenceNo }
        heard := true }
      return (if a.seg.payloadLength ≤ c.state.maxRcvBuffer - a.buffered then .rcvSyn
        else .ignore, c, taken.2.setConn i c)

end

def isFor (c : TCPConnection) (a : SegmentArrival) : Bool :=
  (c.localAddr.isUnspecified || (c.localAddr == a.destAddr && c.localPort == a.destPort.toNat)) &&
    (c.remoteAddr.isUnspecified || (c.remoteAddr == a.srcAddr && c.remotePort == a.srcPort.toNat))

def processTCPSegment (i : Nat) (c : TCPConnection) (a : SegmentArrival) : Except DemuxFault TCP :=
  if !isFor c a then .error .assertion
  else
    match c.fsm with
    | .listen => do
      let done ← s.processSegmentInListen i c a
      done.2.2.performStateTransition i done.2.1 done.1
    | .synSent => do
      let learned ← (if a.learned then
          s.updateSockPair i c a.destAddr a.srcAddr a.destPort.toNat a.srcPort.toNat
        else .ok (c, s))
      learned.2.performStateTransition i learned.1 a.code
    | _ => s.performStateTransition i c a.code

def processOpenActive (i : Nat) (c : TCPConnection) (cmd : TCPOpenCommand) :
    Except DemuxFault TCP := do
  let opened ← s.initConnection i c
  let c := { opened.1 with state := { opened.1.state with active := true } }
  if cmd.remoteAddr.isUnspecified || Int16.ofInt cmd.remotePort == -1 then .error .oppError
  else do
    let port ← (if Int16.ofInt cmd.localPort = -1 then opened.2.getEphemeralPort
      else .ok (.ofInt cmd.localPort, opened.2))
    let added ← port.2.addSockPair i c cmd.localAddr cmd.remoteAddr port.1.toInt
      (Int16.ofInt cmd.remotePort).toInt
    added.2.performStateTransition i added.1 .openActive

def processOpenPassive (i : Nat) (c : TCPConnection) (cmd : TCPOpenCommand) :
    Except DemuxFault TCP := do
  let opened ← s.initConnection i c
  let c := { opened.1 with
    state := { opened.1.state with active := false, fork := cmd.fork }
    origin := if cmd.fork then some i else none }
  if Int16.ofInt cmd.localPort = -1 then .error .oppError
  else do
    let added ← opened.2.addSockPair i c cmd.localAddr .unspecified
      (Int16.ofInt cmd.localPort).toInt (-1)
    added.2.performStateTransition i added.1 .openPassive

def createConnection (key : AppConnKey) : TCPConnection × TCP :=
  let c : TCPConnection := { appGateIndex := key.appGateIndex, connId := key.connId }
  (c, { s.setConn s.fresh c with
    fresh := s.fresh + 1
    tcpAppConnMap := update s.tcpAppConnMap key (some s.fresh) })

def processCommand (i : Nat) (c : TCPConnection) (event : Connection.Event) (code : TCPEventCode) :
    Except DemuxFault TCP :=
  match c.fsm, event with
  | .listen, .send _ _ _ =>
    if c.rexmitQueue.isNone then .error .nullPointer
    else if c.remoteAddr.isUnspecified || c.remotePort == -1 || c.localPort == -1 then
      .error .oppError
    else s.performStateTransition i { c with state := { c.state with active := true } } code
  | _, _ => s.performStateTransition i c code

inductive Event where
  | newSocket (number : Int32)
  | openActive (key : AppConnKey) (cmd : TCPOpenCommand)
  | openPassive (key : AppConnKey) (cmd : TCPOpenCommand)
  | command (key : AppConnKey) (event : Connection.Event) (code : TCPEventCode)
  | segment (a : SegmentArrival)
  | timer (i : Nat) (event : Connection.Event) (code : TCPEventCode)

def Event.isSegment : Event → Bool
  | .segment _ => true
  | _ => false

def Event.isSend : Event → Bool
  | .command _ (.send _ _ _) _ => true
  | _ => false

def Event.code : Event → TCPEventCode
  | .command _ _ code => code
  | .segment a => a.code
  | .timer _ _ code => code
  | _ => .ignore

def target : Event → Option Nat
  | .command key _ _ => s.findConnForApp key
  | .segment a => s.findConnForSegment a
  | .timer i _ _ => some i
  | _ => none

def handleMessage : Event → Except DemuxFault TCP
  | .newSocket number => .ok { s with numbers := number :: s.numbers }
  | .openActive key cmd =>
    match s.findConnForApp key with
    | some _ => .error .oppError
    | none => (s.createConnection key).2.processOpenActive s.fresh (s.createConnection key).1 cmd
  | .openPassive key cmd =>
    match s.findConnForApp key with
    | some _ => .error .oppError
    | none => (s.createConnection key).2.processOpenPassive s.fresh (s.createConnection key).1 cmd
  | .command key event code =>
    match (s.findConnForApp key).bind fun i => (s.conns i).map (i, ·) with
    | none => .error .oppError
    | some conn => s.processCommand conn.1 conn.2 event code
  | .segment a =>
    -- a segment for no connection is answered with an RST
    match (s.findConnForSegment a).bind fun i => (s.conns i).map (i, ·) with
    | none => .ok s
    | some conn => s.processTCPSegment conn.1 conn.2 a
  | .timer i _ code =>
    match s.conns i with
    | none => .error .assertion
    | some c => s.performStateTransition i c code

end TCP

namespace Connection

def Event.isCommand : Event → Bool
  | .send _ _ _ | .close | .abort | .status => true
  | _ => false

def Event.isTimer : Event → Bool
  | .timeoutConnEstab | .timeout2Msl | .timeoutFinWait2 | .timeoutSynRexmit | .algorithmTimer _
  | .rexmitGivenUp => true
  | _ => false

def learnsSocket (d : Connection) (seg : TCPSegment) : Bool :=
  !(seg.ackBit && (seqLE seg.ackNo d.iss || seqGreater seg.ackNo d.sender.sndNxt)) && !seg.rstBit &&
    seg.synBit

end Connection

/-- There is a connection in that state that processes the event with this code. -/
def TCPConnection.Returns (c : TCPConnection) (event : Connection.Event) (code : TCPEventCode)
    (also : Connection → Prop) : Prop :=
  ∃ d d' : Connection, d.fsm = c.fsm ∧ d.active = c.state.active ∧ also d ∧
    d.process event = .ok (code, d')

namespace TCP

/-- What is known of `getUniqueNumber`: no call in a run returns a number that an earlier call has
returned. -/
def Unique (s : TCP) (number : Int32) : Prop := number ∉ s.numbers

/-- Connection ids of OPEN commands were drawn before. The receive queue of a connection that only
ever listened is empty. A timer that expires in LISTEN is an error. -/
def Answered (s : TCP) : Event → Prop
  | .newSocket number => s.Unique number
  | .openActive key _ => key.connId ∈ s.numbers
  | .openPassive key _ => key.connId ∈ s.numbers
  | .command key event code => event.isCommand ∧ ∀ i c, s.findConnForApp key = some i →
      s.conns i = some c → c.Returns event code fun _ => True
  | .segment a => ∀ i c, s.findConnForSegment a = some i → s.conns i = some c →
      (c.fsm = .listen → s.Unique a.number ∧ (c.heard = false → a.buffered = 0)) ∧
        (c.fsm ≠ .listen → c.Returns (.segment a.seg a.iss a.rcvWnd a.calls) a.code fun d =>
          c.fsm = .synSent → a.learned = d.learnsSocket a.seg)
  | .timer i event code => event.isTimer ∧ ∀ c, s.conns i = some c →
      c.fsm ≠ .listen ∧ c.Returns event code fun _ => True

def Moves (s : TCP) (e : Event) (t : TCP) : Prop := s.Answered e ∧ s.handleMessage e = .ok t

end TCP

end Srwsn
