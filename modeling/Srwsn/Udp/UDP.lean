import Srwsn.Lib.KeyMap
import Srwsn.Net.RoutingTable
import Srwsn.Tcp.Module

/-! The UDP module: its sockets by id and by port, and the demultiplexing of packets. -/
namespace Srwsn

open Outcome

inductive UDPFault where
  | noSockId | assertion | noSocket | unspecifiedAddress | invalidPort | portsExhausted
  | wrongFamily | noControlInfo | dangling
  deriving DecidableEq

structure UDPControlInfo where
  sockId : Int := -1
  userId : Int := -1
  srcAddr : IPvXAddress := .unspecified
  destAddr : IPvXAddress := .unspecified
  srcPort : Int := 0
  destPort : Int := 0
  interfaceId : Int := -1
  deriving DecidableEq

structure SockDesc where
  sockId : Int
  userId : Int
  appGateIndex : Int
  onlyLocalPortIsSet : Bool
  localAddr : IPvXAddress
  remoteAddr : IPvXAddress
  localPort : Int16
  remotePort : Int16
  interfaceId : Int
  deriving DecidableEq

inductive IPCtrl where
  | ip4 (srcAddr destAddr : UInt32) (interfaceId : Int)
  | ip6 (srcAddr destAddr : IPv6Address) (interfaceId : Int)
  deriving DecidableEq

structure UDPPacket where
  sourcePort : Int
  destinationPort : Int
  hasBitError : Bool := false
  controlInfo : Option IPCtrl
  deriving DecidableEq

structure ICMPError where
  localAddr : IPvXAddress
  remoteAddr : IPvXAddress
  localPort : Int
  remotePort : Int

inductive UDPAction where
  | sendUp (gate : Int) (ctrl : UDPControlInfo)
  | portUnreachable (packet : UDPPacket) (ctrl : IPCtrl)
  deriving DecidableEq

/-- The socket descriptors are in `descs`, by their addresses; both maps have the addresses. -/
structure UDP where
  descs : KeyMap Nat SockDesc := {}
  nextDesc : Nat := 0
  socketsByIdMap : KeyMap Int Nat := {}
  socketsByPortMap : KeyMap Int (List Nat) := {}
  lastEphemeralPort : Int16 := 1024
  numPassedUp : Nat := 0
  numDroppedWrongPort : Nat := 0
  numDroppedBadChecksum : Nat := 0

namespace IPvXAddress

def get4 : IPvXAddress → Except UDPFault UInt32
  | v4 d => .ok d
  | v6 _ => .error .wrongFamily

/- `set(const IPv6Address&)`: a null address is always one of IPv4. -/
def of6 (addr : IPv6Address) : IPvXAddress := if addr = .UNSPECIFIED_ADDRESS then unspecified
    else v6 addr

def get6 : IPvXAddress → Except UDPFault IPv6Address
  | v6 d => .ok d
  | v4 d => if d = 0 then .ok .UNSPECIFIED_ADDRESS else .error .wrongFamily

end IPvXAddress

def IPv6Address.isMulticast (a : IPv6Address) : Bool := a.d0 &&& 0xFF000000 == 0xFF000000

def IPCtrl.toMulticast : IPCtrl → Bool
  | ip4 _ destAddr _ => IPAddress.isMulticast destAddr
  | ip6 _ destAddr _ => destAddr.isMulticast

def IPCtrl.src : IPCtrl → IPvXAddress
  | ip4 srcAddr _ _ => .v4 srcAddr
  | ip6 srcAddr _ _ => .of6 srcAddr

def IPCtrl.dest : IPCtrl → IPvXAddress
  | ip4 _ destAddr _ => .v4 destAddr
  | ip6 _ destAddr _ => .of6 destAddr

def IPCtrl.interfaceId : IPCtrl → Int
  | ip4 _ _ id => id
  | ip6 _ _ id => id

namespace UDP

/-- Every port of the range is looked at once at most. -/
def findFreePort (taken : Int16 → Bool) (searchUntil : Int16) : Nat → Int16 → Except UDPFault Int16
  | 0, _ => .error .portsExhausted
  | n + 1, port =>
    if taken port then
      if port = searchUntil then .error .portsExhausted
        else findFreePort taken searchUntil n (TCP.nextPort port)
    else .ok port

variable (u : UDP) (udpPacket : UDPPacket)

def getEphemeralPort : Except UDPFault Int16 :=
  findFreePort (fun port => (u.socketsByPortMap.find? port.toInt).isSome) u.lastEphemeralPort 3976
    (TCP.nextPort u.lastEphemeralPort)

def choosePort (localPort : Int16) : Except UDPFault (Int16 × UDP) :=
  if localPort = 0 then
    u.getEphemeralPort.map fun port => (port, { u with lastEphemeralPort := port })
  else .ok (localPort, u)

def insertSocket (sd : SockDesc) : Except UDPFault UDP :=
  if (u.socketsByIdMap.find? sd.sockId).isSome then .error .assertion
  else .ok { u with
    descs := u.descs.insert u.nextDesc sd
    nextDesc := u.nextDesc + 1
    socketsByIdMap := u.socketsByIdMap.insert sd.sockId u.nextDesc
    socketsByPortMap := u.socketsByPortMap.insert sd.localPort.toInt
      ((u.socketsByPortMap.find? sd.localPort.toInt).getD [] ++ [u.nextDesc]) }

def bind (gateIndex : Int) (ctrl : UDPControlInfo) : Except UDPFault UDP :=
  if ctrl.sockId = -1 then .error .noSockId
  else u.choosePort ctrl.srcPort.toInt16 >>= fun chosen =>
    chosen.2.insertSocket {
      sockId := ctrl.sockId
      userId := ctrl.userId
      appGateIndex := gateIndex
      localAddr := ctrl.srcAddr
      remoteAddr := ctrl.destAddr
      localPort := chosen.1
      remotePort := ctrl.destPort.toInt16
      interfaceId := ctrl.interfaceId
      onlyLocalPortIsSet := ctrl.srcAddr.isUnspecified && ctrl.destAddr.isUnspecified &&
        ctrl.destPort.toInt16 == 0 && ctrl.interfaceId == -1 }

def connect (sockId : Int) (addr : IPvXAddress) (port : Int) : Except UDPFault UDP :=
  match u.socketsByIdMap.find? sockId with
  | none => .error .noSocket
  | some desc =>
    if addr.isUnspecified then .error .unspecifiedAddress
    else if port ≤ 0 ∨ port > 65535 then .error .invalidPort
    else .ok { u with
      descs := u.descs.modify desc fun sd =>
        { sd with remoteAddr := addr, remotePort := port.toInt16, onlyLocalPortIsSet := false } }

def leavePort (m : KeyMap Int (List Nat)) (port : Int) (desc : Nat) : KeyMap Int (List Nat) :=
  let list := ((m.find? port).getD []).erase desc
  if list.isEmpty then m.erase port else m.insert port list

def unbind (sockId : Int) : Except UDPFault UDP :=
  match u.socketsByIdMap.find? sockId with
  | none => .error .noSocket
  | some desc =>
    match u.descs.find? desc with
    | none => .error .dangling
    | some sd => .ok { u with
      descs := u.descs.erase desc
      socketsByIdMap := u.socketsByIdMap.erase sockId
      socketsByPortMap := leavePort u.socketsByPortMap sd.localPort.toInt desc }

def differs {α : Type} [DecidableEq α] (get : IPvXAddress → Except UDPFault α) (addr : IPvXAddress)
    (a : α) : Except UDPFault Bool :=
  if addr.isUnspecified then .ok false else (get addr).map (· != a)

/-- Both versions of `matchesSocket` for packets, which differ in the getter of the addresses. -/
def matchesSocketBy {α : Type} [DecidableEq α] (get : IPvXAddress → Except UDPFault α)
    (sd : SockDesc) (udp : UDPPacket) (destAddr srcAddr : α) (interfaceId : Int) :
    Except UDPFault Bool :=
  if sd.remotePort ≠ 0 ∧ sd.remotePort.toInt ≠ udp.sourcePort then .ok false
  else differs get sd.localAddr destAddr >>= fun other =>
    if other then .ok false
    else differs get sd.remoteAddr srcAddr >>= fun other =>
      if other then .ok false else .ok !(sd.interfaceId != -1 && sd.interfaceId != interfaceId)

def matchesSocket (sd : SockDesc) (udp : UDPPacket) : IPCtrl → Except UDPFault Bool
  | .ip4 srcAddr destAddr interfaceId => matchesSocketBy IPvXAddress.get4 sd udp destAddr srcAddr
      interfaceId
  | .ip6 srcAddr destAddr interfaceId => matchesSocketBy IPvXAddress.get6 sd udp destAddr srcAddr
      interfaceId

def upCtrl (sockId userId : Int) (udpHeader : UDPPacket) (ctrl : IPCtrl) : UDPControlInfo :=
  ⟨sockId, userId, ctrl.src, ctrl.dest, udpHeader.sourcePort, udpHeader.destinationPort,
    ctrl.interfaceId⟩

def sendCopies (u : UDP) (udp : UDPPacket) (ctrl : IPCtrl) :
    List Nat → Except UDPFault (List UDPAction)
  | [] => .ok []
  | desc :: rest =>
    match u.descs.find? desc with
    | none => .error .dangling
    | some sd =>
      (if sd.onlyLocalPortIsSet then .ok true else matchesSocket sd udp ctrl) >>= fun matching =>
        (sendCopies u udp ctrl rest).map fun more =>
          if matching then .sendUp sd.appGateIndex (upCtrl sd.sockId sd.userId udp ctrl) :: more
            else more

def matchesSender (sd : SockDesc) (localAddr remoteAddr : IPvXAddress) (remotePort : Int16) :
    Bool :=
  (sd.remotePort == 0 || sd.remotePort != remotePort) &&
    (sd.localAddr.isUnspecified || sd.localAddr == localAddr) &&
    (sd.remoteAddr.isUnspecified || sd.remoteAddr == remoteAddr)

def findSender (u : UDP) (e : ICMPError) (srcSocket : Option SockDesc) :
    List Nat → Except UDPFault (Option SockDesc)
  | [] => .ok srcSocket
  | desc :: rest =>
    match u.descs.find? desc with
    | none => .error .dangling
    | some sd =>
      findSender u e (if sd.onlyLocalPortIsSet ||
        matchesSender sd e.localAddr e.remoteAddr e.remotePort.toInt16 then some sd
        else srcSocket) rest

def sendUpErrorNotification (e : ICMPError) (sd : SockDesc) : Int × UDPControlInfo :=
  (sd.appGateIndex, {
    sockId := sd.sockId, userId := sd.userId, srcAddr := e.localAddr, destAddr := e.remoteAddr,
    srcPort := sd.localPort.toInt, destPort := e.remotePort.toInt16.toInt })

def processICMPError (e : ICMPError) : Except UDPFault (Option (Int × UDPControlInfo)) :=
  match u.socketsByPortMap.find? e.localPort with
  | none => .ok none
  | some list => (u.findSender e none list).map (·.map (sendUpErrorNotification e))

def processUndeliverablePacket (ctrl : Option IPCtrl) : Except UDPFault (List UDPAction) :=
  match ctrl with
  | some (.ip4 srcAddr destAddr interfaceId) =>
    .ok (if IPAddress.isMulticast destAddr then []
      else [.portUnreachable udpPacket (.ip4 srcAddr destAddr interfaceId)])
  | _ =>
    match udpPacket.controlInfo, ctrl with
    | some (.ip6 ..), some ctrl6 =>
      .ok (if ctrl6.toMulticast then [] else [.portUnreachable udpPacket ctrl6])
    | _, _ => .error .noControlInfo

def undeliverable (ctrl : Option IPCtrl) : Except UDPFault (List UDPAction × UDP) :=
  (processUndeliverablePacket udpPacket ctrl).map fun acts =>
    (acts, { u with numDroppedWrongPort := u.numDroppedWrongPort + 1 })

/-- The copies for the sockets of the port. The control info of the packet has been removed 
before. -/
def deliverAll (ctrl : Option IPCtrl) (list : List Nat) : Except UDPFault (List UDPAction) :=
  match ctrl with
  | some (.ip4 srcAddr destAddr interfaceId) =>
    u.sendCopies udpPacket (.ip4 srcAddr destAddr interfaceId) list
  | _ =>
    match udpPacket.controlInfo, ctrl with
    | some (.ip6 ..), some ctrl6 => u.sendCopies udpPacket ctrl6 list
    | _, _ => .error .noControlInfo

def removeControlInfo : UDPPacket := { udpPacket with controlInfo := none }

def demultiplex (ctrl : Option IPCtrl) : Except UDPFault (List UDPAction × UDP) :=
  match u.socketsByPortMap.find? udpPacket.destinationPort with
  | none => u.undeliverable udpPacket ctrl
  | some list =>
    u.deliverAll udpPacket ctrl list >>= fun acts =>
      if acts.isEmpty then u.undeliverable udpPacket ctrl
      else .ok (acts, { u with numPassedUp := u.numPassedUp + acts.length })

def processUDPPacket : Except UDPFault (List UDPAction × UDP) :=
  if udpPacket.hasBitError then
    .ok ([], { u with numDroppedBadChecksum := u.numDroppedBadChecksum + 1 })
  else u.demultiplex (removeControlInfo udpPacket) udpPacket.controlInfo

end UDP
end Srwsn
