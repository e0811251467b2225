import Srwsn.Lib.KeyMap
import Srwsn.Link.MACAddress
import Srwsn.Net.RoutingTable

/-! Address resolution: a cache with the packets that wait for an answer, and a time-out for each
request. There is no global cache. -/
namespace Srwsn

open Outcome

structure NetInterface where
  isBroadcast : Bool
  macAddress : MACAddress
  ipAddress : UInt32
  netmask : UInt32
  networkLayerGateIndex : Int
  deriving DecidableEq

structure ArpEnv where
  getInterfaceById : Int → Option NetInterface
  isLocalAddress : UInt32 → Bool
  getInterfaceForDestAddr : UInt32 → Option Int

/- `destAddress` is there in an IP datagram; `resolves` marks the packets that need resolution, and
`number` counts those before it. -/
structure OutPacket where
  nextHopAddr : UInt32
  interfaceId : Int
  destAddress : Option UInt32
  resolves : Bool := false
  number : Nat := 0
  deriving DecidableEq

def OutPacket.hop (p : OutPacket) : Option UInt32 :=
  if IPAddress.isUnspecified p.nextHopAddr then p.destAddress else some p.nextHopAddr

inductive ArpOpcode where
  | request | reply | rarpRequest | rarpReply | unsupported
  deriving DecidableEq

structure ARPPacket where
  opcode : ArpOpcode
  srcMACAddress : MACAddress
  srcIPAddress : UInt32
  destMACAddress : MACAddress := MACAddress.UNSPECIFIED_ADDRESS
  destIPAddress : UInt32
  deriving DecidableEq

inductive NicMsg where
  | packet (p : OutPacket)
  | arp (arp : ARPPacket)
  deriving DecidableEq

/- `starts` goes with the beginning of a resolution. -/
inductive ArpAction where
  | starts (address : UInt32)
  | toNIC (msg : NicMsg) (gate : Int) (dest : MACAddress)
  | direct (p : OutPacket) (gate : Int)
  | deletes (p : OutPacket)
  deriving DecidableEq

inductive ArpFault where
  | noInterface | notDatagram | unspecifiedOwn | noEntry | dangling | emptySource
  | unsupportedOpcode
  deriving DecidableEq

structure ARPCacheEntry where
  interfaceId : Int
  pending : Bool := false
  macAddress : MACAddress := MACAddress.UNSPECIFIED_ADDRESS
  lastUpdate : Nat := 0
  numRetries : Nat := 0
  timer : Option Nat := none
  pendingPackets : List OutPacket := []
  deriving DecidableEq

/-- A timer has the address of its entry and its time. `log` has the newest action first. -/
structure ARP where
  retryTimeout : Nat
  retryCount : Int
  cacheTimeout : Nat
  doProxyARP : Bool
  arpCache : KeyMap UInt32 ARPCacheEntry := {}
  pendingQueue : List OutPacket := []
  timers : KeyMap Nat (UInt32 × Nat) := {}
  nextTimer : Nat := 0
  log : List ArpAction := []

namespace ARP

variable (s : ARP) (env : ArpEnv) (now : Nat)

def record (act : ArpAction) : ARP := { s with log := act :: s.log }

def sendPacketToNIC (msg : NicMsg) (interfaceId : Int) (macAddress : MACAddress) :
    Except ArpFault ARP :=
  match env.getInterfaceById interfaceId with
  | none => .error .noInterface
  | some ie => .ok (s.record (.toNIC msg ie.networkLayerGateIndex macAddress))

def sendARPRequest (interfaceId : Int) (ipAddress : UInt32) : Except ArpFault ARP :=
  match env.getInterfaceById interfaceId with
  | none => .error .noInterface
  | some ie =>
    if ie.macAddress.isUnspecified || IPAddress.isUnspecified ie.ipAddress then
      .error .unspecifiedOwn
    else
      s.sendPacketToNIC env (.arp {
        opcode := .request
        srcMACAddress := ie.macAddress
        srcIPAddress := ie.ipAddress
        destIPAddress := ipAddress }) interfaceId MACAddress.BROADCAST_ADDRESS

def initiateARPResolution (address : UInt32) (entry : ARPCacheEntry) : Except ArpFault ARP :=
  ((s.record (.starts address)).sendARPRequest env entry.interfaceId address).map fun s => { s with
    arpCache := s.arpCache.modify address fun e =>
      { e with pending := true, numRetries := 0, lastUpdate := 0, timer := some s.nextTimer }
    timers := s.timers.insert s.nextTimer (address, now + s.retryTimeout)
    nextTimer := s.nextTimer + 1 }

def enqueuePacket (address : UInt32) (p : OutPacket) : ARP := { s with
  arpCache :=
    s.arpCache.modify address fun e => { e with pendingPackets := e.pendingPackets ++ [p] }
  pendingQueue := s.pendingQueue ++ [p] }

def isBroadcastHop (ie : NetInterface) (address : UInt32) : Bool :=
  IPAddress.isMulticast address || address == IPAddress.ALLONES_ADDRESS ||
    address == (ie.ipAddress ||| ~~~ ie.netmask)

def processOutboundPacket (p : OutPacket) : Except ArpFault ARP :=
  match env.getInterfaceById p.interfaceId with
  | none => .error .noInterface
  | some ie =>
    if !ie.isBroadcast then .ok (s.record (.direct p ie.networkLayerGateIndex))
    else
      match p.hop with
      | none => .error .notDatagram
      | some address =>
        if isBroadcastHop ie address then
          s.sendPacketToNIC env (.packet p) p.interfaceId MACAddress.BROADCAST_ADDRESS
        else
          match s.arpCache.find? address with
          | none =>
            let entry : ARPCacheEntry := { interfaceId := p.interfaceId }
            let s := { s with arpCache := s.arpCache.insert address entry }
            (s.initiateARPResolution env now address entry).map (·.enqueuePacket address p)
          | some entry =>
            if entry.pending then .ok (s.enqueuePacket address p)
            else if entry.lastUpdate + s.cacheTimeout < now then
              -- the routing table may have changed
              let entry := { entry with interfaceId := p.interfaceId }
              let s := { s with arpCache := s.arpCache.modify address fun _ => entry }
              (s.initiateARPResolution env now address entry).map (·.enqueuePacket address p)
            else s.sendPacketToNIC env (.packet p) p.interfaceId entry.macAddress

def dropEntry (address : UInt32) (entry : ARPCacheEntry) : ARP := { s with
  arpCache := s.arpCache.erase address
  pendingQueue := s.pendingQueue.diff entry.pendingPackets
  log := (entry.pendingPackets.map .deletes).reverse ++ s.log }

/-- A timer that has gone off is not running; it may be started again. -/
def requestTimedOut (timer : Nat) : Except ArpFault ARP :=
  match s.timers.find? timer with
  | none => .error .dangling
  | some (address, _) =>
    let s := { s with timers := s.timers.erase timer }
    match s.arpCache.find? address with
    | none => .error .dangling
    | some entry =>
      if entry.timer ≠ some timer then .error .dangling
      else if (entry.numRetries + 1 : Int) < s.retryCount then
        (s.sendARPRequest env entry.interfaceId address).map fun s => { s with
          arpCache := s.arpCache.modify address fun e => { e with numRetries := e.numRetries + 1 }
          timers := s.timers.insert timer (address, now + s.retryTimeout) }
      else .ok (s.dropEntry address entry)

def addressRecognized (destAddr : UInt32) (interfaceId : Int) : Bool :=
  env.isLocalAddress destAddr ||
    (s.doProxyARP && ((env.getInterfaceForDestAddr destAddr).map fun rtie =>
      decide (rtie ≠ interfaceId)).getD false)

def sendPending (s : ARP) (env : ArpEnv) (interfaceId : Int) (macAddress : MACAddress) :
    List OutPacket → Except ArpFault ARP
  | [] => .ok s
  | p :: rest => do
    let s ← s.sendPacketToNIC env (.packet p) interfaceId macAddress
    s.sendPending env interfaceId macAddress rest

def stopTimer (entry : ARPCacheEntry) : Except ArpFault ARP :=
  if entry.pending then
    match entry.timer with
    | none => .error .dangling
    | some timer => .ok { s with timers := s.timers.erase timer }
  else .ok s

def updateARPCache (address : UInt32) (macAddress : MACAddress) : Except ArpFault ARP :=
  match s.arpCache.find? address with
  | none => .error .noEntry
  | some entry => do
    let s ← s.stopTimer entry
    let s := { s with
      arpCache := s.arpCache.modify address fun e => { e with
        pending := false
        timer := if e.pending then none else e.timer
        numRetries := if e.pending then 0 else e.numRetries
        macAddress := macAddress
        lastUpdate := now
        pendingPackets := [] }
      pendingQueue := s.pendingQueue.diff entry.pendingPackets }
    s.sendPending env entry.interfaceId macAddress entry.pendingPackets

section

variable (arp : ARPPacket) (interfaceId : Int)

def answer : Except ArpFault ARP :=
  match arp.opcode with
  | .request =>
    match env.getInterfaceById interfaceId with
    | none => .error .noInterface
    | some ie =>
      s.sendPacketToNIC env
        (.arp { opcode := .reply, srcMACAddress := ie.macAddress, srcIPAddress := arp.destIPAddress
                destMACAddress := arp.srcMACAddress, destIPAddress := arp.srcIPAddress })
                interfaceId arp.srcMACAddress
  | .reply => .ok s
  | .rarpRequest | .rarpReply | .unsupported => .error .unsupportedOpcode

/-- The sender becomes known if it asks for us; an entry it has already is always brought up to
date. -/
def learn : Except ArpFault ARP :=
  match s.arpCache.find? arp.srcIPAddress with
  | some _ => s.updateARPCache env now arp.srcIPAddress arp.srcMACAddress
  | none =>
    if s.addressRecognized env arp.destIPAddress interfaceId then
      { s with
        arpCache := s.arpCache.insert arp.srcIPAddress { interfaceId := interfaceId }
      }.updateARPCache env now arp.srcIPAddress arp.srcMACAddress
    else .ok s

def processARPPacket : Except ArpFault ARP :=
  if arp.srcMACAddress.isUnspecified || IPAddress.isUnspecified arp.srcIPAddress then
    .error .emptySource
  else do
    let s ← s.learn env now arp interfaceId
    if s.addressRecognized env arp.destIPAddress interfaceId then s.answer env arp interfaceId
      else .ok s

end

def needsResolution (p : OutPacket) : Bool :=
  match env.getInterfaceById p.interfaceId, p.hop with
  | some ie, some address => ie.isBroadcast && !isBroadcastHop ie address
  | _, _ => false

variable {s s' : ARP} {env : ArpEnv} {interfaceId : Int} {macAddress : MACAddress}

theorem sendPacketToNIC_eq {msg : NicMsg}
    (done : s.sendPacketToNIC env msg interfaceId macAddress = .ok s') :
    ∃ ie, env.getInterfaceById interfaceId = some ie ∧
      s' = { s with log := .toNIC msg ie.networkLayerGateIndex macAddress :: s.log } := by
  unfold sendPacketToNIC at done
  split at done
  · cases done
  · next ie found => exact ⟨ie, found, (Except.ok.inj done).symm⟩

theorem sendARPRequest_eq {ipAddress : UInt32}
    (done : s.sendARPRequest env interfaceId ipAddress = .ok s') :
    ∃ arp gate, arp.opcode = .request ∧ arp.destIPAddress = ipAddress ∧
      s' = { s with log := .toNIC (.arp arp) gate MACAddress.BROADCAST_ADDRESS :: s.log } := by
  unfold sendARPRequest at done
  split at done
  · cases done
  · split_ifs at done
    obtain ⟨ie, -, rfl⟩ := sendPacketToNIC_eq done
    exact ⟨_, _, rfl, rfl, rfl⟩

theorem sendPending_eq {packets : List OutPacket}
    (done : s.sendPending env interfaceId macAddress packets = .ok s') :
    ∃ gate, s' = { s with
      log := (packets.map fun p => .toNIC (.packet p) gate macAddress).reverse ++ s.log } := by
  suffices along : ∀ gate, (∀ ie, env.getInterfaceById interfaceId = some ie →
    ie.networkLayerGateIndex = gate) →
      s' = { s with
        log := (packets.map fun p => .toNIC (.packet p) gate macAddress).reverse ++ s.log } by
    cases found : env.getInterfaceById interfaceId with
    | none => exact ⟨0, along 0 fun ie here => by cases found.symm.trans here⟩
    | some ie =>
      refine ⟨ie.networkLayerGateIndex, along _ fun ie' here => ?_⟩
      rw [Option.some.inj (found.symm.trans here)]
  intro gate same
  induction packets generalizing s with
  | nil => exact (Except.ok.inj done).symm
  | cons p packets ih =>
    obtain ⟨m, first, rest⟩ := bind_eq_ok done
    obtain ⟨ie, found, rfl⟩ := sendPacketToNIC_eq first
    rw [ih rest, same ie found]
    simp

end ARP
end Srwsn
