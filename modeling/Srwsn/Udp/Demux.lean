import Srwsn.Udp.UDP

/-! Which sockets get a packet, compared with the sockets that the commands have opened. -/
namespace Srwsn

open Trace Outcome UDP List IPvXAddress KeyMap

structure UdpSocket where
  desc : Nat
  sockId : Int
  userId : Int
  appGateIndex : Int
  localAddr : IPvXAddress
  remoteAddr : IPvXAddress
  localPort : Int
  remotePort : Int
  interfaceId : Int
  deriving DecidableEq

namespace UdpSocket

def agrees (p : UDPPacket) (ctrl : IPCtrl) (s : UdpSocket) : Bool :=
  s.localPort == p.destinationPort && (s.remotePort == 0 || s.remotePort == p.sourcePort) &&
    (s.localAddr.isUnspecified || s.localAddr == ctrl.dest) &&
    (s.remoteAddr.isUnspecified || s.remoteAddr == ctrl.src) &&
    (s.interfaceId == -1 || s.interfaceId == ctrl.interfaceId)

def copies (sockets : List UdpSocket) (p : UDPPacket) (ctrl : IPCtrl) : List UDPAction :=
  (sockets.filter (agrees p ctrl)).map fun s =>
    .sendUp s.appGateIndex (upCtrl s.sockId s.userId p ctrl)

/-- What should happen with a packet. -/
def expected (sockets : List UdpSocket) (p : UDPPacket) (ctrl : IPCtrl) : List UDPAction :=
  if sockets.any (agrees p ctrl) then copies sockets p ctrl
  else if ctrl.toMulticast then []
  else [.portUnreachable (removeControlInfo p) ctrl]

def fitsError (e : ICMPError) (s : UdpSocket) : Bool :=
  s.localPort == e.localPort && (s.localAddr.isUnspecified || s.localAddr == e.localAddr) &&
    (s.remoteAddr.isUnspecified || s.remoteAddr == e.remoteAddr)

def couldSend (e : ICMPError) (s : UdpSocket) : Bool :=
  s.fitsError e && (s.remotePort == 0 || s.remotePort == e.remotePort)

/-- The socket is taken for the sender: a remote port that is set must not be that of the packet. -/
def takenFor (e : ICMPError) (s : UdpSocket) : Bool :=
  s.fitsError e && (s.remotePort == 0 || s.remotePort.toInt16 != e.remotePort.toInt16)

def isIPv6 : IPvXAddress → Bool
  | .v4 _ => false
  | .v6 _ => true

def Reads (p : UDPPacket) (dest : UInt32) (s : UdpSocket) : Prop :=
  s.remotePort = 0 ∨ s.remotePort = p.sourcePort →
    isIPv6 s.localAddr = false ∧
      (s.localAddr.isUnspecified = true ∨ s.localAddr = .v4 dest → isIPv6 s.remoteAddr = false)
  deriving Decidable

def describe (s : UdpSocket) (onlyLocalPortIsSet : Bool) : SockDesc where
  sockId := s.sockId
  userId := s.userId
  appGateIndex := s.appGateIndex
  onlyLocalPortIsSet := onlyLocalPortIsSet
  localAddr := s.localAddr
  remoteAddr := s.remoteAddr
  localPort := s.localPort.toInt16
  remotePort := s.remotePort.toInt16
  interfaceId := s.interfaceId

def Bare (s : UdpSocket) : Prop :=
  s.localAddr = .unspecified ∧ s.remoteAddr = .unspecified ∧ s.remotePort = 0 ∧ s.interfaceId = -1

end UdpSocket

/-- A port that its type in the descriptors, `short`, can hold. -/
def PortFits (port : Int) : Prop := -2 ^ 15 ≤ port ∧ port < 2 ^ 15
  deriving Decidable

theorem PortFits.toInt {port : Int} (fits : PortFits port) : port.toInt16.toInt = port :=
  Int16.toInt_ofInt_of_le fits.1 fits.2

theorem PortFits.eq_zero {port : Int} (fits : PortFits port) : port.toInt16 = 0 ↔ port = 0 := by
  constructor
  · intro zero
    rw [← fits.toInt, zero]
    rfl
  · rintro rfl
    rfl

inductive UdpEvent where
  | bind (gateIndex : Int) (ctrl : UDPControlInfo)
  | connect (sockId : Int) (addr : IPvXAddress) (port : Int)
  | unbind (sockId : Int)
  | packet (p : UDPPacket)

structure UdpRun where
  udp : UDP := {}
  sockets : List UdpSocket := []

namespace UdpRun

variable (w : UdpRun)

def bound (gateIndex : Int) (ctrl : UDPControlInfo) (ephemeral : Int16) : UdpSocket where
  desc := w.udp.nextDesc
  sockId := ctrl.sockId
  userId := ctrl.userId
  appGateIndex := gateIndex
  localAddr := ctrl.srcAddr
  remoteAddr := ctrl.destAddr
  localPort := if ctrl.srcPort = 0 then ephemeral.toInt else ctrl.srcPort
  remotePort := ctrl.destPort
  interfaceId := ctrl.interfaceId

def connected (sockId : Int) (addr : IPvXAddress) (port : Int) (s : UdpSocket) : UdpSocket :=
  if s.sockId = sockId then { s with remoteAddr := addr, remotePort := port } else s

def handle : UdpEvent → Except UDPFault UdpRun
  | .bind gateIndex ctrl =>
    (w.udp.bind gateIndex ctrl).map fun udp =>
      { udp := udp, sockets := w.sockets ++ [w.bound gateIndex ctrl udp.lastEphemeralPort] }
  | .connect sockId addr port =>
    (w.udp.connect sockId addr port).map fun udp =>
      { udp := udp
        sockets := w.sockets.map (connected sockId addr port) }
  | .unbind sockId =>
    (w.udp.unbind sockId).map fun udp =>
      { udp := udp, sockets := w.sockets.filter (·.sockId != sockId) }
  | .packet p => (w.udp.processUDPPacket p).map fun r => { w with udp := r.2 }

def Next (e : UdpEvent) (w' : UdpRun) : Prop := w.handle e = .ok w'

def Demultiplexed (p : UDPPacket) : Prop :=
  ∃ ctrl udp, p.controlInfo = some ctrl ∧
    w.udp.processUDPPacket p = .ok (UdpSocket.expected w.sockets p ctrl, udp)

/-- An IPv4 packet, and no IPv6 address where it is compared. -/
def Readable (p : UDPPacket) : Prop :=
  ∃ src dest interfaceId, p.controlInfo = some (.ip4 src dest interfaceId) ∧
    ∀ s ∈ w.sockets, s.localPort = p.destinationPort → s.Reads p dest

/-- The socket that is notified could have sent the packet, and no notification means that none
could. -/
def Reported (e : ICMPError) : Prop :=
  match w.udp.processICMPError e with
  | .ok (some note) => ∃ s ∈ w.sockets, s.couldSend e = true ∧
      note = sendUpErrorNotification e (s.describe false)
  | .ok none => ∀ s ∈ w.sockets, s.couldSend e = false
  | .error _ => False

/-- The last of the sockets that are taken for the sender has no remote port. If there is none, the
port has no socket whose addresses fit, or the packet was sent to a port that no socket can have. -/
def SenderFound (e : ICMPError) : Prop :=
  match (w.sockets.filter (UdpSocket.takenFor e)).getLast? with
  | some s => s.remotePort = 0
  | none => PortFits e.remotePort → ∀ s ∈ w.sockets, s.fitsError e = false

def PortsFit (_ : UdpRun) : UdpEvent → Prop
  | .bind _ ctrl => PortFits ctrl.srcPort ∧ PortFits ctrl.destPort
  | .connect _ _ port => PortFits port
  | _ => True

instance : (e : UdpEvent) → Decidable (w.PortsFit e)
  | .bind _ ctrl => inferInstanceAs (Decidable (PortFits ctrl.srcPort ∧ PortFits ctrl.destPort))
  | .connect _ _ port => inferInstanceAs (Decidable (PortFits port))
  | .unbind _ => inferInstanceAs (Decidable True)
  | .packet _ => inferInstanceAs (Decidable True)

end UdpRun

open UdpSocket

section Matching

variable {s : UdpSocket} {p : UDPPacket} {src dest : UInt32} {interfaceId : Int}

theorem differs_v4 {addr : IPvXAddress} (family : isIPv6 addr = false) (a : UInt32) :
    differs get4 addr a = .ok !(addr.isUnspecified || addr == .v4 a) := by
  cases addr with
  | v6 d => cases family
  | v4 d =>
    unfold differs
    cases known : (IPvXAddress.v4 d).isUnspecified with
    | true => rfl
    | false => simp [get4, Except.map, bne]

theorem differs_v6 {addr : IPvXAddress} (family : isIPv6 addr = true) (a : UInt32) :
    differs get4 addr a = .error .wrongFamily := by
  cases addr with
  | v4 d => cases family
  | v6 d => rfl

theorem matchesSocket_eq (flag : Bool) (fits : PortFits s.remotePort) :
    matchesSocket (s.describe flag) p (.ip4 src dest interfaceId) =
      if s.remotePort = 0 ∨ s.remotePort = p.sourcePort then
        differs get4 s.localAddr dest >>= fun other =>
          if other then .ok false else differs get4 s.remoteAddr src >>= fun other =>
            if other then .ok false else .ok (s.interfaceId == -1 || s.interfaceId == interfaceId)
              else .ok false := by
  have zero : (s.describe flag).remotePort = 0 ↔ s.remotePort = 0 := fits.eq_zero
  have same : (s.describe flag).remotePort.toInt = s.remotePort := fits.toInt
  have other : (s.describe flag).remotePort ≠ 0 ∧ (s.describe flag).remotePort.toInt ≠
    p.sourcePort ↔
      ¬ (s.remotePort = 0 ∨ s.remotePort = p.sourcePort) := by rw [ne_eq, zero, same, not_or]
  have interfaces : (!((s.describe flag).interfaceId != -1 &&
    (s.describe flag).interfaceId != interfaceId)) =
      (s.interfaceId == -1 || s.interfaceId == interfaceId) := by simp [bne, describe]
  unfold matchesSocket matchesSocketBy
  simp only [other, interfaces, ite_not]
  rfl

theorem matchesSocket_describe (flag : Bool) (fits : PortFits s.remotePort)
    (port : s.localPort = p.destinationPort) :
    matchesSocket (s.describe flag) p (.ip4 src dest interfaceId) =
      if s.Reads p dest then .ok (s.agrees p (.ip4 src dest interfaceId))
      else .error .wrongFamily := by
  rw [matchesSocket_eq flag fits]
  by_cases known : s.remotePort = 0 ∨ s.remotePort = p.sourcePort
  · have reads : s.Reads p dest ↔ isIPv6 s.localAddr = false ∧
        ((s.localAddr.isUnspecified || s.localAddr == .v4 dest) = true →
          isIPv6 s.remoteAddr = false) := by
      simp [Reads, known]
    have ports : (s.remotePort == 0 || s.remotePort == p.sourcePort) = true := by simpa using known
    simp only [if_pos known, reads, agrees, ports, IPCtrl.dest, IPCtrl.src, IPCtrl.interfaceId]
    cases family : isIPv6 s.localAddr with
    | true => simp [differs_v6 family]
    | false =>
      rw [differs_v4 family, ok_bind]
      cases here : s.localAddr.isUnspecified || s.localAddr == .v4 dest with
      | false => simp
      | true =>
        cases family' : isIPv6 s.remoteAddr with
        | true => simp [differs_v6 family']
        | false =>
          rw [differs_v4 family', ok_bind]
          cases s.remoteAddr.isUnspecified || s.remoteAddr == .v4 src with
          | false => simp
          | true => simp [port]
  · have reads : s.Reads p dest := fun either => absurd either known
    simp [reads, agrees, port, known]

end Matching

namespace UdpRun

structure Inv (w : UdpRun) : Prop where
  byId : ∀ id n, w.udp.socketsByIdMap.find? id = some n ↔ ∃ s ∈ w.sockets, s.sockId = id ∧
    s.desc = n
  descs : ∀ s ∈ w.sockets, ∃ flag, w.udp.descs.find? s.desc = some (s.describe flag) ∧
    (flag = true → s.Bare)
  ports : ∀ port, (w.udp.socketsByPortMap.find? port).getD [] =
    (w.sockets.filter (·.localPort == port)).map (·.desc)
  fits : ∀ s ∈ w.sockets, PortFits s.localPort ∧ PortFits s.remotePort
  distinct : (w.sockets.map (·.desc)).Nodup
  fresh : ∀ s ∈ w.sockets, s.desc < w.udp.nextDesc

variable {w w' : UdpRun} {p : UDPPacket} {src dest : UInt32} {interfaceId : Int}

def compares (s : UdpSocket) (flag : Bool) (p : UDPPacket) (ctrl : IPCtrl) : Except UDPFault Bool :=
  if (s.describe flag).onlyLocalPortIsSet then .ok true else matchesSocket (s.describe flag) p ctrl

variable {s : UdpSocket} {sockets : List UdpSocket} {flag : Bool}

theorem compares_eq (bare : flag = true → s.Bare)
    (fits : PortFits s.remotePort) (port : s.localPort = p.destinationPort) :
    compares s flag (removeControlInfo p) (.ip4 src dest interfaceId) =
      if s.Reads p dest then .ok (s.agrees p (.ip4 src dest interfaceId))
      else .error .wrongFamily := by
  cases flag with
  | false => exact matchesSocket_describe (p := removeControlInfo p) false fits port
  | true =>
    obtain ⟨localAddr, remoteAddr, remotePort, id⟩ := bare rfl
    have all : s.agrees p (.ip4 src dest interfaceId) = true := by
      simp [agrees, port, localAddr, remoteAddr, remotePort, id, isUnspecified]
    have reads : s.Reads p dest := by
      unfold Reads
      rw [localAddr, remoteAddr]
      exact fun _ => ⟨rfl, fun _ => rfl⟩
    rw [all, if_pos reads]
    rfl

structure Listed (u : UDP) (port : Int) (s : UdpSocket) : Prop where
  desc : ∃ flag, u.descs.find? s.desc = some (s.describe flag) ∧ (flag = true → s.Bare)
  fits : PortFits s.remotePort
  port : s.localPort = port

variable {port : Int}

theorem Inv.listed (inv : w.Inv) :
    ∀ s ∈ w.sockets.filter (·.localPort == port), Listed w.udp port s := by
  intro s found
  obtain ⟨member, here⟩ := mem_filter.mp found
  exact ⟨inv.descs s member, (inv.fits s member).2, eq_of_beq here⟩

variable {u : UDP}

theorem sendCopies_eq (listed : ∀ s ∈ sockets, Listed u p.destinationPort s) :
    u.sendCopies (removeControlInfo p) (.ip4 src dest interfaceId) (sockets.map (·.desc)) =
      if ∀ s ∈ sockets, s.Reads p dest then .ok (copies sockets p (.ip4 src dest interfaceId))
      else .error .wrongFamily := by
  induction sockets with
  | nil => simp [sendCopies, copies]
  | cons s sockets ih =>
    obtain ⟨here, rest⟩ := forall_mem_cons.mp listed
    obtain ⟨flag, found, bare⟩ := here.desc
    have first : compares s flag (removeControlInfo p) (.ip4 src dest interfaceId) = _ :=
      compares_eq bare here.fits here.port
    unfold compares at first
    rw [map_cons, sendCopies, found]
    simp only [first, ih rest, forall_mem_cons]
    by_cases reads : s.Reads p dest
    · by_cases all : ∀ s ∈ sockets, s.Reads p dest
      · rw [if_pos reads, if_pos all, if_pos ⟨reads, all⟩, ok_bind]
        cases agrees : s.agrees p (.ip4 src dest interfaceId) with
        | true => simp [copies, agrees, describe, upCtrl, removeControlInfo, Except.map]
        | false => simp [copies, agrees, Except.map]
      · rw [if_pos reads, if_neg all, if_neg fun both => all both.2]
        rfl
    · simp [reads]

theorem Inv.lookup (inv : w.Inv) (port : Int) :
    w.udp.socketsByPortMap.find? port = none ∧ w.sockets.filter (·.localPort == port) = [] ∨
      w.udp.socketsByPortMap.find? port =
      some ((w.sockets.filter (·.localPort == port)).map (·.desc)) := by
  have same := inv.ports port
  cases found : w.udp.socketsByPortMap.find? port with
  | none =>
    rw [found] at same
    exact .inl ⟨rfl, map_eq_nil_iff.mp same.symm⟩
  | some list =>
    rw [found] at same
    exact .inr (congrArg some same)

theorem copies_port (sockets : List UdpSocket) (p : UDPPacket) (ctrl : IPCtrl) :
    copies (sockets.filter (·.localPort == p.destinationPort)) p ctrl = copies sockets p ctrl := by
  unfold copies
  rw [List.filter_filter]
  congr 1
  apply filter_congr
  intro s _
  unfold agrees
  cases s.localPort == p.destinationPort with
  | true => simp
  | false => simp

theorem expected_eq (sockets : List UdpSocket) (p : UDPPacket) (ctrl : IPCtrl) :
    expected sockets p ctrl =
      if (copies sockets p ctrl).isEmpty then if ctrl.toMulticast then []
      else [.portUnreachable (removeControlInfo p) ctrl]
      else copies sockets p ctrl := by
  have empty : (copies sockets p ctrl).isEmpty = !sockets.any (agrees p ctrl) := by
    rw [Bool.eq_iff_iff]
    simp [copies]
  unfold expected
  rw [empty]
  cases sockets.any (agrees p ctrl) with
  | true => rfl
  | false => rfl

theorem process_eq (clean : p.hasBitError = false) :
    w.udp.processUDPPacket p = w.udp.demultiplex (removeControlInfo p) p.controlInfo := by
  unfold processUDPPacket
  rw [clean]
  rfl

theorem process_ip4 (inv : w.Inv) (clean : p.hasBitError = false)
    (arrived : p.controlInfo = some (.ip4 src dest interfaceId)) :
    (w.udp.processUDPPacket p).map Prod.fst = if ∀ s ∈ w.sockets, s.localPort = p.destinationPort →
    s.Reads p dest then
        .ok (expected w.sockets p (.ip4 src dest interfaceId)) else .error .wrongFamily := by
  have all : (∀ s ∈ w.sockets, s.localPort = p.destinationPort → s.Reads p dest) ↔
      ∀ s ∈ w.sockets.filter (·.localPort == p.destinationPort), s.Reads p dest := by simp
  have same := copies_port w.sockets p (.ip4 src dest interfaceId)
  rw [process_eq clean, arrived, expected_eq]
  unfold demultiplex
  simp only [all]
  rcases inv.lookup p.destinationPort with ⟨absent, nobody⟩ | found
  · rw [nobody] at same ⊢
    simp only [removeControlInfo, absent, ← same]
    rfl
  · have found' : w.udp.socketsByPortMap.find? (removeControlInfo p).destinationPort = _ := found
    simp only [found', deliverAll, sendCopies_eq inv.listed]
    by_cases reads : ∀ s ∈ w.sockets.filter (·.localPort == p.destinationPort), s.Reads p dest
    · rw [if_pos reads, if_pos reads, ok_bind, same]
      cases (copies w.sockets p (.ip4 src dest interfaceId)).isEmpty with
      | true => rfl
      | false => rfl
    · rw [if_neg reads, if_neg reads]
      rfl

theorem process_ip6 {src dest : IPv6Address} (clean : p.hasBitError = false)
    (arrived : p.controlInfo = some (.ip6 src dest interfaceId)) :
    w.udp.processUDPPacket p = .error .noControlInfo := by
  rw [process_eq clean, arrived]
  unfold demultiplex
  split
  · rfl
  · rfl

theorem Inv.demultiplexed_iff (inv : w.Inv) (clean : p.hasBitError = false) : w.Demultiplexed p ↔
    w.Readable p := by
  constructor
  · rintro ⟨ctrl, udp, arrived, done⟩
    cases ctrl with
    | ip6 src dest interfaceId =>
      rw [process_ip6 clean arrived] at done
      cases done
    | ip4 src dest interfaceId =>
      refine ⟨src, dest, interfaceId, arrived, ?_⟩
      by_contra foreign
      have failed := process_ip4 inv clean arrived
      rw [done, if_neg foreign] at failed
      cases failed
  · rintro ⟨src, dest, interfaceId, arrived, reads⟩
    have sent := process_ip4 inv clean arrived
    rw [if_pos reads] at sent
    obtain ⟨⟨acts, udp⟩, done, rfl⟩ := map_eq_ok sent
    exact ⟨_, udp, arrived, done⟩

theorem Inv.desc_iff (inv : w.Inv) {id : Int} {n : Nat}
    (found : w.udp.socketsByIdMap.find? id = some n) (member : s ∈ w.sockets) :
    s.desc = n ↔ s.sockId = id := by
  obtain ⟨t, member', rfl, rfl⟩ := (inv.byId id n).mp found
  constructor
  · intro same
    rw [inj_on_of_nodup_map inv.distinct member member' same]
  · intro same
    have found' := (inv.byId s.sockId s.desc).mpr ⟨s, member, rfl, rfl⟩
    rw [same, found] at found'
    exact (Option.some.inj found').symm

variable {err : ICMPError}

theorem matchesSender_eq (bare : flag = true → s.Bare) (fits : PortFits s.remotePort)
    (port : s.localPort = err.localPort) : ((s.describe flag).onlyLocalPortIsSet ||
      matchesSender (s.describe flag) err.localAddr err.remoteAddr err.remotePort.toInt16) =
      s.takenFor err := by
  unfold takenFor fitsError
  cases flag with
  | false =>
    have zero : (s.remotePort.toInt16 == 0) = (s.remotePort == 0) := by
      rw [Bool.eq_iff_iff, beq_iff_eq, beq_iff_eq, fits.eq_zero]
    simp only [matchesSender, describe, zero, port, beq_self_eq_true, Bool.true_and, Bool.false_or,
      Bool.and_assoc]
    rw [Bool.and_comm, Bool.and_assoc]
  | true =>
    obtain ⟨localAddr, remoteAddr, remotePort, -⟩ := bare rfl
    simp [describe, port, localAddr, remoteAddr, remotePort, isUnspecified]

theorem findSender_eq {found : Option SockDesc} (listed : ∀ s ∈ sockets, Listed u err.localPort s) :
    (u.findSender err found (sockets.map (·.desc))).map (·.map (sendUpErrorNotification err)) =
      .ok (((sockets.filter (takenFor err)).getLast?.map fun s => sendUpErrorNotification err
        (s.describe false)).or (found.map (sendUpErrorNotification err))) := by
  induction sockets generalizing found with
  | nil => rfl
  | cons s sockets ih =>
    obtain ⟨here, rest⟩ := forall_mem_cons.mp listed
    obtain ⟨flag, known, bare⟩ := here.desc
    rw [map_cons, findSender, known]
    simp only [matchesSender_eq bare here.fits here.port, ih rest, filter_cons]
    cases s.takenFor err with
    | false => rfl
    | true =>
      simp only [if_true, getLast?_cons]
      cases (sockets.filter (takenFor err)).getLast? with
      | none => rfl
      | some t => rfl

theorem Inv.processICMPError_eq (inv : w.Inv) :
    w.udp.processICMPError err = .ok ((w.sockets.filter (takenFor err)).getLast?.map fun s =>
      sendUpErrorNotification err (s.describe false)) := by
  have same : (w.sockets.filter (·.localPort == err.localPort)).filter (takenFor err) =
      w.sockets.filter (takenFor err) := by
    rw [List.filter_filter]
    apply filter_congr
    intro s _
    unfold takenFor fitsError
    cases s.localPort == err.localPort with
    | true => simp
    | false => simp
  unfold processICMPError
  rw [← same]
  rcases inv.lookup err.localPort with ⟨absent, nobody⟩ | found
  · rw [absent, nobody]
    rfl
  · simp only [found, findSender_eq inv.listed, Option.map_none, Option.or_none]

theorem Inv.nobody_iff (inv : w.Inv) (untaken : ∀ s ∈ w.sockets, takenFor err s = false) :
    (∀ s ∈ w.sockets, s.couldSend err = false) ↔
    (PortFits err.remotePort → ∀ s ∈ w.sockets, s.fitsError err = false) := by
  constructor
  · intro nobody fits s member
    by_contra fitting
    rw [Bool.not_eq_false] at fitting
    have passed := untaken s member
    rw [takenFor, fitting, Bool.true_and, Bool.or_eq_false_iff, bne_eq_false_iff_eq] at passed
    have same : s.remotePort = err.remotePort := by
      rw [← (inv.fits s member).2.toInt, ← fits.toInt, passed.2]
    have could := nobody s member
    rw [couldSend, fitting, same, beq_self_eq_true, Bool.or_true] at could
    cases could
  · intro nobody s member
    by_cases fits : PortFits err.remotePort
    · rw [couldSend, nobody fits s member, Bool.false_and]
    · have other : s.remotePort ≠ err.remotePort := fun same => fits (same ▸ (inv.fits s member).2)
      have passed := untaken s member
      rw [takenFor, Bool.and_eq_false_iff, Bool.or_eq_false_iff] at passed
      rw [couldSend, beq_eq_false_iff_ne.mpr other, Bool.or_false, Bool.and_eq_false_iff]
      exact passed.imp_right And.left

theorem Inv.reported_iff (inv : w.Inv) : w.Reported err ↔ w.SenderFound err := by
  unfold Reported SenderFound
  rw [inv.processICMPError_eq]
  cases last : (w.sockets.filter (takenFor err)).getLast? with
  | none => exact inv.nobody_iff (by simpa using last)
  | some s =>
    obtain ⟨member, taken⟩ := mem_filter.mp (mem_of_getLast? last)
    simp only [takenFor, Bool.and_eq_true, Bool.or_eq_true, beq_iff_eq, bne_iff_ne] at taken
    constructor
    · rintro ⟨t, member', could, note⟩
      -- The notification has the id of its socket.
      have id : s.sockId = t.sockId := congrArg (·.2.sockId) note
      have found := (inv.byId t.sockId t.desc).mpr ⟨t, member', rfl, rfl⟩
      obtain rfl :=
        inj_on_of_nodup_map inv.distinct member member' ((inv.desc_iff found member).mpr id)
      simp only [couldSend, Bool.and_eq_true, Bool.or_eq_true, beq_iff_eq] at could
      rcases could.2 with zero | same
      · exact zero
      · exact taken.2.resolve_right fun other => other (congrArg Int.toInt16 same)
    · intro zero
      refine ⟨s, member, ?_, rfl⟩
      simp [couldSend, taken.1, zero]

abbrev SameSockets (u u' : UDP) : Prop :=
  u'.descs = u.descs ∧ u'.socketsByIdMap = u.socketsByIdMap ∧
    u'.socketsByPortMap = u.socketsByPortMap ∧ u'.nextDesc = u.nextDesc

theorem Inv.congr (inv : w.Inv) (same : SameSockets w.udp u) :
    Inv { udp := u, sockets := w.sockets } := by
  obtain ⟨descs, byId, ports, next⟩ := same
  constructor
  · rw [byId]
    exact inv.byId
  · rw [descs]
    exact inv.descs
  · rw [ports]
    exact inv.ports
  · exact inv.fits
  · exact inv.distinct
  · rw [next]
    exact inv.fresh

theorem Inv.insert (inv : w.Inv) (done : w.udp.insertSocket (s.describe flag) = .ok u)
    (desc : s.desc = w.udp.nextDesc) (fits : PortFits s.localPort ∧ PortFits s.remotePort)
    (bare : flag = true → s.Bare) :
    Inv { udp := u, sockets := w.sockets ++ [s] } := by
  unfold insertSocket at done
  split_ifs at done with used
  cases done
  have new : ∀ t ∈ w.sockets, t.desc ≠ w.udp.nextDesc := fun t member => (inv.fresh t member).ne
  have port : (s.describe flag).localPort.toInt = s.localPort := fits.1.toInt
  have free : w.udp.socketsByIdMap.find? s.sockId = none := Option.not_isSome_iff_eq_none.mp used
  constructor
  · intro id n
    have sockId : (s.describe flag).sockId = s.sockId := rfl
    simp only [mem_append, mem_singleton, or_and_right, exists_or, exists_eq_left]
    rw [← inv.byId id n, find?_insert, sockId]
    by_cases same : id = s.sockId
    · simp [same, free, desc]
    · simp [same, Ne.symm same]
  · intro t member
    rw [find?_insert]
    rcases mem_snoc member with old | rfl
    · rw [if_neg (new t old)]
      exact inv.descs t old
    · rw [if_pos desc]
      exact ⟨flag, rfl, bare⟩
  · intro k
    rw [find?_insert, filter_append, map_append, ← inv.ports k, port]
    by_cases same : k = s.localPort
    · simp [same, desc]
    · simp [same, Ne.symm same]
  · intro t member
    rcases mem_snoc member with old | rfl
    · exact inv.fits t old
    · exact fits
  · rw [map_append, nodup_append]
    refine ⟨inv.distinct, nodup_singleton _, fun n old m last same => ?_⟩
    obtain ⟨t, member, rfl⟩ := List.mem_map.mp old
    rw [mem_singleton.mp last] at same
    exact new t member (same.trans desc)
  · intro t member
    rcases mem_snoc member with old | rfl
    · exact (inv.fresh t old).trans (Nat.lt_succ_self _)
    · rw [desc]
      exact Nat.lt_succ_self _

variable {u' : UDP}

theorem insertSocket_port {sd : SockDesc} (done : u.insertSocket sd = .ok u') :
    u'.lastEphemeralPort = u.lastEphemeralPort := by
  unfold insertSocket at done
  split_ifs at done
  cases done
  rfl

theorem choosePort_eq {m : UDP} {srcPort : Int} {chosen : Int16} (fits : PortFits srcPort)
    (done : u.choosePort srcPort.toInt16 = .ok (chosen, m)) :
    ∃ port, m = { u with lastEphemeralPort := port } ∧
      chosen = (if srcPort = 0 then port.toInt else srcPort).toInt16 ∧
      PortFits (if srcPort = 0 then port.toInt else srcPort) := by
  unfold choosePort at done
  split_ifs at done with zero
  · obtain ⟨free, -, same⟩ := map_eq_ok done
    cases same
    refine ⟨chosen, rfl, ?_⟩
    rw [if_pos (fits.eq_zero.mp zero)]
    exact ⟨(Int16.ofInt_toInt chosen).symm, Int16.le_toInt chosen, Int16.toInt_lt chosen⟩
  · cases done
    refine ⟨u.lastEphemeralPort, rfl, ?_⟩
    rw [if_neg (mt fits.eq_zero.mpr zero)]
    exact ⟨rfl, fits⟩

theorem Inv.bind (inv : w.Inv) {gateIndex : Int} {ctrl : UDPControlInfo}
    (fits : PortFits ctrl.srcPort ∧ PortFits ctrl.destPort)
    (next : w.Next (.bind gateIndex ctrl) w') : w'.Inv := by
  obtain ⟨u, done, rfl⟩ := map_eq_ok next
  unfold UDP.bind at done
  split_ifs at done
  obtain ⟨⟨chosen, m⟩, found, inserted⟩ := bind_eq_ok done
  obtain ⟨port, rfl, rfl, fits'⟩ := choosePort_eq fits.1 found
  have same : u.lastEphemeralPort = port := insertSocket_port inserted
  rw [same]
  have inv' : Inv { udp := { w.udp with lastEphemeralPort := port }, sockets := w.sockets } :=
    inv.congr ⟨rfl, rfl, rfl, rfl⟩
  refine inv'.insert (s := w.bound gateIndex ctrl port) inserted rfl ⟨fits', fits.2⟩ fun flag => ?_
  simp only [Bool.and_eq_true, beq_iff_eq, fits.2.eq_zero, isUnspecified] at flag
  obtain ⟨⟨⟨localAddr, remoteAddr⟩, remotePort⟩, id⟩ := flag
  exact ⟨localAddr, remoteAddr, remotePort, id⟩

theorem connected_same (sockId : Int) (addr : IPvXAddress) (port : Int) (s : UdpSocket) :
    (connected sockId addr port s).sockId = s.sockId ∧ (connected sockId addr port s).desc =
      s.desc ∧ (connected sockId addr port s).localPort = s.localPort := by
  unfold connected
  split_ifs
  · exact ⟨rfl, rfl, rfl⟩
  · exact ⟨rfl, rfl, rfl⟩

variable {sockId : Int}

theorem Inv.connect (inv : w.Inv) {addr : IPvXAddress} (fits : PortFits port)
    (next : w.Next (.connect sockId addr port) w') : w'.Inv := by
  obtain ⟨u, done, rfl⟩ := map_eq_ok next
  unfold connect at done
  split at done
  · cases done
  · next desc found =>
    split_ifs at done
    cases done
    have same := connected_same sockId addr port
    have desc' : (fun s : UdpSocket => s.desc) ∘ connected sockId addr port = fun s => s.desc := by
      funext s
      exact (same s).2.1
    constructor
    · intro id n
      rw [inv.byId id n]
      simp only [List.mem_map, exists_exists_and_eq_and, (same _).1, (same _).2.1]
    · intro t member
      obtain ⟨s, member', rfl⟩ := List.mem_map.mp member
      obtain ⟨flag, here, bare⟩ := inv.descs s member'
      rw [(same s).2.1, find?_modify, here]
      unfold connected
      by_cases this : s.sockId = sockId
      · refine ⟨false, ?_, fun no => by cases no⟩
        rw [if_pos ((inv.desc_iff found member').mpr this), if_pos this]
        rfl
      · rw [if_neg (mt (inv.desc_iff found member').mp this), if_neg this]
        exact ⟨flag, rfl, bare⟩
    · intro k
      have port' : (fun s : UdpSocket => s.localPort == k) ∘ connected sockId addr port = fun s =>
          s.localPort == k := by
        funext s
        rw [Function.comp, (same s).2.2]
      rw [List.filter_map, List.map_map, port', desc', inv.ports k]
    · intro t member
      obtain ⟨s, member', rfl⟩ := List.mem_map.mp member
      rw [(same s).2.2]
      refine ⟨(inv.fits s member').1, ?_⟩
      unfold connected
      split_ifs
      · exact fits
      · exact (inv.fits s member').2
    · rw [List.map_map, desc']
      exact inv.distinct
    · intro t member
      obtain ⟨s, member', rfl⟩ := List.mem_map.mp member
      rw [(same s).2.1]
      exact inv.fresh s member'

theorem find?_leavePort {m : KeyMap Int (List Nat)} {k : Int} {desc : Nat} :
    ((leavePort m port desc).find? k).getD [] =
      if k = port then ((m.find? port).getD []).erase desc else (m.find? k).getD [] := by
  unfold leavePort
  dsimp only
  split_ifs with empty same same
  · rw [find?_erase, if_pos same, List.isEmpty_iff.mp empty]
    rfl
  · rw [find?_erase, if_neg same]
  · rw [find?_insert, if_pos same]
    rfl
  · rw [find?_insert, if_neg same]

theorem Inv.unbind (inv : w.Inv) (next : w.Next (.unbind sockId) w') : w'.Inv := by
  obtain ⟨u, done, rfl⟩ := map_eq_ok next
  unfold unbind at done
  split at done
  · cases done
  · next n found =>
    obtain ⟨s, member, id, desc⟩ := (inv.byId sockId n).mp found
    obtain ⟨flag, here, -⟩ := inv.descs s member
    rw [← desc, here] at done
    cases done
    have port : (s.describe flag).localPort.toInt = s.localPort := (inv.fits s member).1.toInt
    have others : ∀ t ∈ w.sockets.filter (·.sockId != sockId), t ∈ w.sockets ∧ t.sockId ≠ sockId ∧
        t.desc ≠ s.desc := by
      intro t kept
      obtain ⟨member', other⟩ := mem_filter.mp kept
      have other' : t.sockId ≠ sockId := bne_iff_ne.mp other
      exact ⟨member', other', fun same =>
        other' ((inv.desc_iff found member').mp (same.trans desc))⟩
    constructor
    · intro id' n'
      rw [find?_erase]
      by_cases same : id' = sockId
      · rw [if_pos same]
        refine ⟨fun no => (by cases no), ?_⟩
        rintro ⟨t, kept, rfl, -⟩
        exact absurd same (others t kept).2.1
      · rw [if_neg same, inv.byId id' n']
        constructor
        · rintro ⟨t, member', rfl, rfl⟩
          exact ⟨t, mem_filter.mpr ⟨member', bne_iff_ne.mpr same⟩, rfl, rfl⟩
        · rintro ⟨t, kept, rest⟩
          exact ⟨t, (others t kept).1, rest⟩
    · intro t kept
      rw [find?_erase, if_neg (others t kept).2.2]
      exact inv.descs t (others t kept).1
    · intro k
      have same : ∀ t ∈ w.sockets, (t.desc != s.desc) = (t.sockId != sockId) := by
        intro t member'
        rw [desc, Bool.eq_iff_iff, bne_iff_ne, bne_iff_ne, ne_eq, ne_eq, inv.desc_iff found member']
      rw [find?_leavePort, port, inv.ports k, inv.ports s.localPort, List.filter_filter]
      split_ifs with this
      · have once : ((w.sockets.filter (·.localPort == s.localPort)).map (·.desc)).Nodup :=
          inv.distinct.sublist (filter_sublist.map _)
        rw [once.erase_eq_filter, List.filter_map, List.filter_filter, this]
        congr 1
        apply filter_congr
        intro t member'
        rw [Function.comp, same t member', Bool.and_comm]
      · congr 1
        apply filter_congr
        intro t member'
        by_cases there : t.localPort = k
        · have other : t.desc ≠ s.desc := by
            intro same'
            rw [inj_on_of_nodup_map inv.distinct member' member same'] at there
            exact this there.symm
          simp [there, ← same t member', other]
        · simp [there]
    · exact fun t kept => inv.fits t (others t kept).1
    · exact inv.distinct.sublist (filter_sublist.map _)
    · exact fun t kept => inv.fresh t (others t kept).1

theorem process_same {acts : List UDPAction} (done : u.processUDPPacket p = .ok (acts, u')) :
    SameSockets u u' := by
  have dropped : ∀ {q : UDPPacket} {ctrl : Option IPCtrl}, u.undeliverable q ctrl = .ok (acts, u') →
      SameSockets u u' := by
    intro q ctrl done
    obtain ⟨a, -, same⟩ := map_eq_ok done
    cases same
    exact ⟨rfl, rfl, rfl, rfl⟩
  unfold processUDPPacket at done
  split_ifs at done
  · cases done
    exact ⟨rfl, rfl, rfl, rfl⟩
  · unfold demultiplex at done
    split at done
    · exact dropped done
    · obtain ⟨a, -, rest⟩ := bind_eq_ok done
      split_ifs at rest
      · exact dropped rest
      · cases rest
        exact ⟨rfl, rfl, rfl, rfl⟩

theorem inv_step {e : UdpEvent} (inv : w.Inv) (fit : w.PortsFit e) (next : w.Next e w') :
    w'.Inv := by
  cases e with
  | bind gateIndex ctrl => exact inv.bind fit next
  | connect sockId addr port => exact inv.connect fit next
  | unbind sockId => exact inv.unbind next
  | packet p =>
    obtain ⟨⟨acts, u⟩, done, rfl⟩ := map_eq_ok next
    exact inv.congr (process_same done)

theorem inv_start : Inv {} where
  byId id n := ⟨fun found => (by cases found), fun ⟨s, member, _⟩ => (by cases member)⟩
  descs s member := by cases member
  ports port := rfl
  fits s member := by cases member
  distinct := nodup_nil
  fresh s member := by cases member

end UdpRun

/-- An IPv4 packet that is compared with IPv4 addresses only goes where it should, and every other
packet ends in an error. -/
theorem packets_demultiplexed (es : List UdpEvent) (fit : Each UdpRun.Next UdpRun.PortsFit {} es) :
    Always UdpRun.Next (fun w => ∀ p : UDPPacket, p.hasBitError = false →
      (w.Demultiplexed p ↔ w.Readable p)) {} es := by
  apply always_of_each (I := UdpRun.Inv) _ _ UdpRun.inv_start fit
  · exact fun w e w' inv fit next => UdpRun.inv_step inv fit next
  · exact fun w inv p clean => inv.demultiplexed_iff clean

theorem packets_demultiplexed_two :
    Always UdpRun.Next (fun w => ∀ p : UDPPacket, p.hasBitError = false →
      (w.Demultiplexed p ↔ w.Readable p)) {}
      [.bind 0 { sockId := 1, srcPort := 7 }, .connect 1 (.v4 0x0a000001) 9] := by
  apply packets_demultiplexed
  exact fun _ _ => ⟨by decide, fun _ _ => ⟨(by decide : PortFits 9), trivial⟩⟩

/-- A socket is bound to port 7 with nothing else specified, and an IPv6 packet for port 7 comes. -/
theorem packets_not_demultiplexed :
    ¬ ∀ es, Always UdpRun.Next (fun w => ∀ p : UDPPacket, p.hasBitError = false →
      p.controlInfo.isSome = true → w.Demultiplexed p) {} es := by
  intro all
  obtain ⟨w, bound⟩ : ∃ w, UdpRun.Next {} (.bind 0 { sockId := 1, srcPort := 7 }) w := ⟨_, rfl⟩
  have along := (all [.bind 0 { sockId := 1, srcPort := 7 }]).2 w bound
  obtain ⟨ctrl, udp, -, done⟩ :=
    along ⟨9, 7, false, some (.ip6 ⟨0, 0, 0, 1⟩ ⟨0, 0, 0, 2⟩ 0)⟩ rfl rfl
  rw [UdpRun.process_ip6 rfl rfl] at done
  cases done

-- A socket that is bound to port 40000 is not found.
example : (bind {} 0 { sockId := 1, srcPort := 40000 } >>= fun u =>
    (u.processUDPPacket ⟨9, 40000, false, some (.ip4 1 2 0)⟩).map (·.1)) =
      .ok [.portUnreachable ⟨9, 40000, false, none⟩ (.ip4 1 2 0)] := rfl

/-- An error is reported right exactly if the socket that the inverted comparison of the remote
ports leaves as the last one has no remote port. -/
theorem errors_reported (es : List UdpEvent) (fit : Each UdpRun.Next UdpRun.PortsFit {} es) :
    Always UdpRun.Next (fun w => ∀ err : ICMPError, w.Reported err ↔ w.SenderFound err) {} es := by
  apply always_of_each (I := UdpRun.Inv) _ _ UdpRun.inv_start fit
  · exact fun w e w' inv fit next => UdpRun.inv_step inv fit next
  · exact fun w inv err => inv.reported_iff

theorem errors_reported_two :
    Always UdpRun.Next (fun w => ∀ err : ICMPError, w.Reported err ↔ w.SenderFound err) {}
      [.bind 0 { sockId := 1, srcPort := 7 }, .connect 1 (.v4 0x0a000001) 9] := by
  apply errors_reported
  exact fun _ _ => ⟨by decide, fun _ _ => ⟨(by decide : PortFits 9), trivial⟩⟩

/-- The only socket has port 9 as its remote port, and the error is about its packet to port 9. -/
theorem errors_not_reported :
    ¬ ∀ es, Always UdpRun.Next (fun w => ∀ err : ICMPError, w.Reported err) {} es := by
  intro all
  let ctrl : UDPControlInfo := { sockId := 1, srcPort := 7, destPort := 9 }
  have reported : UdpRun.Reported _ ⟨.v4 1, .v4 2, 7, 9⟩ := (all [.bind 0 ctrl]).2 _ rfl _
  have nobody : ∀ s ∈ [UdpRun.bound {} 0 ctrl 1024], couldSend ⟨.v4 1, .v4 2, 7, 9⟩ s = false :=
    reported
  exact absurd nobody (by decide)

end Srwsn
