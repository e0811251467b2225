import Srwsn.Lib.Trace
import Srwsn.Lib.Outcome

/-! The IPv4 routing table with its cache of lookups. -/
namespace Srwsn

open List

namespace IPAddress

def prefixMatches (addr addr2 : UInt32) (numbits : Int) : Bool :=
  if numbits < 1 then true
  else if numbits > 31 then addr == addr2
  else
    let mask : UInt32 := ~~~((0xFFFFFFFF : UInt32) >>> UInt32.ofNat numbits.toNat)
    addr &&& mask == addr2 &&& mask

def isUnspecified (addr : UInt32) : Bool := addr == 0

def isMulticast (addr : UInt32) : Bool := addr &&& 0xF0000000 == 0xE0000000

def ALLONES_ADDRESS : UInt32 := 0xFFFFFFFF

def LOOPBACK_ADDRESS : UInt32 := 0x7F000001

def maskedAddrAreEqual (addr1 addr2 netmask : UInt32) : Bool := (addr1 ^^^ addr2) &&& netmask == 0

end IPAddress

inductive RouteSource where
  | MANUAL | IFACENETMASK | RIP | OSPF | BGP | ZEBRA | MANET | MANET2
deriving DecidableEq

structure IPRoute where
  id : Nat
  host : UInt32
  netmask : UInt32
  interface : Option Nat
  source : RouteSource
  installTime : Nat
deriving DecidableEq

structure IPv4Interface where
  id : Nat
  address : UInt32
  netmask : UInt32
deriving DecidableEq

/-- The table, with what it reads from outside: the interface table and the simulation time.
`deleted` records the interfaces that were deleted, and `fresh` is the next route's address. -/
structure RoutingTable where
  routes : List IPRoute := []
  multicastRoutes : List IPRoute := []
  routingCache : UInt32 → Option (Option IPRoute) := fun _ => none
  localAddresses : List UInt32 := []
  timetolive : Nat
  ift : List IPv4Interface
  now : Nat := 0
  deleted : List Nat := []
  fresh : Nat := 0

inductive RoutingFault where
  | defaultRoute | suspiciousRoute | nullInterface | unknownInterface
deriving DecidableEq

namespace RoutingTable

def maxTime : Nat := 9223372036854775807

variable (entry : IPRoute) (s : RoutingTable)

def invalidateCache : RoutingTable :=
  { s with routingCache := fun _ => none, localAddresses := [] }

def fillLocalAddresses : RoutingTable :=
  if s.localAddresses.isEmpty then { s with localAddresses := s.ift.map IPv4Interface.address }
    else s

def isLocalAddress (dest : UInt32) (s : RoutingTable) : Bool :=
  s.fillLocalAddresses.localAddresses.contains dest

/-- Expired, by the texts of the host: none is "*", and "<unspec>" and "127.0.0.1" are one address
each. -/
def expired : Bool :=
  !IPAddress.isUnspecified entry.host && entry.host != IPAddress.LOOPBACK_ADDRESS &&
    decide (s.timetolive < s.now - entry.installTime)

def testValidity : Bool :=
  s.timetolive == maxTime || s.isLocalAddress entry.host || !s.expired entry

def askedValidity : RoutingTable :=
  if s.timetolive == maxTime then s else s.fillLocalAddresses

def search (netmaskOf : IPRoute → UInt32) (dest : UInt32) (s : RoutingTable) :
    Option IPRoute × UInt32 → List IPRoute → Option IPRoute × UInt32
  | best, [] => best
  | best, e :: rest =>
    if s.testValidity e && (IPAddress.maskedAddrAreEqual dest e.host (netmaskOf e) &&
        (best.1.isNone || decide (best.2 < e.netmask))) then
      search netmaskOf dest s (some e, e.netmask) rest
    else search netmaskOf dest s best rest

def searchRoutes (dest : UInt32) (s : RoutingTable) : Option IPRoute :=
  let best := search IPRoute.netmask dest s (none, 0) s.routes
  match best.1 with
  | some route =>
    if route.source == .MANET && route.host != dest then
      (search (fun _ => IPAddress.ALLONES_ADDRESS) dest s (none, best.2) s.routes).1
    else best.1
  | none => best.1

def searchAndCache (dest : UInt32) (s : RoutingTable) : Option IPRoute × RoutingTable :=
  let bestRoute := searchRoutes dest s
  let s := if s.routes.isEmpty then s else s.askedValidity
  (bestRoute, { s with routingCache := Function.update s.routingCache dest (some bestRoute) })

def findBestMatchingRoute (dest : UInt32) (s : RoutingTable) : Option IPRoute × RoutingTable :=
  match s.routingCache dest with
  | none => searchAndCache dest s
  | some none => searchAndCache dest s.invalidateCache
  | some (some route) =>
    if s.testValidity route &&
        (route.source != .MANET ||
          IPAddress.maskedAddrAreEqual dest route.host IPAddress.ALLONES_ADDRESS) then
      (some route, s.askedValidity)
    else searchAndCache dest s.askedValidity

def getDefaultRoute : Option IPRoute :=
  s.routes.find? fun r => IPAddress.isUnspecified r.netmask

def deleteRoute (id : Nat) (s : RoutingTable) : RoutingTable :=
  if s.routes.any (·.id == id) then
    invalidateCache { s with routes := s.routes.eraseP fun r => r.id == id }
  else if s.multicastRoutes.any (·.id == id) then
    invalidateCache { s with multicastRoutes := s.multicastRoutes.eraseP fun r => r.id == id }
  else s

/-- A default route replaces the one there is. -/
def replaceDefault : RoutingTable :=
  if IPAddress.isUnspecified entry.netmask then
    match s.getDefaultRoute with
    | some old => s.deleteRoute old.id
    | none => s
  else s

def insertRoute : RoutingTable :=
  if !IPAddress.isMulticast entry.host then invalidateCache { s with routes := s.routes ++ [entry] }
  else invalidateCache { s with multicastRoutes := s.multicastRoutes ++ [entry] }

/-- The check for host bits, which takes the truth value of `isUnspecified` for the netmask. -/
def suspicious : Bool :=
  entry.host &&& (if IPAddress.isUnspecified entry.netmask then 1 else 0) != 0

def addRoute : Except RoutingFault RoutingTable :=
  if IPAddress.isUnspecified entry.host != IPAddress.isUnspecified entry.netmask then
    .error .defaultRoute
  else if suspicious entry then .error .suspiciousRoute
  else if entry.interface.isNone then .error .nullInterface
  else .ok ((s.replaceDefault entry).insertRoute entry)

/-- The scan starts over after each deletion, so it ends after as many as there are routes. -/
def deleteInterfaceRoutesFrom (interface : Nat) : Nat → RoutingTable → RoutingTable
  | 0, s => s
  | n + 1, s =>
    match s.routes.find? fun r => r.interface == some interface with
    | some route => deleteInterfaceRoutesFrom interface n (s.deleteRoute route.id)
    | none => s

def deleteInterfaceRoutes (interface : Nat) (s : RoutingTable) : RoutingTable :=
  deleteInterfaceRoutesFrom interface s.routes.length s

def netmaskRoutes (fresh : Nat) : List IPv4Interface → List IPRoute
  | [] => []
  | ie :: rest =>
    if ie.netmask != IPAddress.ALLONES_ADDRESS then
      ⟨fresh, ie.address, ie.netmask, some ie.id, .IFACENETMASK, 0⟩ :: netmaskRoutes
        (fresh + 1) rest
    else netmaskRoutes fresh rest

def updateNetmaskRoutes : RoutingTable :=
  invalidateCache { s with
    routes := s.routes.filter (fun r => r.source != .IFACENETMASK) ++ netmaskRoutes s.fresh s.ift
    fresh := s.fresh + s.ift.length }

inductive Event where
  | addRoute (host netmask : UInt32) (interface : Option Nat) (source : RouteSource)
      (installTime : Nat)
  | deleteRoute (id : Nat)
  | interfaceCreated (address netmask : UInt32)
  | interfaceDeleted (id : Nat)
  | interfaceStateChanged
  | interfaceConfigChanged
  | interfaceIPv4ConfigChanged (id : Nat) (address netmask : UInt32)
  | wait (time : Nat)
  | lookup (dest : UInt32)

def step : Event → Except RoutingFault RoutingTable
  | .addRoute host netmask interface source installTime =>
    addRoute ⟨s.fresh, host, netmask, interface, source,
      installTime⟩ { s with fresh := s.fresh + 1 }
  | .deleteRoute id => .ok (s.deleteRoute id)
  | .interfaceCreated address netmask =>
    .ok (updateNetmaskRoutes
      { s with ift := s.ift ++ [⟨s.ift.length + s.deleted.length, address, netmask⟩] })
  | .interfaceDeleted id =>
    if s.ift.any (·.id == id) then
      -- the notification comes before the interface goes
      let s := s.deleteInterfaceRoutes id
      .ok { s with ift := s.ift.filter (fun ie => ie.id != id), deleted := s.deleted ++ [id] }
    else .error .unknownInterface
  | .interfaceStateChanged => .ok s.invalidateCache
  | .interfaceConfigChanged => .ok s.invalidateCache
  | .interfaceIPv4ConfigChanged id address netmask =>
    .ok (updateNetmaskRoutes
      { s with ift := s.ift.map fun ie => if ie.id = id then ⟨id, address, netmask⟩ else ie })
  | .wait time => .ok { s with now := s.now + time }
  | .lookup dest => .ok (s.findBestMatchingRoute dest).2

def Moves (e : Event) (s' : RoutingTable) : Prop := s.step e = .ok s'

structure Pruned (s s' : RoutingTable) : Prop where
  ift : s'.ift = s.ift
  timetolive : s'.timetolive = s.timetolive
  now : s'.now = s.now
  deleted : s'.deleted = s.deleted
  fresh : s'.fresh = s.fresh
  routes : s'.routes.Sublist s.routes
  multicastRoutes : s'.multicastRoutes.Sublist s.multicastRoutes
  caches : (s'.routes = s.routes ∧ s'.routingCache = s.routingCache ∧
      s'.localAddresses = s.localAddresses) ∨
    (s'.routingCache = fun _ => none) ∧ s'.localAddresses = []

section Deletion

variable {s s' s'' : RoutingTable}

theorem Pruned.refl (s : RoutingTable) : Pruned s s :=
  ⟨rfl, rfl, rfl, rfl, rfl, .refl _, .refl _, .inl ⟨rfl, rfl, rfl⟩⟩

theorem Pruned.trans (first : Pruned s s') (second : Pruned s' s'') : Pruned s s'' where
  ift := second.ift.trans first.ift
  timetolive := second.timetolive.trans first.timetolive
  now := second.now.trans first.now
  deleted := second.deleted.trans first.deleted
  fresh := second.fresh.trans first.fresh
  routes := second.routes.trans first.routes
  multicastRoutes := second.multicastRoutes.trans first.multicastRoutes
  caches := by
    obtain ⟨routes, cache, addresses⟩ | cleared := second.caches
    · rw [routes, cache, addresses]
      exact first.caches
    · exact .inr cleared

theorem deleteRoute_pruned (s : RoutingTable) (id : Nat) : Pruned s (s.deleteRoute id) := by
  unfold deleteRoute
  split
  · exact ⟨rfl, rfl, rfl, rfl, rfl, eraseP_sublist, .refl _, .inr ⟨rfl, rfl⟩⟩
  · split
    · exact ⟨rfl, rfl, rfl, rfl, rfl, .refl _, eraseP_sublist, .inr ⟨rfl, rfl⟩⟩
    · exact .refl s

theorem deleteRoute_found {r : IPRoute} (member : r ∈ s.routes) :
    (s.deleteRoute r.id).routes.length + 1 = s.routes.length ∧
    (s.deleteRoute r.id).localAddresses = [] := by
  have found : s.routes.any (·.id == r.id) = true := List.any_eq_true.mpr ⟨r, member, by simp⟩
  have shorter := length_eraseP_of_mem (p := fun x : IPRoute => x.id == r.id) member (by simp)
  have some := length_pos_of_mem member
  unfold deleteRoute
  rw [if_pos found]
  refine ⟨?_, rfl⟩
  simp only [invalidateCache]
  omega

theorem deleteRoute_multicastRoutes {r : IPRoute} (member : r ∈ s.routes) :
    (s.deleteRoute r.id).multicastRoutes = s.multicastRoutes := by
  have found : s.routes.any (·.id == r.id) = true := List.any_eq_true.mpr ⟨r, member, by simp⟩
  unfold deleteRoute
  rw [if_pos found]
  rfl

theorem replaceDefault_pruned (s : RoutingTable) (entry : IPRoute) :
    Pruned s (s.replaceDefault entry) := by
  unfold replaceDefault
  split
  · split
    · exact deleteRoute_pruned s _
    · exact .refl s
  · exact .refl s

theorem deleteInterfaceRoutesFrom_pruned (s : RoutingTable) (interface n : Nat) :
    Pruned s (deleteInterfaceRoutesFrom interface n s) := by
  induction n generalizing s with
  | zero => exact .refl s
  | succ n ih =>
    unfold deleteInterfaceRoutesFrom
    split
    · exact (deleteRoute_pruned s _).trans (ih _)
    · exact .refl s

theorem deleteInterfaceRoutesFrom_multicastRoutes (s : RoutingTable) (interface n : Nat) :
    (deleteInterfaceRoutesFrom interface n s).multicastRoutes = s.multicastRoutes := by
  induction n generalizing s with
  | zero => rfl
  | succ n ih =>
    unfold deleteInterfaceRoutesFrom
    split
    · rename_i route found
      exact (ih _).trans (deleteRoute_multicastRoutes (mem_of_find?_eq_some found))
    · rfl

theorem deleteInterfaceRoutes_clears {interface : Nat} {r : IPRoute} (member : r ∈ s.routes)
    (points : r.interface = some interface) :
    (s.deleteInterfaceRoutes interface).localAddresses = [] := by
  have some : (s.routes.find? fun r => r.interface == some interface).isSome := by
    rw [find?_isSome]
    exact ⟨r, member, by simp [points]⟩
  obtain ⟨first, found⟩ := Option.isSome_iff_exists.mp some
  obtain ⟨n, length⟩ := Nat.exists_eq_succ_of_ne_zero (length_pos_of_mem member).ne'
  unfold deleteInterfaceRoutes
  rw [length, deleteInterfaceRoutesFrom, found]
  have cleared := (deleteRoute_found (mem_of_find?_eq_some found)).2
  have rest := deleteInterfaceRoutesFrom_pruned (s.deleteRoute first.id) interface n
  obtain ⟨-, -, same⟩ | ⟨-, empty⟩ := rest.caches
  · exact same.trans cleared
  · exact empty

theorem deleteInterfaceRoutesFrom_none {interface n : Nat} (enough : s.routes.length ≤ n) :
    ∀ r ∈ (deleteInterfaceRoutesFrom interface n s).routes, r.interface ≠ some interface := by
  induction n generalizing s with
  | zero =>
    have empty : s.routes = [] := length_eq_zero_iff.mp (by omega)
    simp [deleteInterfaceRoutesFrom, empty]
  | succ n ih =>
    unfold deleteInterfaceRoutesFrom
    split
    · rename_i route found
      have shorter := (deleteRoute_found (mem_of_find?_eq_some found)).1
      exact ih (by omega)
    · rename_i none
      simpa using find?_eq_none.mp none

end Deletion

theorem addRoute_cases {s s' : RoutingTable} {entry : IPRoute} (added : s.addRoute entry = .ok s') :
    IPAddress.isUnspecified entry.host = IPAddress.isUnspecified entry.netmask ∧
      s' = (s.replaceDefault entry).insertRoute entry := by
  unfold addRoute at added
  split_ifs at added with unspecified
  cases added
  exact ⟨by simpa using unspecified, rfl⟩

structure Initial (s : RoutingTable) : Prop where
  routes : s.routes = []
  multicastRoutes : s.multicastRoutes = []
  routingCache : ∀ dest, s.routingCache dest = none
  localAddresses : s.localAddresses = []
  deleted : s.deleted = []

end RoutingTable

end Srwsn
