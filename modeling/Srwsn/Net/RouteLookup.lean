import Srwsn.Lib.Scan
import Srwsn.Net.RoutingTable

/-! What a lookup in the IPv4 routing table returns, in every state that the table can reach. -/
namespace Srwsn

open Scan List

def prefixMask (n : Nat) : UInt32 := UInt32.ofNat (2 ^ 32 - 2 ^ (32 - n))

def Contiguous (netmask : UInt32) : Prop := ∃ n ≤ 32, netmask = prefixMask n

def prefixLength (netmask : UInt32) : Nat := (List.range 32).countP netmask.toNat.testBit

theorem prefixMask_toNat (n : Nat) : (prefixMask n).toNat = 2 ^ 32 - 2 ^ (32 - n) := by
  have positive : 0 < 2 ^ (32 - n) := Nat.two_pow_pos _
  have small : 2 ^ 32 - 2 ^ (32 - n) < UInt32.size := by
    change 2 ^ 32 - 2 ^ (32 - n) < 4294967296
    omega
  exact UInt32.toNat_ofNat_of_lt small

theorem prefixLength_prefixMask : ∀ n ≤ 32, prefixLength (prefixMask n) = n := by decide +kernel

theorem netmask_lt_iff {a b : UInt32} (ha : Contiguous a) (hb : Contiguous b) :
    a.toNat < b.toNat ↔ prefixLength a < prefixLength b := by
  obtain ⟨m, hm, rfl⟩ := ha
  obtain ⟨n, hn, rfl⟩ := hb
  have order : 2 ^ (32 - n) < 2 ^ (32 - m) ↔ m < n := by
    rw [Nat.pow_lt_pow_iff_right (by decide)]
    omega
  have bound : 2 ^ (32 - m) ≤ 2 ^ 32 := Nat.pow_le_pow_right (by decide) (by omega)
  simp only [prefixMask_toNat, prefixLength_prefixMask m hm, prefixLength_prefixMask n hn]
  omega

namespace RoutingTable

variable {s : RoutingTable} {dest : UInt32} {r : IPRoute}

/-- A route is valid now: it is not expired, or its host is the address of an interface. -/
def valid (entry : IPRoute) (s : RoutingTable) : Bool :=
  s.timetolive == maxTime || (s.ift.map IPv4Interface.address).contains entry.host ||
    !s.expired entry

def matchesRoute (dest : UInt32) (entry : IPRoute) : Bool :=
  IPAddress.maskedAddrAreEqual dest entry.host entry.netmask

def Synced (s : RoutingTable) : Prop :=
  s.timetolive = maxTime ∨ s.localAddresses = [] ∨
    ∀ a, a ∈ s.localAddresses ↔ a ∈ s.ift.map IPv4Interface.address

theorem testValidity_eq (synced : Synced s) : s.testValidity r = s.valid r := by
  obtain unlimited | empty | filled := synced
  · simp [testValidity, valid, unlimited]
  · simp [testValidity, valid, isLocalAddress, fillLocalAddresses, empty]
  · have same : s.isLocalAddress r.host = (s.ift.map IPv4Interface.address).contains r.host := by
      unfold isLocalAddress fillLocalAddresses
      split
      · rfl
      · apply Bool.eq_iff_iff.mpr
        simpa using filled r.host
    rw [testValidity, valid, same]

def Standing (s : RoutingTable) (dest : UInt32) (r : IPRoute) : Prop :=
  First (fun x => matchesRoute dest x ∧ (x = r ∨ s.valid x)) (fun x => x.netmask.toNat) s.routes
    (some r)

structure Inv (s : RoutingTable) : Prop where
  plain : ∀ r ∈ s.routes, Contiguous r.netmask ∧ r.source ≠ .MANET
  masks : ∀ ie ∈ s.ift, Contiguous ie.netmask
  synced : Synced s
  standing : ∀ dest r, s.routingCache dest = some (some r) → Standing s dest r

def Answers (s : RoutingTable) (dest : UInt32) : Option IPRoute → Prop :=
  First (fun x => matchesRoute dest x ∧ s.valid x) (fun x => prefixLength x.netmask) s.routes

def Correct (s : RoutingTable) : Prop := ∀ dest, Answers s dest (s.findBestMatchingRoute dest).1

variable {s' : RoutingTable}

theorem Standing.shrink (standing : Standing s dest r) (routes : s'.routes = s.routes)
    (fewer : ∀ x, s'.valid x → s.valid x) : Standing s' dest r := by
  unfold Standing at standing ⊢
  rw [routes]
  apply standing.weaken
  · exact ⟨standing.mem.2.1, .inl rfl⟩
  · rintro x - ⟨matched, same | valid⟩
    · exact ⟨matched, .inl same⟩
    · exact ⟨matched, .inr (fewer x valid)⟩

theorem search_first {seen rest : List IPRoute} {best : Option IPRoute × UInt32}
    (first : First (fun x => matchesRoute dest x ∧ s.testValidity x) (fun x => x.netmask.toNat)
      seen best.1)
    (mask : ∀ b, best.1 = some b → best.2 = b.netmask) :
    First (fun x => matchesRoute dest x ∧ s.testValidity x) (fun x => x.netmask.toNat)
      (seen ++ rest) (search IPRoute.netmask dest s best rest).1 := by
  induction rest generalizing seen best with
  | nil => simpa [search] using first
  | cons e rest ih =>
    have shape : seen ++ e :: rest = (seen ++ [e]) ++ rest := by simp
    rw [shape, search]
    split
    · rename_i taken
      simp only [Bool.and_eq_true, Bool.or_eq_true, decide_eq_true_eq] at taken
      obtain ⟨valid, matched, above⟩ := taken
      apply ih
      · apply first.take ⟨matched, valid⟩
        intro b found
        rw [found, mask b found, UInt32.lt_iff_toNat_lt] at above
        exact above.resolve_left (by simp)
      · rintro _ ⟨⟩
        rfl
    · rename_i skipped
      apply ih _ mask
      apply first.skip
      rintro ⟨matched, valid⟩
      have matched : IPAddress.maskedAddrAreEqual dest e.host e.netmask = true := matched
      cases found : best.1 with
      | none => exact absurd (by simp [found, valid, matched]) skipped
      | some b =>
        refine ⟨b, rfl, ?_⟩
        apply Nat.le_of_not_lt
        intro above
        rw [← UInt32.lt_iff_toNat_lt, ← mask b found] at above
        exact absurd (by simp [above, valid, matched]) skipped

theorem searchRoutes_first (synced : Synced s) (plain : ∀ r ∈ s.routes, r.source ≠ .MANET) :
    First (fun x => matchesRoute dest x ∧ s.valid x) (fun x => x.netmask.toNat) s.routes
    (s.searchRoutes dest) := by
  have first := @search_first s dest [] s.routes (none, 0) nofun nofun
  simp only [nil_append, testValidity_eq synced] at first
  cases found : (search IPRoute.netmask dest s (none, 0) s.routes).1 with
  | none =>
    rw [found] at first
    simpa only [searchRoutes, found] using first
  | some r =>
    rw [found] at first
    have other : (r.source == .MANET) = false := by simpa using plain r first.mem.1
    simpa only [searchRoutes, found, other, Bool.false_and, Bool.false_eq_true, if_false]
      using first

theorem First.standing (first : First (fun x => matchesRoute dest x ∧ s.valid x)
    (fun x => x.netmask.toNat) s.routes (some r)) : Standing s dest r := by
  apply first.weaken
  · exact ⟨first.mem.2.1, .inl rfl⟩
  · rintro x - ⟨matched, rfl | valid⟩
    · exact first.mem.2
    · exact ⟨matched, valid⟩

theorem Standing.first (standing : Standing s dest r) (valid : s.valid r) :
    First (fun x => matchesRoute dest x ∧ s.valid x) (fun x => x.netmask.toNat) s.routes
    (some r) := by
  apply First.weaken standing
  · exact ⟨standing.mem.2.1, valid⟩
  · exact fun x _ h => ⟨h.1, .inr h.2⟩

structure Looked (s s' : RoutingTable) : Prop where
  routes : s'.routes = s.routes
  ift : s'.ift = s.ift
  timetolive : s'.timetolive = s.timetolive
  now : s'.now = s.now
  localAddresses : s'.localAddresses = s.localAddresses ∨ s'.localAddresses = [] ∨
    s'.localAddresses = s.ift.map IPv4Interface.address

theorem fillLocalAddresses_looked : Looked s s.fillLocalAddresses := by
  unfold fillLocalAddresses
  split
  · exact ⟨rfl, rfl, rfl, rfl, .inr (.inr rfl)⟩
  · exact ⟨rfl, rfl, rfl, rfl, .inl rfl⟩

theorem askedValidity_looked : Looked s s.askedValidity := by
  unfold askedValidity
  split
  · exact ⟨rfl, rfl, rfl, rfl, .inl rfl⟩
  · exact fillLocalAddresses_looked

theorem askedValidity_routingCache : s.askedValidity.routingCache = s.routingCache := by
  unfold askedValidity fillLocalAddresses
  split_ifs <;> rfl

theorem Looked.valid (looked : Looked s s') (x : IPRoute) : s'.valid x = s.valid x := by
  simp only [RoutingTable.valid, expired, looked.ift, looked.timetolive, looked.now]

theorem Looked.synced (looked : Looked s s') (synced : Synced s) : Synced s' := by
  unfold Synced at synced ⊢
  rw [looked.timetolive, looked.ift]
  obtain same | empty | filled := looked.localAddresses
  · rwa [same]
  · exact .inr (.inl empty)
  · exact .inr (.inr (by simp [filled]))

theorem Looked.inv (looked : Looked s s') (inv : Inv s)
    (standing : ∀ dest r, s'.routingCache dest = some (some r) → Standing s dest r) : Inv s' where
  plain r hr := inv.plain r (looked.routes ▸ hr)
  masks ie hie := inv.masks ie (looked.ift ▸ hie)
  synced := looked.synced inv.synced
  standing dest r cached :=
    (standing dest r cached).shrink looked.routes fun x => by simp [looked.valid]

theorem searchAndCache_spec (inv : Inv s) :
    First (fun x => matchesRoute dest x ∧ s.valid x) (fun x => x.netmask.toNat) s.routes
      (s.searchAndCache dest).1 ∧ Inv (s.searchAndCache dest).2 := by
  have first := @searchRoutes_first s dest inv.synced fun r hr => (inv.plain r hr).2
  refine ⟨first, ?_⟩
  have looked : Looked s (s.searchAndCache dest).2 := by
    unfold searchAndCache
    cases s.routes.isEmpty with
    | true => exact ⟨rfl, rfl, rfl, rfl, .inl rfl⟩
    | false =>
      have asked := @askedValidity_looked s
      exact ⟨asked.routes, asked.ift, asked.timetolive, asked.now, asked.localAddresses⟩
  have cache : (s.searchAndCache dest).2.routingCache =
      Function.update s.routingCache dest (some (s.searchRoutes dest)) := by
    unfold searchAndCache
    cases s.routes.isEmpty with
    | true => rfl
    | false => simp [askedValidity_routingCache]
  apply looked.inv inv
  intro other r cached
  rw [cache] at cached
  by_cases same : other = dest
  · subst same
    rw [Function.update_self] at cached
    rw [Option.some.inj cached] at first
    exact First.standing first
  · rw [Function.update_of_ne same] at cached
    exact inv.standing other r cached

theorem Inv.invalidate (inv : Inv s) : Inv s.invalidateCache :=
  ⟨inv.plain, inv.masks, .inr (.inl rfl), nofun⟩

theorem Inv.asked (inv : Inv s) : Inv s.askedValidity := by
  apply askedValidity_looked.inv inv
  rw [askedValidity_routingCache]
  exact inv.standing

theorem findBestMatchingRoute_spec (inv : Inv s) :
    First (fun x => matchesRoute dest x ∧ s.valid x) (fun x => x.netmask.toNat) s.routes
      (s.findBestMatchingRoute dest).1 ∧ Inv (s.findBestMatchingRoute dest).2 := by
  unfold findBestMatchingRoute
  cases cached : s.routingCache dest with
  | none => exact searchAndCache_spec inv
  | some entry =>
    cases entry with
    | none => exact searchAndCache_spec inv.invalidate
    | some r =>
      have standing := inv.standing dest r cached
      have other := (inv.plain r standing.mem.1).2
      simp only [testValidity_eq inv.synced]
      by_cases valid : s.valid r
      · have taken : (s.valid r && (r.source != .MANET ||
            IPAddress.maskedAddrAreEqual dest r.host IPAddress.ALLONES_ADDRESS)) = true := by
          simp [valid, other]
        rw [if_pos taken]
        exact ⟨standing.first valid, inv.asked⟩
      · have expired : ¬ (s.valid r && (r.source != .MANET ||
            IPAddress.maskedAddrAreEqual dest r.host IPAddress.ALLONES_ADDRESS)) = true := by
          simp [valid]
        rw [if_neg expired]
        have searched := @searchAndCache_spec _ dest inv.asked
        have looked := @askedValidity_looked s
        simpa only [looked.valid, looked.routes] using searched

theorem Inv.correct (inv : Inv s) : Correct s := by
  intro dest
  apply First.rerank (findBestMatchingRoute_spec inv).1
  exact fun x hx y hy => netmask_lt_iff (inv.plain x hx).1 (inv.plain y hy).1

def Event.Plain : Event → Prop
  | .addRoute _ netmask _ source _ => Contiguous netmask ∧ source ≠ .MANET
  | .interfaceCreated _ netmask => Contiguous netmask
  | .interfaceIPv4ConfigChanged _ _ netmask => Contiguous netmask
  | _ => True

def Refreshed (s : RoutingTable) : Event → Prop
  | .interfaceDeleted id => s.timetolive = maxTime ∨ s.localAddresses = [] ∨
      (∃ r ∈ s.routes, r.interface = some id) ∨
      ∀ ie ∈ s.ift, ie.id = id → ∃ other ∈ s.ift, other.id ≠ id ∧ other.address = ie.address
  | _ => True

theorem Pruned.inv (pruned : Pruned s s') (inv : Inv s) : Inv s' := by
  have plain : ∀ r ∈ s'.routes, Contiguous r.netmask ∧ r.source ≠ .MANET :=
    fun r hr => inv.plain r (pruned.routes.subset hr)
  have masks : ∀ ie ∈ s'.ift, Contiguous ie.netmask := fun ie hie => inv.masks ie (pruned.ift ▸ hie)
  obtain ⟨routes, cache, addresses⟩ | ⟨cache, addresses⟩ := pruned.caches
  · have looked : Looked s s' := ⟨routes, pruned.ift, pruned.timetolive, pruned.now, .inl addresses⟩
    exact looked.inv inv (by simpa only [cache] using inv.standing)
  · exact ⟨plain, masks, .inr (.inl addresses), by simp [cache]⟩

theorem Inv.insertRoute {entry : IPRoute} (inv : Inv s)
    (plain : Contiguous entry.netmask ∧ entry.source ≠ .MANET) : Inv (s.insertRoute entry) := by
  unfold RoutingTable.insertRoute
  split
  · refine ⟨fun r hr => ?_, inv.masks, .inr (.inl rfl), nofun⟩
    obtain hr | hr := mem_append.mp hr
    · exact inv.plain r hr
    · exact mem_singleton.mp hr ▸ plain
  · exact ⟨inv.plain, inv.masks, .inr (.inl rfl), nofun⟩

theorem mem_netmaskRoutes {fresh : Nat} {ift : List IPv4Interface}
    (member : r ∈ netmaskRoutes fresh ift) :
    r.source = .IFACENETMASK ∧ ∃ ie ∈ ift, r.netmask = ie.netmask := by
  induction ift generalizing fresh with
  | nil => cases member
  | cons ie ift ih =>
    unfold netmaskRoutes at member
    split at member
    · cases member with
      | head => exact ⟨rfl, ie, mem_cons_self, rfl⟩
      | tail _ member =>
        obtain ⟨source, other, known, same⟩ := ih member
        exact ⟨source, other, mem_cons_of_mem ie known, same⟩
    · obtain ⟨source, other, known, same⟩ := ih member
      exact ⟨source, other, mem_cons_of_mem ie known, same⟩

theorem updateNetmaskRoutes_inv (plain : ∀ r ∈ s.routes, Contiguous r.netmask ∧ r.source ≠ .MANET)
    (masks : ∀ ie ∈ s.ift, Contiguous ie.netmask) : Inv s.updateNetmaskRoutes := by
  refine ⟨fun r hr => ?_, masks, .inr (.inl rfl), nofun⟩
  obtain hr | hr := mem_append.mp hr
  · exact plain r (mem_of_mem_filter hr)
  · obtain ⟨source, ie, known, same⟩ := mem_netmaskRoutes hr
    exact ⟨same ▸ masks ie known, by simp [source]⟩

theorem Inv.removeInterface {id : Nat} {deleted : List Nat} (inv : Inv s)
    (synced : Synced { s with ift := s.ift.filter (fun ie => ie.id != id), deleted := deleted }) :
    Inv { s with ift := s.ift.filter (fun ie => ie.id != id), deleted := deleted } where
  plain := inv.plain
  masks ie hie := inv.masks ie (mem_of_mem_filter hie)
  synced := synced
  standing dest r cached := by
    refine Standing.shrink (s := s) (inv.standing dest r cached) rfl fun x valid => ?_
    simp only [RoutingTable.valid, expired, Bool.or_eq_true, contains_iff_mem, List.mem_map,
      mem_filter] at valid ⊢
    obtain (unlimited | ⟨ie, ⟨known, -⟩, same⟩) | fresh := valid
    · exact .inl (.inl unlimited)
    · exact .inl (.inr ⟨ie, known, same⟩)
    · exact .inr fresh

theorem interfaceDeleted_synced {id : Nat} (inv : Inv s)
    (refreshed : s.Refreshed (.interfaceDeleted id)) : Synced { s.deleteInterfaceRoutes id with
      ift := (s.deleteInterfaceRoutes id).ift.filter (fun ie => ie.id != id)
      deleted := (s.deleteInterfaceRoutes id).deleted ++ [id] } := by
  have pruned : Pruned s (s.deleteInterfaceRoutes id) := deleteInterfaceRoutesFrom_pruned s id _
  obtain unlimited | empty | ⟨r, member, points⟩ | shared := refreshed
  · exact .inl (pruned.timetolive.trans unlimited)
  · obtain ⟨-, -, same⟩ | ⟨-, cleared⟩ := pruned.caches
    · exact .inr (.inl (same.trans empty))
    · exact .inr (.inl cleared)
  · exact .inr (.inl (deleteInterfaceRoutes_clears member points))
  · obtain ⟨-, -, same⟩ | ⟨-, cleared⟩ := pruned.caches
    · obtain unlimited | empty | filled := inv.synced
      · exact .inl (pruned.timetolive.trans unlimited)
      · exact .inr (.inl (same.trans empty))
      · -- another interface has the address
        refine .inr (.inr fun a => ?_)
        rw [same, filled, pruned.ift]
        simp only [List.mem_map, mem_filter, bne_iff_ne]
        constructor
        · rintro ⟨ie, known, rfl⟩
          by_cases gone : ie.id = id
          · obtain ⟨other, known', different, address⟩ := shared ie known gone
            exact ⟨other, ⟨known', different⟩, address⟩
          · exact ⟨ie, ⟨known, gone⟩, rfl⟩
        · rintro ⟨ie, ⟨known, -⟩, rfl⟩
          exact ⟨ie, known, rfl⟩
    · exact .inr (.inl cleared)

theorem Inv.wait (inv : Inv s) (time : Nat) : Inv { s with now := s.now + time } where
  plain := inv.plain
  masks := inv.masks
  synced := inv.synced
  standing dest r cached := by
    refine Standing.shrink (s := s) (inv.standing dest r cached) rfl fun x valid => ?_
    simp only [RoutingTable.valid, expired, Bool.or_eq_true, Bool.not_eq_true',
      Bool.and_eq_false_iff, decide_eq_false_iff_not] at valid ⊢
    obtain early | fresh := valid
    · exact .inl early
    · exact .inr (fresh.imp_right fun old => by omega)

theorem step_inv {e : Event} {s' : RoutingTable} (inv : Inv s) (plain : e.Plain)
    (refreshed : s.Refreshed e) (moves : Moves s e s') : Inv s' := by
  cases e with
  | addRoute host netmask interface source installTime =>
    have kept : Inv { s with fresh := s.fresh + 1 } :=
      ⟨inv.plain, inv.masks, inv.synced, inv.standing⟩
    obtain ⟨-, rfl⟩ := addRoute_cases moves
    exact ((replaceDefault_pruned _ _).inv kept).insertRoute plain
  | deleteRoute id =>
    cases moves
    exact (deleteRoute_pruned s id).inv inv
  | interfaceCreated address netmask =>
    cases moves
    refine updateNetmaskRoutes_inv inv.plain fun ie hie => ?_
    obtain hie | hie := mem_append.mp hie
    · exact inv.masks ie hie
    · exact mem_singleton.mp hie ▸ plain
  | interfaceDeleted id =>
    simp only [Moves, step] at moves
    split at moves
    · cases moves
      have pruned : Pruned s (s.deleteInterfaceRoutes id) := deleteInterfaceRoutesFrom_pruned s id _
      exact (pruned.inv inv).removeInterface (interfaceDeleted_synced inv refreshed)
    · cases moves
  | interfaceStateChanged =>
    cases moves
    exact inv.invalidate
  | interfaceConfigChanged =>
    cases moves
    exact inv.invalidate
  | interfaceIPv4ConfigChanged id address netmask =>
    cases moves
    refine updateNetmaskRoutes_inv inv.plain fun ie hie => ?_
    obtain ⟨old, known, rfl⟩ := List.mem_map.mp hie
    split
    · exact plain
    · exact inv.masks old known
  | wait time =>
    cases moves
    exact inv.wait time
  | lookup dest =>
    cases moves
    exact (findBestMatchingRoute_spec inv).2

theorem Initial.inv (initial : Initial s) (masks : ∀ ie ∈ s.ift, Contiguous ie.netmask) :
    Inv s where
  plain := by simp [initial.routes]
  masks := masks
  synced := .inr (.inl initial.localAddresses)
  standing := by simp [initial.routingCache]

/-- Whatever was added, deleted, notified and looked up before, a lookup returns the first valid
route of the longest prefix. -/
theorem lookups_correct (initial : Initial s) (masks : ∀ ie ∈ s.ift, Contiguous ie.netmask)
    {es : List Event} (plain : ∀ e ∈ es, e.Plain) (refreshed : Trace.Each Moves Refreshed s es) :
    Trace.Always Moves Correct s es := by
  have inv := initial.inv masks
  clear initial masks
  induction es generalizing s with
  | nil => exact inv.correct
  | cons e es ih =>
    refine ⟨inv.correct, fun s' moves => ?_⟩
    obtain ⟨here, rest⟩ := refreshed s' moves
    exact ih (fun e he => plain e (mem_cons_of_mem _ he)) rest (step_inv inv (plain e mem_cons_self)
      here moves)

def twoInterfaces : RoutingTable where
  timetolive := 5
  ift := [⟨0, 0x0A000001, 0xFFFFFFFF⟩, ⟨1, 0x0A000002, 0xFFFFFFFF⟩]

theorem twoInterfaces_initial : Initial twoInterfaces := ⟨rfl, rfl, fun _ => rfl, rfl, rfl⟩

theorem twoInterfaces_masks : ∀ ie ∈ twoInterfaces.ift, Contiguous ie.netmask := by
  simp only [twoInterfaces, mem_cons, not_mem_nil, or_false]
  rintro ie (rfl | rfl)
  · exact ⟨32, by decide, by decide⟩
  · exact ⟨32, by decide, by decide⟩

/-- A route to 10.0.0.1 through the second interface is looked up, the first interface is deleted,
and the route's time passes. -/
def addressGone : List Event :=
  [.addRoute 0x0A000001 0xFFFFFFFF (some 1) .MANUAL 0, .lookup 0x0A000001, .interfaceDeleted 0,
    .wait 6]

theorem addressGone_plain : ∀ e ∈ addressGone, e.Plain := by
  simp only [addressGone, mem_cons, not_mem_nil, or_false]
  rintro e (rfl | rfl | rfl | rfl)
  · exact ⟨⟨32, by decide, by decide⟩, by decide⟩
  · trivial
  · trivial
  · trivial

theorem addressGone_end :
    ∃ s route, addressGone.foldlM (fun s e => (step s e).toOption) twoInterfaces = some s ∧
    (s.findBestMatchingRoute 0x0A000001).1 = some route ∧ s.valid route = false :=
  ⟨_, ⟨0, 0x0A000001, 0xFFFFFFFF, some 1, .MANUAL, 0⟩, rfl, rfl, rfl⟩

/-- The address is still taken for a local one, so that the route that expired is returned. -/
theorem addressGone_not_correct :
    Initial twoInterfaces ∧ (∀ ie ∈ twoInterfaces.ift, Contiguous ie.netmask) ∧
    (∀ e ∈ addressGone, e.Plain) ∧ ¬ Trace.Always Moves Correct twoInterfaces addressGone := by
  refine ⟨twoInterfaces_initial, twoInterfaces_masks, addressGone_plain, fun always => ?_⟩
  obtain ⟨s, route, ran, found, expired⟩ := addressGone_end
  have answered := always.last (fun _ _ _ => Outcome.eq_ok_of_toOption) ran 0x0A000001
  rw [found] at answered
  have valid := (First.mem answered).2.2
  rw [expired] at valid
  cases valid

def addressLeft : List Event :=
  [.addRoute 0x0A000001 0xFFFFFFFF (some 1) .MANUAL 0,
    .addRoute 0x0A000003 0xFFFFFFFF (some 0) .MANUAL 0,
    .lookup 0x0A000001, .interfaceDeleted 0, .wait 6]

theorem addressLeft_correct : Trace.Always Moves Correct twoInterfaces addressLeft := by
  refine lookups_correct twoInterfaces_initial twoInterfaces_masks ?_ ?_
  · simp only [addressLeft, mem_cons, not_mem_nil, or_false]
    rintro e (rfl | rfl | rfl | rfl | rfl)
    · exact ⟨⟨32, by decide, by decide⟩, by decide⟩
    · exact ⟨⟨32, by decide, by decide⟩, by decide⟩
    · trivial
    · trivial
    · trivial
  · refine .cons (fun _ => Except.ok.inj) trivial ?_
    refine .cons (fun _ => Except.ok.inj) trivial ?_
    refine .cons (fun _ => Except.ok.inj) trivial ?_
    refine .cons (fun _ => Except.ok.inj) ?_ ?_
    · exact .inr (.inr (.inl ⟨⟨1, 0x0A000003, 0xFFFFFFFF, some 0, .MANUAL, 0⟩, by decide, rfl⟩))
    · exact .cons (fun _ => Except.ok.inj) trivial trivial

end RoutingTable

end Srwsn
