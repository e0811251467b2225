import Mathlib

/-! The IPv6 routing table: routes sorted by prefix length, and a search that removes expired
on-link prefixes from the list it walks. -/
namespace Srwsn

open List

structure IPv6Address where
  d0 : UInt32
  d1 : UInt32
  d2 : UInt32
  d3 : UInt32
deriving DecidableEq

namespace IPv6Address

def UNSPECIFIED_ADDRESS : IPv6Address := ⟨0, 0, 0, 0⟩

def constructMask (prefixLength : Fin 129) : IPv6Address :=
  let n := prefixLength.val
  if n = 0 then ⟨0, 0, 0, 0⟩
  else if n ≤ 32 then ⟨0xFFFFFFFF <<< UInt32.ofNat (32 - n), 0, 0, 0⟩
  else if n ≤ 64 then ⟨0xFFFFFFFF, 0xFFFFFFFF <<< UInt32.ofNat (64 - n), 0, 0⟩
  else if n ≤ 96 then ⟨0xFFFFFFFF, 0xFFFFFFFF, 0xFFFFFFFF <<< UInt32.ofNat (96 - n), 0⟩
  else ⟨0xFFFFFFFF, 0xFFFFFFFF, 0xFFFFFFFF, 0xFFFFFFFF <<< UInt32.ofNat (128 - n)⟩

def matchesPrefix (d dest : IPv6Address) (prefixLength : Fin 129) : Bool :=
  let mask := constructMask prefixLength
  ((d.d0 ^^^ dest.d0) &&& mask.d0) ||| ((d.d1 ^^^ dest.d1) &&& mask.d1) |||
    ((d.d2 ^^^ dest.d2) &&& mask.d2) ||| ((d.d3 ^^^ dest.d3) &&& mask.d3) == 0

end IPv6Address

inductive RouteSrc where
  | FROM_RA | OWN_ADV_PREFIX | STATIC | ROUTING_PROT
deriving DecidableEq

/-- A route object, `id` being its address. `asked` records what `setMetric` was called with. -/
structure IPv6Route where
  id : Nat
  destPrefix : IPv6Address
  prefixLength : Fin 129
  src : RouteSrc
  interfaceId : Int := -1
  nextHop : IPv6Address := IPv6Address.UNSPECIFIED_ADDRESS
  expiryTime : Nat := 0
  metric : Int := 0
  asked : Int := 0
deriving DecidableEq

/-- The source assigns `_metric` to itself. -/
def IPv6Route.setMetric (metric : Int) (r : IPv6Route) : IPv6Route :=
  { r with metric := r.metric, asked := metric }

structure RoutingTable6 where
  routeList : List IPv6Route := []
  now : Nat := 0
  fresh : Nat := 0
deriving DecidableEq

inductive RouteFault6 where
  | pastEnd
deriving DecidableEq

namespace RoutingTable6

def routeLessThan (a b : IPv6Route) : Bool :=
  if a.prefixLength ≠ b.prefixLength then decide (b.prefixLength < a.prefixLength)
  else decide (a.metric < b.metric)

/-- What `std::sort` leaves: no route is less than one before it. Equal routes are in any order. -/
def SortedRoutes (l : List IPv6Route) : Prop := l.Pairwise fun a b => routeLessThan b a = false
  deriving Decidable

def matchesRoute (dest : IPv6Address) (r : IPv6Route) : Bool :=
  dest.matchesPrefix r.destPrefix r.prefixLength

def expired (r : IPv6Route) (s : RoutingTable6) : Bool :=
  decide (s.now > r.expiryTime) && r.expiryTime != 0

def hasPrefix (src : RouteSrc) (destPrefix : IPv6Address) (prefixLength : Fin 129) (r : IPv6Route) :
    Bool :=
  r.src == src && r.destPrefix == destPrefix && r.prefixLength == prefixLength

def removeOnLinkPrefix (destPrefix : IPv6Address) (prefixLength : Fin 129) (s : RoutingTable6) :
    RoutingTable6 :=
  { s with routeList := s.routeList.eraseP (hasPrefix .FROM_RA destPrefix prefixLength) }

/-- The loop of `doLongestPrefixMatch` from position `it` on. A removal shifts what is behind it,
and the iterator keeps its position. -/
def searchFrom (dest : IPv6Address) :
    Nat → Nat → RoutingTable6 → Except RouteFault6 (Option IPv6Route × RoutingTable6)
  | 0, _, _ => .error .pastEnd
  | n + 1, it, s =>
    if it = s.routeList.length then .ok (none, s)
    else
      match s.routeList[it]? with
      | none => .error .pastEnd
      | some r =>
        if matchesRoute dest r then
          if s.expired r then
            searchFrom dest n (it + 1) (s.removeOnLinkPrefix r.destPrefix r.prefixLength)
          else .ok (some r, s)
        else searchFrom dest n (it + 1) s

def doLongestPrefixMatch (dest : IPv6Address) (s : RoutingTable6) :
    Except RouteFault6 (Option IPv6Route × RoutingTable6) :=
  searchFrom dest (s.routeList.length + 1) 0 s

structure Added (s : RoutingTable6) (route : IPv6Route) (s' : RoutingTable6) : Prop where
  routeList : s'.routeList.Perm (s.routeList ++ [route])
  sorted : SortedRoutes s'.routeList
  now : s'.now = s.now
  fresh : s'.fresh = s.fresh + 1

def updateFirst (p : IPv6Route → Bool) (f : IPv6Route → IPv6Route) : List IPv6Route → List IPv6Route
  | [] => []
  | r :: rest => if p r then f r :: rest else r :: updateFirst p f rest

def AddedOrUpdated (src : RouteSrc) (destPrefix : IPv6Address) (prefixLength : Fin 129)
    (interfaceId : Int) (expiryTime : Nat) (s s' : RoutingTable6) : Prop :=
  if s.routeList.any (hasPrefix src destPrefix prefixLength) then
    s' = { s with
      routeList := updateFirst (hasPrefix src destPrefix prefixLength)
        (fun r => { r with interfaceId := interfaceId, expiryTime := expiryTime }) s.routeList }
  else
    let route : IPv6Route :=
      { id := s.fresh, destPrefix := destPrefix, prefixLength := prefixLength, src := src
        interfaceId := interfaceId, expiryTime := expiryTime }
    Added s (route.setMetric 0) s'

inductive Event where
  | addStaticRoute (destPrefix : IPv6Address) (prefixLength : Fin 129) (interfaceId : Int)
      (nextHop : IPv6Address) (metric : Int)
  | addDefaultRoute (nextHop : IPv6Address) (ifID : Int) (routerLifetime : Nat)
  | addRoutingProtocolRoute (destPrefix : IPv6Address) (prefixLength : Fin 129) (interfaceId : Int)
      (nextHop : IPv6Address) (expiryTime : Nat) (metric : Int)
  | addOrUpdateOnLinkPrefix (destPrefix : IPv6Address) (prefixLength : Fin 129) (interfaceId : Int)
      (expiryTime : Nat)
  | addOrUpdateOwnAdvPrefix (destPrefix : IPv6Address) (prefixLength : Fin 129) (interfaceId : Int)
      (expiryTime : Nat)
  | removeOnLinkPrefix (destPrefix : IPv6Address) (prefixLength : Fin 129)
  | removeRoute (id : Nat)
  | wait (time : Nat)
  | doLongestPrefixMatch (dest : IPv6Address)

def staticRoute (id : Nat) (destPrefix : IPv6Address) (prefixLength : Fin 129) (interfaceId : Int)
    (nextHop : IPv6Address) (metric : Int) : IPv6Route :=
  let route : IPv6Route :=
    { id := id, destPrefix := destPrefix, prefixLength := prefixLength, src := .STATIC
      interfaceId := interfaceId, nextHop := nextHop }
  route.setMetric (if metric = 0 then 10 else metric)

/-- The lifetime of the router is not used. -/
def defaultRoute (id : Nat) (nextHop : IPv6Address) (ifID : Int) : IPv6Route :=
  let route : IPv6Route :=
    { id := id, destPrefix := IPv6Address.UNSPECIFIED_ADDRESS, prefixLength := 0, src := .FROM_RA
      interfaceId := ifID, nextHop := nextHop }
  route.setMetric 10

def protocolRoute (id : Nat) (destPrefix : IPv6Address) (prefixLength : Fin 129) (interfaceId : Int)
    (nextHop : IPv6Address) (expiryTime : Nat) (metric : Int) : IPv6Route :=
  let route : IPv6Route :=
    { id := id, destPrefix := destPrefix, prefixLength := prefixLength, src := .ROUTING_PROT
      interfaceId := interfaceId, nextHop := nextHop, expiryTime := expiryTime }
  route.setMetric metric

def Moves (s : RoutingTable6) : Event → RoutingTable6 → Prop
  | .addStaticRoute destPrefix prefixLength interfaceId nextHop metric, s' =>
    Added s (staticRoute s.fresh destPrefix prefixLength interfaceId nextHop metric) s'
  | .addDefaultRoute nextHop ifID _, s' => Added s (defaultRoute s.fresh nextHop ifID) s'
  | .addRoutingProtocolRoute destPrefix prefixLength interfaceId nextHop expiryTime metric, s' =>
    Added s (protocolRoute s.fresh destPrefix prefixLength interfaceId nextHop expiryTime metric) s'
  | .addOrUpdateOnLinkPrefix destPrefix prefixLength interfaceId expiryTime, s' =>
    AddedOrUpdated .FROM_RA destPrefix prefixLength interfaceId expiryTime s s'
  | .addOrUpdateOwnAdvPrefix destPrefix prefixLength interfaceId expiryTime, s' =>
    AddedOrUpdated .OWN_ADV_PREFIX destPrefix prefixLength interfaceId expiryTime s s'
  | .removeOnLinkPrefix destPrefix prefixLength, s' =>
    s' = s.removeOnLinkPrefix destPrefix prefixLength
  | .removeRoute id, s' =>
    -- it is asserted that the route is there
    s.routeList.any (·.id == id) ∧ s' = { s with routeList := s.routeList.eraseP (·.id == id) }
  | .wait time, s' => s' = { s with now := s.now + time }
  | .doLongestPrefixMatch dest, s' => ∃ r, s.doLongestPrefixMatch dest = .ok (r, s')

inductive Reached : RoutingTable6 → Prop where
  | new (now : Nat) : Reached { now := now }
  | step {s s' : RoutingTable6} {e : Event} (reached : Reached s) (moves : s.Moves e s') :
      Reached s'

section Sorting

variable {s s' : RoutingTable6} {l l' : List IPv6Route}

theorem sortedRoutes_congr (same : l'.map (fun r => (r.prefixLength, r.metric)) =
    l.map fun r => (r.prefixLength, r.metric)) : SortedRoutes l' ↔ SortedRoutes l := by
  have keys : ∀ l : List IPv6Route, SortedRoutes l ↔
    (l.map fun r => (r.prefixLength, r.metric)).Pairwise
      fun a b => (if b.1 ≠ a.1 then decide (a.1 < b.1) else decide (b.2 < a.2)) = false := by
    intro l
    rw [pairwise_map]
    rfl
  rw [keys, keys, same]

theorem updateFirst_keys {p : IPv6Route → Bool} {f : IPv6Route → IPv6Route}
    (same : ∀ r, (f r).prefixLength = r.prefixLength ∧ (f r).metric = r.metric)
    (l : List IPv6Route) :
    (updateFirst p f l).map (fun r => (r.prefixLength, r.metric)) = l.map fun r =>
    (r.prefixLength, r.metric) := by
  induction l with
  | nil => rfl
  | cons r l ih =>
    unfold updateFirst
    split
    · simp [same r]
    · simp [ih]

theorem searchFrom_sublist {dest : IPv6Address} {n it : Nat} {r : Option IPv6Route}
    (found : searchFrom dest n it s = .ok (r, s')) : s'.routeList.Sublist s.routeList := by
  induction n generalizing it s with
  | zero => cases found
  | succ n ih =>
    unfold searchFrom at found
    split at found
    · cases found
      exact .refl _
    · split at found
      · cases found
      · split at found
        · split at found
          · exact (ih found).trans eraseP_sublist
          · cases found
            exact .refl _
        · exact ih found

theorem addedOrUpdated_sorted {src : RouteSrc} {destPrefix : IPv6Address} {prefixLength : Fin 129}
    {interfaceId : Int} {expiryTime : Nat} (sorted : SortedRoutes s.routeList)
    (moves : AddedOrUpdated src destPrefix prefixLength interfaceId expiryTime s s') :
    SortedRoutes s'.routeList := by
  unfold AddedOrUpdated at moves
  split at moves
  · subst moves
    have keys := @updateFirst_keys (hasPrefix src destPrefix prefixLength)
      (fun r => { r with interfaceId := interfaceId, expiryTime := expiryTime })
        (fun _ => ⟨rfl, rfl⟩)
      s.routeList
    exact (sortedRoutes_congr keys).mpr sorted
  · exact moves.sorted

theorem reached_sorted (reached : Reached s) : SortedRoutes s.routeList := by
  induction reached with
  | new now => exact List.Pairwise.nil
  | @step s s' e _ moves ih =>
    cases e with
    | addStaticRoute => exact moves.sorted
    | addDefaultRoute => exact moves.sorted
    | addRoutingProtocolRoute => exact moves.sorted
    | addOrUpdateOnLinkPrefix => exact addedOrUpdated_sorted ih moves
    | addOrUpdateOwnAdvPrefix => exact addedOrUpdated_sorted ih moves
    | removeOnLinkPrefix =>
      cases moves
      exact ih.sublist eraseP_sublist
    | removeRoute id =>
      obtain ⟨-, rfl⟩ := moves
      exact ih.sublist eraseP_sublist
    | wait time =>
      cases moves
      exact ih
    | doLongestPrefixMatch dest =>
      obtain ⟨r, found⟩ := moves
      exact ih.sublist (searchFrom_sublist found)

end Sorting

section Search

variable {s : RoutingTable6} {dest : IPv6Address}

def usable (s : RoutingTable6) (dest : IPv6Address) (r : IPv6Route) : Bool :=
  matchesRoute dest r && !s.expired r

def outdated (s : RoutingTable6) (dest : IPv6Address) (r : IPv6Route) : Bool :=
  matchesRoute dest r && s.expired r && r.src == .FROM_RA

def met (s : RoutingTable6) (dest : IPv6Address) : List IPv6Route :=
  s.routeList.takeWhile fun r => !s.usable dest r

def Best (s : RoutingTable6) (dest : IPv6Address) : Option IPv6Route → Prop
  | none => ∀ r ∈ s.routeList, s.usable dest r = false
  | some r => r ∈ s.routeList ∧ s.usable dest r ∧ ∀ x ∈ s.routeList, s.usable dest x →
      x.prefixLength < r.prefixLength ∨ x.prefixLength = r.prefixLength ∧ r.asked ≤ x.asked

/-- The search returns the best route, and of what it met removes the outdated prefixes and nothing
else. -/
def Correct (s : RoutingTable6) (dest : IPv6Address) : Prop :=
  ∃ r, s.doLongestPrefixMatch dest = .ok (r, { s with
      routeList := (s.met dest).filter (fun r => !s.outdated dest r) ++
        s.routeList.dropWhile fun r => !s.usable dest r }) ∧ s.Best dest r

/-- Behind an outdated prefix the search passes over one route, which has to be there and to be of
no interest. An expired route of another source must not take an on-link prefix with it. -/
def NothingSkipped (s : RoutingTable6) (dest : IPv6Address) : List IPv6Route → Prop
  | [] => True
  | [r] => s.outdated dest r = false
  | r :: x :: rest =>
    if s.usable dest r then True
    else if s.outdated dest r then
      s.usable dest x = false ∧ s.outdated dest x = false ∧ NothingSkipped s dest rest
    else
      (matchesRoute dest r → (x :: rest).any (hasPrefix .FROM_RA r.destPrefix r.prefixLength) =
        false) ∧ NothingSkipped s dest (x :: rest)

def SameMetric (s : RoutingTable6) (dest : IPv6Address) : Prop :=
  ∀ x ∈ s.routeList, ∀ y ∈ s.routeList, s.usable dest x → s.usable dest y →
    x.prefixLength = y.prefixLength →
      (∀ z ∈ s.routeList, s.usable dest z → z.prefixLength ≤ x.prefixLength) → x.asked = y.asked

@[simp] theorem expired_routeList {r : IPv6Route} {l : List IPv6Route} :
    expired r { s with routeList := l } = s.expired r := rfl

def remaining (s : RoutingTable6) (dest : IPv6Address) (rest : List IPv6Route) : List IPv6Route :=
  (rest.takeWhile fun r => !s.usable dest r).filter (fun r => !s.outdated dest r) ++
    rest.dropWhile fun r => !s.usable dest r

section Steps

variable {r : IPv6Route} {rest kept : List IPv6Route} {x : IPv6Route}

theorem matchesRoute_of_hasPrefix (same : hasPrefix .FROM_RA r.destPrefix r.prefixLength x) :
    matchesRoute dest x = matchesRoute dest r := by
  simp only [hasPrefix, Bool.and_eq_true, beq_iff_eq] at same
  simp only [matchesRoute, same.1.2, same.2]

theorem not_hasPrefix (unused : s.usable dest x = false) (current : s.outdated dest x = false)
    (matched : matchesRoute dest r = true) : hasPrefix .FROM_RA r.destPrefix r.prefixLength x =
    false := by
  cases same : hasPrefix .FROM_RA r.destPrefix r.prefixLength x with
  | false => rfl
  | true =>
    have matches' : matchesRoute dest x = true := (matchesRoute_of_hasPrefix same).trans matched
    simp only [hasPrefix, Bool.and_eq_true, beq_iff_eq] at same
    simp only [usable, matches', Bool.true_and, Bool.not_eq_false'] at unused
    simp [outdated, matches', unused, same.1.1] at current

theorem remaining_usable (ok : s.usable dest r = true) :
    s.remaining dest (r :: rest) = r :: rest := by
  simp [remaining, ok]

theorem remaining_outdated (unused : s.usable dest r = false) (old : s.outdated dest r = true) :
    s.remaining dest (r :: rest) = s.remaining dest rest := by
  simp [remaining, unused, old]

theorem remaining_kept (unused : s.usable dest r = false) (current : s.outdated dest r = false) :
    s.remaining dest (r :: rest) = r :: s.remaining dest rest := by
  simp [remaining, unused, current]

def Clean (s : RoutingTable6) (dest : IPv6Address) (kept : List IPv6Route) : Prop :=
  ∀ r ∈ kept, s.usable dest r = false ∧ s.outdated dest r = false

theorem Clean.append (clean : s.Clean dest kept) (unused : s.usable dest r = false)
    (current : s.outdated dest r = false) : s.Clean dest (kept ++ [r]) := by
  intro x hx
  obtain hx | hx := mem_append.mp hx
  · exact clean x hx
  · cases mem_singleton.mp hx
    exact ⟨unused, current⟩

variable {n : Nat}

theorem searchFrom_end : searchFrom dest (n + 1) kept.length { s with routeList := kept ++ [] } =
    .ok (none, { s with routeList := kept ++ [] }) := by
  simp [searchFrom]

theorem searchFrom_usable (ok : s.usable dest r = true) :
    searchFrom dest (n + 1) kept.length { s with routeList := kept ++ r :: rest } =
      .ok (some r, { s with routeList := kept ++ r :: rest }) := by
  simp only [usable, Bool.and_eq_true, Bool.not_eq_true'] at ok
  simp [searchFrom, ok]

theorem searchFrom_outdated (clean : s.Clean dest kept) (old : s.outdated dest r = true) :
    searchFrom dest (n + 1) kept.length { s with routeList := kept ++ r :: x :: rest } =
      searchFrom dest n (kept ++ [x]).length { s with routeList := (kept ++ [x]) ++ rest } := by
  simp only [outdated, Bool.and_eq_true, beq_iff_eq] at old
  have itself : hasPrefix .FROM_RA r.destPrefix r.prefixLength r = true := by
    simp [hasPrefix, old.2]
  have behind : ∀ x ∈ kept, ¬ hasPrefix .FROM_RA r.destPrefix r.prefixLength x = true := by
    intro x hx
    simp [not_hasPrefix (clean x hx).1 (clean x hx).2 old.1.1]
  have removed : (kept ++ r :: x :: rest).eraseP (hasPrefix .FROM_RA r.destPrefix r.prefixLength) =
      kept ++ x :: rest := by
    rw [eraseP_append_right _ behind, eraseP_cons_of_pos itself]
  simp [searchFrom, old, removeOnLinkPrefix, removed]

theorem searchFrom_other (clean : s.Clean dest kept) (unused : s.usable dest r = false)
    (current : s.outdated dest r = false) (alone : matchesRoute dest r →
      rest.any (hasPrefix .FROM_RA r.destPrefix r.prefixLength) = false) :
    searchFrom dest (n + 1) kept.length { s with routeList := kept ++ r :: rest } =
      searchFrom dest n (kept ++ [r]).length { s with routeList := (kept ++ [r]) ++ rest } := by
  cases matched : matchesRoute dest r with
  | false => simp [searchFrom, matched]
  | true =>
    -- the route is expired, and the call finds no on-link prefix to remove
    have late : s.expired r = true := by simpa [usable, matched] using unused
    have none : ∀ x ∈ kept ++ r :: rest,
        ¬ hasPrefix .FROM_RA r.destPrefix r.prefixLength x = true := by
      intro x hx
      obtain hx | hx := mem_append.mp hx
      · simp [not_hasPrefix (clean x hx).1 (clean x hx).2 matched]
      · obtain rfl | hx := mem_cons.mp hx
        · simp [not_hasPrefix unused current matched]
        · exact List.any_eq_false.mp (alone matched) x hx
    have same := eraseP_of_forall_not none
    simp [searchFrom, matched, late, removeOnLinkPrefix, same]

end Steps

theorem searchFrom_eq {kept rest : List IPv6Route} {n : Nat} (clean : s.Clean dest kept)
    (skipped : s.NothingSkipped dest rest) (enough : rest.length < n) :
    searchFrom dest n kept.length { s with routeList := kept ++ rest } =
      .ok ((rest.dropWhile fun r => !s.usable dest r).head?,
        { s with routeList := kept ++ s.remaining dest rest }) := by
  induction rest using NothingSkipped.induct s dest generalizing kept n with
  | case1 =>
    obtain ⟨n, rfl⟩ := Nat.exists_eq_add_one.mpr enough
    exact searchFrom_end
  | case2 r =>
    obtain ⟨n, rfl⟩ : ∃ k, n = k + 1 + 1 := Nat.exists_eq_add_of_le' enough
    have current : s.outdated dest r = false := skipped
    cases ok : s.usable dest r with
    | true =>
      rw [searchFrom_usable ok, remaining_usable ok]
      simp [ok]
    | false =>
      rw [remaining_kept ok current]
      refine (searchFrom_other clean ok current fun _ => rfl).trans (searchFrom_end.trans ?_)
      simp [ok, remaining]
  | case3 r x rest ok =>
    obtain ⟨n, rfl⟩ := Nat.exists_eq_add_of_lt enough
    rw [searchFrom_usable ok, remaining_usable ok]
    simp [ok]
  | case4 r x rest unused old ih =>
    obtain ⟨n, rfl⟩ := Nat.exists_eq_add_of_lt enough
    simp only [Bool.not_eq_true] at unused
    obtain ⟨unused', current, skipped⟩ : s.usable dest x = false ∧ s.outdated dest x = false ∧
        s.NothingSkipped dest rest := by simpa [NothingSkipped, unused, old] using skipped
    rw [remaining_outdated unused old, remaining_kept unused' current,
      searchFrom_outdated clean old, ih (clean.append unused' current) skipped (by simp; omega)]
    simp [unused, unused']
  | case5 r x rest unused current ih =>
    obtain ⟨n, rfl⟩ := Nat.exists_eq_add_of_lt enough
    simp only [Bool.not_eq_true] at unused current
    obtain ⟨alone, skipped⟩ : (matchesRoute dest r →
        (x :: rest).any (hasPrefix .FROM_RA r.destPrefix r.prefixLength) = false) ∧
        s.NothingSkipped dest (x ::
          rest) := by simpa [NothingSkipped, unused, current] using skipped
    rw [remaining_kept unused current, searchFrom_other clean unused current alone,
      ih (clean.append unused current) skipped (by simp; omega)]
    simp [unused]

theorem not_usable_of_met {r : IPv6Route} (member : r ∈ s.met dest) : s.usable dest r = false := by
  have := mem_takeWhile_imp member
  simpa using this

theorem first_usable_best (sorted : SortedRoutes s.routeList) (metric : s.SameMetric dest) :
    s.Best dest (s.routeList.dropWhile fun r => !s.usable dest r).head? := by
  have parts : s.met dest ++ (s.routeList.dropWhile fun r => !s.usable dest r) = s.routeList :=
    takeWhile_append_dropWhile
  cases rest : s.routeList.dropWhile fun r => !s.usable dest r with
  | nil =>
    intro r hr
    rw [rest, append_nil] at parts
    exact not_usable_of_met (parts ▸ hr)
  | cons r later =>
    rw [rest] at parts
    have usable : s.usable dest r = true := by
      have some : s.routeList.dropWhile (fun r => !s.usable dest r) ≠ [] := by simp [rest]
      have head := head_dropWhile_not (fun r => !s.usable dest r) some
      simpa [rest] using head
    have member : r ∈ s.routeList := by simp [← parts]
    have longest : ∀ x ∈ s.routeList, s.usable dest x = true → x.prefixLength ≤ r.prefixLength := by
      intro x hx ok
      rw [← parts] at hx sorted
      obtain hx | hx := mem_append.mp hx
      · rw [not_usable_of_met hx] at ok
        cases ok
      · obtain rfl | hx := mem_cons.mp hx
        · exact le_rfl
        · have order := (pairwise_cons.mp (pairwise_append.mp sorted).2.1).1 x hx
          unfold routeLessThan at order
          split at order
          · simpa using order
          · rename_i same
            exact (not_not.mp same).le
    refine ⟨member, usable, fun x hx ok => ?_⟩
    obtain shorter | same := (longest x hx ok).lt_or_eq
    · exact .inl shorter
    · refine .inr ⟨same, ?_⟩
      have equal := metric r member x hx usable ok same.symm longest
      exact equal.le

theorem doLongestPrefixMatch_correct (reached : Reached s)
    (skipped : s.NothingSkipped dest s.routeList) (metric : s.SameMetric dest) :
    s.Correct dest := by
  have clean : s.Clean dest [] := fun _ hr => absurd hr not_mem_nil
  exact ⟨_, searchFrom_eq clean skipped (Nat.lt_succ_self _),
    first_usable_best (reached_sorted reached) metric⟩

end Search

def onLink : IPv6Route where
  id := 0
  destPrefix := ⟨0x20010db8, 1, 0, 0⟩
  prefixLength := 64
  src := .FROM_RA
  interfaceId := 1
  expiryTime := 10

def prefixes (next : IPv6Address) : RoutingTable6 :=
  ⟨[onLink, staticRoute 1 next 48 2 ⟨0, 0, 0, 0⟩ 0, defaultRoute 2 ⟨0, 0, 0, 0⟩ 3], 20, 3⟩

theorem prefixes_reached (next : IPv6Address) : Reached (prefixes next) := by
  have first : Reached ⟨[onLink], 0, 1⟩ :=
    .step (e := .addOrUpdateOnLinkPrefix ⟨0x20010db8, 1, 0, 0⟩ 64 1 10) (.new 0)
      ⟨.refl _, pairwise_singleton _ _, rfl, rfl⟩
  have second : Reached ⟨[onLink, staticRoute 1 next 48 2 ⟨0, 0, 0, 0⟩ 0], 0, 2⟩ :=
    .step (e := .addStaticRoute next 48 2 ⟨0, 0, 0, 0⟩ 0) first
      ⟨.refl _, by
        simp [SortedRoutes, routeLessThan, onLink, staticRoute, IPv6Route.setMetric], rfl, rfl⟩
  have third : Reached { prefixes next with now := 0 } :=
    .step (e := .addDefaultRoute ⟨0, 0, 0, 0⟩ 3 100) second
      ⟨.refl _, by simp [SortedRoutes, routeLessThan, prefixes, onLink, staticRoute, defaultRoute,
        IPv6Route.setMetric], rfl, rfl⟩
  exact .step (e := .wait 20) third rfl

theorem prefixes_correct : (prefixes ⟨0x20010db9, 0, 0, 0⟩).Correct ⟨0x20010db8, 1, 0, 5⟩ := by
  apply doLongestPrefixMatch_correct (prefixes_reached _)
  · simp only [NothingSkipped, prefixes]
    decide
  · unfold SameMetric
    decide

def twoStatic : RoutingTable6 :=
  ⟨[staticRoute 0 ⟨0x20010db8, 0, 0, 0⟩ 32 1 ⟨0, 0, 0, 0⟩ 20,
    staticRoute 1 ⟨0x20010db8, 0, 0, 0⟩ 32 2 ⟨0, 0, 0, 0⟩ 5], 0, 2⟩

theorem twoStatic_reached : Reached twoStatic := by
  have first : Reached ⟨[staticRoute 0 ⟨0x20010db8, 0, 0, 0⟩ 32 1 ⟨0, 0, 0, 0⟩ 20], 0, 1⟩ :=
    .step (e := .addStaticRoute ⟨0x20010db8, 0, 0, 0⟩ 32 1 ⟨0, 0, 0, 0⟩ 20) (.new 0)
      ⟨.refl _, by decide, rfl, rfl⟩
  exact .step (e := .addStaticRoute ⟨0x20010db8, 0, 0, 0⟩ 32 2 ⟨0, 0, 0, 0⟩ 5) first
    ⟨.refl _, by decide, rfl, rfl⟩

/-- The route that is passed over, to 2001:db8::/48, does match, and the default route is returned;
and the metrics that were asked for are lost. -/
theorem prefixes_not_correct :
    (Reached (prefixes ⟨0x20010db8, 0, 0, 0⟩) ∧ ¬ (prefixes ⟨0x20010db8, 0, 0, 0⟩).Correct
      ⟨0x20010db8, 1, 0, 5⟩) ∧ (Reached twoStatic ∧ ¬ twoStatic.Correct ⟨0x20010db8, 1, 0, 5⟩) := by
  refine ⟨⟨prefixes_reached _, ?_⟩, twoStatic_reached, ?_⟩
  · rintro ⟨r, found, best⟩
    have returned : r = some (defaultRoute 2 ⟨0, 0, 0, 0⟩ 3) :=
      (Prod.mk.inj (Except.ok.inj found)).1.symm
    subst returned
    exact absurd (best.2.2 (staticRoute 1 ⟨0x20010db8, 0, 0, 0⟩ 48 2 ⟨0, 0, 0, 0⟩ 0) (by decide)
      (by decide)) (by decide)
  · rintro ⟨r, found, best⟩
    have returned : r = some (staticRoute 0 ⟨0x20010db8, 0, 0, 0⟩ 32 1 ⟨0, 0, 0, 0⟩ 20) :=
      (Prod.mk.inj (Except.ok.inj found)).1.symm
    subst returned
    exact absurd (best.2.2 (staticRoute 1 ⟨0x20010db8, 0, 0, 0⟩ 32 2 ⟨0, 0, 0, 0⟩ 5) (by decide)
      (by decide)) (by decide)

end RoutingTable6

end Srwsn
