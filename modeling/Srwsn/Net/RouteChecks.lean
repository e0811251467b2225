import Srwsn.Net.RoutingTable

/-! What is stored in the IPv4 routing table, and when the checks of `addRoute` keep it sound. -/
namespace Srwsn.RoutingTable

open List

def stored (s : RoutingTable) : List IPRoute := s.routes ++ s.multicastRoutes

def NoHostBits (r : IPRoute) : Prop := r.host &&& ~~~r.netmask = 0
  deriving Decidable

def isDefault (r : IPRoute) : Bool := IPAddress.isUnspecified r.netmask

/-- No host bits outside the netmask, one default route at most, no route to a deleted interface. -/
structure Sound (s : RoutingTable) : Prop where
  hosts : ∀ r ∈ s.stored, NoHostBits r
  default : s.stored.countP isDefault ≤ 1
  interfaces : ∀ r ∈ s.stored, ∀ i ∈ s.deleted, r.interface ≠ some i

inductive Edit where
  | addRoute (host netmask : UInt32) (interface : Option Nat) (source : RouteSource)
      (installTime : Nat)
  | deleteRoute (id : Nat)
  | deleteInterface (id : Nat)

def Edit.event : Edit → Event
  | .addRoute host netmask interface source installTime =>
    .addRoute host netmask interface source installTime
  | .deleteRoute id => .deleteRoute id
  | .deleteInterface id => .interfaceDeleted id

def Edits (s : RoutingTable) (e : Edit) (s' : RoutingTable) : Prop := Moves s e.event s'

/-- The route has no host bits outside its netmask and its interface was not deleted; an interface
that is deleted has no multicast route. -/
def Checked (s : RoutingTable) : Edit → Prop
  | .addRoute host netmask interface _ _ =>
    host &&& ~~~netmask = 0 ∧ ∀ i ∈ s.deleted, interface ≠ some i
  | .deleteRoute _ => True
  | .deleteInterface id => ∀ r ∈ s.multicastRoutes, r.interface ≠ some id

instance (s : RoutingTable) (e : Edit) : Decidable (s.Checked e) :=
  match e with
  | .addRoute host netmask interface _ _ =>
    inferInstanceAs (Decidable (host &&& ~~~netmask = 0 ∧ ∀ i ∈ s.deleted, interface ≠ some i))
  | .deleteRoute _ => inferInstanceAs (Decidable True)
  | .deleteInterface id => inferInstanceAs (Decidable (∀ r ∈ s.multicastRoutes,
      r.interface ≠ some id))

structure Ordered (s : RoutingTable) : Prop where
  distinct : (s.routes.map IPRoute.id).Nodup
  old : ∀ r ∈ s.routes, r.id < s.fresh
  multicast : ∀ r ∈ s.multicastRoutes, isDefault r = false

variable {s s' : RoutingTable} {entry : IPRoute}

theorem Ordered.pruned (ordered : Ordered s) (pruned : Pruned s s') : Ordered s' where
  distinct := ordered.distinct.sublist (pruned.routes.map _)
  old r hr := by
    rw [pruned.fresh]
    exact ordered.old r (pruned.routes.subset hr)
  multicast r hr := ordered.multicast r (pruned.multicastRoutes.subset hr)

theorem stored_sublist (pruned : Pruned s s') : s'.stored.Sublist s.stored :=
  pruned.routes.append pruned.multicastRoutes

theorem Sound.pruned (sound : Sound s) (pruned : Pruned s s') : Sound s' where
  hosts r hr := sound.hosts r ((stored_sublist pruned).subset hr)
  default := ((stored_sublist pruned).countP_le).trans sound.default
  interfaces r hr := by
    rw [pruned.deleted]
    exact sound.interfaces r ((stored_sublist pruned).subset hr)

theorem insertRoute_stored (r : IPRoute) : r ∈ (s.insertRoute entry).stored ↔ r = entry ∨
    r ∈ s.stored := by
  unfold insertRoute stored
  split
  · simp [invalidateCache]
    tauto
  · simp [invalidateCache]
    tauto

theorem insertRoute_count :
    (s.insertRoute entry).stored.countP isDefault =
    s.stored.countP isDefault + (isDefault entry).toNat := by
  unfold insertRoute stored
  split
  · cases known : isDefault entry <;> simp [invalidateCache, countP_append, known]
    omega
  · cases known : isDefault entry <;> simp [invalidateCache, countP_append, known]
    omega

/-- The default route that is there is deleted before another is added. -/
theorem replaceDefault_count (ordered : Ordered s) (one : s.stored.countP isDefault ≤ 1)
    (default : isDefault entry) : (s.replaceDefault entry).stored.countP isDefault = 0 := by
  have multicast : s.multicastRoutes.countP isDefault = 0 := by
    apply countP_eq_zero.mpr
    exact fun r hr => by simp [ordered.multicast r hr]
  rw [stored, countP_append, multicast, Nat.add_zero] at one
  have yes : IPAddress.isUnspecified entry.netmask = true := default
  unfold replaceDefault
  rw [if_pos yes]
  cases found : s.getDefaultRoute with
  | none =>
    have absent : s.routes.countP isDefault = 0 := countP_eq_zero.mpr (find?_eq_none.mp found)
    simp only [stored, countP_append, absent, multicast]
  | some old =>
    have member := mem_of_find?_eq_some found
    have isOld : isDefault old = true := find?_some found
    have known : s.routes.any (·.id == old.id) = true := List.any_eq_true.mpr ⟨old, member, by simp⟩
    obtain ⟨a, before, after, -, same, split, erased⟩ :=
      exists_of_eraseP (p := fun r : IPRoute => r.id == old.id) member (by simp)
    -- no other route has the address of the one that was found
    have equal : a = old :=
      inj_on_of_nodup_map ordered.distinct (by simp [split]) member (by simpa using same)
    rw [split, equal, countP_append, countP_cons, isOld] at one
    simp only [deleteRoute, if_pos known, stored, invalidateCache, erased, countP_append, multicast]
    simp only [if_true] at one
    omega

theorem Ordered.insertRoute (ordered : Ordered s) (new : ∀ r ∈ s.routes, r.id < entry.id)
    (fresh : entry.id < s.fresh) (unspecified : IPAddress.isUnspecified entry.host =
      IPAddress.isUnspecified entry.netmask) :
    Ordered (s.insertRoute entry) := by
  unfold RoutingTable.insertRoute
  split
  · refine ⟨?_, fun r hr => ?_, ordered.multicast⟩
    · simp only [invalidateCache, map_append, map_cons, map_nil]
      apply nodup_append'.mpr ⟨ordered.distinct, nodup_singleton _, _⟩
      intro id known added
      obtain ⟨r, hr, rfl⟩ := List.mem_map.mp known
      have := new r hr
      have := mem_singleton.mp added
      omega
    · obtain hr | hr := mem_append.mp hr
      · exact ordered.old r hr
      · exact mem_singleton.mp hr ▸ fresh
  · rename_i multicast
    refine ⟨ordered.distinct, ordered.old, fun r hr => ?_⟩
    obtain hr | hr := mem_append.mp hr
    · exact ordered.multicast r hr
    · obtain rfl := mem_singleton.mp hr
      -- the address 0.0.0.0 is not a multicast address
      rw [isDefault, ← unspecified]
      apply Bool.eq_false_iff.mpr
      intro zero
      rw [IPAddress.isUnspecified, beq_iff_eq] at zero
      simp [IPAddress.isMulticast, zero] at multicast

theorem addRoute_ordered (ordered : Ordered s) (fresh : entry.id = s.fresh)
    (unspecified : IPAddress.isUnspecified entry.host = IPAddress.isUnspecified entry.netmask) :
    Ordered ((replaceDefault entry { s with fresh := s.fresh + 1 }).insertRoute entry) := by
  have later : Ordered { s with fresh := s.fresh + 1 } :=
    ⟨ordered.distinct, fun r hr => (ordered.old r hr).trans (Nat.lt_succ_self _), ordered.multicast⟩
  have pruned := replaceDefault_pruned { s with fresh := s.fresh + 1 } entry
  apply (later.pruned pruned).insertRoute _ _ unspecified
  · intro r hr
    rw [fresh]
    exact ordered.old r (pruned.routes.subset hr)
  · rw [fresh, pruned.fresh]
    exact Nat.lt_succ_self _

theorem addRoute_sound (ordered : Ordered s) (sound : Sound s) :
    Sound ((s.replaceDefault entry).insertRoute entry) ↔
      NoHostBits entry ∧ ∀ i ∈ s.deleted, entry.interface ≠ some i := by
  have pruned := replaceDefault_pruned s entry
  have deleted : ((s.replaceDefault entry).insertRoute entry).deleted = s.deleted := by
    rw [← pruned.deleted]
    unfold insertRoute
    split_ifs <;> rfl
  have kept := sound.pruned pruned
  constructor
  · intro after
    have member := (insertRoute_stored (s := s.replaceDefault entry) entry).mpr (.inl rfl)
    exact ⟨after.hosts entry member, deleted ▸ after.interfaces entry member⟩
  · rintro ⟨host, interface⟩
    refine ⟨fun r hr => ?_, ?_, fun r hr => ?_⟩
    · obtain rfl | hr := (insertRoute_stored r).mp hr
      · exact host
      · exact kept.hosts r hr
    · rw [insertRoute_count]
      cases default : isDefault entry with
      | true => simp [replaceDefault_count ordered sound.default default]
      | false => simpa using kept.default
    · rw [deleted]
      obtain rfl | hr := (insertRoute_stored r).mp hr
      · exact interface
      · exact pruned.deleted ▸ kept.interfaces r hr

theorem deleteInterface_sound {id : Nat} (sound : Sound s) : Sound { s.deleteInterfaceRoutes id with
      ift := (s.deleteInterfaceRoutes id).ift.filter (fun ie => ie.id != id)
      deleted := (s.deleteInterfaceRoutes id).deleted ++ [id] } ↔ ∀ r ∈ s.multicastRoutes,
        r.interface ≠ some id := by
  have pruned : Pruned s (s.deleteInterfaceRoutes id) := deleteInterfaceRoutesFrom_pruned s id _
  have kept := sound.pruned pruned
  have multicast : (s.deleteInterfaceRoutes id).multicastRoutes = s.multicastRoutes :=
    deleteInterfaceRoutesFrom_multicastRoutes s id _
  constructor
  · intro after r hr
    exact after.interfaces r (mem_append_right _ (multicast ▸ hr)) id (by simp)
  · intro none
    refine ⟨kept.hosts, kept.default, fun r hr i hi => ?_⟩
    obtain hi | hi := mem_append.mp hi
    · exact kept.interfaces r hr i hi
    · obtain rfl := mem_singleton.mp hi
      obtain hr | hr := mem_append.mp hr
      · exact deleteInterfaceRoutesFrom_none le_rfl r hr
      · exact none r (multicast ▸ hr)

theorem edit_ordered {e : Edit} (ordered : Ordered s) (edits : Edits s e s') : Ordered s' := by
  cases e with
  | addRoute host netmask interface source installTime =>
    obtain ⟨unspecified, rfl⟩ := addRoute_cases edits
    exact addRoute_ordered ordered rfl unspecified
  | deleteRoute id =>
    cases edits
    exact ordered.pruned (deleteRoute_pruned s id)
  | deleteInterface id =>
    simp only [Edits, Edit.event, Moves, step] at edits
    split at edits
    · cases edits
      have pruned : Pruned s (s.deleteInterfaceRoutes id) := deleteInterfaceRoutesFrom_pruned s id _
      have kept := ordered.pruned pruned
      exact ⟨kept.distinct, kept.old, kept.multicast⟩
    · cases edits

theorem edit_sound {e : Edit} (ordered : Ordered s) (sound : Sound s) (edits : Edits s e s') :
    Sound s' ↔ s.Checked e := by
  cases e with
  | addRoute host netmask interface source installTime =>
    obtain ⟨-, rfl⟩ := addRoute_cases edits
    have later : Ordered { s with fresh := s.fresh + 1 } :=
      ⟨ordered.distinct, fun r hr => (ordered.old r hr).trans (Nat.lt_succ_self _),
        ordered.multicast⟩
    exact addRoute_sound later ⟨sound.hosts, sound.default, sound.interfaces⟩
  | deleteRoute id =>
    cases edits
    exact iff_of_true (sound.pruned (deleteRoute_pruned s id)) trivial
  | deleteInterface id =>
    simp only [Edits, Edit.event, Moves, step] at edits
    split at edits
    · cases edits
      exact deleteInterface_sound sound
    · cases edits

/-- From an empty table the stored routes stay sound just when every edit is checked. -/
theorem sound_iff_checked (initial : Initial s) (es : List Edit) :
    Trace.Always Edits Sound s es ↔ Trace.Each Edits Checked s es := by
  have empty : s.stored = [] := by simp [stored, initial.routes, initial.multicastRoutes]
  have ordered : Ordered s :=
    ⟨by simp [initial.routes], by simp [initial.routes], by simp [initial.multicastRoutes]⟩
  have sound : Sound s := ⟨by simp [empty], by simp [empty], by simp [empty]⟩
  apply Trace.always_iff_each (I := Ordered) _ _ ordered sound es
  · exact fun _ _ _ ordered edits => edit_ordered ordered edits
  · exact fun _ _ _ ordered sound edits => edit_sound ordered sound edits

def oneInterface : RoutingTable where
  timetolive := maxTime
  ift := [⟨0, 0x0A000001, 0xFFFFFF00⟩]

theorem oneInterface_initial : Initial oneInterface := ⟨rfl, rfl, fun _ => rfl, rfl, rfl⟩

theorem checked_sound : Trace.Always Edits Sound oneInterface
    [.addRoute 0 0 (some 0) .MANUAL 0, .addRoute 0 0 (some 0) .RIP 0,
      .addRoute 0x0A000000 0xFFFFFF00 (some 0) .MANUAL 0,
      .addRoute 0xE0000001 0xFFFFFFFF (some 0) .MANUAL 0,
      .deleteRoute 3, .deleteInterface 0] := by
  apply (sound_iff_checked oneInterface_initial _).mpr
  iterate 6 refine .cons (fun _ => Except.ok.inj) (by decide) ?_
  trivial

/- 10.0.0.1 is accepted with netmask 255.255.255.0, and a multicast route outlives its interface. -/
theorem unchecked_not_sound : Initial oneInterface ∧
    ¬ Trace.Always Edits Sound oneInterface [.addRoute 0x0A000001 0xFFFFFF00 (some 0) .MANUAL 0] ∧
    ¬ Trace.Always Edits Sound oneInterface
      [.addRoute 0xE0000001 0xFFFFFFFF (some 0) .MANUAL 0, .deleteInterface 0] := by
  refine ⟨oneInterface_initial, fun always => ?_, fun always => ?_⟩
  · have host :=
      (always.2 _ rfl).head.hosts ⟨0, 0x0A000001, 0xFFFFFF00, some 0, .MANUAL, 0⟩ (by decide)
    exact absurd host (by decide)
  · have interface := ((always.2 _ rfl).2 _ rfl).head.interfaces
      ⟨0, 0xE0000001, 0xFFFFFFFF, some 0, .MANUAL, 0⟩ (by decide) 0 (by decide)
    exact interface rfl

end Srwsn.RoutingTable
