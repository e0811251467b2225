import Srwsn.SR.Handshake

/-! The assertions of the identifier packer. The sink numbers an area for each sensor around it, and
distance fifteen needs fifteen sensors in a row. -/
namespace Srwsn
open SR MACAddress IDBuilder List

variable {ι : Type*} [DecidableEq ι]

/-- The topology keeps within the fields of the packer: at most four sensors are linked with the
sink, and no sixteen are in a row from it. -/
structure Fits (dep : Deployment ι) : Prop where
  unheard : ∀ s j, s ≠ dep.sink → j ≠ dep.sink → dep.hears dep.sink s = true →
    dep.hears s j = true → dep.mac dep.sink ≠ dep.mac j ∧ (dep.mac dep.sink).isBroadcast = false
  areas : ∀ around : List ι, around.Nodup → (∀ i ∈ around, Linked dep i) → around.length ≤ 4
  depth : ∀ path first i, Radio.Route dep.hears dep.sink path i → path.getLast? = some first →
    Answered dep first → path.Nodup → dep.sink ∉ path → path.length ≤ 15

section Keep

variable {dep : Deployment ι} {c : World ι}

theorem route_of_identity (h : Identified dep c.toView) (greeted : Greeted dep c) (d : Nat) {i : ι}
    (sensor : i ≠ dep.sink) (sent : (c.nodes i).hasSentAdvertMsg = true)
    (distance : distanceOf (c.nodes i).myID = d) :
    ∃ path first, Radio.Route dep.hears dep.sink path i ∧ path.getLast? = some first ∧
      Answered dep first ∧ path.length = d ∧ path.Nodup ∧
      ∀ k ∈ path, k ≠ dep.sink ∧ (c.nodes k).hasSentAdvertMsg = true ∧ distanceOf (c.nodes k).myID ≤
      d := by
  induction d generalizing i with
  | zero =>
    have positive := (chain_of_identity h 0 sensor sent distance).1
    omega
  | succ d ih =>
    obtain ⟨j, p, adopted⟩ := h.adopted i sensor sent
    have before : distanceOf p.Id = d := by
      have next := adopted.distance
      omega
    rcases adopted.origin with ⟨rfl, zero⟩ | ⟨other, named, own⟩
    · have first : d = 0 := before.symm.trans zero
      subst first
      obtain ⟨record, member, rfl, cause, ids⟩ := adopted.received
      have answered := greeted.joined record member sensor p cause (by simp [ids])
      refine ⟨[record.node], record.node, .hop .here adopted.heard, rfl, answered, rfl,
        nodup_singleton _, ?_⟩
      intro k inside
      rw [mem_singleton.mp inside]
      exact ⟨sensor, sent, distance.le⟩
    · obtain ⟨path, first, route, last, answered, length, nodup, members⟩ :=
        ih other named (own ▸ before)
      refine ⟨i :: path, first, .hop route adopted.heard, ?_,
        answered, by rw [length_cons, length], ?_, ?_⟩
      · rw [getLast?_cons, last]
        rfl
      · refine nodup_cons.mpr ⟨fun member => ?_, nodup⟩
        have near := (members i member).2.2
        omega
      · intro k member
        rcases mem_cons.mp member with rfl | old
        · exact ⟨sensor, sent, distance.le⟩
        · obtain ⟨sensor', sent', near⟩ := members k old
          exact ⟨sensor', sent', by omega⟩

theorem room_for_area (fits : Fits dep)
    (known : Radio.System.Holds (Identified dep) (SignedAs dep) (SignedFlight dep) c)
    (counted : Counted dep c) {f : Radio.Flight ι SRPacket} (flying : f ∈ c.air)
    (here : f.receiver = dep.sink) (request : Asks f.packet) :
    (c.nodes dep.sink).areaNumber.toNat < 4 := by
  obtain ⟨s, r, q⟩ := f
  subst here
  have flight := known.2.2 _ flying
  have sensor : s ≠ dep.sink := ne_sink_of_heard flight.heard
  have waiting : 0 < c.load (askOf s) dep.sink := by
    apply Nat.lt_of_lt_of_le _ (Nat.le_add_left _ _)
    exact countP_pos_iff.mpr ⟨_, flying, by simp [askOf, request]⟩
  have bound : ∀ t, t ≠ dep.sink → (handled dep c.toView).count t + c.load (askOf t) dep.sink ≤
      1 := by
    intro t other
    apply (counted.single t other).trans
    unfold allowance
    split <;> omega
  have new : s ∉ handled dep c.toView := by
    intro old
    have one := count_pos_iff.mpr old
    have both := bound s sensor
    omega
  have nodup : (handled dep c.toView).Nodup := by
    apply nodup_iff_count_le_one.mpr
    intro t
    by_cases member : t ∈ handled dep c.toView
    · have both := bound t (counted.linked t member).sensor
      omega
    · rw [count_eq_zero.mpr member]
      exact Nat.zero_le 1
  have four := fits.areas (s :: handled dep c.toView) (nodup_cons.mpr ⟨new, nodup⟩) (by
    intro t member
    rcases mem_cons.mp member with rfl | old
    · exact ⟨sensor, flight.heard.2, (flight.signed.ask sensor request).2⟩
    · exact counted.linked t old)
  rw [counted.number]
  exact Nat.lt_of_succ_le four

theorem room_for_hop (fits : Fits dep)
    (known : Radio.System.Holds (Identified dep) (SignedAs dep) (SignedFlight dep) c)
    (greeted : Greeted dep c) {f : Radio.Flight ι SRPacket} (flying : f ∈ c.air)
    (sensor : f.receiver ≠ dep.sink) (new : (c.nodes f.receiver).hasSentAdvertMsg = false)
    (discovery : f.packet.msgType = .discovery) : distanceOf f.packet.Id ≠ 15 := by
  intro far
  obtain ⟨heard, signed, reaches⟩ := known.2.2 f flying
  by_cases origin : f.sender = dep.sink
  · have near := heard.1 discovery
    rw [if_pos origin, far] at near
    cases near
  · by_cases request : f.packet.queryType = .request
    · -- an area request is addressed to the sink, so no sensor hears it
      obtain ⟨dest, listens⟩ := signed.ask origin ⟨discovery, request⟩
      obtain ⟨apart, unicast⟩ := fits.unheard f.sender f.receiver origin sensor listens heard.2
      rw [dest, unicast] at reaches
      exact reaches.elim apart (by decide)
    · obtain ⟨sent, own⟩ := signed.advert origin discovery request
      obtain ⟨path, first, route, last, answered, length, nodup, members⟩ :=
        route_of_identity known.1 greeted 15 origin sent (own ▸ far)
      have fresh : f.receiver ∉ path := by
        intro member
        rw [(members _ member).2.1] at new
        cases new
      have bound := fits.depth (f.receiver :: path) first f.receiver (.hop route heard.2)
        (by rw [getLast?_cons, last]; rfl) answered (nodup_cons.mpr ⟨fresh, nodup⟩) (by
          intro member
          rcases mem_cons.mp member with here | old
          · exact sensor here.symm
          · exact (members _ old).1 rfl)
      rw [length_cons, length] at bound
      omega

end Keep

/-- On a topology that fits, no step of any run fails an assertion of the packer. -/
theorem discovery_keeps_assertions (dep : Deployment ι) (fits : Fits dep) (c : World ι)
    (reached : dep.Reachable c) (ev : Radio.Event ι Input) (failure : IDBuilder.Failure) :
    dep.net.step c ev ≠ some (.error (.idBuilder failure)) := by
  intro failed
  obtain ⟨known, counted, greeted⟩ := handshake_holds reached
  rcases Radio.System.step_fault failed with ⟨k, input, f, -, found, acted⟩ | ⟨i, input, -, acted⟩
  · have ran : (c.nodes f.receiver).handleMessage c.shared input (some f.packet) =
      .error (.idBuilder failure) := acted
    have flying := mem_of_getElem? found
    obtain ⟨p, packet, discovery, ⟨sink, request, full⟩ | ⟨sensor, new, far⟩⟩ :=
      handleMessage_fault ran
    · cases packet
      have here := (known.1.sink_iff _).mp sink
      have room := room_for_area fits known counted flying here ⟨discovery, request⟩
      rw [here] at full
      omega
    · cases packet
      exact room_for_hop fits known greeted flying ((known.1.sensor_iff _).mp sensor) new
        discovery far
  · have ran : (c.nodes i).handleMessage c.shared input none = .error (.idBuilder failure) := acted
    obtain ⟨p, packet, -⟩ := handleMessage_fault ran
    cases packet

theorem relayLine_keeps_assertions : ∃ c, relayLine.Reachable c ∧ (c.nodes 2).myID = 200 ∧
      ∀ ev failure, relayLine.net.step c ev ≠ some (.error (.idBuilder failure)) := by
  have fits : Fits relayLine := by
    refine ⟨by decide, ?_, ?_⟩
    · intro around nodup _
      exact nodup.length_le_card.trans (by decide)
    · intro path first i _ _ _ nodup _
      exact nodup.length_le_card.trans (by decide)
  obtain ⟨c, reached, named⟩ := relayLine.reachable_of_run (joinTwoHops 0 1 [2])
    (fun c => (c.nodes 2).myID = 200) (by decide +kernel)
  exact ⟨c, reached, named, discovery_keeps_assertions relayLine fits c reached⟩

def faultOf {α : Type} : Option (Except Fault α) → Option Fault
  | some (.error fault) => some fault
  | _ => none

theorem faultOf_iff {α : Type} {result : Option (Except Fault α)} {fault : Fault}
    (h : faultOf result = some fault) : result = some (.error fault) := by
  unfold faultOf at h
  split at h
  · cases h
    rfl
  · cases h

def fiveAround : Deployment (Fin 6) :=
  .linked 5 [(0, 1), (0, 2), (0, 3), (0, 4), (0, 5)] (by decide)

def sixteenInARow : Deployment (Fin 17) :=
  .linked 16 ((List.range 16).map (fun i => (i, i + 1))) (by decide)

theorem discovery_fails_assertions : (∃ c, fiveAround.Reachable c ∧
      fiveAround.net.step c (.deliver 0 {}) = some (.error (.idBuilder .area))) ∧ ∃ c,
      sixteenInARow.Reachable c ∧
      sixteenInARow.net.step c (.deliver 0 { draws := [4, 9] }) =
        some (.error (.idBuilder .sinkDistance)) := by
  constructor
  · obtain ⟨c, reached, failed⟩ := fiveAround.reachable_of_run
      (.transmit 0 [1, 2, 3, 4, 5] :: List.replicate 5 (.deliver 0 { draws := [1] }) ++
        List.replicate 5 (.transmit 0 [0]) ++ List.replicate 4 (.deliver 0 {}))
      (fun c => faultOf (fiveAround.net.step c (.deliver 0 {})) = some (.idBuilder .area))
      (by decide +kernel)
    exact ⟨c, reached, faultOf_iff failed⟩
  · obtain ⟨c, reached, failed⟩ := sixteenInARow.reachable_of_run
      (joinTwoHops 0 1 [2] ++ ([3, 4, 5, 6, 7, 8, 9, 10, 11, 12, 13, 14, 15].flatMap
        (fun i => [.transmit 0 [i], .deliver 0 { draws := [4, 9] }])) ++ [.transmit 0 [16]])
      (fun c => faultOf (sixteenInARow.net.step c (.deliver 0 { draws := [4, 9] })) =
        some (.idBuilder .sinkDistance)) (by decide +kernel)
    exact ⟨c, reached, faultOf_iff failed⟩

end Srwsn
