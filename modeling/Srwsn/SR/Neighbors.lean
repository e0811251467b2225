import Srwsn.SR.Handshake

/-! The neighbour lists that discovery fills, under ids that are not those of the neighbours 
alone. -/
namespace Srwsn
open SR MACAddress IDBuilder

structure Visit where
  statics : Statics := {}
  input : Input := {}
  cause : Option SRPacket
  specified : ∀ p, cause = some p → p.msgType = .discovery → p.srcMACAddress.isUnspecified = false

structure Listener where
  node : SR
  sensor : node.isSink = false
  received : List SRPacket

def Listener.hear (s : Listener) (x : Visit) : Option Listener :=
  match h : s.node.handleMessage x.statics x.input x.cause with
  | .error _ => none
  | .ok e => some ⟨e.node, (handleMessage_moves h).isSink.trans s.sensor,
      x.cause.toList ++ s.received⟩

def Listener.Hears (s : Listener) (x : Visit) (s' : Listener) : Prop := s.hear x = some s'

def Listener.Sound (s : Listener) : Prop :=
  ∀ id mac, s.node.neighborList[id]? = some mac →
    (∃ p ∈ s.received, p.msgType = .discovery ∧ p.Id = id ∧ p.srcMACAddress = mac) ∧
      s.node.bt.HasFilter mac ∧ mac.isUnspecified = false

/-- After the first message of the sink, its later ones bear an id that is already listed. -/
def Listener.Keyed (s : Listener) (x : Visit) : Prop :=
  ∀ p, x.cause = some p → p.msgType = .discovery → distanceOf p.Id = 0 →
    s.node.firstSinkMsg = false → p.Id ∈ s.node.neighborList

section Sensor

variable {s s' : Listener} {x : Visit}

theorem handleMessage_neighbors {me : SR} {st : Statics} {input : Input} {p : SRPacket} {e : Eff}
    (sensor : me.isSink = false) (discovery : p.msgType = .discovery)
    (h : me.handleMessage st input (some p) = .ok e) :
    e.node.neighborList = me.heardList p ∧ e.node.bt = me.heardTable p := by
  unfold handleMessage at h
  dsimp only at h
  split at h
  · rename_i sink
    rw [sensor] at sink
    cases sink
  · unfold handleSRMsg at h
    dsimp only at h
    split at h
    · exact (handleNicDiscoveryMsg_ok sensor h).2
    · simp_all
    · simp_all
    · simp_all

theorem hears_cases (heard : s.Hears x s') :
    ∃ e, s.node.handleMessage x.statics x.input x.cause = .ok e ∧ s'.node = e.node ∧
      s'.received = x.cause.toList ++ s.received := by
  unfold Listener.Hears Listener.hear at heard
  split at heard
  · cases heard
  · rename_i e handled
    cases heard
    exact ⟨e, handled, rfl, rfl⟩

theorem sound_of_same (sound : s.Sound) (list : s'.node.neighborList = s.node.neighborList)
    (bt : s'.node.bt = s.node.bt) (more : s.received ⊆ s'.received) : s'.Sound := by
  intro id mac entry
  rw [list] at entry
  obtain ⟨⟨p, member, heard⟩, filter, specified⟩ := sound id mac entry
  exact ⟨⟨p, more member, heard⟩, bt ▸ filter, specified⟩

theorem sound_of_added (sound : s.Sound) {p : SRPacket} (discovery : p.msgType = .discovery)
    (specified : p.srcMACAddress.isUnspecified = false)
    (list : s'.node.neighborList = s.node.neighborList.insert p.Id p.srcMACAddress)
    (bt : s'.node.bt = s.node.bt.AddFilter p.bloom p.srcMACAddress)
    (now : p ∈ s'.received) (more : s.received ⊆ s'.received) : s'.Sound := by
  intro id mac entry
  rw [list, insert_read] at entry
  rw [bt, BloomTable.hasFilter_addFilter]
  split at entry
  · rename_i here
    cases entry
    exact ⟨⟨p, now, discovery, here, rfl⟩, .inl rfl, specified⟩
  · obtain ⟨⟨q, member, heard⟩, filter, known⟩ := sound id mac entry
    exact ⟨⟨q, more member, heard⟩, .inr filter, known⟩

theorem sound_logged_iff (sound : s.Sound) {id : UInt16}
    (list : s'.node.neighborList = s.node.neighborList.insertIfNew id UNSPECIFIED_ADDRESS)
    (bt : s'.node.bt = s.node.bt) (more : s.received ⊆ s'.received) :
    s'.Sound ↔ id ∈ s.node.neighborList := by
  constructor
  · intro later
    by_contra absent
    have entry : s'.node.neighborList[id]? = some UNSPECIFIED_ADDRESS := by
      rw [list, Std.TreeMap.getElem?_insertIfNew]
      simp [absent]
    have specified := (later id _ entry).2.2
    revert specified
    decide
  · intro present key mac entry
    have old : s.node.neighborList[key]? = some mac := by
      rw [list, Std.TreeMap.getElem?_insertIfNew, if_neg] at entry
      · exact entry
      · exact fun fresh => fresh.2 present
    obtain ⟨⟨p, member, heard⟩, filter, specified⟩ := sound key mac old
    exact ⟨⟨p, more member, heard⟩, bt ▸ filter, specified⟩

theorem hears_sound_iff (sound : s.Sound) (heard : s.Hears x s') : s'.Sound ↔ s.Keyed x := by
  obtain ⟨e, handled, node, received⟩ := hears_cases heard
  have more : s.received ⊆ s'.received := by
    rw [received]
    exact List.subset_append_right _ _
  rcases handleMessage_cases handled with ⟨p, cause, discovery, -⟩ | ⟨-, same, other⟩
  · rw [cause] at handled
    obtain ⟨list, bt⟩ := handleMessage_neighbors s.sensor discovery handled
    have now : p ∈ s'.received := by simp [received, cause]
    have specified := x.specified p cause discovery
    rw [← node] at list bt
    unfold heardList at list
    unfold heardTable at bt
    by_cases near : distanceOf p.Id = 0
    · rw [if_pos near] at list bt
      cases first : s.node.firstSinkMsg with
      | true =>
        rw [first, if_pos rfl] at list bt
        apply iff_of_true
        · exact sound_of_added sound discovery specified list bt now more
        · intro q _ _ _ later
          rw [first] at later
          cases later
      | false =>
        rw [first, if_neg (by decide)] at list bt
        rw [sound_logged_iff sound list bt more]
        constructor
        · intro present q found _ _ _
          rw [cause] at found
          cases found
          exact present
        · intro keyed
          exact keyed p cause discovery near first
    · rw [if_neg near] at list bt
      apply iff_of_true
      · by_cases present : p.Id ∈ s.node.neighborList
        · rw [if_pos present] at list bt
          exact sound_of_same sound list bt more
        · rw [if_neg present] at list bt
          exact sound_of_added sound discovery specified list bt now more
      · intro q found _ zero _
        rw [cause] at found
        cases found
        exact absurd zero near
  · apply iff_of_true
    · exact sound_of_same sound (node ▸ same.neighborList) (node ▸ same.bt) more
    · intro p cause discovery _ _
      exact absurd discovery (other p cause)

/-- The list of a sensor stays sound if and only if no later message of the sink bears an id under
which nothing is listed. -/
theorem sensor_neighbors_sound_iff (s : Listener) (empty : s.node.neighborList = ∅)
    (visits : List Visit) :
    Trace.Always Listener.Hears Listener.Sound s visits ↔
    Trace.Each Listener.Hears Listener.Keyed s visits := by
  apply Trace.always_iff_each (I := fun _ => True)
  · exact fun _ _ _ _ _ => trivial
  · intro s x s' _ sound heard
    exact hears_sound_iff sound heard
  · trivial
  · intro id mac entry
    rw [empty] at entry
    simp at entry

end Sensor

/-- Two sensors around the sink, and the two messages that it sends the second one: its first
broadcast, and the reply under the id of area 1. -/
def twoAround : Deployment (Fin 3) := .linked 2 [(0, 1), (0, 2)] (by decide)

def secondSensor : Listener :=
  let me := Fin.last 2
  ⟨(twoAround.created me).selfInitialization (twoAround.mac me) (twoAround.sensorType me), rfl, []⟩

def fromSink (id : UInt16) : Visit where
  input := { draws := [1, 2, 3] }
  cause := some { msgType := .discovery, srcMACAddress := twoAround.mac twoAround.sink, Id := id }
  specified p found _ := by
    cases found
    exact twoAround.specified _

theorem secondSensor_sound_in_area_zero :
    Trace.Always Listener.Hears Listener.Sound secondSensor [fromSink 64, fromSink 64] := by
  apply (sensor_neighbors_sound_iff secondSensor rfl [fromSink 64, fromSink 64]).mpr
  have listed : (secondSensor.hear (fromSink 64)).all
      (fun s => decide ((64 : UInt16) ∈ s.node.neighborList)) = true := by decide +kernel
  intro s heard
  constructor
  · intro p _ _ _ later
    cases later
  · intro s' _
    refine ⟨?_, trivial⟩
    intro p found _ _ _
    cases found
    rw [Listener.Hears] at heard
    rw [heard] at listed
    exact of_decide_eq_true listed

theorem secondSensor_lists_unspecified :
    ¬ Trace.Always Listener.Hears Listener.Sound secondSensor [fromSink 64, fromSink 65] ∧ ∃ c,
    twoAround.Reachable c ∧
      (c.nodes 2).neighborList[(65 : UInt16)]? = some UNSPECIFIED_ADDRESS := by
  constructor
  · intro sound
    have ran : (([fromSink 64, fromSink 65].foldlM Listener.hear secondSensor).any
        (fun s => s.node.neighborList[(65 : UInt16)]? == some UNSPECIFIED_ADDRESS)) = true := by
      decide +kernel
    obtain ⟨s, ran, seen⟩ := (Option.any_eq_true _ _).mp ran
    have entry := (sound.last (fun _ _ _ heard => heard) ran 65 _ (beq_iff_eq.mp seen)).2.2
    revert entry
    decide
  · exact twoAround.reachable_of_run [.transmit 0 [1, 2], .deliver 0 { draws := [1] },
      .deliver 0 { draws := [2] },
        .transmit 0 [0], .transmit 0 [0], .deliver 0 {}, .deliver 0 {}, .transmit 1 [2],
        .deliver 0 { draws := [3, 7] }]
      (fun c => (c.nodes 2).neighborList[(65 : UInt16)]? = some UNSPECIFIED_ADDRESS)
      (by decide +kernel)

section Sink

variable {ι : Type*} [DecidableEq ι] (dep : Deployment ι)

def requesters (v : Snapshot ι) : List MACAddress :=
  (asked dep v).map (fun x => x.2.srcMACAddress)

def AllListed (c : World ι) : Prop :=
  ∀ mac, (∃ id : UInt16, (c.nodes dep.sink).neighborList[id]? = some mac) ↔
    mac ∈ requesters dep c.toView

/-- The request does not take the place of another neighbour's only entry. -/
def KeepsListed (c : World ι) : Radio.Event ι Input → Prop
  | .deliver k _ => ∀ f, c.air[k]? = some f → f.receiver = dep.sink → Asks f.packet →
      ∀ mac, (c.nodes dep.sink).neighborList[f.packet.Id]? = some mac →
        mac = f.packet.srcMACAddress ∨
          ∃ id : UInt16, id ≠ f.packet.Id ∧ (c.nodes dep.sink).neighborList[id]? = some mac
  | _ => True

variable {dep} {c d : World ι} {ev : Radio.Event ι Input}

theorem handleMessage_sink_neighbors {me : SR} {st : Statics} {input : Input} {p : SRPacket}
    {e : Eff} (sink : me.isSink = true) (h : me.handleMessage st input (some p) = .ok e) :
    e.node.neighborList = if Asks p then me.neighborList.insert p.Id p.srcMACAddress
    else me.neighborList := by
  by_cases discovery : p.msgType = .discovery
  · simp only [handleMessage, sink, if_true, SINK_handleSRMsg, discovery] at h
    rw [(SINK_handleNicDiscoveryMsg_ok sink h).2]
    simp [Asks, discovery]
  · rw [((handlePacket_settles discovery).1 _ h).2.neighborList,
      if_neg (fun asks => discovery asks.1)]

theorem listed_after_insert (list : Std.TreeMap UInt16 MACAddress) (id : UInt16)
    (src mac : MACAddress) : (∃ key : UInt16, (list.insert id src)[key]? = some mac) ↔
      mac = src ∨ ∃ key : UInt16, key ≠ id ∧ list[key]? = some mac := by
  constructor
  · rintro ⟨key, entry⟩
    rw [insert_read] at entry
    split at entry
    · cases entry
      exact .inl rfl
    · rename_i other
      exact .inr ⟨key, Ne.symm other, entry⟩
  · rintro (rfl | ⟨key, other, entry⟩)
    · exact ⟨id, by simp⟩
    · exact ⟨key, by rw [insert_read, if_neg (Ne.symm other)]; exact entry⟩

theorem allListed_of_same (listed : AllListed dep c)
    (list : (d.nodes dep.sink).neighborList = (c.nodes dep.sink).neighborList)
    (same : asked dep d.toView = asked dep c.toView) : AllListed dep d := by
  intro mac
  rw [list, requesters, same]
  exact listed mac

theorem allListed_request_iff (listed : AllListed dep c) {f : Radio.Flight ι SRPacket} {e : Eff}
    (view : d.toView = c.toView.after dep.sink (some (f.sender, f.packet)) e)
    (request : Asks f.packet)
    (list : e.node.neighborList = (c.nodes dep.sink).neighborList.insert f.packet.Id
      f.packet.srcMACAddress) :
    AllListed dep d ↔ ∀ mac, (c.nodes dep.sink).neighborList[f.packet.Id]? = some mac →
    mac = f.packet.srcMACAddress ∨
        ∃ id : UInt16, id ≠ f.packet.Id ∧ (c.nodes dep.sink).neighborList[id]? = some mac := by
  have more : requesters dep d.toView = f.packet.srcMACAddress :: requesters dep c.toView := by
    rw [view]
    rw [requesters, asked_after_ask request]
    rfl
  unfold AllListed
  rw [more, view, Radio.View.after_self, list]
  simp only [listed_after_insert, List.mem_cons]
  constructor
  · intro all mac entry
    exact (all mac).mpr (.inr ((listed mac).mp ⟨_, entry⟩))
  · intro kept mac
    apply or_congr_right'
    intro different
    constructor
    · rintro ⟨id, -, entry⟩
      exact (listed mac).mp ⟨id, entry⟩
    · intro known
      obtain ⟨id, entry⟩ := (listed mac).mpr known
      by_cases here : id = f.packet.Id
      · exact (kept mac (here ▸ entry)).resolve_left different
      · exact ⟨id, here, entry⟩

theorem allListed_step_iff (reached : dep.Reachable c) (listed : AllListed dep c)
    (h : dep.Advances c ev d) : AllListed dep d ↔ KeepsListed dep c ev := by
  obtain ⟨view, -, -⟩ := identity_holds reached
  obtain ⟨k, receivers, i, q, rfl, found, -, -, rfl⟩ | ⟨k, input, f, e, rfl, found, acted, rfl⟩ |
    ⟨i, input, e, rfl, acted, rfl⟩ := Radio.System.step_cases h
  · exact iff_of_true (allListed_of_same listed rfl rfl) trivial
  · have ran : (c.nodes f.receiver).handleMessage c.shared input (some f.packet) = .ok e := acted
    by_cases here : f.receiver = dep.sink
    · have sink := (view.sink_iff f.receiver).mpr here
      have list := handleMessage_sink_neighbors sink ran
      by_cases request : Asks f.packet
      · rw [if_pos request, here] at list
        have exactly := allListed_request_iff (f := f) (e := e)
          (d := c.after f.receiver (some (f.sender, f.packet)) (c.air.eraseIdx k) e) listed
          (by rw [← here]; rfl) request list
        rw [exactly]
        constructor
        · intro kept g other _ _
          rw [found] at other
          cases other
          exact kept
        · intro kept
          exact kept f found here request
      · rw [if_neg request] at list
        apply iff_of_true
        · apply allListed_of_same listed
          · exact Radio.View.after_frame SR.neighborList list dep.sink
          · apply asked_after_other
            rintro - p ⟨⟩
            exact request
        · intro g other _ asks
          rw [found] at other
          cases other
          exact absurd asks request
    · apply iff_of_true
      · apply allListed_of_same listed
        · rw [Radio.Config.after, Radio.View.after_other (Ne.symm here)]
        · exact asked_after_other (fun sink => absurd sink here)
      · intro g other sink
        rw [found] at other
        cases other
        exact absurd sink here
  · have ran : (c.nodes i).handleMessage c.shared input none = .ok e := acted
    obtain ⟨-, same, -, -⟩ := handleTimer_settles.1 _ ran
    apply iff_of_true _ trivial
    apply allListed_of_same listed
    · exact Radio.View.after_frame SR.neighborList same.neighborList dep.sink
    · apply asked_after_other
      rintro - p ⟨⟩

/-- Every neighbour of the sink stays listed if and only if no request takes the place of another
neighbour's only entry. -/
theorem sink_neighbors_listed_iff (dep : Deployment ι) : ∃ start, dep.start = .ok start ∧ ∀ events,
      Trace.Always dep.Advances (AllListed dep) start events ↔
        Trace.Each dep.Advances (KeepsListed dep) start events := by
  apply dep.always_iff_each
  · intro w booted mac
    simp [booted.neighborList, requesters, asked, booted.history]
  · intro c ev d reached listed advances
    exact allListed_step_iff reached listed advances

end Sink

/-- Both sensors ask under the id 65535, so the second entry replaces the first. -/
theorem twoAround_neighbor_lost :
    ∃ c, twoAround.Reachable c ∧
    requesters twoAround c.toView = [twoAround.mac 2, twoAround.mac 1] ∧
      (c.nodes 0).neighborList.toList = [(65535, twoAround.mac 2)] ∧ ¬ AllListed twoAround c := by
  obtain ⟨c, reached, asked, listed⟩ := twoAround.reachable_of_run
    [.transmit 0 [1, 2], .deliver 0 { draws := [1] }, .deliver 0 { draws := [2] },
      .transmit 0 [0], .transmit 0 [0], .deliver 0 {}, .deliver 0 {}]
    (fun c => requesters twoAround c.toView = [twoAround.mac 2, twoAround.mac 1] ∧
      (c.nodes 0).neighborList.toList = [(65535, twoAround.mac 2)]) (by decide +kernel)
  refine ⟨c, reached, asked, listed, fun all => ?_⟩
  obtain ⟨id, entry⟩ := (all (twoAround.mac 1)).mpr (by rw [asked]; simp)
  have member := Std.TreeMap.mem_toList_iff_getElem?_eq_some.mpr entry
  change (id, twoAround.mac 1) ∈ (c.nodes 0).neighborList.toList at member
  rw [listed, List.mem_singleton] at member
  have same := (Prod.mk.inj member).2
  revert same
  decide

end Srwsn
