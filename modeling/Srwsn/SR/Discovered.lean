import Srwsn.SR.Handlers

/-! What a discovery message can make a node do. -/
namespace Srwsn
namespace SR
open MACAddress IDBuilder

def idSet : Note → Option UInt16
  | .setMyID id => some id
  | _ => none

def idsSet (notes : List Note) : List UInt16 := notes.filterMap idSet

structure SameProgress (me you : SR) : Prop where
  isSink : you.isSink = me.isSink
  mac : you.myMACAddress = me.myMACAddress
  myID : you.myID = me.myID
  areaNumber : you.areaNumber = me.areaNumber
  firstSinkMsg : you.firstSinkMsg = me.firstSinkMsg
  hasSentAdvertMsg : you.hasSentAdvertMsg = me.hasSentAdvertMsg

theorem SameProgress.tables (me : SR) (b : IDBuilder) (list : Std.TreeMap UInt16 MACAddress)
    (bt : BloomTable) :
    SameProgress me { me with iDBuilder := b, neighborList := list, bt := bt } := by
  constructor <;> rfl

structure Sends (me : SR) (kind : SRQuery) (id : UInt16) (dest : MACAddress) (q : SRPacket) :
    Prop where
  msgType : q.msgType = .discovery
  queryType : q.queryType = kind
  id : q.Id = id
  src : q.srcMACAddress = me.myMACAddress
  dest : q.destMACAddress = dest

structure Joins (me : SR) (e : Eff) (src : UInt16) : Prop where
  isSink : e.node.isSink = me.isSink
  mac : e.node.myMACAddress = me.myMACAddress
  areaNumber : e.node.areaNumber = me.areaNumber
  firstSinkMsg : e.node.firstSinkMsg = me.firstSinkMsg
  sent : e.node.hasSentAdvertMsg = true
  ext : macExtOf e.node.myID = me.myMACAddress.lastOctet.toNat
  distance : distanceOf e.node.myID = distanceOf src + 1
  area : areaOf e.node.myID = areaOf src
  out : ∃ q, e.out = [q] ∧ Sends me .unset e.node.myID BROADCAST_ADDRESS q
  notes : idsSet e.notes = [e.node.myID]

/-- A sensor without an identity takes one from a later message of the sink, or from a sensor that
is not in its neighbour list yet. -/
structure Takes (me : SR) (p : SRPacket) : Prop where
  sensor : me.isSink = false
  new : me.hasSentAdvertMsg = false
  sink : distanceOf p.Id = 0 → me.firstSinkMsg = false
  other : distanceOf p.Id ≠ 0 → p.Id ∉ me.neighborList

inductive Discovered (me : SR) (e : Eff) (p : SRPacket) : Prop where
  | heard (same : SameProgress me e.node) (out : e.out = []) (notes : idsSet e.notes = [])
      (answer : me.isSink = true → p.queryType ≠ .request) (idle : ¬ Takes me p)
  | joined (takes : Takes me p) (join : Joins me e p.Id)
  | asked (sensor : me.isSink = false) (first : me.firstSinkMsg = true)
      (near : distanceOf p.Id = 0) (node : SameProgress { me with firstSinkMsg := false } e.node)
      (out : ∃ q, e.out = [q] ∧ Sends me .request me.myID p.srcMACAddress q)
      (notes : idsSet e.notes = [])
  | answered (sink : me.isSink = true) (request : p.queryType = .request)
      (room : me.areaNumber.toNat < 4)
      (node : SameProgress { me with myID := e.node.myID, areaNumber := me.areaNumber + 1 } e.node)
      (distance : distanceOf e.node.myID = distanceOf me.myID)
      (out : ∃ q, e.out = [q] ∧ Sends me .reply e.node.myID p.srcMACAddress q)
      (notes : idsSet e.notes = [e.node.myID])

variable {me : SR} {p : SRPacket}

theorem Takes.not_of_sent (sent : me.hasSentAdvertMsg = true) : ¬ Takes me p := by
  intro takes
  rw [takes.new] at sent
  cases sent

theorem Takes.not_of_sink (sink : me.isSink = true) : ¬ Takes me p := by
  intro takes
  rw [takes.sensor] at sink
  cases sink

theorem Routed.idsSet {e : Eff} {cause : Option SRPacket} (h : Routed me e cause) :
    idsSet e.notes = [] := by
  cases h with
  | quiet _ _ _ _ notes =>
    apply List.filterMap_eq_nil_iff.mpr
    intro n member
    have arrival := notes n member
    cases n <;> first | rfl | exact arrival.elim
  | generate _ _ _ _ _ _ _ notes =>
    rw [notes]
    rfl
  | takeUp _ _ _ _ _ _ notes =>
    rw [notes]
    rfl
  | forward _ _ _ _ _ _ _ _ _ _ notes =>
    rw [notes]
    rfl

section Sensor

variable {me : SR} {st : Statics} {input : Input} {p : SRPacket} {e : Eff}

theorem getID_cases (me : SR) (src : UInt16) :
    (distanceOf src = 15 ∧ me.getID src = .error (.idBuilder .sinkDistance)) ∨
    ∃ built, me.getID src = .ok { me with iDBuilder := built, myID := built.my_id } ∧
      macExtOf built.my_id = me.myMACAddress.lastOctet.toNat ∧
      distanceOf built.my_id = distanceOf src + 1 ∧ areaOf built.my_id = areaOf src := by
  obtain ⟨extended, written, ext, distance, area⟩ :=
    setMACExt_str (me.iDBuilder.setID src) me.myMACAddress
  rcases setSinkDistance_next extended with ⟨far, failed⟩ | ⟨built, next, ext', distance', area'⟩
  · refine .inl ⟨distance.symm.trans far, ?_⟩
    simp only [getID, written, failed]
  · refine .inr ⟨built, ?_, ext'.trans ext, ?_, area'.trans area⟩
    · simp only [getID, written, next]
    · rw [distance', distance]
      rfl

theorem SameIdentity.timer (me : SR) (last : Bool) (delay : Option UInt32) :
    SameIdentity me { me with iAmTheLast := last, selfGenerateRequestMsg := delay } := by
  constructor <;> rfl

theorem schedule_ok {you : SR} {st' : Statics} {notes : List Note}
    (h : me.scheduleTimeToGenerateRequest st input = .ok (you, st', notes)) :
    SameIdentity me you ∧ idsSet notes = [] := by
  unfold scheduleTimeToGenerateRequest at h
  split at h
  · cases h
  · cases h
    exact ⟨.refl me, rfl⟩
  · cases h
  · dsimp only at h
    split at h
    · cases h
      exact ⟨.timer .., rfl⟩
    · cases h
      exact ⟨.timer .., rfl⟩

theorem join_ok {src : UInt16} (h : me.join st input src = .ok e) :
    Joins me e src ∧ e.node.neighborList = me.neighborList ∧ e.node.bt = me.bt := by
  unfold join at h
  rcases getID_cases me src with ⟨-, failed⟩ | ⟨built, named, ext, distance, area⟩
  · rw [failed] at h
    cases h
  · rw [named] at h
    dsimp only at h
    split at h
    · cases h
    · rename_i known st' notes scheduled
      obtain ⟨same, silent⟩ := schedule_ok scheduled
      cases h
      have id : known.myID = built.my_id := same.myID
      refine ⟨⟨same.isSink, same.mac, same.areaNumber, same.firstSinkMsg, same.hasSentAdvertMsg,
        id ▸ ext, id ▸ distance, id ▸ area, ⟨_, rfl, ⟨rfl, rfl, id.symm, rfl, rfl⟩⟩, ?_⟩,
        same.neighborList, same.bt⟩
      change built.my_id :: idsSet notes = [known.myID]
      rw [silent, id]

theorem firstSinkMessage_ok {you : SR} (h : you.firstSinkMessage st input p = .ok e)
    (same : SameProgress me you) (sensor : me.isSink = false) (first : me.firstSinkMsg = true)
    (near : distanceOf p.Id = 0) :
    Discovered me e p ∧ e.node.neighborList = you.neighborList.insert p.Id p.srcMACAddress ∧
      e.node.bt = you.bt.AddFilter p.bloom p.srcMACAddress := by
  unfold firstSinkMessage at h
  dsimp only at h
  split at h
  · cases h
  · cases h
  · cases h
    exact ⟨.asked sensor first near ⟨same.isSink, same.mac, same.myID, same.areaNumber, rfl,
      same.hasSentAdvertMsg⟩ ⟨_, rfl, ⟨rfl, rfl, same.myID, same.mac, rfl⟩⟩ rfl, rfl, rfl⟩

def heardList (me : SR) (p : SRPacket) : Std.TreeMap UInt16 MACAddress :=
  if distanceOf p.Id = 0 then
    if me.firstSinkMsg then me.neighborList.insert p.Id p.srcMACAddress
    else me.neighborList.insertIfNew p.Id UNSPECIFIED_ADDRESS
  else if p.Id ∈ me.neighborList then me.neighborList
  else me.neighborList.insert p.Id p.srcMACAddress

def heardTable (me : SR) (p : SRPacket) : BloomTable :=
  if distanceOf p.Id = 0 then
    if me.firstSinkMsg then me.bt.AddFilter p.bloom p.srcMACAddress else me.bt
  else if p.Id ∈ me.neighborList then me.bt
  else me.bt.AddFilter p.bloom p.srcMACAddress

theorem getSinkDistance_zero_iff (b : IDBuilder) :
    b.getSinkDistance = 0 ↔ distanceOf b.my_id = 0 := by
  rw [← getSinkDistance_toNat, ← UInt16.toNat_inj]
  rfl

theorem joined_ok {you : SR} (h : you.join st input p.Id = .ok e) (same : SameProgress me you)
    (takes : Takes me p) :
    Discovered me e p ∧ e.node.neighborList = you.neighborList ∧ e.node.bt = you.bt := by
  obtain ⟨join, list, bt⟩ := join_ok h
  obtain ⟨q, out, sends⟩ := join.out
  refine ⟨.joined takes ⟨join.isSink.trans same.isSink, join.mac.trans same.mac,
    join.areaNumber.trans same.areaNumber, join.firstSinkMsg.trans same.firstSinkMsg, join.sent,
    same.mac ▸ join.ext, join.distance, join.area, ⟨q, out, ?_⟩, join.notes⟩, list, bt⟩
  exact ⟨sends.msgType, sends.queryType, sends.id, sends.src.trans same.mac, sends.dest⟩

theorem handleNicDiscoveryMsg_ok (sensor : me.isSink = false)
    (h : me.handleNicDiscoveryMsg st input p = .ok e) :
    Discovered me e p ∧ e.node.neighborList = me.heardList p ∧ e.node.bt = me.heardTable p := by
  unfold handleNicDiscoveryMsg at h
  dsimp only at h
  unfold heardList heardTable
  split at h
  · rename_i near
    have zero : distanceOf p.Id = 0 := (getSinkDistance_zero_iff _).mp near
    rw [if_pos zero, if_pos zero]
    split at h
    · rename_i first
      have flag : me.firstSinkMsg = true := first
      rw [if_pos flag, if_pos flag]
      have asked := firstSinkMessage_ok h (.tables ..) sensor flag zero
      exact asked
    · rename_i known
      have flag : ¬ me.firstSinkMsg = true := known
      rw [if_neg flag, if_neg flag]
      split at h
      · rename_i sent
        cases h
        exact ⟨.heard (.tables ..) rfl rfl (by simp [sensor]) (Takes.not_of_sent sent), rfl, rfl⟩
      · rename_i new
        exact joined_ok h (.tables ..) ⟨sensor, Bool.eq_false_iff.mpr new,
          fun _ => Bool.eq_false_iff.mpr flag, fun other => absurd zero other⟩
  · rename_i far
    have nonzero : ¬ distanceOf p.Id = 0 := fun zero => far ((getSinkDistance_zero_iff _).mpr zero)
    rw [if_neg nonzero, if_neg nonzero]
    split at h
    · rename_i member
      have present : p.Id ∈ me.neighborList := member
      rw [if_pos present, if_pos present]
      cases h
      exact ⟨.heard (.tables ..) rfl rfl (by simp [sensor])
        (fun takes => takes.other nonzero present), rfl, rfl⟩
    · rename_i absent
      have missing : ¬ p.Id ∈ me.neighborList := absent
      rw [if_neg missing, if_neg missing]
      split at h
      · rename_i sent
        cases h
        exact ⟨.heard (.tables ..) rfl rfl (by simp [sensor]) (Takes.not_of_sent sent), rfl, rfl⟩
      · rename_i new
        exact joined_ok h (.tables ..) ⟨sensor, Bool.eq_false_iff.mpr new,
          fun near => absurd near nonzero, fun _ => missing⟩

end Sensor

section Sink

variable {me : SR} {st : Statics} {input : Input} {p : SRPacket} {e : Eff}

theorem SINK_handleNicDiscoveryMsg_ok (sink : me.isSink = true)
    (h : me.SINK_handleNicDiscoveryMsg st p = .ok e) :
    Discovered me e p ∧ e.node.neighborList = if p.queryType = .request then
      me.neighborList.insert p.Id p.srcMACAddress
      else me.neighborList := by
  unfold SINK_handleNicDiscoveryMsg at h
  split at h
  · rename_i request
    rw [if_pos request]
    dsimp only at h
    split at h
    · cases h
    · rename_i built written
      obtain ⟨room, -, distance, -⟩ := setArea_ok written
      cases h
      exact ⟨.answered sink request room
        (by constructor <;> rfl) distance ⟨_, rfl, ⟨rfl, rfl, rfl, rfl, rfl⟩⟩ rfl, rfl⟩
  · rename_i reply
    cases h
    exact ⟨.heard (.tables ..) rfl rfl (by simp [reply]) (Takes.not_of_sink sink), by simp [reply]⟩
  · rename_i unset
    cases h
    exact ⟨.heard (.tables ..) rfl rfl (by simp [unset]) (Takes.not_of_sink sink), by simp [unset]⟩

theorem Discovered.of_hopCount {hops : UInt16} (h : Discovered me e { p with hopCount := hops }) :
    Discovered me e p := by
  cases h with
  | heard same out notes answer idle =>
    exact .heard same out notes answer (fun takes => idle ⟨takes.sensor, takes.new, takes.sink,
      takes.other⟩)
  | joined takes join => exact .joined ⟨takes.sensor, takes.new, takes.sink, takes.other⟩ join
  | asked sensor first near node out notes => exact .asked sensor first near node out notes
  | answered sink request room node distance out notes =>
    exact .answered sink request room node distance out notes

theorem handleMessage_discovery (discovery : p.msgType = .discovery)
    (h : me.handleMessage st input (some p) = .ok e) : Discovered me e p := by
  unfold handleMessage at h
  dsimp only at h
  split at h
  · rename_i sink
    simp only [SINK_handleSRMsg, discovery] at h
    exact (SINK_handleNicDiscoveryMsg_ok sink h).1
  · rename_i sensor
    unfold handleSRMsg at h
    dsimp only at h
    split at h
    · exact (handleNicDiscoveryMsg_ok (Bool.eq_false_iff.mpr sensor) h).1.of_hopCount
    · simp_all
    · simp_all
    · simp_all

theorem handleMessage_cases {cause : Option SRPacket}
    (h : me.handleMessage st input cause = .ok e) :
    (∃ p, cause = some p ∧ p.msgType = .discovery ∧ Discovered me e p) ∨
    (Routed me e cause ∧ SameIdentity me e.node ∧ ∀ p, cause = some p →
      p.msgType ≠ .discovery) := by
  cases cause with
  | none =>
    obtain ⟨timer, same, -, -⟩ := handleTimer_settles.1 _ h
    exact .inr ⟨timer, same, fun p impossible => by cases impossible⟩
  | some p =>
    by_cases discovery : p.msgType = .discovery
    · exact .inl ⟨p, rfl, discovery, handleMessage_discovery discovery h⟩
    · obtain ⟨routed, same⟩ := (handlePacket_settles discovery).1 _ h
      exact .inr ⟨routed, same, fun q found => Option.some.inj found ▸ discovery⟩

end Sink

section Faults

variable {me : SR} {st : Statics} {input : Input} {p : SRPacket} {failure : IDBuilder.Failure}

variable {draws : List Nat} {fault : Fault}

variable {w range limit : Nat} {bitmap : BitVec w}

theorem search_fault {ii pos : Nat} (h : Reservation.search bitmap range limit ii pos draws =
    .error fault) : fault = .outOfDraws := by
  induction draws generalizing ii pos with
  | nil =>
    unfold Reservation.search at h
    split at h
    · cases h
      rfl
    · cases h
  | cons rand draws ih =>
    unfold Reservation.search at h
    split at h
    · dsimp only at h
      split at h
      · cases h
      · exact ih h
    · cases h

theorem reserve_fault (h : Reservation.reserve bitmap range limit draws = .error fault) :
    fault = .outOfDraws := by
  cases draws with
  | nil =>
    cases h
    rfl
  | cons rand draws => exact search_fault h

theorem schedule_fault (h : me.scheduleTimeToGenerateRequest st input = .error fault) :
    fault = .outOfDraws := by
  unfold scheduleTimeToGenerateRequest at h
  split at h
  · rename_i failed
    cases h
    exact reserve_fault failed
  · cases h
  · cases h
    rfl
  · dsimp only at h
    split at h <;> cases h

theorem join_fault {src : UInt16} (h : me.join st input src = .error (.idBuilder failure)) :
    distanceOf src = 15 := by
  rcases getID_cases me src with ⟨far, -⟩ | ⟨built, named, -⟩
  · exact far
  · unfold join at h
    rw [named] at h
    dsimp only at h
    split at h
    · rename_i failed
      cases h
      cases schedule_fault failed
    · cases h

theorem firstSinkMessage_fault : me.firstSinkMessage st input p ≠ .error (.idBuilder failure) := by
  intro h
  unfold firstSinkMessage at h
  dsimp only at h
  split at h
  · rename_i failed
    cases h
    cases reserve_fault failed
  · cases h
  · cases h

theorem handleNicDiscoveryMsg_fault
    (h : me.handleNicDiscoveryMsg st input p = .error (.idBuilder failure)) :
    me.hasSentAdvertMsg = false ∧ distanceOf p.Id = 15 := by
  unfold handleNicDiscoveryMsg at h
  dsimp only at h
  split at h
  · split at h
    · exact absurd h firstSinkMessage_fault
    · split at h
      · cases h
      · rename_i new
        exact ⟨Bool.eq_false_iff.mpr new, join_fault h⟩
  · split at h
    · cases h
    · split at h
      · cases h
      · rename_i new
        exact ⟨Bool.eq_false_iff.mpr new, join_fault h⟩

theorem SINK_handleNicDiscoveryMsg_fault
    (h : me.SINK_handleNicDiscoveryMsg st p = .error (.idBuilder failure)) :
    p.queryType = .request ∧ 4 ≤ me.areaNumber.toNat := by
  unfold SINK_handleNicDiscoveryMsg at h
  split at h
  · rename_i request
    dsimp only at h
    split at h
    · rename_i failed
      unfold setArea at failed
      split at failed
      · cases failed
      · rename_i large
        refine ⟨request, ?_⟩
        rw [UInt16.lt_iff_toNat_lt] at large
        exact Nat.le_of_not_lt large
    · cases h
  · cases h
  · cases h

theorem handleMessage_fault {cause : Option SRPacket}
    (h : me.handleMessage st input cause = .error (.idBuilder failure)) : ∃ p, cause = some p ∧
    p.msgType = .discovery ∧
      ((me.isSink = true ∧ p.queryType = .request ∧ 4 ≤ me.areaNumber.toNat) ∨
        (me.isSink = false ∧ me.hasSentAdvertMsg = false ∧ distanceOf p.Id = 15)) := by
  cases cause with
  | none => exact absurd h (handleTimer_settles.2 failure)
  | some p =>
    by_cases discovery : p.msgType = .discovery
    · refine ⟨p, rfl, discovery, ?_⟩
      unfold handleMessage at h
      dsimp only at h
      split at h
      · rename_i sink
        simp only [SINK_handleSRMsg, discovery] at h
        exact .inl ⟨sink, SINK_handleNicDiscoveryMsg_fault h⟩
      · rename_i sensor
        simp only [handleSRMsg, discovery] at h
        exact .inr ⟨Bool.eq_false_iff.mpr sensor, handleNicDiscoveryMsg_fault h⟩
    · exact absurd h ((handlePacket_settles discovery).2 failure)

end Faults
end SR
end Srwsn
