import Srwsn.SR.Deployment

/-! How identities spread from the sink, one discovery message after another. -/
namespace Srwsn
open SR MACAddress IDBuilder List Radio.View

inductive Moves (me : SR) (e : Eff) : Option SRPacket → Prop where
  | stays (cause : Option SRPacket) (isSink : e.node.isSink = me.isSink)
      (mac : e.node.myMACAddress = me.myMACAddress) (myID : e.node.myID = me.myID)
      (sent : e.node.hasSentAdvertMsg = me.hasSentAdvertMsg) (ids : idsSet e.notes = [])
      (out : ∀ q ∈ e.out, q.msgType = .discovery →
        me.isSink = false ∧ q.queryType = .request ∧ q.Id = me.myID)
      (idle : ∀ p, cause = some p → p.msgType = .discovery → ¬ Takes me p) : Moves me e cause
  | joins (p : SRPacket) (discovery : p.msgType = .discovery) (takes : Takes me p)
      (join : Joins me e p.Id) : Moves me e (some p)
  | answers (p : SRPacket) (sink : me.isSink = true) (isSink : e.node.isSink = true)
      (mac : e.node.myMACAddress = me.myMACAddress)
      (distance : distanceOf e.node.myID = distanceOf me.myID)
      (out : ∃ q, e.out = [q] ∧ Sends me .reply e.node.myID p.srcMACAddress q) :
      Moves me e (some p)

section

variable {me : SR} {e : Eff} {cause : Option SRPacket}

theorem Moves.isSink (moves : Moves me e cause) : e.node.isSink = me.isSink := by
  cases moves with
  | stays _ isSink _ _ _ _ _ _ => exact isSink
  | joins _ _ _ join => exact join.isSink
  | answers _ sink isSink _ _ _ => exact isSink.trans sink.symm

theorem Moves.mac (moves : Moves me e cause) : e.node.myMACAddress = me.myMACAddress := by
  cases moves with
  | stays _ _ mac _ _ _ _ _ => exact mac
  | joins _ _ _ join => exact join.mac
  | answers _ _ _ mac _ _ => exact mac

theorem handleMessage_moves {st : Statics} {input : Input}
    (h : me.handleMessage st input cause = .ok e) : Moves me e cause := by
  rcases handleMessage_cases h with ⟨p, rfl, discovery, discovered⟩ | ⟨routed, same, other⟩
  · cases discovered with
    | heard same out notes _ idle =>
      refine .stays _ same.isSink same.mac same.myID same.hasSentAdvertMsg notes (by simp [out]) ?_
      rintro _ ⟨⟩ _
      exact idle
    | joined takes join => exact .joins p discovery takes join
    | asked sensor first near node out notes =>
      refine .stays _ node.isSink node.mac node.myID node.hasSentAdvertMsg notes ?_ ?_
      · obtain ⟨q, out, sends⟩ := out
        intro r member _
        rw [out, mem_singleton] at member
        rw [member]
        exact ⟨sensor, sends.queryType, sends.id⟩
      · rintro _ ⟨⟩ _ takes
        rw [takes.sink near] at first
        cases first
    | answered sink _ _ node distance out _ =>
      exact .answers p sink (node.isSink.trans sink) node.mac distance out
  · exact .stays _ same.isSink same.mac same.myID same.hasSentAdvertMsg routed.idsSet
      (fun q member discovery => absurd discovery (routed.out_plain q member))
      (fun p found discovery => absurd discovery (other p found))

end

def IsAdvert (q : SRPacket) : Prop :=
  q.msgType = .discovery ∧ q.queryType = .unset ∧ q.destMACAddress = BROADCAST_ADDRESS
  deriving Decidable

variable {ι : Type*} [DecidableEq ι]

def idsOf (v : Snapshot ι) (i : ι) : List UInt16 :=
  (v.history.filter (fun record => record.node = i)).flatMap (fun record => idsSet record.notes)

def advertsOf (v : Snapshot ι) (i : ι) : List SRPacket :=
  (v.history.filter (fun record => record.node = i)).flatMap
    (fun record => record.out.filter (fun q => decide (IsAdvert q)))

variable (dep : Deployment ι)

structure Adopted (v : Snapshot ι) (i j : ι) (p : SRPacket) : Prop where
  received : ∃ record ∈ v.history, record.node = i ∧ record.cause = some (j, p) ∧
    idsSet record.notes = [(v.nodes i).myID]
  discovery : p.msgType = .discovery
  heard : dep.hears j i = true
  distance : distanceOf (v.nodes i).myID = distanceOf p.Id + 1
  area : areaOf (v.nodes i).myID = areaOf p.Id
  origin : (j = dep.sink ∧ distanceOf p.Id = 0) ∨
    (j ≠ dep.sink ∧ (v.nodes j).hasSentAdvertMsg = true ∧ (v.nodes j).myID = p.Id)

structure Identified (v : Snapshot ι) : Prop where
  roles : ∀ i, (v.nodes i).isSink = decide (i = dep.sink)
  macs : ∀ i, (v.nodes i).myMACAddress = dep.mac i
  sinkID : distanceOf (v.nodes dep.sink).myID = 0
  unset : ∀ i, i ≠ dep.sink → (v.nodes i).hasSentAdvertMsg = false → (v.nodes i).myID = 65535
  adopted : ∀ i, i ≠ dep.sink → (v.nodes i).hasSentAdvertMsg = true → ∃ j p, Adopted dep v i j p
  ext : ∀ i, i ≠ dep.sink → (v.nodes i).hasSentAdvertMsg = true →
    macExtOf (v.nodes i).myID = (dep.mac i).lastOctet.toNat
  once : ∀ i, i ≠ dep.sink →
    idsOf v i = if (v.nodes i).hasSentAdvertMsg then [(v.nodes i).myID] else []
  adverts : ∀ record ∈ v.history, record.node ≠ dep.sink →
    (record.out.filter (fun q => decide (IsAdvert q))).length = (idsSet record.notes).length

def SentAs (v : Snapshot ι) (i : ι) (p : SRPacket) : Prop :=
  p.msgType = .discovery → if i = dep.sink then distanceOf p.Id = 0
    else p.Id = 65535 ∨ ((v.nodes i).hasSentAdvertMsg = true ∧ (v.nodes i).myID = p.Id)

def HeardAs (v : Snapshot ι) (f : Radio.Flight ι SRPacket) : Prop :=
  SentAs dep v f.sender f.packet ∧ dep.hears f.sender f.receiver = true

section Step

variable {dep} {v : Snapshot ι} {i : ι} {cause : Option (ι × SRPacket)} {e : Eff}
  {p : Option SRPacket}

theorem Identified.sensor_iff (h : Identified dep v) (i : ι) : (v.nodes i).isSink = false ↔
    i ≠ dep.sink := by
  rw [h.roles i, decide_eq_false_iff_not]

theorem Identified.sink_iff (h : Identified dep v) (i : ι) : (v.nodes i).isSink = true ↔
    i = dep.sink := by
  rw [h.roles i, decide_eq_true_eq]

variable {j : ι}

theorem settled_after (cause : Option (ι × SRPacket)) (h : Identified dep v)
    (moves : Moves (v.nodes i) e p) (sensor : j ≠ dep.sink)
    (sent : (v.nodes j).hasSentAdvertMsg = true) :
    ((v.after i cause e).nodes j).hasSentAdvertMsg = true ∧
    ((v.after i cause e).nodes j).myID = (v.nodes j).myID := by
  by_cases here : j = i
  · subst here
    rw [after_self]
    cases moves with
    | stays _ _ _ myID same _ _ _ => exact ⟨same.trans sent, myID⟩
    | joins _ _ takes _ => exact absurd takes (Takes.not_of_sent sent)
    | answers _ sink _ _ _ _ => exact absurd ((h.sink_iff j).mp sink) sensor
  · rw [after_other here]
    exact ⟨sent, rfl⟩

variable {q : SRPacket}

theorem sentAs_after (h : Identified dep v) (moves : Moves (v.nodes i) e p)
    (old : SentAs dep v j q) : SentAs dep (v.after i cause e) j q := by
  intro discovery
  have before := old discovery
  split at before
  · rename_i sink
    rw [if_pos sink]
    exact before
  · rename_i sensor
    rw [if_neg sensor]
    rcases before with unset | ⟨sent, own⟩
    · exact .inl unset
    · obtain ⟨still, same⟩ := settled_after cause h moves sensor sent
      exact .inr ⟨still, same.trans own⟩

theorem adopted_after (h : Identified dep v) (moves : Moves (v.nodes i) e p) {k : ι}
    (sensor : j ≠ dep.sink) (sent : (v.nodes j).hasSentAdvertMsg = true)
    (old : Adopted dep v j k q) : Adopted dep (v.after i cause e) j k q := by
  have same := (settled_after cause h moves sensor sent).2
  obtain ⟨record, member, acted⟩ := old.received
  refine ⟨⟨record, mem_cons_of_mem _ member, same ▸ acted⟩, old.discovery, old.heard,
    same ▸ old.distance, same ▸ old.area, ?_⟩
  rcases old.origin with sink | ⟨other, sent', own⟩
  · exact .inl sink
  · obtain ⟨still, same'⟩ := settled_after cause h moves other sent'
    exact .inr ⟨other, still, same'.trans own⟩

theorem idsOf_after_self (v : Snapshot ι) (cause : Option (ι × SRPacket)) (e : Eff) :
    idsOf (v.after i cause e) i = idsSet e.notes ++ idsOf v i := by
  simp [idsOf, Radio.View.after]

theorem idsOf_after_other (v : Snapshot ι) (cause : Option (ι × SRPacket)) (e : Eff)
    (h : j ≠ i) : idsOf (v.after i cause e) j = idsOf v j := by
  simp [idsOf, Radio.View.after, Ne.symm h]

variable (h : Identified dep v)

include h

theorem adopted_now {s : ι} (discovery : q.msgType = .discovery)
    (heard : HeardAs dep v ⟨s, i, q⟩) (takes : Takes (v.nodes i) q)
    (join : Joins (v.nodes i) e q.Id) :
    Adopted dep (v.after i (some (s, q)) e) i s q := by
  have moves : Moves (v.nodes i) e (some q) := .joins q discovery takes join
  have self : ((v.after i (some (s, q)) e).nodes i) = e.node := after_self ..
  refine ⟨⟨_, mem_cons_self, rfl, rfl, self ▸ join.notes⟩, discovery, heard.2,
    self ▸ join.distance, self ▸ join.area, ?_⟩
  have sent := heard.1 discovery
  split at sent
  · rename_i sink
    exact .inl ⟨sink, sent⟩
  · rename_i other
    rcases sent with unset | ⟨named, own⟩
    · -- the unset id reads as distance fifteen, and no sensor gets past the assertion with it
      have far := join.distance
      have bound : distanceOf e.node.myID < 16 := Nat.mod_lt _ (by decide)
      have top : distanceOf 65535 = 15 := rfl
      rw [unset, top] at far
      omega
    · obtain ⟨still, same⟩ := settled_after (some (s, q)) h moves other named
      exact .inr ⟨other, still, same.trans own⟩

variable (moves : Moves (v.nodes i) e p)

include moves

theorem adverts_of_moves (sensor : i ≠ dep.sink) :
    (e.out.filter (fun q => decide (IsAdvert q))).length = (idsSet e.notes).length := by
  cases moves with
  | stays _ _ _ _ _ ids out _ =>
    rw [ids, filter_eq_nil_iff.mpr]
    · rfl
    · intro q member advert
      obtain ⟨discovery, unset, -⟩ := of_decide_eq_true advert
      rw [(out q member discovery).2.1] at unset
      cases unset
  | joins _ _ _ join =>
    obtain ⟨q, out, sends⟩ := join.out
    have advert : IsAdvert q := ⟨sends.msgType, sends.queryType, sends.dest⟩
    simp [out, join.notes, advert]
  | answers _ sink _ _ _ _ => exact absurd ((h.sink_iff i).mp sink) sensor

theorem sent_cases (sensor : j ≠ dep.sink)
    (sent : ((v.after i cause e).nodes j).hasSentAdvertMsg = true) : (v.nodes j).hasSentAdvertMsg =
    true ∨ j = i ∧ ∃ q, p = some q ∧ q.msgType = .discovery ∧ Takes (v.nodes i) q ∧
        Joins (v.nodes i) e q.Id := by
  by_cases here : j = i
  · subst here
    rw [after_self] at sent
    cases moves with
    | stays _ _ _ _ same _ _ _ => exact .inl (same.symm.trans sent)
    | joins q discovery takes join => exact .inr ⟨rfl, q, rfl, discovery, takes, join⟩
    | answers _ sink _ _ _ _ => exact absurd ((h.sink_iff j).mp sink) sensor
  · rw [after_other here] at sent
    exact .inl sent

theorem unsent_before (sensor : j ≠ dep.sink)
    (unsent : ((v.after i cause e).nodes j).hasSentAdvertMsg = false) :
    (v.nodes j).hasSentAdvertMsg = false ∧ ((v.after i cause e).nodes j).myID = (v.nodes j).myID ∧
      idsOf (v.after i cause e) j = idsOf v j := by
  by_cases here : j = i
  · subst here
    rw [idsOf_after_self]
    rw [after_self] at unsent ⊢
    cases moves with
    | stays _ _ _ myID same ids _ _ => exact ⟨same.symm.trans unsent, myID, by rw [ids]; rfl⟩
    | joins _ _ _ join =>
      rw [join.sent] at unsent
      cases unsent
    | answers _ sink _ _ _ _ => exact absurd ((h.sink_iff j).mp sink) sensor
  · rw [idsOf_after_other v cause e here]
    rw [after_other here] at unsent ⊢
    exact ⟨unsent, rfl, rfl⟩

theorem idsOf_settled (sensor : j ≠ dep.sink) (sent : (v.nodes j).hasSentAdvertMsg = true) :
    idsOf (v.after i cause e) j = idsOf v j := by
  by_cases here : j = i
  · subst here
    rw [idsOf_after_self]
    cases moves with
    | stays _ _ _ _ _ ids _ _ =>
      rw [ids]
      rfl
    | joins _ _ takes _ => exact absurd takes (Takes.not_of_sent sent)
    | answers _ sink _ _ _ _ => exact absurd ((h.sink_iff j).mp sink) sensor
  · exact idsOf_after_other v cause e here

theorem sink_distance_after : distanceOf ((v.after i cause e).nodes dep.sink).myID = 0 := by
  by_cases here : dep.sink = i
  · subst here
    rw [after_self]
    have old := h.sinkID
    cases moves with
    | stays _ _ _ myID _ _ _ _ =>
      rw [myID]
      exact old
    | joins _ _ takes _ => exact absurd rfl ((h.sensor_iff _).mp takes.sensor)
    | answers _ _ _ _ distance _ => exact distance.trans old
  · rw [after_other here]
    exact h.sinkID

theorem identified_after (link : cause.map Prod.snd = p)
    (caused : ∀ s q, cause = some (s, q) → HeardAs dep v ⟨s, i, q⟩) :
    Identified dep (v.after i cause e) := by
  constructor
  · intro j
    rw [after_frame SR.isSink moves.isSink j]
    exact h.roles j
  · intro j
    rw [after_frame SR.myMACAddress moves.mac j]
    exact h.macs j
  · exact sink_distance_after h moves
  · intro j sensor unsent
    obtain ⟨before, same, -⟩ := unsent_before h moves sensor unsent
    exact same.trans (h.unset j sensor before)
  · intro j sensor sent
    rcases sent_cases h moves sensor sent with before | ⟨rfl, q, rfl, discovery, takes, join⟩
    · obtain ⟨k, q, adopted⟩ := h.adopted j sensor before
      exact ⟨k, q, adopted_after h moves sensor before adopted⟩
    · obtain ⟨⟨s, q⟩, rfl, rfl⟩ := Option.map_eq_some_iff.mp link
      exact ⟨s, q, adopted_now h discovery (caused s q rfl) takes join⟩
  · intro j sensor sent
    rcases sent_cases h moves sensor sent with before | ⟨rfl, q, rfl, discovery, takes, join⟩
    · rw [(settled_after cause h moves sensor before).2]
      exact h.ext j sensor before
    · rw [after_self, ← h.macs j]
      exact join.ext
  · intro j sensor
    cases sent : ((v.after i cause e).nodes j).hasSentAdvertMsg with
    | false =>
      obtain ⟨before, -, ids⟩ := unsent_before h moves sensor sent
      rw [ids, h.once j sensor, before]
      rfl
    | true =>
      rcases sent_cases h moves sensor sent with before | ⟨rfl, q, rfl, discovery, takes, join⟩
      · rw [idsOf_settled h moves sensor before, (settled_after cause h moves sensor before).2,
          h.once j sensor, before]
      · rw [idsOf_after_self, join.notes, h.once j sensor, takes.new, after_self]
        rfl
  · intro record member sensor
    rcases mem_cons.mp member with rfl | old
    · exact adverts_of_moves h moves sensor
    · exact h.adverts record old sensor

theorem sentAs_now : ∀ q ∈ e.out, SentAs dep (v.after i cause e) i q := by
  intro q member discovery
  have whole := moves
  cases moves with
  | stays _ _ _ myID sent _ out _ =>
    obtain ⟨sensor, -, own⟩ := out q member discovery
    have other := (h.sensor_iff i).mp sensor
    rw [if_neg other]
    cases named : (v.nodes i).hasSentAdvertMsg with
    | false => exact .inl (own.trans (h.unset i other named))
    | true =>
      obtain ⟨still, same⟩ := settled_after cause h whole other named
      exact .inr ⟨still, same.trans own.symm⟩
  | joins _ _ takes join =>
    obtain ⟨r, out, sends⟩ := join.out
    rw [out, mem_singleton] at member
    rw [if_neg ((h.sensor_iff i).mp takes.sensor), after_self, member]
    exact .inr ⟨join.sent, sends.id.symm⟩
  | answers _ sink _ _ distance out =>
    obtain ⟨r, out, sends⟩ := out
    rw [out, mem_singleton] at member
    have here := (h.sink_iff i).mp sink
    subst here
    rw [if_pos rfl, member, sends.id, distance]
    exact h.sinkID

end Step

theorem identity_inductive : dep.net.Inductive (Identified dep) (SentAs dep) (HeardAs dep) := by
  constructor
  · intro v i j q _ sent heard _
    exact ⟨sent, heard⟩
  · intro v i cause input e view caused acted
    have moves := handleMessage_moves acted
    exact ⟨identified_after view moves rfl caused, sentAs_now view moves, fun j q old =>
      sentAs_after view moves old, fun f old => ⟨sentAs_after view moves old.1, old.2⟩⟩

variable {dep}

theorem identity_start {w : World ι} (booted : dep.Booted w) :
    Radio.System.Holds (Identified dep) (SentAs dep) (HeardAs dep) w := by
  refine ⟨?_, ?_, ?_⟩
  · have none : ∀ i, (w.nodes i).hasSentAdvertMsg ≠ true := fun i sent => by
      rw [booted.silent i] at sent
      cases sent
    refine ⟨booted.roles, booted.macs, booted.sinkID, fun i sensor _ => booted.unset i sensor,
      fun i _ sent => absurd sent (none i), fun i _ sent => absurd sent (none i), ?_, ?_⟩
    · intro i _
      simp [idsOf, booted.history, booted.silent i]
    · simp [booted.history]
  · obtain ⟨q, pending, sends⟩ := booted.pending
    intro x member _
    rw [pending, mem_singleton] at member
    subst member
    rw [if_pos rfl, sends.id]
    exact booted.sinkID
  · simp [booted.air]

theorem identity_holds {c : World ι} (reached : dep.Reachable c) :
    Radio.System.Holds (Identified dep) (SentAs dep) (HeardAs dep) c := by
  apply reached.invariant dep
  · exact fun w booted => identity_start booted
  · exact fun c ev d known stepped => (identity_inductive dep).step known stepped

/-- A chain of received messages from the sink to a node, each of which gave its receiver its
identity: one hop further, in the same area. -/
inductive Chain (dep : Deployment ι) (v : Snapshot ι) (area : Nat) : Nat → ι → Prop where
  | sink : Chain dep v area 0 dep.sink
  | hop {d : Nat} {i j : ι} {p : SRPacket} (rest : Chain dep v area d j)
      (adopted : Adopted dep v i j p) (distance : distanceOf p.Id = d) (same : areaOf p.Id = area) :
      Chain dep v area (d + 1) i

variable {v : Snapshot ι} {i : ι}

theorem chain_of_identity (h : Identified dep v) (d : Nat)
    (sensor : i ≠ dep.sink) (sent : (v.nodes i).hasSentAdvertMsg = true)
    (distance : distanceOf (v.nodes i).myID = d) :
    1 ≤ d ∧ Chain dep v (areaOf (v.nodes i).myID) d i := by
  induction d generalizing i with
  | zero =>
    obtain ⟨j, p, adopted⟩ := h.adopted i sensor sent
    have positive := adopted.distance
    omega
  | succ d ih =>
    obtain ⟨j, p, adopted⟩ := h.adopted i sensor sent
    have before : distanceOf p.Id = d := by
      have next := adopted.distance
      omega
    refine ⟨by omega, ?_⟩
    rw [adopted.area]
    rcases adopted.origin with ⟨rfl, zero⟩ | ⟨other, named, own⟩
    · have first : d = 0 := before.symm.trans zero
      subst first
      exact .hop .sink adopted before rfl
    · have rest := (ih other named (own ▸ before)).2
      rw [own] at rest
      exact .hop rest adopted before rfl

omit [DecidableEq ι] in
theorem Chain.route {area d : Nat} (h : Chain dep v area d i) :
    ∃ path, Radio.Route dep.hears dep.sink path i ∧ path.length = d := by
  induction h with
  | sink => exact ⟨[], .here, rfl⟩
  | hop _ adopted _ _ ih =>
    obtain ⟨path, route, rfl⟩ := ih
    exact ⟨_ :: path, .hop route adopted.heard, rfl⟩

theorem adverts_length (h : Identified dep v) (sensor : i ≠ dep.sink) :
    (advertsOf v i).length = (idsOf v i).length := by
  have every := h.adverts
  unfold advertsOf idsOf
  generalize v.history = history at every
  induction history with
  | nil => rfl
  | cons record history ih =>
    have rest := ih (fun r member => every r (mem_cons_of_mem _ member))
    by_cases here : record.node = i
    · have now := every record mem_cons_self (here ▸ sensor)
      simp only [filter_cons, here, decide_true, if_true, flatMap_cons, length_append, now, rest]
    · simpa only [filter_cons, here, decide_false, Bool.false_eq_true, if_false] using rest

/-- Each sensor sets its id at most once and broadcasts one advertisement then; an id of distance
`d` ends a chain of `d` messages from the sink. -/
theorem identities_spread_from_sink (dep : Deployment ι) (c : World ι) (reached : dep.Reachable c)
    (i : ι) (sensor : i ≠ dep.sink) :
    (idsOf c.toView i).length ≤ 1 ∧ (advertsOf c.toView i).length ≤ 1 ∧
    (∀ record ∈ c.history, record.node = i →
      (idsSet record.notes ≠ [] ↔ ∃ q ∈ record.out, IsAdvert q)) ∧
    ((c.nodes i).myID ≠ 65535 → 1 ≤ distanceOf (c.nodes i).myID ∧
      Chain dep c.toView (areaOf (c.nodes i).myID) (distanceOf (c.nodes i).myID) i ∧
      Radio.hopDistance dep.hears dep.sink i ≤ distanceOf (c.nodes i).myID) := by
  obtain ⟨view, -, -⟩ := identity_holds reached
  have ids : (idsOf c.toView i).length ≤ 1 := by
    rw [view.once i sensor]
    split <;> simp
  refine ⟨ids, (adverts_length view sensor).trans_le ids, ?_, ?_⟩
  · intro record member here
    have equal := view.adverts record member (here ▸ sensor)
    rw [← length_pos_iff, ← equal, length_pos_iff_exists_mem]
    simp only [mem_filter, decide_eq_true_eq]
  · intro named
    have sent : (c.nodes i).hasSentAdvertMsg = true := by
      by_contra unsent
      exact named (view.unset i sensor (Bool.eq_false_iff.mpr unsent))
    obtain ⟨positive, chain⟩ := chain_of_identity view _ sensor sent rfl
    obtain ⟨path, route, length⟩ := chain.route
    exact ⟨positive, chain, length ▸ Radio.hopDistance_le route⟩

def joinTwoHops (sink relay : ι) (receivers : List ι) : List (Radio.Event ι Input) :=
  [.transmit 0 [relay], .deliver 0 { draws := [1] }, .transmit 0 [sink], .deliver 0 {},
    .transmit 0 [relay], .deliver 0 { draws := [3, 7] }, .transmit 0 receivers] ++
  receivers.map (fun _ => .deliver 0 { draws := [4, 9] })

def relayLine : Deployment (Fin 3) := .linked 2 [(0, 1), (1, 2)] (by decide)

theorem relayLine_spreads : ∃ c, relayLine.Reachable c ∧ (c.nodes 2).myID = 200 ∧
      (advertsOf c.toView 2).length ≤ 1 ∧ Chain relayLine c.toView 0 2 2 := by
  obtain ⟨c, reached, named⟩ := relayLine.reachable_of_run (joinTwoHops 0 1 [2])
    (fun c => (c.nodes 2).myID = 200) (by decide +kernel)
  obtain ⟨-, adverts, -, spread⟩ := identities_spread_from_sink relayLine c reached 2 (by decide)
  rw [named] at spread
  exact ⟨c, reached, named, adverts, (spread (by decide)).2.1⟩

end Srwsn
