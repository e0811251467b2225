import Srwsn.SR.Identity

/-! The handshake with the sink: a sensor asks it once, and it answers each request with a new 
area. -/
namespace Srwsn
open SR MACAddress IDBuilder List Radio.Config

def Asks (p : SRPacket) : Prop := p.msgType = .discovery ∧ p.queryType = .request
  deriving Decidable

inductive Turn (me : SR) (e : Eff) : Option SRPacket → Prop where
  | keeps (cause : Option SRPacket) (first : e.node.firstSinkMsg = me.firstSinkMsg)
      (number : e.node.areaNumber = me.areaNumber)
      (out : ∀ q ∈ e.out, q.msgType = .discovery → me.isSink = false ∧ q.queryType = .unset ∧
        q.srcMACAddress = me.myMACAddress ∧ e.node.hasSentAdvertMsg = true ∧ e.node.myID = q.Id)
      (answer : me.isSink = true → ∀ p, cause = some p → ¬ Asks p) : Turn me e cause
  | asks (p q : SRPacket) (discovery : p.msgType = .discovery) (sensor : me.isSink = false)
      (first : me.firstSinkMsg = true) (near : distanceOf p.Id = 0)
      (after : e.node.firstSinkMsg = false) (number : e.node.areaNumber = me.areaNumber)
      (out : e.out = [q]) (sends : Sends me .request me.myID p.srcMACAddress q) : Turn me e (some p)
  | answers (p q : SRPacket) (sink : me.isSink = true) (request : Asks p)
      (number : e.node.areaNumber.toNat = me.areaNumber.toNat + 1) (out : e.out = [q])
      (sends : Sends me .reply e.node.myID p.srcMACAddress q) : Turn me e (some p)

theorem handleMessage_turn {me : SR} {st : Statics} {input : Input} {cause : Option SRPacket}
    {e : Eff} (h : me.handleMessage st input cause = .ok e) : Turn me e cause := by
  rcases handleMessage_cases h with ⟨p, rfl, discovery, discovered⟩ | ⟨routed, same, other⟩
  · cases discovered with
    | heard same out _ answer _ =>
      refine .keeps _ same.firstSinkMsg same.areaNumber (by simp [out]) ?_
      rintro sink _ ⟨⟩ request
      exact answer sink request.2
    | joined takes join =>
      refine .keeps _ join.firstSinkMsg join.areaNumber ?_ (by simp [takes.sensor])
      obtain ⟨q, out, sends⟩ := join.out
      intro r member _
      rw [out, mem_singleton] at member
      rw [member]
      exact ⟨takes.sensor, sends.queryType, sends.src, join.sent, sends.id.symm⟩
    | asked sensor first near node out _ =>
      obtain ⟨q, out, sends⟩ := out
      exact .asks p q discovery sensor first near node.firstSinkMsg node.areaNumber out sends
    | answered sink request room node _ out _ =>
      obtain ⟨q, out, sends⟩ := out
      refine .answers p q sink ⟨discovery, request⟩ ?_ out sends
      rw [node.areaNumber, UInt16.toNat_add]
      exact Nat.mod_eq_of_lt (by change _ + 1 < 65536; omega)
  · exact .keeps _ same.firstSinkMsg same.areaNumber
      (fun q member discovery => absurd discovery (routed.out_plain q member))
      (fun _ p found request => other p found request.1)

variable {ι : Type*} [DecidableEq ι] (dep : Deployment ι)

structure Linked (i : ι) : Prop where
  sensor : i ≠ dep.sink
  speaks : dep.hears i dep.sink = true
  listens : dep.hears dep.sink i = true

def Answered (i : ι) : Prop :=
  ∃ t, Linked dep t ∧ (dep.mac t = dep.mac i ∨ (dep.mac t).isBroadcast = true)

structure Signed (v : Snapshot ι) (i : ι) (p : SRPacket) : Prop where
  src : p.msgType = .discovery → p.srcMACAddress = dep.mac i
  ask : i ≠ dep.sink → Asks p →
    p.destMACAddress = dep.mac dep.sink ∧ dep.hears dep.sink i = true
  advert : i ≠ dep.sink → p.msgType = .discovery → p.queryType ≠ .request →
    (v.nodes i).hasSentAdvertMsg = true ∧ (v.nodes i).myID = p.Id
  sink : i = dep.sink → p.msgType = .discovery → p.queryType = .request ∨
    ∃ t, Linked dep t ∧ p.destMACAddress = dep.mac t

def SignedAs (v : Snapshot ι) (i : ι) (p : SRPacket) : Prop := SentAs dep v i p ∧ Signed dep v i p

structure SignedFlight (v : Snapshot ι) (f : Radio.Flight ι SRPacket) : Prop where
  heard : HeardAs dep v f
  signed : Signed dep v f.sender f.packet
  reaches : f.packet.destMACAddress = dep.mac f.receiver ∨
    f.packet.destMACAddress.isBroadcast = true

section Step

variable {dep} {v : Snapshot ι} {i : ι} {cause : Option (ι × SRPacket)} {e : Eff}
  {p : Option SRPacket}

theorem sender_of_near (h : Identified dep v) {s j : ι} {p : SRPacket}
    (discovery : p.msgType = .discovery) (near : distanceOf p.Id = 0)
    (heard : HeardAs dep v ⟨s, j, p⟩) : s = dep.sink := by
  by_contra sensor
  have sent := heard.1 discovery
  rw [if_neg sensor] at sent
  rcases sent with unset | ⟨named, own⟩
  · rw [unset] at near
    cases near
  · have far := (chain_of_identity h _ sensor named rfl).1
    rw [own, near] at far
    omega

theorem ne_sink_of_heard {s : ι} {q : SRPacket} (heard : HeardAs dep v ⟨s, dep.sink, q⟩) :
    s ≠ dep.sink := by
  rintro rfl
  have loop := heard.2
  rw [dep.deaf] at loop
  cases loop

theorem signed_after (h : Identified dep v) (moves : Moves (v.nodes i) e p) {j : ι} {q : SRPacket}
    (old : Signed dep v j q) : Signed dep (v.after i cause e) j q := by
  refine ⟨old.src, old.ask, fun sensor discovery other => ?_, old.sink⟩
  obtain ⟨sent, own⟩ := old.advert sensor discovery other
  obtain ⟨still, same⟩ := settled_after cause h moves sensor sent
  exact ⟨still, same.trans own⟩

theorem signed_now (h : Identified dep v) (turn : Turn (v.nodes i) e p)
    (link : cause.map Prod.snd = p)
    (caused : ∀ s q, cause = some (s, q) → SignedFlight dep v ⟨s, i, q⟩) :
    ∀ q ∈ e.out, Signed dep (v.after i cause e) i q := by
  intro q member
  have self : (v.after i cause e).nodes i = e.node := Radio.View.after_self ..
  cases turn with
  | keeps _ _ _ out _ =>
    refine ⟨fun discovery => ?_, fun _ request => ?_, fun _ discovery _ => ?_,
      fun here discovery => ?_⟩
    · exact (out q member discovery).2.2.1.trans (h.macs i)
    · have unset := (out q member request.1).2.1
      rw [request.2] at unset
      cases unset
    · rw [self]
      exact (out q member discovery).2.2.2
    · exact absurd here ((h.sensor_iff i).mp (out q member discovery).1)
  | asks r s discovery sensor first near after _ out sends =>
    obtain ⟨⟨t, r⟩, rfl, rfl⟩ := Option.map_eq_some_iff.mp link
    have flight := caused t r rfl
    have sender := sender_of_near h discovery near flight.heard
    subst sender
    rw [out, mem_singleton] at member
    subst member
    refine ⟨fun _ => sends.src.trans (h.macs i), fun _ _ => ⟨?_, flight.heard.2⟩,
      fun _ _ other => ?_, fun here _ => absurd here ((h.sensor_iff i).mp sensor)⟩
    · exact sends.dest.trans (flight.signed.src discovery)
    · exact absurd sends.queryType other
  | answers r s sink request _ out sends =>
    obtain ⟨⟨t, r⟩, rfl, rfl⟩ := Option.map_eq_some_iff.mp link
    have flight := caused t r rfl
    have here := (h.sink_iff i).mp sink
    subst here
    have other := ne_sink_of_heard flight.heard
    rw [out, mem_singleton] at member
    subst member
    refine ⟨fun _ => sends.src.trans (h.macs _), fun sensor => absurd rfl sensor,
      fun sensor => absurd rfl sensor, fun _ _ => .inr ⟨t, ?_, ?_⟩⟩
    · exact ⟨other, flight.heard.2, (flight.signed.ask other request).2⟩
    · exact sends.dest.trans (flight.signed.src request.1)

end Step

theorem signed_inductive :
    dep.net.Inductive (Identified dep) (SignedAs dep) (SignedFlight dep) := by
  constructor
  · intro v i j q view sent heard accepted
    refine ⟨⟨sent.1, heard⟩, sent.2, ?_⟩
    have taken : SR.accepts (v.nodes j) q = true := accepted
    simp only [SR.accepts, Bool.or_eq_true, equals_iff] at taken
    exact taken.imp_left (fun mine => mine.trans (view.macs j))
  · intro v i cause input e view caused acted
    have moves := handleMessage_moves acted
    have turn := handleMessage_turn acted
    refine ⟨identified_after view moves rfl (fun s q h => (caused s q h).heard), ?_, ?_, ?_⟩
    · exact fun q member => ⟨sentAs_now view moves q member,
        signed_now view turn rfl caused q member⟩
    · exact fun j q old => ⟨sentAs_after view moves old.1, signed_after view moves old.2⟩
    · exact fun f old => ⟨⟨sentAs_after view moves old.heard.1, old.heard.2⟩,
        signed_after view moves old.signed, old.reaches⟩

def asked (v : Snapshot ι) : List (ι × SRPacket) :=
  v.history.filterMap (fun record =>
    if record.node = dep.sink then record.cause.filter (fun x => decide (Asks x.2)) else none)

def handled (v : Snapshot ι) : List ι := (asked dep v).map Prod.fst

def askOf (s i : ι) (p : SRPacket) : Bool := decide (i = s ∧ Asks p)

def allowance (v : Snapshot ι) (s : ι) : Nat := if (v.nodes s).firstSinkMsg then 0 else 1

structure Counted (c : World ι) : Prop where
  number : (c.nodes dep.sink).areaNumber.toNat = (handled dep c.toView).length
  linked : ∀ s ∈ handled dep c.toView, Linked dep s
  single : ∀ s, s ≠ dep.sink →
    (handled dep c.toView).count s + c.load (askOf s) dep.sink ≤ allowance c.toView s

structure Greeted (c : World ι) : Prop where
  once : ∀ i, i ≠ dep.sink → ¬ Answered dep i →
    c.load (askOf dep.sink) i ≤ if (c.nodes i).firstSinkMsg then 1 else 0
  joined : ∀ record ∈ c.history, record.node ≠ dep.sink → ∀ p, record.cause = some (dep.sink, p) →
    idsSet record.notes ≠ [] → Answered dep record.node

section Count

variable {dep} {c d : World ι} {v : Snapshot ι} {i : ι} {cause : Option (ι × SRPacket)} {e : Eff}
  {p : Option SRPacket}

variable {q : SRPacket}

theorem asked_after_ask {s : ι} (request : Asks q) :
    asked dep (v.after dep.sink (some (s, q)) e) = (s, q) :: asked dep v := by
  apply filterMap_cons_some
  simp [request]

theorem asked_after_other (h : i = dep.sink → ∀ q, cause.map Prod.snd = some q → ¬ Asks q) :
    asked dep (v.after i cause e) = asked dep v := by
  apply filterMap_cons_none
  split
  · rename_i here
    cases cause with
    | none => rfl
    | some x => simp [h here x.2 rfl]
  · rfl

theorem allowance_after (cause : Option (ι × SRPacket)) (h : Identified dep v)
    (turn : Turn (v.nodes i) e p) {s : ι} (sensor : s ≠ dep.sink) :
    allowance v s + e.out.countP (askOf s i) ≤ allowance (v.after i cause e) s := by
  by_cases here : i = s
  · subst here
    simp only [allowance, Radio.View.after_self]
    cases turn with
    | keeps _ first _ out _ =>
      have none : e.out.countP (askOf i i) = 0 := by
        apply countP_eq_zero.mpr
        intro q member asks
        have request := (of_decide_eq_true asks).2
        have unset := (out q member request.1).2.1
        rw [request.2] at unset
        cases unset
      rw [none, first]
      exact Nat.le_refl _
    | asks _ q _ _ first _ after _ out _ =>
      have one := countP_le_length (p := askOf i i) (l := e.out)
      rw [out] at one ⊢
      simpa [first, after] using one
    | answers _ _ sink _ _ _ _ => exact absurd ((h.sink_iff i).mp sink) sensor
  · have none : e.out.countP (askOf s i) = 0 := by
      apply countP_eq_zero.mpr
      intro q _ asks
      exact here (of_decide_eq_true asks).1
    rw [none, allowance, allowance, Radio.View.after_other (Ne.symm here)]
    exact Nat.le_refl _

theorem sink_asks_no_more (h : Identified dep v) (turn : Turn (v.nodes i) e p) :
    e.out.countP (askOf dep.sink i) = 0 := by
  apply countP_eq_zero.mpr
  intro q member asks
  obtain ⟨here, request⟩ := of_decide_eq_true asks
  cases turn with
  | keeps _ _ _ out _ => exact (h.sensor_iff i).mp (out q member request.1).1 here
  | asks _ _ _ sensor _ _ _ _ _ _ => exact (h.sensor_iff i).mp sensor here
  | answers _ r _ _ _ out sends =>
    rw [out, mem_singleton] at member
    have reply := sends.queryType
    rw [← member, request.2] at reply
    cases reply

theorem counted_act (counted : Counted dep c) (h : Identified dep c.toView)
    (view : d.toView = c.toView.after i cause e) (turn : Turn (c.nodes i) e p)
    (link : cause.map Prod.snd = p)
    (caused : ∀ s q, cause = some (s, q) → SignedFlight dep c.toView ⟨s, i, q⟩)
    (load : ∀ s, d.load (askOf s) dep.sink + Radio.consumed (askOf s) dep.sink i cause =
      c.load (askOf s) dep.sink + e.out.countP (askOf s i)) : Counted dep d := by
  -- requests handled, on the air and scheduled together never exceed what a sensor may make
  have total : (∀ s, (handled dep d.toView).count s ≤
      (handled dep c.toView).count s + Radio.consumed (askOf s) dep.sink i cause) →
      ∀ s, s ≠ dep.sink →
      (handled dep d.toView).count s + d.load (askOf s) dep.sink ≤ allowance d.toView s := by
    intro more s sensor
    have before := counted.single s sensor
    have grown := allowance_after cause h turn sensor
    rw [← view] at grown
    have now := more s
    have sum := load s
    omega
  have unhandled : (i = dep.sink → ∀ q, cause.map Prod.snd = some q → ¬ Asks q) →
      e.node.areaNumber = (c.nodes i).areaNumber → Counted dep d := by
    intro other number
    have same : handled dep d.toView = handled dep c.toView := by
      rw [view]
      exact congrArg (List.map Prod.fst) (asked_after_other other)
    refine ⟨?_, ?_, total (fun s => by rw [same]; exact Nat.le_add_right _ _)⟩
    · rw [same, view, Radio.View.after_frame SR.areaNumber number]
      exact counted.number
    · rw [same]
      exact counted.linked
  cases turn with
  | keeps _ _ number _ answer =>
    apply unhandled _ number
    intro here q found request
    exact answer ((h.sink_iff i).mpr here) q (link.symm.trans found) request
  | asks r q _ sensor _ _ _ number _ _ =>
    exact unhandled (fun here => absurd here ((h.sensor_iff i).mp sensor)) number
  | answers r q sink request number _ _ =>
    obtain ⟨⟨t, r⟩, rfl, rfl⟩ := Option.map_eq_some_iff.mp link
    have flight := caused t r rfl
    have here := (h.sink_iff i).mp sink
    subst here
    have other := ne_sink_of_heard flight.heard
    have grown : handled dep d.toView = t :: handled dep c.toView := by
      rw [view]
      exact congrArg (List.map Prod.fst) (asked_after_ask request)
    refine ⟨?_, ?_, total (fun s => ?_)⟩
    · rw [grown, view, Radio.View.after_self, number, counted.number, length_cons]
    · rw [grown]
      intro s member
      rcases mem_cons.mp member with rfl | old
      · exact ⟨other, flight.heard.2, (flight.signed.ask other request).2⟩
      · exact counted.linked s old
    · rw [grown, count_cons]
      by_cases same : t = s
      · simp [Radio.consumed, askOf, same, request]
      · simp [Radio.consumed, askOf, same]

theorem opening_or_answered (flight : SignedFlight dep v ⟨dep.sink, i, q⟩)
    (discovery : q.msgType = .discovery) : Asks q ∨ Answered dep i := by
  rcases flight.signed.sink rfl discovery with request | ⟨t, linked, dest⟩
  · exact .inl ⟨discovery, request⟩
  · have reaches := flight.reaches
    rw [dest] at reaches
    exact .inr ⟨t, linked, reaches⟩

theorem load_of_opening (h : Identified dep c.toView) (turn : Turn (c.nodes i) e p)
    (load : d.load (askOf dep.sink) i + Radio.consumed (askOf dep.sink) i i (some (dep.sink, q)) =
      c.load (askOf dep.sink) i + e.out.countP (askOf dep.sink i)) (request : Asks q) :
    d.load (askOf dep.sink) i + 1 = c.load (askOf dep.sink) i := by
  have one : Radio.consumed (askOf dep.sink) i i (some (dep.sink, q)) = 1 := by
    simp [Radio.consumed, askOf, request]
  rw [sink_asks_no_more h turn, one] at load
  exact load

theorem answered_of_join (greeted : Greeted dep c) (h : Identified dep c.toView)
    (flight : SignedFlight dep c.toView ⟨dep.sink, i, q⟩) (discovery : q.msgType = .discovery)
    (takes : Takes (c.nodes i) q) (flying : Asks q → 0 < c.load (askOf dep.sink) i) :
    Answered dep i := by
  by_contra unanswered
  have request := (opening_or_answered flight discovery).resolve_right unanswered
  have near := flight.heard.1 discovery
  rw [if_pos rfl] at near
  have once := greeted.once i ((h.sensor_iff i).mp takes.sensor) unanswered
  rw [takes.sink near] at once
  exact absurd (flying request) (Nat.not_lt.mpr once)

theorem greeted_act (greeted : Greeted dep c) (h : Identified dep c.toView)
    (view : d.toView = c.toView.after i cause e) (moves : Moves (c.nodes i) e p)
    (turn : Turn (c.nodes i) e p) (link : cause.map Prod.snd = p)
    (caused : ∀ s q, cause = some (s, q) → SignedFlight dep c.toView ⟨s, i, q⟩)
    (load : ∀ r, d.load (askOf dep.sink) r + Radio.consumed (askOf dep.sink) r i cause =
      c.load (askOf dep.sink) r + e.out.countP (askOf dep.sink i)) : Greeted dep d := by
  have fewer : ∀ r, d.load (askOf dep.sink) r ≤ c.load (askOf dep.sink) r := by
    intro r
    have sum := load r
    rw [sink_asks_no_more h turn] at sum
    omega
  constructor
  · intro r sensor unanswered
    have before := greeted.once r sensor unanswered
    have unchanged : (d.nodes r).firstSinkMsg = (c.nodes r).firstSinkMsg →
        d.load (askOf dep.sink) r ≤ if (d.nodes r).firstSinkMsg then 1 else 0 := by
      intro same
      rw [same]
      exact (fewer r).trans before
    by_cases here : r = i
    · subst here
      rw [view, Radio.View.after_self] at unchanged ⊢
      have whole := turn
      cases turn with
      | keeps _ first _ _ _ => exact unchanged first
      | asks q _ discovery _ first near after _ _ _ =>
        obtain ⟨⟨t, q⟩, rfl, rfl⟩ := Option.map_eq_some_iff.mp link
        have flight := caused t q rfl
        have sender := sender_of_near h discovery near flight.heard
        subst sender
        have request := (opening_or_answered flight discovery).resolve_right unanswered
        have sum := load_of_opening h whole (load r) request
        rw [first, if_pos rfl] at before
        rw [after]
        omega
      | answers _ _ sink _ _ _ _ => exact absurd ((h.sink_iff r).mp sink) sensor
    · apply unchanged
      rw [view, Radio.View.after_other here]
  · rw [view]
    intro record member sensor q opened ids
    rcases mem_cons.mp member with rfl | old
    · have whole := turn
      cases moves with
      | stays _ _ _ _ _ none _ _ => exact absurd none ids
      | joins r discovery takes _ =>
        obtain ⟨⟨t, r⟩, rfl, rfl⟩ := Option.map_eq_some_iff.mp link
        cases opened
        refine answered_of_join greeted h (caused dep.sink q rfl) discovery takes
          (fun request => ?_)
        rw [← load_of_opening h whole (load i) request]
        exact Nat.succ_pos _
      | answers _ sink _ _ _ _ => exact absurd ((h.sink_iff i).mp sink) sensor
    · exact greeted.joined record old sensor q opened ids

theorem handshake_step (counted : Counted dep c) (greeted : Greeted dep c)
    (known : Radio.System.Holds (Identified dep) (SignedAs dep) (SignedFlight dep) c)
    {ev : Radio.Event ι Input} (h : dep.Advances c ev d) : Counted dep d ∧ Greeted dep d := by
  obtain ⟨k, receivers, i, q, -, found, nodup, -, rfl⟩ |
    ⟨k, input, f, e, -, found, acted, rfl⟩ | ⟨i, input, e, -, acted, rfl⟩ :=
    Radio.System.step_cases h
  · constructor
    · refine ⟨counted.number, counted.linked, fun s sensor => ?_⟩
      have fewer := load_sent found nodup (askOf s) dep.sink
      exact (Nat.add_le_add_left fewer _).trans (counted.single s sensor)
    · refine ⟨fun r sensor unanswered => ?_, greeted.joined⟩
      have fewer := load_sent found nodup (askOf dep.sink) r
      exact fewer.trans (greeted.once r sensor unanswered)
  · have ran : (c.nodes f.receiver).handleMessage c.shared input (some f.packet) = .ok e := acted
    have caused : ∀ s q, some (f.sender, f.packet) = some (s, q) →
        SignedFlight dep c.toView ⟨s, f.receiver, q⟩ := by
      rintro s q ⟨⟩
      exact known.2.2 f (mem_of_getElem? found)
    have turn := handleMessage_turn ran
    exact ⟨counted_act counted known.1 rfl turn rfl caused
        (fun s => load_delivered found (askOf s) dep.sink),
      greeted_act greeted known.1 rfl (handleMessage_moves ran) turn rfl caused
        (fun r => load_delivered found (askOf dep.sink) r)⟩
  · have ran : (c.nodes i).handleMessage c.shared input none = .ok e := acted
    have caused : ∀ s q, none = some (s, q) → SignedFlight dep c.toView ⟨s, i, q⟩ := by
      rintro s q ⟨⟩
    have turn := handleMessage_turn ran
    exact ⟨counted_act counted known.1 rfl turn rfl caused (fun s => load_woken (askOf s) dep.sink),
      greeted_act greeted known.1 rfl (handleMessage_moves ran) turn rfl caused
        (fun r => load_woken (askOf dep.sink) r)⟩

variable {w : World ι}

theorem signed_start (booted : dep.Booted w) :
    Radio.System.Holds (Identified dep) (SignedAs dep) (SignedFlight dep) w := by
  obtain ⟨view, sent, -⟩ := identity_start booted
  obtain ⟨q, pending, sends⟩ := booted.pending
  refine ⟨view, fun x member => ⟨sent x member, ?_⟩, by simp [booted.air]⟩
  rw [pending, mem_singleton] at member
  subst member
  exact ⟨fun _ => sends.src.trans (booted.macs dep.sink), fun sensor => absurd rfl sensor,
    fun sensor => absurd rfl sensor, fun _ _ => .inl sends.queryType⟩

theorem handshake_start (booted : dep.Booted w) : Counted dep w ∧ Greeted dep w := by
  obtain ⟨q, pending, sends⟩ := booted.pending
  have none : handled dep w.toView = [] := by simp [handled, asked, booted.history]
  refine ⟨⟨?_, by simp [none], ?_⟩, ?_, by simp [booted.history]⟩
  · rw [none, booted.areaNumber]
    rfl
  · intro s sensor
    simp [none, Radio.Config.load, pending, booted.air, askOf, Ne.symm sensor]
  · intro i _ _
    rw [booted.waiting i]
    simp [Radio.Config.load, pending, booted.air, askOf, Asks, sends.msgType, sends.queryType]

theorem handshake_holds (reached : dep.Reachable c) :
    Radio.System.Holds (Identified dep) (SignedAs dep) (SignedFlight dep) c ∧ Counted dep c ∧
    Greeted dep c := by
  apply reached.invariant dep
  · exact fun w booted => ⟨signed_start booted, handshake_start booted⟩
  · intro c ev d ⟨known, counted, greeted⟩ stepped
    exact ⟨(signed_inductive dep).step known stepped, handshake_step counted greeted known stepped⟩

end Count
end Srwsn
