import Srwsn.Lib.Pointer
import Srwsn.SR.Requests

/-! Replies travel back along the record tables. A node enters the set of those that took part in a
request once, for it remembers the timestamp. -/
namespace Srwsn
open SR MACAddress Radio.System

variable {ι : Type*} [DecidableEq ι]

def Home (v : Snapshot ι) (id : UInt16) (i : ι) : Prop := (v.nodes i).myID = id

def NextHop (v : Snapshot ι) (id : UInt16) (i j : ι) : Prop :=
  (v.nodes i).RecordTable[id]? = some (v.nodes j).myMACAddress

def LeadsHome (v : Snapshot ι) (id : UInt16) (i : ι) : Prop :=
  Pointer.Leads (Home v id) (NextHop v id) i

structure Epoch (c : World ι) (id : UInt16) (member : ι → Prop) : Prop where
  home : ∀ i, Home c.toView id i → member i
  back : ∀ i, member i → Pointer.Leads (Home c.toView id)
    (fun j k => member j ∧ member k ∧ NextHop c.toView id j k) i
  source : ∀ p, c.Carries p → IsRequest p → p.Id = id →
    ∃ s, member s ∧ (c.nodes s).myMACAddress = p.srcMACAddress
  stamp : ∀ p, c.Carries p → IsRequest p → p.Id = id →
    ∀ i, member i → stampOf c.toView i = p.myTimestamp
  holders : ∀ i mac, (c.nodes i).RecordTable[id]? = some mac → LeadsHome c.toView id i

section Step

variable {c d : World ι} {i : ι} {cause : Option (ι × SRPacket)} {e : Eff} {id : UInt16}
  {member : ι → Prop}

section Act

variable (act : Action c d i cause e)

include act

theorem Action.mac (j : ι) : (d.nodes j).myMACAddress = (c.nodes j).myMACAddress := by
  rw [act.view]
  exact Radio.View.after_frame SR.myMACAddress act.same.mac j

theorem Action.myID (j : ι) : (d.nodes j).myID = (c.nodes j).myID := by
  rw [act.view]
  exact Radio.View.after_frame SR.myID act.same.myID j

theorem Action.other {j : ι} (away : j ≠ i) : d.nodes j = c.nodes j := by
  rw [act.view]
  exact Radio.View.after_other away

theorem Action.self : d.nodes i = e.node := by
  rw [act.view]
  exact Radio.View.after_self ..

theorem Action.home_iff (j : ι) : Home d.toView id j ↔ Home c.toView id j := by
  unfold Home
  rw [act.myID]

theorem Action.hop_iff {j : ι} (entry : (d.nodes j).RecordTable[id]? = (c.nodes j).RecordTable[id]?)
    (k : ι) : NextHop d.toView id j k ↔ NextHop c.toView id j k := by
  unfold NextHop
  rw [entry, act.mac]

theorem Action.root_eq : Home d.toView id = Home c.toView id := by
  funext j
  exact propext (act.home_iff j)

end Act

section

variable (h : Epoch c id member) (act : Action c d i cause e)

include h act

theorem epoch_frame (keeps : KeepsStamp c i e)
    (entry : e.node.RecordTable[id]? = (c.nodes i).RecordTable[id]?)
    (out : ∀ q ∈ e.out, IsRequest q → q.Id ≠ id) : Epoch d id member := by
  have entries : ∀ j, (d.nodes j).RecordTable[id]? = (c.nodes j).RecordTable[id]? := by
    rw [act.view]
    exact Radio.View.after_frame (fun node : SR => node.RecordTable[id]?) entry
  have hops : NextHop d.toView id = NextHop c.toView id := by
    funext j k
    exact propext (act.hop_iff (entries j) k)
  have old : ∀ q, d.Carries q → IsRequest q → q.Id = id → c.Carries q := by
    intro q carried request own
    rcases act.carried q carried with old | new
    · exact old
    · exact absurd own (out q new request)
  constructor
  · intro j home
    exact h.home j ((act.home_iff j).mp home)
  · rw [act.root_eq, hops]
    exact h.back
  · intro p carried request own
    obtain ⟨s, inside, owner⟩ := h.source p (old p carried request own) request own
    exact ⟨s, inside, (act.mac s).trans owner⟩
  · intro p carried request own j inside
    have before := old p carried request own
    exact stamp_kept act keeps before request (h.stamp p before request own j inside)
  · intro j mac found
    unfold LeadsHome
    rw [act.root_eq, hops]
    exact h.holders j mac (entries j ▸ found)

/-- If an earlier request of the node is still under way the timestamp did not change and the set
stays; otherwise it starts anew. -/
theorem epoch_generate (unique : ∀ j, Home c.toView id j → j = i) (keeps : KeepsStamp c i e)
    {q : SRPacket} (out : e.out = [q]) (own : (c.nodes i).myID = id)
    (stamp : e.node.currentRequestTimeStamp = q.myTimestamp)
    (src : q.srcMACAddress = (c.nodes i).myMACAddress)
    (record : e.node.RecordTable = (c.nodes i).RecordTable) : ∃ member, Epoch d id member := by
  have entries : ∀ j, (d.nodes j).RecordTable = (c.nodes j).RecordTable := by
    rw [act.view]
    exact Radio.View.after_frame SR.RecordTable record
  have hops : NextHop d.toView id = NextHop c.toView id := by
    funext j k
    exact propext (act.hop_iff (by rw [entries]) k)
  have holders : ∀ j mac, (d.nodes j).RecordTable[id]? = some mac → LeadsHome d.toView id j := by
    intro j mac found
    unfold LeadsHome
    rw [act.root_eq, hops]
    exact h.holders j mac (entries j ▸ found)
  have carried : ∀ p, d.Carries p → c.Carries p ∨ p = q := by
    intro p carried
    have := act.carried p carried
    rwa [out, List.mem_singleton] at this
  have held : stampOf d.toView i = q.myTimestamp := by
    rw [stampOf, act.self, stamp]
  by_cases busy : ∃ p, c.Carries p ∧ IsRequest p ∧ p.Id = id
  · obtain ⟨p, before, request, same⟩ := busy
    have mine := h.stamp p before request same i (h.home i own)
    have again : q.myTimestamp = p.myTimestamp := by
      rw [← held]
      exact stamp_kept act keeps before request mine
    refine ⟨member, ?_, ?_, ?_, ?_, holders⟩
    · intro j home
      exact h.home j ((act.home_iff j).mp home)
    · rw [act.root_eq, hops]
      exact h.back
    · intro r inPlay request' same'
      rcases carried r inPlay with old | rfl
      · obtain ⟨s, inside, owner⟩ := h.source r old request' same'
        exact ⟨s, inside, (act.mac s).trans owner⟩
      · exact ⟨i, h.home i own, (act.mac i).trans src.symm⟩
    · intro r inPlay request' same' j inside
      rcases carried r inPlay with old | rfl
      · exact stamp_kept act keeps old request' (h.stamp r old request' same' j inside)
      · rw [again]
        exact stamp_kept act keeps before request (h.stamp p before request same j inside)
  · have only : ∀ r, d.Carries r → IsRequest r → r.Id = id → r = q := by
      intro r inPlay request same
      rcases carried r inPlay with old | new
      · exact absurd ⟨r, old, request, same⟩ busy
      · exact new
    refine ⟨Home d.toView id, fun _ home => home, fun j home => .home home, ?_, ?_, holders⟩
    · intro r inPlay request same
      rw [only r inPlay request same, src]
      exact ⟨i, (act.home_iff i).mpr own, act.mac i⟩
    · intro r inPlay request same j home
      rw [only r inPlay request same, unique j ((act.home_iff j).mp home)]
      exact held

/-- A node that takes up a request was outside the set, so no path of a member runs through it. -/
theorem epoch_takeUp (keeps : KeepsStamp c i e)
    {p : SRPacket} (inPlay : c.Carries p) (request : IsRequest p) (own : p.Id = id)
    (new : stampOf c.toView i ≠ p.myTimestamp)
    (stamp : e.node.currentRequestTimeStamp = p.myTimestamp)
    (record : e.node.RecordTable[id]? = some p.srcMACAddress)
    (out : ∀ q ∈ e.out, IsRequest q → q.srcMACAddress = (c.nodes i).myMACAddress ∧
      q.myTimestamp = p.myTimestamp) :
    Epoch d id (fun j => j = i ∨ member j) := by
  have outside : ¬ member i := fun inside => new (h.stamp p inPlay request own i inside)
  obtain ⟨s, sender, owner⟩ := h.source p inPlay request own
  have away : ∀ j, member j → j ≠ i := fun j inside same => outside (same ▸ inside)
  have hops : ∀ j k, j ≠ i → NextHop c.toView id j k → NextHop d.toView id j k := by
    intro j k different hop
    exact (act.hop_iff (by rw [act.other different]) k).mpr hop
  have first : NextHop d.toView id i s := by
    unfold NextHop
    rw [act.self, record, act.mac, owner]
  have kept : ∀ j, member j → Pointer.Leads (Home d.toView id)
      (fun j k => (j = i ∨ member j) ∧ (k = i ∨ member k) ∧ NextHop d.toView id j k) j := by
    intro j inside
    rw [act.root_eq]
    exact (h.back j inside).mono
      (fun j k hop => ⟨.inr hop.1, .inr hop.2.1, hops j k (away j hop.1) hop.2.2⟩)
  have entered : Pointer.Leads (Home d.toView id)
      (fun j k => (j = i ∨ member j) ∧ (k = i ∨ member k) ∧ NextHop d.toView id j k) i :=
    .hop ⟨.inl rfl, .inr sender, first⟩ (kept s sender)
  -- all copies under way bear the timestamp that the sender of this one still holds
  have one : ∀ q, c.Carries q → IsRequest q → q.Id = id → q.myTimestamp = p.myTimestamp := by
    intro q carried request' own'
    rw [← h.stamp q carried request' own' s sender, h.stamp p inPlay request own s sender]
  have held : stampOf d.toView i = p.myTimestamp := by
    rw [stampOf, act.self, stamp]
  constructor
  · intro j home
    exact .inr (h.home j ((act.home_iff j).mp home))
  · rintro j (rfl | inside)
    · exact entered
    · exact kept j inside
  · intro q carried request' own'
    rcases act.carried q carried with old | sent
    · obtain ⟨t, inside, owner'⟩ := h.source q old request' own'
      exact ⟨t, .inr inside, (act.mac t).trans owner'⟩
    · exact ⟨i, .inl rfl, (act.mac i).trans (out q sent request').1.symm⟩
  · intro q carried request' own' j inside
    have time : q.myTimestamp = p.myTimestamp := by
      rcases act.carried q carried with old | sent
      · exact one q old request' own'
      · exact (out q sent request').2
    rw [time]
    rcases inside with rfl | inside
    · exact held
    · exact stamp_kept act keeps inPlay request (h.stamp p inPlay request own j inside)
  · have home : LeadsHome d.toView id i := entered.mono (fun _ _ hop => hop.2.2)
    intro j mac found
    by_cases here : j = i
    · exact here ▸ home
    · rw [act.other here] at found
      have before := h.holders j mac found
      unfold LeadsHome at before home ⊢
      rw [← act.root_eq] at before
      exact Pointer.Leads.redirect hops home before

end

theorem epoch_action (known : Holds RecordsLead (fun v _ p => PacketLeads v p)
      FlightLeads c) (act : Action c d i cause e) (keeps : KeepsStamp c i e)
    (h : ∃ member, Epoch c id member) : ∃ member, Epoch d id member := by
  obtain ⟨member, epoch⟩ := h
  have routed := act.routed
  generalize packet : cause.map Prod.snd = p at routed
  cases routed with
  | quiet _ _ record out _ =>
    refine ⟨member, epoch_frame epoch act keeps (by rw [record]) ?_⟩
    intro q sent request
    have alert := out q sent
    rw [request.1] at alert
    cases alert
  | generate q out _ own stamp src record _ =>
    by_cases here : (c.nodes i).myID = id
    · refine epoch_generate epoch act ?_ keeps out here stamp src record
      intro j home
      exact known.1.addressed.id_injective j i (Eq.trans home here.symm)
    · refine ⟨member, epoch_frame epoch act keeps (by rw [record]) ?_⟩
      intro r sent _
      rw [out, List.mem_singleton] at sent
      rw [sent, own]
      exact here
  | takeUp r request new stamp record out _ =>
    have copy : ∀ q ∈ e.out, IsRequest q → Forwards (c.nodes i) r q := by
      intro q sent again
      rcases out with none | ⟨s, out, forwarded | answered⟩
      · rw [none] at sent
        cases sent
      · rw [out, List.mem_singleton] at sent
        exact sent ▸ forwarded
      · rw [out, List.mem_singleton] at sent
        exact absurd again (not_request_of_reply (sent ▸ answered.1))
    by_cases here : r.Id = id
    · refine ⟨_, epoch_takeUp epoch act keeps (act.carries packet) request here new stamp ?_ ?_⟩
      · rw [record, if_pos here]
      · intro q sent again
        obtain ⟨-, -, time, src⟩ := copy q sent again
        exact ⟨src, time⟩
    · refine ⟨member, epoch_frame epoch act keeps ?_ ?_⟩
      · rw [record, if_neg here]
      · intro q sent again
        rw [(copy q sent again).2.1]
        exact here
  | forward r s reply foreign out sent _ _ _ record _ =>
    obtain ⟨⟨t, q⟩, rfl, rfl⟩ := Option.map_eq_some_iff.mp packet
    obtain ⟨lead, accepted⟩ := known.2.2 _ (act.caused t q rfl)
    obtain ⟨mac, found, -⟩ := reply_known known.1 lead accepted reply foreign
    refine ⟨member, epoch_frame epoch act keeps ?_ ?_⟩
    · rw [record, Std.TreeMap.getElem?_insertIfNew, if_neg]
      rintro ⟨-, absent⟩
      rw [Std.TreeMap.mem_iff_isSome_getElem?, found] at absent
      exact absent rfl
    · intro r scheduled request
      rw [out, List.mem_singleton] at scheduled
      exact absurd (scheduled ▸ request) (not_request_of_reply sent)

end Step

omit [DecidableEq ι] in
theorem epoch_start {c : World ι} (quiet : Quiet c) (id : UInt16) :
    Epoch c id (Home c.toView id) := by
  have empty := quiet.carries_nothing
  refine ⟨fun _ home => home, fun j home => .home home,
    fun p carried => absurd carried (empty p), fun p carried => absurd carried (empty p), ?_⟩
  intro i mac found
  rw [quiet.record i] at found
  simp at found

/-- If no node replaces a timestamp while a request that bears it is under way, the recorded hops
lead every reply back to the originator. -/
theorem reverse_hops_lead_home (hears : ι → ι → Bool) (start c : World ι)
    (addressed : Addressed start.nodes) (quiet : Quiet start)
    (reached : (network hears).Reaches ForgetsNothing start c) :
    (∀ i id mac, (c.nodes i).RecordTable[id]? = some mac → LeadsHome c.toView id i) ∧ ∀ p,
    c.Carries p → IsReply p →
      ∃ j, (c.nodes j).myMACAddress = p.destMACAddress ∧ LeadsHome c.toView p.Id j := by
  have known : ∀ {c}, (network hears).Reaches ForgetsNothing start c →
      Holds RecordsLead (fun v _ p => PacketLeads v p) FlightLeads c :=
    fun reached => (records_inductive hears).holds (records_start addressed quiet) reached
  have epochs : ∀ id, ∃ member, Epoch c id member := by
    intro id
    induction reached with
    | start => exact ⟨_, epoch_start quiet id⟩
    | step before allowed stepped ih =>
      rcases step_action (fun p carried => (leads_of_known (known before) carried).plain) stepped
        with
        ⟨view, carried⟩ | ⟨j, cause, e, act, keeps, -⟩
      · obtain ⟨member, epoch⟩ := ih
        exact ⟨member, view ▸ epoch.home, view ▸ epoch.back,
          fun p h => view ▸ epoch.source p (carried p h),
          fun p h => view ▸ epoch.stamp p (carried p h), view ▸ epoch.holders⟩
      · exact epoch_action (known before) act (keeps allowed) ih
  have holders : ∀ i id mac, (c.nodes i).RecordTable[id]? = some mac → LeadsHome c.toView id i := by
    intro i id mac found
    obtain ⟨member, epoch⟩ := epochs id
    exact epoch.holders i mac found
  refine ⟨holders, ?_⟩
  intro p carried reply
  obtain ⟨j, owner, own | ⟨mac, entry⟩⟩ := (leads_of_known (known reached) carried).reply reply
  · exact ⟨j, owner, .home own⟩
  · exact ⟨j, owner, holders j p.Id mac entry⟩

theorem line_leads_home : ∃ c, (network lineHears).Reaches ForgetsNothing line c ∧
      LeadsHome c.toView 262 1 ∧ (c.nodes 1).RecordTable[(262 : UInt16)]? = some (trioMAC 0) ∧
      (c.nodes 0).RecordTable[(262 : UInt16)]? = some (trioMAC 2) := by
  obtain ⟨c, reached, far, middle⟩ := reaches_of_run (network lineHears) ForgetsNothing line
    [.wake 2 { raw := 100 }, .transmit 0 [0], .deliver 0 {}, .transmit 0 [1], .deliver 0 {}]
    (fun c => (c.nodes 1).RecordTable[(262 : UInt16)]? = some (trioMAC 0) ∧
      (c.nodes 0).RecordTable[(262 : UInt16)]? = some (trioMAC 2)) (by decide +kernel)
  have home :=
    (reverse_hops_lead_home lineHears line c (trio_addressed ..) (trio_quiet ..) reached).1
  exact ⟨c, reached, home 1 262 _ far, far, middle⟩

/-- After two requests cross, nodes 0 and 1 record each other for the originator 262. -/
theorem triangle_hops_in_a_cycle : ∃ c, Addressed triangle.nodes ∧ Quiet triangle ∧
      (network triangleHears).Reaches Free triangle c ∧
      (c.nodes 0).RecordTable[(262 : UInt16)]? = some (trioMAC 1) ∧
      (c.nodes 1).RecordTable[(262 : UInt16)]? = some (trioMAC 0) ∧
      ¬ LeadsHome c.toView 262 0 ∧ ¬ LeadsHome c.toView 262 1 := by
  obtain ⟨c, reached, zero, one, away, closed⟩ := reaches_of_run
    (network triangleHears) Free triangle
    [.wake 2 { raw := 100 }, .transmit 0 [0, 1], .deliver 0 {}, .deliver 0 {},
      .wake 0 { raw := 200 }, .transmit 2 [1], .deliver 0 {}, .transmit 0 [1], .deliver 0 {},
      .transmit 0 [0], .deliver 0 {}]
    (fun c => (c.nodes 0).RecordTable[(262 : UInt16)]? = some (trioMAC 1) ∧
      (c.nodes 1).RecordTable[(262 : UInt16)]? = some (trioMAC 0) ∧
      (∀ i, i ≠ 2 → (c.nodes i).myID ≠ 262) ∧
      ∀ i j, i ≠ 2 → (c.nodes i).RecordTable[(262 : UInt16)]? = some (c.nodes j).myMACAddress →
        j ≠ 2) (by decide +kernel)
  have trapped : ∀ i, i ≠ 2 → ¬ LeadsHome c.toView 262 i := by
    intro i inside leads
    exact Pointer.Leads.avoids away closed leads inside
  exact ⟨c, trio_addressed .., trio_quiet .., reached, zero, one, trapped 0 (by decide),
    trapped 1 (by decide)⟩

end Srwsn
