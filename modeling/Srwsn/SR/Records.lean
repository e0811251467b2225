import Srwsn.SR.Network

/-! Every reply in flight is addressed to a node that can pass it on: record entries, request copies
and replies all name a node that knows the originator. -/
namespace Srwsn
open SR MACAddress Radio.View

variable {ι : Type*} [DecidableEq ι]

def Knows (v : Snapshot ι) (i : ι) (id : UInt16) : Prop :=
  (v.nodes i).myID = id ∨ ∃ mac, (v.nodes i).RecordTable[id]? = some mac

def LeadsOn (v : Snapshot ι) (mac : MACAddress) (id : UInt16) : Prop :=
  ∃ j, (v.nodes j).myMACAddress = mac ∧ Knows v j id

structure RecordsLead (v : Snapshot ι) : Prop where
  addressed : Addressed v.nodes
  record : ∀ i id mac, (v.nodes i).RecordTable[id]? = some mac → LeadsOn v mac id

structure PacketLeads (v : Snapshot ι) (p : SRPacket) : Prop where
  plain : p.msgType ≠ .discovery
  request : IsRequest p → LeadsOn v p.srcMACAddress p.Id
  reply : IsReply p → LeadsOn v p.destMACAddress p.Id

section Step

variable {v : Snapshot ι} {i : ι} {cause : Option (ι × SRPacket)} {e : Eff}

theorem addressed_after (h : Addressed v.nodes) (same : SameIdentity (v.nodes i) e.node) :
    Addressed (v.after i cause e).nodes := by
  have mac : ∀ j, ((v.after i cause e).nodes j).myMACAddress = (v.nodes j).myMACAddress :=
    after_frame SR.myMACAddress same.mac
  have id : ∀ j, ((v.after i cause e).nodes j).myID = (v.nodes j).myID :=
    after_frame SR.myID same.myID
  constructor
  · intro j k equal
    exact h.mac_injective j k (by rwa [mac, mac] at equal)
  · intro j k equal
    exact h.id_injective j k (by rwa [id, id] at equal)
  · intro j
    rw [mac]
    exact h.specified j
  · intro j
    rw [mac]
    exact h.unicast j

variable {p : Option SRPacket}

theorem knows_after (routed : Routed (v.nodes i) e p)
    (same : SameIdentity (v.nodes i) e.node) {j : ι} {id : UInt16} (h : Knows v j id) :
    Knows (v.after i cause e) j id := by
  unfold Knows
  by_cases here : j = i
  · subst here
    rw [after_self]
    rcases h with own | ⟨mac, entry⟩
    · exact .inl (same.myID.trans own)
    · exact .inr (routed.record_grows entry)
  · rw [after_other here]
    exact h

theorem leadsOn_after (routed : Routed (v.nodes i) e p)
    (same : SameIdentity (v.nodes i) e.node) {mac : MACAddress} {id : UInt16}
    (h : LeadsOn v mac id) : LeadsOn (v.after i cause e) mac id := by
  obtain ⟨j, owner, knows⟩ := h
  exact ⟨j, (after_frame SR.myMACAddress same.mac j).trans owner, knows_after routed same knows⟩

omit [DecidableEq ι] in
theorem reply_known {p : SRPacket} (h : RecordsLead v) (lead : PacketLeads v p)
    (accepted : SR.accepts (v.nodes i) p = true) (reply : IsReply p)
    (foreign : p.Id ≠ (v.nodes i).myID) :
    ∃ mac, (v.nodes i).RecordTable[p.Id]? = some mac ∧ LeadsOn v mac p.Id := by
  obtain ⟨j, owner, knows⟩ := lead.reply reply
  have here : j = i := by
    simp only [SR.accepts, Bool.or_eq_true, equals_iff] at accepted
    rcases accepted with mine | everyone
    · exact h.addressed.mac_injective j i (owner.trans mine)
    · rw [← owner, h.addressed.unicast j] at everyone
      cases everyone
  subst here
  rcases knows with own | ⟨mac, entry⟩
  · exact absurd own.symm foreign
  · exact ⟨mac, entry, h.record j p.Id mac entry⟩

theorem leadsOn_self (same : SameIdentity (v.nodes i) e.node) {id : UInt16}
    (knows : (v.nodes i).myID = id ∨ ∃ mac, e.node.RecordTable[id]? = some mac) :
    LeadsOn (v.after i cause e) (v.nodes i).myMACAddress id := by
  refine ⟨i, ?_, ?_⟩
  · rw [after_self, same.mac]
  · unfold Knows
    rw [after_self]
    rcases knows with own | entry
    · exact .inl (same.myID.trans own)
    · exact .inr entry

theorem record_after (h : RecordsLead v) (routed : Routed (v.nodes i) e p)
    (same : SameIdentity (v.nodes i) e.node)
    (lead : ∀ q, p = some q → PacketLeads v q ∧ SR.accepts (v.nodes i) q = true) :
    RecordsLead (v.after i cause e) := by
  refine ⟨addressed_after h.addressed same, ?_⟩
  intro j id mac entry
  by_cases here : j = i
  · subst here
    rw [after_self] at entry
    apply leadsOn_after routed same
    cases routed with
    | quiet _ _ record _ _ => exact h.record j id mac (by rwa [record] at entry)
    | generate _ _ _ _ _ _ record _ => exact h.record j id mac (by rwa [record] at entry)
    | takeUp q request _ _ record _ _ =>
      rw [record] at entry
      split at entry
      · rename_i same_id
        cases entry
        exact same_id ▸ (lead q rfl).1.request request
      · exact h.record j id mac entry
    | forward q _ reply foreign _ _ _ _ _ record _ =>
      -- the subscript finds an entry, so it inserts nothing
      obtain ⟨old, found, _⟩ := reply_known h (lead q rfl).1 (lead q rfl).2 reply foreign
      rw [record, Std.TreeMap.getElem?_insertIfNew] at entry
      split at entry
      · rename_i fresh
        have absent := fresh.2
        rw [Std.TreeMap.mem_iff_isSome_getElem?, found] at absent
        exact absurd rfl absent
      · exact h.record j id mac entry
  · rw [after_other here] at entry
    exact leadsOn_after routed same (h.record j id mac entry)

theorem packets_after (h : RecordsLead v) (routed : Routed (v.nodes i) e p)
    (same : SameIdentity (v.nodes i) e.node)
    (lead : ∀ q, p = some q → PacketLeads v q ∧ SR.accepts (v.nodes i) q = true) :
    ∀ q ∈ e.out, PacketLeads (v.after i cause e) q := by
  intro q member
  have whole := routed
  cases routed with
  | quiet _ _ _ out _ =>
    have alert := out q member
    refine ⟨by simp [alert], fun request => ?_, fun reply => ?_⟩
    · rw [request.1] at alert
      cases alert
    · rw [reply.1] at alert
      cases alert
  | generate r out request id _ src _ _ =>
    rw [out, List.mem_singleton] at member
    subst member
    refine ⟨by simp [request.1], fun _ => ?_,
      fun reply => absurd request (not_request_of_reply reply)⟩
    rw [src]
    exact leadsOn_self same (.inl id.symm)
  | takeUp r request _ _ record out _ =>
    have entry : ∃ mac, e.node.RecordTable[r.Id]? = some mac :=
      ⟨_, (record r.Id).trans (if_pos rfl)⟩
    rcases out with none | ⟨s, out, forwarded | answered⟩
    · rw [none] at member
      cases member
    · rw [out, List.mem_singleton] at member
      subst member
      obtain ⟨again, id, -, src⟩ := forwarded
      refine ⟨by simp [again.1], fun _ => ?_,
        fun reply => absurd again (not_request_of_reply reply)⟩
      rw [src, id]
      exact leadsOn_self same (.inr entry)
    · rw [out, List.mem_singleton] at member
      subst member
      obtain ⟨reply, id, dest⟩ := answered
      refine ⟨by simp [reply.1], fun request => absurd request (not_request_of_reply reply),
        fun _ => ?_⟩
      rw [dest, id]
      split
      · rename_i own
        exact leadsOn_self same (.inl own.symm)
      · exact leadsOn_after whole same ((lead r rfl).1.request request)
  | forward r s reply foreign out sent id dest _ _ _ =>
    rw [out, List.mem_singleton] at member
    subst member
    obtain ⟨mac, found, onward⟩ := reply_known h (lead r rfl).1 (lead r rfl).2 reply foreign
    refine ⟨by simp [sent.1], fun request => absurd request (not_request_of_reply sent),
      fun _ => ?_⟩
    rw [dest, id, Std.TreeMap.getD_eq_getD_getElem?, found]
    exact leadsOn_after whole same onward

theorem packetLeads_after (routed : Routed (v.nodes i) e p)
    (same : SameIdentity (v.nodes i) e.node) {q : SRPacket} (h : PacketLeads v q) :
    PacketLeads (v.after i cause e) q :=
  ⟨h.plain, fun request => leadsOn_after routed same (h.request request),
    fun reply => leadsOn_after routed same (h.reply reply)⟩

end Step

def FlightLeads (v : Snapshot ι) (f : Radio.Flight ι SRPacket) : Prop :=
  PacketLeads v f.packet ∧ SR.accepts (v.nodes f.receiver) f.packet = true

variable {v : Snapshot ι} {e : Eff} {p : SRPacket}

theorem accepts_after {i : ι} {cause : Option (ι × SRPacket)}
    (same : SameIdentity (v.nodes i) e.node) {j : ι} (h : SR.accepts (v.nodes j) p = true) :
    SR.accepts ((v.after i cause e).nodes j) p = true := by
  rw [SR.accepts, after_frame SR.myMACAddress same.mac j]
  exact h

theorem act_routed {me : SR} {st : Statics} {input : Input} {p : Option SRPacket}
    (plain : ∀ q, p = some q → q.msgType ≠ .discovery)
    (h : me.handleMessage st input p = .ok e) : Routed me e p ∧ SameIdentity me e.node := by
  cases p with
  | none =>
    obtain ⟨routed, same, -, -⟩ := handleTimer_settles.1 _ h
    exact ⟨routed, same⟩
  | some q => exact (handlePacket_settles (plain q rfl)).1 _ h

theorem records_inductive (hears : ι → ι → Bool) :
    (network hears).Inductive RecordsLead (fun v _ p => PacketLeads v p) FlightLeads := by
  constructor
  · intro v i j p _ lead _ accepted
    exact ⟨lead, accepted⟩
  · intro v i cause input e view caused acted
    have lead : ∀ q, cause.map Prod.snd = some q → PacketLeads v q ∧
        SR.accepts (v.nodes i) q = true := by
      intro q found
      obtain ⟨⟨s, p⟩, rfl, rfl⟩ := Option.map_eq_some_iff.mp found
      exact caused s p rfl
    obtain ⟨routed, same⟩ := act_routed (fun q found => (lead q found).1.plain) acted
    exact ⟨record_after view routed same lead, packets_after view routed same lead,
      fun _ _ old => packetLeads_after routed same old,
      fun f old => ⟨packetLeads_after routed same old.1, accepts_after same old.2⟩⟩

variable {c : World ι}

omit [DecidableEq ι] in
theorem records_start (addressed : Addressed c.nodes) (quiet : Quiet c) :
    Radio.System.Holds RecordsLead (fun v _ p => PacketLeads v p) FlightLeads c := by
  refine ⟨⟨addressed, ?_⟩, ?_, ?_⟩
  · intro i id mac entry
    rw [quiet.record i] at entry
    simp at entry
  · rw [quiet.pending]
    simp
  · rw [quiet.air]
    simp

omit [DecidableEq ι] in
theorem leads_of_known (h : Radio.System.Holds RecordsLead
    (fun v _ p => PacketLeads v p) FlightLeads c) (carried :
    c.Carries p) : PacketLeads c.toView p := by
  rcases carried with ⟨i, member⟩ | ⟨f, member, rfl⟩
  · exact h.2.1 (i, p) member
  · exact (h.2.2 f member).1

omit [DecidableEq ι] in
theorem specified_of_leadsOn (h : RecordsLead v) {mac : MACAddress} {id : UInt16}
    (lead : LeadsOn v mac id) : mac.isUnspecified = false := by
  obtain ⟨j, rfl, -⟩ := lead
  exact h.addressed.specified j

/-- Each reply handled by a node other than its originator finds a recorded next hop, and none is
scheduled to the unspecified address. -/
theorem replies_have_next_hop (hears : ι → ι → Bool) (start c : World ι)
    (addressed : Addressed start.nodes) (quiet : Quiet start)
    (reached : (network hears).Reaches Radio.System.Free start c) :
    (∀ f ∈ c.air, IsReply f.packet → f.packet.Id ≠ (c.nodes f.receiver).myID →
      ∃ mac, (c.nodes f.receiver).RecordTable[f.packet.Id]? = some mac ∧
      mac.isUnspecified = false) ∧
    (∀ x ∈ c.pending, IsReply x.2 → x.2.destMACAddress.isUnspecified = false) ∧
    (∀ f ∈ c.air, IsReply f.packet → f.packet.destMACAddress.isUnspecified = false) := by
  obtain ⟨view, scheduled, flying⟩ :=
    (records_inductive hears).holds (records_start addressed quiet) reached
  refine ⟨?_, ?_, ?_⟩
  · intro f member reply foreign
    obtain ⟨lead, accepted⟩ := flying f member
    obtain ⟨mac, entry, onward⟩ := reply_known view lead accepted reply foreign
    exact ⟨mac, entry, specified_of_leadsOn view onward⟩
  · intro x member reply
    exact specified_of_leadsOn view ((scheduled x member).reply reply)
  · intro f member reply
    exact specified_of_leadsOn view ((flying f member).1.reply reply)

/-- The request of one end has reached the other, whose answer is on its way to the middle. -/
theorem line_reply_has_next_hop : ∃ c f mac, (network lineHears).Reaches Radio.System.Free line c ∧
      c.air = [f] ∧ IsReply f.packet ∧ f.receiver = 0 ∧ f.packet.Id = 262 ∧
      (c.nodes 0).RecordTable[(262 : UInt16)]? = some mac ∧ mac.isUnspecified = false := by
  obtain ⟨c, reached, one, seen⟩ :=
    Radio.System.reaches_of_run (network lineHears) Radio.System.Free line
    [.wake 2 { raw := 100 }, .transmit 0 [0], .deliver 0 {}, .transmit 0 [1], .deliver 0 {},
      .transmit 0 [0]]
    (fun c => c.air.length = 1 ∧ ∀ f ∈ c.air, IsReply f.packet ∧ f.receiver = 0 ∧
      f.packet.Id = 262 ∧ f.packet.Id ≠ (c.nodes f.receiver).myID)
    (by decide +kernel)
  obtain ⟨f, air⟩ := List.length_eq_one_iff.mp one
  obtain ⟨reply, here, id, foreign⟩ := seen f (by simp [air])
  obtain ⟨mac, entry, specified⟩ := (replies_have_next_hop lineHears line c (trio_addressed ..)
    (trio_quiet ..) reached).1 f (by simp [air]) reply foreign
  rw [here, id] at entry
  exact ⟨c, f, mac, reached, air, reply, here, id, entry, specified⟩

end Srwsn
