import Srwsn.Dymo.NextHop
import Srwsn.Dymo.Ranks
import Srwsn.Lib.Pointer

/-! Routes without loops. Along the next hops of a destination the routes get fresher, or are as
fresh and nearer. -/
namespace Srwsn.DYMO

open Trace Outcome Transmission Node List

/-- Blocks are about hosts and have distances and comparable sequence numbers, and no route is
deleted. -/
def Assumed (_ : Network) : Event → Prop
  | .receive _ t _ => ∀ ab ∈ t.message.blocks, ab.Plain
  | .expired .. => False
  | _ => True

instance (s : Network) : (e : Event) → Decidable (Assumed s e)
  | .receive _ t _ => inferInstanceAs (Decidable (∀ ab ∈ t.message.blocks, ab.Plain))
  | .expired .. => .isFalse id
  | .packet .. | .rreqTimeout .. | .broken .. | .seqNumLoss .. => .isTrue trivial

/-- No intermediate router answers with a route that is more than 255 hops long. -/
def AnswersFit (s : Network) : Event → Prop
  | .receive addr t _ => ∀ n heard,
    (s.nodes addr).updateRoutes t.message t.transmitter = .ok (n, heard) → n.AnswersNear heard
  | _ => True

instance (s : Network) : (e : Event) → Decidable (AnswersFit s e)
  | .receive addr t _ =>
    match done : (s.nodes addr).updateRoutes t.message t.transmitter with
    | .ok (n, heard) => decidable_of_iff (n.AnswersNear heard) ⟨fun near _ _ same => by
        cases done.symm.trans same
        exact near, fun near => near n heard done⟩
    | .error _ => .isTrue fun _ _ same => by cases done.symm.trans same
  | .packet .. | .rreqTimeout .. | .broken .. | .expired .. | .seqNumLoss .. => .isTrue trivial

namespace Network

def Links (s : Network) (dest addr next : UInt32) : Prop :=
  ∃ entry ∈ (s.nodes addr).routingTable,
    entry.routeAddress = dest ∧ entry.routeBroken = false ∧ entry.routeNextHopAddress = next

def LoopFree (s : Network) : Prop := ∀ dest addr, ¬ Relation.TransGen (s.Links dest) addr addr

def Leads (s : Network) (entry : RoutingEntry) : Prop :=
  entry.routeNextHopAddress = entry.routeAddress ∨
    ∃ better ∈ (s.nodes entry.routeNextHopAddress).routingTable,
    better.routeAddress = entry.routeAddress ∧ entry.rank < better.rank

structure Ordered (s : Network) : Prop where
  announced : s.Announced
  tidy : ∀ addr, (s.nodes addr).Tidy
  fits : ∀ t ∈ s.air, t.message.Fits
  backed : ∀ t ∈ s.air, ∀ ab ∈ t.message.blocks, (s.nodes t.transmitter).Backs ab
  leads : ∀ addr, ∀ entry ∈ (s.nodes addr).routingTable, s.Leads entry

variable {s s' : Network} {e : Event}

theorem Leads.grown {entry : RoutingEntry} (leads : s.Leads entry)
    (grown : ∀ addr, Node.Grown (s.nodes addr) (s'.nodes addr)) : s'.Leads entry := by
  rcases leads with last | ⟨better, inside, same, closer⟩
  · exact .inl last
  · obtain ⟨better', inside', same', as_good⟩ := grown _ better inside
    exact .inr ⟨better', inside', same'.trans same, closer.trans_le as_good⟩

theorem leads_toEntry (named : ∀ addr, (s.nodes addr).myAddr = addr) {hop : UInt32}
    {ab : AddressBlock} (backs : (s.nodes hop).Backs ab) (plain : ab.Plain) {seqNum : UInt16}
    (has : ab.seqNum = some seqNum) :
    s.Leads (ab.toEntry hop seqNum) := by
  rcases backs with own | ⟨entry, inside, same, better⟩
  · exact .inl (own.trans (named hop)).symm
  · obtain ⟨dist, near⟩ := Option.isSome_iff_exists.mp plain.dist
    refine .inr ⟨entry, inside, same, ?_⟩
    rw [rank_toEntry near]
    exact (rank_further _ _).trans_le (better seqNum dist has near)

theorem Ordered.advances (h : s.Ordered) (enabled : s.Enabled e) (assumed : Assumed s e)
    (fit : AnswersFit s e) {done : Node × List Transmission}
    (ran : e.handle transmitter (s.nodes e.addr) = .ok done) :
    ∃ blocks hop, (s.nodes e.addr).Advances blocks hop done ∧
      ∀ ab ∈ blocks, ab.Plain ∧ (s.nodes hop).Backs ab := by
  have tidy := h.tidy e.addr
  have none_told : ∀ ab ∈ ([] : List AddressBlock), ab.Plain ∧ (s.nodes 0).Backs ab :=
    fun _ told => absurd told not_mem_nil
  cases e with
  | packet addr destAddr isLocal granted =>
    have answered := answered_processPacket destAddr isLocal granted done ran
    exact ⟨[], 0, answered.advances tidy, none_told⟩
  | rreqTimeout addr i granted =>
    cases ran
    exact ⟨[], 0, (answered_handleRREQTimeout i granted).advances tidy, none_told⟩
  | receive addr t granted =>
    refine ⟨t.message.blocks, t.transmitter, ?_,
      fun ab told => ⟨assumed ab told, h.backed t enabled.1 ab told⟩⟩
    exact advances_receive tidy (h.fits t enabled.1) assumed fit granted done ran
  | broken addr which =>
    cases ran
    exact ⟨[], 0, advances_broken tidy 0 which, none_told⟩
  | expired addr i => exact assumed.elim
  | seqNumLoss addr =>
    cases ran
    exact ⟨[], 0, advances_seqNumLoss tidy 0, none_told⟩

theorem Ordered.next (h : s.Ordered) (assumed : Assumed s e) (fit : AnswersFit s e)
    (stepped : Next transmitter s e s') : s'.Ordered := by
  have announced := h.announced.next stepped
  obtain ⟨done, ran, acted, others, air⟩ := next_cases stepped
  obtain ⟨blocks, hop, advances, told⟩ := h.advances stepped.1 assumed fit ran
  have grown (addr : UInt32) : Node.Grown (s.nodes addr) (s'.nodes addr) := by
    by_cases same : addr = e.addr
    · subst same
      rw [acted]
      exact advances.grown
    · rw [others addr same]
      exact Node.Grown.refl _
  refine ⟨announced, fun addr => ?_, fun t sent => ?_, fun t sent ab inside => ?_,
    fun addr entry inside => ?_⟩
  · by_cases same : addr = e.addr
    · subst same
      rw [acted]
      exact advances.tidy
    · rw [others addr same]
      exact h.tidy addr
  · rw [air] at sent
    rcases mem_append.mp sent with old | new
    · exact h.fits t old
    · exact (advances.sent t new).2.2
  · rw [air] at sent
    rcases mem_append.mp sent with old | new
    · refine (h.backed t old ab inside).grown ?_ (grown _)
      rw [announced.named, h.announced.named]
    · obtain ⟨transmitter, backs, -⟩ := advances.sent t new
      rw [transmitter, h.announced.named, acted]
      exact backs ab inside
  · by_cases same : addr = e.addr
    · subst same
      rw [acted] at inside
      rcases advances.entries entry inside with ⟨old, there, broken, rfl⟩ | ⟨ab, there,
        seqNum, has, rfl⟩
      · exact (h.leads e.addr old there).grown grown
      · obtain ⟨plain, backs⟩ := told ab there
        exact (leads_toEntry h.announced.named backs plain has).grown grown
    · rw [others addr same] at inside
      exact (h.leads addr entry inside).grown grown

theorem ordered_start (parameters : UInt32 → Parameters) : (start parameters).Ordered where
  announced := announced_start parameters
  tidy _ := ⟨fun _ inside => absurd inside not_mem_nil, nodup_nil⟩
  fits _ sent := absurd sent not_mem_nil
  backed _ sent := absurd sent not_mem_nil
  leads _ _ inside := absurd inside not_mem_nil

theorem Ordered.along (h : s.Ordered) {dest addr last : UInt32}
    (linked : Relation.TransGen (s.Links dest) addr last) :
    ∃ entry ∈ (s.nodes addr).routingTable, entry.routeAddress = dest ∧
      (last = dest ∨ ∃ better ∈ (s.nodes last).routingTable,
        better.routeAddress = dest ∧ entry.rank < better.rank) := by
  induction linked with
  | single link =>
    obtain ⟨entry, inside, rfl, -, rfl⟩ := link
    exact ⟨entry, inside, rfl, h.leads addr entry inside⟩
  | tail linked link ih =>
    obtain ⟨entry, inside, same, end_or_better⟩ := ih
    obtain ⟨next, inside', rfl, -, rfl⟩ := link
    refine ⟨entry, inside, same, ?_⟩
    rcases end_or_better with rfl | ⟨better, there, same', closer⟩
    · exact absurd rfl (h.announced.ownFree _ next inside')
    · cases (h.tidy _).unique there inside' same'
      refine (h.leads _ next inside').imp_right ?_
      rintro ⟨best, inside'', same'', closest⟩
      exact ⟨best, inside'', same'', closer.trans closest⟩

theorem Ordered.loopFree (h : s.Ordered) : s.LoopFree := by
  intro dest addr loop
  obtain ⟨entry, inside, same, rfl | ⟨better, there, same', closer⟩⟩ := h.along loop
  · exact h.announced.ownFree addr entry inside same
  · cases (h.tidy addr).unique inside there (same.trans same'.symm)
    exact lt_irrefl _ closer

def Ends (s : Network) (dest addr : UInt32) : Prop :=
  addr = dest ∨ ∃ entry ∈ (s.nodes addr).routingTable, entry.routeAddress = dest ∧
    entry.routeBroken = true

def RoutesEnd (s : Network) : Prop := ∀ addr, ∀ entry ∈ (s.nodes addr).routingTable,
  Pointer.Leads (s.Ends entry.routeAddress) (s.Links entry.routeAddress) addr

/-- Each hop has a better route, and routes cannot get better for ever. -/
theorem Ordered.routesEnd (h : s.Ordered) : s.RoutesEnd := by
  intro addr entry inside
  induction left : (0x7fff - entry.routeSeqNum.toNat) * 257 + entry.routeDist.toNat
    using Nat.strong_induction_on generalizing addr entry with
  | h left ih =>
    cases broken : entry.routeBroken with
    | true => exact .home (.inr ⟨entry, inside, rfl, broken⟩)
    | false =>
      refine .hop ⟨entry, inside, rfl, broken, rfl⟩ ?_
      rcases h.leads addr entry inside with last | ⟨better, there, same, closer⟩
      · exact .home (.inl last)
      · rw [← same]
        refine ih _ ?_ _ better there rfl
        obtain ⟨-, ⟨-, near⟩, -, fresh⟩ := (h.tidy _).plain better there
        replace closer := rank_lt.mp closer
        omega

/-- Next hops lead to the destination, or to a node that can report an error. -/
theorem routes_end (nextHop : Transmission → UInt32) (parameters : UInt32 → Parameters)
    (es : List Event) (assumed : Each (Next nextHop) (fun s e => Assumed s e ∧ AnswersFit s e ∧
      ∀ addr t granted, e = .receive addr t granted → nextHop t = t.transmitter)
      (start parameters) es) :
    Always (Next nextHop) RoutesEnd (start parameters) es := by
  apply always_of_each (I := Ordered) _ _ (ordered_start parameters) assumed
  · intro s e s' inside ⟨plain, fit, same⟩ ⟨enabled, acted⟩
    refine inside.next plain fit ⟨enabled, ?_⟩
    cases e with
    | receive addr t granted =>
      rw [← acted, act, act, Event.handle, Event.handle, same addr t granted rfl]
    | _ => exact acted
  · exact fun s inside => inside.routesEnd

/-- The request of node 9 for 7 reaches 3 over 2. The route of 3 to 9 breaks, 3 asks for it, and 2
answers. -/
def requestOf9 : RM := ⟨.RREQ, 5, { address := 7 }, ⟨9, some 2, none, some 0⟩, []⟩

def relayedBy2 : RM :=
  ⟨.RREQ, 4, { address := 7 }, ⟨9, some 2, none, some 1⟩, [⟨2, some 2, none, some 0⟩]⟩

def requestOf3 : RM := ⟨.RREQ, 5, ⟨9, some 2, none, some 2⟩, ⟨3, some 3, none, some 0⟩, []⟩

def answerOf2 : RM :=
  ⟨.RREP, 10, ⟨3, some 3, none, some 1⟩, ⟨2, some 3, none, some 0⟩, [⟨9, some 2, none, some 1⟩]⟩

def answered : List Event :=
  [.packet 9 7 true true, .receive 2 ⟨9, IPAddress.ALLONES_ADDRESS, requestOf9⟩ true,
    .receive 3 ⟨2, IPAddress.ALLONES_ADDRESS, relayedBy2⟩ true, .broken 3 (·.routeAddress == 9),
    .packet 3 9 true true, .receive 2 ⟨3, IPAddress.ALLONES_ADDRESS, requestOf3⟩ true]

theorem routes_end_answered :
    (∃ s, answered.foldlM (act fun t => getNextHopAddress t.message) (start fun _ => {}) = .ok s ∧
      ⟨2, 3, answerOf2⟩ ∈ s.air) ∧
    Always (Next fun t => getNextHopAddress t.message) RoutesEnd (start fun _ => {}) answered := by
  refine ⟨⟨_, rfl, by decide +kernel⟩, ?_⟩
  apply routes_end
  iterate 6
    refine .cons (fun _ step => Except.ok.inj step.2) ⟨by decide +kernel, by decide +kernel, ?_⟩ ?_
    · rintro _ _ _ ⟨⟩
      all_goals rfl
  trivial

end Network

/-- If the transmitters of messages are recorded as next hops, the routes to a destination never
form a loop, as long as intermediate routers answer with distances that fit. -/
theorem routes_loop_free (parameters : UInt32 → Parameters) (es : List Event)
    (assumed : Each (Network.Next transmitter) Assumed (Network.start parameters) es)
    (fit : Each (Network.Next transmitter) AnswersFit (Network.start parameters) es) :
    Always (Network.Next transmitter) Network.LoopFree (Network.start parameters) es := by
  apply always_of_each (I := Network.Ordered) _ _ (Network.ordered_start parameters)
    (assumed.and fit)
  · exact fun s e s' inside meets stepped => inside.next meets.1 meets.2 stepped
  · exact fun s inside => inside.loopFree

theorem routes_loop_free_answered :
    (∃ s, (Network.answered ++ [Event.receive 3 ⟨2, 3, Network.answerOf2⟩ true]).foldlM
        (Network.act transmitter) (Network.start fun _ => {}) = .ok s ∧
      ((s.nodes 3).validRoute 9).map RoutingEntry.routeNextHopAddress = some 2) ∧
    Always (Network.Next transmitter) Network.LoopFree (Network.start fun _ => {})
      (Network.answered ++ [.receive 3 ⟨2, 3, Network.answerOf2⟩ true]) := by
  refine ⟨⟨_, rfl, by decide +kernel⟩, ?_⟩
  apply routes_loop_free
  · iterate 7 refine .cons (fun _ step => Except.ok.inj step.2) (by decide +kernel) ?_
    trivial
  · iterate 7 refine .cons (fun _ step => Except.ok.inj step.2) (by decide +kernel) ?_
    trivial

namespace Node

variable {n n' : Node}

theorem handleLowerRMForRelay_unasked {pkt : RM} (asked : pkt.kind = .RREQ)
    (any : pkt.targetNode.seqNum = none) (granted : Bool) :
    n.handleLowerRMForRelay pkt granted = n.relay pkt LL_MANET_ROUTERS granted := by
  unfold handleLowerRMForRelay
  rw [asked]
  cases n.validRoute pkt.targetNode.address with
  | none => rfl
  | some entry => simp [answers, any]

structure Audible (addr : UInt32) (ab : AddressBlock) : Prop where
  plain : ab.Plain
  numbered : ab.seqNum.isSome
  other : ab.address ≠ addr

theorem stays_additional (tidy : n.Tidy) {nodes : List AddressBlock}
    (audible : ∀ ab ∈ nodes, Audible n.myAddr ab) (isRREQ : Bool) (hop : UInt32) : ∃ n' kept,
      updateAdditionalNodes isRREQ hop n nodes = .ok (n', some kept) ∧ kept ⊆ nodes ∧
        Stays (nodes.map AddressBlock.address) n n' := by
  induction nodes generalizing n with
  | nil => exact ⟨n, [], rfl, List.Subset.refl [], tidy, Alike.refl n, fun entry inside _ => inside⟩
  | cons ab rest ih =>
    obtain ⟨hears, audible⟩ := forall_mem_cons.mp audible
    obtain ⟨seqNum, has⟩ := Option.isSome_iff_exists.mp hears.numbered
    obtain ⟨n₁, superior, first, stays, -⟩ := stays_block tidy hears.plain has isRREQ hop
    rw [← stays.alike.myAddr] at audible
    obtain ⟨n', kept, later, sub, stays'⟩ := ih stays.tidy audible
    have done : updateAdditionalNodes isRREQ hop n (ab :: rest) =
        .ok (n', some (if superior then ab :: kept else kept)) := by
      rw [updateAdditionalNodes, if_neg hears.other, first, ok_bind, later]
      rfl
    refine ⟨n', _, done, ?_, stays.trans stays'⟩
    split
    · exact cons_subset_cons ab sub
    · exact subset_cons_of_subset ab sub

theorem stays_updateRoutes (tidy : n.Tidy) {pkt : RM}
    (audible : ∀ ab ∈ pkt.blocks, Audible n.myAddr ab) {seqNum : UInt16}
    (has : pkt.origNode.seqNum = some seqNum) (hop : UInt32)
    (superior : ∀ entry ∈ n.routingTable, entry.routeAddress = pkt.origNode.address →
      isSuperior entry seqNum pkt.origNode.nodeDist.toNat entry.routeDist.toInt32.toInt pkt.isRREQ =
      true) :
    ∃ n₁ n' kept, n.updateRoutesFromAddressBlock pkt.origNode pkt.isRREQ hop = .ok (n₁, true) ∧
      updateAdditionalNodes pkt.isRREQ hop n₁ pkt.additionalNodes = .ok (n', some kept) ∧
      n.updateRoutes pkt hop = .ok (n', some { pkt with additionalNodes := kept }) ∧
      kept ⊆ pkt.additionalNodes ∧ Stays [pkt.origNode.address] n n₁ ∧
      Stays (pkt.additionalNodes.map AddressBlock.address) n₁ n' ∧
      pkt.origNode.toEntry hop seqNum ∈ n₁.routingTable := by
  obtain ⟨hears, audible⟩ := forall_mem_cons.mp audible
  obtain ⟨n₁, kept₁, first, stays, recorded⟩ := stays_block tidy hears.plain has pkt.isRREQ hop
  obtain ⟨rfl, inside⟩ := recorded superior
  rw [← stays.alike.myAddr] at audible
  obtain ⟨n', kept, later, sub, stays'⟩ := stays_additional stays.tidy audible pkt.isRREQ hop
  refine ⟨n₁, n', kept, first, later, ?_, sub, stays, stays', inside⟩
  rw [updateRoutes, if_neg hears.other, first, ok_bind, later]
  rfl

end Node

/-- Nodes in a line. The node at place `k` hears only the one before it. -/
def lineAddr (k : ℕ) : UInt32 := UInt32.ofNat (k + 1)

variable {j k : ℕ}

theorem lineAddr_inj (hj : j < 9999) (hk : k < 9999) (same : lineAddr j = lineAddr k) : j = k := by
  have values := congrArg UInt32.toNat same
  rw [lineAddr, lineAddr, UInt32.toNat_ofNat', UInt32.toNat_ofNat'] at values
  omega

def lineParameters : Parameters := { MIN_HOPLIMIT := 300 }

def lineNode (addr : UInt32) : Node := { lineParameters with myAddr := addr }

structure Carried (k : ℕ) (t : Transmission) : Prop where
  transmitter : t.transmitter = lineAddr k
  destAddr : t.destAddr = IPAddress.ALLONES_ADDRESS
  kind : t.message.kind = .RREQ
  hopLimit : t.message.msgHdrHopLimit = 300 - k
  target : t.message.targetNode = { address := 5001 }
  orig : t.message.origNode = { address := 1, seqNum := some 3, dist := some (UInt8.ofNat k) }
  additional : ∀ ab ∈ t.message.additionalNodes, ab.Plain ∧ ab.seqNum.isSome ∧
    ∃ j, 1 ≤ j ∧ j ≤ k ∧ ab.address = lineAddr j

namespace Carried

variable {k : ℕ} {t : Transmission}

theorem audible (h : Carried k t) {j : ℕ} (after : k < j) (small : j < 9999) (ab : AddressBlock)
    (inside : ab ∈ t.message.blocks) : Node.Audible (lineAddr j) ab := by
  rcases mem_cons.mp inside with rfl | inside
  · rw [h.orig]
    refine ⟨⟨rfl, rfl, fun seqNum has => ?_⟩, rfl, fun same => ?_⟩
    · cases has
      decide
    · have := lineAddr_inj (j := 0) (by omega) small same
      omega
  · obtain ⟨plain, numbered, i, first, last, address⟩ := h.additional ab inside
    refine ⟨plain, numbered, fun same => ?_⟩
    have := lineAddr_inj (by omega) small (address.symm.trans same)
    omega

theorem orig_other (h : Carried k t) (small : k < 9999) :
    t.message.origNode.address ∉ t.message.additionalNodes.map AddressBlock.address := by
  intro inside
  obtain ⟨ab, inside, same⟩ := List.mem_map.mp inside
  obtain ⟨-, -, i, first, last, address⟩ := h.additional ab inside
  rw [h.orig, address] at same
  have := lineAddr_inj (k := 0) (by omega) (by omega) same
  omega

end Carried

theorem AddressBlock.Plain.incremented {ab : AddressBlock} (plain : ab.Plain) :
    ab.incremented.Plain :=
  ⟨plain.host, by rw [AddressBlock.incremented, Option.isSome_map]; exact plain.dist, plain.seqNum⟩

variable {n n' : Node}

theorem Node.Alike.ownBlock (alike : n.Alike n') :
    n'.incSeqNum.ownBlock = n.incSeqNum.ownBlock := by
  rw [Node.ownBlock, Node.ownBlock, incSeqNum, incSeqNum]
  rw [alike.myAddr, alike.ownSeqNum, alike.toParameters]

theorem tidy_lineNode (addr : UInt32) : (lineNode addr).Tidy :=
  ⟨fun _ inside => absurd inside not_mem_nil, nodup_nil⟩

namespace Carried

variable {k : ℕ} {t : Transmission}

theorem overflows (h : Carried k t) (small : k < 254) : t.message.origNode.overflows = false := by
  have value : (UInt8.ofNat k).toNat = k := by
    rw [UInt8.toNat_ofNat']
    omega
  rw [h.orig, AddressBlock.overflows]
  apply decide_eq_false
  rw [ge_iff_le, UInt8.le_iff_toNat_le, value]
  exact Nat.not_le.mpr small

theorem heard (h : Carried k t) (small : k < 255) : ∃ n kept,
    (lineNode (lineAddr (k + 1))).updateRoutes t.message t.transmitter =
      .ok (n, some { t.message with additionalNodes := kept }) ∧
    kept ⊆ t.message.additionalNodes ∧ (lineNode (lineAddr (k + 1))).Alike n ∧ n.Tidy ∧
    t.message.origNode.toEntry t.transmitter 3 ∈ n.routingTable := by
  have has : t.message.origNode.seqNum = some 3 := by rw [h.orig]
  obtain ⟨n₁, n, kept, -, -, updated, sub, stays, stays', inside⟩ := stays_updateRoutes
    (tidy_lineNode (lineAddr (k + 1))) (h.audible (Nat.lt_succ_self k) (by omega)) has t.transmitter
    (fun entry inside => absurd inside not_mem_nil)
  refine ⟨n, kept, updated, sub, stays.alike.trans stays'.alike, stays'.tidy, ?_⟩
  exact stays'.others _ inside (h.orig_other (by omega))

theorem answer_eq (h : Carried k t) (small : k < 255) {n : Node}
    (alike : (lineNode (lineAddr (k + 1))).Alike n) (kept : List AddressBlock) :
    n.answerRM true { t.message with additionalNodes := kept } =
      n.relay { t.message with additionalNodes := kept } LL_MANET_ROUTERS true := by
  have other : n.myAddr ≠ t.message.targetNode.address := by
    intro same
    rw [alike.myAddr, h.target] at same
    have := lineAddr_inj (j := k + 1) (k := 5000) (by omega) (by omega) same
    omega
  rw [answerRM, if_neg other]
  apply handleLowerRMForRelay_unasked
  · exact h.kind
  · exact congrArg AddressBlock.seqNum h.target

theorem passed_on (h : Carried k t) (small : k < 254) : ∃ n t',
    (lineNode (lineAddr (k + 1))).handleLowerRM t.message t.transmitter true = .ok (n, [t']) ∧
    Carried (k + 1) t' := by
  obtain ⟨n, kept, updated, sub, alike, -, -⟩ := h.heard (by omega)
  have fits := h.overflows small
  have hop : ¬ (t.message.msgHdrHopLimit - 1 < 1 ∨ (!true) = true) := by
    rw [h.hopLimit]
    simp
    omega
  have silent : n.incSeqNum.ownSeqNumLossTimeout = false := alike.ownSeqNumLossTimeout
  have own : n.incSeqNum.ownBlock =
    { address := lineAddr (k + 1), seqNum := some 2, dist := some 0 } := alike.ownBlock
  refine ⟨n.incSeqNum, n.incSeqNum.sendDown
    (n.incSeqNum.relayed { t.message with additionalNodes := kept }
    t.message.origNode.incremented ((kept.filter (!·.overflows)).map AddressBlock.incremented))
      LL_MANET_ROUTERS,
    ?_, alike.myAddr, rfl, h.kind, ?_, h.target, ?_, ?_⟩
  · rw [handleLowerRM, updated, ok_bind]
    refine (h.answer_eq (by omega) alike kept).trans ?_
    rw [relay, if_neg (by rw [fits]; exact Bool.false_ne_true),
      AddressBlock.incrementDistIfAvailable_eq fits, ok_bind, additionalNodesToRelay_eq]
    change Except.ok (_, if t.message.msgHdrHopLimit - 1 < 1 ∨ (!true) = true then [] else _) = _
    rw [if_neg hop, transmit, silent, if_neg Bool.false_ne_true]
  · change t.message.msgHdrHopLimit - 1 = 300 - ((k + 1 : ℕ) : ℤ)
    rw [h.hopLimit]
    omega
  · change t.message.origNode.incremented = _
    rw [h.orig, UInt8.ofNat_add]
    rfl
  · intro ab inside
    rcases mem_snoc inside with relayed | rfl
    · obtain ⟨old, was, rfl⟩ := List.mem_map.mp relayed
      obtain ⟨plain, numbered, j, first, last, address⟩ :=
        h.additional old (sub (mem_filter.mp was).1)
      exact ⟨plain.incremented, numbered, j, first, by omega, address⟩
    · rw [own]
      refine ⟨⟨rfl, rfl, fun seqNum has => ?_⟩, rfl, k + 1, by omega, le_rfl, rfl⟩
      cases has
      decide

end Carried

structure LineEnd (n : Node) : Prop where
  alike : (lineNode 256).Alike n
  tidy : n.Tidy
  route : ⟨1, 3, 255, false, 255, 32⟩ ∈ n.routingTable
  others : ∀ entry ∈ n.routingTable, entry.routeAddress ≠ 257

variable {t : Transmission}

theorem Carried.line_end (h : Carried 254 t) : ∃ n,
    (lineNode 256).handleLowerRM t.message t.transmitter true = .ok (n, []) ∧ LineEnd n := by
  obtain ⟨n, kept, updated, -, alike, tidy, inside⟩ := h.heard (by omega)
  have full : t.message.origNode.overflows = true := by
    rw [h.orig]
    decide
  refine ⟨n, ?_, alike, tidy, ?_, fun entry known => ?_⟩
  · rw [handleLowerRM]
    refine (congrArg (· >>= _) updated).trans ?_
    refine (h.answer_eq (by omega) alike kept).trans ?_
    rw [relay, if_pos full]
  · rw [h.orig, h.transmitter] at inside
    exact inside
  · rcases (learnt_updateRoutes updated).entries entry known with old | ⟨ab, told, -,
      seqNum, -, rfl⟩
    · exact absurd old not_mem_nil
    · exact (h.audible (j := 256) (by omega) (by omega) ab told).other

def endNode (ownSeqNum : UInt32) (routingTable : List RoutingEntry)
    (outstandingRREQList : List OutstandingRREQ := []) : Node where
  toParameters := lineParameters
  myAddr := 256
  ownSeqNum
  routingTable
  outstandingRREQList

theorem Node.Alike.eq_endNode (alike : (lineNode 256).Alike n) : n = endNode 1 n.routingTable := by
  have outstanding := sublist_nil.mp alike.outstanding
  obtain ⟨parameters, myAddr, ownSeqNum, lost, table, list⟩ := n
  cases alike.toParameters
  cases alike.myAddr
  cases alike.ownSeqNum
  cases alike.ownSeqNumLossTimeout
  cases outstanding
  rfl

structure LineEnd.Knows (broken : Bool) (n : Node) : Prop where
  tidy : n.Tidy
  route : ⟨1, 3, 255, broken, 255, 32⟩ ∈ n.routingTable
  back : ⟨257, 3, 257, broken, 1, 32⟩ ∈ n.routingTable

def firstRequest : Transmission := ⟨257, IPAddress.ALLONES_ADDRESS,
  ⟨.RREQ, 300, ⟨1, some 2, none, some 1⟩, ⟨257, some 3, none, some 0⟩, []⟩⟩

def firstReply : Transmission := ⟨256, 257,
  ⟨.RREP, 10, ⟨257, some 3, none, some 1⟩, ⟨256, some 2, none, some 0⟩,
    [⟨1, some 3, none, some 255⟩]⟩⟩

def secondRequest : Transmission := ⟨256, IPAddress.ALLONES_ADDRESS,
  ⟨.RREQ, 300, ⟨1, some 3, none, some 255⟩, ⟨256, some 3, none, some 0⟩, []⟩⟩

def secondReply : Transmission := ⟨257, 256,
  ⟨.RREP, 10, ⟨256, some 3, none, some 1⟩, ⟨257, some 4, none, some 0⟩,
    [⟨1, some 3, none, some 0⟩]⟩⟩

variable {table : List RoutingEntry}

theorem endNode_answers {i : ℕ}
    (look : getForAddress table 1 = some (i, ⟨1, 3, 255, false, 255, 32⟩))
    (back : getForAddress table 257 = some (j, ⟨257, 3, 257, false, 1, 32⟩)) : ∃ rest,
      (endNode 1 table).handleLowerRMForRelay firstRequest.message true =
        .ok (endNode 2 table, firstReply :: rest) := by
  have valid : (endNode 1 table).validRoute 1 = some ⟨1, 3, 255, false, 255, 32⟩ := by
    change ((getForAddress table 1).map Prod.snd).filter _ = _
    rw [look]
    rfl
  have answer : (endNode 1 table).handleLowerRMForRelay firstRequest.message true =
      (endNode 1 table).sendReplyAsIntermediateRouter firstRequest.message.origNode
        firstRequest.message.targetNode ⟨1, 3, 255, false, 255, 32⟩ := by
    simp only [handleLowerRMForRelay, firstRequest, valid]
    rfl
  have look_back : getForAddress (endNode 1 table).routingTable
    firstRequest.message.origNode.address = some (j, ⟨257, 3, 257, false, 1, 32⟩) := back
  rw [answer]
  simp only [sendReplyAsIntermediateRouter, look_back]
  exact ⟨_, rfl⟩

theorem LineEnd.answers_first (h : LineEnd n) : ∃ table rest,
    n.handleLowerRM firstRequest.message 257 true = .ok (endNode 2 table, firstReply :: rest) ∧
      LineEnd.Knows false (endNode 2 table) := by
  have myAddr : n.myAddr = 256 := h.alike.myAddr
  have audible (ab : AddressBlock) (inside : ab ∈ firstRequest.message.blocks) :
      Node.Audible n.myAddr ab := by
    cases mem_singleton.mp inside
    rw [myAddr]
    exact ⟨plain_of rfl rfl rfl (by decide), rfl, by decide⟩
  obtain ⟨n₁, n₂, kept, -, later, updated, -, stays, -, back⟩ :=
    stays_updateRoutes h.tidy audible (rfl : firstRequest.message.origNode.seqNum = some 3) 257
      fun entry inside same => absurd same (h.others entry inside)
  cases later
  have route := stays.others _ h.route (by decide)
  obtain ⟨i, look⟩ := stays.tidy.look route
  obtain ⟨j, look_back⟩ := stays.tidy.look back
  obtain ⟨rest, answered⟩ := endNode_answers look look_back
  refine ⟨n₁.routingTable, rest, ?_, stays.tidy.of_same rfl, route, back⟩
  rw [handleLowerRM, updated, ok_bind, (h.alike.trans stays.alike).eq_endNode]
  exact answered

theorem LineEnd.Knows.break_all (h : LineEnd.Knows false (endNode 2 table)) :
    ∃ table', (endNode 2 table).markBroken (fun _ => true) = endNode 2 table' ∧
    LineEnd.Knows true (endNode 2 table') :=
  ⟨_, rfl, h.tidy.markBroken _, List.mem_map_of_mem h.route, List.mem_map_of_mem h.back⟩

theorem LineEnd.Knows.asks (h : LineEnd.Knows true (endNode 2 table)) :
    (endNode 2 table).processPacket 1 true true =
    .ok (endNode 3 table [⟨1, 1⟩], [secondRequest]) := by
  obtain ⟨i, look⟩ := h.tidy.look h.route
  have look : getForAddress (endNode 2 table).routingTable 1 =
    some (i, ⟨1, 3, 255, true, 255, 32⟩) := look
  simp only [processPacket, look]
  rfl

theorem LineEnd.Knows.believes {list : List OutstandingRREQ}
    (h : LineEnd.Knows true (endNode 3 table list)) : ∃ n,
      (endNode 3 table list).handleLowerRM secondReply.message 257 true = .ok (n, []) ∧
        ⟨1, 3, 257, false, 1, 32⟩ ∈ n.routingTable := by
  have plain : ∀ ab ∈ secondReply.message.blocks, Node.Audible 256 ab := by
    refine forall_mem_cons.mpr ⟨?_, forall_mem_singleton.mpr ?_⟩
    · exact ⟨plain_of rfl rfl rfl (by decide), rfl, by decide⟩
    · exact ⟨plain_of rfl rfl rfl (by decide), rfl, by decide⟩
  obtain ⟨n₁, n₂, kept, -, later, updated, -, stays, stays', -⟩ :=
    stays_updateRoutes h.tidy plain (rfl : secondReply.message.origNode.seqNum = some 4) 257 (by
      intro entry inside same
      rw [h.tidy.unique inside h.back same]
      decide)
  have route := stays.others _ h.route (by decide)
  obtain ⟨hears, -⟩ := forall_mem_cons.mp (forall_mem_cons.mp plain).2
  obtain ⟨n₃, superior, first, -, recorded⟩ := stays_block stays.tidy hears.plain
    (rfl : (⟨1, some 3, none, some 0⟩ : AddressBlock).seqNum = some 3) secondReply.message.isRREQ
    257
  obtain ⟨rfl, inside⟩ := recorded (by
    intro entry inside same
    rw [stays.tidy.unique inside route same]
    decide)
  have other : (1 : UInt32) ≠ n₁.myAddr := by
    rw [stays.alike.myAddr]
    exact (by decide : (1 : UInt32) ≠ 256)
  have myAddr : n₂.myAddr = 256 := (stays.alike.trans stays'.alike).myAddr
  have here : n₂ = n₃ := by
    change updateAdditionalNodes _ 257 n₁ [⟨1, some 3, none, some 0⟩] = _ at later
    rw [updateAdditionalNodes, if_neg other, first] at later
    cases later
    rfl
  refine ⟨n₂.checkAndSendQueuedPkts 257 32, ?_, here ▸ inside⟩
  rw [handleLowerRM, updated, ok_bind]
  exact if_pos myAddr

def lastNode (ownSeqNum : UInt32) (routingTable : List RoutingEntry)
    (outstandingRREQList : List OutstandingRREQ := []) : Node where
  toParameters := lineParameters
  myAddr := 257
  ownSeqNum
  routingTable
  outstandingRREQList

theorem lastNode_asks : (lastNode 2 [⟨1, 2, 1, true, 1, 32⟩]).processPacket 1 true true =
    .ok (lastNode 3 [⟨1, 2, 1, true, 1, 32⟩] [⟨1, 1⟩], [firstRequest]) := rfl

theorem lastNode_learns :
    (lastNode 3 [⟨1, 2, 1, true, 1, 32⟩] [⟨1, 1⟩]).handleLowerRM firstReply.message 256 true =
      .ok (lastNode 3 [⟨1, 3, 256, false, 256, 32⟩, ⟨256, 2, 256, false, 1, 32⟩], []) := rfl

theorem lastNode_answers :
    ∃ rest, (lastNode 3 [⟨1, 3, 256, false, 256, 32⟩, ⟨256, 2, 256, false, 1, 32⟩]).handleLowerRM
      secondRequest.message 256 true =
        .ok (lastNode 4 [⟨1, 3, 256, false, 256, 32⟩, ⟨256, 3, 256, false, 1, 32⟩],
          secondReply :: rest) :=
  ⟨_, rfl⟩

def Reached (s : Network) : Prop :=
  ∃ es, Path (Network.Next transmitter) Assumed (Network.start fun _ => lineParameters) es s

theorem Reached.act {s : Network} (reached : Reached s) (addr : UInt32) {sent : List Transmission}
    (e : Event) (named : e.addr = addr) (enabled : s.Enabled e) (assumed : Assumed s e)
    (here : s.nodes addr = n)
    (ran : e.handle transmitter n = .ok (n', sent)) :
    ∃ s', Reached s' ∧ s'.nodes addr = n' ∧
      (∀ other, other ≠ addr → s'.nodes other = s.nodes other) ∧ s'.air = s.air ++ sent := by
  subst named here
  obtain ⟨es, path⟩ := reached
  have acted : s.act transmitter e =
      .ok { nodes := Function.update s.nodes e.addr n', air := s.air ++ sent } := by
    rw [Network.act, ran]
    rfl
  have stepped : Network.Next transmitter s e _ := ⟨enabled, acted⟩
  exact ⟨_, ⟨es ++ [e], path.snoc stepped assumed⟩, Function.update_self .., fun other away =>
    Function.update_of_ne away .., rfl⟩

structure Network.Chained (k : ℕ) (s : Network) : Prop where
  carried : ∃ t ∈ s.air, Carried k t
  fresh : ∀ j, k < j → j ≤ 255 → s.nodes (lineAddr j) = lineNode (lineAddr j)
  last : s.nodes 257 = lastNode 2 [⟨1, 2, 1, false, 1, 32⟩]

theorem lineAddr_ne (hj : j < 9999) (hk : k < 9999) (other : j ≠ k) : lineAddr j ≠ lineAddr k :=
  fun same => other (lineAddr_inj hj hk same)

def flood (destAddr : UInt32) (seqNum : UInt16) : Transmission := ⟨1, IPAddress.ALLONES_ADDRESS,
  ⟨.RREQ, 300, ⟨destAddr, none, none, none⟩, ⟨1, some seqNum, none, some 0⟩, []⟩⟩

def firstNode (ownSeqNum : UInt32) (outstandingRREQList : List OutstandingRREQ) : Node where
  toParameters := lineParameters
  myAddr := 1
  ownSeqNum
  outstandingRREQList

theorem carried_flood : Carried 0 (flood 5001 3) :=
  ⟨rfl, rfl, rfl, rfl, rfl, rfl, fun _ inside => absurd inside not_mem_nil⟩

theorem plain_flood (ab : AddressBlock) (inside : ab ∈ (flood 5000 2).message.blocks) :
    ab.Plain := by
  cases mem_singleton.mp inside
  exact plain_of rfl rfl rfl (by decide)

theorem mem_air {s s' : Network} {rest : List Transmission} (air : s'.air = s.air ++ t :: rest) :
    t ∈ s'.air := by
  rw [air]
  exact mem_append_right _ mem_cons_self

theorem firstNode_asks : (lineNode 1).processPacket 5000 true true =
    .ok (firstNode 2 [⟨5000, 1⟩], [flood 5000 2]) := rfl

theorem firstNode_asks_again : (firstNode 2 [⟨5000, 1⟩]).processPacket 5001 true true =
    .ok (firstNode 3 [⟨5000, 1⟩, ⟨5001, 1⟩], [flood 5001 3]) := rfl

theorem lastNode_hears : ∃ sent, (lineNode 257).handleLowerRM (flood 5000 2).message 1 true =
    .ok (lastNode 2 [⟨1, 2, 1, false, 1, 32⟩], sent) :=
  ⟨_, rfl⟩

theorem reached_start : ∃ s, Reached s ∧ s.Chained 0 := by
  obtain ⟨s₁, reached₁, at₁, others₁, air₁⟩ :=
    Reached.act ⟨[], .nil _⟩ 1 (.packet 1 5000 true true) rfl trivial trivial
    rfl firstNode_asks
  obtain ⟨sent, hears⟩ := lastNode_hears
  obtain ⟨s₂, reached₂, at₂, others₂, -⟩ := reached₁.act 257 (.receive 257 (flood 5000 2) true) rfl
    ⟨mem_air air₁, .inl rfl⟩ plain_flood (others₁ 257 (by decide)) hears
  obtain ⟨s₃, reached₃, -, others₃, air₃⟩ :=
    reached₂.act 1 (.packet 1 5001 true true) rfl trivial trivial
    ((others₂ 1 (by decide)).trans at₁) firstNode_asks_again
  refine ⟨s₃, reached₃, ⟨flood 5001 3, mem_air air₃, carried_flood⟩, fun j later inside => ?_, ?_⟩
  · have first : lineAddr j ≠ 1 := lineAddr_ne (k := 0) (by omega) (by omega) (by omega)
    have last : lineAddr j ≠ 257 := lineAddr_ne (k := 256) (by omega) (by omega) (by omega)
    rw [others₃ _ first, others₂ _ last, others₁ _ first]
    rfl
  · rw [others₃ 257 (by decide)]
    exact at₂

theorem reached_chained (k : ℕ) (small : k ≤ 254) : ∃ s, Reached s ∧ s.Chained k := by
  induction k with
  | zero => exact reached_start
  | succ k ih =>
    obtain ⟨s, reached, ⟨t, on_air, carried⟩, fresh, last⟩ := ih (by omega)
    obtain ⟨n, t', ran, carried'⟩ := carried.passed_on (by omega)
    obtain ⟨s', reached', -, others, air⟩ :=
      reached.act (lineAddr (k + 1)) (.receive (lineAddr (k + 1)) t true) rfl
      ⟨on_air, .inl carried.destAddr⟩
      (fun ab inside => (carried.audible (Nat.lt_succ_self k) (by omega) ab inside).plain)
      (fresh (k + 1) (by omega) (by omega)) ran
    refine ⟨s', reached', ⟨t', mem_air air, carried'⟩, fun j later inside => ?_, ?_⟩
    · rw [others _ (lineAddr_ne (by omega) (by omega) (by omega))]
      exact fresh j (by omega) inside
    · rw [others 257 (lineAddr_ne (j := 256) (by omega) (by omega) (by omega))]
      exact last

theorem plain_replies (ab : AddressBlock)
    (inside : ab ∈ firstRequest.message.blocks ++ firstReply.message.blocks ++
    secondRequest.message.blocks ++ secondReply.message.blocks) : ab.Plain := by
  fin_cases inside <;> exact plain_of rfl rfl rfl (by decide)

theorem reached_far : ∃ s table, Reached s ∧ LineEnd.Knows false (endNode 2 table) ∧
    s.nodes 256 = endNode 2 table ∧
    s.nodes 257 = lastNode 3 [⟨1, 3, 256, false, 256, 32⟩, ⟨256, 2, 256, false, 1, 32⟩] := by
  obtain ⟨s, reached, ⟨t, on_air, carried⟩, fresh, last⟩ := reached_chained 254 le_rfl
  obtain ⟨n, ran, line_end⟩ := carried.line_end
  obtain ⟨s₁, reached₁, at₁, others₁, -⟩ :=
    reached.act 256 (.receive 256 t true) rfl ⟨on_air, .inl carried.destAddr⟩
    (fun ab inside => (carried.audible (j := 255) (by omega) (by omega) ab inside).plain)
    (fresh 255 (by omega) le_rfl) ran
  obtain ⟨s₂, reached₂, at₂, others₂, -⟩ :=
    reached₁.act 257 (.broken 257 fun _ => true) rfl trivial trivial
    ((others₁ 257 (by decide)).trans last) rfl
  obtain ⟨s₃, reached₃, at₃, others₃, air₃⟩ :=
    reached₂.act 257 (.packet 257 1 true true) rfl trivial trivial at₂ lastNode_asks
  obtain ⟨table, rest, answers, knows⟩ := line_end.answers_first
  have at_end : s₃.nodes 256 = n := by rw [others₃ 256 (by decide), others₂ 256 (by decide), at₁]
  obtain ⟨s₄, reached₄, at₄, others₄, air₄⟩ := reached₃.act 256 (.receive 256 firstRequest true) rfl
    ⟨mem_air air₃, .inl rfl⟩ (fun ab inside => plain_replies ab (by simp [inside])) at_end answers
  obtain ⟨s₅, reached₅, at₅, others₅, -⟩ := reached₄.act 257 (.receive 257 firstReply true) rfl
    ⟨mem_air air₄, .inr rfl⟩ (fun ab inside => plain_replies ab (by simp [inside]))
    ((others₄ 257 (by decide)).trans at₃) lastNode_learns
  exact ⟨s₅, table, reached₅, knows, (others₅ 256 (by decide)).trans at₄, at₅⟩

theorem reached_loop : ∃ s, Reached s ∧ s.Links 1 256 257 ∧ s.Links 1 257 256 := by
  obtain ⟨s, table, reached, knows, at_end, at_last⟩ := reached_far
  obtain ⟨table', broken, knows'⟩ := knows.break_all
  obtain ⟨s₁, reached₁, at₁, others₁, -⟩ :=
    reached.act 256 (.broken 256 fun _ => true) rfl trivial trivial at_end
    (congrArg (fun n => Except.ok (n, [])) broken)
  obtain ⟨s₂, reached₂, at₂, others₂, air₂⟩ :=
    reached₁.act 256 (.packet 256 1 true true) rfl trivial trivial at₁ knows'.asks
  obtain ⟨rest, answers⟩ := lastNode_answers
  have last₂ : s₂.nodes 257 = s.nodes 257 := by
    rw [others₂ 257 (by decide), others₁ 257 (by decide)]
  obtain ⟨s₃, reached₃, at₃, others₃, air₃⟩ :=
    reached₂.act 257 (.receive 257 secondRequest true) rfl
    ⟨mem_air air₂, .inl rfl⟩ (fun ab inside => plain_replies ab (by simp [inside]))
      (last₂.trans at_last) answers
  have knows₃ : LineEnd.Knows true (endNode 3 table' [⟨1, 1⟩]) :=
    ⟨knows'.tidy.of_same rfl, knows'.route, knows'.back⟩
  obtain ⟨n, believes, inside⟩ := knows₃.believes
  obtain ⟨s₄, reached₄, at₄, others₄, -⟩ := reached₃.act 256 (.receive 256 secondReply true) rfl
    ⟨mem_air air₃, .inr rfl⟩ (fun ab inside => plain_replies ab (by simp [inside]))
    ((others₃ 256 (by decide)).trans at₂) believes
  refine ⟨s₄, reached₄, ⟨⟨1, 3, 257, false, 1, 32⟩, ?_, rfl, rfl, rfl⟩,
    ⟨⟨1, 3, 256, false, 256, 32⟩, ?_, rfl, rfl, rfl⟩⟩
  · rw [at₄]
    exact inside
  · rw [others₄ 257 (by decide), at₃]
    exact mem_cons_self

/-- A route of 256 hops is passed on as one of 0 hops, and the node it came over takes it. -/
theorem routes_loop :
    ¬ ∀ parameters es, Each (Network.Next transmitter) Assumed (Network.start parameters) es →
      Always (Network.Next transmitter) Network.LoopFree (Network.start parameters) es := by
  intro all
  obtain ⟨s, ⟨es, path⟩, there, back⟩ := reached_loop
  have each := path.each fun s e t t' first second => Except.ok.inj (first.2.symm.trans second.2)
  exact (all (fun _ => lineParameters) es each).along path 1 256 (.tail (.single there) back)

end Srwsn.DYMO
