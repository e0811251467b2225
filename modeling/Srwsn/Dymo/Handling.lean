import Srwsn.Dymo.DYMO

/-! What the events of a node do with its routes, and which messages it sends. -/
namespace Srwsn.DYMO

open Outcome List AddressBlock

section

variable {addr : UInt32} {table : List RoutingEntry} {k i : Nat} {entry : RoutingEntry}

theorem longestMatch_found {longestPrefix : Int} {found : Option (Nat × RoutingEntry)}
    (look : longestMatch addr table k longestPrefix found = some (i, entry)) :
    found = some (i, entry) ∨ ∃ j, i = k + j ∧ table[j]? = some entry ∧ longestPrefix <
      entry.routePrefix ∧ IPAddress.prefixMatches addr entry.routeAddress entry.routePrefix := by
  induction table generalizing k longestPrefix found with
  | nil => exact .inl look
  | cons e rest ih =>
    rw [longestMatch] at look
    split at look
    case isTrue fits =>
      rcases ih look with same | ⟨j, rfl, at_j, longer, agrees⟩
      · cases same
        exact .inr ⟨0, rfl, rfl, fits⟩
      · exact .inr ⟨j + 1, by omega, at_j, fits.1.trans longer, agrees⟩
    case isFalse =>
      rcases ih look with same | ⟨j, rfl, at_j, rest⟩
      · exact .inl same
      · exact .inr ⟨j + 1, by omega, at_j, rest⟩

theorem getForAddress_found (look : getForAddress table addr = some (i, entry)) :
    table[i]? = some entry ∧ IPAddress.prefixMatches addr entry.routeAddress entry.routePrefix := by
  rcases longestMatch_found look with same | ⟨j, rfl, at_j, rest⟩
  · cases same
  · rw [Nat.zero_add]
    exact ⟨at_j, rest.2⟩

theorem longestMatch_eq_of_ne {shorter longer : Int}
    {found found' : Option (Nat × RoutingEntry)} (le : shorter ≤ longer)
    (beaten : longestMatch addr table k longer found ≠ found) :
    longestMatch addr table k shorter found' = longestMatch addr table k longer found := by
  induction table generalizing k shorter found' with
  | nil => exact absurd rfl beaten
  | cons e rest ih =>
    simp only [longestMatch] at beaten ⊢
    by_cases fits : e.routePrefix > longer ∧
      IPAddress.prefixMatches addr e.routeAddress e.routePrefix
    · rw [if_pos fits, if_pos ⟨le.trans_lt fits.1, fits.2⟩]
    · rw [if_neg fits] at beaten ⊢
      split
      case isTrue more => exact ih (not_lt.mp fun above => fits ⟨above, more.2⟩) beaten
      case isFalse => exact ih le beaten

end

section Frame

variable {table : List RoutingEntry} {addr : UInt32} {i : Nat} {entry new : RoutingEntry}
  (misses : IPAddress.prefixMatches addr new.routeAddress new.routePrefix = false)

include misses

theorem longestMatch_set {k : Nat} {longestPrefix : Int} {found : Option (Nat × RoutingEntry)}
    (at_i : table[i]? = some entry) (other : longestMatch addr table k longestPrefix found ≠
      some (k + i, entry)) :
    longestMatch addr (table.set i new) k longestPrefix found =
    longestMatch addr table k longestPrefix found := by
  induction table generalizing k i longestPrefix found with
  | nil => rfl
  | cons e rest ih =>
    cases i with
    | zero =>
      cases at_i
      simp only [set_cons_zero, longestMatch, misses, Bool.false_eq_true, and_false, if_false]
        at other ⊢
      split at other
      case isTrue fits =>
        rw [if_pos fits]
        exact longestMatch_eq_of_ne fits.1.le other
      case isFalse shorter => rw [if_neg shorter]
    | succ i =>
      rw [show k + (i + 1) = k + 1 + i by omega] at other
      simp only [set_cons_succ, longestMatch] at other ⊢
      split at other
      case isTrue fits => rw [if_pos fits, if_pos fits, ih at_i other]
      case isFalse shorter => rw [if_neg shorter, if_neg shorter, ih at_i other]

theorem getForAddress_set_iff (at_i : table[i]? = some entry) :
    getForAddress (table.set i new) addr = getForAddress table addr ↔ getForAddress table addr ≠
    some (i, entry) := by
  constructor
  · intro same used
    obtain ⟨at_new, agrees⟩ := getForAddress_found (same.trans used)
    rw [getElem?_set_self (List.getElem?_eq_some_iff.mp at_i).1] at at_new
    cases at_new
    exact Bool.false_ne_true (misses.symm.trans agrees)
  · intro unused
    apply longestMatch_set misses at_i
    rwa [Nat.zero_add]

theorem getForAddress_append : getForAddress (table ++ [new]) addr = getForAddress table addr := by
  suffices ∀ k longestPrefix found, longestMatch addr (table ++ [new]) k longestPrefix found =
    longestMatch addr table k longestPrefix found from this 0 0 none
  induction table with
  | nil => simp [longestMatch, misses]
  | cons e rest ih => simp [longestMatch, ih]

end Frame

theorem AddressBlock.getSeqNum_eq_ok {ab : AddressBlock} {seqNum : UInt16} :
    ab.getSeqNum = .ok seqNum ↔ ab.seqNum = some seqNum := by
  cases h : ab.seqNum <;> simp [getSeqNum, h]

def AddressBlock.incremented (ab : AddressBlock) : AddressBlock :=
  { ab with dist := ab.dist.map (· + 1) }

theorem AddressBlock.incrementDistIfAvailable_eq {ab : AddressBlock} (fits : ab.overflows = false) :
    ab.incrementDistIfAvailable = .ok ab.incremented := by
  cases h : ab.dist with
  | none =>
    cases ab
    cases h
    rfl
  | some dist =>
    simp only [overflows, h, decide_eq_false_iff_not] at fits
    have small : dist ≠ 0xFF := by
      rintro rfl
      exact fits (by decide)
    simp [incrementDistIfAvailable, incremented, h, small]

namespace Node

variable {n n' : Node} {ab : AddressBlock} {hop : UInt32}

@[simp] theorem learn_routingTable {table : List RoutingEntry} :
    (n.learn ab table).routingTable = table := rfl

theorem additionalNodesToRelay_eq (nodes : List AddressBlock) :
    additionalNodesToRelay nodes =
    .ok ((nodes.filter (!·.overflows)).map AddressBlock.incremented) := by
  induction nodes with
  | nil => rfl
  | cons ab rest ih =>
    rw [additionalNodesToRelay]
    cases fits : ab.overflows
    · rw [if_neg Bool.false_ne_true, incrementDistIfAvailable_eq fits, ok_bind, ih,
        filter_cons_of_pos (by simp [fits])]
      rfl
    · rw [if_pos rfl, ih, filter_cons_of_neg (by simp [fits])]

variable {isRREQ kept : Bool}

theorem updateRoutesFromAddressBlock_cases
    (done : n.updateRoutesFromAddressBlock ab isRREQ hop = .ok (n', kept)) :
    ∃ seqNum, ab.seqNum = some seqNum ∧
    ((getForAddress n.routingTable ab.address = none ∧ kept = true ∧
          n' = n.learn ab (n.routingTable ++ [ab.toEntry hop seqNum])) ∨
        ∃ i entry, getForAddress n.routingTable ab.address = some (i, entry) ∧
          kept = isSuperior entry seqNum ab.nodeDist.toNat entry.routeDist.toInt32.toInt isRREQ ∧
          n' = if kept then n.learn ab (n.routingTable.set i (ab.toEntry hop seqNum)) else n) := by
  unfold updateRoutesFromAddressBlock at done
  split at done
  case h_1 look =>
    obtain ⟨seqNum, read, same⟩ := map_eq_ok done
    cases same
    exact ⟨seqNum, getSeqNum_eq_ok.mp read, .inl ⟨look, rfl, rfl⟩⟩
  case h_2 i entry look =>
    obtain ⟨better, judged, done⟩ := bind_eq_ok done
    obtain ⟨seqNum, read, rfl⟩ := map_eq_ok judged
    refine ⟨seqNum, getSeqNum_eq_ok.mp read, .inr ⟨i, entry, look, ?_⟩⟩
    split at done
    case isTrue yes =>
      rw [read] at done
      cases done
      exact ⟨yes.symm, rfl⟩
    case isFalse no =>
      cases done
      exact ⟨(Bool.eq_false_of_not_eq_true no).symm, rfl⟩

/-- The routes to addresses outside the block stay, unless the block replaces a route that some of
them use. -/
theorem updateRoutesFromAddressBlock_frame_iff {isRREQ kept : Bool}
    (done : n.updateRoutesFromAddressBlock ab isRREQ hop = .ok (n', kept)) :
    (∀ addr, IPAddress.prefixMatches addr ab.address ab.prefixOr32 = false →
      getForAddress n'.routingTable addr = getForAddress n.routingTable addr) ↔
    ∀ i entry, getForAddress n.routingTable ab.address = some (i, entry) →
      isRBlockBetter entry ab isRREQ = .ok true →
      ∀ addr, IPAddress.prefixMatches addr ab.address ab.prefixOr32 = false →
        getForAddress n.routingTable addr ≠ some (i, entry) := by
  obtain ⟨seqNum, has, ⟨look, -, rfl⟩ | ⟨i, entry, look, judged, rfl⟩⟩ :=
    updateRoutesFromAddressBlock_cases done
  · simp only [look, learn_routingTable, reduceCtorEq, false_implies, implies_true, iff_true]
    intro addr outside
    exact getForAddress_append outside
  · have better : isRBlockBetter entry ab isRREQ = .ok kept := by
      rw [isRBlockBetter, getSeqNum_eq_ok.mpr has, judged]
      rfl
    constructor
    · intro frame j other found yes addr outside
      cases look.symm.trans found
      cases better.symm.trans yes
      exact (getForAddress_set_iff outside (getForAddress_found look).1).mp (frame addr outside)
    · intro unused addr outside
      cases kept
      case false => rfl
      case true =>
        exact (getForAddress_set_iff outside (getForAddress_found look).1).mpr
          (unused i entry look better addr outside)

def wideNode : Node := { myAddr := 1, routingTable := [⟨0x0A000000, 1, 2, false, 1, 8⟩] }

def hostBlock : AddressBlock := { address := 0x0A000001, seqNum := some 2, dist := some 0 }

def mixedNode : Node :=
  { myAddr := 1
    routingTable := [⟨0x0A010000, 1, 5, false, 1, 16⟩, ⟨0x0A000001, 1, 2, false, 1, 32⟩,
      ⟨0x0A000000, 1, 4, false, 2, 8⟩] }

theorem updateRoutesFromAddressBlock_frame_mixed : ∃ n',
    mixedNode.updateRoutesFromAddressBlock hostBlock true 3 = .ok (n', true) ∧
    getForAddress n'.routingTable 0x0A000001 = some (1, hostBlock.toEntry 3 2) ∧
    getForAddress n'.routingTable 0x0A000002 = some (2, ⟨0x0A000000, 1, 4, false, 2, 8⟩) ∧
    getForAddress n'.routingTable 0x0A010203 = some (0, ⟨0x0A010000, 1, 5, false, 1, 16⟩) := by
  have done : mixedNode.updateRoutesFromAddressBlock hostBlock true 3 =
    .ok (mixedNode.learn hostBlock (mixedNode.routingTable.set 1 (hostBlock.toEntry 3 2)), true) :=
    rfl
  have kept :=
    (updateRoutesFromAddressBlock_frame_iff done).mpr fun i entry look _ addr outside used => by
    cases look
    exact Bool.false_ne_true (outside.symm.trans (getForAddress_found used).2)
  exact ⟨_, done, by decide, kept 0x0A000002 (by decide), kept 0x0A010203 (by decide)⟩

theorem updateRoutesFromAddressBlock_loses_route : ∃ n',
    wideNode.updateRoutesFromAddressBlock hostBlock true 3 = .ok (n', true) ∧
    IPAddress.prefixMatches 0x0A000002 hostBlock.address hostBlock.prefixOr32 = false ∧
    getForAddress wideNode.routingTable 0x0A000002 = some (0, ⟨0x0A000000, 1, 2, false, 1, 8⟩) ∧
    getForAddress n'.routingTable 0x0A000002 = none :=
  ⟨_, rfl, by decide, by decide, by decide⟩

structure Learnt (hop : UInt32) (blocks : List AddressBlock) (n n' : Node) : Prop where
  myAddr : n'.myAddr = n.myAddr
  entries : ∀ entry ∈ n'.routingTable, entry ∈ n.routingTable ∨ ∃ ab ∈ blocks, ab.address ≠
    n.myAddr ∧ ∃ seqNum, ab.seqNum = some seqNum ∧ entry = ab.toEntry hop seqNum

theorem Learnt.refl (hop : UInt32) (blocks : List AddressBlock) (n : Node) :
    Learnt hop blocks n n :=
  ⟨rfl, fun _ inside => .inl inside⟩

variable {n₁ : Node}

theorem Learnt.trans {first rest : List AddressBlock} (h : Learnt hop first n n₁)
    (h' : Learnt hop rest n₁ n') : Learnt hop (first ++ rest) n n' where
  myAddr := h'.myAddr.trans h.myAddr
  entries := by
    intro entry inside
    rcases h'.entries entry inside with old | ⟨ab, told, other, new⟩
    · rcases h.entries entry old with old | ⟨ab, told, new⟩
      · exact .inl old
      · exact .inr ⟨ab, mem_append_left rest told, new⟩
    · exact .inr ⟨ab, mem_append_right first told, h.myAddr ▸ other, new⟩

theorem learnt_block (other : ab.address ≠ n.myAddr)
    (done : n.updateRoutesFromAddressBlock ab isRREQ hop = .ok (n', kept)) :
    Learnt hop [ab] n n' := by
  obtain ⟨seqNum, read, ⟨-, -, rfl⟩ | ⟨i, entry, -, -, rfl⟩⟩ :=
    updateRoutesFromAddressBlock_cases done
  · refine ⟨rfl, fun e inside => ?_⟩
    rcases mem_append.mp inside with old | new
    · exact .inl old
    · exact .inr ⟨ab, mem_singleton_self ab, other, seqNum, read, mem_singleton.mp new⟩
  · cases kept with
    | false => exact Learnt.refl hop [ab] n
    | true =>
      refine ⟨rfl, fun e inside => ?_⟩
      rcases mem_or_eq_of_mem_set inside with old | new
      · exact .inl old
      · exact .inr ⟨ab, mem_singleton_self ab, other, seqNum, read, new⟩

theorem learnt_additional {nodes : List AddressBlock} {kept : Option (List AddressBlock)}
    (done : updateAdditionalNodes isRREQ hop n nodes = .ok (n', kept)) : Learnt hop nodes n n' := by
  induction nodes generalizing n n' kept with
  | nil =>
    cases done
    exact Learnt.refl hop [] n
  | cons ab rest ih =>
    rw [updateAdditionalNodes] at done
    split at done
    case isTrue =>
      cases done
      exact Learnt.refl hop (ab :: rest) n
    case isFalse other =>
      obtain ⟨⟨n₁, recorded⟩, first, done⟩ := bind_eq_ok done
      obtain ⟨⟨n₂, kept⟩, later, same⟩ := map_eq_ok done
      cases same
      exact (learnt_block other first).trans (ih later)

variable {pkt : RM}

theorem learnt_updateRoutes {kept : Option RM}
    (done : n.updateRoutes pkt hop = .ok (n', kept)) : Learnt hop pkt.blocks n n' := by
  unfold updateRoutes at done
  split at done
  case isTrue =>
    cases done
    exact Learnt.refl hop pkt.blocks n
  case isFalse other =>
    obtain ⟨⟨n₁, superior⟩, first, done⟩ := bind_eq_ok done
    obtain ⟨⟨n₂, kept⟩, later, same⟩ := map_eq_ok done
    cases same
    exact (learnt_block other first).trans (learnt_additional later)

/-- The messages that a node sends: about itself alone, passed on, or as an intermediate router.
`heard` is the message it has received, as far as it was kept. -/
inductive Made (n : Node) (heard : Option RM) : RM → Prop where
  | own {msg : RM} (orig : msg.origNode = n.ownBlock) (alone : msg.additionalNodes = []) :
      Made n heard msg
  | relayed {msg pkt : RM} (received : heard = some pkt) (fits : pkt.origNode.overflows = false)
      (orig : msg.origNode = pkt.origNode.incremented)
      (additional : msg.additionalNodes =
        (pkt.additionalNodes.filter (!·.overflows)).map AddressBlock.incremented ++ [n.ownBlock]) :
      Made n heard msg
  | toOrig {msg pkt : RM} {entry : RoutingEntry} (received : heard = some pkt) (asked : pkt.kind =
      .RREQ)
      (valid : n.validRoute pkt.targetNode.address =
        some entry) (answered : answers pkt.targetNode entry)
      (orig : msg.origNode = n.ownBlock) (additional : msg.additionalNodes = [targetBlock entry]) :
      Made n heard msg
  | toTarget {msg pkt : RM} (received : heard = some pkt) (orig : msg.origNode = n.ownBlock)
      (additional : msg.additionalNodes = [origBlock pkt.origNode]) : Made n heard msg

structure Answered (n : Node) (heard : Option RM) (done : Node × List Transmission) : Prop where
  myAddr : done.1.myAddr = n.myAddr
  routingTable : done.1.routingTable = n.routingTable
  sent : ∀ t ∈ done.2, t.transmitter = n.myAddr ∧ Made done.1 heard t.message

theorem answered_silent (heard : Option RM) (myAddr : n'.myAddr = n.myAddr)
    (routingTable : n'.routingTable = n.routingTable) : Answered n heard (n', []) :=
  ⟨myAddr, routingTable, fun _ sent => absurd sent not_mem_nil⟩

variable {msg : RM} {destAddr : UInt32}

theorem mem_transmit {t : Transmission} (sent : t ∈ n.transmit msg destAddr) :
    t = n.sendDown msg destAddr := by
  unfold transmit at sent
  split at sent
  · cases sent
  · exact mem_singleton.mp sent

variable {heard : Option RM}

theorem answered_transmit (myAddr : n'.myAddr = n.myAddr)
    (routingTable : n'.routingTable = n.routingTable) (made : Made n' heard msg) :
    Answered n heard (n', n'.transmit msg destAddr) := by
  refine ⟨myAddr, routingTable, fun t sent => ?_⟩
  cases mem_transmit sent
  exact ⟨myAddr, made⟩

theorem answered_sendRREQ (heard : Option RM) (destAddr : UInt32) (msgHdrHopLimit : Int)
    (targetSeqNum targetDist : UInt32) (granted : Bool) :
    Answered n heard (n.sendRREQ destAddr msgHdrHopLimit targetSeqNum targetDist granted) := by
  cases granted with
  | false => exact answered_silent heard rfl rfl
  | true => exact answered_transmit rfl rfl (.own rfl rfl)

theorem answered_sendReply (heard : Option RM) (destAddr tSeqNum : UInt32) :
    Yields (n.sendReply destAddr tSeqNum) (Answered n heard) := by
  intro done ran
  unfold sendReply at ran
  split at ran
  · cases ran
  · cases ran
    split <;> exact answered_transmit rfl rfl (.own rfl rfl)

theorem answered_intermediate {entry : RoutingEntry} (asked : pkt.kind = .RREQ)
    (valid : n.validRoute pkt.targetNode.address = some entry)
    (answered : answers pkt.targetNode entry) :
    Yields (n.sendReplyAsIntermediateRouter pkt.origNode pkt.targetNode entry)
    (Answered n (some pkt)) := by
  intro done ran
  unfold sendReplyAsIntermediateRouter at ran
  split at ran
  · cases ran
  · obtain ⟨seqNum, -, rfl⟩ := map_eq_ok ran
    refine ⟨rfl, rfl, fun t sent => ?_⟩
    rcases mem_append.mp sent with sent | sent
    · cases mem_transmit sent
      exact ⟨rfl, .toOrig rfl asked valid answered rfl rfl⟩
    · cases mem_transmit sent
      exact ⟨rfl, .toTarget rfl rfl rfl⟩

theorem answered_relay (pkt : RM) (destAddr : UInt32) (granted : Bool) :
    Yields (n.relay pkt destAddr granted) (Answered n (some pkt)) := by
  intro done ran
  unfold relay at ran
  split at ran
  case isTrue =>
    cases ran
    exact answered_silent _ rfl rfl
  case isFalse fits =>
    have fits := Bool.eq_false_of_not_eq_true fits
    rw [incrementDistIfAvailable_eq fits, ok_bind, additionalNodesToRelay_eq] at ran
    cases ran
    dsimp only
    split
    · exact answered_silent _ rfl rfl
    · exact answered_transmit rfl rfl (.relayed rfl fits rfl rfl)

theorem answered_handleLowerRMForRelay (pkt : RM) (granted : Bool) :
    Yields (n.handleLowerRMForRelay pkt granted) (Answered n (some pkt)) := by
  unfold handleLowerRMForRelay
  split
  case h_1 => exact .ok (answered_silent _ rfl rfl)
  case h_2 => exact answered_relay pkt _ _
  case h_3 => exact answered_relay pkt _ _
  case h_4 entry asked valid =>
    split
    case isTrue answered => exact answered_intermediate asked valid answered
    case isFalse => exact answered_relay pkt _ _

theorem answered_answerRM (pkt : RM) (granted : Bool) :
    Yields (n.answerRM granted pkt) (Answered n (some pkt)) := by
  unfold answerRM
  split
  · unfold handleLowerRMForMe
    split
    · exact answered_sendReply _ _ _
    · exact .ok (answered_silent _ rfl rfl)
  · exact answered_handleLowerRMForRelay pkt granted

variable {done : Node × List Transmission}

theorem handleLowerRM_cases {granted : Bool} (ran : n.handleLowerRM pkt hop granted = .ok done) :
    ∃ n₁ heard, n.updateRoutes pkt hop = .ok (n₁, heard) ∧ Answered n₁ heard done := by
  obtain ⟨⟨n₁, heard⟩, updated, ran⟩ := bind_eq_ok ran
  refine ⟨n₁, heard, updated, ?_⟩
  cases heard with
  | none =>
    cases ran
    exact answered_silent none rfl rfl
  | some kept => exact answered_answerRM kept granted done ran

theorem answered_discover (destAddr targetSeqNum targetDist : UInt32) (granted : Bool) :
    Answered n none (n.discover destAddr targetSeqNum targetDist granted) := by
  unfold discover
  split
  · exact answered_silent none rfl rfl
  · have sends :=
      answered_sendRREQ (n := n) none destAddr n.MIN_HOPLIMIT.toInt targetSeqNum targetDist granted
    refine ⟨sends.myAddr, sends.routingTable, fun t sent => ?_⟩
    obtain ⟨transmitter, made⟩ := sends.sent t sent
    cases made with
    | own orig alone => exact ⟨transmitter, .own orig alone⟩
    | relayed received => cases received
    | toOrig received => cases received
    | toTarget received => cases received

theorem answered_processPacket (destAddr : UInt32) (isLocal granted : Bool) :
    Yields (n.processPacket destAddr isLocal granted) (Answered n none) := by
  have sends (targetSeqNum targetDist : UInt32) : Answered n none
      (if isLocal then n.discover destAddr targetSeqNum targetDist granted else (n, [])) := by
    split
    · exact answered_discover destAddr targetSeqNum targetDist granted
    · exact answered_silent none rfl rfl
  unfold processPacket
  split
  · exact .ok (sends 0 0)
  · split
    · exact .error
    · exact .ok (sends _ _)

theorem Answered.of_same (h : Answered n₁ heard done) (myAddr : n₁.myAddr = n.myAddr)
    (routingTable : n₁.routingTable = n.routingTable) : Answered n heard done :=
  ⟨h.myAddr.trans myAddr, h.routingTable.trans routingTable, fun t sent => myAddr ▸ h.sent t sent⟩

theorem answered_handleRREQTimeout (i : Nat) (granted : Bool) :
    Answered n none (n.handleRREQTimeout i granted) := by
  unfold handleRREQTimeout
  split
  · exact answered_silent none rfl rfl
  · split
    · split
      · exact answered_silent none rfl rfl
      · exact (answered_sendRREQ none _ _ _ _ _).of_same rfl rfl
    · exact answered_silent none rfl rfl

end Node

namespace Node

variable {n n' : Node}

theorem updateRoutes_kept {pkt kept : RM} {hop : UInt32}
    (done : n.updateRoutes pkt hop = .ok (n', some kept)) :
    pkt.origNode.address ≠ n.myAddr ∧ ∃ n₁ nodes,
      n.updateRoutesFromAddressBlock pkt.origNode pkt.isRREQ hop = .ok (n₁, true) ∧
      updateAdditionalNodes pkt.isRREQ hop n₁ pkt.additionalNodes = .ok (n', some nodes) ∧
      kept = { pkt with additionalNodes := nodes } := by
  unfold updateRoutes at done
  split at done
  case isTrue => cases done
  case isFalse other =>
    obtain ⟨⟨n₁, superior⟩, first, done⟩ := bind_eq_ok done
    obtain ⟨⟨n₂, nodes⟩, later, same⟩ := map_eq_ok done
    obtain ⟨rfl, goes_on⟩ := Prod.mk.inj same
    cases superior with
    | false => cases goes_on
    | true =>
      obtain ⟨nodes, rfl, rfl⟩ := Option.map_eq_some_iff.mp goes_on
      exact ⟨other, n₁, nodes, first, later, rfl⟩

theorem validRoute_mem {addr : UInt32} {entry : RoutingEntry}
    (valid : n.validRoute addr = some entry) : entry ∈ n.routingTable := by
  obtain ⟨found, -⟩ := Option.filter_eq_some_iff.mp valid
  obtain ⟨⟨i, e⟩, look, rfl⟩ := Option.map_eq_some_iff.mp found
  exact mem_of_getElem? (getForAddress_found look).1

theorem mem_markBroken {which : RoutingEntry → Bool} {entry : RoutingEntry}
    (inside : entry ∈ (n.markBroken which).routingTable) :
    ∃ old ∈ n.routingTable, ∃ broken, entry = { old with routeBroken := broken } := by
  obtain ⟨old, there, rfl⟩ := List.mem_map.mp inside
  refine ⟨old, there, ?_⟩
  split
  · exact ⟨true, rfl⟩
  · exact ⟨old.routeBroken, rfl⟩

end Node

theorem Network.next_cases {nextHop : Transmission → UInt32} {s s' : Network} {e : Event}
    (stepped : Next nextHop s e s') : ∃ done, e.handle nextHop (s.nodes e.addr) = .ok done ∧
      s'.nodes e.addr = done.1 ∧ (∀ addr, addr ≠ e.addr → s'.nodes addr = s.nodes addr) ∧
      s'.air = s.air ++ done.2 := by
  obtain ⟨done, ran, rfl⟩ := map_eq_ok stepped.2
  exact ⟨done, ran, Function.update_self .., fun addr other => Function.update_of_ne other .., rfl⟩

end Srwsn.DYMO
