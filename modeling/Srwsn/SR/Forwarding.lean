import Srwsn.SR.Handlers
import Srwsn.SR.Selection
import Srwsn.Lib.Outcome

/-! Where a request goes on. -/
namespace Srwsn

open MACAddress
namespace BloomTable

def Lacks (query_str : List Char) (rows : List (List Char × Option BloomFilter)) : Prop :=
  ∀ row ∈ rows, ∃ bloom, row.2 = some bloom ∧ bloom.Check query_str = false

/-- The first neighbour, in the order of the printed addresses, whose filter has the word. -/
inductive Names (bt : BloomTable) (query_str : List Char) : MACAddress → Prop where
  | nobody (lacking : Lacks query_str bt.NeighborsTable.toList) :
      Names bt query_str UNSPECIFIED_ADDRESS
  | first {before after : List (List Char × Option BloomFilter)} {mac_str : List Char}
      {bloom : BloomFilter}
      {mac : MACAddress} (rows : bt.NeighborsTable.toList =
        before ++ (mac_str, some bloom) :: after)
      (lacking : Lacks query_str before) (has : bloom.Check query_str = true)
      (parsed : tryParse mac_str = some mac) : Names bt query_str mac

variable {query_str : List Char} {mac : MACAddress}

theorem firstNeighbor_skip {rows : List (List Char × Option BloomFilter)}
    (lacking : Lacks query_str rows) (rest : List (List Char × Option BloomFilter)) :
    firstNeighbor query_str (rows ++ rest) = firstNeighbor query_str rest := by
  induction rows with
  | nil => rfl
  | cons row rows ih =>
    obtain ⟨mac_str, entry⟩ := row
    obtain ⟨bloom, rfl, lacks⟩ := lacking (mac_str, entry) List.mem_cons_self
    rw [List.cons_append, firstNeighbor, lacks]
    exact ih fun row inside => lacking row (List.mem_cons_of_mem _ inside)

theorem firstNeighbor_split (rows : List (List Char × Option BloomFilter)) :
    Lacks query_str rows ∨ ∃ before row after, rows = before ++ row :: after ∧
      Lacks query_str before ∧ ∀ bloom, row.2 = some bloom → bloom.Check query_str = true := by
  induction rows with
  | nil => exact .inl nofun
  | cons row rows ih =>
    by_cases lacks : ∃ bloom, row.2 = some bloom ∧ bloom.Check query_str = false
    · rcases ih with none | ⟨before, found, after, rfl, lacking, has⟩
      · exact .inl (List.forall_mem_cons.mpr ⟨lacks, none⟩)
      · exact .inr ⟨row :: before, found, after, rfl, List.forall_mem_cons.mpr ⟨lacks, lacking⟩,
          has⟩
    · refine .inr ⟨[], row, rows, rfl, nofun, fun bloom stored => ?_⟩
      by_contra fails
      exact lacks ⟨bloom, stored, Bool.eq_false_iff.mpr fails⟩

theorem firstNeighbor_iff (bt : BloomTable) :
    firstNeighbor query_str bt.NeighborsTable.toList = .ok mac ↔ bt.Names query_str mac := by
  constructor
  · intro found
    rcases @firstNeighbor_split query_str bt.NeighborsTable.toList with
      lacking | ⟨before, ⟨mac_str, entry⟩, after, rows, lacking, has⟩
    · rw [← List.append_nil bt.NeighborsTable.toList, firstNeighbor_skip lacking] at found
      obtain rfl := Except.ok.inj found
      exact .nobody lacking
    · rw [rows, firstNeighbor_skip lacking] at found
      cases entry with
      | none => cases found
      | some bloom =>
        rw [firstNeighbor, if_pos (has bloom rfl)] at found
        split at found
        · rename_i parsed
          obtain rfl := Except.ok.inj found
          exact .first rows lacking (has bloom rfl) parsed
        · cases found
  · intro names
    cases names with
    | nobody lacking =>
      rw [← List.append_nil bt.NeighborsTable.toList, firstNeighbor_skip lacking]
      rfl
    | first rows lacking has parsed =>
      rw [rows, firstNeighbor_skip lacking, firstNeighbor, if_pos has, parsed]

theorem getNextHop_foreign {bt : BloomTable} {query : Int32} {myMAC hop : MACAddress}
    (foreign : hop ≠ myMAC) :
    bt.GetNextHop query false myMAC = .ok hop ↔ ∃ query_str, QueryTranslation2[query]? =
      some query_str ∧ bt.BloomPerso.Check query_str = false ∧ bt.Names query_str hop := by
  unfold GetNextHop
  cases QueryTranslation2[query]? with
  | none => simp
  | some query_str =>
    simp only [Bool.not_false, Bool.true_and, Option.some.injEq, exists_eq_left',
      ← firstNeighbor_iff]
    cases bt.BloomPerso.Check query_str with
    | true => simp [foreign.symm]
    | false => simp

end BloomTable

/-- The peers that the learning table can propose for a query, or that it proposes nobody. -/
def TableRARE.Proposes (tr : TableRARE) (query : Int32) (mac : MACAddress) : Prop :=
  tr.Leads tr.QueryRelaxationRetryTime query mac ∨ tr.learningTable = [] ∧ mac = UNSPECIFIED_ADDRESS

namespace SR

section

variable {me : SR} {st : Statics} {input : Input} {p : SRPacket} {e : Eff}

/-- The node's own filter lacks the query, and the others name nobody but the sender. -/
def Unserved (me : SR) (p : SRPacket) : Prop :=
  ∃ query_str hop, BloomTable.QueryTranslation2[p.queryId]? = some query_str ∧
    me.bt.BloomPerso.Check query_str = false ∧ me.bt.Names query_str hop ∧ hop ≠ me.myMACAddress ∧
    (hop = UNSPECIFIED_ADDRESS ∨ hop = p.srcMACAddress)

/-- Who gets a request then: a peer that the learning table can propose, or the first neighbour that
the packet is not addressed to. -/
inductive FallsBack (tr : TableRARE) (neighborList : Std.TreeMap UInt16 MACAddress) (p : SRPacket) :
    MACAddress → Prop where
  | learned {peer : MACAddress} (known : peer ≠ UNSPECIFIED_ADDRESS)
      (proposed : tr.Proposes p.queryId peer) : FallsBack tr neighborList p peer
  | neighbor {before after : List (UInt16 × MACAddress)} {id : UInt16} {peer : MACAddress}
      (nobody : tr.Proposes p.queryId UNSPECIFIED_ADDRESS)
      (listed : neighborList.toList = before ++ (id, peer) :: after)
      (addressed : ∀ entry ∈ before, entry.2 = p.destMACAddress) (other : peer ≠ p.destMACAddress) :
      FallsBack tr neighborList p peer

theorem find_other_iff {dest : MACAddress} {l : List (UInt16 × MACAddress)}
    {entry : UInt16 × MACAddress} :
    l.find? (fun entry => !dest.equals entry.2) = some entry ↔ ∃ before after,
      l = before ++ entry :: after ∧ (∀ entry ∈ before, entry.2 = dest) ∧ entry.2 ≠ dest := by
  have differs : ∀ mac, (!dest.equals mac) = true ↔ mac ≠ dest := by
    intro mac
    rw [Bool.not_eq_true', Bool.eq_false_iff, ne_eq, equals_iff, ne_comm]
  simp only [List.find?_eq_some_iff_append, differs, Bool.not_not, equals_iff]
  constructor
  · rintro ⟨other, before, after, listed, addressed⟩
    exact ⟨before, after, listed, fun entry inside => (addressed entry inside).symm, other⟩
  · rintro ⟨before, after, listed, addressed, other⟩
    exact ⟨other, before, after, listed, fun entry inside => (addressed entry inside).symm⟩

theorem forwardLearned_sent (h : me.forwardLearned st input p = .ok e) {q : SRPacket}
    (out : q ∈ e.out) : FallsBack me.tr me.neighborList p q.destMACAddress := by
  unfold forwardLearned at h
  split at h
  · cases h
  · rename_i peer tr rest selected
    have proposed : me.tr.Proposes p.queryId peer :=
      TableRARE.selectable_iff.mp ⟨_, tr, rest, selected⟩
    dsimp only at h
    split at h
    · rename_i unspecified
      obtain rfl := (isUnspecified_iff peer).mp unspecified
      split at h
      · cases h
        cases out
      · rename_i entry found
        cases h
        obtain rfl := List.mem_singleton.mp out
        obtain ⟨before, after, listed, addressed, other⟩ := find_other_iff.mp found
        exact .neighbor proposed listed addressed other
    · rename_i specified
      cases h
      obtain rfl := List.mem_singleton.mp out
      exact .learned (fun same => specified ((isUnspecified_iff peer).mpr same)) proposed

theorem FallsBack.sent {peer : MACAddress} (h : FallsBack me.tr me.neighborList p peer)
    (st : Statics) : ∃ input tr, me.forwardLearned st input p = .ok ⟨{ me with tr := tr }, st,
      [me.scheduleMsgToSendNic { p with destMACAddress := peer }],
      [.takenUp p.Id p.myTimestamp]⟩ := by
  cases h with
  | learned known proposed =>
    obtain ⟨draws, tr, rest, selected⟩ := TableRARE.selectable_iff.mpr proposed
    refine ⟨{ draws := draws }, tr, ?_⟩
    unfold forwardLearned
    dsimp only
    rw [selected]
    exact if_neg fun same => known ((isUnspecified_iff peer).mp same)
  | neighbor nobody listed addressed other =>
    obtain ⟨draws, tr, rest, selected⟩ := TableRARE.selectable_iff.mpr nobody
    refine ⟨{ draws := draws }, tr, ?_⟩
    unfold forwardLearned
    dsimp only
    rw [selected, find_other_iff.mpr ⟨_, _, listed, addressed, other⟩]
    exact if_pos ((isUnspecified_iff _).mpr rfl)

theorem takeUp_sent (h : me.takeUp st input p = .ok e) {q : SRPacket} (out : q ∈ e.out)
    (forwarded : q.queryType = .request) : q.destMACAddress ≠ p.srcMACAddress ∨
      me.Unserved p ∧ FallsBack me.tr me.neighborList p q.destMACAddress := by
  unfold takeUp at h
  dsimp only at h
  split at h
  · cases h
  · rename_i hop named
    split at h
    · -- the node answers, and an answer is no request
      unfold answer at h
      split at h
      all_goals
        cases h
        obtain rfl := List.mem_singleton.mp out
        cases forwarded
    · rename_i foreign
      have foreign : hop ≠ me.myMACAddress := fun same => foreign ((equals_iff _ _).mpr same)
      split at h
      · rename_i usable
        cases h
        obtain rfl := List.mem_singleton.mp out
        simp only [Bool.and_eq_true, Bool.not_eq_true', Bool.eq_false_iff] at usable
        exact .inl fun same => usable.2 ((equals_iff _ _).mpr same)
      · rename_i unusable
        obtain ⟨query_str, translated, lacks, names⟩ :=
          (BloomTable.getNextHop_foreign foreign).mp named
        refine .inr ⟨⟨query_str, hop, translated, lacks, names, foreign, ?_⟩,
          forwardLearned_sent h out⟩
        simp only [Bool.and_eq_true, Bool.not_eq_true', Bool.eq_false_iff, not_and, not_not]
          at unusable
        by_cases unspecified : hop.isUnspecified = true
        · exact .inl ((isUnspecified_iff hop).mp unspecified)
        · exact .inr ((equals_iff _ _).mp (unusable unspecified))

theorem Unserved.takeUp (h : me.Unserved p) :
    me.takeUp st input p = (accepting me p).forwardLearned st input p := by
  obtain ⟨query_str, hop, translated, lacks, names, foreign, back⟩ := h
  have named := (BloomTable.getNextHop_foreign foreign).mpr ⟨query_str, translated, lacks, names⟩
  unfold SR.takeUp
  dsimp only
  rw [named]
  dsimp only
  rw [if_neg fun same => foreign ((equals_iff _ _).mp same), if_neg]
  · rfl
  · simp only [Bool.and_eq_true, Bool.not_eq_true', Bool.eq_false_iff, not_and, not_not, ne_eq,
      isUnspecified_iff, equals_iff]
    exact fun known => back.resolve_left known

end

/-- A new request that no filter answers falls back on its sender. -/
structure Bounces (me : SR) (p : SRPacket) : Prop where
  new : me.currentRequestTimeStamp ≠ p.myTimestamp
  unserved : me.Unserved p
  back : FallsBack me.tr me.neighborList p p.srcMACAddress

/-- No draws make a node send a request back just when its tables and the packet do not lead 
there. -/
theorem forwarded_elsewhere (me : SR) (p : SRPacket) (request : p.queryType = .request) :
    (∀ st input e, me.handleNicNormalMsg st input p = .ok e → ∀ q ∈ e.out, q.queryType = .request →
      q.destMACAddress ≠ p.srcMACAddress) ↔ ¬ me.Bounces p := by
  have taken : ∀ st input, me.currentRequestTimeStamp ≠ p.myTimestamp →
      me.handleNicNormalMsg st input p = me.takeUp st input p := by
    intro st input new
    unfold handleNicNormalMsg
    rw [request]
    exact if_neg new
  constructor
  · intro elsewhere ⟨new, unserved, back⟩
    obtain ⟨input, tr, sent⟩ := @FallsBack.sent (accepting me p) p _ back {}
    exact elsewhere {} input _ ((taken {} input new).trans (unserved.takeUp.trans sent)) _
      (List.mem_singleton_self _) request rfl
  · intro escapes st input e h q out forwarded
    by_cases new : me.currentRequestTimeStamp = p.myTimestamp
    · unfold handleNicNormalMsg at h
      rw [request] at h
      dsimp only at h
      rw [if_pos new] at h
      cases h
      cases out
    · rcases takeUp_sent ((taken st input new).symm.trans h) out forwarded
        with other | ⟨unserved, back⟩
      · exact other
      · intro same
        exact escapes ⟨new, unserved, same ▸ back⟩

def plain (neighbor : MACAddress) : SR :=
  let filter := BloomFilter.create BloomTable.tailleFiltre BloomTable.tailleFiltre_pos (fun _ => 0)
    [sax_hash, sdbm_hash]
  { isSink := false, myMACAddress := autoAddress 1, bt := ⟨filter, ∅⟩
    tr := TableRARE.initializeTable 3, myID := 64, iDBuilder := ⟨64⟩
    neighborList := (∅ : Std.TreeMap UInt16 MACAddress).insert 128 neighbor, iAmTheLast := false }

def handedOn : SRPacket :=
  { msgType := .normal, queryType := .request, Id := 192, srcMACAddress := autoAddress 2,
    destMACAddress := autoAddress 1, myTimestamp := 100 }

/-- The filter of node 2 has the query, and node 4 has answered it more often than node 2. -/
def experienced : SR :=
  let me := plain (autoAddress 2)
  let row := ((∅ : Row).insert (autoAddress 4).str 2).insert (autoAddress 2).str 1
  { me with
    bt := me.bt.AddFilter (some (me.bt.BloomPerso.Add "HUMIDITY".toList)) (autoAddress 2)
    tr := { me.tr with learningTable := [row] }
    neighborList := me.neighborList.insert 256 (autoAddress 4) }

theorem experienced_proposes {mac : MACAddress}
    (proposed : experienced.tr.Proposes handedOn.queryId mac) : mac = autoAddress 4 := by
  have top : TableRARE.Top (experienced.tr.row 0) (autoAddress 4).str := by
    refine ⟨2, by decide +kernel, by decide, fun other count found => ?_⟩
    change ((((∅ : Row).insert (autoAddress 4).str 2).insert (autoAddress 2).str 1)[other]? = _)
      at found
    simp only [Std.TreeMap.getElem?_insert, Std.LawfulEqCmp.compare_eq_iff_eq] at found
    split at found
    · cases found
      exact ⟨by decide, fun same => absurd same (by decide)⟩
    · split at found
      · rename_i same
        cases found
        exact ⟨le_rfl, fun _ => by simp [same]⟩
      · cases found
  rcases proposed with leads | ⟨empty, -⟩
  · cases leads with
    | favoured best =>
      obtain ⟨key, top', parsed⟩ := best
      rw [← top.unique top', tryParse_str] at parsed
      exact (Option.some.inj parsed).symm
    | relaxed silent => exact absurd (silent _ top) (by decide)
    | drawn silent => exact absurd (silent _ top) (by decide)
  · cases empty

theorem sent_by (me : SR) (p : SRPacket) (mac : MACAddress)
    (ran : (me.handleNicNormalMsg {} {} p).toOption.map
      (fun e => e.out.map fun q => (q.queryType, q.destMACAddress)) = some [(.request, mac)]) :
    ∃ e q, me.handleNicNormalMsg {} {} p = .ok e ∧ q ∈ e.out ∧ q.queryType = .request ∧
    q.destMACAddress = mac := by
  obtain ⟨e, handled, sent⟩ := Option.map_eq_some_iff.mp ran
  have inside : (SRQuery.request, mac) ∈ e.out.map fun q => (q.queryType, q.destMACAddress) := by
    rw [sent]
    exact List.mem_singleton_self _
  obtain ⟨q, out, observed⟩ := List.mem_map.mp inside
  obtain ⟨forwarded, dest⟩ := Prod.mk.inj observed
  exact ⟨e, q, Outcome.eq_ok_of_toOption handled, out, forwarded, dest⟩

theorem forwarded_elsewhere_experienced :
    (∃ e q, experienced.handleNicNormalMsg {} {} handedOn = .ok e ∧
      q ∈ e.out ∧ q.queryType = .request ∧ q.destMACAddress = autoAddress 4) ∧
    ∀ st input e, experienced.handleNicNormalMsg st input handedOn = .ok e → ∀ q ∈ e.out,
      q.queryType = .request → q.destMACAddress ≠ autoAddress 2 := by
  refine ⟨sent_by _ _ _ (by decide +kernel), (forwarded_elsewhere experienced handedOn rfl).mpr ?_⟩
  rintro ⟨-, -, back⟩
  generalize sender : handedOn.srcMACAddress = peer at back
  cases back with
  | learned _ proposed =>
    rw [experienced_proposes proposed] at sender
    exact absurd sender (by decide)
  | neighbor nobody => exact absurd (experienced_proposes nobody) (by decide)

/-- The only neighbour is the sender, and the packet is not addressed to it. -/
theorem forwarded_back : ¬ ∀ (me : SR) (st : Statics) (input : Input) (p : SRPacket) (e : Eff),
    p.queryType = .request → me.handleNicNormalMsg st input p = .ok e → ∀ q ∈ e.out,
      q.queryType = .request → q.destMACAddress ≠ p.srcMACAddress := by
  intro all
  obtain ⟨e, q, handled, out, forwarded, dest⟩ := sent_by (plain (autoAddress 2)) handedOn
    (autoAddress 2) (by decide +kernel)
  exact all _ {} {} handedOn e rfl handled q out forwarded dest

end SR
end Srwsn
