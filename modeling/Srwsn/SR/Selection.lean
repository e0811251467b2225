import Srwsn.SR.Learning

/-! The peers that a selection can end with, read off the learning table. -/
namespace Srwsn

open MACAddress List
namespace TableRARE

/-- The least key among those of the greatest count, if that is positive. -/
def Top (row : Row) (key : List Char) : Prop :=
  ∃ count, row[key]? = some count ∧ 0 < count.toInt ∧ ∀ other count', row[other]? = some count' →
    count'.toInt ≤ count.toInt ∧ (count' = count → compare key other ≠ .gt)

section

variable {row : Row} {key : List Char}

theorem mem_scores {score : Int} :
    (key, score) ∈ row.scores ↔ ∃ count, row[key]? = some count ∧ count.toInt = score := by
  simp only [Row.scores, mem_map, Prod.mk.injEq, Prod.exists]
  constructor
  · rintro ⟨_, count, stored, rfl, same⟩
    exact ⟨count, Std.TreeMap.mem_toList_iff_getElem?_eq_some.mp stored, same⟩
  · rintro ⟨count, stored, same⟩
    exact ⟨key, count, Std.TreeMap.mem_toList_iff_getElem?_eq_some.mpr stored, rfl, same⟩

theorem scan_top (positive : ∃ e ∈ row.scores, 0 < e.2) :
    Top row (Scan.scan 0 [] row.scores).2 := by
  obtain ⟨member, greatest⟩ := Scan.scan_first_maximum compare 0 ([] : List Char) row.scores
    (pairwise_map.mpr Std.TreeMap.ordered_keys_toList) positive
  obtain ⟨count, stored, same⟩ := mem_scores.mp member
  obtain ⟨e, inside, above⟩ := positive
  refine ⟨count, stored, ?_, fun other count' found => ?_⟩
  · rw [same]
    exact above.trans_le (greatest e inside).1
  · obtain ⟨below, tie⟩ := greatest (other, count'.toInt) (mem_scores.mpr ⟨count', found, rfl⟩)
    rw [← same] at below tie
    exact ⟨below, fun equal => tie (congrArg Int32.toInt equal)⟩

theorem Top.unique {other : List Char} (one : Top row key) (two : Top row other) : key = other := by
  obtain ⟨count, stored, -, greatest⟩ := one
  obtain ⟨count', stored', -, greatest'⟩ := two
  obtain ⟨below, tie⟩ := greatest other count' stored'
  obtain ⟨below', tie'⟩ := greatest' key count stored
  have same : count' = count := Int32.toInt_inj.mp (below.antisymm below')
  have least := tie same
  have least' := tie' same.symm
  rw [show compare other key = (compare key other).swap from Std.OrientedCmp.eq_swap] at least'
  cases order : compare key other with
  | eq => exact Std.LawfulEqCmp.eq_of_compare order
  | lt => simp [order] at least'
  | gt => exact absurd order least

theorem scan_eq_iff (printed : key ≠ []) : (Scan.scan 0 [] row.scores).2 = key ↔ Top row key := by
  constructor
  · rintro rfl
    apply scan_top
    by_contra flat
    push Not at flat
    rw [Scan.scan_flat 0 [] row.scores flat] at printed
    exact printed rfl
  · intro top
    obtain ⟨count, stored, above, -⟩ := id top
    exact (scan_top ⟨_, mem_scores.mpr ⟨count, stored, rfl⟩, above⟩).unique top

end

variable (tr : TableRARE)

def Favours (id : Int32) (mac : MACAddress) : Prop :=
  ∃ key, Top (tr.row (unsignedInt id)) key ∧ tryParse key = some mac

def Silent (id : Int32) : Prop := ∀ key, Top (tr.row (unsignedInt id)) key → key = []

/-- A silent row hands the search on to the closest query, and after the last retry to any row but
the last that is not empty. -/
inductive Leads : Int32 → Int32 → MACAddress → Prop where
  | favoured {tries id : Int32} {mac : MACAddress} (best : tr.Favours id mac) : Leads tries id mac
  | relaxed {tries id : Int32} {mac : MACAddress} (silent : tr.Silent id)
      (closer : tr.QueryRelaxation id ≠ id) (again : tries < tr.QueryRelaxationMaxRetry)
      (rest : Leads (tries + 1) (tr.QueryRelaxation id) mac) : Leads tries id mac
  | drawn {tries id : Int32} {mac : MACAddress} {index : Nat} (silent : tr.Silent id)
      (last : ¬ (tr.QueryRelaxation id ≠ id ∧ tries < tr.QueryRelaxationMaxRetry))
      (inside : index < tr.learningTable.length - 1) (filled : (tr.row index).isEmpty = false)
      (rest : Leads 0 (Int32.ofNat index) mac) : Leads tries id mac

/-- What is left of the present round of relaxations and of those that the draws start. -/
def cost (tries : Int32) (draws : List Nat) : Nat :=
  draws.length * (tr.QueryRelaxationMaxRetry.toInt.toNat + 2) +
    (tr.QueryRelaxationMaxRetry.toInt - tries.toInt).toNat + 1

section

variable {tr} {tries id : Int32} {mac : MACAddress} {draws : List Nat}

theorem cost_le_fuel : tr.cost tr.QueryRelaxationRetryTime draws ≤ tr.selectionFuel draws := by
  unfold cost selectionFuel
  rw [Nat.add_mul, Nat.one_mul]
  have rounds := Nat.mul_le_mul_left draws.length (show tr.QueryRelaxationMaxRetry.toInt.toNat + 2 ≤
    tr.QueryRelaxationMaxRetry.toInt.toNat + tr.QueryRelaxationRetryTime.toInt.natAbs + 2 by omega)
  have back : -tr.QueryRelaxationRetryTime.toInt ≤ tr.QueryRelaxationRetryTime.toInt.natAbs := by
    rw [← Int.natAbs_neg]
    exact Int.le_natAbs
  omega

theorem cost_retry (again : tries < tr.QueryRelaxationMaxRetry) :
    tr.cost tries draws = tr.cost (tries + 1) draws + 1 := by
  have less := Int32.lt_iff_toInt_lt.mp again
  have top := tr.QueryRelaxationMaxRetry.toInt_lt
  have bottom := tries.le_toInt
  have next : (tries + 1).toInt = tries.toInt + 1 := by
    rw [Int32.toInt_add]
    change (tries.toInt + 1).bmod (2 ^ 32) = _
    rw [Int.bmod_eq_of_le] <;> omega
  unfold cost
  rw [next]
  omega

theorem cost_draw (index : Nat) : tr.cost 0 draws < tr.cost tries (index :: draws) := by
  unfold cost
  rw [length_cons, Nat.add_mul, Nat.one_mul]
  change _ + (tr.QueryRelaxationMaxRetry.toInt - 0).toNat + 1 < _
  omega

abbrev retried (tr : TableRARE) (tries : Int32) : TableRARE :=
  { tr with QueryRelaxationRetryTime := tries }

theorem winner_eq : (if unsignedInt id < tr.learningTable.length then
    (Scan.scan 0 [] (tr.row (unsignedInt id)).scores).2 else []) =
      (Scan.scan 0 [] (tr.row (unsignedInt id)).scores).2 := by
  split
  · rfl
  · rename_i outside
    have empty : tr.row (unsignedInt id) = ∅ := by
      simp only [row, getD_eq_getElem?_getD, getElem?_eq_none (Nat.le_of_not_lt outside)]
      rfl
    rw [empty]
    rfl

theorem silent_iff : (Scan.scan 0 [] (tr.row (unsignedInt id)).scores).2 = [] ↔ tr.Silent id := by
  constructor
  · intro none key top
    by_contra printed
    exact printed ((scan_eq_iff printed).mpr top ▸ none)
  · intro silent
    by_contra printed
    exact printed (silent _ ((scan_eq_iff printed).mp rfl))

theorem drawRow_ok {table : List Row} {randomQuery : Int32} {rest : List Nat}
    (wide : table.length - 1 ≠ 0) (drew : drawRow table draws = .ok (randomQuery, rest)) :
    ∃ index < table.length - 1,
      (table.getD index ∅).isEmpty = false ∧ randomQuery = Int32.ofNat index := by
  induction draws with
  | nil => cases drew
  | cons rand draws ih =>
    unfold drawRow at drew
    dsimp only at drew
    split at drew
    · exact ih drew
    · rename_i filled
      obtain ⟨same, -⟩ := Prod.mk.inj (Except.ok.inj drew)
      exact ⟨_, Nat.mod_lt _ (Nat.pos_of_ne_zero wide), Bool.eq_false_iff.mpr filled, same.symm⟩

theorem selection_leads {fuel : Nat} {tr' : TableRARE} {rest : List Nat}
    (selected : LearningPeerSelection fuel (tr.retried tries) draws id = .ok (mac, tr', rest)) :
    tr.Leads tries id mac ∨ tr.learningTable = [] ∧ mac = UNSPECIFIED_ADDRESS := by
  induction fuel generalizing tries draws id with
  | zero => cases selected
  | succ fuel ih =>
    unfold LearningPeerSelection at selected
    rw [@winner_eq (tr.retried tries)] at selected
    dsimp only at selected
    split at selected
    · rename_i printed
      split at selected
      · rename_i peer parsed
        obtain ⟨rfl, -⟩ := Prod.mk.inj (Except.ok.inj selected)
        exact .inl (.favoured ⟨_, (scan_eq_iff printed).mp rfl, parsed⟩)
      · cases selected
    · rename_i none
      have silent := silent_iff.mp (not_not.mp none)
      split at selected
      · rename_i again
        exact (ih selected).imp_left (.relaxed silent again.1 again.2)
      · rename_i last
        split at selected
        · rename_i empty
          obtain ⟨rfl, -⟩ := Prod.mk.inj (Except.ok.inj selected)
          exact .inr ⟨length_eq_zero_iff.mp empty, rfl⟩
        · split at selected
          · cases selected
          · rename_i wide
            split at selected
            · cases selected
            · rename_i drew
              obtain ⟨index, inside, filled, rfl⟩ := drawRow_ok wide drew
              exact (ih selected).imp_left (.drawn silent last inside filled)

theorem selection_relaxed (fuel : Nat) (silent : tr.Silent id) (closer : tr.QueryRelaxation id ≠ id)
    (again : tries < tr.QueryRelaxationMaxRetry) :
    LearningPeerSelection (fuel + 1) (tr.retried tries) draws id =
      LearningPeerSelection fuel (tr.retried (tries + 1)) draws (tr.QueryRelaxation id) := by
  have none : (Scan.scan 0 [] ((tr.retried tries).row (unsignedInt id)).scores).2 = [] :=
    silent_iff.mpr silent
  conv_lhs => unfold LearningPeerSelection
  rw [winner_eq, none]
  exact if_pos (And.intro closer again)

theorem selection_last (fuel : Nat) (silent : tr.Silent id)
    (last : ¬ (tr.QueryRelaxation id ≠ id ∧ tries < tr.QueryRelaxationMaxRetry)) :
    LearningPeerSelection (fuel + 1) (tr.retried tries) draws id =
      if tr.learningTable.length = 0 then .ok (UNSPECIFIED_ADDRESS, tr.retried 0, draws)
      else if tr.learningTable.length - 1 = 0 then .error .divisionByZero
      else match drawRow tr.learningTable draws with
        | .error fault => .error fault
        | .ok (randomQuery, draws) => LearningPeerSelection fuel (tr.retried 0) draws
            randomQuery := by
  have none : (Scan.scan 0 [] ((tr.retried tries).row (unsignedInt id)).scores).2 = [] :=
    silent_iff.mpr silent
  conv_lhs => unfold LearningPeerSelection
  rw [winner_eq, none]
  exact if_neg last

/-- Every peer that the search leads to is selected with some draws. -/
theorem Leads.selected (h : tr.Leads tries id mac) : ∃ draws, ∀ fuel, tr.cost tries draws ≤ fuel →
    ∃ tr' rest, LearningPeerSelection fuel (tr.retried tries) draws id = .ok (mac, tr', rest) := by
  induction h with
  | @favoured tries id mac best =>
    obtain ⟨key, top, parsed⟩ := best
    have printed : key ≠ [] := by
      rintro rfl
      cases parsed
    have winner : (Scan.scan 0 [] ((tr.retried tries).row (unsignedInt id)).scores).2 = key :=
      (scan_eq_iff printed).mpr top
    refine ⟨[], fun fuel enough => ?_⟩
    obtain ⟨fuel, rfl⟩ := Nat.exists_eq_add_of_le' (Nat.one_le_of_lt (Nat.lt_of_succ_le enough))
    refine ⟨tr.retried tries, [], ?_⟩
    unfold LearningPeerSelection
    rw [winner_eq, winner]
    simp only [if_pos printed, parsed]
  | relaxed silent closer again rest ih =>
    obtain ⟨draws, selects⟩ := ih
    refine ⟨draws, fun fuel enough => ?_⟩
    rw [cost_retry again] at enough
    obtain ⟨fuel, rfl⟩ := Nat.exists_eq_add_of_le' (Nat.le_of_add_left_le enough)
    rw [selection_relaxed fuel silent closer again]
    exact selects fuel (Nat.le_of_succ_le_succ enough)
  | @drawn tries id mac index silent last inside filled rest ih =>
    obtain ⟨draws, selects⟩ := ih
    refine ⟨index :: draws, fun fuel enough => ?_⟩
    have less := (@cost_draw tr tries draws index).trans_le enough
    obtain ⟨fuel, rfl⟩ := Nat.exists_eq_add_of_le' (Nat.one_le_of_lt less)
    have drew : drawRow tr.learningTable (index :: draws) = .ok (Int32.ofNat index, draws) := by
      simp only [drawRow, Nat.mod_eq_of_lt inside]
      exact if_neg (Bool.eq_false_iff.mp filled)
    rw [selection_last fuel silent last, if_neg (by omega), if_neg (by omega), drew]
    exact selects fuel (Nat.le_of_lt_succ less)

theorem selection_nobody (empty : tr.learningTable = []) (fuel : Nat)
    (enough : tr.cost tries [] ≤ fuel) :
    ∃ tr', LearningPeerSelection fuel (tr.retried tries) [] id =
    .ok (UNSPECIFIED_ADDRESS, tr', []) := by
  have silent : ∀ id, tr.Silent id := by
    rintro id key ⟨count, stored, -⟩
    simp [row, empty] at stored
  induction fuel generalizing tries id with
  | zero => cases enough
  | succ fuel ih =>
    by_cases again : tr.QueryRelaxation id ≠ id ∧ tries < tr.QueryRelaxationMaxRetry
    · rw [selection_relaxed fuel (silent id) again.1 again.2]
      rw [cost_retry again.2] at enough
      exact ih (Nat.le_of_succ_le_succ enough)
    · rw [selection_last fuel (silent id) again, if_pos (by rw [empty]; rfl)]
      exact ⟨_, rfl⟩

theorem selectable_iff : (∃ draws tr' rest,
    LearningPeerSelection (tr.selectionFuel draws) tr draws id = .ok (mac, tr', rest)) ↔
      tr.Leads tr.QueryRelaxationRetryTime id mac ∨ tr.learningTable = [] ∧
      mac = UNSPECIFIED_ADDRESS := by
  constructor
  · rintro ⟨draws, tr', rest, selected⟩
    exact selection_leads selected
  · rintro (leads | ⟨empty, rfl⟩)
    · obtain ⟨draws, selects⟩ := leads.selected
      obtain ⟨tr', rest, selected⟩ := selects _ cost_le_fuel
      exact ⟨draws, tr', rest, selected⟩
    · obtain ⟨tr', selected⟩ := @selection_nobody tr _ id empty _ (@cost_le_fuel tr [])
      exact ⟨[], tr', [], selected⟩

end

end TableRARE
end Srwsn
