import Srwsn.SR.TableRARE

/-! Over every history of recorded responses the table holds the counts, modulo the width of `int`,
and selection for an answered query is the least most frequent responder. -/
namespace Srwsn

open MACAddress List
namespace TableRARE

def tally (responses : Nat) : Option Int := if responses = 0 then none else some responses

def counter (responses : Nat) : Option Int32 :=
  if responses = 0 then none else some (Int32.ofNat responses)

theorem counter_tally {responses : Nat} (few : responses < 2 ^ 31) :
    (counter responses).map Int32.toInt = tally responses := by
  unfold counter tally
  split
  · rfl
  · rw [Option.map_some, Int32.toInt_ofNat_of_lt few]

variable (calls : List (Int32 × MACAddress))

def callsOf (index : Nat) (key : List Char) : Nat :=
  calls.countP (fun call => unsignedInt call.1 == index && call.2.str == key)

def Counts (tr : TableRARE) : Prop :=
  ∀ index key, (tr.row index)[key]? = counter (callsOf calls index key)

variable {q : Int32} {tr : TableRARE}

theorem unsignedInt_bound (nonneg : 0 ≤ q) : unsignedInt q < 2 ^ 31 := by
  have signed : 0 ≤ q.toBitVec.toInt := by simpa [Int32.le_iff_toInt_le] using nonneg
  have wide := q.toBitVec.isLt
  change q.toBitVec.toNat < 2 ^ 31
  rw [BitVec.toInt_eq_toNat_cond] at signed
  split at signed <;> omega

theorem unsignedInt_succ (nonneg : 0 ≤ q) : unsignedInt (q + 1) = unsignedInt q + 1 := by
  have bound := unsignedInt_bound nonneg
  change (unsignedInt q + 1) % 2 ^ 32 = _
  omega

theorem unsignedInt_injective {r : Int32} (h : unsignedInt q = unsignedInt r) : q = r :=
  Int32.toBitVec_inj.mp (BitVec.eq_of_toNat_eq h)

theorem resize_length (table : List Row) (size : Nat) : (resize table size).length = size := by
  simp only [resize, length_take, length_append, length_replicate]
  omega

theorem resize_getD (table : List Row) (size : Nat) (grow : table.length ≤ size) (i : Nat) :
    (resize table size).getD i ∅ = table.getD i ∅ := by
  simp only [resize, getD_eq_getElem?_getD, getElem?_take]
  by_cases inside : i < table.length
  · rw [if_pos (by omega), getElem?_append_left inside]
  · rw [getElem?_eq_none (by omega : table.length ≤ i)]
    split
    · rw [getElem?_append_right (by omega), getElem?_replicate]
      split <;> rfl
    · rfl

theorem store_ok (tr : TableRARE) {table : List Row} {index : Nat} (inside : index < table.length)
    (newRow : Row) : ∃ tr', tr.store table index newRow = .ok tr' ∧
      ∀ i, tr'.row i = if i = index then newRow else table.getD i ∅ := by
  refine ⟨_, if_pos inside, ?_⟩
  intro i
  simp only [row, getD_eq_getElem?_getD, getElem?_set]
  by_cases same : i = index
  · rw [if_pos same.symm, if_pos inside, if_pos same]
    rfl
  · rw [if_neg (Ne.symm same), if_neg same]

theorem callsOf_cons (q : Int32) (mac : MACAddress) (calls : List (Int32 × MACAddress))
    (index : Nat) (key : List Char) : callsOf ((q, mac) :: calls) index key =
      callsOf calls index key + if unsignedInt q = index ∧ mac.str = key then 1 else 0 := by
  simp only [callsOf, countP_cons, Bool.and_eq_true, beq_iff_eq]

theorem callsOf_eq_zero {calls : List (Int32 × MACAddress)} (h : Counts calls tr) {index : Nat}
    {key : List Char} (missing : (tr.row index)[key]? = none) : callsOf calls index key = 0 := by
  rw [h] at missing
  by_contra counted
  simp [counter, counted] at missing

/-- One more response is entered into the row of its query, and no other row changes. -/
theorem counts_insert {calls : List (Int32 × MACAddress)} {tr' : TableRARE} {mac : MACAddress}
    {responses : Int32} (h : Counts calls tr) (count : responses =
      Int32.ofNat (callsOf calls (unsignedInt q) mac.str + 1))
    (rows : ∀ i, tr'.row i = if i = unsignedInt q then
      (tr.row (unsignedInt q)).insert mac.str responses else tr.row i) :
    Counts ((q, mac) :: calls) tr' := by
  intro index key
  rw [rows, callsOf_cons]
  by_cases here : index = unsignedInt q
  · subst here
    rw [if_pos rfl, Std.TreeMap.getElem?_insert]
    simp only [Std.LawfulEqCmp.compare_eq_iff_eq]
    by_cases same : mac.str = key
    · subst same
      simp [counter, count]
    · rw [if_neg same, if_neg (fun both => same both.2), h]
      rfl
  · rw [if_neg here, if_neg (fun both => here both.1.symm), h]
    rfl

theorem updateTable_counts {calls : List (Int32 × MACAddress)}
    (nonneg : 0 ≤ q) (small : q ≠ Int32.maxValue) (mac : MACAddress) (h : Counts calls tr) :
    ∃ tr', tr.UpdateTable q mac = .ok tr' ∧ Counts ((q, mac) :: calls) tr' := by
  unfold UpdateTable
  rw [if_neg small]
  split
  · rename_i absent
    have grown := resize_length tr.learningTable (unsignedInt (q + 1))
    rw [unsignedInt_succ nonneg] at grown ⊢
    have inside : unsignedInt q < (resize tr.learningTable (unsignedInt q + 1)).length := by
      rw [grown]
      exact Nat.lt_succ_self _
    -- the row did not exist, so it reads as empty and no call has been counted for it
    have empty : tr.row (unsignedInt q) = ∅ := by
      simp only [row, getD_eq_getElem?_getD, getElem?_eq_none absent]
      rfl
    obtain ⟨tr', stored, rows⟩ := store_ok tr inside ((∅ : Row).insert mac.str 1)
    have one : 1 = Int32.ofNat (callsOf calls (unsignedInt q) mac.str + 1) := by
      rw [callsOf_eq_zero h (by rw [empty]; rfl)]
      rfl
    refine ⟨tr', stored, counts_insert h one fun i => ?_⟩
    rw [rows, resize_getD _ _ (Nat.le_succ_of_le absent), empty]
    rfl
  · rename_i present
    have inside : unsignedInt q < tr.learningTable.length := Nat.lt_of_not_le present
    dsimp only
    split
    · rename_i responses found
      obtain ⟨tr', stored, rows⟩ :=
        store_ok tr inside ((tr.row (unsignedInt q)).insert mac.str (responses + 1))
      refine ⟨tr', stored, counts_insert h ?_ rows⟩
      rw [h] at found
      unfold counter at found
      split at found
      · cases found
      · rw [← Option.some.inj found, Int32.ofNat_add]
        rfl
    · rename_i missing
      obtain ⟨tr', stored, rows⟩ := store_ok tr inside ((tr.row (unsignedInt q)).insert mac.str 1)
      refine ⟨tr', stored, counts_insert h ?_ rows⟩
      rw [callsOf_eq_zero h missing]
      rfl

def updateAll (tr : TableRARE) : List (Int32 × MACAddress) → Except Fault TableRARE
  | [] => .ok tr
  | (q, mac) :: calls =>
    match tr.UpdateTable q mac with
    | .error fault => .error fault
    | .ok tr' => tr'.updateAll calls

theorem updateAll_counts (earlier : List (Int32 × MACAddress)) (tr : TableRARE)
    (ids : ∀ call ∈ calls, 0 ≤ call.1 ∧ call.1 ≠ Int32.maxValue) (h : Counts earlier tr) :
    ∃ tr', tr.updateAll calls = .ok tr' ∧ Counts (calls.reverse ++ earlier) tr' := by
  induction calls generalizing earlier tr with
  | nil => exact ⟨tr, rfl, h⟩
  | cons call calls ih =>
    obtain ⟨q, mac⟩ := call
    obtain ⟨nonneg, small⟩ := ids (q, mac) (by simp)
    obtain ⟨next, updated, counted⟩ := updateTable_counts nonneg small mac h
    obtain ⟨tr', rest, total⟩ := ih ((q, mac) :: earlier) next
      (fun call member => ids call (mem_cons_of_mem _ member)) counted
    refine ⟨tr', ?_, by simpa using total⟩
    simp only [updateAll, updated]
    exact rest

theorem counts_empty (tr : TableRARE) (empty : tr.learningTable = []) : Counts [] tr := by
  intro index key
  simp only [row, empty, getD_nil]
  rfl

theorem callsOf_eq_count (q : Int32) (mac : MACAddress) :
    callsOf calls (unsignedInt q) mac.str = calls.count (q, mac) := by
  simp only [callsOf, List.count]
  apply countP_congr
  rintro ⟨r, other⟩ _
  simp only [Bool.and_eq_true, beq_iff_eq, Prod.mk.injEq]
  constructor
  · rintro ⟨same, printed⟩
    exact ⟨unsignedInt_injective same, str_injective printed⟩
  · rintro ⟨rfl, rfl⟩
    exact ⟨rfl, rfl⟩

theorem key_of_call {calls : List (Int32 × MACAddress)} (h : Counts calls tr) {key : List Char}
    {responses : Int32} (entry : (tr.row (unsignedInt q))[key]? = some responses) :
    ∃ mac, key = mac.str ∧ responses = Int32.ofNat (calls.count (q, mac)) ∧
    0 < calls.count (q, mac) := by
  rw [h] at entry
  unfold counter at entry
  split at entry
  · cases entry
  · rename_i counted
    obtain ⟨⟨r, mac⟩, member, hit⟩ := countP_pos_iff.mp (Nat.pos_of_ne_zero counted)
    simp only [Bool.and_eq_true, beq_iff_eq] at hit
    have key_eq := hit.2
    subst key_eq
    rw [callsOf_eq_count] at counted entry
    exact ⟨mac, rfl, (Option.some.inj entry).symm, Nat.pos_of_ne_zero counted⟩

/-- The most frequent responder, and the least of them in octet order. -/
def MostResponsive (q : Int32) (best : MACAddress) : Prop :=
  0 < calls.count (q, best) ∧ ∀ mac, calls.count (q, mac) ≤ calls.count (q, best) ∧
    (calls.count (q, mac) = calls.count (q, best) → best.compareTo mac ≠ .gt)

theorem scan_mostResponsive {calls : List (Int32 × MACAddress)} (h : Counts calls tr)
    (few : ∀ call, calls.count call < 2 ^ 31) {peer : MACAddress} (answered : (q, peer) ∈ calls) :
    ∃ best, (Scan.scan 0 [] (tr.row (unsignedInt q)).scores).2 = best.str ∧
    MostResponsive calls q best := by
  have entry_of : ∀ mac, 0 < calls.count (q, mac) →
      (mac.str, (calls.count (q, mac) : Int)) ∈ (tr.row (unsignedInt q)).scores := by
    intro mac positive
    refine mem_map.mpr ⟨(mac.str, Int32.ofNat (calls.count (q, mac))), ?_, ?_⟩
    · rw [Std.TreeMap.mem_toList_iff_getElem?_eq_some, h, callsOf_eq_count, counter,
        if_neg (Nat.ne_of_gt positive)]
    · rw [Int32.toInt_ofNat_of_lt (few _)]
  have counted := count_pos_iff.mpr answered
  obtain ⟨member, greatest⟩ := Scan.scan_first_maximum compare 0 ([] : List Char)
    (tr.row (unsignedInt q)).scores (pairwise_map.mpr Std.TreeMap.ordered_keys_toList)
    ⟨_, entry_of peer counted, Int.natCast_pos.mpr counted⟩
  obtain ⟨⟨key, responses⟩, stored, same⟩ := mem_map.mp member
  obtain ⟨best, printed, count, positive⟩ :=
    key_of_call h (Std.TreeMap.mem_toList_iff_getElem?_eq_some.mp stored)
  rw [← (Prod.mk.inj same).1] at greatest ⊢
  have score : responses.toInt = calls.count (q, best) := by
    rw [count, Int32.toInt_ofNat_of_lt (few _)]
  rw [← (Prod.mk.inj same).2] at greatest
  refine ⟨best, printed, positive, ?_⟩
  intro mac
  by_cases silent : calls.count (q, mac) = 0
  · exact ⟨by omega, fun same => by omega⟩
  · obtain ⟨below, tie⟩ := greatest _ (entry_of mac (Nat.pos_of_ne_zero silent))
    rw [score] at below tie
    refine ⟨Int.ofNat_le.mp below, fun same => ?_⟩
    rw [← str_compareTo, ← printed]
    exact tie (congrArg Int.ofNat same)

theorem selection_of_scan {best : MACAddress} (inside : unsignedInt q < tr.learningTable.length)
    (winner : (Scan.scan 0 [] (tr.row (unsignedInt q)).scores).2 = best.str) (fuel : Nat)
    (draws : List Nat) :
    LearningPeerSelection (fuel + 1) tr draws q = .ok (best, tr, draws) := by
  have printed : best.str ≠ [] := by
    intro empty
    have parsed := tryParse_str best
    rw [empty] at parsed
    cases parsed
  simp only [LearningPeerSelection, if_pos inside, winner, if_pos printed, tryParse_str]

/-- After any calls that keep to the range of `int` every count is the number of calls, and a query
that was answered selects its most frequent responder. -/
theorem learning_table_correct (tr : TableRARE) (empty : tr.learningTable = [])
    (calls : List (Int32 × MACAddress)) (ids : ∀ call ∈ calls, 0 ≤ call.1 ∧ call.1 ≠ Int32.maxValue)
    (few : ∀ call, calls.count call < 2 ^ 31) : ∃ tr', tr.updateAll calls = .ok tr' ∧
      (∀ q mac, ((tr'.row (unsignedInt q))[mac.str]?).map Int32.toInt =
        tally (calls.count (q, mac))) ∧
      ∀ q peer, (q, peer) ∈ calls → ∃ best, MostResponsive calls q best ∧
        ∀ fuel draws, LearningPeerSelection (fuel + 1) tr' draws q = .ok (best, tr', draws) := by
  obtain ⟨tr', updated, counted⟩ := updateAll_counts calls [] tr ids (counts_empty tr empty)
  have total : Counts calls tr' := by
    intro index key
    rw [counted index key]
    simp only [append_nil, callsOf, countP_reverse]
  refine ⟨tr', updated, ?_, ?_⟩
  · intro q mac
    rw [total, callsOf_eq_count, counter_tally (few _)]
  · intro q peer answered
    obtain ⟨best, winner, most⟩ := scan_mostResponsive total few answered
    refine ⟨best, most, selection_of_scan ?_ winner⟩
    -- a row that holds an entry lies inside the table
    by_contra outside
    have read := total (unsignedInt q) best.str
    rw [callsOf_eq_count, counter, if_neg (Nat.ne_of_gt most.1)] at read
    simp [row, getElem?_eq_none (Nat.le_of_not_lt outside)] at read

/-- Query 2 leaves a gap before it and has two responders with one response each. -/
theorem learning_table_correct_gap_and_tie : ∃ tr', (initializeTable 3).updateAll
        [(2, autoAddress 5), (0, autoAddress 4), (2, autoAddress 3)] = .ok tr' ∧
      ((tr'.row 2)[(autoAddress 5).str]?).map Int32.toInt = some 1 ∧ ∃ best,
      LearningPeerSelection 1 tr' [] 2 = .ok (best, tr', []) ∧
        best.compareTo (autoAddress 3) ≠ .gt := by
  obtain ⟨tr', updated, counted, selects⟩ := learning_table_correct (initializeTable 3) rfl
    [(2, autoAddress 5), (0, autoAddress 4), (2, autoAddress 3)] (by decide)
    (fun call => lt_of_le_of_lt count_le_length (by decide))
  obtain ⟨best, most, selected⟩ := selects 2 (autoAddress 5) (by decide)
  refine ⟨tr', updated, counted 2 (autoAddress 5), best, selected 0 [], ?_⟩
  apply (most.2 (autoAddress 3)).2
  have least := (most.2 (autoAddress 3)).1
  have single : ∀ mac, List.count ((2 : Int32), mac) [(2, autoAddress 5),
      (0, autoAddress 4), (2, autoAddress 3)] ≤ 1 := by
    intro mac
    exact nodup_iff_count_le_one.mp (by decide) (2, mac)
  have one : List.count ((2 : Int32), autoAddress 3) [(2, autoAddress 5),
      (0, autoAddress 4), (2, autoAddress 3)] = 1 := by decide
  have bound := single best
  omega

/-- The counter of one peer wraps around, and the size of the table overflows. -/
theorem learning_table_overflow : (∃ tr', (initializeTable 3).updateAll
        (replicate (2 ^ 31) (0, autoAddress 1)) = .ok tr' ∧
      ((tr'.row 0)[(autoAddress 1).str]?).map Int32.toInt = some (-2 ^ 31)) ∧
    (initializeTable 3).UpdateTable Int32.maxValue (autoAddress 1) = .error .overflow := by
  refine ⟨?_, rfl⟩
  obtain ⟨tr', updated, counted⟩ :=
    updateAll_counts (replicate (2 ^ 31) (0, autoAddress 1)) [] (initializeTable 3)
    (fun call member => by rw [eq_of_mem_replicate member]; decide) (counts_empty _ rfl)
  refine ⟨tr', updated, ?_⟩
  have stored := counted (unsignedInt 0) (autoAddress 1).str
  rw [append_nil, reverse_replicate, callsOf_eq_count, count_replicate_self] at stored
  rw [show (0 : Nat) = unsignedInt 0 from rfl, stored]
  rfl

end TableRARE
end Srwsn
