import Srwsn.Lib.Blocks
import Srwsn.Lib.Outcome
import Srwsn.Lib.Serial

/-! The record of received TSNs at an SCTP receiver: `cTsnAck` and the gap blocks above it. -/
namespace Srwsn

open Function

def tsnLe (tsn1 tsn2 : UInt32) : Bool := decide ((tsn1 - tsn2).toInt32 ≤ 0)
def tsnGt (tsn1 tsn2 : UInt32) : Bool := decide ((tsn1 - tsn2).toInt32 > 0)
def tsnBetween (tsn1 midtsn tsn2 : UInt32) : Bool := decide (tsn2 - tsn1 ≥ midtsn - tsn1)
def ssnGt (ssn1 ssn2 : UInt16) : Bool := decide ((ssn1 - ssn2).toInt16 > 0)

open Serial Blocks Outcome

section Compare

variable {base a b x : UInt32}

theorem toInt_toInt32 (x : UInt32) : x.toInt32.toInt = (x.toNat : ℤ).bmod (2 ^ 32) := by
  rw [Int32.toInt, UInt32.toBitVec_toInt32, BitVec.toInt_eq_toNat_bmod, UInt32.toNat_toBitVec]

theorem toInt32_pos_iff : 0 < x.toInt32 ↔ 0 < x.toNat ∧ x.toNat < 2 ^ 31 := by
  have below := x.toNat_lt
  rw [Int32.lt_iff_toInt_lt, toInt_toInt32, Int32.toInt_zero, Int.bmod]
  omega

theorem tsnGt_iff_ahead : tsnGt a b = true ↔ 0 < ahead b a ∧ ahead b a < 2 ^ 31 :=
  decide_eq_true_iff.trans toInt32_pos_iff

theorem tsnLe_iff_ahead : tsnLe a b = true ↔ ahead b a = 0 ∨ 2 ^ 31 ≤ ahead b a := by
  have mirrored : tsnLe a b = true ↔ ¬ tsnGt a b = true := by
    simp only [tsnLe, tsnGt, decide_eq_true_iff, gt_iff_lt, Int32.not_lt]
  rw [mirrored, tsnGt_iff_ahead]
  omega

theorem tsnGt_iff (near : ahead base a < 2 ^ 31) (near' : ahead base b < 2 ^ 31) :
    tsnGt a b = true ↔ ahead base b < ahead base a := by
  have turn := ahead_rebase base b a
  rw [tsnGt_iff_ahead]
  omega

theorem tsnLe_iff (near : ahead base a < 2 ^ 31) (near' : ahead base b < 2 ^ 31) :
    tsnLe a b = true ↔ ahead base a ≤ ahead base b := by
  have turn := ahead_rebase base b a
  have bound := @ahead_lt b a
  rw [tsnLe_iff_ahead]
  omega

theorem tsnBetween_iff (order : ahead base a ≤ ahead base b) :
    tsnBetween a x b = true ↔ ahead base a ≤ ahead base x ∧ ahead base x ≤ ahead base b := by
  have turn := ahead_rebase base a x
  have turn' := ahead_rebase base a b
  have bound := @ahead_lt base x
  have bound' := @ahead_lt base b
  rw [tsnBetween, decide_eq_true_iff, ge_iff_le, UInt32.le_iff_toNat_le]
  change ahead a x ≤ ahead a b ↔ _
  omega

end Compare

/-- An index outside of an array, an iterator or pointer to nothing, an `opp_error`, or a loop that
does not end. -/
inductive SctpFault where
  | arrayIndex
  | nullPointer
  | oppError
  | outOfFuel
  deriving DecidableEq, Repr

def MAX_GAP_COUNT : Nat := 500

structure SCTPRcvState where
  newChunkReceived : Bool := false
  swsAvoidanceInvoked : Bool := false
  stopReceiving : Bool := false
  dupList : List UInt32 := []
  localRwnd : UInt64 := 65536
  lastTsnAck : UInt32 := 0
  cTsnAck : UInt32 := 0
  highestTsnReceived : UInt32 := 0
  highestTsnStored : UInt32 := 0
  numGaps : Nat := 0
  gapStartList : Nat → UInt32 := fun _ => 0
  gapStopList : Nat → UInt32 := fun _ => 0
  queuedRcvBytes : UInt64 := 0
  messagesToPush : UInt32 := 0
  pushMessagesLeft : Int32 := 0
  nextRSid : Nat := 0
  swsLimit : UInt32 := 0
  assocPmtu : UInt32 := 0

namespace SCTPRcvState

variable (s : SCTPRcvState)

def windowFull : Bool := decide ((s.localRwnd - s.queuedRcvBytes).toUInt32.toInt32 ≤ 0)

def tsnIsDuplicate (tsn : UInt32) : Bool :=
  decide (tsn ∈ s.dupList) ||
    (List.range s.numGaps).any fun i => tsnBetween (s.gapStartList i) tsn (s.gapStopList i)

/- `push_back` and `unique`, which drops an element equal to the one before it. -/
def addDuplicate (tsn : UInt32) : SCTPRcvState :=
  { s with dupList := (s.dupList ++ [tsn]).destutter (· ≠ ·) }

def setHighestTsnReceived : SCTPRcvState :=
  { s with
    highestTsnReceived := if s.numGaps = 0 then s.cTsnAck else s.gapStopList (s.numGaps - 1) }

def updateAfterGaps (receivedTsn lo : UInt32) : Except SctpFault SCTPRcvState :=
  if receivedTsn = lo then
    if receivedTsn = s.cTsnAck + 1 then
      .ok { s with cTsnAck := receivedTsn, newChunkReceived := true }
    else .ok { s with
      gapStopList := update s.gapStopList (s.numGaps - 1) (s.gapStopList (s.numGaps - 1) + 1)
      newChunkReceived := true }
  else if s.numGaps < MAX_GAP_COUNT then
    .ok { s with
      gapStartList := update s.gapStartList s.numGaps receivedTsn
      gapStopList := update s.gapStopList s.numGaps receivedTsn
      numGaps := s.numGaps + 1
      newChunkReceived := true }
  else .error .arrayIndex

/-- The TSN is between `lo` and the block at `i`, with other missing TSNs beside it. -/
def widenGap (receivedTsn : UInt32) (i : Nat) (lo hi : UInt32) : Except SctpFault SCTPRcvState :=
  if receivedTsn = hi then
    .ok { s with
      gapStartList := update s.gapStartList i receivedTsn
      newChunkReceived := true }
  else if receivedTsn = lo then
    if receivedTsn = s.cTsnAck + 1 then
      .ok { s with cTsnAck := s.cTsnAck + 1, newChunkReceived := true }
    else .ok { s with
      gapStopList := update s.gapStopList (i - 1) receivedTsn
      newChunkReceived := true }
  else if s.numGaps + 1 < MAX_GAP_COUNT then
    .ok { s with
      numGaps := s.numGaps + 1
      gapStartList := update (shiftUp s.gapStartList i (s.numGaps + 1)) i receivedTsn
      gapStopList := update (shiftUp s.gapStopList i (s.numGaps + 1)) i receivedTsn
      newChunkReceived := true }
  else .error .arrayIndex

/-- The last block is zeroed, and others are overwritten by those after them, in one case with a
round more than in the other. -/
def closeGap (i : Nat) (lo : UInt32) : Except SctpFault SCTPRcvState :=
  let first := lo = s.cTsnAck + 1
  let stops := if first then s.gapStopList else update s.gapStopList (i - 1) (s.gapStopList i)
  let cTsnAck := if first then s.gapStopList i else s.cTsnAck
  if i = s.numGaps - 1 then
    .ok { s with
      cTsnAck := cTsnAck
      gapStartList := update s.gapStartList i 0
      gapStopList := update stops i 0
      numGaps := s.numGaps - 1
      newChunkReceived := true }
  else
    let rounds := if first then s.numGaps - i else s.numGaps + 1 - i
    if i + rounds < MAX_GAP_COUNT then
      .ok { s with
        cTsnAck := cTsnAck
        gapStartList := shiftDown s.gapStartList i rounds
        gapStopList := shiftDown stops i rounds
        numGaps := s.numGaps - 1
        newChunkReceived := true }
    else .error .arrayIndex

/-- The loop of `updateGapList` from the block at `i` on. A block that starts at 0 is taken for an
empty slot. -/
def updateGaps (s : SCTPRcvState) (receivedTsn : UInt32) :
    (left i : Nat) → (lo : UInt32) → Except SctpFault SCTPRcvState
  | 0, _, lo => s.updateAfterGaps receivedTsn lo
  | left + 1, i, lo =>
    if 0 < s.gapStartList i then
      let hi := s.gapStartList i - 1
      if tsnBetween lo receivedTsn hi then
        if 1 < hi - lo + 1 then s.widenGap receivedTsn i lo hi else s.closeGap i lo
      else s.updateGaps receivedTsn left (i + 1) (s.gapStopList i + 1)
    else s.updateGaps receivedTsn left (i + 1) lo

def updateGapList (receivedTsn : UInt32) : Except SctpFault (Bool × SCTPRcvState) :=
  let lo := s.cTsnAck + 1
  if s.windowFull ∧ receivedTsn ≠ lo then .ok (false, s)
  else
    let stored := if tsnGt receivedTsn s.highestTsnStored then receivedTsn else s.highestTsnStored
    (updateGaps { s with highestTsnStored := stored } receivedTsn s.numGaps 0 lo).map (Prod.mk true)

/-- The rounds of `advanceCtsna` that are left. A block is taken out, but `numGaps` stays. -/
def advanceRounds : Nat → SCTPRcvState → SCTPRcvState
  | 0, s => s
  | left + 1, s =>
    if s.cTsnAck + 1 = s.gapStartList 0 then
      advanceRounds left { s with
        cTsnAck := s.gapStopList 0
        gapStartList := shiftDown s.gapStartList 0 (s.numGaps - 1)
        gapStopList := shiftDown s.gapStopList 0 (s.numGaps - 1) }
    else s

def advanceCtsna : SCTPRcvState := advanceRounds s.numGaps s

/-! Positions count from a base at or before `cTsnAck`. Everything up to `cTsnAck` is block 0, and
the block at `i` is block `i + 1`. -/

section Positions

variable (base : UInt32) (s : SCTPRcvState)

def starts : Nat → Nat
  | 0 => 0
  | i + 1 => ahead base (s.gapStartList i)

def stops : Nat → Nat
  | 0 => ahead base s.cTsnAck
  | i + 1 => ahead base (s.gapStopList i)

def Reported (y : Nat) : Prop := Covers (s.numGaps + 1) (s.starts base) (s.stops base) y

/-- The blocks are in order and apart, within half a turn. -/
structure Tidy : Prop where
  spaced : Spaced (s.numGaps + 1) (s.starts base) (s.stops base)
  near : ∀ y, s.Reported base y → y < 2 ^ 31

structure Records (tsn : UInt32) (s s' : SCTPRcvState) : Prop where
  frame : s' = { s with
    cTsnAck := s'.cTsnAck
    numGaps := s'.numGaps
    gapStartList := s'.gapStartList
    gapStopList := s'.gapStopList
    newChunkReceived := true }
  tidy : s'.Tidy base
  adds : ∀ y, s'.Reported base y ↔ y = ahead base tsn ∨ s.Reported base y

end Positions

section Update

variable {base : UInt32} {s s' : SCTPRcvState} {tsn : UInt32}

theorem Tidy.stop_near (tidy : s.Tidy base) {i : Nat} (inside : i ≤ s.numGaps) :
    s.stops base i < 2 ^ 31 := by
  have order := tidy.spaced.order i (Nat.lt_succ_of_le inside)
  exact tidy.near _ ⟨i, Nat.lt_succ_of_le inside, order, le_rfl⟩

theorem Tidy.start_near (tidy : s.Tidy base) {i : Nat} (inside : i ≤ s.numGaps) :
    s.starts base i < 2 ^ 31 :=
  (tidy.spaced.order i (Nat.lt_succ_of_le inside)).trans_lt (tidy.stop_near inside)

theorem Tidy.next (tidy : s.Tidy base) : ahead base (s.cTsnAck + 1) = s.stops base 0 + 1 := by
  have bound := tidy.stop_near (Nat.zero_le s.numGaps)
  simp only [stops] at bound
  exact ahead_add (by simp; omega)

theorem lt_of_not_reported {y : Nat} (fresh : ¬ s.Reported base y) : s.stops base 0 < y := by
  by_contra reached
  exact fresh ⟨0, Nat.succ_pos _, Nat.zero_le _, by omega⟩

theorem Records.of_spaced (tidy : s.Tidy base) (near : ahead base tsn < 2 ^ 31)
    (frame : s' = { s with
      cTsnAck := s'.cTsnAck
      numGaps := s'.numGaps
      gapStartList := s'.gapStartList
      gapStopList := s'.gapStopList
      newChunkReceived :=
        true }) (changed : Spaced (s'.numGaps + 1) (s'.starts base) (s'.stops base) ∧
      ∀ y, Covers (s'.numGaps + 1) (s'.starts base) (s'.stops base) y ↔
        y = ahead base tsn ∨ Covers (s.numGaps + 1) (s.starts base) (s.stops base) y) : Records base
        tsn s s' := by
  refine ⟨frame, ⟨changed.1, fun y reported => ?_⟩, changed.2⟩
  rcases (changed.2 y).mp reported with rfl | before
  · exact near
  · exact tidy.near y before

theorem Records.flag (records : Records base tsn s s') :
    { s' with newChunkReceived := true } = s' := by
  rw [records.frame]

section

variable {i : Nat} (tidy : s.Tidy base) (near : ahead base tsn < 2 ^ 31)

include tidy near

theorem records_raise (inside : i ≤ s.numGaps) (touch : ahead base tsn = s.stops base i + 1)
    (free : i < s.numGaps → ahead base tsn + 1 < s.starts base (i + 1)) :
    Records base tsn s { s with
      cTsnAck := if i = 0 then tsn else s.cTsnAck
      gapStopList := if i = 0 then s.gapStopList else update s.gapStopList (i - 1) tsn
      newChunkReceived := true } := by
  refine .of_spaced tidy near rfl (tidy.spaced.raise (Nat.lt_succ_of_le inside) touch
    (fun less => free (by omega)) fun j _ => ?_)
  cases j with
  | zero => cases i <;> rfl
  | succ j =>
    cases i with
    | zero => rfl
    | succ i =>
      simp only [stops, Nat.add_one_ne_zero, if_false, update_apply, Nat.add_sub_cancel,
        Nat.add_right_cancel_iff]
      split_ifs <;> rfl

theorem records_lower (inside : i < s.numGaps) (free : s.stops base i + 1 < ahead base tsn)
    (touch : ahead base tsn + 1 = s.starts base (i + 1)) : Records base tsn s { s with
      gapStartList := update s.gapStartList i tsn
      newChunkReceived := true } := by
  refine .of_spaced tidy near rfl (tidy.spaced.lower (Nat.succ_lt_succ inside) free touch fun j _ =>
    ?_)
  cases j with
  | zero => rfl
  | succ j =>
    simp only [starts, update_apply, Nat.add_right_cancel_iff]
    split_ifs <;> rfl

variable {gapStartList gapStopList : Nat → UInt32}

theorem records_insert (inside : i ≤ s.numGaps) (low : s.stops base i + 1 < ahead base tsn)
    (high : i < s.numGaps → ahead base tsn + 1 < s.starts base (i + 1))
    (starts' : ∀ j ≤ s.numGaps, gapStartList j =
      if j < i then s.gapStartList j else if j = i then tsn else s.gapStartList (j - 1))
    (stops' : ∀ j ≤ s.numGaps, gapStopList j =
      if j < i then s.gapStopList j else if j = i then tsn else s.gapStopList (j - 1)) : Records
      base tsn s { s with
      numGaps := s.numGaps + 1
      gapStartList := gapStartList
      gapStopList := gapStopList
      newChunkReceived := true } := by
  refine .of_spaced tidy near rfl (tidy.spaced.insert (Nat.lt_succ_of_le inside) low
    (fun less => high (by omega)) (fun j le => ?_) fun j le => ?_)
  all_goals
    cases j with
    | zero => rfl
    | succ j =>
      simp only [starts, stops, starts' j (by omega), stops' j (by omega), Nat.add_right_cancel_iff,
        Nat.succ_le_iff, Nat.add_sub_cancel]
      split_ifs with before here
      · rfl
      · rfl
      · obtain ⟨k, rfl⟩ := Nat.exists_eq_add_of_lt (show 0 < j by omega)
        rfl

theorem records_join (inside : i < s.numGaps) (low : ahead base tsn = s.stops base i + 1)
    (high : ahead base tsn + 1 = s.starts base (i + 1)) (starts' : ∀ j, j + 1 < s.numGaps →
      gapStartList j = if j < i then s.gapStartList j else s.gapStartList (j + 1)) (stops' : ∀ j,
      j + 1 < s.numGaps →
      gapStopList j = if j + 1 < i then s.gapStopList j else s.gapStopList (j + 1)) : Records base
      tsn s { s with
      cTsnAck := if i = 0 then s.gapStopList 0 else s.cTsnAck
      numGaps := s.numGaps - 1
      gapStartList := gapStartList
      gapStopList := gapStopList
      newChunkReceived := true } := by
  have count : s.numGaps - 1 + 1 = s.numGaps := by omega
  refine .of_spaced tidy near rfl ?_
  dsimp only
  rw [count]
  refine tidy.spaced.join inside low high (fun j less => ?_) fun j less => ?_
  · cases j with
    | zero => rfl
    | succ j =>
      simp only [starts, starts' j less, Nat.succ_le_iff]
      split_ifs <;> rfl
  · cases j with
    | zero =>
      simp only [stops, Nat.pos_iff_ne_zero]
      split_ifs <;> first | rfl | contradiction
    | succ j =>
      simp only [stops, stops' j less]
      split_ifs <;> rfl

end

variable {i : Nat} {lo : UInt32} (tidy : s.Tidy base)

include tidy

theorem Tidy.lo_eq_iff (inside : i ≤ s.numGaps)
    (at_lo : ahead base lo = s.stops base i + 1) : lo = s.cTsnAck + 1 ↔ i = 0 := by
  rw [← @ahead_inj base, at_lo, tidy.next]
  constructor
  · intro same
    by_contra later
    have above := tidy.spaced.lt (Nat.pos_of_ne_zero later) (Nat.lt_succ_of_le inside)
    have order := tidy.spaced.order i (Nat.lt_succ_of_le inside)
    omega
  · rintro rfl
    rfl

section Near

variable (near : ahead base tsn < 2 ^ 31)

include near

theorem updateAfterGaps_records
    (at_lo : ahead base lo = s.stops base s.numGaps + 1)
    (beyond : s.stops base s.numGaps < ahead base tsn) :
    Yields (s.updateAfterGaps tsn lo) (Records base tsn s) := by
  have first := tidy.lo_eq_iff le_rfl at_lo
  unfold updateAfterGaps
  refine yields_ite (fun next => yields_ite (fun cumulative => .ok ?_) fun cumulative => .ok ?_)
    fun next => .ite (.ok ?_) .error
  · subst next
    have none := first.mp cumulative
    have raised := records_raise tidy near (Nat.zero_le _) (none ▸ at_lo) fun less => by omega
    simpa using raised
  · subst next
    have some := mt first.mpr cumulative
    have bound := tidy.stop_near (le_refl s.numGaps)
    have last : s.gapStopList (s.numGaps - 1) + 1 = tsn := by
      rw [← @ahead_inj base, at_lo]
      obtain ⟨n, count⟩ := Nat.exists_eq_succ_of_ne_zero some
      simp only [count, stops] at bound ⊢
      exact ahead_add (by simp; omega)
    have raised := records_raise tidy near le_rfl at_lo fun less => by omega
    simpa [some, last] using raised
  · have apart : ahead base tsn ≠ ahead base lo := mt ahead_inj.mp next
    refine records_insert tidy near le_rfl (by omega) (fun less => by omega) ?_ ?_
    all_goals
      intro j le
      rcases Nat.eq_or_lt_of_le le with rfl | less
      · simp
      · rw [update_of_ne (by omega), if_pos less]

theorem widenGap_records (inside : i < s.numGaps) {hi : UInt32}
    (at_lo : ahead base lo = s.stops base i + 1) (at_hi : ahead base hi + 1 = s.starts base (i + 1))
    (between : ahead base lo ≤ ahead base tsn ∧ ahead base tsn ≤ ahead base hi)
    (wide : ahead base lo < ahead base hi) :
    Yields (s.widenGap tsn i lo hi) (Records base tsn s) := by
  have first := tidy.lo_eq_iff inside.le at_lo
  unfold widenGap
  refine yields_ite (fun high => .ok ?_) fun high => yields_ite
    (fun low => yields_ite (fun cumulative => .ok ?_) fun cumulative => .ok ?_) fun low =>
    .ite (.ok ?_) .error
  · subst high
    exact records_lower tidy near inside (by omega) at_hi
  · subst low
    have zero := first.mp cumulative
    have raised := records_raise tidy near inside.le at_lo fun less => by omega
    simpa [zero, ← cumulative] using raised
  · subst low
    have later := mt first.mpr cumulative
    have raised := records_raise tidy near inside.le at_lo fun less => by omega
    simpa [later] using raised
  · have apart : ahead base tsn ≠ ahead base lo := mt ahead_inj.mp low
    have apart' : ahead base tsn ≠ ahead base hi := mt ahead_inj.mp high
    refine records_insert tidy near inside.le (by omega) (fun _ => by omega) ?_ ?_
    all_goals
      intro j le
      rcases eq_or_ne j i with rfl | other
      · simp
      · simp only [update_of_ne other, shiftUp_apply]
        split_ifs <;> first | rfl | omega

theorem closeGap_records (inside : i < s.numGaps)
    (at_lo : ahead base lo = s.stops base i + 1) (low : ahead base tsn = ahead base lo)
    (high : ahead base tsn + 1 = s.starts base (i + 1)) :
    Yields (s.closeGap i lo) (Records base tsn s) := by
  have first := tidy.lo_eq_iff inside.le at_lo
  have cumulative : (if lo = s.cTsnAck + 1 then s.gapStopList i else s.cTsnAck) =
      if i = 0 then s.gapStopList 0 else s.cTsnAck := by
    simp only [first]
    split_ifs with zero
    · rw [zero]
    · rfl
  have joined : ∀ j, (if lo = s.cTsnAck + 1 then s.gapStopList else
      update s.gapStopList (i - 1) (s.gapStopList i)) j =
        if j + 1 = i then s.gapStopList i else s.gapStopList j := by
    intro j
    simp only [first]
    split_ifs with zero here here
    · omega
    · rfl
    · rw [← here, Nat.add_sub_cancel, update_self]
    · rw [update_of_ne (by omega)]
  have rounds : s.numGaps ≤ i + (if lo = s.cTsnAck + 1 then s.numGaps - i
      else s.numGaps + 1 - i) := by
    split_ifs <;> omega
  unfold closeGap
  dsimp only
  rw [cumulative]
  generalize (if lo = s.cTsnAck + 1 then s.gapStopList else _) = stops' at joined ⊢
  generalize (if lo = s.cTsnAck + 1 then s.numGaps - i else _) = k at rounds ⊢
  refine yields_ite (fun last => .ok ?_) fun last => .ite (.ok ?_) .error
  · refine records_join tidy near inside (low.trans at_lo) high (fun j less => ?_) fun j less => ?_
    · rw [update_of_ne (by omega), if_pos (by omega)]
    · rw [update_of_ne (by omega), joined j]
      split_ifs with here before before
      · omega
      · rw [here]
      · rfl
      · omega
  · refine records_join tidy near inside (low.trans at_lo) high (fun j less => ?_) fun j less => ?_
    · rw [shiftDown_apply]
      split_ifs <;> first | rfl | omega
    · rw [shiftDown_apply]
      rcases lt_trichotomy (j + 1) i with before | here | after
      · rw [if_neg (by omega), joined j, if_neg (by omega), if_pos before]
      · rw [if_neg (by omega), joined j, if_pos here, if_neg (by omega), here]
      · rw [if_pos (by omega), joined (j + 1), if_neg (by omega), if_neg (by omega)]

theorem updateGaps_records (nonzero : ∀ j < s.numGaps, s.gapStartList j ≠ 0)
    (fresh : ¬ s.Reported base (ahead base tsn)) {left : Nat} (count : i + left = s.numGaps)
    (at_lo : ahead base lo = s.stops base i + 1) (beyond : s.stops base i < ahead base tsn) :
    Yields (s.updateGaps tsn left i lo) (Records base tsn s) := by
  induction left generalizing i lo with
  | zero =>
    obtain rfl : i = s.numGaps := count
    exact updateAfterGaps_records tidy near at_lo beyond
  | succ left ih =>
    have inside : i < s.numGaps := by omega
    have apart := tidy.spaced.apart i (by omega)
    have order := tidy.spaced.order (i + 1) (by omega)
    have bound : s.starts base (i + 1) < 2 ^ 31 := tidy.start_near inside
    have at_hi : ahead base (s.gapStartList i - 1) + 1 = s.starts base (i + 1) := by
      rw [ahead_pred (by simp only [starts] at apart; omega)]
      simp only [starts] at apart ⊢
      omega
    have between := @tsnBetween_iff base lo (s.gapStartList i - 1) tsn (by omega)
    have nonzero' : 0 < s.gapStartList i := UInt32.pos_iff_ne_zero.mpr (nonzero i inside)
    have width : 1 < s.gapStartList i - 1 - lo + 1 ↔
        ahead base lo < ahead base (s.gapStartList i - 1) := by
      have apart := @ahead_of_le base lo (s.gapStartList i - 1) (by omega)
      rw [UInt32.lt_iff_toNat_lt, UInt32.toNat_add]
      change 1 < (ahead lo (s.gapStartList i - 1) + 1) % 2 ^ 32 ↔ _
      omega
    simp only [updateGaps, if_pos nonzero', between, width]
    split_ifs with middle wide
    · exact widenGap_records tidy near inside at_lo at_hi middle wide
    · exact closeGap_records tidy near inside at_lo (by omega) (by omega)
    · have passed : s.stops base (i + 1) < ahead base tsn := by
        by_contra reached
        exact fresh ⟨i + 1, by omega, by omega, by omega⟩
      refine ih (by omega) ?_ passed
      have stop := tidy.stop_near (Nat.succ_le_of_lt inside)
      simp only [stops] at stop ⊢
      exact ahead_add (by simp; omega)

theorem updateGapList_records
    (nonzero : ∀ j < s.numGaps, s.gapStartList j ≠ 0) (fresh : ¬ s.Reported base (ahead base tsn))
    (allowed : s.windowFull = false ∨ tsn = s.cTsnAck + 1) : Yields (s.updateGapList tsn) fun r =>
      r.1 = true ∧ ∃ stored, Records base tsn { s with highestTsnStored := stored } r.2 := by
  have go : ¬ (s.windowFull = true ∧ tsn ≠ s.cTsnAck + 1) := by
    rintro ⟨full, other⟩
    rcases allowed with free | next
    · rw [free] at full
      cases full
    · exact other next
  let stored := if tsnGt tsn s.highestTsnStored then tsn else s.highestTsnStored
  have records := updateGaps_records (s := { s with highestTsnStored := stored })
    ⟨tidy.spaced, tidy.near⟩ near nonzero fresh (Nat.zero_add _) tidy.next
    (lt_of_not_reported fresh)
  rw [updateGapList, if_neg go]
  exact .map (records.mono fun s' records => ⟨rfl, stored, records⟩)

end Near

theorem Tidy.advanceCtsna_eq : s.advanceCtsna = s := by
  unfold advanceCtsna
  cases count : s.numGaps with
  | zero => rfl
  | succ n =>
    have apart := tidy.spaced.apart 0 (by omega)
    have next := tidy.next
    refine if_neg fun same => ?_
    rw [same] at next
    simp only [starts] at apart
    omega

end Update

/-- The middle of `processDataArrived`: whether the function goes on after it, and the state. -/
def recordTsn (initPeerTsn tsn : UInt32) (s : SCTPRcvState) :
    Except SctpFault (Bool × SCTPRcvState) :=
  if tsnGt tsn s.highestTsnReceived then
    let s := { s with highestTsnReceived := tsn, highestTsnStored := tsn }
    if tsn = initPeerTsn then .ok (true, { s with cTsnAck := tsn, newChunkReceived := true })
    else
      (s.updateGapList tsn).map fun r =>
        let s := { r.2 with newChunkReceived := true }
        (true, if r.1 then s.advanceCtsna else s)
  else if s.tsnIsDuplicate tsn then .ok (false, s.addDuplicate tsn)
  else (s.updateGapList tsn).map fun r => (true, if r.1 then r.2.advanceCtsna else r.2)

section Record

variable {base : UInt32} {s : SCTPRcvState} {tsn : UInt32}

theorem windowFull_eq (half : s.localRwnd.toNat < 2 ^ 31)
    (queued : s.queuedRcvBytes.toNat < 2 ^ 31) :
    s.windowFull = decide (s.localRwnd.toNat ≤ s.queuedRcvBytes.toNat) := by
  rw [windowFull]
  refine decide_eq_decide.mpr (not_iff_not.mp ?_)
  rw [Int32.not_le, toInt32_pos_iff, UInt64.toNat_toUInt32, UInt64.toNat_sub]
  omega

theorem setHighestTsnReceived_ahead (s : SCTPRcvState) :
    ahead base s.setHighestTsnReceived.highestTsnReceived = s.stops base s.numGaps := by
  cases count : s.numGaps <;> simp [setHighestTsnReceived, count, stops]

theorem Tidy.between_iff (tidy : s.Tidy base) {i : Nat} (inside : i < s.numGaps) :
    tsnBetween (s.gapStartList i) tsn (s.gapStopList i) = true ↔
      s.starts base (i + 1) ≤ ahead base tsn ∧ ahead base tsn ≤ s.stops base (i + 1) :=
  tsnBetween_iff (tidy.spaced.order (i + 1) (by omega))

theorem tsnIsDuplicate_iff (tidy : s.Tidy base) (beyond : s.stops base 0 < ahead base tsn) :
    s.tsnIsDuplicate tsn = true ↔ tsn ∈ s.dupList ∨ s.Reported base (ahead base tsn) := by
  rw [tsnIsDuplicate, Bool.or_eq_true, decide_eq_true_iff, List.any_eq_true]
  refine or_congr_right ⟨?_, ?_⟩
  · rintro ⟨i, member, between⟩
    have less := List.mem_range.mp member
    exact ⟨i + 1, by omega, (tidy.between_iff less).mp between⟩
  · rintro ⟨i, less, between⟩
    cases i with
    | zero => omega
    | succ i => exact ⟨i, List.mem_range.mpr (by omega), (tidy.between_iff (by omega)).mpr between⟩

theorem recordTsn_records {initPeerTsn : UInt32} (tidy : s.Tidy base)
    (near : ahead base tsn < 2 ^ 31) (nonzero : ∀ j < s.numGaps, s.gapStartList j ≠ 0)
    (fresh : ¬ s.Reported base (ahead base tsn))
    (allowed : s.windowFull = false ∨ tsn = s.cTsnAck + 1)
    (unlisted : tsnGt tsn s.highestTsnReceived = false → tsn ∉ s.dupList)
    (initial : tsnGt tsn s.highestTsnReceived = true → tsn = initPeerTsn → s.numGaps = 0 ∧
      tsn = s.cTsnAck + 1) :
    Yields (s.recordTsn initPeerTsn tsn) fun r => r.1 = true ∧ ∃ received stored,
      Records base tsn { s with highestTsnReceived := received, highestTsnStored := stored }
      r.2 := by
  unfold recordTsn
  refine yields_ite (fun later => yields_ite (fun first => .ok ⟨rfl, tsn, tsn, ?_⟩) fun _ =>
    ?_) fun below => ?_
  · obtain ⟨none, next⟩ := initial later first
    have touch : ahead base tsn = s.stops base 0 + 1 := by rw [next, tidy.next]
    have raised :=
      records_raise (s := { s with highestTsnReceived := tsn, highestTsnStored := tsn })
      ⟨tidy.spaced, tidy.near⟩ near (Nat.zero_le _) touch fun less => by simp [none] at less
    simpa using raised
  · refine .map ((updateGapList_records
      (s := { s with highestTsnReceived := tsn, highestTsnStored := tsn })
      ⟨tidy.spaced, tidy.near⟩ near nonzero fresh allowed).mono ?_)
    rintro ⟨change, s'⟩ ⟨rfl, stored, records⟩
    refine ⟨rfl, tsn, stored, ?_⟩
    dsimp only
    rw [if_pos rfl, records.flag, records.tidy.advanceCtsna_eq]
    exact records
  · have new : ¬ s.tsnIsDuplicate tsn = true := by
      rw [tsnIsDuplicate_iff tidy (lt_of_not_reported fresh)]
      rintro (listed | reported)
      · exact unlisted (Bool.eq_false_of_not_eq_true below) listed
      · exact fresh reported
    rw [if_neg new]
    refine .map ((updateGapList_records tidy near nonzero fresh allowed).mono ?_)
    rintro ⟨change, s'⟩ ⟨rfl, stored, records⟩
    refine ⟨rfl, s.highestTsnReceived, stored, ?_⟩
    dsimp only
    rw [if_pos rfl, records.tidy.advanceCtsna_eq]
    exact records

end Record

end SCTPRcvState

end Srwsn
