import Srwsn.Sctp.Arrivals
import Srwsn.Sctp.Contents

/-! When the arrays of a receiver are long enough for what arrives. -/
namespace Srwsn

open Serial Blocks Outcome Function

namespace SCTPRcvState

variable {s s' : SCTPRcvState} {tsn lo hi x : UInt32} {i j : Nat}

/-- No block starts inside another one. -/
def Apart (s : SCTPRcvState) : Prop := ∀ i < s.numGaps, ∀ j < s.numGaps, i ≠ j →
  tsnBetween (s.gapStartList i) (s.gapStartList j) (s.gapStopList i) = false

instance : Decidable s.Apart := inferInstanceAs (Decidable (∀ i < s.numGaps, ∀ j < s.numGaps, _))

def Within (s : SCTPRcvState) (i : Nat) (tsn : UInt32) : Prop :=
  ahead (s.gapStartList i) tsn ≤ ahead (s.gapStartList i) (s.gapStopList i)

theorem within_iff : tsnBetween (s.gapStartList i) tsn (s.gapStopList i) = true ↔
    s.Within i tsn := by
  rw [tsnBetween, decide_eq_true_iff, ge_iff_le, UInt32.le_iff_toNat_le]
  rfl

theorem Apart.eq (apart : s.Apart) (inside : i < s.numGaps) (inside' : j < s.numGaps)
    (here : s.Within i tsn) (there : s.Within j tsn) : i = j := by
  by_contra other
  have first := apart i inside j inside' other
  have second := apart j inside' i inside (Ne.symm other)
  rw [Bool.eq_false_iff, Ne, within_iff] at first second
  have turn := ahead_rebase (s.gapStartList i) (s.gapStartList j) tsn
  have turn' := ahead_rebase (s.gapStartList j) (s.gapStartList i) tsn
  have below := @ahead_lt (s.gapStartList i) (s.gapStartList j)
  have below' := @ahead_lt (s.gapStartList j) (s.gapStartList i)
  have bound := @ahead_lt (s.gapStartList i) tsn
  have bound' := @ahead_lt (s.gapStartList j) tsn
  unfold Within at *
  omega

theorem Apart.of_parts (apart : s.Apart) (whole : Nat → Nat)
    (part : ∀ j < s'.numGaps, whole j < s.numGaps ∧ ∀ x, s'.Within j x → s.Within (whole j) x ∧
      x ≠ tsn)
    (disjoint : ∀ j < s'.numGaps, ∀ k < s'.numGaps, j ≠ k → whole j = whole k → ∀ x, s'.Within j x →
      ¬ s'.Within k x) :
    s'.Apart ∧ ∀ j < s'.numGaps, ¬ s'.Within j tsn := by
  refine ⟨fun j inside k inside' other => ?_,
    fun j inside here => ((part j inside).2 tsn here).2 rfl⟩
  rw [Bool.eq_false_iff, Ne, within_iff]
  intro here
  have own : s'.Within k (s'.gapStartList k) := by
    rw [Within, ahead_self]
    exact Nat.zero_le _
  have same := apart.eq (part j inside).1 (part k inside').1 ((part j inside).2 _ here).1
    ((part k inside').2 _ own).1
  exact disjoint j inside k inside' other same _ here own

theorem within_below {start stop : UInt32} (here : ahead start tsn ≤ ahead start stop)
    (other : start ≠ tsn) (low : ahead start x ≤ ahead start (tsn - 1)) :
    ahead start x < ahead start tsn ∧ ahead start x ≤ ahead start stop := by
  have pos : 0 < ahead start tsn :=
    Nat.pos_of_ne_zero fun zero => other (ahead_eq_zero_iff.mp zero).symm
  rw [ahead_pred pos] at low
  omega

theorem within_above {start stop : UInt32} (here : ahead start tsn ≤ ahead start stop)
    (other : stop ≠ tsn) (high : ahead (tsn + 1) x ≤ ahead (tsn + 1) stop) :
    ahead start tsn < ahead start x ∧ ahead start x ≤ ahead start stop := by
  have less : ahead start tsn < ahead start stop :=
    lt_of_le_of_ne here fun same => other (ahead_inj.mp same).symm
  have bound := @ahead_lt start stop
  have next : ahead start (tsn + 1) = ahead start tsn + 1 :=
    ahead_add (by rw [UInt32.toNat_one]; omega)
  have turn := ahead_rebase start (tsn + 1) x
  have turn' := ahead_rebase start (tsn + 1) stop
  have below := @ahead_lt start x
  omega

theorem Apart.shrink (apart : s.Apart)
    (elsewhere : ∀ k < s.numGaps, k ≠ i → ∀ x, s.Within k x → s.Within k x ∧ x ≠ tsn)
    (count : s'.numGaps = s.numGaps) (others : ∀ j, j ≠ i → ∀ x, s'.Within j x → s.Within j x)
    (part : ∀ x, s'.Within i x → s.Within i x ∧ x ≠ tsn) :
    s'.Apart ∧ ∀ j < s'.numGaps, ¬ s'.Within j tsn := by
  refine apart.of_parts id (fun j less => ⟨count ▸ less, fun x there => ?_⟩)
    fun j _ k _ other same => absurd same other
  by_cases same : j = i
  · subst same
    exact part x there
  · exact elsewhere j (count ▸ less) same x (others j same x there)

theorem Apart.split (apart : s.Apart) (inside : i < s.numGaps) (here : s.Within i tsn)
    (elsewhere : ∀ k < s.numGaps, k ≠ i → ∀ x, s.Within k x → s.Within k x ∧ x ≠ tsn)
    (top : s.gapStopList i ≠ tsn) (bottom : s.gapStartList i ≠ tsn)
    (count : s'.numGaps = s.numGaps + 1)
    (stops : s'.gapStopList = update (shiftUp s.gapStopList i s.numGaps) i (tsn - 1))
    (starts : s'.gapStartList = update (shiftUp s.gapStartList i s.numGaps) (i + 1) (tsn + 1)) :
    s'.Apart ∧ ∀ j < s'.numGaps, ¬ s'.Within j tsn := by
  have low : ∀ x, s'.Within i x →
      ahead (s.gapStartList i) x < ahead (s.gapStartList i) tsn ∧ s.Within i x := by
    intro x there
    rw [Within, stops, starts, update_self, update_of_ne (by omega), shiftUp_apply,
      if_neg (by omega)] at there
    exact within_below here bottom there
  have high : ∀ x, s'.Within (i + 1) x →
      ahead (s.gapStartList i) tsn < ahead (s.gapStartList i) x ∧ s.Within i x := by
    intro x there
    rw [Within, stops, starts, update_self, update_of_ne (by omega), shiftUp_apply,
      if_pos (by omega)] at there
    exact within_above here top there
  have others : ∀ j < s'.numGaps, j ≠ i → j ≠ i + 1 → ∀ x, s'.Within j x ↔
      s.Within (if j ≤ i then j else j - 1) x := by
    intro j less first second x
    rw [Within, Within, stops, starts, update_of_ne first, update_of_ne second, shiftUp_apply,
      shiftUp_apply]
    by_cases before : j ≤ i
    · rw [if_neg (by omega), if_neg (by omega), if_pos before]
    · rw [if_pos (by omega), if_pos (by omega), if_neg before]
  refine apart.of_parts (fun j => if j ≤ i then j else j - 1) (fun j less => ?_) fun j less k less'
    other same x there => ?_
  · refine ⟨by split_ifs <;> omega, fun x there => ?_⟩
    by_cases first : j = i
    · subst first
      rw [if_pos le_rfl]
      obtain ⟨less, inner⟩ := low x there
      refine ⟨inner, ?_⟩
      rintro rfl
      exact lt_irrefl _ less
    · by_cases second : j = i + 1
      · subst second
        rw [if_neg (by omega), Nat.add_sub_cancel]
        obtain ⟨more, inner⟩ := high x there
        refine ⟨inner, ?_⟩
        rintro rfl
        exact lt_irrefl _ more
      · refine elsewhere _ ?_ ?_ x ((others j less first second x).mp there) <;> split_ifs <;> omega
  · -- only the two halves come from the same block
    have halves : j = i ∧ k = i + 1 ∨ j = i + 1 ∧ k = i := by split_ifs at same <;> omega
    rcases halves with ⟨rfl, rfl⟩ | ⟨rfl, rfl⟩
    · exact fun there' => absurd ((low x there).1.trans (high x there').1) (lt_irrefl _)
    · exact fun there' => absurd ((low x there').1.trans (high x there).1) (lt_irrefl _)

theorem removeFromGap_apart (apart : s.Apart) (inside : i < s.numGaps) (here : s.Within i tsn)
    (room : s.numGaps < MAX_GAP_COUNT) :
    Averts .arrayIndex (removeFromGap tsn s.numGaps i s) fun s' =>
      (s'.Apart ∧ ∀ j < s'.numGaps, ¬ s'.Within j tsn) ∧ i ≤ s'.numGaps ∧
        s'.numGaps ≤ s.numGaps + 1 := by
  have elsewhere : ∀ k < s.numGaps, k ≠ i → ∀ x, s.Within k x → s.Within k x ∧ x ≠ tsn := by
    intro k inside' other x there
    refine ⟨there, ?_⟩
    rintro rfl
    exact other (apart.eq inside' inside there here)
  unfold removeFromGap
  rw [if_pos (within_iff.mpr here)]
  refine averts_ite (fun several => averts_ite (fun top => .ok ⟨?_, inside.le, Nat.le_succ _⟩)
    fun inner =>
    averts_ite (fun bottom => .ok ⟨?_, inside.le, Nat.le_succ _⟩) fun inner' => averts_ite
      (fun _ => .ok ⟨?_, Nat.le_succ_of_le inside.le, le_rfl⟩) fun full => absurd room full)
    fun _ => averts_ite (fun _ => .ok ⟨?_, Nat.le_sub_one_of_lt inside, by dsimp only; omega⟩)
      fun full => absurd room full
  · have apart' : s.gapStartList i ≠ tsn := by
      rintro rfl
      rw [top, sub_self] at several
      exact absurd several (by decide)
    refine apart.shrink elsewhere rfl (fun j other x low => ?_) fun x low => ?_
    · simpa only [Within, update_of_ne other] using low
    · simp only [Within, update_self, top] at low
      obtain ⟨less, inner⟩ := within_below here apart' low
      refine ⟨inner, ?_⟩
      rintro rfl
      exact lt_irrefl _ less
  · refine apart.shrink elsewhere rfl (fun j other x high => ?_) fun x high => ?_
    · simpa only [Within, update_of_ne other] using high
    · simp only [Within, update_self, bottom] at high
      obtain ⟨more, inner'⟩ := within_above here inner high
      refine ⟨inner', ?_⟩
      rintro rfl
      exact lt_irrefl _ more
  · exact apart.split inside here elsewhere inner inner' rfl rfl rfl
  · refine apart.of_parts (fun j => if j < i then j else j + 1) (fun j less => ?_) fun j _ k _ other
      same => ?_
    · dsimp only at less
      have same : ∀ (l : Nat → UInt32), update (shiftDown l i (s.numGaps - i)) (s.numGaps - 1) 0 j =
          l (if j < i then j else j + 1) := by
        intro l
        rw [update_of_ne (by omega), shiftDown_apply]
        split_ifs <;> first | rfl | omega
      refine ⟨by split_ifs <;> omega, fun x there => ?_⟩
      simp only [Within, same] at there
      exact elsewhere _ (by split_ifs <;> omega) (by split_ifs <;> omega) x there
    · split_ifs at same <;> omega

/-- Taking a TSN out adds one block at most. -/
theorem removeFromGapList_apart (apart : s.Apart) (room : s.numGaps < MAX_GAP_COUNT) :
    Averts .arrayIndex (removeFromGapList tsn s) fun s' => s'.Apart ∧
    s'.numGaps ≤ s.numGaps + 1 := by
  have absent : ∀ {numgaps i : Nat} {s : SCTPRcvState}, i ≤ s.numGaps →
      (∀ j < s.numGaps, ¬ s.Within j tsn) → removeFromGaps tsn numgaps i s = .ok s := by
    intro numgaps i s inside none
    induction i with
    | zero => rfl
    | succ i ih =>
      rw [removeFromGaps, removeFromGap,
        if_neg fun between => none i inside (within_iff.mp between)]
      exact ih (Nat.le_of_succ_le inside)
  have along : ∀ i ≤ s.numGaps, Averts .arrayIndex (removeFromGaps tsn s.numGaps i s) fun s' =>
      s'.Apart ∧ s'.numGaps ≤ s.numGaps + 1 := by
    intro i inside
    induction i with
    | zero => exact .ok ⟨apart, Nat.le_succ _⟩
    | succ i ih =>
      by_cases here : s.Within i tsn
      · refine (removeFromGap_apart apart inside here room).bind fun s₁ after => ?_
        rw [absent after.2.1 after.1.2]
        exact .ok ⟨after.1.1, after.2.2⟩
      · rw [removeFromGaps, removeFromGap, if_neg fun between => here (within_iff.mp between)]
        exact ih (Nat.le_of_succ_le inside)
  exact .map ((along _ le_rfl).mono fun s' after => after)

theorem updateGaps_inBounds (room : s.numGaps + 1 < MAX_GAP_COUNT) {left : Nat}
    (inside : i + left ≤ s.numGaps) :
    Averts .arrayIndex (s.updateGaps tsn left i lo) fun _ => True := by
  induction left generalizing i lo with
  | zero =>
    refine .ite (.ite (.ok trivial) (.ok trivial)) (averts_ite (fun _ => .ok trivial) fun full =>
      ?_)
    exact absurd (Nat.lt_of_succ_lt room) full
  | succ left ih =>
    refine .ite (.ite (.ite ?_ ?_) (ih (by omega))) (ih (by omega))
    · refine .ite (.ok trivial) (.ite (.ite (.ok trivial) (.ok trivial))
        (averts_ite (fun _ => .ok trivial) ?_))
      exact fun full => absurd room full
    · unfold closeGap
      refine .ite (.ok trivial) (averts_ite (fun _ => .ok trivial) fun full => absurd ?_ full)
      split_ifs <;> omega

theorem recordTsn_inBounds (room : s.numGaps + 1 < MAX_GAP_COUNT) {initPeerTsn : UInt32} :
    Averts .arrayIndex (s.recordTsn initPeerTsn tsn) fun _ => True := by
  have updates : ∀ {s : SCTPRcvState}, s.numGaps + 1 < MAX_GAP_COUNT →
      Averts .arrayIndex (s.updateGapList tsn) fun _ => True := by
    intro s room
    refine .ite (.ok trivial) (.map ?_)
    apply updateGaps_inBounds
    · exact room
    · exact (Nat.zero_add _).le
  exact .ite (.ite (.ok trivial) (.map (updates room))) (.ite (.ok trivial) (.map (updates room)))

end SCTPRcvState

namespace SCTPReceiveStream

variable {q : SCTPQueue} {rStream : SCTPReceiveStream} {dchunk : SCTPDataVariables}
  {tsn endtsn : UInt32}

theorem mergeFragments_inBounds {fuel : Nat} {v : SCTPDataVariables} :
    Averts .arrayIndex (mergeFragments endtsn fuel tsn v q) fun _ => True := by
  induction fuel generalizing tsn v q with
  | zero => exact .error nofun
  | succ fuel ih =>
    refine .ite (.bind (P := fun _ => True) ?_ fun _ _ => .bind (P := fun _ => True) ?_ fun _ _ =>
      ih) (.ok trivial)
    · unfold SCTPQueue.getAndExtractMessage
      split
      · exact .ok trivial
      · exact .error nofun
    · exact .ite (.error nofun) (.ok trivial)

theorem reassemble_inBounds : Averts .arrayIndex (reassemble q tsn) fun _ => True := by
  have first : ∀ fuel tsn, Averts .arrayIndex (firstFragment q fuel tsn) fun _ => True := by
    intro fuel
    induction fuel with
    | zero => exact fun _ => .error nofun
    | succ fuel ih =>
      intro tsn
      unfold firstFragment
      split
      · exact .ite (.ok trivial) (ih _)
      · exact .ok trivial
  have last : ∀ fuel tsn, Averts .arrayIndex (lastFragment q fuel tsn) fun _ => True := by
    intro fuel
    induction fuel with
    | zero => exact fun _ => .error nofun
    | succ fuel ih =>
      intro tsn
      unfold lastFragment
      split
      · exact .ite (.ok trivial) (ih _)
      · exact .ok trivial
  unfold reassemble
  refine (first _ _).bind fun begintsn _ => ?_
  split
  · exact .ok trivial
  · refine (last _ _).bind fun endtsn _ => ?_
    split
    · exact .ok trivial
    · exact mergeFragments_inBounds.bind fun _ _ => .ok trivial

theorem enqueue_inBounds :
    Averts .arrayIndex (rStream.enqueueNewDataChunk dchunk) fun _ => True := by
  refine .ite (.ite (.ok trivial) (reassemble_inBounds.bind fun _ _ => .ok trivial))
    (.ite (.ok trivial) (reassemble_inBounds.bind fun reassembled _ => ?_))
  dsimp only
  split
  · exact .error nofun
  · exact .ite (.ok trivial) (.ok trivial)

end SCTPReceiveStream

namespace SCTPReceiver

variable {a a' : SCTPReceiver} {tsn length high sum : UInt32} {uBit : Bool}

def messages (a : SCTPReceiver) : Nat := a.total fun _ => 1

/-- A block for each message that may be given up. -/
structure Spare (a : SCTPReceiver) : Prop where
  keyed : a.Keyed
  apart : a.state.Apart
  room : a.state.numGaps + a.messages + 1 < MAX_GAP_COUNT

theorem Spare.reclaim (spare : a.Spare) {found : Nat × Bool × SCTPDataVariables}
    (stored : a.findStored uBit high = some found) :
    Averts .arrayIndex (a.reclaim tsn high uBit found) Spare := by
  have room := spare.room
  have removed : Averts .arrayIndex (a.reclaim tsn high uBit found) fun a' =>
      a'.state.Apart ∧ a'.state.numGaps ≤ a.state.numGaps + 1 := by
    unfold SCTPReceiver.reclaim
    refine .bind (P := fun s => s.Apart ∧ s.numGaps ≤ a.state.numGaps + 1) ?_ fun s after => .ok ?_
    · apply SCTPRcvState.removeFromGapList_apart
      · exact spare.apart
      · dsimp only
        omega
    · dsimp only [setStream]
      split_ifs
      · exact after
      · exact after
  refine ⟨removed.1, fun a' done => ?_⟩
  obtain ⟨keyed, total, -⟩ := spare.keyed.reclaim (w := fun _ => 1) stored a' done
  obtain ⟨apart, few⟩ := removed.2 a' done
  refine ⟨keyed, apart, ?_⟩
  unfold messages at room ⊢
  omega

theorem Spare.makeRoomRounds (spare : a.Spare) {fuel : Nat} :
    Averts .arrayIndex (makeRoomRounds tsn length uBit fuel high sum a) fun r => r.2.Spare := by
  induction fuel generalizing high sum a with
  | zero => exact .error nofun
  | succ fuel ih =>
    refine .ite (.ite (.ok spare) (.bind (P := Spare) ?_ fun a₁ spare₁ => ?_)) (.ok spare)
    · cases found : a.findStored uBit high with
      | none => exact .ok spare
      | some r => exact spare.reclaim found
    · have marked : ∀ high, Spare { a₁ with state := { a₁.state with highestTsnStored := high } } :=
        fun high =>
        ⟨spare₁.keyed, spare₁.apart, spare₁.room⟩
      exact .ite (.ok (marked _)) (ih (marked _))

/-- The chunk makes the receiver give up messages. -/
def reclaims (a : SCTPReceiver) (tsn : UInt32) : Bool :=
  a.state.windowFull && !tsnGt tsn a.state.setHighestTsnReceived.highestTsnReceived &&
    decide (tsn < a.state.highestTsnStored)

/-- The gap blocks, with those that giving up messages may add, fit into the arrays. -/
structure Bounded (a : SCTPReceiver) (tsn : UInt32) : Prop where
  gaps : a.state.numGaps + 1 < MAX_GAP_COUNT
  spare : a.reclaims tsn = true → a.state.Apart ∧ a.state.numGaps + a.messages + 1 < MAX_GAP_COUNT

theorem Bounded.processDataArrived {dataChunk : SCTPDataChunk} (bounded : a.Bounded dataChunk.tsn)
    (keyed : a.Keyed) : Averts .arrayIndex (a.processDataArrived dataChunk) fun _ => True := by
  refine .ite (.ok trivial) (.ite (.ok trivial) (.bind (P := fun r => r.2.state.numGaps + 1 <
    MAX_GAP_COUNT) ?_ ?_))
  · refine averts_ite (fun full => averts_ite (fun _ => .ok bounded.gaps) fun below =>
      averts_ite (fun lower => ?_) fun _ => .ok bounded.gaps) fun _ => .ok bounded.gaps
    rw [Bool.and_eq_true] at lower
    have reclaims : a.reclaims dataChunk.tsn = true := by
      rw [SCTPReceiver.reclaims, Bool.and_eq_true, Bool.and_eq_true, Bool.not_eq_true',
        Bool.eq_false_iff]
      exact ⟨⟨full, below⟩, lower.2⟩
    obtain ⟨apart, room⟩ := bounded.spare reclaims
    have spare :
        Spare { a with
          state := { a.state with newChunkReceived := false }.setHighestTsnReceived } :=
      ⟨keyed, apart, room⟩
    exact spare.makeRoomRounds.mono fun r spare => by have := spare.room; omega
  · intro room few
    refine .ite ((SCTPRcvState.recordTsn_inBounds few).bind fun recorded _ => .ite ?_ (.ok trivial))
      (.ok trivial)
    refine .ite (.ite (SCTPReceiveStream.enqueue_inBounds.bind fun r _ => ?_) (.error nofun))
      (.ok trivial)
    exact .ite (.ok trivial) (.ok trivial)

theorem pushUlp_inBounds (few : a.inboundStreams ≤ 100) :
    Averts .arrayIndex a.pushUlp fun _ => True := by
  have rounds : ∀ {restrict count sid}, count < 100 → ∀ (rounds : Nat) (a : SCTPReceiver),
      Averts .arrayIndex (pushRounds restrict count sid rounds a) fun _ => True := by
    intro restrict count sid less rounds
    induction rounds with
    | zero => exact fun a => .ok trivial
    | succ rounds ih =>
      intro a
      unfold pushRounds
      split
      · refine .ite (.bind (P := fun _ => True) ?_ fun a _ => ih a) (.ok trivial)
        exact averts_ite (fun _ => .ok trivial) fun full => absurd less full
      · exact .ok trivial
  have streams : ∀ {restrict} (sids : List Nat) (count : Nat) (a : SCTPReceiver),
    count + sids.length ≤ 100 →
      Averts .arrayIndex (pushStreams restrict count sids a) fun _ => True := by
    intro restrict sids
    induction sids with
    | nil => exact fun _ _ _ => .ok trivial
    | cons sid sids ih =>
      intro count a less
      rw [List.length_cons] at less
      exact (rounds (by omega) _ a).bind fun a _ => ih (count + 1) a (by omega)
  unfold pushUlp
  refine .ite (.error nofun) (.map (streams _ 0 _ ?_))
  have same : a.putAll.inboundStreams = a.inboundStreams :=
    (putAll_kept (I := fun _ => True) (fun _ _ _ => trivial) trivial).2
  rw [pushOrder, List.length_map, List.length_range, Nat.zero_add]
  exact same ▸ few

end SCTPReceiver
end Srwsn
