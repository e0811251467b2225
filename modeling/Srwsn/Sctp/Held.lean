import Srwsn.Sctp.Accounting

/-! What an SCTP receiver acknowledges it holds or has delivered. -/
namespace Srwsn

open Serial Blocks Outcome Trace SCTPRcvState SCTPReceiver List Function

namespace SCTPRcvState

section Removal

variable {base tsn : UInt32} {s s' : SCTPRcvState} {i : Nat}

structure Removes (base tsn : UInt32) (s s' : SCTPRcvState) : Prop where
  cTsnAck : s'.cTsnAck = s.cTsnAck
  newChunkReceived : s'.newChunkReceived = s.newChunkReceived
  tidy : s'.Tidy base
  drops : ∀ y, s'.Reported base y ↔ s.Reported base y ∧ y ≠ ahead base tsn

variable (tidy : s.Tidy base)

include tidy

theorem Removes.of_spaced (cTsnAck : s'.cTsnAck = s.cTsnAck)
    (newChunkReceived : s'.newChunkReceived = s.newChunkReceived)
    (changed : Spaced (s'.numGaps + 1) (s'.starts base) (s'.stops base) ∧
      ∀ y, Covers (s'.numGaps + 1) (s'.starts base) (s'.stops base) y ↔
        Covers (s.numGaps + 1) (s.starts base) (s.stops base) y ∧ y ≠ ahead base tsn) : Removes base
        tsn s s' :=
  ⟨cTsnAck, newChunkReceived,
    ⟨changed.1, fun y reported => tidy.near y ((changed.2 y).mp reported).1⟩, changed.2⟩

theorem Tidy.above (inside : i < s.numGaps) : s.stops base 0 + 1 < s.starts base (i + 1) :=
  tidy.spaced.lt (Nat.succ_pos i) (Nat.succ_lt_succ inside)

theorem Tidy.apart : s.Apart := by
  intro i inside j inside' other
  rw [Bool.eq_false_iff, Ne, tidy.between_iff inside]
  intro here
  have own := tidy.spaced.order (j + 1) (by omega)
  exact other (Nat.succ_injective (tidy.spaced.eq_of_mem (by omega) (by omega) here ⟨le_rfl, own⟩))

theorem Tidy.several_iff (inside : i < s.numGaps) :
    (s.gapStopList i - s.gapStartList i + 1).toInt32 > 1 ↔ s.starts base (i + 1) <
    s.stops base (i + 1) := by
  have order := tidy.spaced.order (i + 1) (by omega)
  have low := tidy.above inside
  have high : s.stops base (i + 1) < 2 ^ 31 := tidy.stop_near (Nat.succ_le_of_lt inside)
  have length : (s.gapStopList i - s.gapStartList i + 1).toNat =
      s.stops base (i + 1) - s.starts base (i + 1) + 1 := by
    have apart := @ahead_of_le base (s.gapStartList i) (s.gapStopList i) order
    rw [UInt32.toNat_add]
    change (ahead (s.gapStartList i) (s.gapStopList i) + 1) % 2 ^ 32 = _
    simp only [starts, stops] at *
    omega
  rw [gt_iff_lt, Int32.lt_iff_toInt_lt, toInt_toInt32, length, show (1 : Int32).toInt = 1 from rfl,
    Int.bmod]
  omega

theorem removeFromGap_removes (inside : i < s.numGaps)
    (here : s.starts base (i + 1) ≤ ahead base tsn ∧ ahead base tsn ≤ s.stops base (i + 1)) :
    Yields (removeFromGap tsn s.numGaps i s) fun s' => Removes base tsn s s' ∧ i ≤ s'.numGaps := by
  have low := tidy.above inside
  have high : s.stops base (i + 1) < 2 ^ 31 := tidy.stop_near (Nat.succ_le_of_lt inside)
  have top : s.gapStopList i = tsn ↔ ahead base tsn = s.stops base (i + 1) := by
    rw [eq_comm, ← @ahead_inj base]
    rfl
  have bottom : s.gapStartList i = tsn ↔ ahead base tsn = s.starts base (i + 1) := by
    rw [eq_comm, ← @ahead_inj base]
    rfl
  have below : ahead base (tsn - 1) = ahead base tsn - 1 := ahead_pred (by omega)
  have above : ahead base (tsn + 1) = ahead base tsn + 1 :=
    ahead_add (by rw [UInt32.toNat_one]; omega)
  unfold removeFromGap
  rw [if_pos ((tidy.between_iff inside).mpr here)]
  refine yields_ite (fun several => yields_ite (fun at_top => .ok ⟨?_, inside.le⟩) fun inner =>
    yields_ite (fun at_bottom => .ok ⟨?_, inside.le⟩) fun inner' => .ite (.ok ⟨?_, ?_⟩)
    .error) fun single => .ite (.ok ⟨?_, ?_⟩) .error
  · have more := (tidy.several_iff inside).mp several
    have equal := top.mp at_top
    refine .of_spaced tidy rfl rfl (tidy.spaced.shrink_top (by omega) equal (by omega) fun j less =>
      ?_)
    cases j with
    | zero => rfl
    | succ j =>
      simp only [stops, update_apply, at_top, Nat.add_right_cancel_iff]
      split_ifs
      · exact below
      · rfl
  · have more := (tidy.several_iff inside).mp several
    have equal := bottom.mp at_bottom
    refine .of_spaced tidy rfl rfl (tidy.spaced.shrink_bottom (by omega) equal (by omega) fun j
      less => ?_)
    cases j with
    | zero => rfl
    | succ j =>
      simp only [starts, update_apply, at_bottom, Nat.add_right_cancel_iff]
      split_ifs
      · exact above
      · rfl
  · have not_top := mt top.mpr inner
    have not_bottom := mt bottom.mpr inner'
    refine .of_spaced tidy rfl rfl (tidy.spaced.split (i := i + 1) (by omega) (by omega) (by omega)
      (fun j le => ?_) fun j le => ?_)
    · cases j with
      | zero => rfl
      | succ j =>
        simp only [starts, update_apply, shiftUp_apply]
        obtain low' | rfl | high' : j ≤ i ∨ j = i + 1 ∨ i + 1 < j := by omega
        · rw [if_neg (by omega), if_neg (by omega), if_pos (by omega)]
        · rw [if_pos rfl, if_neg (by omega), if_pos rfl, above]
        · obtain ⟨k, rfl⟩ := Nat.exists_eq_add_of_lt high'
          rw [if_neg (by omega), if_pos (by omega), if_neg (by omega), if_neg (by omega)]
          rfl
    · cases j with
      | zero => rfl
      | succ j =>
        simp only [stops, update_apply, shiftUp_apply]
        obtain low' | rfl | high' : j < i ∨ j = i ∨ i < j := by omega
        · rw [if_neg (by omega), if_neg (by omega), if_pos (by omega)]
        · rw [if_pos rfl, if_neg (by omega), if_pos rfl, below]
        · obtain ⟨k, rfl⟩ := Nat.exists_eq_add_of_lt high'
          rw [if_neg (by omega), if_pos (by omega), if_neg (by omega), if_neg (by omega)]
          rfl
  · exact Nat.le_succ_of_le inside.le
  · have one := mt (tidy.several_iff inside).mpr single
    have order := tidy.spaced.order (i + 1) (by omega)
    have count : s.numGaps - 1 + 1 = s.numGaps := by omega
    refine .of_spaced tidy rfl rfl ?_
    dsimp only
    rw [count]
    refine tidy.spaced.delete (i := i + 1) (by omega) ⟨by omega, by omega⟩ (fun j less => ?_) fun j
      less => ?_
    all_goals
      cases j with
      | zero => rfl
      | succ j =>
        simp only [starts, stops]
        rw [update_of_ne (by omega), shiftDown_apply]
        split_ifs <;> first | rfl | omega
  · exact Nat.le_sub_one_of_lt inside

theorem removeFromGaps_absent (absent : ¬ s.Reported base (ahead base tsn)) {numgaps : Nat}
    (inside : i ≤ s.numGaps) : removeFromGaps tsn numgaps i s = .ok s := by
  induction i with
  | zero => rfl
  | succ i ih =>
    have apart : ¬ tsnBetween (s.gapStartList i) tsn (s.gapStopList i) = true := fun between =>
      absent ⟨i + 1, by omega, (tidy.between_iff (by omega)).mp between⟩
    rw [removeFromGaps, removeFromGap, if_neg apart]
    exact ih (by omega)

theorem removeFromGaps_removes (inside : i ≤ s.numGaps) {j : Nat} (block : j < i)
    (here : s.starts base (j + 1) ≤ ahead base tsn ∧ ahead base tsn ≤ s.stops base (j + 1)) :
    Yields (removeFromGaps tsn s.numGaps i s) (Removes base tsn s) := by
  induction i with
  | zero => omega
  | succ i ih =>
    by_cases same : j = i
    · subst same
      refine .bind (removeFromGap_removes tidy (by omega) here) ?_
      rintro s' ⟨removes, blocks⟩
      rw [removeFromGaps_absent removes.tidy (fun reported => ((removes.drops _).mp reported).2 rfl)
        blocks]
      exact .ok removes
    · have apart : ¬ tsnBetween (s.gapStartList i) tsn (s.gapStopList i) = true := fun between => by
        have equal := tidy.spaced.eq_of_mem (by omega) (by omega) here
          ((tidy.between_iff (by omega)).mp between)
        omega
      rw [removeFromGaps, removeFromGap, if_neg apart]
      exact ih (by omega) (by omega)

theorem removeFromGapList_removes (beyond : s.stops base 0 < ahead base tsn)
    (reported : s.Reported base (ahead base tsn)) :
    Yields (removeFromGapList tsn s) fun s' => Removes base tsn s s' ∧
      ahead base s'.highestTsnReceived = s'.stops base s'.numGaps := by
  obtain ⟨block, inside, here⟩ := reported
  cases block with
  | zero => omega
  | succ j =>
    refine .map ((removeFromGaps_removes tidy le_rfl (by omega) here).mono fun s' removes => ?_)
    exact ⟨⟨removes.cTsnAck, removes.newChunkReceived, ⟨removes.tidy.spaced, removes.tidy.near⟩,
      removes.drops⟩, setHighestTsnReceived_ahead s'⟩

end Removal

section Rebase

variable {base tsn : UInt32} {s : SCTPRcvState} (tidy : s.Tidy base)

include tidy

theorem Tidy.rebase_starts {i : Nat} (inside : i < s.numGaps) :
    s.starts s.cTsnAck (i + 1) = s.starts base (i + 1) - s.stops base 0 := by
  have above := tidy.above inside
  simp only [starts, stops] at above ⊢
  exact ahead_of_le (by omega)

theorem Tidy.rebase_stops {i : Nat} (inside : i < s.numGaps) :
    s.stops s.cTsnAck (i + 1) = s.stops base (i + 1) - s.stops base 0 := by
  have above := tidy.above inside
  have order := tidy.spaced.order (i + 1) (by omega)
  simp only [starts, stops] at above order ⊢
  exact ahead_of_le (by omega)

theorem Tidy.rebase_reported (y : Nat) : s.Reported s.cTsnAck (y - s.stops base 0) ↔
    s.Reported base y := by
  have zero : s.stops s.cTsnAck 0 = 0 := ahead_self
  constructor
  · rintro ⟨i, inside, start, stop⟩
    cases i with
    | zero => exact ⟨0, inside, Nat.zero_le _, by omega⟩
    | succ i =>
      have above := tidy.above (Nat.succ_lt_succ_iff.mp inside)
      rw [tidy.rebase_starts (by omega)] at start
      rw [tidy.rebase_stops (by omega)] at stop
      exact ⟨i + 1, inside, by omega, by omega⟩
  · rintro ⟨i, inside, start, stop⟩
    cases i with
    | zero => exact ⟨0, inside, Nat.zero_le _, by omega⟩
    | succ i =>
      refine ⟨i + 1, inside, ?_, ?_⟩
      · rw [tidy.rebase_starts (by omega)]
        omega
      · rw [tidy.rebase_stops (by omega)]
        omega

theorem Tidy.rebase : s.Tidy s.cTsnAck := by
  have zero : s.stops s.cTsnAck 0 = 0 := ahead_self
  refine ⟨⟨fun i inside => ?_, fun i inside => ?_⟩, fun y reported => ?_⟩
  · cases i with
    | zero => exact Nat.zero_le _
    | succ i =>
      have order := tidy.spaced.order (i + 1) inside
      rw [tidy.rebase_starts (by omega), tidy.rebase_stops (by omega)]
      omega
  · have apart := tidy.spaced.apart i inside
    rw [tidy.rebase_starts (by omega)]
    cases i with
    | zero => omega
    | succ i =>
      have above := tidy.above (show i < s.numGaps by omega)
      have order := tidy.spaced.order (i + 1) (by omega)
      rw [tidy.rebase_stops (by omega)]
      omega
  · have shifted := (tidy.rebase_reported (y + s.stops base 0)).mp (by rwa [Nat.add_sub_cancel])
    exact (Nat.le_add_right y _).trans_lt (tidy.near _ shifted)

end Rebase

end SCTPRcvState

def tsnOfNumber (initPeerTsn : UInt32) (n : Nat) : UInt32 := initPeerTsn - 1 + UInt32.ofNat n

theorem tsnOfNumber_add {initPeerTsn cTsnAck tsn : UInt32} {cum : Nat}
    (at_cum : cTsnAck = tsnOfNumber initPeerTsn cum) :
    tsnOfNumber initPeerTsn (cum + ahead cTsnAck tsn) = tsn := by
  rw [tsnOfNumber, ahead, add_ofNat_add, ← tsnOfNumber, ← at_cum, add_sub_cancel]

/-- A message stands under the TSN of its first chunk. -/
def Numbered (initPeerTsn : UInt32) (v : SCTPDataVariables) : Prop :=
  ∃ n rest, v.numbers = n :: rest ∧ v.tsn = tsnOfNumber initPeerTsn n

theorem closed_numbered (initPeerTsn : UInt32) : Closed (Numbered initPeerTsn) where
  append := by
    rintro v v' v'' ⟨n, rest, numbers, tsn⟩ - appended
    obtain ⟨-, tsn', -, numbers'⟩ := SCTPDataVariables.append_eq_ok appended
    exact ⟨n, rest ++ v'.numbers, by rw [numbers', numbers, cons_append], tsn'.trans tsn⟩
  finish := id

def numbersOf (v : SCTPDataVariables) : Multiset Nat := v.numbers

theorem additive_numbersOf : Additive numbersOf fun _ => True where
  append := by
    intro v v' v'' appended _
    simp only [numbersOf, (SCTPDataVariables.append_eq_ok appended).2.2.2, Multiset.coe_add]
  finish := fun _ => rfl
  part := fun _ => trivial

namespace SCTPReceiver

def storedNumbers (a : SCTPReceiver) : Multiset Nat := a.total numbersOf

def deliveredNumbers (a : SCTPReceiver) : Multiset Nat := (a.toApp.map numbersOf).sum

/-- All TSNs up to number `cum` are acknowledged, and the chunks stored or delivered are those
reported. -/
structure Core (cum : Nat) (a : SCTPReceiver) : Prop where
  tidy : a.state.Tidy a.state.cTsnAck
  at_cum : a.state.cTsnAck = tsnOfNumber a.initPeerTsn cum
  keyed : a.Keyed
  numbered : a.AllStored fun _ => Numbered a.initPeerTsn
  nodup : (a.storedNumbers + a.deliveredNumbers).Nodup
  exact_set : ∀ n, n ∈ a.storedNumbers + a.deliveredNumbers ↔ 0 < n ∧
    a.state.Reported a.state.cTsnAck (n - cum)

structure Moved (a b : SCTPReceiver) : Prop where
  record : SameRecord a.state b.state
  initPeerTsn : b.initPeerTsn = a.initPeerTsn
  keyed : b.Keyed
  numbered : b.AllStored fun _ => Numbered a.initPeerTsn
  numbers : b.storedNumbers + b.deliveredNumbers = a.storedNumbers + a.deliveredNumbers

variable {cum : Nat} {a b : SCTPReceiver}

theorem Core.moved (core : a.Core cum) (moved : Moved a b) : b.Core cum where
  tidy := moved.record.cTsnAck ▸ moved.record.tidy core.tidy
  at_cum := by rw [moved.record.cTsnAck, moved.initPeerTsn, core.at_cum]
  keyed := moved.keyed
  numbered := moved.initPeerTsn ▸ moved.numbered
  nodup := moved.numbers ▸ core.nodup
  exact_set :=
    fun n => by rw [moved.numbers, core.exact_set, moved.record.reported_iff, moved.record.cTsnAck]

theorem kept_moved (keyed : a.Keyed) (numbered : a.AllStored fun _ => Numbered a.initPeerTsn) :
    Moved a a ∧ Kept (Moved a) := by
  refine ⟨⟨.refl _, rfl, keyed, numbered, rfl⟩, ?_, ?_, ?_, ?_⟩
  · intro sid b b' known moved put
    obtain ⟨keyed, total, app, -, -⟩ := moved.keyed.putNext (w := numbersOf) known put
    have untouched := (kept_untouched b).put known (.refl b) put
    refine ⟨moved.record.trans untouched.record, untouched.initPeerTsn.trans moved.initPeerTsn,
      keyed, moved.numbered.putNext put, ?_⟩
    rw [← moved.numbers, storedNumbers, storedNumbers, deliveredNumbers, deliveredNumbers,
      total, app]
  · intro count sid b chunk q known moved extracted b' pushed
    obtain ⟨keyed, total, app, -⟩ :=
      moved.keyed.pushMessage (w := numbersOf) known extracted b' pushed
    have untouched := (kept_untouched b).push known (.refl b) extracted b' pushed
    refine ⟨moved.record.trans untouched.record, untouched.initPeerTsn.trans moved.initPeerTsn,
      keyed, (moved.numbered.pushMessage count extracted).2 b' pushed, ?_⟩
    rw [← moved.numbers, storedNumbers, storedNumbers, deliveredNumbers, deliveredNumbers,
      total, app]
    simp only [map_append, sum_append, map_cons, map_nil, sum_cons, sum_nil]
    abel
  · exact fun moved => ⟨moved.record.trans ⟨rfl, rfl, rfl, rfl, rfl⟩, moved.initPeerTsn,
      moved.keyed, moved.numbered, moved.numbers⟩
  · exact fun moved => ⟨moved.record.trans ⟨rfl, rfl, rfl, rfl, rfl⟩, moved.initPeerTsn,
      moved.keyed, moved.numbered, moved.numbers⟩

theorem Core.putInDeliveryQ {sid : Nat} {base : UInt32} (known : sid < a.inboundStreams)
    (core : a.Core (cum + ahead base a.state.cTsnAck)) :
    (a.putInDeliveryQ sid).Core (cum + ahead base (a.putInDeliveryQ sid).state.cTsnAck) := by
  obtain ⟨start, kept⟩ := kept_moved core.keyed core.numbered
  have moved := kept.putInDeliveryQ known start
  exact moved.record.cTsnAck.symm ▸ core.moved moved

theorem Core.pushUlp (core : a.Core cum) :
    Yields a.pushUlp fun b => b.Core cum ∧ b.state.cTsnAck = a.state.cTsnAck := by
  obtain ⟨start, kept⟩ := kept_moved core.keyed core.numbered
  exact (kept.pushUlp start).mono fun b moved => ⟨core.moved moved, moved.record.cTsnAck⟩

variable {dataChunk : SCTPDataChunk}

variable {s s' : SCTPRcvState} {high : UInt32} {uBit : Bool}
  {found : Nat × Bool × SCTPDataVariables}

section

variable (core : a.Core cum)

include core

section New

variable (records : SCTPRcvState.Records a.state.cTsnAck dataChunk.tsn s s')
  (same : SameRecord a.state s)
  (absent : ¬ a.state.Reported a.state.cTsnAck (ahead a.state.cTsnAck dataChunk.tsn))

include records same absent

theorem Core.added (kept : SameRecord s' b.state) (initPeerTsn : b.initPeerTsn = a.initPeerTsn)
    (keyed : b.Keyed) (numbered : b.AllStored fun _ => Numbered b.initPeerTsn)
    (numbers : b.storedNumbers + b.deliveredNumbers =
      (cum + ahead a.state.cTsnAck dataChunk.tsn) ::ₘ (a.storedNumbers + a.deliveredNumbers)) :
    b.Core (cum + ahead a.state.cTsnAck b.state.cTsnAck) where
  tidy := (kept.tidy records.tidy).rebase
  at_cum := by rw [initPeerTsn, tsnOfNumber_add core.at_cum]
  keyed := keyed
  numbered := numbered
  nodup := by
    rw [numbers, Multiset.nodup_cons]
    refine ⟨fun member => absent ?_, core.nodup⟩
    have reported := ((core.exact_set _).mp member).2
    rwa [Nat.add_sub_cancel_left] at reported
  exact_set := by
    intro n
    have zero : a.state.Reported a.state.cTsnAck 0 := ⟨0, Nat.succ_pos _, le_rfl, Nat.zero_le _⟩
    have pos : 0 < ahead a.state.cTsnAck dataChunk.tsn :=
      Nat.pos_of_ne_zero fun none => absent (none ▸ zero)
    rw [numbers, Multiset.mem_cons, core.exact_set, Nat.sub_add_eq]
    refine Iff.trans ?_ (and_congr_right' ((kept.tidy records.tidy).rebase_reported (n - cum)).symm)
    rw [kept.reported_iff, records.adds, same.reported_iff]
    constructor
    · rintro (rfl | ⟨pos', reported⟩)
      · exact ⟨by omega, .inl (Nat.add_sub_cancel_left ..)⟩
      · exact ⟨pos', .inr reported⟩
    · rintro ⟨pos', here | reported⟩
      · exact .inl (by omega)
      · exact .inr ⟨pos', reported⟩

variable (number : dataChunk.number = cum + ahead a.state.cTsnAck dataChunk.tsn)

include number

theorem Core.enqueued (known : dataChunk.sid.toNat < a.inboundStreams)
    (kept : SameRecord s' b.state) {r : Nat × SCTPReceiveStream}
    (enqueued : SCTPReceiveStream.Enqueued numbersOf (a.receiveStreams dataChunk.sid.toNat)
      dataChunk.makeVarFromMsg r)
    (numbered : r.2.All (Numbered a.initPeerTsn))
    (changed : b = { a.setStream dataChunk.sid.toNat r.2 with state := b.state }) :
    b.Core (cum + ahead a.state.cTsnAck b.state.cTsnAck) := by
  have init : b.initPeerTsn = a.initPeerTsn := by rw [changed]; rfl
  have streams : b.receiveStreams = update a.receiveStreams dataChunk.sid.toNat r.2 := by
    rw [changed]; rfl
  have total : b.storedNumbers = (a.setStream dataChunk.sid.toNat r.2).total numbersOf := by
    rw [changed]; rfl
  have delivered : b.deliveredNumbers = a.deliveredNumbers := by rw [changed]; rfl
  have keyed := core.keyed.setStream enqueued.keyed dataChunk.sid.toNat
  obtain ⟨others, before, after⟩ := total_split numbersOf known
  refine core.added records same absent kept init (fun sid => streams ▸ keyed sid) ?_ ?_
  · exact init ▸ core.numbered.update streams numbered
  · have single : numbersOf dataChunk.makeVarFromMsg = {dataChunk.number} := rfl
    rw [← number, total, delivered, after, enqueued.total, single, storedNumbers, before,
      ← Multiset.singleton_add]
    abel

theorem Core.storeChunk (tsn : dataChunk.tsn = tsnOfNumber a.initPeerTsn dataChunk.number)
    (fresh : (a.receiveStreams dataChunk.sid.toNat).Fresh dataChunk.tsn) :
    Yields (storeChunk dataChunk { a with state := s' }) fun r =>
      r.2.Core (cum + ahead a.state.cTsnAck r.2.state.cTsnAck) := by
  have flag : s'.newChunkReceived = true := by rw [records.frame]
  unfold SCTPReceiver.storeChunk
  refine yields_ite (fun _ => yields_ite (fun known => ?_) fun _ => .error) fun none =>
    absurd flag none
  refine .bind (P := fun r => SCTPReceiveStream.Enqueued numbersOf
    (a.receiveStreams dataChunk.sid.toNat)
    dataChunk.makeVarFromMsg r ∧ r.2.All (Numbered a.initPeerTsn)) ?_ fun r both => ?_
  · intro r enqueued
    refine ⟨(core.keyed dataChunk.sid.toNat).enqueue fresh additive_numbersOf trivial r enqueued,
      ?_⟩
    exact (core.numbered dataChunk.sid.toNat).enqueue (closed_numbered _) ⟨_, [], rfl,
      tsn⟩ r enqueued
  · obtain ⟨enqueued, numbered⟩ := both
    refine yields_ite (fun _ => .ok ?_) fun none => absurd enqueued.stored none
    have stored : ∀ b : SCTPReceiver,
      b = { a.setStream dataChunk.sid.toNat r.2 with state := b.state } →
        SameRecord s' b.state → b.Core (cum + ahead a.state.cTsnAck b.state.cTsnAck) :=
        fun b changed kept =>
      core.enqueued records same absent number known kept enqueued numbered changed
    split_ifs
    · refine Core.putInDeliveryQ known (stored _ rfl ?_)
      exact ⟨rfl, rfl, rfl, rfl, rfl⟩
    · exact stored _ rfl ⟨rfl, rfl, rfl, rfl, rfl⟩

end New

theorem Core.withState (same : SameRecord a.state s) : Core cum { a with state := s } :=
  core.moved ⟨same, rfl, core.keyed, core.numbered, rfl⟩

theorem Core.unchanged (same : SameRecord a.state s) :
    Core (cum + ahead a.state.cTsnAck s.cTsnAck) { a with state := s } := by
  rw [same.cTsnAck, ahead_self, Nat.add_zero]
  exact core.withState same

theorem Core.dropped {n : Nat} (above : cum < n)
    (place : ahead a.state.cTsnAck high = n - cum) (same : SameRecord a.state s)
    (kept : SameRecord s' b.state)
    (removes : SCTPRcvState.Removes a.state.cTsnAck high s s')
    (initPeerTsn : b.initPeerTsn = a.initPeerTsn)
    (keyed : b.Keyed) (numbered : b.AllStored fun _ => Numbered b.initPeerTsn)
    (numbers : a.storedNumbers + a.deliveredNumbers =
      n ::ₘ (b.storedNumbers + b.deliveredNumbers)) : b.Core cum := by
  have cTsnAck : b.state.cTsnAck = a.state.cTsnAck :=
    kept.cTsnAck.trans (removes.cTsnAck.trans same.cTsnAck)
  have nodup := core.nodup
  rw [numbers, Multiset.nodup_cons] at nodup
  refine ⟨cTsnAck ▸ kept.tidy
    removes.tidy, by rw [cTsnAck, initPeerTsn, core.at_cum], keyed, numbered, nodup.2, fun m => ?_⟩
  have before := core.exact_set m
  rw [numbers, Multiset.mem_cons] at before
  rw [cTsnAck, kept.reported_iff, removes.drops, same.reported_iff, place]
  constructor
  · intro member
    obtain ⟨pos, reported⟩ := before.mp (.inr member)
    exact ⟨pos, reported, fun equal => nodup.1 ((show m = n by omega) ▸ member)⟩
  · rintro ⟨pos, reported, other⟩
    exact (before.mpr ⟨pos, reported⟩).resolve_left (by rintro rfl; exact other rfl)

end

abbrev looking (a : SCTPReceiver) : SCTPReceiver :=
  { a with state := { a.state with newChunkReceived := false }.setHighestTsnReceived }

structure Arriving (base : UInt32) (cum : Nat) (dataChunk : SCTPDataChunk) (a : SCTPReceiver) :
    Prop where
  core : a.Core cum
  cTsnAck : a.state.cTsnAck = base
  number : dataChunk.number = cum + ahead base dataChunk.tsn
  tsn : dataChunk.tsn = tsnOfNumber a.initPeerTsn dataChunk.number
  near : ahead base dataChunk.tsn < 2 ^ 31
  fresh : (a.receiveStreams dataChunk.sid.toNat).Fresh dataChunk.tsn
  absent : ¬ a.state.Reported base (ahead base dataChunk.tsn)
  idle : a.state.newChunkReceived = false

variable {base top : UInt32} {streams : Nat} {initPeerTsn tsn : UInt32}

theorem recordTsn_full (below : tsnGt tsn s.highestTsnReceived = false)
    (new : s.tsnIsDuplicate tsn = false) (full : s.windowFull = true)
    (other : tsn ≠ s.cTsnAck + 1) :
    s.recordTsn initPeerTsn tsn = .ok (true, s) := by
  simp [recordTsn, updateGapList, below, new, full, other, Except.map]

def finish (initPeerTsn : UInt32) (dataChunk : SCTPDataChunk) (a : SCTPReceiver) :
    Except SctpFault (SCTPEventCode × SCTPReceiver) := do
  let recorded ← a.state.recordTsn initPeerTsn dataChunk.tsn
  if recorded.1 then storeChunk dataChunk { a with state := recorded.2 }
  else .ok (.ignore, { a with state := recorded.2 })

structure Recordable (initPeerTsn : UInt32) (dataChunk : SCTPDataChunk) (a : SCTPReceiver) :
    Prop where
  nonzero : ∀ j < a.state.numGaps, a.state.gapStartList j ≠ 0
  full : a.state.windowFull = true → tsnGt dataChunk.tsn a.state.highestTsnReceived = false
  initial : tsnGt dataChunk.tsn a.state.highestTsnReceived = true → dataChunk.tsn = initPeerTsn →
    a.state.numGaps = 0 ∧ dataChunk.tsn = a.state.cTsnAck + 1

theorem Arriving.finish (arriving : Arriving base cum dataChunk a)
    (recordable : Recordable initPeerTsn dataChunk a) :
    Yields (a.finish initPeerTsn dataChunk) fun r =>
    r.2.Core (cum + ahead base r.2.state.cTsnAck) := by
  obtain ⟨core, rfl, number, tsn, near, fresh, absent, idle⟩ := arriving
  obtain ⟨nonzero, full, initial⟩ := recordable
  unfold finish
  by_cases later : tsnGt dataChunk.tsn a.state.highestTsnReceived = true
  · have free : a.state.windowFull = false := Bool.eq_false_of_not_eq_true fun yes => by
      rw [full yes] at later
      cases later
    refine .bind (recordTsn_records core.tidy near nonzero absent (.inl free)
      (fun below => by rw [below] at later; cases later) initial) ?_
    rintro ⟨goes, s'⟩ ⟨rfl, received, stored, records⟩
    exact core.storeChunk records ⟨rfl, rfl, rfl, rfl, rfl⟩ absent number tsn fresh
  · have below := Bool.eq_false_of_not_eq_true later
    by_cases duplicate : a.state.tsnIsDuplicate dataChunk.tsn = true
    · rw [recordTsn_again below duplicate]
      exact .ok (core.unchanged ⟨rfl, rfl, rfl, rfl, rfl⟩)
    · have new := Bool.eq_false_of_not_eq_true duplicate
      by_cases blocked : a.state.windowFull = true ∧ dataChunk.tsn ≠ a.state.cTsnAck + 1
      · rw [recordTsn_full below new blocked.1 blocked.2]
        refine yields_ite (fun flag => ?_) fun _ => .ok (core.unchanged (.refl _))
        rw [idle] at flag
        cases flag
      · have allowed : a.state.windowFull = false ∨ dataChunk.tsn = a.state.cTsnAck + 1 := by
          rw [← Bool.not_eq_true]
          tauto
        have unlisted : dataChunk.tsn ∉ a.state.dupList := fun listed => by
          simp [tsnIsDuplicate, listed] at new
        refine .bind (recordTsn_records core.tidy near nonzero absent allowed (fun _ => unlisted)
          initial) ?_
        rintro ⟨goes, s'⟩ ⟨rfl, received, stored, records⟩
        exact core.storeChunk records ⟨rfl, rfl, rfl, rfl, rfl⟩ absent number tsn fresh

def Loose (cum : Nat) (v : SCTPDataVariables) : Prop :=
  v.numbers.length = 1 ∧ ∀ n ∈ v.numbers, cum < n
  deriving Decidable

structure Room (base : UInt32) (cum : Nat) (dataChunk : SCTPDataChunk) (streams : Nat)
    (top : UInt32) (a : SCTPReceiver) : Prop where
  arriving : Arriving base cum dataChunk a
  inboundStreams : a.inboundStreams = streams
  below : tsnGt dataChunk.tsn a.state.highestTsnReceived = false
  low : base.toNat + ahead base dataChunk.tsn < 2 ^ 32
  short : base.toNat + a.state.stops base a.state.numGaps < 2 ^ 32
  loose : a.AllStored fun sid v => sid < streams → dataChunk.tsn ≤ v.tsn → v.tsn ≤ top → Loose cum v

theorem reclaim_eq_ok (done : a.reclaim tsn high uBit found = .ok b) :
    ∃ s s', removeFromGapList high s = .ok s' ∧ SameRecord a.state s ∧
      s.newChunkReceived = a.state.newChunkReceived ∧ b = { a with
        state := if tsn > s'.highestTsnReceived then { s' with highestTsnReceived := tsn } else s'
        receiveStreams := update a.receiveStreams found.1
          (dropStored uBit found.2.1 high found.2.2 (a.receiveStreams found.1)) } := by
  unfold reclaim at done
  dsimp only at done
  generalize changed : removeFromGapList high _ = x at done
  cases x with
  | error e => cases done
  | ok s' => exact ⟨_, s', changed, ⟨rfl, rfl, rfl, rfl, rfl⟩, rfl, (Except.ok.inj done).symm⟩

theorem findStored_tsn (keyed : a.Keyed) (stored : a.findStored uBit high = some found) :
    found.2.2.tsn = high := by
  obtain ⟨sid, delQ, datVar⟩ := found
  obtain ⟨-, here⟩ := findStored_some stored
  split_ifs at here
  · exact (keyed sid).delivery high datVar here
  · exact (keyed sid).unordered high datVar here
  · exact (keyed sid).ordered high datVar here

theorem mem_storedNumbers (keyed : a.Keyed)
    (stored : a.findStored uBit high = some found) {n : Nat} (member : n ∈ found.2.2.numbers) :
    n ∈ a.storedNumbers := by
  obtain ⟨sid, delQ, datVar⟩ := found
  obtain ⟨known, here⟩ := findStored_some stored
  obtain ⟨others, before, -⟩ := total_split numbersOf known
  rw [storedNumbers, before, (dropStored_step (w := numbersOf) (keyed sid) here).2, add_assoc]
  exact Multiset.mem_add.mpr (.inl member)

theorem Core.found_number (core : a.Core cum)
    (stored : a.findStored uBit high = some found) (loose : Loose cum found.2.2) :
    ∃ n, found.2.2.numbers = [n] ∧ cum < n ∧ ahead a.state.cTsnAck high = n - cum ∧
      a.state.Reported a.state.cTsnAck (n - cum) := by
  obtain ⟨n, numbers⟩ := length_eq_one_iff.mp loose.1
  have above : cum < n := loose.2 n (by rw [numbers]; exact mem_cons_self)
  obtain ⟨m, rest, same, tsn⟩ := (core.numbered.reclaim 0 stored).1
  rw [numbers] at same
  cases same
  have member : n ∈ a.storedNumbers :=
    mem_storedNumbers core.keyed stored (by rw [numbers]; exact mem_cons_self)
  have reported := ((core.exact_set n).mp (Multiset.mem_add.mpr (.inl member))).2
  have near := core.tidy.near _ reported
  refine ⟨n, numbers, above, ?_, reported⟩
  rw [← findStored_tsn core.keyed stored, tsn, core.at_cum]
  exact ahead_ofNat _ above.le (by omega)

theorem Room.reclaim
    (room : a.Room base cum dataChunk streams top) (from_tsn : dataChunk.tsn ≤ high)
    (inside : high ≤ top)
    (stored : a.findStored uBit high = some found) :
    Yields (a.reclaim dataChunk.tsn high uBit found) (Room base cum dataChunk streams top) := by
  obtain ⟨⟨core, rfl, number, tsn, near, fresh, absent, idle⟩, rfl, below, low, short, loose⟩ :=
    room
  have at_high := findStored_tsn core.keyed stored
  obtain ⟨loose', all⟩ := loose.reclaim dataChunk.tsn stored
  obtain ⟨n, numbers, above, place, reported⟩ := core.found_number stored
    (loose' (findStored_some stored).1 (at_high ▸ from_tsn) (at_high ▸ inside))
  intro b done
  obtain ⟨keyed, total, -, still⟩ := core.keyed.reclaim (w := numbersOf) stored b done
  have numbered := (core.numbered.reclaim dataChunk.tsn stored).2 b done
  obtain ⟨s, s', removed, same, idle', changed⟩ := reclaim_eq_ok done
  have tidy := same.tidy core.tidy
  obtain ⟨removes, highest⟩ :=
    removeFromGapList_removes tidy (by rw [same.stops_eq, place, stops, ahead_self]; omega)
    (by rw [same.reported_iff, place]; exact reported) s' removed
  have state : SameRecord s' b.state ∧ b.state.newChunkReceived = s'.newChunkReceived ∧
    b.state.highestTsnReceived =
      if dataChunk.tsn > s'.highestTsnReceived then dataChunk.tsn else s'.highestTsnReceived := by
    rw [changed]
    dsimp only
    split_ifs <;> exact ⟨⟨rfl, rfl, rfl, rfl, rfl⟩, rfl, rfl⟩
  obtain ⟨kept, flag, highest'⟩ := state
  have init : b.initPeerTsn = a.initPeerTsn := by rw [changed]
  have core' : b.Core cum := by
    refine core.dropped above place same kept removes init keyed (init ▸ numbered) ?_
    have single : numbersOf found.2.2 = {n} := by rw [numbersOf, numbers]; rfl
    have delivered : b.deliveredNumbers = a.deliveredNumbers := by rw [changed]; rfl
    rw [storedNumbers, total, single, delivered, ← Multiset.singleton_add, add_assoc]
    rfl
  have top' : s'.stops a.state.cTsnAck s'.numGaps ≤
      a.state.stops a.state.cTsnAck a.state.numGaps := by
    have last := removes.tidy.spaced.order s'.numGaps (Nat.lt_succ_self _)
    have reported' := (removes.drops _).mp ⟨s'.numGaps, Nat.lt_succ_self _, last, le_rfl⟩
    exact core.tidy.spaced.le_last (same.reported_iff.mp reported'.1)
  refine ⟨⟨core', ?_, number, init ▸ tsn, near, still _ _ fresh, ?_,
    ?_⟩, by rw [changed], ?_, low, ?_, all b done⟩
  · exact kept.cTsnAck.trans (removes.cTsnAck.trans same.cTsnAck)
  · rw [kept.reported_iff, removes.drops, same.reported_iff]
    exact fun both => absent both.1
  · rw [flag, removes.newChunkReceived, idle', idle]
  · rw [highest']
    split_ifs with beyond
    · simp [tsnGt]
    · have bound := core.tidy.stop_near (le_refl a.state.numGaps)
      have at_tsn := toNat_of_short low
      have at_last := @toNat_of_short a.state.cTsnAck s'.highestTsnReceived (by omega)
      rw [gt_iff_lt, UInt32.lt_iff_toNat_lt] at beyond
      rw [Bool.eq_false_iff, Ne, tsnGt_iff near (by omega)]
      omega
  · rw [kept.numGaps, kept.stops_eq]
    omega

theorem Room.makeRoomForTsn {length : UInt32}
    (room : a.Room base cum dataChunk streams top) (highest : a.state.highestTsnStored = top)
    (stored : dataChunk.tsn < top) : Yields (a.makeRoomForTsn dataChunk.tsn length uBit) fun r =>
      ∃ streams top, r.2.Room base cum dataChunk streams top := by
  have marked : ∀ {streams top} {b : SCTPReceiver} (high : UInt32),
    b.Room base cum dataChunk streams top →
      Room base cum dataChunk streams top
      { b with state := { b.state with highestTsnStored := high } } := by
    rintro streams top b high ⟨⟨core, cTsnAck, number, tsn, near, fresh, absent, idle⟩, rest, below,
      low, short, loose⟩
    exact ⟨⟨core.withState ⟨rfl, rfl, rfl, rfl, rfl⟩, cTsnAck, number, tsn, near, fresh, absent,
      idle⟩, rest, below, low, short, loose⟩
  rcases Nat.eq_zero_or_pos streams with none | some
  · -- Without streams nothing is found.
    have room' : a.Room base cum dataChunk 0 0xFFFFFFFF := by
      refine { room with inboundStreams := room.inboundStreams.trans none, loose := fun sid => ?_ }
      constructor <;> exact fun t v here known => absurd known (Nat.not_lt_zero sid)
    refine (makeRoomRounds_kept (.inr le_last) ?_ marked _ (le_last _) room').mono fun r room =>
      ⟨_, _, room⟩
    intro b high found room _ _ found'
    have known := (findStored_some found').1
    rw [room.inboundStreams] at known
    exact absurd known (Nat.not_lt_zero _)
  · have pos : 0 < dataChunk.tsn := by
      have zero : a.state.Reported base 0 := ⟨0, Nat.succ_pos _, le_rfl, Nat.zero_le _⟩
      have apart : ahead base dataChunk.tsn ≠ 0 := fun same => room.arriving.absent (same ▸ zero)
      have at_tsn := toNat_of_short room.low
      rw [UInt32.lt_iff_toNat_lt, UInt32.toNat_zero]
      omega
    refine (makeRoomRounds_kept (.inl ⟨pos, fun room => ?_⟩) (fun room => room.reclaim) marked _
      (highest ▸ UInt32.le_refl _) room).mono fun r room => ⟨_, _, room⟩
    refine ⟨room.inboundStreams ▸ some, Option.eq_none_iff_forall_ne_some.mpr fun found found' =>
      ?_⟩
    have at_tsn := findStored_tsn room.arriving.core.keyed found'
    have loose :=
      (room.loose.reclaim dataChunk.tsn found').1 (room.inboundStreams ▸ (findStored_some found').1)
      (at_tsn ▸ UInt32.le_refl _) (at_tsn ▸ UInt32.le_of_lt stored)
    obtain ⟨n, -, -, place, reported⟩ := room.arriving.core.found_number found' loose
    rw [room.arriving.cTsnAck] at place reported
    exact room.arriving.absent (place ▸ reported)

structure Sound (cum : Nat) (a : SCTPReceiver) (dataChunk : SCTPDataChunk) : Prop where
  nonzero : ∀ i < a.state.numGaps, a.state.gapStartList i ≠ 0
  fresh : a.passes dataChunk.tsn = true → (a.receiveStreams dataChunk.sid.toNat).Fresh dataChunk.tsn
  initial : a.passes dataChunk.tsn = true → dataChunk.tsn = a.initPeerTsn →
    tsnGt dataChunk.tsn a.state.setHighestTsnReceived.highestTsnReceived = true →
    dataChunk.tsn = a.state.cTsnAck + 1
  plain : a.passes dataChunk.tsn = true → a.reclaims dataChunk.tsn = true →
    a.state.cTsnAck ≤ a.state.setHighestTsnReceived.highestTsnReceived
  loose : a.passes dataChunk.tsn = true → a.reclaims dataChunk.tsn = true →
    ∀ sid < a.inboundStreams, (a.receiveStreams sid).All fun v =>
      dataChunk.tsn ≤ v.tsn → v.tsn ≤ a.state.highestTsnStored → Loose cum v
  gaps : a.state.numGaps + 1 < MAX_GAP_COUNT
  spare : a.reclaims dataChunk.tsn = true → a.state.numGaps + a.messages + 1 < MAX_GAP_COUNT

theorem Room.recordable (room : a.Room base cum dataChunk streams top)
    (initPeerTsn : UInt32) : Recordable initPeerTsn dataChunk a := by
  obtain ⟨⟨core, rfl, number, tsn, near, fresh, absent, idle⟩, rfl, below, low, short, loose⟩ :=
    room
  refine ⟨fun j inside zero => ?_, fun _ => below, fun later => ?_⟩
  · have start := core.tidy.above inside
    have stop := core.tidy.spaced.order (j + 1) (by omega)
    have last := core.tidy.spaced.le_last ⟨j + 1, by omega, stop, le_rfl⟩
    have at_start := @toNat_of_short a.state.cTsnAck (a.state.gapStartList j)
      (by simp only [starts] at stop; omega)
    rw [zero, UInt32.toNat_zero] at at_start
    simp only [starts, zero] at start
    omega
  · rw [below] at later
    cases later

theorem numGaps_eq_zero (tidy : s.Tidy s.cTsnAck)
    (later : tsnGt (s.cTsnAck + 1) s.setHighestTsnReceived.highestTsnReceived = true) :
    s.numGaps = 0 := by
  have highest := @setHighestTsnReceived_ahead s.cTsnAck s
  have next : ahead s.cTsnAck (s.cTsnAck + 1) = 1 := by simp [ahead]
  have last := tidy.stop_near (le_refl s.numGaps)
  have near : ahead s.cTsnAck (s.cTsnAck + 1) < 2 ^ 31 := by omega
  rw [tsnGt_iff near (highest ▸ last), highest, next] at later
  by_contra some
  obtain ⟨n, count⟩ := Nat.exists_eq_add_one_of_ne_zero some
  have start := tidy.above (show n < s.numGaps by omega)
  have order := tidy.spaced.order (n + 1) (by omega)
  rw [count] at later
  omega

section Arrives

variable (core : a.Core cum) (number : dataChunk.number = cum + ahead a.state.cTsnAck dataChunk.tsn)
  (sound : Sound cum a dataChunk)

include core number sound

theorem Core.arriving (passes : a.passes dataChunk.tsn = true) :
    Arriving a.state.cTsnAck cum dataChunk a.looking := by
  have fresh := sound.fresh passes
  simp only [SCTPReceiver.passes, Bool.and_eq_true, Bool.not_eq_true', Bool.or_eq_true] at passes
  obtain ⟨above, new⟩ := passes
  rw [Bool.eq_false_iff, Ne, tsnLe_iff_ahead, not_or, not_le] at above
  refine ⟨core.withState ⟨rfl, rfl, rfl, rfl, rfl⟩, rfl, number,
    number ▸ (tsnOfNumber_add core.at_cum).symm, above.2, fresh, fun reported => ?_, rfl⟩
  have reported' : a.state.Reported a.state.cTsnAck (ahead a.state.cTsnAck dataChunk.tsn) :=
    reported
  have last := core.tidy.stop_near (le_refl a.state.numGaps)
  have highest := @setHighestTsnReceived_ahead a.state.cTsnAck a.state
  rcases new with later | unlisted
  · rw [tsnGt_iff above.2 (highest ▸ last)] at later
    have reached := core.tidy.spaced.le_last reported'
    omega
  · have zero : a.state.stops a.state.cTsnAck 0 = 0 := ahead_self
    have duplicate := (tsnIsDuplicate_iff core.tidy (by omega)).mpr (.inr reported')
    rw [unlisted] at duplicate
    cases duplicate

theorem Core.room (passes : a.passes dataChunk.tsn = true)
    (reclaims : a.reclaims dataChunk.tsn = true)
    (below : tsnGt dataChunk.tsn a.state.setHighestTsnReceived.highestTsnReceived = false) :
    Room a.state.cTsnAck cum dataChunk a.inboundStreams a.state.highestTsnStored a.looking := by
  have arriving := core.arriving number sound passes
  have plain := sound.plain passes reclaims
  have last := core.tidy.stop_near (le_refl a.state.numGaps)
  have highest := @setHighestTsnReceived_ahead a.state.cTsnAck a.state
  have reached : ahead a.state.cTsnAck dataChunk.tsn ≤
      a.state.stops a.state.cTsnAck a.state.numGaps := by
    rw [Bool.eq_false_iff, Ne, tsnGt_iff arriving.near (highest ▸ last), highest] at below
    omega
  have short : a.state.cTsnAck.toNat + a.state.stops a.state.cTsnAck a.state.numGaps < 2 ^ 32 := by
    have bound := a.state.setHighestTsnReceived.highestTsnReceived.toNat_lt
    have le := UInt32.le_iff_toNat_le.mp plain
    rw [ahead, UInt32.toNat_sub_of_le _ _ plain] at highest
    omega
  refine ⟨arriving, rfl, below, (Nat.add_le_add_left reached _).trans_lt short, short,
    fun sid => ?_⟩
  constructor
  · exact fun t v here known => (sound.loose passes reclaims sid known).deliveryQ t v here
  · exact fun t v here known => (sound.loose passes reclaims sid known).orderedQ t v here
  · exact fun t v here known => (sound.loose passes reclaims sid known).unorderedQ t v here

theorem Core.checkBuffer (passes : a.passes dataChunk.tsn = true) :
    Yields (checkBuffer dataChunk a.looking) fun r =>
      Arriving a.state.cTsnAck cum dataChunk r.2 ∧
        (r.1 = true → Recordable a.initPeerTsn dataChunk r.2) := by
  have arriving := core.arriving number sound passes
  have initial : tsnGt dataChunk.tsn a.state.setHighestTsnReceived.highestTsnReceived = true →
      dataChunk.tsn = a.initPeerTsn → a.state.numGaps = 0 ∧
      dataChunk.tsn = a.state.cTsnAck + 1 := by
    intro later first
    have next := sound.initial passes first later
    exact ⟨numGaps_eq_zero core.tidy (next ▸ later), next⟩
  unfold SCTPReceiver.checkBuffer
  refine yields_ite (fun full => yields_ite (fun _ => .ok ⟨arriving, fun no => ?_⟩) fun below =>
    yields_ite
    (fun reclaimed => ?_) fun _ => .ok ⟨arriving, fun _ => ?_⟩) fun free =>
    .ok ⟨arriving, fun _ => ?_⟩
  · cases no
  · simp only [Bool.and_eq_true, decide_eq_true_iff] at reclaimed
    have below' := Bool.eq_false_of_not_eq_true below
    have stored : dataChunk.tsn < a.state.highestTsnStored := reclaimed.2
    have reclaims : a.reclaims dataChunk.tsn = true := by
      simp only [reclaims, Bool.and_eq_true, Bool.not_eq_true', decide_eq_true_iff]
      exact ⟨⟨full, below'⟩, stored⟩
    have room := core.room number sound passes reclaims below'
    refine (room.makeRoomForTsn rfl stored).mono ?_
    rintro r ⟨streams, top, room⟩
    exact ⟨room.arriving, fun _ => room.recordable a.initPeerTsn⟩
  · exact ⟨sound.nonzero, fun _ => Bool.eq_false_of_not_eq_true below, initial⟩
  · exact ⟨sound.nonzero, fun full => absurd full free, initial⟩

theorem Core.data :
    Yields (a.processDataArrived dataChunk) fun r =>
    r.2.Core (cum + ahead a.state.cTsnAck r.2.state.cTsnAck) := by
  cases passes : a.passes dataChunk.tsn with
  | false =>
    refine (processDataArrived_again passes).mono ?_
    rintro r ⟨s, changed, same, -⟩
    rw [changed]
    exact core.unchanged same
  | true =>
    unfold processDataArrived
    refine .ite (.ok (core.unchanged ⟨rfl, rfl, rfl, rfl, rfl⟩))
      (.ite (.ok (core.unchanged ⟨rfl, rfl, rfl, rfl, rfl⟩)) ?_)
    refine .bind (core.checkBuffer number sound passes) fun room arrived =>
      yields_ite (fun goes => ?_) fun _ => ?_
    · exact arrived.1.finish (arrived.2 goes)
    · refine .ok ?_
      rw [arrived.1.cTsnAck, ahead_self]
      exact arrived.1.core

end Arrives

end SCTPReceiver

structure Tracked where
  receiver : SCTPReceiver
  cum : Nat

namespace Tracked

variable (w : Tracked)

def numberOf (tsn : UInt32) : Nat := w.cum + ahead w.receiver.state.cTsnAck tsn

def label : RcvEvent → RcvEvent
  | .data dataChunk => .data { dataChunk with number := w.numberOf dataChunk.tsn }
  | e => e

def Next (e : RcvEvent) (w' : Tracked) : Prop :=
  w.receiver.handle (w.label e) = .ok w'.receiver ∧ w'.cum = w.numberOf w'.receiver.state.cTsnAck

def Acknowledges (n : Nat) : Prop :=
  let s := w.receiver.state
  0 < n ∧ (n ≤ w.cum ∨ ∃ i < s.numGaps, w.numberOf (s.gapStartList i) ≤ n ∧
    n ≤ w.numberOf (s.gapStopList i))

/-- What is acknowledged is stored or delivered, and what is stored is acknowledged. -/
structure HoldsAcknowledged (w : Tracked) : Prop where
  held : ∀ n, w.Acknowledges n → n ∈ w.receiver.storedNumbers ∨ n ∈ w.receiver.deliveredNumbers
  reported : ∀ n ∈ w.receiver.storedNumbers, w.Acknowledges n

def Sound : RcvEvent → Prop
  | .data dataChunk => SCTPReceiver.Sound w.cum w.receiver dataChunk
  | .receive => w.receiver.inboundStreams ≤ 100
  | _ => True

/-- No arrival or delivery that is sound goes outside of an array. -/
def InBounds : Prop := ∀ e, w.Sound e → w.receiver.handle (w.label e) ≠ .error .arrayIndex

variable {w w' : Tracked}

theorem acknowledges_iff {n : Nat} :
    w.Acknowledges n ↔ 0 < n ∧ w.receiver.state.Reported w.receiver.state.cTsnAck (n - w.cum) := by
  refine and_congr_right fun pos => ⟨?_, ?_⟩
  · rintro (low | ⟨i, inside, start, stop⟩)
    · exact ⟨0, Nat.succ_pos _, Nat.zero_le _, by omega⟩
    · unfold numberOf at start stop
      refine ⟨i + 1, by omega, ?_, ?_⟩ <;> simp only [starts, stops] <;> omega
  · rintro ⟨i, inside, start, stop⟩
    by_cases low : n ≤ w.cum
    · exact .inl low
    · cases i with
      | zero =>
        rw [stops, ahead_self] at stop
        omega
      | succ i =>
        refine .inr ⟨i, by omega, ?_, ?_⟩ <;> unfold numberOf <;>
          simp only [starts, stops] at start stop <;> omega

theorem holdsAcknowledged (core : w.receiver.Core w.cum) : w.HoldsAcknowledged := by
  refine ⟨fun n acknowledged => ?_, fun n member => ?_⟩
  · exact Multiset.mem_add.mp ((core.exact_set n).mpr (acknowledges_iff.mp acknowledged))
  · exact acknowledges_iff.mpr ((core.exact_set n).mp (Multiset.mem_add.mpr (.inl member)))

theorem core_step {e : RcvEvent} (core : w.receiver.Core w.cum) (sound : w.Sound e)
    (next : w.Next e w') : w'.receiver.Core w'.cum := by
  obtain ⟨done, number⟩ := next
  rw [number]
  have unchanged : ∀ b : SCTPReceiver, b.Core w.cum → b.state.cTsnAck = w.receiver.state.cTsnAck →
      b.Core (w.numberOf b.state.cTsnAck) := by
    intro b core same
    rwa [numberOf, same, ahead_self]
  cases e with
  | data dataChunk =>
    obtain ⟨r, ran, same⟩ := map_eq_ok done
    rw [← same]
    have number : ({ dataChunk with number := w.numberOf dataChunk.tsn } : SCTPDataChunk).number =
        w.cum + ahead w.receiver.state.cTsnAck dataChunk.tsn := rfl
    exact core.data number ⟨sound.nonzero, sound.fresh, sound.initial, sound.plain, sound.loose,
      sound.gaps, sound.spare⟩ r ran
  | receive =>
    obtain ⟨core', same⟩ := core.pushUlp w'.receiver done
    exact unchanged _ core' same
  | sendSack =>
    rw [← Except.ok.inj done]
    exact unchanged _ (core.withState (createSack_record w.receiver.pmtu w.receiver.state).1) rfl
  | peerSack tsna =>
    rw [← Except.ok.inj done]
    exact unchanged _ (core.withState ⟨rfl, rfl, rfl, rfl, rfl⟩) rfl

theorem inBounds (core : w.receiver.Core w.cum) : w.InBounds := by
  intro e sound
  cases e with
  | data dataChunk =>
    have bounded :
        w.receiver.Bounded ({ dataChunk with number := w.numberOf dataChunk.tsn } :
          SCTPDataChunk).tsn :=
      ⟨sound.gaps, fun reclaims => ⟨core.tidy.apart, sound.spare reclaims⟩⟩
    exact (Averts.map (g := Prod.snd) (R := fun _ => True)
      (bounded.processDataArrived core.keyed)).1
  | receive => exact (pushUlp_inBounds sound).1
  | sendSack => nofun
  | peerSack tsna => nofun

variable (initPeerTsn : UInt32) (inboundStreams : Nat) (localRwnd : UInt64)
  (messagesToPush swsLimit assocPmtu pmtu : UInt32)

theorem start_numbers :
    (start initPeerTsn inboundStreams localRwnd messagesToPush swsLimit assocPmtu
      pmtu).storedNumbers +
      (start initPeerTsn inboundStreams localRwnd messagesToPush swsLimit assocPmtu
        pmtu).deliveredNumbers = 0 := by
  simp [storedNumbers, deliveredNumbers, start, total, SCTPReceiveStream.total, KeyMap.total]

theorem core_start :
    (start initPeerTsn inboundStreams localRwnd messagesToPush swsLimit assocPmtu pmtu).Core 0 where
  tidy := start_tidy
  at_cum := by simp [tsnOfNumber, start]
  keyed := (counted_start ..).keyed
  numbered := fun sid => by
    constructor <;> simp [start, SCTPQueue.All, SCTPQueue.getVar, KeyMap.find?]
  nodup := start_numbers .. ▸ Multiset.nodup_zero
  exact_set := by
    intro n
    refine iff_of_false (start_numbers .. ▸ Multiset.notMem_zero n) ?_
    rintro ⟨pos, reported⟩
    exact absurd (start_reported.mp reported) (Nat.pos_iff_ne_zero.mp pos)

end Tracked

/-- Over any run whose steps are sound, what is acknowledged is held. -/
theorem acknowledged_held {initPeerTsn : UInt32} {inboundStreams : Nat} {localRwnd : UInt64}
    {messagesToPush swsLimit assocPmtu pmtu : UInt32} {es : List RcvEvent}
    (each : Each Tracked.Next Tracked.Sound
      ⟨.start initPeerTsn inboundStreams localRwnd messagesToPush swsLimit assocPmtu pmtu, 0⟩ es) :
    Always Tracked.Next (fun w => w.HoldsAcknowledged ∧ w.InBounds)
      ⟨.start initPeerTsn inboundStreams localRwnd messagesToPush swsLimit assocPmtu pmtu,
        0⟩ es := by
  apply always_of_each (I := fun w => w.receiver.Core w.cum) _ _ (Tracked.core_start ..) each
  · exact fun w e w' core sound next => Tracked.core_step core sound next
  · exact fun w core => ⟨Tracked.holdsAcknowledged core, Tracked.inBounds core⟩

def Tracked.step (w : Tracked) (e : RcvEvent) : Option Tracked :=
  (w.receiver.handle (w.label e)).toOption.map fun a => ⟨a, w.numberOf a.state.cTsnAck⟩

theorem Tracked.next_of_step (w : Tracked) (e : RcvEvent) (w' : Tracked)
    (stepped : w.step e = some w') : w.Next e w' := by
  obtain ⟨a, ran, rfl⟩ := Option.map_eq_some_iff.mp stepped
  exact ⟨eq_ok_of_toOption ran, rfl⟩

def Tracked.after (w : Tracked) (e : RcvEvent) : Tracked := (w.step e).getD w

theorem Tracked.Next.eq_after {w w' : Tracked} {e : RcvEvent} (next : w.Next e w') :
    w.after e = w' := by
  obtain ⟨a, cum⟩ := w'
  obtain ⟨done, number⟩ := next
  rw [Tracked.after, Tracked.step, done, show cum = w.numberOf a.state.cTsnAck from number]
  rfl

instance {P : SCTPDataVariables → Prop} [DecidablePred P] (q : SCTPQueue) : Decidable (q.All P) :=
  decidable_of_iff (∀ e ∈ q.entries, P e.2)
    ⟨fun all t v found => all (t, v) (KeyMap.find?_eq_some_iff.mp found),
      fun all e member => all e.1 e.2 (KeyMap.find?_eq_some_iff.mpr member)⟩

instance {P : SCTPDataVariables → Prop} [DecidablePred P] (rStream : SCTPReceiveStream) :
    Decidable (rStream.All P) :=
  decidable_of_iff (rStream.deliveryQ.All P ∧ rStream.orderedQ.All P ∧ rStream.unorderedQ.All P)
    ⟨fun h => ⟨h.1, h.2.1, h.2.2⟩, fun h => ⟨h.1, h.2, h.3⟩⟩

instance (cum : Nat) (a : SCTPReceiver) (dataChunk : SCTPDataChunk) :
    Decidable (a.Sound cum dataChunk) :=
  decidable_of_iff
    ((∀ i < a.state.numGaps, a.state.gapStartList i ≠ 0) ∧
      (a.passes dataChunk.tsn = true → (a.receiveStreams dataChunk.sid.toNat).Fresh dataChunk.tsn ∧
        (dataChunk.tsn = a.initPeerTsn →
          tsnGt dataChunk.tsn a.state.setHighestTsnReceived.highestTsnReceived = true →
            dataChunk.tsn = a.state.cTsnAck + 1) ∧
        (a.reclaims dataChunk.tsn = true → a.state.cTsnAck ≤
          a.state.setHighestTsnReceived.highestTsnReceived ∧
          ∀ sid < a.inboundStreams, (a.receiveStreams sid).All fun v =>
            dataChunk.tsn ≤ v.tsn → v.tsn ≤ a.state.highestTsnStored → SCTPReceiver.Loose cum v)) ∧
      a.state.numGaps + 1 < MAX_GAP_COUNT ∧
      (a.reclaims dataChunk.tsn = true → a.state.numGaps + a.messages + 1 < MAX_GAP_COUNT))
    ⟨fun h => ⟨h.1, fun p => (h.2.1 p).1, fun p => (h.2.1 p).2.1, fun p r => ((h.2.1 p).2.2 r).1,
        fun p r => ((h.2.1 p).2.2 r).2, h.2.2.1, h.2.2.2⟩,
      fun h => ⟨h.nonzero, fun p => ⟨h.fresh p, h.initial p, fun r => ⟨h.plain p r, h.loose p r⟩⟩,
        h.gaps, h.spare⟩⟩

instance (w : Tracked) (e : RcvEvent) : Decidable (w.Sound e) :=
  match e with
  | .data _ => inferInstanceAs (Decidable (SCTPReceiver.Sound _ _ _))
  | .receive => inferInstanceAs (Decidable (_ ≤ _))
  | .sendSack | .peerSack _ => .isTrue trivial

/-- With room for two bytes, TSN 4 is given up for TSN 2. -/
theorem acknowledged_held_three : Always Tracked.Next (fun w => w.HoldsAcknowledged ∧ w.InBounds)
      ⟨.start 1 1 2 0 0 1500 1500, 0⟩
      [.data (oneByte 3 2), .data (oneByte 4 3), .data (oneByte 2 1)] := by
  apply acknowledged_held
  iterate 3 refine .cons (fun _ next => next.eq_after) (by decide) ?_
  trivial

def lastByte (tsn : UInt32) (ssn : UInt16) : SCTPDataChunk := { oneByte tsn ssn with bBit := false }

/-- Two fragments become one message under TSN 3. For TSN 2 it is given up, and TSN 4 stays in the
record. -/
theorem acknowledged_not_held : ¬ ∀ (initPeerTsn : UInt32) (inboundStreams : Nat)
    (localRwnd : UInt64) (messagesToPush swsLimit assocPmtu pmtu : UInt32) (es : List RcvEvent),
    Always Tracked.Next Tracked.HoldsAcknowledged
      ⟨.start initPeerTsn inboundStreams localRwnd messagesToPush swsLimit assocPmtu pmtu,
        0⟩ es := by
  intro all
  have along :=
    all 1 1 2 0 0 1500 1500 [.data (firstByte 3 2), .data (lastByte 4 2), .data (oneByte 2 1)]
  have ends : ([.data (firstByte 3 2), .data (lastByte 4 2), .data (oneByte 2 1)].foldlM
      Tracked.step ⟨.start 1 1 2 0 0 1500 1500, 0⟩).map (fun w => (w.receiver.state.numGaps,
        w.numberOf (w.receiver.state.gapStartList 1), w.numberOf (w.receiver.state.gapStopList 1),
        w.receiver.storedNumbers, w.receiver.deliveredNumbers)) =
        some (2, 4, 4, {2}, 0) := by decide +kernel
  obtain ⟨w, ran, same⟩ := Option.map_eq_some_iff.mp ends
  simp only [Prod.mk.injEq] at same
  obtain ⟨count, start, stop, stored, delivered⟩ := same
  have held :=
    (along.last Tracked.next_of_step ran).held 4 ⟨by omega, .inr ⟨1, by omega, start.le, stop.ge⟩⟩
  rw [stored, delivered] at held
  simp at held

end Srwsn
