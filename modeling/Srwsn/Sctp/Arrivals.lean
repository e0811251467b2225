import Srwsn.Lib.Trace
import Srwsn.Sctp.Receiver

/-! What an SCTP receiver reports is what has arrived. -/
namespace Srwsn

open Serial Blocks Outcome Trace SCTPRcvState List

/-- A DATA chunk arrives, the application asks for messages, a SACK is sent, or a SACK of the peer
moves `lastTsnAck`. -/
inductive RcvEvent where
  | data (dataChunk : SCTPDataChunk)
  | receive
  | sendSack
  | peerSack (tsna : UInt32)
  deriving DecidableEq

namespace SCTPReceiver

def handle (a : SCTPReceiver) : RcvEvent → Except SctpFault SCTPReceiver
  | .data dataChunk => (a.processDataArrived dataChunk).map Prod.snd
  | .receive => a.pushUlp
  | .sendSack => .ok { a with state := (a.state.createSack a.pmtu).2 }
  | .peerSack tsna => .ok { a with state := { a.state with lastTsnAck := tsna } }

def start (initPeerTsn : UInt32) (inboundStreams : Nat) (localRwnd : UInt64)
    (messagesToPush swsLimit assocPmtu pmtu : UInt32) : SCTPReceiver where
  state := {
    cTsnAck := initPeerTsn - 1
    localRwnd := localRwnd
    messagesToPush := messagesToPush
    swsLimit := swsLimit
    assocPmtu := assocPmtu }
  initPeerTsn := initPeerTsn
  inboundStreams := inboundStreams
  pmtu := pmtu

section Start

variable {initPeerTsn : UInt32} {inboundStreams : Nat} {localRwnd : UInt64}
  {messagesToPush swsLimit assocPmtu pmtu : UInt32}

theorem start_reported {y : Nat} : SCTPRcvState.Reported (initPeerTsn - 1)
    (start initPeerTsn inboundStreams localRwnd messagesToPush swsLimit assocPmtu pmtu).state y ↔
    y = 0 := by
  constructor
  · rintro ⟨i, inside, -, stop⟩
    obtain rfl : i = 0 := Nat.lt_one_iff.mp inside
    simpa [stops, start] using stop
  · rintro rfl
    exact ⟨0, Nat.succ_pos _, le_rfl, Nat.zero_le _⟩

theorem start_tidy : SCTPRcvState.Tidy (initPeerTsn - 1)
    (start initPeerTsn inboundStreams localRwnd messagesToPush swsLimit assocPmtu pmtu).state := by
  refine ⟨⟨fun i inside => ?_, fun i inside => absurd inside (by simp [start])⟩,
    fun y reported => ?_⟩
  · obtain rfl : i = 0 := Nat.lt_one_iff.mp inside
    exact Nat.zero_le _
  · rw [start_reported.mp reported]
    norm_num

end Start

end SCTPReceiver

structure SameRecord (s s' : SCTPRcvState) : Prop where
  cTsnAck : s'.cTsnAck = s.cTsnAck
  numGaps : s'.numGaps = s.numGaps
  gapStartList : s'.gapStartList = s.gapStartList
  gapStopList : s'.gapStopList = s.gapStopList
  stopReceiving : s'.stopReceiving = s.stopReceiving

namespace SameRecord

variable {s s' s'' : SCTPRcvState}

theorem refl (s : SCTPRcvState) : SameRecord s s := ⟨rfl, rfl, rfl, rfl, rfl⟩

variable (h : SameRecord s s')

include h

theorem trans (h' : SameRecord s' s'') : SameRecord s s'' where
  cTsnAck := h'.cTsnAck.trans h.cTsnAck
  numGaps := h'.numGaps.trans h.numGaps
  gapStartList := h'.gapStartList.trans h.gapStartList
  gapStopList := h'.gapStopList.trans h.gapStopList
  stopReceiving := h'.stopReceiving.trans h.stopReceiving

theorem starts_eq (base : UInt32) : s'.starts base = s.starts base := by
  funext i
  cases i <;> simp [starts, h.gapStartList]

theorem stops_eq (base : UInt32) : s'.stops base = s.stops base := by
  funext i
  cases i <;> simp [stops, h.gapStopList, h.cTsnAck]

theorem reported_iff {base : UInt32} {y : Nat} : s'.Reported base y ↔ s.Reported base y := by
  rw [SCTPRcvState.Reported, SCTPRcvState.Reported, h.numGaps, h.starts_eq, h.stops_eq]

theorem tidy {base : UInt32} (tidy : s.Tidy base) : s'.Tidy base := by
  refine ⟨?_, fun y reported => tidy.near y (h.reported_iff.mp reported)⟩
  rw [h.numGaps, h.starts_eq, h.stops_eq]
  exact tidy.spaced

end SameRecord

theorem createSack_record (pmtu : UInt32) (s : SCTPRcvState) :
    SameRecord s (s.createSack pmtu).2 ∧ (s.createSack pmtu).2.dupList ⊆ s.dupList := by
  refine ⟨⟨rfl, rfl, rfl, rfl, rfl⟩, ?_⟩
  dsimp only [createSack]
  split_ifs <;> simp

theorem openWindow_record (pmtu : UInt32) (s : SCTPRcvState) :
    SameRecord s (s.openWindow pmtu) ∧ (s.openWindow pmtu).dupList ⊆ s.dupList := by
  unfold openWindow
  dsimp only
  split_ifs
  · obtain ⟨sack, dups⟩ := createSack_record pmtu { s with swsAvoidanceInvoked := false }
    exact ⟨⟨sack.1, sack.2, sack.3, sack.4, sack.5⟩, dups⟩
  · exact ⟨.refl s, List.Subset.refl _⟩

namespace SCTPReceiver

variable {a a' : SCTPReceiver}

structure Untouched (a b : SCTPReceiver) : Prop where
  record : SameRecord a.state b.state
  dupList : b.state.dupList ⊆ a.state.dupList
  initPeerTsn : b.initPeerTsn = a.initPeerTsn

theorem Untouched.refl (a : SCTPReceiver) : Untouched a a := ⟨.refl _, List.Subset.refl _, rfl⟩

theorem kept_untouched (a : SCTPReceiver) : Kept (Untouched a) where
  put := by
    rintro sid b b' - same put
    obtain ⟨dequeued, -, rfl⟩ := Option.map_eq_some_iff.mp put
    exact ⟨same.record.trans ⟨rfl, rfl, rfl, rfl, rfl⟩, same.dupList, same.initPeerTsn⟩
  push := by
    rintro count sid b chunk q - same -
    refine .ite (.ok ?_) .error
    have opened := openWindow_record b.pmtu { b.state with
      pushMessagesLeft :=
        if b.state.pushMessagesLeft > 0 then b.state.pushMessagesLeft - 1
          else b.state.pushMessagesLeft
      queuedRcvBytes := b.state.queuedRcvBytes - (chunk.len / 8).toUInt64 }
    refine ⟨SameRecord.trans (same.record.trans ?_) opened.1,
      List.Subset.trans opened.2 same.dupList, same.initPeerTsn⟩
    exact ⟨rfl, rfl, rfl, rfl, rfl⟩
  limit := fun same => ⟨same.record.trans ⟨rfl, rfl, rfl, rfl, rfl⟩, same.dupList, same.initPeerTsn⟩
  next := fun same => ⟨same.record.trans ⟨rfl, rfl, rfl, rfl, rfl⟩, same.dupList, same.initPeerTsn⟩

theorem storeChunk_untouched {dataChunk : SCTPDataChunk} :
    Yields (a.storeChunk dataChunk) fun r => Untouched a r.2 := by
  unfold storeChunk
  refine .ite (yields_ite (fun known => ?_) fun _ => .error) (.ok (.refl a))
  refine .after fun r => ?_
  have same : ∀ q, SameRecord a.state
      { a.state with newChunkReceived := false, queuedRcvBytes := q } :=
    fun q => ⟨rfl, rfl, rfl, rfl, rfl⟩
  refine .ite (.ok ?_) (.ok ⟨same _, List.Subset.refl _, rfl⟩)
  split_ifs
  · exact (kept_untouched a).putInDeliveryQ known ⟨same _, List.Subset.refl _, rfl⟩
  · exact ⟨same _, List.Subset.refl _, rfl⟩

end SCTPReceiver

structure Watched where
  receiver : SCTPReceiver
  arrived : List UInt32

def RcvEvent.tsns : RcvEvent → List UInt32
  | .data dataChunk => [dataChunk.tsn]
  | _ => []

namespace Watched

variable (w : Watched)

def Next (e : RcvEvent) (w' : Watched) : Prop :=
  w.receiver.handle e = .ok w'.receiver ∧ w'.arrived = e.tsns ++ w.arrived

/-- The place of a TSN, counted from 1 for the initial TSN. -/
def place (tsn : UInt32) : Nat := ahead (w.receiver.initPeerTsn - 1) tsn

def Acknowledges (tsn : UInt32) : Prop :=
  let s := w.receiver.state
  (0 < w.place tsn ∧ w.place tsn ≤ w.place s.cTsnAck) ∨
    ∃ i < s.numGaps, w.place (s.gapStartList i) ≤ w.place tsn ∧
    w.place tsn ≤ w.place (s.gapStopList i)

/-- What is acknowledged is what has arrived, in blocks that are in order and apart. -/
structure ReportsArrived (w : Watched) : Prop where
  exact_set : ∀ tsn, w.Acknowledges tsn ↔ tsn ∈ w.arrived
  blocks : ∀ i < w.receiver.state.numGaps,
    w.place (w.receiver.state.gapStartList i) ≤ w.place (w.receiver.state.gapStopList i)
  apart : ∀ i, i + 1 < w.receiver.state.numGaps →
    w.place (w.receiver.state.gapStopList i) + 1 < w.place (w.receiver.state.gapStartList (i + 1))
  above : 0 < w.receiver.state.numGaps →
    w.place w.receiver.state.cTsnAck + 1 < w.place (w.receiver.state.gapStartList 0)

/-- In a window from the initial TSN, with room in the buffer and in the arrays. -/
def InScope (window : Nat) (w : Watched) : RcvEvent → Prop
  | .data dataChunk =>
    ahead w.receiver.initPeerTsn dataChunk.tsn < window ∧
      w.receiver.state.queuedRcvBytes < w.receiver.state.localRwnd ∧
      w.receiver.state.numGaps < MAX_GAP_COUNT - 1
  | _ => True

/-- No block starts at TSN 0 when a chunk arrives, and the buffer is smaller than 2 GiB. -/
def ZeroFree : RcvEvent → Prop
  | .data _ =>
    (∀ i < w.receiver.state.numGaps, w.receiver.state.gapStartList i ≠ 0) ∧
      w.receiver.state.localRwnd.toNat < 2 ^ 31
  | _ => True

instance (window : Nat) (w : Watched) (e : RcvEvent) : Decidable (w.InScope window e) :=
  match e with
  | .data _ => inferInstanceAs (Decidable (_ ∧ _ ∧ _))
  | .receive | .sendSack | .peerSack _ => .isTrue trivial

instance (e : RcvEvent) : Decidable (w.ZeroFree e) :=
  match e with
  | .data _ => inferInstanceAs (Decidable (_ ∧ _))
  | .receive | .sendSack | .peerSack _ => .isTrue trivial

structure Inv (w : Watched) : Prop where
  tidy : w.receiver.state.Tidy (w.receiver.initPeerTsn - 1)
  exact_set : ∀ tsn, (0 < w.place tsn ∧
    w.receiver.state.Reported (w.receiver.initPeerTsn - 1) (w.place tsn)) ↔ tsn ∈ w.arrived
  dups : w.receiver.state.dupList ⊆ w.arrived
  receiving : w.receiver.state.stopReceiving = false

variable {w w' : Watched}

theorem Inv.reportsArrived (inv : Inv w) : ReportsArrived w where
  exact_set := by
    intro tsn
    rw [← inv.exact_set]
    constructor
    · rintro (⟨pos, low⟩ | ⟨i, less, between⟩)
      · exact ⟨pos, 0, Nat.succ_pos _, Nat.zero_le _, low⟩
      · have above := inv.tidy.spaced.lt (Nat.succ_pos i) (Nat.succ_lt_succ less)
        exact ⟨Nat.lt_of_lt_of_le (by simp only [starts] at above; unfold place; omega) between.1,
          i + 1, Nat.succ_lt_succ less, between⟩
    · rintro ⟨pos, i, less, between⟩
      cases i with
      | zero => exact .inl ⟨pos, between.2⟩
      | succ i => exact .inr ⟨i, Nat.lt_of_succ_lt_succ less, between⟩
  blocks := fun i less => inv.tidy.spaced.order (i + 1) (Nat.succ_lt_succ less)
  apart := fun i less => inv.tidy.spaced.apart (i + 1) (Nat.succ_lt_succ less)
  above := fun pos => inv.tidy.spaced.apart 0 (Nat.succ_lt_succ pos)

theorem Inv.same_record (inv : Inv w) (same : SameRecord w.receiver.state w'.receiver.state)
    (init : w'.receiver.initPeerTsn = w.receiver.initPeerTsn)
    (arrived : ∀ tsn, tsn ∈ w'.arrived ↔ tsn ∈ w.arrived)
    (dups : w'.receiver.state.dupList ⊆ w'.arrived) : Inv w' where
  tidy := init ▸ same.tidy inv.tidy
  exact_set := by
    intro tsn
    rw [arrived, ← inv.exact_set, place, place, init, same.reported_iff]
  dups := dups
  receiving := same.stopReceiving.trans inv.receiving

theorem Inv.untouched (inv : Inv w) (same : SCTPReceiver.Untouched w.receiver w'.receiver)
    (arrived : w'.arrived = w.arrived) : Inv w' :=
  inv.same_record same.record same.initPeerTsn (fun tsn => by rw [arrived])
    (arrived ▸ List.Subset.trans same.dupList inv.dups)

theorem addDuplicate_subset (s : SCTPRcvState) (tsn : UInt32) :
    (s.addDuplicate tsn).dupList ⊆ tsn :: s.dupList := by
  intro x member
  have kept := (destutter_sublist (· ≠ ·) (s.dupList ++ [tsn])).subset member
  rcases mem_append.mp kept with old | new
  · exact mem_cons_of_mem _ old
  · exact mem_cons.mpr (.inl (mem_singleton.mp new))

variable {tsn : UInt32} {s : SCTPRcvState}

theorem Inv.again (inv : Inv w) (before : tsn ∈ w.arrived)
    (same : SameRecord w.receiver.state s) (dups : s.dupList = w.receiver.state.dupList) :
    Inv ⟨{ w.receiver with state := s.addDuplicate tsn }, tsn :: w.arrived⟩ := by
  refine inv.same_record (same.trans ⟨rfl, rfl, rfl, rfl, rfl⟩) rfl (fun x => ?_) ?_
  · exact ⟨fun member => (mem_cons.mp member).elim (fun new => new ▸ before) id, mem_cons_of_mem _⟩
  · refine List.Subset.trans (addDuplicate_subset s tsn) (cons_subset_cons _ ?_)
    exact dups ▸ inv.dups

theorem windowFull_eq_false (free : s.queuedRcvBytes < s.localRwnd)
    (small : s.localRwnd.toNat < 2 ^ 31) : s.windowFull = false := by
  rw [UInt64.lt_iff_toNat_lt] at free
  rw [windowFull_eq small (by omega)]
  exact decide_eq_false (Nat.not_le.mpr free)

variable {window : Nat}

theorem place_of_window (half : window < 2 ^ 31)
    (inside : ahead w.receiver.initPeerTsn tsn < window) :
    0 < w.place tsn ∧ w.place tsn < 2 ^ 31 := by
  have first : ahead (w.receiver.initPeerTsn - 1) w.receiver.initPeerTsn = 1 := by
    simp [ahead]
  have next := @ahead_trans (w.receiver.initPeerTsn - 1) w.receiver.initPeerTsn tsn (by omega)
  unfold place
  omega

theorem Inv.new (inv : Inv w) (pos : 0 < w.place tsn) {s' : SCTPRcvState}
    (records : SCTPRcvState.Records (w.receiver.initPeerTsn - 1) tsn s s')
    (same : SameRecord w.receiver.state s) (dups : s.dupList = w.receiver.state.dupList)
    (stored : SCTPReceiver.Untouched { w.receiver with state := s' } w'.receiver)
    (arrived : w'.arrived = tsn :: w.arrived) : Inv w' where
  tidy := stored.initPeerTsn ▸ stored.record.tidy records.tidy
  exact_set := by
    intro x
    rw [arrived, mem_cons, ← inv.exact_set, place, stored.initPeerTsn, stored.record.reported_iff,
      records.adds, same.reported_iff, ahead_inj]
    change 0 < w.place x ∧ _ ↔ _
    constructor
    · rintro ⟨pos, rfl | before⟩
      · exact .inl rfl
      · exact .inr ⟨pos, before⟩
    · rintro (rfl | ⟨pos, before⟩)
      · exact ⟨pos, .inl rfl⟩
      · exact ⟨pos, .inr before⟩
  dups := by
    have kept : s'.dupList = s.dupList := by rw [records.frame]
    rw [arrived]
    exact List.Subset.trans stored.dupList ((kept.trans dups) ▸ subset_cons_of_subset _ inv.dups)
  receiving := by
    have kept : s'.stopReceiving = s.stopReceiving := by rw [records.frame]
    exact stored.record.stopReceiving.trans (kept.trans (same.stopReceiving.trans inv.receiving))

theorem Inv.data (half : window < 2 ^ 31) (inv : Inv w) {dataChunk : SCTPDataChunk}
    (scope : InScope window w (.data dataChunk)) (zeroFree : ZeroFree w (.data dataChunk)) :
    Yields (w.receiver.processDataArrived dataChunk) fun r =>
    Inv ⟨r.2, dataChunk.tsn :: w.arrived⟩ := by
  obtain ⟨inside, free, -⟩ := scope
  obtain ⟨nonzero, small⟩ := zeroFree
  obtain ⟨pos, near⟩ := place_of_window half inside
  let s := setHighestTsnReceived { w.receiver.state with newChunkReceived := false }
  have same : SameRecord w.receiver.state s := ⟨rfl, rfl, rfl, rfl, rfl⟩
  have tidy : s.Tidy (w.receiver.initPeerTsn - 1) := same.tidy inv.tidy
  have highest : ahead (w.receiver.initPeerTsn - 1) s.highestTsnReceived =
      s.stops (w.receiver.initPeerTsn - 1) s.numGaps := setHighestTsnReceived_ahead _
  have low := tidy.stop_near (Nat.zero_le s.numGaps)
  have top := tidy.stop_near (le_refl s.numGaps)
  have full : s.windowFull = false := windowFull_eq_false (s := w.receiver.state) free small
  have buffer : SCTPReceiver.checkBuffer dataChunk { w.receiver with state := s } =
      .ok (true, { w.receiver with state := s }) := if_neg (by simp [full])
  have later :=
    @tsnGt_iff (w.receiver.initPeerTsn - 1) dataChunk.tsn s.highestTsnReceived near (highest ▸ top)
  have oldest := @tsnLe_iff (w.receiver.initPeerTsn - 1) dataChunk.tsn s.cTsnAck near low
  unfold SCTPReceiver.processDataArrived
  refine yields_ite (fun stop => ?_) fun _ => yields_ite (fun old => ?_) fun beyond => ?_
  · exact absurd (inv.receiving.symm.trans stop) Bool.false_ne_true
  · have known := (inv.exact_set _).mp ⟨pos, 0, Nat.succ_pos _, Nat.zero_le _, oldest.mp old⟩
    exact .ok (inv.again known same rfl)
  · have above : s.stops (w.receiver.initPeerTsn - 1) 0 < w.place dataChunk.tsn :=
      Nat.lt_of_not_le (mt oldest.mpr beyond)
    change Yields (SCTPReceiver.checkBuffer dataChunk { w.receiver with state := s } >>= _) _
    rw [buffer]
    change Yields (s.recordTsn w.receiver.initPeerTsn dataChunk.tsn >>= _) _
    by_cases reported : s.Reported (w.receiver.initPeerTsn - 1) (w.place dataChunk.tsn)
    · have known := (inv.exact_set dataChunk.tsn).mp ⟨pos, same.reported_iff.mp reported⟩
      have reached := tidy.spaced.le_last reported
      have again : s.recordTsn w.receiver.initPeerTsn dataChunk.tsn =
          .ok (false, s.addDuplicate dataChunk.tsn) := by
        rw [recordTsn, if_neg (by rw [later]; exact not_lt.mpr (highest ▸ reached)),
          if_pos ((tsnIsDuplicate_iff tidy above).mpr (.inr reported))]
      rw [again]
      exact .ok (inv.again known same rfl)
    · have unseen : dataChunk.tsn ∉ w.arrived := fun known =>
        reported (same.reported_iff.mpr ((inv.exact_set _).mpr known).2)
      have initial : tsnGt dataChunk.tsn s.highestTsnReceived = true → dataChunk.tsn =
          w.receiver.initPeerTsn → s.numGaps = 0 ∧ dataChunk.tsn = s.cTsnAck + 1 := by
        intro highest' first
        have one : w.place dataChunk.tsn = 1 := by simp [place, first, ahead]
        have none : s.stops (w.receiver.initPeerTsn - 1) s.numGaps < 1 :=
          one ▸ highest ▸ later.mp highest'
        have count : s.numGaps = 0 := by
          by_contra some
          have apart := tidy.spaced.lt (Nat.pos_of_ne_zero some) (Nat.lt_succ_self _)
          have order := tidy.spaced.order s.numGaps (Nat.lt_succ_self _)
          omega
        rw [count, Nat.lt_one_iff] at none
        exact ⟨count, by rw [first, ahead_eq_zero_iff.mp none, sub_add_cancel]⟩
      refine .bind (recordTsn_records tidy near nonzero reported (.inl full)
        (fun _ listed => unseen (inv.dups listed)) initial) ?_
      rintro ⟨goes, s'⟩ ⟨rfl, received, stored, records⟩
      refine SCTPReceiver.storeChunk_untouched.mono fun r untouched => ?_
      exact inv.new pos records (same.trans ⟨rfl, rfl, rfl, rfl, rfl⟩) rfl untouched rfl

theorem Inv.step (half : window < 2 ^ 31) {e : RcvEvent} (inv : Inv w)
    (meets : InScope window w e ∧ ZeroFree w e) (next : Next w e w') : Inv w' := by
  obtain ⟨a, arrived⟩ := w'
  obtain ⟨done, rfl⟩ := next
  cases e with
  | data dataChunk =>
    obtain ⟨r, ran, rfl⟩ := map_eq_ok done
    exact inv.data half meets.1 meets.2 r ran
  | receive =>
    exact inv.untouched ((SCTPReceiver.kept_untouched w.receiver).pushUlp (.refl _) a done) rfl
  | sendSack =>
    cases done
    have sack := createSack_record w.receiver.pmtu w.receiver.state
    exact inv.untouched ⟨sack.1, sack.2, rfl⟩ rfl
  | peerSack tsna =>
    cases done
    exact inv.untouched ⟨⟨rfl, rfl, rfl, rfl, rfl⟩, List.Subset.refl _, rfl⟩ rfl

theorem Inv.start (initPeerTsn : UInt32) (inboundStreams : Nat) (localRwnd : UInt64)
    (messagesToPush swsLimit assocPmtu pmtu : UInt32) :
    Inv ⟨.start initPeerTsn inboundStreams localRwnd messagesToPush swsLimit assocPmtu pmtu,
      []⟩ := by
  refine ⟨SCTPReceiver.start_tidy, fun tsn => ⟨fun ⟨pos, reported⟩ => ?_, nofun⟩, nil_subset _, rfl⟩
  exact absurd (SCTPReceiver.start_reported.mp reported) (Nat.pos_iff_ne_zero.mp pos)

end Watched

/-- The acknowledged TSNs are those that arrived, as long as no block starts at TSN 0 when a chunk
arrives. -/
theorem arrivals_reported (window : Nat) (half : window < 2 ^ 31) (initPeerTsn : UInt32)
    (inboundStreams : Nat) (localRwnd : UInt64) (messagesToPush swsLimit assocPmtu pmtu : UInt32)
    (es : List RcvEvent)
    (each : Each Watched.Next (fun w e => w.InScope window e ∧ w.ZeroFree e)
      ⟨.start initPeerTsn inboundStreams localRwnd messagesToPush swsLimit assocPmtu pmtu, []⟩ es) :
    Always Watched.Next Watched.ReportsArrived
      ⟨.start initPeerTsn inboundStreams localRwnd messagesToPush swsLimit assocPmtu pmtu,
        []⟩ es := by
  apply always_of_each _ _ (Watched.Inv.start ..) each
  · exact fun w e w' inv meets next => inv.step half meets next
  · exact fun w inv => inv.reportsArrived

def Watched.after (w : Watched) (e : RcvEvent) : Watched :=
  ⟨(w.receiver.handle e).toOption.getD w.receiver, e.tsns ++ w.arrived⟩

theorem Watched.Next.eq_after {w w' : Watched} {e : RcvEvent} (next : w.Next e w') :
    w.after e = w' := by
  obtain ⟨a, arrived⟩ := w'
  obtain ⟨done, rfl⟩ := next
  rw [Watched.after, done]
  rfl

theorem Watched.next_after {w : Watched} {e : RcvEvent}
    (ran : (w.receiver.handle e).toOption.isSome = true) : w.Next e (w.after e) := by
  obtain ⟨a, found⟩ := Option.isSome_iff_exists.mp ran
  refine ⟨?_, rfl⟩
  rw [Watched.after, eq_ok_of_toOption found]
  rfl

def oneByte (tsn : UInt32) (ssn : UInt16) : SCTPDataChunk where
  eBit := true
  bBit := true
  uBit := false
  tsn := tsn
  sid := 0
  ssn := ssn
  ppid := 0
  userData := ⟨1, [7], 1⟩

theorem arrivals_reported_three :
    Always Watched.Next Watched.ReportsArrived ⟨.start 1 1 65536 0 0 1500 1500, []⟩
      [.data (oneByte 3 2), .data (oneByte 1 0), .receive, .data (oneByte 2 1)] := by
  apply arrivals_reported 4 (by norm_num)
  iterate 4 refine .cons (fun _ next => next.eq_after) (by decide) ?_
  trivial

/-- With the initial TSN 2 below the wrap, TSNs 0 and 1 end up in two blocks that touch. -/
theorem arrivals_not_reported : ¬ ∀ window < 2 ^ 31, ∀ (initPeerTsn : UInt32) (inboundStreams : Nat)
    (localRwnd : UInt64) (messagesToPush swsLimit assocPmtu pmtu : UInt32) (es : List RcvEvent),
    Each Watched.Next (fun w e => w.InScope window e)
      ⟨.start initPeerTsn inboundStreams localRwnd messagesToPush swsLimit assocPmtu pmtu, []⟩ es →
    Always Watched.Next Watched.ReportsArrived
      ⟨.start initPeerTsn inboundStreams localRwnd messagesToPush swsLimit assocPmtu pmtu,
        []⟩ es := by
  intro all
  have along := all 4 (by norm_num) 0xFFFFFFFE 1 65536 0 0 1500 1500 [.data (oneByte 0 2),
    .data (oneByte 1 3)] ?_
  · have reports :=
      (along.2 _ (Watched.next_after (by decide))).2 _ (Watched.next_after (by decide))
    have apart := reports.apart 0 (by decide)
    revert apart
    decide
  · iterate 2 refine .cons (fun _ next => next.eq_after) (by decide) ?_
    trivial

end Srwsn
