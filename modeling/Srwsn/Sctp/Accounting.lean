import Srwsn.Sctp.GapBound

/-! The count of bytes in the receive buffer. -/
namespace Srwsn

open Outcome Trace SCTPReceiver KeyMap

namespace SCTPReceiver

def storedBytes (a : SCTPReceiver) : Nat := a.total fun v => (v.len / 8).toNat

/-- The counter is the number of bytes stored, and the window in a SACK is what they leave. -/
structure CountsStored (a : SCTPReceiver) : Prop where
  counter : a.state.queuedRcvBytes.toNat = a.storedBytes
  queued : a.getQueuedBytes.toInt = a.storedBytes
  window : a.state.localRwnd.toNat < 2 ^ 31 →
    (a.state.createSack a.pmtu).1.a_rwnd.toNat = if a.state.localRwnd.toNat ≤ a.storedBytes then 0
    else if a.state.localRwnd.toNat - a.storedBytes < a.state.swsLimit.toNat ∨
      a.state.swsAvoidanceInvoked then 1
    else a.state.localRwnd.toNat - a.storedBytes

/-- The tests of `processDataArrived` do not take the TSN for one that has been received. -/
def passes (a : SCTPReceiver) (tsn : UInt32) : Bool :=
  !tsnLe tsn a.state.cTsnAck &&
    (tsnGt tsn a.state.setHighestTsnReceived.highestTsnReceived || !a.state.tsnIsDuplicate tsn)

def LengthsMatch : RcvEvent → Prop
  | .data dataChunk => dataChunk.userData.dataLen.toNat = dataChunk.userData.byteLength
  | _ => True

/-- A chunk that passes has a TSN that is in no queue of its stream, less than 512 MiB are stored,
and no array is too short. -/
def TakesNew (a : SCTPReceiver) : RcvEvent → Prop
  | .data dataChunk =>
    (a.passes dataChunk.tsn = true → (a.receiveStreams dataChunk.sid.toNat).Fresh dataChunk.tsn) ∧
      a.state.queuedRcvBytes.toNat + dataChunk.userData.byteLength < 2 ^ 29 ∧
      a.Bounded dataChunk.tsn
  | .receive => a.inboundStreams ≤ 100
  | _ => True

def bits (v : SCTPDataVariables) : Nat := v.len.toNat

theorem additive_bits : Additive bits (· < 2 ^ 32) where
  append := by
    intro v v' v'' appended fits
    obtain ⟨len, -⟩ := SCTPDataVariables.append_eq_ok appended
    simp only [bits, len, UInt32.toNat_add] at fits ⊢
    omega
  finish := fun _ => rfl
  part := fun fits => by omega

def WholeBytes (v : SCTPDataVariables) : Prop := 8 ∣ v.len.toNat

theorem closed_wholeBytes : Closed WholeBytes where
  append := by
    intro v v' v'' here there appended
    obtain ⟨len, -⟩ := SCTPDataVariables.append_eq_ok appended
    simp only [WholeBytes, len, UInt32.toNat_add] at here there ⊢
    omega
  finish := id

variable {v : SCTPDataVariables}

theorem bits_of_wholeBytes (whole : WholeBytes v) : bits v = 8 * (v.len / 8).toNat := by
  obtain ⟨n, here⟩ := whole
  simp only [bits, UInt32.toNat_div, UInt32.reduceToNat, here]
  omega

theorem queue_bits {q : SCTPQueue} (whole : q.All WholeBytes) :
    KeyMap.total bits q = 8 * KeyMap.total (fun v => (v.len / 8).toNat) q := by
  unfold KeyMap.total
  rw [← List.sum_map_mul_left]
  refine congrArg List.sum (List.map_congr_left fun e member => ?_)
  exact bits_of_wholeBytes (whole e.1 e.2 (find?_eq_some_iff.mpr member))

theorem total_bits {a : SCTPReceiver} (whole : a.AllStored fun _ => WholeBytes) :
    a.total bits = 8 * a.storedBytes := by
  unfold storedBytes total
  rw [Finset.mul_sum]
  refine Finset.sum_congr rfl fun sid _ => ?_
  simp only [SCTPReceiveStream.total, queue_bits (whole sid).orderedQ,
    queue_bits (whole sid).unorderedQ, queue_bits (whole sid).deliveryQ]
  omega

theorem foldl_ofNat {α : Type*} {g : Int32 → α → Int32} {f : α → Nat}
    (step : ∀ n e, g (Int32.ofNat n) e = Int32.ofNat (n + f e)) (l : List α) (n : Nat) :
    l.foldl g (Int32.ofNat n) = Int32.ofNat (n + (l.map f).sum) := by
  induction l generalizing n with
  | nil => simp
  | cons e l ih => rw [List.foldl_cons, step, ih, List.map_cons, List.sum_cons, Nat.add_assoc]

theorem getNumBytes_eq (q : SCTPQueue) :
    q.getNumBytes = Int32.ofNat (KeyMap.total (fun v => (v.len / 8).toNat) q) := by
  have bytes : ∀ x : UInt32, x.toInt32 = Int32.ofNat x.toNat :=
    fun x => Int32.toBitVec_inj.mp (by simp)
  refine (foldl_ofNat (fun n e => ?_) q.entries 0).trans (by rw [Nat.zero_add]; rfl)
  rw [bytes, Int32.ofNat_add]

theorem getQueuedBytes_eq (a : SCTPReceiver) : a.getQueuedBytes = Int32.ofNat a.storedBytes := by
  refine (foldl_ofNat (f := fun sid => (a.receiveStreams sid).total fun v => (v.len / 8).toNat)
    (fun n sid => ?_) (List.range a.inboundStreams) 0).trans ?_
  · simp only [getNumBytes_eq, SCTPReceiveStream.total, Int32.ofNat_add]
    ac_rfl
  · rw [Nat.zero_add]
    rfl

variable {s : SCTPRcvState}

theorem createSack_a_rwnd (half : s.localRwnd.toNat < 2 ^ 31)
    (queued : s.queuedRcvBytes.toNat < 2 ^ 31) (pmtu : UInt32) :
    (s.createSack pmtu).1.a_rwnd.toNat =
      if s.localRwnd.toNat ≤ s.queuedRcvBytes.toNat then 0
      else if s.localRwnd.toNat - s.queuedRcvBytes.toNat < s.swsLimit.toNat ∨
        s.swsAvoidanceInvoked then 1
      else s.localRwnd.toNat - s.queuedRcvBytes.toNat := by
  dsimp only [SCTPRcvState.createSack]
  rw [SCTPRcvState.windowFull_eq half queued]
  by_cases full : s.localRwnd.toNat ≤ s.queuedRcvBytes.toNat
  · simp [full]
  · have free : (s.localRwnd - s.queuedRcvBytes).toNat =
        s.localRwnd.toNat - s.queuedRcvBytes.toNat :=
      UInt64.toNat_sub_of_le _ _ (UInt64.le_iff_toNat_le.mpr (by omega))
    have limit : s.localRwnd - s.queuedRcvBytes < s.swsLimit.toUInt64 ↔
        s.localRwnd.toNat - s.queuedRcvBytes.toNat < s.swsLimit.toNat := by
      rw [UInt64.lt_iff_toNat_lt, free, UInt32.toNat_toUInt64]
    simp only [full, decide_false, Bool.false_eq_true, if_false, limit]
    split_ifs
    · rfl
    · rw [UInt64.toNat_toUInt32, free]
      omega

structure Counted (a : SCTPReceiver) : Prop where
  keyed : a.Keyed
  whole : a.AllStored fun _ => WholeBytes
  counter : 8 * a.state.queuedRcvBytes.toNat = a.total bits
  small : a.total bits < 2 ^ 32

variable {a a' : SCTPReceiver}

theorem Counted.countsStored (counted : a.Counted) : a.CountsStored := by
  have total := total_bits counted.whole
  have counter := counted.counter
  have small := counted.small
  have same : a.state.queuedRcvBytes.toNat = a.storedBytes := by omega
  refine ⟨same, ?_, fun half => ?_⟩
  · rw [getQueuedBytes_eq, Int32.toInt_ofNat_of_lt (by omega)]
  · rw [createSack_a_rwnd half (by omega), same]

theorem Counted.remove (counted : a.Counted) (keyed : a'.Keyed)
    (whole : a'.AllStored fun _ => WholeBytes) (here : WholeBytes v)
    (total : a.total bits = bits v + a'.total bits)
    (queued : a'.state.queuedRcvBytes = a.state.queuedRcvBytes - (v.len / 8).toUInt64) :
    a'.Counted := by
  have counter := counted.counter
  have small := counted.small
  have bytes := bits_of_wholeBytes here
  have less : (v.len / 8).toUInt64 ≤ a.state.queuedRcvBytes := by
    rw [UInt64.le_iff_toNat_le, UInt32.toNat_toUInt64]
    omega
  refine ⟨keyed, whole, ?_, by omega⟩
  rw [queued, UInt64.toNat_sub_of_le _ _ less, UInt32.toNat_toUInt64]
  omega

theorem kept_counted : Kept Counted where
  put := by
    intro sid a a' known counted put
    obtain ⟨keyed, total, -, queued, -⟩ := counted.keyed.putNext (w := bits) known put
    refine ⟨keyed, counted.whole.putNext put, ?_, total ▸ counted.small⟩
    rw [queued, total]
    exact counted.counter
  push := by
    intro count sid a chunk q known counted extracted a' pushed
    obtain ⟨here, all⟩ := counted.whole.pushMessage count extracted
    obtain ⟨keyed, total, -, queued⟩ :=
      counted.keyed.pushMessage (w := bits) known extracted a' pushed
    exact counted.remove keyed (all a' pushed) here total queued
  limit := fun counted => ⟨counted.keyed, counted.whole, counted.counter, counted.small⟩
  next := fun counted => ⟨counted.keyed, counted.whole, counted.counter, counted.small⟩

theorem Counted.withState (counted : a.Counted) (same : SameBuffer a.state s) :
    Counted { a with state := s } :=
  ⟨counted.keyed, counted.whole, same.queuedRcvBytes ▸ counted.counter, counted.small⟩

theorem Counted.reclaim (counted : a.Counted) {tsn high : UInt32} {uBit : Bool}
    {found : Nat × Bool × SCTPDataVariables} (stored : a.findStored uBit high = some found) :
    Yields (a.reclaim tsn high uBit found) Counted := by
  intro a' done
  obtain ⟨keyed, total, queued, -⟩ := counted.keyed.reclaim (w := bits) stored a' done
  obtain ⟨here, all⟩ := counted.whole.reclaim tsn stored
  exact counted.remove keyed (all a' done) here total queued

theorem le_last (high : UInt32) : high ≤ 0xFFFFFFFF := by
  have bound := high.toNat_lt
  rw [UInt32.le_iff_toNat_le]
  simp only [UInt32.reduceToNat]
  omega

/-- What making room keeps for the chunk that arrives. -/
structure Awaits (dataChunk : SCTPDataChunk) (a : SCTPReceiver) : Prop where
  counted : a.Counted
  fresh : (a.receiveStreams dataChunk.sid.toNat).Fresh dataChunk.tsn
  room : a.state.queuedRcvBytes.toNat + dataChunk.userData.byteLength < 2 ^ 29

variable {dataChunk : SCTPDataChunk}

theorem Awaits.checkBuffer (awaits : a.Awaits dataChunk) :
    Yields (a.checkBuffer dataChunk) fun r => r.2.Awaits dataChunk := by
  unfold SCTPReceiver.checkBuffer
  refine .ite (.ite (.ok awaits) (.ite ?_ (.ok awaits))) (.ok awaits)
  refine makeRoomRounds_kept (I := Awaits dataChunk) (.inr le_last) ?_ ?_ _ (le_last _) awaits
  · intro b high found awaits _ _ stored b' done
    obtain ⟨-, total, -, still⟩ := awaits.counted.keyed.reclaim (w := bits) stored b' done
    have counted := awaits.counted.reclaim stored b' done
    have before := awaits.counted.counter
    have after := counted.counter
    have room := awaits.room
    exact ⟨counted, still _ dataChunk.tsn awaits.fresh, by omega⟩
  · exact fun high awaits => ⟨awaits.counted.withState ⟨rfl, rfl⟩, awaits.fresh, awaits.room⟩

theorem Awaits.storeChunk (awaits : a.Awaits dataChunk)
    (lengths : dataChunk.userData.dataLen.toNat = dataChunk.userData.byteLength) :
    Yields (a.storeChunk dataChunk) fun r => r.2.Counted := by
  obtain ⟨counted, fresh, room⟩ := awaits
  unfold SCTPReceiver.storeChunk
  refine .ite (yields_ite (fun known => ?_) fun _ => .error) (.ok counted)
  have length : bits dataChunk.makeVarFromMsg = 8 * dataChunk.userData.byteLength := by
    simp only [bits, SCTPDataChunk.makeVarFromMsg, UInt32.toNat_mul, UInt32.reduceToNat]
    omega
  obtain ⟨others, before, after⟩ := total_split bits known
  have counter := counted.counter
  have small : bits dataChunk.makeVarFromMsg + (a.receiveStreams dataChunk.sid.toNat).total bits <
    2 ^ 32 := by omega
  refine .bind (P := fun r => SCTPReceiveStream.Enqueued bits (a.receiveStreams dataChunk.sid.toNat)
    dataChunk.makeVarFromMsg r ∧ r.2.All WholeBytes) ?_ fun r' both => ?_
  · intro r' enqueued
    refine ⟨(counted.keyed dataChunk.sid.toNat).enqueue fresh additive_bits small r' enqueued, ?_⟩
    exact (counted.whole dataChunk.sid.toNat).enqueue closed_wholeBytes ⟨_, length⟩ r' enqueued
  · obtain ⟨enqueued, whole⟩ := both
    refine yields_ite (fun _ => .ok ?_) fun none => absurd enqueued.stored none
    have counted' : ∀ s : SCTPRcvState, s.queuedRcvBytes = a.state.queuedRcvBytes +
        (UInt32.ofNat dataChunk.userData.byteLength).toUInt64 →
        Counted { a.setStream dataChunk.sid.toNat r'.2 with state := s } := by
      intro s queued
      have total : (a.setStream dataChunk.sid.toNat r'.2).total bits =
          8 * dataChunk.userData.byteLength + a.total bits := by
        rw [after, enqueued.total, before, length, add_assoc]
      refine ⟨counted.keyed.setStream enqueued.keyed _, counted.whole.update rfl whole, ?_, ?_⟩
      · refine Eq.trans ?_ total.symm
        rw [queued, UInt64.toNat_add, UInt32.toNat_toUInt64, UInt32.toNat_ofNat']
        omega
      · refine lt_of_eq_of_lt total ?_
        omega
    split_ifs
    · exact kept_counted.putInDeliveryQ known (counted' _ rfl)
    · exact counted' _ rfl

theorem checkBuffer_again (below : tsnGt dataChunk.tsn a.state.highestTsnReceived = false)
    (duplicate : a.state.tsnIsDuplicate dataChunk.tsn = true) :
    a.checkBuffer dataChunk = .ok (true, a) := by
  simp [checkBuffer, below, duplicate]

theorem recordTsn_again {initPeerTsn tsn : UInt32} (below : tsnGt tsn s.highestTsnReceived = false)
    (duplicate : s.tsnIsDuplicate tsn = true) :
    s.recordTsn initPeerTsn tsn = .ok (false, s.addDuplicate tsn) := by
  simp [SCTPRcvState.recordTsn, below, duplicate]

theorem processDataArrived_again (again : a.passes dataChunk.tsn = false) :
    Yields (a.processDataArrived dataChunk) fun r => ∃ s, r.2 = { a with state := s } ∧
      SameRecord a.state s ∧ s.queuedRcvBytes = a.state.queuedRcvBytes := by
  unfold processDataArrived
  refine .ite (.ok ⟨_, rfl, ⟨rfl, rfl, rfl, rfl, rfl⟩, rfl⟩) (yields_ite
    (fun _ => .ok ⟨_, rfl, ⟨rfl, rfl, rfl, rfl, rfl⟩, rfl⟩) fun new => ?_)
  have new' : tsnLe dataChunk.tsn a.state.cTsnAck = false := Bool.eq_false_of_not_eq_true new
  simp only [passes, new', Bool.not_false, Bool.true_and, Bool.or_eq_false_iff, Bool.not_eq_false']
    at again
  obtain ⟨below, duplicate⟩ := again
  refine .bind (P := fun r => r = (true, { a with
    state := { a.state with newChunkReceived := false }.setHighestTsnReceived }))
      (fun r done => ?_) ?_
  · exact Except.ok.inj (done.symm.trans (checkBuffer_again below duplicate))
  · rintro r rfl
    refine yields_ite (fun _ => .bind (P := fun r => r = (false, SCTPRcvState.addDuplicate
      { a.state with newChunkReceived := false }.setHighestTsnReceived dataChunk.tsn))
      (fun r done => ?_) ?_) fun no => ?_
    · exact Except.ok.inj (done.symm.trans (recordTsn_again below duplicate))
    · rintro r rfl
      exact .ok ⟨_, rfl, ⟨rfl, rfl, rfl, rfl, rfl⟩, rfl⟩
    · exact absurd rfl no

theorem Counted.data (counted : a.Counted) (lengths : LengthsMatch (.data dataChunk))
    (takes : a.TakesNew (.data dataChunk)) :
    Yields (a.processDataArrived dataChunk) fun r => r.2.Counted := by
  cases again : a.passes dataChunk.tsn with
  | false =>
    refine (processDataArrived_again again).mono ?_
    rintro r ⟨s, same, -, queued⟩
    rw [same]
    exact ⟨counted.keyed, counted.whole, queued ▸ counted.counter, counted.small⟩
  | true =>
    have awaits :
        Awaits dataChunk { a with
          state := { a.state with newChunkReceived := false }.setHighestTsnReceived } :=
      ⟨counted.withState ⟨rfl, rfl⟩, takes.1 again, takes.2.1⟩
    unfold processDataArrived
    refine .ite (.ok awaits.counted) (.ite (.ok ?_) ?_)
    · exact awaits.counted.withState ⟨rfl, rfl⟩
    · refine .bind awaits.checkBuffer fun room awaits' => .ite ?_ (.ok awaits'.counted)
      refine .bind SCTPRcvState.recordTsn_buffer fun recorded same => ?_
      have awaits'' : Awaits dataChunk { room.2 with state := recorded.2 } :=
        ⟨awaits'.counted.withState same, awaits'.fresh, same.queuedRcvBytes ▸ awaits'.room⟩
      exact .ite (awaits''.storeChunk lengths) (.ok awaits''.counted)

theorem Counted.handle (counted : a.Counted) {e : RcvEvent} (lengths : LengthsMatch e)
    (takes : a.TakesNew e) : Yields (a.handle e) Counted := by
  cases e with
  | data dataChunk => exact (counted.data lengths takes).map
  | receive => exact kept_counted.pushUlp counted
  | sendSack => exact .ok (counted.withState ⟨rfl, rfl⟩)
  | peerSack tsna => exact .ok (counted.withState ⟨rfl, rfl⟩)

theorem Counted.inBounds (counted : a.Counted) {e : RcvEvent} (takes : a.TakesNew e) :
    a.handle e ≠ .error .arrayIndex := by
  cases e with
  | data dataChunk => exact (Averts.map (g := Prod.snd) (R := fun _ => True)
      (takes.2.2.processDataArrived counted.keyed)).1
  | receive => exact (pushUlp_inBounds takes).1
  | sendSack => nofun
  | peerSack tsna => nofun

theorem counted_start (initPeerTsn : UInt32) (inboundStreams : Nat) (localRwnd : UInt64)
    (messagesToPush swsLimit assocPmtu pmtu : UInt32) :
    Counted (start initPeerTsn inboundStreams localRwnd messagesToPush swsLimit assocPmtu
      pmtu) where
  keyed := fun sid => by constructor <;> simp [start, SCTPQueue.getVar, find?]
  whole := fun sid => by constructor <;> simp [start, SCTPQueue.All, SCTPQueue.getVar, find?]
  counter := by simp [start, total, SCTPReceiveStream.total, KeyMap.total]
  small := by simp [start, total, SCTPReceiveStream.total, KeyMap.total]

def Handles (a : SCTPReceiver) (e : RcvEvent) (a' : SCTPReceiver) : Prop := a.handle e = .ok a'

end SCTPReceiver

theorem buffer_counted {initPeerTsn : UInt32} {inboundStreams : Nat} {localRwnd : UInt64}
    {messagesToPush swsLimit assocPmtu pmtu : UInt32} {es : List RcvEvent}
    (each : Each Handles (fun a e => LengthsMatch e ∧ a.TakesNew e)
      (.start initPeerTsn inboundStreams localRwnd messagesToPush swsLimit assocPmtu pmtu) es) :
    Always Handles (fun a => a.CountsStored ∧ ∀ e, a.TakesNew e → a.handle e ≠ .error .arrayIndex)
      (.start initPeerTsn inboundStreams localRwnd messagesToPush swsLimit assocPmtu pmtu) es :=
  always_of_each (fun _ _ _ counted meets stepped => counted.handle meets.1 meets.2 _ stepped)
    (fun _ counted => ⟨counted.countsStored, fun _ => counted.inBounds⟩) (counted_start ..) each

def SCTPReceiver.after (a : SCTPReceiver) (e : RcvEvent) : SCTPReceiver :=
  (a.handle e).toOption.getD a

theorem SCTPReceiver.Handles.eq_after {a a' : SCTPReceiver} {e : RcvEvent} (next : a.Handles e a') :
    a.after e = a' := by
  rw [after, show a.handle e = .ok a' from next]
  rfl

instance (rStream : SCTPReceiveStream) (t : UInt32) : Decidable (rStream.Fresh t) :=
  decidable_of_iff (rStream.orderedQ.getVar t = none ∧ rStream.unorderedQ.getVar t = none ∧
    rStream.deliveryQ.getVar t = none) ⟨fun h => ⟨h.1, h.2.1, h.2.2⟩, fun h => ⟨h.1, h.2, h.3⟩⟩

instance (e : RcvEvent) : Decidable (LengthsMatch e) :=
  match e with
  | .data _ => inferInstanceAs (Decidable (_ = _))
  | .receive | .sendSack | .peerSack _ => .isTrue trivial

instance (a : SCTPReceiver) (tsn : UInt32) : Decidable (a.Bounded tsn) :=
  decidable_of_iff (a.state.numGaps + 1 < MAX_GAP_COUNT ∧
    (a.reclaims tsn = true → a.state.Apart ∧ a.state.numGaps + a.messages + 1 < MAX_GAP_COUNT))
    ⟨fun h => ⟨h.1, h.2⟩, fun h => ⟨h.1, h.2⟩⟩

instance (a : SCTPReceiver) (e : RcvEvent) : Decidable (a.TakesNew e) :=
  match e with
  | .data _ => inferInstanceAs (Decidable (_ ∧ _ ∧ _))
  | .receive => inferInstanceAs (Decidable (_ ≤ _))
  | .sendSack | .peerSack _ => .isTrue trivial

theorem buffer_counted_three : Always Handles
      (fun a => a.CountsStored ∧ ∀ e, a.TakesNew e → a.handle e ≠ .error .arrayIndex)
      (.start 1 1 65536 0 0 1500 1500)
      [.data (oneByte 2 1), .data (oneByte 1 0), .receive] := by
  apply buffer_counted
  iterate 3 refine .cons (fun _ next => next.eq_after) (by decide) ?_
  trivial

def firstByte (tsn : UInt32) (ssn : UInt16) : SCTPDataChunk :=
  { oneByte tsn ssn with eBit := false }

def fragmentTwice : List RcvEvent :=
  [.data (oneByte 0 1), .data (oneByte 2 3), .data (oneByte 0xFFFFFFFF 0), .data (oneByte 1 2),
    .data (firstByte 4 4), .data (firstByte 4 4)]

/-- Across TSN 0 a block stays behind in the list. A fragment that comes twice then is stored once
and counted twice. -/
theorem buffer_not_counted : ¬ ∀ (initPeerTsn : UInt32) (inboundStreams : Nat) (localRwnd : UInt64)
    (messagesToPush swsLimit assocPmtu pmtu : UInt32) (es : List RcvEvent),
    (∀ e ∈ es, LengthsMatch e) →
    Always Handles CountsStored
      (.start initPeerTsn inboundStreams localRwnd messagesToPush swsLimit assocPmtu pmtu) es := by
  intro all
  have along := all 0xFFFFFFFF 1 65536 0 0 1500 1500 fragmentTwice (by decide)
  have counts : (fragmentTwice.foldlM (fun (a : SCTPReceiver) e => (a.handle e).toOption)
      (.start 0xFFFFFFFF 1 65536 0 0 1500 1500)).map
        (fun a => (a.state.queuedRcvBytes.toNat, a.storedBytes)) = some (6, 5) := by decide +kernel
  obtain ⟨a, ran, same⟩ := Option.map_eq_some_iff.mp counts
  have counter := (along.last (fun _ _ _ => eq_ok_of_toOption) ran).counter
  rw [Prod.mk.injEq] at same
  omega

end Srwsn
