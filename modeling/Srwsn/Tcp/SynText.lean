import Srwsn.Tcp.Quiet

/-! The text of a SYN goes into the receive queue under the number of the SYN itself. -/
namespace Srwsn

open Outcome Serial

namespace Connection

variable {base : UInt32} {c c' : Connection} {seg : TCPSegment}

def withSynText (seg : TCPSegment) (regions : List Region) : List Region :=
  if seg.payloadLength = 0 then regions
  else TCPVirtualDataRcvQueue.merge ⟨seg.sequenceNo, seg.sequenceNo + seg.payloadLength⟩ regions

def TakesSyn (seg : TCPSegment) (regions : List Region) (result : TCPEventCode × Connection) :
    Prop :=
  result.1 = .rcvSyn ∨ result.1 = .rcvSynAck →
    result.2.receiver.receiveQueue.regionList = withSynText seg regions

theorem insertSynText_regionList (fits : (c.insertSynText seg).1 = true) :
    (c.insertSynText seg).2.receiver.receiveQueue.regionList =
    withSynText seg c.receiver.receiveQueue.regionList := by
  unfold insertSynText at fits ⊢
  unfold withSynText
  split_ifs at fits ⊢
  · rfl
  · simp only [TCPVirtualDataRcvQueue.insertBytesFromSegment]
    split <;> rfl

theorem insertSynText_takesSyn {regions : List Region}
    (same : c.receiver.receiveQueue.regionList = regions) :
    TakesSyn seg regions (if (c.insertSynText seg).1 then .rcvSyn else .ignore,
      (c.insertSynText seg).2) := by
  intro taken
  dsimp only at taken
  split_ifs at taken with fits
  · rw [insertSynText_regionList fits, same]
  · simp at taken

theorem readHeaderOptions_receiver (c : Connection) (seg : TCPSegment) :
    (c.readHeaderOptions seg).receiver = c.receiver := by
  unfold readHeaderOptions
  cases seg.mss <;> cases seg.sackPermitted <;> rfl

theorem processSegmentInListen_takesSyn (c : Connection) (seg : TCPSegment) (iss : UInt32) :
    TakesSyn seg c.receiver.receiveQueue.regionList (c.processSegmentInListen seg iss) := by
  unfold processSegmentInListen
  have other : TakesSyn seg c.receiver.receiveQueue.regionList (.ignore, c) :=
    fun taken => by simp at taken
  split_ifs
  · exact other
  · exact other
  · apply insertSynText_takesSyn
    unfold answerSyn startSynRexmitTimer
    dsimp only
    rw [(sendSynAck_still _).receiver, readHeaderOptions_receiver]
    rfl
  · exact other

theorem processSegmentInSynSent_takesSyn (c : Connection) (seg : TCPSegment)
    (calls : List Sender.Call) :
    Yields (c.processSegmentInSynSent seg calls)
    (TakesSyn seg c.receiver.receiveQueue.regionList) := by
  have other : ∀ (code : TCPEventCode) (c' : Connection), code = .ignore ∨ code = .rcvRst →
      TakesSyn seg c.receiver.receiveQueue.regionList (code, c') := by
    rintro _ c' (rfl | rfl) taken <;> simp at taken
  unfold processSegmentInSynSent
  refine .ite (.ok (other _ _ (.inl rfl))) (.ite ?_ (.ite ?_ (.ok (other _ _ (.inl rfl)))))
  · exact .ite (.ok (other _ _ (.inr rfl))) (.ok (other _ _ (.inl rfl)))
  · -- SEG.ACK is about the sender
    refine .bind (P := fun c₁ => c₁.receiver = (c.receiveSyn seg).receiver) ?_ fun c₁ same => ?_
    · refine .ite ?_ (.ok rfl)
      refine .after fun _ => ?_
      exact .after fun _ => .ok rfl
    have regions : c₁.receiver.receiveQueue.regionList = c.receiver.receiveQueue.regionList :=
      congrArg (·.receiveQueue.regionList) same
    refine .ite ?_ (.ok ?_)
    · refine yields_ite (fun fits => ?_) fun _ => .ok (other _ _ (.inl rfl))
      refine (notify_still _ calls).bind fun c₂ still => .ok fun _ => ?_
      dsimp only [sendIndicationToApp]
      rw [still.receiver, readHeaderOptions_receiver, insertSynText_regionList fits, regions]
    · apply insertSynText_takesSyn
      dsimp only [startSynRexmitTimer]
      rw [(sendSynAck_still _).receiver]
      exact regions

theorem processRcvSegment_takesSyn {iss rcvWnd : UInt32} {calls : List Sender.Call}
    (opening : c.fsm = .listen ∨ c.fsm = .synSent) :
    Yields (c.processRcvSegment seg iss rcvWnd calls)
    (TakesSyn seg c.receiver.receiveQueue.regionList) := by
  unfold processRcvSegment
  rcases opening with state | state <;> rw [state]
  · exact .ok (processSegmentInListen_takesSyn c seg iss)
  · exact processSegmentInSynSent_takesSyn c seg calls

/-- The queue holds the text of the SYN, which begins one behind its number, and no other octet. -/
def RecordsText (base : UInt32) (seg : TCPSegment) (regions : List Region) : Prop :=
  ∀ octet, Covers base regions octet ↔
    ahead base seg.sequenceNo < octet ∧ octet ≤ ahead base seg.sequenceNo + seg.payloadLength.toNat

theorem withSynText_records_iff {regions : List Region} (sorted : Separated base 0 regions)
    (near : regions = [] ∨ ahead base seg.sequenceNo + seg.payloadLength.toNat < 2 ^ 31) :
    RecordsText base seg (withSynText seg regions) ↔ seg.payloadLength = 0 ∧ regions = [] := by
  unfold withSynText RecordsText
  by_cases empty : seg.payloadLength = 0
  · simp only [empty, if_true, true_and, UInt32.toNat_zero, Nat.add_zero]
    constructor
    · intro records
      cases regions with
      | nil => rfl
      | cons r rest =>
        have := (records (ahead base r.beginSeq)).mp ⟨r, List.mem_cons_self, le_rfl, sorted.2.1⟩
        omega
    · rintro rfl octet
      simp only [covers_nil, false_iff]
      omega
  · simp only [empty, if_false, false_and, iff_false]
    have some : 0 < seg.payloadLength.toNat :=
      Nat.pos_of_ne_zero fun zero => empty (UInt32.toNat_inj.mp zero)
    intro records
    rcases near with rfl | near
    · -- the last octet of the text is missing
      have last :=
        (records (ahead base seg.sequenceNo + seg.payloadLength.toNat)).mpr ⟨by omega, le_rfl⟩
      have length := ahead_rebase base seg.sequenceNo (seg.sequenceNo + seg.payloadLength)
      have below := @ahead_lt base (seg.sequenceNo + seg.payloadLength)
      rw [ahead, add_sub_cancel_left] at length
      simp only [TCPVirtualDataRcvQueue.merge, covers_cons, covers_nil, or_false, Region.Has]
        at last
      omega
    · -- the number of the SYN is there
      obtain ⟨filled, nearEnd, -⟩ := segment_region empty near
      refine lt_irrefl _ ((records (ahead base seg.sequenceNo)).mp ?_).1
      rw [merge_covers ⟨seg.sequenceNo, seg.sequenceNo + seg.payloadLength⟩ filled nearEnd sorted]
      exact .inl ⟨le_rfl, filled⟩

/-- Of a SYN that is taken exactly the text is recorded if there is none, and nothing was left in
the queue. -/
theorem records_text_iff {iss rcvWnd : UInt32} {calls : List Sender.Call} {code : TCPEventCode}
    (opening : c.fsm = .listen ∨ c.fsm = .synSent)
    (sorted : Separated base 0 c.receiver.receiveQueue.regionList)
    (near : c.receiver.receiveQueue.regionList = [] ∨
      ahead base seg.sequenceNo + seg.payloadLength.toNat < 2 ^ 31)
    (done : c.processRcvSegment seg iss rcvWnd calls = .ok (code, c'))
    (taken : code = .rcvSyn ∨ code = .rcvSynAck) :
    RecordsText base seg c'.receiver.receiveQueue.regionList ↔
      seg.payloadLength = 0 ∧ c.receiver.receiveQueue.regionList = [] := by
  rw [processRcvSegment_takesSyn opening _ done taken]
  exact withSynText_records_iff sorted near

def synSegment (payloadLength : UInt32) : TCPSegment :=
  ⟨⟨100, 0, payloadLength, 7504, [], 0⟩, true, false, false, false, none, false⟩

def listening : Connection := { new 536 7504 false false with fsm := .listen }

theorem records_text_two_syns :
    (∃ c, listening.processRcvSegment (synSegment 0) 1000 7504 [] = .ok (.rcvSyn, c) ∧
      RecordsText 100 (synSegment 0) c.receiver.receiveQueue.regionList) ∧
    ∃ c, listening.processRcvSegment (synSegment 10) 1000 7504 [] = .ok (.rcvSyn, c) ∧
      ¬ RecordsText 100 (synSegment 10) c.receiver.receiveQueue.regionList := by
  have sorted : Separated 100 0 listening.receiver.receiveQueue.regionList := trivial
  constructor
  · obtain ⟨c, done⟩ : ∃ c,
      listening.processRcvSegment (synSegment 0) 1000 7504 [] = .ok (.rcvSyn, c) := ⟨_, rfl⟩
    exact ⟨c, done, (records_text_iff (.inl rfl) sorted (.inl rfl) done (.inl rfl)).mpr ⟨rfl, rfl⟩⟩
  · obtain ⟨c, done⟩ : ∃ c,
      listening.processRcvSegment (synSegment 10) 1000 7504 [] = .ok (.rcvSyn, c) := ⟨_, rfl⟩
    have only := records_text_iff (.inl rfl) sorted (.inl rfl) done (.inl rfl)
    exact ⟨c, done, fun records => absurd (only.mp records).1 (by decide)⟩

/-- The queue has the number of the SYN in place of the last octet. When the text is sent again the
application gets eleven octets. -/
theorem syn_text_shifted :
    (∃ c, listening.processRcvSegment (synSegment 10) 1000 7504 [] = .ok (.rcvSyn, c) ∧
        c.receiver.receiveQueue.regionList = [⟨100, 110⟩] ∧
        ¬ RecordsText 100 (synSegment 10) c.receiver.receiveQueue.regionList) ∧
      ∃ c, [Event.openPassive, .segment (synSegment 10) 1000 7504 [],
          .segment ⟨⟨101, 1001, 10, 7504, [], 0⟩, false, true, false, false, none, false⟩ 0 7504
          []].foldlM step
          (new 536 7504 false false) = .ok c ∧
        c.fsm = .established ∧ c.receiver.rcvNxt = 111 ∧ c.receiver.delivered = [11] := by
  refine ⟨⟨_, rfl, rfl, fun records => ?_⟩, _, rfl, rfl, rfl, rfl⟩
  have first := (records 0).mp ⟨⟨100, 110⟩, List.mem_cons_self, Nat.zero_le _, by decide⟩
  exact Nat.not_lt_zero _ first.1

end Connection

end Srwsn
