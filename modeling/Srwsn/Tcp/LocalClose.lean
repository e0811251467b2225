import Srwsn.Tcp.Quiet

/-! Whether the data ends where the FIN is, once the application has closed the connection. -/
namespace Srwsn

open Outcome

namespace Connection

open Sender (SameEnd)

variable (c : Connection) (seg : TCPSegment) (calls : List Sender.Call)

theorem readHeaderOptions_sameEnd : SameEnd c.sender (c.readHeaderOptions seg).sender := by
  unfold readHeaderOptions
  refine SameEnd.trans ?_ (Sender.readHeaderOptions_unmoved _ seg.toAckSegment).toSame.sameEnd
  cases seg.mss with
  | none =>
    dsimp only
    split_ifs
    · exact ⟨rfl, rfl, rfl⟩
    · exact .refl _
  | some mss =>
    dsimp only
    split_ifs <;> exact ⟨rfl, rfl, rfl⟩

theorem insertSynText_sender : (c.insertSynText seg).2.sender = c.sender := by
  unfold insertSynText
  split_ifs <;> rfl

theorem answerSyn_sameEnd (iss : UInt32) :
    SameEnd (c.sender.selectInitialSeqNum iss) (c.answerSyn seg iss).sender :=
  (readHeaderOptions_sameEnd ((({ c with remoteSpecified := true } : Connection).receiveSyn
    seg).selectInitialSeqNum iss) seg).trans (sendSynAck_still _).sender

theorem ackSyn_sameEnd : Yields (c.ackSyn seg) fun c' => SameEnd c.sender c'.sender := by
  refine (TCPVirtualDataSendQueue.discardUpTo_endSeq _ _).bind fun queue ends => ?_
  refine .after fun rexmitQueue => .ok ?_
  refine SameEnd.trans ?_ (Sender.updateWndInfo_unmoved _ seg.toAckSegment).toSame.sameEnd
  exact ⟨rfl, rfl, ends⟩

theorem processSegmentInSynSent_sameEnd :
    Yields (c.processSegmentInSynSent seg calls) fun result =>
    SameEnd c.sender result.2.sender := by
  have stays : ∀ code, Yields (.ok (code, c) : Except TcpFault (TCPEventCode × Connection))
      fun result => SameEnd c.sender result.2.sender := fun code => .ok (.refl _)
  unfold processSegmentInSynSent
  refine .ite (stays _) (.ite ?_ (.ite ?_ (stays _)))
  · exact .ite (.ok (.refl _)) (stays _)
  refine .bind (P := fun c' => SameEnd c.sender c'.sender) ?_ fun c' same => ?_
  · exact .ite (ackSyn_sameEnd _ seg) (.ok (.refl _))
  have text : SameEnd c.sender (c'.insertSynText seg).2.sender := by
    rw [insertSynText_sender]
    exact same
  refine .ite (.ite ?_ (.ok text)) (.ok ?_)
  · have options := text.trans (readHeaderOptions_sameEnd _ seg)
    exact (notify_still _ calls).bind fun c'' next => .ok (options.trans next.sender)
  · rw [insertSynText_sender]
    have back : SameEnd c'.sender (c'.sender.setNxtMax c'.iss) := ⟨rfl, rfl, rfl⟩
    exact (same.trans back).trans
      (sendSynAck_still { c' with sender := c'.sender.setNxtMax c'.iss }).sender

/-- The queue ends at the FIN, and what is sent from it ends there at the latest. -/
def Sealed : Prop :=
  c.sender.sendFin = true → c.sender.sendQueue.endSeq = c.sender.sndFinSeq ∧
    ∀ fromSeq numBytes, c.sender.sendQueue.createSegmentWithBytes fromSeq numBytes = .ok () →
      seqLE (fromSeq + numBytes) c.sender.sndFinSeq = true

def opens : Bool := c.fsm == .listen && seg.synBit && !seg.ackBit && !seg.rstBit

/-- Once the FIN has its place: no more data, and no new beginning, unless it ends there by 
chance. -/
def Preserves : Event → Prop
  | .send iss byteLength _ => c.sender.sendFin = true → match c.fsm with
    | .listen => iss + 1 + byteLength = c.sender.sndFinSeq
    | .synRcvd | .synSent | .established | .closeWait => byteLength = 0
    | _ => True
  | .segment seg iss _ _ => c.sender.sendFin = true → c.opens seg = true →
      iss + 1 = c.sender.sndFinSeq
  | _ => True

variable {c}

theorem sealed_iff :
    c.Sealed ↔ (c.sender.sendFin = true → c.sender.sendQueue.endSeq = c.sender.sndFinSeq) := by
  refine ⟨fun sealed closing => (sealed closing).1, fun ends closing => ⟨ends closing, ?_⟩⟩
  intro fromSeq numBytes made
  unfold TCPVirtualDataSendQueue.createSegmentWithBytes at made
  split_ifs at made with inside
  rw [Bool.and_eq_true, ends closing] at inside
  exact inside.2

variable {c' : Connection}

theorem sealed_of_end {endSeq : UInt32} (sendFin : c'.sender.sendFin = c.sender.sendFin)
    (finSeq : c'.sender.sndFinSeq = c.sender.sndFinSeq)
    (ends : c'.sender.sendQueue.endSeq = endSeq) :
    c'.Sealed ↔ (c.sender.sendFin = true → endSeq = c.sender.sndFinSeq) := by
  rw [sealed_iff, sendFin, finSeq, ends]

theorem sealed_of_same (same : SameEnd c.sender c'.sender) (sealed : c.Sealed) : c'.Sealed ↔ True :=
  iff_true_intro ((sealed_of_end same.sendFin same.sndFinSeq same.endSeq).mpr
    (sealed_iff.mp sealed))

theorem sealed_of_open (none : c'.sender.sendFin = false) : c'.Sealed ↔ True := by
  rw [sealed_iff, none]
  simp

theorem processOpenActive_sealed (iss : UInt32) :
    Yields (c.processOpenActive iss) fun result => (result.2.Sealed ↔ True) := by
  unfold processOpenActive
  split
  · refine (sendSyn_still _).bind fun c' still => .ok (sealed_of_open ?_)
    exact still.sender.sendFin
  · exact .error

theorem processSend_sealed (sealed : c.Sealed) (iss byteLength : UInt32)
    (calls : List Sender.Call) : Yields (c.processSend iss byteLength calls) fun result =>
      (result.2.Sealed ↔ c.Preserves (.send iss byteLength calls)) := by
  -- data is queued behind an end that is the FIN's number
  have queued : c.sender.sendFin = true →
      (c.sender.sendQueue.endSeq + byteLength = c.sender.sndFinSeq ↔ byteLength = 0) := by
    intro closing
    rw [sealed_iff.mp sealed closing]
    exact add_eq_left
  have enqueued : ∀ {c' : Connection}, SameEnd (c.sender.enqueue byteLength) c'.sender →
      (c'.Sealed ↔ (c.sender.sendFin = true → byteLength = 0)) := by
    intro c' same
    rw [sealed_of_end same.sendFin same.sndFinSeq same.endSeq]
    exact forall_congr' queued
  unfold processSend Preserves
  split <;> rename_i state <;> simp only [state]
  case h_2 =>
    refine (sendSyn_still _).bind fun c' ⟨_, same⟩ => .ok ?_
    exact sealed_of_end same.sendFin same.sndFinSeq (congrArg (· + byteLength) same.endSeq)
  case h_3 | h_4 => exact .ok (enqueued (.refl _))
  case h_5 | h_6 =>
    exact (notify_still _ calls).bind fun c' still => .ok (enqueued still.sender)
  case h_12 => exact .ok (by simpa using sealed)
  all_goals exact .error

theorem processClose_sealed (sealed : c.Sealed) :
    Yields c.processClose fun result => (result.2.Sealed ↔ True) := by
  have closed : ∀ {c' : Connection}, c'.sender = c.sender.close.2 → (c'.Sealed ↔ True) := by
    intro c' same
    rw [sealed_iff, same]
    unfold Sender.close
    split_ifs <;> simp [Sender.record]
  unfold processClose
  split
  case h_4 | h_5 | h_6 => exact .ok (closed rfl)
  case h_2 | h_3 | h_12 => exact .ok (iff_true_intro sealed)
  all_goals exact .error

theorem processSegmentInListen_sealed (sealed : c.Sealed) (listening : c.fsm = .listen)
    (seg : TCPSegment) (iss : UInt32) : (c.processSegmentInListen seg iss).2.Sealed ↔
      (c.sender.sendFin = true → c.opens seg = true → iss + 1 = c.sender.sndFinSeq) := by
  unfold processSegmentInListen opens
  rw [listening]
  split_ifs with rst ack syn
  · simp [rst, sealed]
  · simp [ack, sealed]
  · have same := answerSyn_sameEnd c seg iss
    rw [← insertSynText_sender (c.answerSyn seg iss) seg] at same
    have ends := @sealed_of_end c _ (iss + 1) same.sendFin same.sndFinSeq same.endSeq
    dsimp only
    rw [ends]
    simp [rst, ack, syn]
  · simp [syn, sealed]

theorem process_sealed (sealed : c.Sealed) (event : Event) :
    Yields (c.process event) fun result => (result.2.Sealed ↔ c.Preserves event) := by
  have kept : ∀ result : TCPEventCode × Connection, SameEnd c.sender result.2.sender →
      (result.2.Sealed ↔ True) := fun result same => sealed_of_same same sealed
  cases event with
  | openActive iss => exact processOpenActive_sealed iss
  | openPassive =>
    change Yields c.processOpenPassive _
    unfold processOpenPassive
    split
    · exact .ok (sealed_of_open rfl)
    · exact .error
  | send iss byteLength calls => exact processSend_sealed sealed iss byteLength calls
  | close => exact processClose_sealed sealed
  | segment seg iss rcvWnd calls =>
    change Yields (c.processRcvSegment seg iss rcvWnd calls) _
    have elsewhere : c.fsm ≠ .listen → (c.Preserves (.segment seg iss rcvWnd calls) ↔ True) := by
      intro other
      simp [Preserves, opens, other]
    unfold processRcvSegment
    split
    case h_1 => exact .error
    case h_2 listening => exact .ok (processSegmentInListen_sealed sealed listening seg iss)
    case h_3 state =>
      rw [elsewhere (by simp [state])]
      exact (processSegmentInSynSent_sameEnd c seg calls).mono kept
    case h_4 other _ =>
      rw [elsewhere other]
      exact (processSegment1stThru8th_same c seg calls rcvWnd).mono fun result same =>
        kept result same.2
  | _ => exact (process_still c rfl).mono fun result still => kept result still.1.sender

theorem sealed_step_iff {event : Event} (sealed : c.Sealed) (moves : Moves c event c') :
    c'.Sealed ↔ c.Preserves event := by
  have step : Yields (c.step event) fun c' => (c'.Sealed ↔ c.Preserves event) := by
    refine (process_sealed sealed event).bind ?_
    rintro ⟨code, c'⟩ exactly
    exact .ite .error (.ok exactly)
  exact step c' moves

/-- The data ends at the FIN just as long as nothing is queued behind it and no new connection
begins with the old FIN. -/
theorem sealed_iff_preserves (sndMss maxRcvBuffer : UInt32)
    (sackSupport limitedTransmitEnabled : Bool) (events : List Event) :
    Trace.Always Moves Sealed (new sndMss maxRcvBuffer sackSupport limitedTransmitEnabled) events ↔
      Trace.Each Moves Preserves (new sndMss maxRcvBuffer sackSupport limitedTransmitEnabled)
      events := by
  refine Trace.always_iff_each (I := fun _ => True) (fun _ _ _ _ _ => trivial) ?_ trivial ?_ events
  · exact fun c event c' _ sealed moves => sealed_step_iff sealed moves
  · exact fun closing => absurd closing nofun

def bareAck (sequenceNo ackNo : UInt32) : TCPSegment :=
  ⟨⟨sequenceNo, ackNo, 0, 7504, [], 0⟩, false, true, false, false, none, false⟩

def bareSyn (sequenceNo : UInt32) : TCPSegment :=
  ⟨⟨sequenceNo, 0, 0, 7504, [], 0⟩, true, false, false, false, none, false⟩

/-- A server closes with data left, and sends again: data goes out under the number of the FIN. A
server whose client resets the connection during the handshake listens again with the old FIN. -/
theorem sentAfterClose_not_sealed :
    (∃ c, [Event.openPassive, .segment (bareSyn 0) 1000 7504 [],
      .segment (bareAck 1 1001) 0 7504 [],
        .send 0 1000 [.sendData false 536], .close, .send 0 10 [.sendData false 536],
        .segment (bareAck 1 1537) 0 7504 [.sendData false 1072]].foldlM step
        (new 536 7504 false false) = .ok c ∧
      c.fsm = .established ∧ c.sender.sndFinSeq = 2001 ∧ c.sender.sendQueue.endSeq = 2011 ∧
      c.sender.sndMax = 2011 ∧ ¬ c.Sealed) ∧
    ∃ c, [Event.openPassive, .segment (bareSyn 0) 1000 7504 [], .send 0 100 [], .close,
        .segment { bareAck 1 0 with rstBit := true } 0 7504 [],
        .segment (bareSyn 5000) 9000 7504 []].foldlM step (new 536 7504 false false) = .ok c ∧
      c.fsm = .synRcvd ∧ c.sender.sndFinSeq = 1101 ∧ c.sender.sendQueue.endSeq = 9001 ∧
      ¬ c.Sealed := by
  refine ⟨⟨_, rfl, rfl, rfl, rfl, rfl, ?_⟩, _, rfl, rfl, rfl, rfl, ?_⟩
  all_goals
    rw [sealed_iff]
    decide

end Connection

end Srwsn
