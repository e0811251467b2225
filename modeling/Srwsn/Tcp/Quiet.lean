import Srwsn.Tcp.Connection

/-! What the steps of a connection leave as it is: the peer's stream, and the end of its own. -/
namespace Srwsn

open Outcome

structure Sender.SameEnd (s s' : Sender) : Prop where
  sendFin : s'.sendFin = s.sendFin
  sndFinSeq : s'.sndFinSeq = s.sndFinSeq
  endSeq : s'.sendQueue.endSeq = s.sendQueue.endSeq

namespace Sender

variable {s s' s'' : Sender}

theorem SameEnd.refl (s : Sender) : SameEnd s s := ⟨rfl, rfl, rfl⟩

theorem SameEnd.trans (first : SameEnd s s') (second : SameEnd s' s'') : SameEnd s s'' :=
  ⟨second.sendFin.trans first.sendFin, second.sndFinSeq.trans first.sndFinSeq,
    second.endSeq.trans first.endSeq⟩

theorem Same.sameEnd (same : Same s s') : SameEnd s s' :=
  ⟨same.sendFin, same.sndFinSeq, congrArg (·.endSeq) same.sendQueue⟩

theorem Acked.sameEnd {ackNo upTo : UInt32} (acked : Acked s ackNo upTo s') : SameEnd s s' :=
  ⟨acked.sendFin, acked.finSeq, congrArg (·.endSeq) acked.queue⟩

theorem processAckInEstabEtc_sameEnd (s : Sender) (seg : AckSegment) :
    Yields (s.processAckInEstabEtc seg) fun result => SameEnd s result.2 := by
  refine (processAckInEstabEtc_cases s seg).2.mono ?_
  rintro ⟨_, s'⟩ (unmoved | ⟨upTo, acked⟩)
  · exact unmoved.toSame.sameEnd
  · exact acked.sameEnd

end Sender

theorem TCPVirtualDataSendQueue.discardUpTo_endSeq (q : TCPVirtualDataSendQueue) (seqNum : UInt32) :
    Yields (q.discardUpTo seqNum) fun q' => q'.endSeq = q.endSeq :=
  .ite (.ok rfl) .error

def TCPEventCode.bringsFin : TCPEventCode → Bool
  | .rcvFin | .rcvFinAck => true
  | _ => false

namespace Connection

open Sender (SameEnd)

def timesTold (c : Connection) : Nat := c.indications.count .peerClosed

structure Quiet (c c' : Connection) : Prop where
  fsm : c'.fsm = c.fsm
  receiver : c'.receiver = c.receiver
  finRcvd : c'.finRcvd = c.finRcvd
  told : c'.timesTold = c.timesTold

structure Still (c c' : Connection) : Prop extends Quiet c c' where
  sender : SameEnd c.sender c'.sender

def QuietResult (c : Connection) (result : TCPEventCode × Connection) : Prop :=
  Quiet c result.2 ∧ result.1.bringsFin = false

def StillResult (c : Connection) (result : TCPEventCode × Connection) : Prop :=
  Still c result.2 ∧ result.1.bringsFin = false

theorem Quiet.refl (c : Connection) : Quiet c c := ⟨rfl, rfl, rfl, rfl⟩

variable {c c' c'' : Connection}

theorem Quiet.trans (first : Quiet c c') (second : Quiet c' c'') : Quiet c c'' :=
  ⟨second.fsm.trans first.fsm, second.receiver.trans first.receiver,
    second.finRcvd.trans first.finRcvd, second.told.trans first.told⟩

theorem Still.refl (c : Connection) : Still c c := ⟨.refl c, .refl _⟩

theorem Still.trans (first : Still c c') (second : Still c' c'') : Still c c'' :=
  ⟨first.toQuiet.trans second.toQuiet, first.sender.trans second.sender⟩

theorem StillResult.quiet {result : TCPEventCode × Connection}
    (still : StillResult c result) : QuietResult c result := ⟨still.1.toQuiet, still.2⟩

section Quiet

variable (c : Connection) (seg : TCPSegment) (calls : List Sender.Call)

theorem sendIndicationToApp_still {code : Indication} (other : code ≠ .peerClosed) :
    Still c (c.sendIndicationToApp code) := by
  refine ⟨⟨rfl, rfl, rfl, ?_⟩, .refl _⟩
  simp [timesTold, sendIndicationToApp, other]

theorem notify_still : Yields (c.notify calls) (Still c) := by
  refine .bind (P := SameEnd c.sender) ?_ fun s' same => .ok ⟨⟨rfl, rfl, rfl, rfl⟩, same⟩
  refine Yields.foldlM (fun s call same => ?_) (.refl _) calls
  exact (Sender.call_same s call).mono fun _ next => same.trans next.sameEnd

theorem sendSynAck_still : Still c c.sendSynAck := by
  unfold sendSynAck writeHeaderOptions
  split_ifs <;> exact ⟨⟨rfl, rfl, rfl, rfl⟩, rfl, rfl, rfl⟩

theorem sendSyn_still : Yields c.sendSyn (Still c) :=
  .ite (.ok (sendSynAck_still c)) .error

theorem processSend_quiet (iss byteLength : UInt32) :
    Yields (c.processSend iss byteLength calls) (QuietResult c) := by
  have queued : ∀ s, Quiet c { c with sender := s } := fun s => ⟨rfl, rfl, rfl, rfl⟩
  have restarted : Quiet c (({ c with active := true } : Connection).selectInitialSeqNum iss) :=
    ⟨rfl, rfl, rfl, rfl⟩
  unfold processSend
  split
  case h_2 =>
    refine (sendSyn_still _).bind fun c' still => .ok ⟨?_, rfl⟩
    exact (restarted.trans still.toQuiet).trans ⟨rfl, rfl, rfl, rfl⟩
  case h_3 | h_4 => exact .ok ⟨queued _, rfl⟩
  case h_5 | h_6 =>
    refine (notify_still _ calls).bind fun c' still => .ok ⟨?_, rfl⟩
    exact (queued _).trans still.toQuiet
  case h_12 => exact .ok ⟨.refl c, rfl⟩
  all_goals exact .error

theorem processClose_quiet : Yields c.processClose (QuietResult c) := by
  have stays : QuietResult c (.close, c) := ⟨.refl c, rfl⟩
  have closed : QuietResult c
      (if c.sender.close.1 then .close else .ignore, { c with sender := c.sender.close.2 }) := by
    refine ⟨⟨rfl, rfl, rfl, rfl⟩, ?_⟩
    dsimp only
    split_ifs <;> rfl
  unfold processClose
  split
  case h_4 | h_5 | h_6 => exact .ok closed
  case h_2 | h_3 | h_12 => exact .ok stays
  all_goals exact .error

theorem processTimeoutSynRexmit_still : Yields c.processTimeoutSynRexmit (StillResult c) := by
  have counted : Still c { c with synRexmitCount := c.synRexmitCount + 1 } :=
    ⟨⟨rfl, rfl, rfl, rfl⟩, .refl _⟩
  refine .ite (.ok ⟨counted, rfl⟩) ?_
  split
  · exact (sendSyn_still _).bind fun c' still => .ok ⟨counted.trans still, rfl⟩
  · exact .ok ⟨counted.trans (sendSynAck_still _), rfl⟩
  · exact .error

/-- The events besides those that open and close, queue data or bring a segment. -/
def Event.idle : Event → Bool
  | .openActive _ | .openPassive | .send .. | .close | .segment .. => false
  | _ => true

theorem process_still {event : Event} (idle : event.idle) :
    Yields (c.process event) (StillResult c) := by
  have stays : ∀ code : TCPEventCode, code.bringsFin = false →
      Yields (.ok (code, c) : Except TcpFault (TCPEventCode × Connection)) (StillResult c) :=
    fun code other => .ok ⟨.refl c, other⟩
  cases event with
  | openActive | openPassive | send | close | segment => cases idle
  | abort => exact .ite .error (stays _ rfl)
  | status => exact .ite .error (stays _ rfl)
  | timeoutConnEstab =>
    change Yields c.processTimeoutConnEstab _
    unfold processTimeoutConnEstab
    split
    case h_3 => exact .error
    all_goals
      refine .ok ⟨?_, rfl⟩
      dsimp only
      split_ifs
      · exact sendIndicationToApp_still c nofun
      · exact .refl c
  | timeout2Msl => exact .ite (stays _ rfl) .error
  | timeoutFinWait2 =>
    refine .ite (.ok ⟨?_, rfl⟩) .error
    exact sendIndicationToApp_still c nofun
  | timeoutSynRexmit => exact processTimeoutSynRexmit_still c
  | algorithmTimer calls => exact (notify_still c calls).bind fun c' still => .ok ⟨still, rfl⟩
  | rexmitGivenUp => exact .ok ⟨sendIndicationToApp_still c nofun, rfl⟩

theorem process_quiet (opened : c.fsm ≠ .init) {event : Event}
    (other : ∀ seg iss rcvWnd calls, event ≠ .segment seg iss rcvWnd calls) :
    Yields (c.process event) (QuietResult c) := by
  cases event with
  | openActive iss =>
    change Yields (c.processOpenActive iss) _
    unfold processOpenActive
    split
    · exact absurd ‹_› opened
    · exact .error
  | openPassive =>
    change Yields c.processOpenPassive _
    unfold processOpenPassive
    split
    · exact absurd ‹_› opened
    · exact .error
  | send iss byteLength calls => exact processSend_quiet c calls iss byteLength
  | close => exact processClose_quiet c
  | segment seg iss rcvWnd calls => exact absurd rfl (other seg iss rcvWnd calls)
  | _ => exact (process_still c rfl).mono fun _ => StillResult.quiet

theorem processSegmentInListen_quiet (noSyn : seg.synBit = false) (iss : UInt32) :
    QuietResult c (c.processSegmentInListen seg iss) := by
  unfold processSegmentInListen
  simp only [noSyn, Bool.false_eq_true, if_false]
  split_ifs <;> exact ⟨.refl c, rfl⟩

theorem processSegmentInSynSent_quiet (noSyn : seg.synBit = false) :
    Yields (c.processSegmentInSynSent seg calls) (QuietResult c) := by
  have stays : Yields (.ok (.ignore, c) : Except TcpFault (TCPEventCode × Connection))
      (QuietResult c) :=
    .ok ⟨.refl c, rfl⟩
  unfold processSegmentInSynSent
  simp only [noSyn, Bool.false_eq_true, if_false]
  refine .ite stays (.ite ?_ stays)
  refine .ite (.ok (StillResult.quiet ⟨?_, rfl⟩)) stays
  exact sendIndicationToApp_still c nofun

theorem processRstInSynReceived_still : Yields (c.processRstInSynReceived seg) (StillResult c) := by
  refine (TCPVirtualDataSendQueue.discardUpTo_endSeq _ _).bind fun queue ends => ?_
  refine .after fun rexmitQueue => .ok ⟨?_, rfl⟩
  have flushed :
      Still c { c with
        sender := { c.sender with sendQueue := queue, rexmitQueue := rexmitQueue } } :=
    ⟨⟨rfl, rfl, rfl, rfl⟩, rfl, rfl, ends⟩
  dsimp only
  split_ifs
  · exact flushed.trans (sendIndicationToApp_still _ nofun)
  · exact flushed

theorem checkRst_still : Yields (c.checkRst seg) (StillResult c) := by
  have told : ∀ code : Indication, code ≠ .peerClosed →
      Yields (.ok (.rcvRst, c.sendIndicationToApp code) : Except TcpFault
        (TCPEventCode × Connection))
        (StillResult c) := fun code other => .ok ⟨sendIndicationToApp_still c other, rfl⟩
  unfold checkRst
  split
  case h_1 => exact processRstInSynReceived_still c seg
  case h_8 => exact .ok ⟨.refl c, rfl⟩
  case h_9 => exact .error
  all_goals exact told _ nofun

def StillProgress (c : Connection) : Progress → Prop
  | .done event c' => StillResult c (event, c')
  | .next event c' => StillResult c (event, c')

theorem processAckInEstabEtc_still :
    Yields (c.processAckInEstabEtc seg calls) fun result => Still c result.2 := by
  refine (Sender.processAckInEstabEtc_sameEnd c.sender seg.toAckSegment).bind ?_
  rintro ⟨ok, sender⟩ same
  have moved : Still c { c with sender := sender } := ⟨⟨rfl, rfl, rfl, rfl⟩, same⟩
  refine .bind (P := Still c) ?_ fun c' still => .ok still
  exact .ite ((notify_still _ calls).mono fun _ => moved.trans) (.ok moved)

theorem checkFinAcked_still {event : TCPEventCode} (other : event.bringsFin = false) :
    StillProgress c (c.checkFinAcked seg event) := by
  have told : Still c (c.sendIndicationToApp .closed) := sendIndicationToApp_still c nofun
  unfold checkFinAcked
  split
  · refine ⟨.refl c, ?_⟩
    dsimp only
    split_ifs
    · rfl
    · exact other
  · split_ifs
    · exact ⟨told, rfl⟩
    · exact ⟨.refl c, other⟩
  · split_ifs
    · exact ⟨told, rfl⟩
    · exact ⟨.refl c, other⟩
  · exact ⟨.refl c, other⟩

theorem StillProgress.trans {c c' : Connection} {progress : Progress} (first : Still c c')
    (second : StillProgress c' progress) : StillProgress c progress := by
  cases progress with
  | done event c'' => exact ⟨first.trans second.1, second.2⟩
  | next event c'' => exact ⟨first.trans second.1, second.2⟩

theorem checkAck_still : Yields (c.checkAck seg calls) (StillProgress c) := by
  have stays : Yields (.ok (.done .ignore c) : Except TcpFault Progress) (StillProgress c) :=
    .ok ⟨.refl c, rfl⟩
  unfold checkAck
  refine .ite stays ?_
  split
  case h_1 =>
    refine .ite stays ?_
    have told : Still c (c.sendIndicationToApp .established) := sendIndicationToApp_still c nofun
    refine (processAckInEstabEtc_still (c.sendIndicationToApp .established) seg calls).bind ?_
    rintro ⟨ok, c'⟩ still
    refine .ok ?_
    split_ifs <;> exact ⟨told.trans still, rfl⟩
  case h_7 => exact .ok (checkFinAcked_still c seg rfl)
  all_goals
    refine (processAckInEstabEtc_still c seg calls).bind ?_
    rintro ⟨ok, c'⟩ still
    refine .ok ?_
    split_ifs
    · exact (checkFinAcked_still c' seg rfl).trans still
    · exact ⟨still, rfl⟩

theorem deferredClose_bringsFin (oldSndNxt : UInt32) {event : TCPEventCode}
    (other : event.bringsFin = false) : (c.deferredClose oldSndNxt event).bringsFin = false := by
  unfold deferredClose
  dsimp only
  split <;> (try split_ifs) <;> first | rfl | exact other

theorem processSegment1stThru8th_quiet (rcvWnd : UInt32) (empty : seg.payloadLength = 0)
    (noFin : seg.finBit = false) :
    Yields (c.processSegment1stThru8th seg rcvWnd calls) (StillResult c) := by
  unfold processSegment1stThru8th
  refine .ite (.ok ⟨.refl c, rfl⟩) (.ite (checkRst_still c seg)
    (.ite (.ok ⟨sendIndicationToApp_still c nofun, rfl⟩) ?_))
  refine (checkAck_still c seg calls).bind fun progress still => ?_
  cases progress with
  | done event c' => exact .ok still
  | next event c' =>
    have text : c'.processText seg rcvWnd event = .ok (.next event c') := by
      simp [processText, empty]
    have fin : c'.checkFin seg event = (event, c') := by simp [checkFin, noFin]
    dsimp only
    rw [text]
    refine .ok ?_
    rw [fin]
    exact ⟨still.1, deferredClose_bringsFin c' _ still.2⟩

theorem checkFin_next (event : TCPEventCode) (fin : seg.finBit = true)
    (next : c.receiver.rcvNxt = seg.sequenceNo + seg.payloadLength) :
    (c.checkFin seg event).2.finRcvd = c.finRcvd ∧
      (c.checkFin seg event).2.receiver.rcvNxt = c.receiver.rcvNxt + 1 ∧
      (c.checkFin seg event).2.timesTold = c.timesTold + 1 := by
  unfold checkFin receiveFin
  simp only [if_pos fin, if_pos next]
  split <;> (try split_ifs) <;> simp [timesTold, sendIndicationToApp]

def Apart (c c' : Connection) : Prop := c'.fsm = c.fsm ∧ c'.sender = c.sender

theorem checkFin_apart (event : TCPEventCode) : Apart c (c.checkFin seg event).2 := by
  have fin : ∀ finSeq, Apart c (c.receiveFin finSeq) := by
    intro finSeq
    unfold receiveFin
    split_ifs <;> exact ⟨rfl, rfl⟩
  unfold checkFin
  split_ifs
  · dsimp only
    split <;> (try split_ifs) <;> exact fin _
  · exact ⟨rfl, rfl⟩

theorem processText_apart (rcvWnd : UInt32) (event : TCPEventCode) :
    Yields (c.processText seg rcvWnd event) fun progress => Apart c progress.connection := by
  have apart : ∀ c' : Connection, c'.fsm = c.fsm → c'.sender = c.sender →
      Yields (.ok (.next event c') : Except TcpFault Progress) fun progress =>
      Apart c progress.connection :=
    fun _ fsm sender => .ok ⟨fsm, sender⟩
  unfold processText
  refine .ite (.ite ?_ (.ok ⟨rfl, rfl⟩)) (apart c rfl rfl)
  refine .after fun receiver => ?_
  exact .ite (apart _ rfl rfl) (apart _ rfl rfl)

theorem processSegment1stThru8th_same (rcvWnd : UInt32) :
    Yields (c.processSegment1stThru8th seg rcvWnd calls) fun result =>
      result.2.fsm = c.fsm ∧ SameEnd c.sender result.2.sender := by
  unfold processSegment1stThru8th
  refine .ite (.ok ⟨rfl, .refl _⟩) (.ite ?_ (.ite (.ok ⟨rfl, .refl _⟩) ?_))
  · exact (checkRst_still c seg).mono fun _ still => ⟨still.1.fsm, still.1.sender⟩
  refine (checkAck_still c seg calls).bind fun progress still => ?_
  cases progress with
  | done event c' => exact .ok ⟨still.1.fsm, still.1.sender⟩
  | next event c' =>
    have along {c'' : Connection} (apart : Apart c' c'') : c''.fsm = c.fsm ∧
        SameEnd c.sender c''.sender :=
      ⟨apart.1.trans still.1.fsm, apart.2 ▸ still.1.sender⟩
    refine (processText_apart c' seg rcvWnd event).bind fun text apart => ?_
    cases text with
    | done event c'' => exact .ok (along apart)
    | next event c'' =>
      have fin := checkFin_apart c'' seg event
      exact .ok (along ⟨fin.1.trans apart.1, fin.2.trans apart.2⟩)

end Quiet

end Connection

end Srwsn
