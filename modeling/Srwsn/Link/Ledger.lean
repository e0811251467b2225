import Srwsn.Link.Mac

/-! What becomes of the packets of the upper layer. The ledger counts them and holds the one in
progress. -/
namespace Srwsn

open Outcome

structure Ledger where
  numUpperPkt : Nat
  numUpperPktLost : Nat
  numTxDataSucc : Nat
  numTxDataFail : Nat
  numTxGTSSucc : Nat
  numTxGTSFail : Nat
  mcpsDataRequest : Bool
  txOption : TxOption
  txData : Option Nat
  txGTS : Option Nat

def Ledger.reported (l : Ledger) : Nat :=
  l.numUpperPktLost + l.numTxDataSucc + l.numTxDataFail + l.numTxGTSSucc + l.numTxGTSFail

structure Ledger.Balanced (l : Ledger) : Prop where
  total : l.numUpperPkt = l.reported + l.mcpsDataRequest.toNat
  data : l.txData ≠ none → l.mcpsDataRequest = true ∧ l.txOption = .direct
  gts : l.txGTS ≠ none → l.mcpsDataRequest = true ∧ l.txOption = .gts

structure Ledger.Handed (l : Ledger) : Prop where
  total : l.numUpperPkt = l.reported + l.mcpsDataRequest.toNat + 1
  data : l.txData ≠ none → l.mcpsDataRequest = true ∧ l.txOption = .direct
  gts : l.txGTS ≠ none → l.mcpsDataRequest = true ∧ l.txOption = .gts

structure Ledger.Ending (l : Ledger) : Prop where
  total : l.numUpperPkt = l.reported + 1
  ended : l.mcpsDataRequest = false
  data : l.txData ≠ none → l.txOption = .direct
  gts : l.txGTS ≠ none → l.txOption = .gts

theorem Ledger.Ending.data_done {l : Ledger} (ending : l.Ending) (inUse : l.txData ≠ none)
    (succ fail : Nat) (one : succ + fail = l.numTxDataSucc + l.numTxDataFail + 1) :
    { l with txData := none, numTxDataSucc := succ, numTxDataFail := fail : Ledger }.Balanced where
  total := by
    have total := ending.total
    simp only [reported, ending.ended, Bool.toNat_false] at total ⊢
    omega
  data inUse := absurd rfl inUse
  gts both := by
    have impossible := (ending.data inUse).symm.trans (ending.gts both)
    cases impossible

theorem Ledger.Ending.gts_done {l : Ledger} (ending : l.Ending) (inUse : l.txGTS ≠ none)
    (succ fail : Nat) (one : succ + fail = l.numTxGTSSucc + l.numTxGTSFail + 1) :
    { l with txGTS := none, numTxGTSSucc := succ, numTxGTSFail := fail : Ledger }.Balanced where
  total := by
    have total := ending.total
    simp only [reported, ending.ended, Bool.toNat_false] at total ⊢
    omega
  data both := by
    have impossible := (ending.data both).symm.trans (ending.gts inUse)
    cases impossible
  gts inUse := absurd rfl inUse

theorem Ledger.Balanced.ending {l : Ledger} (balanced : l.Balanced)
    (pending : l.mcpsDataRequest = true) : { l with mcpsDataRequest := false : Ledger }.Ending where
  total := by
    have total := balanced.total
    rw [pending] at total
    exact total
  ended := rfl
  data inUse := (balanced.data inUse).2
  gts inUse := (balanced.gts inUse).2

namespace Mac

def ledger (m : Mac) : Ledger where
  numUpperPkt := m.stats.numUpperPkt
  numUpperPktLost := m.stats.numUpperPktLost
  numTxDataSucc := m.stats.numTxDataSucc
  numTxDataFail := m.stats.numTxDataFail
  numTxGTSSucc := m.stats.numTxGTSSucc
  numTxGTSFail := m.stats.numTxGTSFail
  mcpsDataRequest := m.taskP.mcpsDataRequest
  txOption := m.taskP.mcpsDataRequestTxOption
  txData := m.buf.txData
  txGTS := m.buf.txGTS

def Keeps (m : Mac) (x : MacResult) : Prop := Yields x fun m' => m'.ledger = m.ledger

def Balances (x : MacResult) : Prop := Yields x fun m' => m'.ledger.Balanced

variable {m m₁ : Mac} {t : Timing} {Q : Mac → Prop} {x : MacResult} {f : Mac → MacResult}

theorem Keeps.of_eq (kept : Keeps m₁ x) (same : m₁.ledger = m.ledger) : Keeps m x :=
  kept.mono fun _ h => h.trans same

theorem Keeps.yields {B : Ledger → Prop} (kept : Keeps m x) (now : B m.ledger) :
    Yields x fun m' => B m'.ledger :=
  kept.mono fun _ same => by rwa [same]

theorem Keeps.bind (kept : Keeps m x) (rest : ∀ m₁, m₁.ledger = m.ledger → Keeps m₁ (f m₁)) :
    Keeps m (x >>= f) :=
  Yields.bind kept fun m₁ same => (rest m₁ same).of_eq same

theorem yields_check {c : Prop} [Decidable c] {f : Unit → MacResult}
    (rest : c → Yields (f ()) Q) : Yields (check c >>= f) Q := by
  unfold check
  split
  · exact rest ‹_›
  · exact .error

theorem yields_read {p : Option Nat} {f : MacFrame → MacResult}
    (rest : ∀ frame, Yields (f frame) Q) : Yields (m.read p >>= f) Q :=
  Yields.bind (fun _ _ => trivial) fun frame _ => rest frame

variable (frame : MacFrame)

@[simp] theorem ledger_delete (p : Option Nat) : (m.delete p).ledger = m.ledger := by
  cases p <;> rfl

@[simp] theorem ledger_dropAck : m.dropAck.ledger = m.ledger := ledger_delete m.buf.txAck

@[simp] theorem ledger_dropBeacon : m.dropBeacon.ledger = m.ledger := ledger_delete m.buf.txBeacon

@[simp] theorem ledger_reqtMsgFromIFq : m.reqtMsgFromIFq.ledger = m.ledger := by
  unfold reqtMsgFromIFq
  split <;> rfl

@[simp] theorem ledger_askForPacket : m.askForPacket.ledger = m.ledger := by
  unfold askForPacket
  split
  · rfl
  · exact ledger_reqtMsgFromIFq

@[simp] theorem ledger_csmacaCancel : m.csmacaCancel.ledger = m.ledger := by
  unfold csmacaCancel
  split_ifs <;> rfl

@[simp] theorem ledger_csmacaStop : m.csmacaStop.ledger = m.ledger := by
  unfold csmacaStop
  split
  · exact ledger_csmacaCancel
  · rfl

theorem csmacaBegin_keeps (frame : Option Nat) (ackReq : Bool) :
    Keeps m (m.csmacaBegin frame ackReq) :=
  yields_check fun _ => .ok rfl

theorem csmacaStart_keeps (firsttime : Bool) (frame : Option Nat) (ackReq : Bool) :
    Keeps m (m.csmacaStart t firsttime frame ackReq) := by
  unfold csmacaStart
  split
  · exact .ok rfl
  · refine yields_check fun _ => Keeps.bind ?_ fun m₁ _ => yields_check fun _ => .ok ?_
    · exact .ite (csmacaBegin_keeps frame ackReq) (.ok rfl)
    · split_ifs <;> rfl

theorem csmacaTake_keeps (frame : Option Nat) : Keeps m (m.csmacaTake t frame) :=
  yields_read fun _ => (csmacaStart_keeps _ _ _).of_eq rfl

theorem csmacaResume_keeps : Keeps m (m.csmacaResume t) := by
  unfold csmacaResume
  split_ifs
  · exact csmacaTake_keeps _
  · exact csmacaTake_keeps _
  · exact (csmacaTake_keeps _).of_eq rfl
  · exact .ok rfl
  · exact .ok rfl

theorem csmacaTrxBeacon_keeps : Keeps m (m.csmacaTrxBeacon t) := by
  unfold csmacaTrxBeacon
  generalize ready : (if m.buf.txAck.isSome then m else m.plmeSetTrxStateRequest .rxOn) = m₁
  have same : m₁.ledger = m.ledger := by
    rw [← ready]
    split <;> rfl
  refine Keeps.of_eq ?_ same
  simp only
  split
  · refine yields_check fun _ => ?_
    split_ifs
    · exact (csmacaStart_keeps _ _ _).of_eq rfl
    · exact .ok rfl
    · exact .ok rfl
  · exact .ok rfl

@[simp] theorem ledger_endTask : m.endTask.ledger = { m.ledger with mcpsDataRequest := false } :=
  rfl

theorem ledger_dropData (f : MacStats → MacStats) :
    (m.dropData.withStats f).ledger = { (m.withStats f).ledger with txData := none } := by
  unfold dropData
  cases m.buf.txData <;> rfl

theorem ledger_dropGTS (f : MacStats → MacStats) :
    (m.dropGTS.withStats f).ledger = { (m.withStats f).ledger with txGTS := none } := by
  unfold dropGTS
  cases m.buf.txGTS <;> rfl

theorem clearTxPending_keeps : Keeps m m.clearTxPending := by
  unfold clearTxPending
  split
  · refine .after fun current => ?_
    exact yields_check fun _ => .ok rfl
  · exact .ok rfl

section Reports

variable (ending : m.ledger.Ending)

include ending

theorem taskSuccessData_balanced : Balances (m.taskSuccessData t) := by
  refine yields_check fun inUse => csmacaResume_keeps.yields ?_
  rw [ledger_askForPacket, ledger_dropData]
  exact ending.data_done inUse (m.stats.numTxDataSucc + 1) _ (Nat.succ_add ..)

theorem taskFailedData_balanced : Balances (m.taskFailedData t) := by
  refine yields_check fun inUse => .bind csmacaResume_keeps fun m₁ same => .ok ?_
  rw [ledger_askForPacket, same, ledger_dropData]
  exact ending.data_done inUse _ (m.stats.numTxDataFail + 1) rfl

theorem taskSuccessGTS_balanced : Balances m.taskSuccessGTS := by
  refine yields_check fun inUse => .bind clearTxPending_keeps fun m₁ same => .ok ?_
  rw [← same] at ending
  rw [ledger_askForPacket, ledger_dropGTS]
  exact ending.gts_done (same ▸ inUse) (m₁.stats.numTxGTSSucc + 1) _ (Nat.succ_add ..)

theorem taskFailedGTS_balanced : Balances m.taskFailedGTS := by
  refine yields_check fun inUse => .bind clearTxPending_keeps fun m₁ same => .ok ?_
  rw [← same] at ending
  rw [ledger_askForPacket, ledger_dropGTS]
  exact ending.gts_done (same ▸ inUse) _ (m₁.stats.numTxGTSFail + 1) rfl

end Reports

section Pending

variable (balanced : m.ledger.Balanced) (pending : m.taskP.mcpsDataRequest = true)

include balanced pending

theorem fsmDirect_balanced (pStatus : PHYenum) : Balances (m.fsmDirect t pStatus) := by
  have ending := balanced.ending pending
  unfold fsmDirect
  split
  · split
    · exact .ok balanced
    · exact csmacaResume_keeps.yields balanced
  · refine yields_read fun frame => ?_
    split
    · exact .ok balanced
    · exact taskSuccessData_balanced ending
  · refine yields_read fun _ => ?_
    simp only
    split
    · exact taskSuccessData_balanced ending
    · split
      · exact (csmacaResume_keeps.of_eq rfl).yields balanced
      · exact taskFailedData_balanced ending
  · exact .ok balanced

theorem fsmGTS_balanced (pStatus : PHYenum) : Balances (m.fsmGTS pStatus) := by
  have ending := balanced.ending pending
  unfold fsmGTS
  split
  · exact .ok balanced
  · refine yields_read fun frame => ?_
    split <;> exact .ok balanced
  · refine yields_read fun _ => ?_
    simp only
    split
    · exact .ok balanced
    · split
      · exact .ok balanced
      · exact taskFailedGTS_balanced ending
  · exact taskSuccessGTS_balanced ending
  · exact .ok balanced

theorem fsm_balanced (pStatus : PHYenum) : Balances (m.fsmMCPSDataRequest t pStatus) := by
  unfold fsmMCPSDataRequest
  split
  · exact fsmDirect_balanced balanced pending pStatus
  · exact .ok balanced
  · exact fsmGTS_balanced balanced pending pStatus

end Pending

theorem pending_of_waitsFor {frFunc : FrFunc} (waits : m.waitsFor frFunc = true) :
    m.taskP.mcpsDataRequest = true := by
  unfold waitsFor at waits
  exact (Bool.and_eq_true_iff.mp waits).1

theorem taskSuccessBeacon_keeps (anyCAP : Bool) : Keeps m (m.taskSuccessBeacon t anyCAP) := by
  unfold taskSuccessBeacon
  apply Keeps.bind
  · exact .ite (csmacaTrxBeacon_keeps.of_eq rfl) (.ok rfl)
  · intro m₁ _
    have same : (m₁.dropBeacon.withStats fun s =>
        { s with numTxBcnPkt := s.numTxBcnPkt + 1 }).ledger = m₁.ledger := ledger_dropBeacon
    exact .ite (csmacaResume_keeps.of_eq same) (.ok same)

theorem taskSuccessAck_keeps : Keeps m (m.taskSuccessAck t) :=
  yields_check fun _ => csmacaResume_keeps.of_eq ledger_dropAck

theorem dispatchAckSent_keeps : Keeps m (m.dispatchAckSent t) := by
  unfold dispatchAckSent
  refine .ite ?_ (.ite ?_ ?_)
  · exact yields_read fun _ => taskSuccessAck_keeps.of_eq rfl
  · refine yields_read fun frame => .ite ?_ ?_
    · exact taskSuccessAck_keeps.of_eq rfl
    · exact taskSuccessAck_keeps.of_eq rfl
  · exact taskSuccessAck_keeps.of_eq rfl

theorem alloc_frames (a : Nat) (frame : MacFrame) :
    Yields (m.alloc a frame) fun m' => ∃ frames, m' = { m with frames := frames } := by
  unfold alloc
  split
  · exact .ok ⟨_, rfl⟩
  · exact .error

theorem alloc_keeps (a : Nat) (frame : MacFrame) : Keeps m (m.alloc a frame) := by
  refine (alloc_frames a frame).mono ?_
  rintro _ ⟨frames, rfl⟩
  rfl

theorem transmit_keeps (p : Option Nat) : Keeps m (m.transmit p) := yields_read fun _ => .ok rfl

theorem handleTxAckBoundTimer_keeps : Keeps m m.handleTxAckBoundTimer :=
  .ite (transmit_keeps _) (.ok rfl)

theorem handleTxCmdDataBoundTimer_keeps : Keeps m m.handleTxCmdDataBoundTimer :=
  .ite (transmit_keeps _) (.ite (transmit_keeps _)
    (.ite (transmit_keeps _) (.ok rfl)))

theorem ledger_handleSDTimer : m.handleSDTimer.ledger = m.ledger := by
  simp only [handleSDTimer]
  split_ifs <;> rfl

theorem ledger_handleBcnRxTimer : m.handleBcnRxTimer.ledger = m.ledger := by
  unfold handleBcnRxTimer
  split
  · exact ledger_dropAck
  · rfl

theorem ledger_csmacaHandleRxOnConfirm (status : PHYenum) :
    (m.csmacaHandleRxOnConfirm t status).ledger = m.ledger := by
  unfold csmacaHandleRxOnConfirm
  split_ifs <;> rfl

theorem handleFinalCapTimer_keeps : Keeps m m.handleFinalCapTimer := yields_check fun _ => .ok rfl

theorem sendBeacon_keeps (a : Nat) : Keeps m (m.sendBeacon a) :=
  yields_check fun _ => (alloc_keeps a _).bind fun _ _ => yields_check fun _ => .ok rfl

theorem handleBcnTxTimer_keeps (a : Nat) : Keeps m (m.handleBcnTxTimer a) := by
  refine .bind (.ite (.ok rfl) (.ite (.ok ?_) (sendBeacon_keeps a))) fun _ _ => .ok rfl
  exact ledger_dropAck

theorem startPANCoor_keeps (a : Nat) : Keeps m (m.startPANCoor a) :=
  yields_check fun _ => (handleBcnTxTimer_keeps a).of_eq rfl

theorem sendOnTxOn_keeps : Keeps m (m.sendOnTxOn t) := by
  unfold sendOnTxOn
  refine .ite (.ok rfl) (.ite (yields_read fun _ => ?_) (.ite (transmit_keeps _)
      (.ite handleTxCmdDataBoundTimer_keeps (yields_read fun _ => ?_))))
  · exact .ite handleTxAckBoundTimer_keeps (.ok rfl)
  · exact .ite handleTxCmdDataBoundTimer_keeps (.ok rfl)

theorem handlePLMESetTrxStateConfirm_keeps (confirmed : PHYenum) :
    Keeps m (m.handlePLMESetTrxStateConfirm t confirmed) := by
  unfold handlePLMESetTrxStateConfirm
  refine Keeps.of_eq (.ite sendOnTxOn_keeps (.ok rfl)) ?_
  split
  · exact ledger_csmacaHandleRxOnConfirm _
  · rfl

theorem ledger_mcpsDataIndication : (m.mcpsDataIndication frame).ledger = m.ledger := by
  unfold mcpsDataIndication
  cases isGTS : frame.isGTS <;> simp [ledger, emit, withStats]

section Events

variable (balanced : m.ledger.Balanced)

include balanced

theorem dispatchSent_balanced (anyCAP : Bool) : Balances (m.dispatchSent t anyCAP) := by
  unfold dispatchSent
  split_ifs
  · exact yields_read fun _ => ((taskSuccessBeacon_keeps anyCAP).of_eq rfl).yields balanced
  · exact dispatchAckSent_keeps.yields balanced
  · refine yields_check fun waits => yields_read fun _ => ?_
    exact fsm_balanced balanced (pending_of_waitsFor waits) .success
  · refine yields_check fun waits => yields_check fun _ => ?_
    exact fsm_balanced balanced (pending_of_waitsFor waits) .success
  · exact .ok balanced

/-- A late acknowledgement ends the task of the frame in the buffer, so that task is pending. -/
theorem dispatchAck_balanced (sent : m.buf.txPkt ≠ none) : Balances (m.dispatchAck t) := by
  unfold dispatchAck
  split_ifs with same waits _ waits
  · exact fsm_balanced balanced (pending_of_waitsFor waits) .success
  · have inUse : m.buf.txData ≠ none := same ▸ sent
    have pending := (balanced.data inUse).1
    exact taskSuccessData_balanced (balanced.ending pending)
  · exact fsm_balanced balanced (pending_of_waitsFor waits) .success
  · exact .ok balanced
  · exact .ok balanced

theorem dispatchAckTimeout_balanced : Balances (m.dispatchAckTimeout t) := by
  unfold dispatchAckTimeout
  split_ifs with _ waits
  · exact fsm_balanced balanced (pending_of_waitsFor waits) .busy
  · exact .ok balanced
  · refine yields_check fun waits => yields_check fun _ => ?_
    exact fsm_balanced balanced (pending_of_waitsFor waits) .busy
  · exact .ok balanced

theorem dispatchCallBack_balanced (pStatus : PHYenum) :
    Balances (m.dispatchCallBack t pStatus) := by
  unfold dispatchCallBack
  split_ifs
  · exact .ok balanced
  · exact yields_check fun waits => fsm_balanced balanced (pending_of_waitsFor waits) pStatus
  · exact .ok balanced

theorem csmacaCallBack_balanced (status : PHYenum) : Balances (m.csmacaCallBack t status) := by
  unfold csmacaCallBack
  split
  · exact .ok balanced
  · apply dispatchCallBack_balanced
    exact balanced

theorem handlePDDataConfirm_balanced (status : PHYenum) (anyCAP : Bool) :
    Balances (m.handlePDDataConfirm t status anyCAP) := by
  unfold handlePDDataConfirm
  refine .ite ?_ (.ite ?_ (.ite ?_ (.ite .error (.ok balanced))))
  · apply dispatchSent_balanced
    exact balanced
  · rw [yields_ok, ledger_dropBeacon]
    exact balanced
  · rw [yields_ok, ledger_dropAck]
    exact balanced

theorem csmacaDone_balanced (status : PHYenum) : Balances (m.csmacaDone t status) := by
  apply csmacaCallBack_balanced
  exact balanced

theorem handlePLMECCAIdle_balanced : Balances (m.handlePLMECCAIdle t) := by
  unfold handlePLMECCAIdle
  split
  · exact csmacaDone_balanced balanced .idle
  · refine .ite (.ite ?_ (.ok balanced)) (.ok balanced)
    apply csmacaDone_balanced
    exact balanced

theorem handlePLMECCABusy_balanced : Balances (m.handlePLMECCABusy t) := by
  unfold handlePLMECCABusy
  refine .ite ?_ ?_
  · apply csmacaDone_balanced
    exact balanced
  · exact (csmacaStart_keeps _ _ _).yields balanced

theorem handlePLMECCAConfirm_balanced (status : PHYenum) :
    Balances (m.handlePLMECCAConfirm t status) := by
  unfold handlePLMECCAConfirm
  refine .ite (.ite ?_ ?_) (.ok balanced)
  · apply handlePLMECCAIdle_balanced
    exact balanced
  · apply handlePLMECCABusy_balanced
    exact balanced

theorem handleAckTimeoutTimer_balanced : Balances (m.handleAckTimeoutTimer t) := by
  unfold handleAckTimeoutTimer
  split
  · exact dispatchAckTimeout_balanced balanced
  · exact .error

theorem handleIfsTimer_balanced : Balances (m.handleIfsTimer t) := by
  refine yields_check fun _ => .ite (.ok balanced) (.ite (yields_read fun frame => ?_)
    (yields_check fun waits => ?_))
  · have same : ((m.mcpsDataIndication frame).delete m.buf.rxData).ledger = m.ledger := by
      rw [ledger_delete, ledger_mcpsDataIndication]
    rw [← same] at balanced
    exact .ok balanced
  · exact fsm_balanced balanced waits.1 .success

theorem gtsStarts_balanced : Balances (m.gtsStarts t) :=
  yields_check fun waits => fsm_balanced balanced waits.1 .success

theorem handleGtsTimerCoor_balanced : Balances (m.handleGtsTimerCoor t) := by
  refine .after fun current => ?_
  refine .bind (P := fun m₁ => m₁.ledger.Balanced) ?_ fun m₁ balanced => .ok ?_
  · refine .ite (.ok balanced) (.ite ?_ (.ok balanced))
    apply gtsStarts_balanced
    exact balanced
  · split
    · exact balanced
    · exact balanced

theorem handleGtsTimer_balanced : Balances (m.handleGtsTimer t) := by
  refine .ite (handleGtsTimerCoor_balanced balanced) (.ite ?_ (.ok balanced))
  refine .bind (P := fun m₁ => m₁.ledger.Balanced) ?_ fun m₁ balanced => .ok balanced
  exact .ite (.ok balanced) (.ite (gtsStarts_balanced balanced) (.ok balanced))

end Events

section Requested

variable (balanced : m.ledger.Balanced) (pending : m.taskP.mcpsDataRequest = true)

include balanced pending

theorem requestDirect_balanced (direct : m.taskP.mcpsDataRequestTxOption = .direct) (a : Nat) :
    Balances (m.requestDirect t a) := by
  refine yields_check fun _ => csmacaResume_keeps.yields ?_
  exact ⟨balanced.total, fun _ => ⟨pending, direct⟩, balanced.gts⟩

theorem requestGTS_balanced (gts : m.taskP.mcpsDataRequestTxOption = .gts) (a : Nat) :
    Balances (m.requestGTS t a) := by
  have filled : { m.ledger with txGTS := some a : Ledger }.Balanced :=
    ⟨balanced.total, balanced.data, fun _ => ⟨pending, gts⟩⟩
  refine yields_check fun _ => .ite (yields_check fun _ => ?_) (.ok filled)
  refine .ite ?_ (.ok filled)
  apply fsm_balanced
  · exact filled
  · exact pending

end Requested

section Packets

variable (handed : m.ledger.Handed)

include handed

theorem dropUpper_balanced : m.dropUpper.ledger.Balanced := by
  unfold dropUpper
  rw [ledger_reqtMsgFromIFq]
  refine ⟨?_, handed.data, handed.gts⟩
  have total := handed.total
  simp only [ledger, withStats, Ledger.reported] at total ⊢
  omega

theorem taskBegun_balanced (idle : m.taskP.mcpsDataRequest = false) (txOption : TxOption) :
    { m.ledger with mcpsDataRequest := true, txOption := txOption : Ledger }.Balanced where
  total := by
    have total := handed.total
    simp only [ledger, idle, Bool.toNat_false] at total
    exact total
  data inUse := absurd ((handed.data inUse).1.symm.trans idle) (by decide)
  gts inUse := absurd ((handed.gts inUse).1.symm.trans idle) (by decide)

theorem mcpsDataRequest_balanced (dstAddr : UInt16) (a : Nat) :
    Balances (m.mcpsDataRequest t dstAddr a) := by
  unfold mcpsDataRequest
  refine yields_ite (fun _ => .error) fun busy => .bind (alloc_frames a _) ?_
  have begun := taskBegun_balanced handed (Bool.eq_false_of_not_eq_true busy) m.params.dataTransMode
  rintro _ ⟨frames, rfl⟩
  simp only
  split
  · rename_i mode
    exact requestDirect_balanced begun rfl mode a
  · exact .ok begun
  · rename_i mode
    exact requestGTS_balanced begun rfl mode a

theorem toCoordinator_balanced (a : Nat) : Balances (m.toCoordinator t a) := by
  have dropped := dropUpper_balanced handed
  have requested := mcpsDataRequest_balanced (t := t) handed m.sf.macCoordShortAddress a
  exact .ite (.ok dropped) (.ite (yields_check fun _ => .ite (.ok dropped) requested) requested)

theorem toDevice_balanced (destAddr : UInt16) (a : Nat) : Balances (m.toDevice t destAddr a) := by
  have dropped := dropUpper_balanced handed
  refine .ite (.ok dropped) (.ite (yields_check fun _ => ?_)
    (mcpsDataRequest_balanced handed destAddr a))
  split
  · exact .ok dropped
  · apply mcpsDataRequest_balanced
    exact handed

end Packets

theorem handleUpperMsg_balanced (balanced : m.ledger.Balanced) (packet : UpperPacket) (a : Nat) :
    Balances (m.handleUpperMsg t packet a) := by
  unfold handleUpperMsg
  generalize counted : (m.withStats fun s => { s with numUpperPkt := s.numUpperPkt + 1 }) = m₁
  have handed : m₁.ledger.Handed := by
    subst counted
    exact ⟨congrArg (· + 1) balanced.total, balanced.data, balanced.gts⟩
  have dropped := dropUpper_balanced handed
  refine .ite (.ok dropped) (.ite (.ok dropped) (.ite (toCoordinator_balanced handed a) ?_))
  cases packet.dest with
  | none => exact .error
  | some destAddr => exact toDevice_balanced handed destAddr a

theorem acknowledge_keeps (a : Nat) : Keeps m (m.acknowledge frame a) := by
  refine .ite (.ok rfl) (.ite ?_ (.ite (.ok rfl) (.ok rfl)))
  refine .ite (.ok rfl) (Keeps.bind ?_ fun m₁ _ => .ok ledger_csmacaStop)
  exact (alloc_keeps a _).bind fun _ _ => yields_check fun _ => .ok rfl

theorem associate_keeps (info : BeaconInfo) : Keeps m (m.associate frame info) :=
  yields_check fun _ => yields_check fun _ => .ite (.ite .error (.ok rfl)) (.ok rfl)

theorem trackGts_keeps : Keeps m m.trackGts :=
  .ite (.ok rfl) (yields_check fun _ => .ok rfl)

theorem handleBeacon_keeps (info : BeaconInfo) (a : Nat) :
    Keeps m (m.handleBeacon t frame info a) := by
  refine yields_check fun _ => Keeps.bind ?_ fun m₁ _ => Keeps.bind (.ok rfl)
    fun m₂ _ => Keeps.bind ?_ fun m₃ _ => .ok (ledger_delete (some a))
  · exact .ite ((associate_keeps frame info).of_eq rfl) (trackGts_keeps.of_eq rfl)
  · exact .ite csmacaTrxBeacon_keeps (.ok rfl)

theorem handleCommand_keeps (a : Nat) : Keeps m (m.handleCommand frame a) := by
  unfold handleCommand
  split
  · exact yields_check fun _ => .ok rfl
  · exact yields_check fun _ => .ok rfl
  · exact .error
  · exact .ok rfl

theorem read_some {p : Option Nat} : Yields (m.read p) fun _ => p ≠ none := by
  cases p with
  | none => exact .error
  | some a => exact fun _ _ => Option.some_ne_none a

theorem csmacaStop_txPkt : m.csmacaStop.buf.txPkt = m.buf.txPkt := by
  unfold csmacaStop csmacaCancel
  split_ifs <;> rfl

section Balanced

variable (balanced : m.ledger.Balanced)

include balanced

theorem handleAck_balanced (frame : MacFrame) (a : Nat) : Balances (m.handleAck t frame a) := by
  have dropped : (m.delete (some a)).ledger.Balanced := balanced
  refine .ite (.ok dropped) (.ite (.ok dropped) (.bind read_some fun frame sent =>
      .ite (.ok dropped) (.ite ?_ (.ite (.ok dropped) ?_))))
  · refine .bind (P := fun m₁ => m₁.ledger.Balanced) ?_ fun m₁ done => .ok done
    apply dispatchAck_balanced
    · exact balanced
    · exact sent
  · refine .bind (P := fun m₁ => m₁.ledger.Balanced) ?_ fun m₁ done => .ok done
    apply dispatchAck_balanced
    · rwa [ledger_csmacaStop]
    · rwa [csmacaStop_txPkt]

theorem processFrame_balanced (frame : MacFrame) (a : Nat)
    (info : BeaconInfo) : Balances (m.processFrame t frame a info) := by
  unfold processFrame
  split
  · exact (handleBeacon_keeps frame info a).yields balanced
  · exact yields_check fun _ => .ok balanced
  · exact handleAck_balanced balanced frame a
  · exact (handleCommand_keeps frame a).yields balanced

theorem checkAndProcess_balanced (frame : MacFrame) (a : Nat) (i : Int32)
    (info : BeaconInfo) : Balances (m.checkAndProcess t frame a i info) := by
  unfold checkAndProcess
  split
  · exact .error
  · exact .ok balanced
  · apply processFrame_balanced
    exact balanced

theorem handleLowerMsg_balanced (frame : MacFrame) (a ack : Nat) (i : Int32) (info : BeaconInfo) :
    Balances (m.handleLowerMsg t frame a ack i info) := by
  refine .bind ((alloc_keeps a frame).yields balanced) fun m₁ balanced =>
    .ite (.ok balanced) ?_
  refine .after fun _ =>
    Yields.bind ((acknowledge_keeps frame ack).yields balanced) fun m₂ balanced => ?_
  exact .ite (.ok balanced) (.ite (.ok balanced) (checkAndProcess_balanced balanced frame a i info))

theorem handleMessage_balanced (e : Event) : Balances (m.handleMessage t e) := by
  cases e with
  | upper packet a => exact handleUpperMsg_balanced balanced packet a
  | lower frame a ack i info => exact handleLowerMsg_balanced balanced frame a ack i info
  | pdDataConfirm status anyCAP => exact handlePDDataConfirm_balanced balanced status anyCAP
  | plmeCCAConfirm status => exact handlePLMECCAConfirm_balanced balanced status
  | plmeSetTrxStateConfirm status =>
    exact (handlePLMESetTrxStateConfirm_keeps status).yields balanced
  | backoffTimer => exact .ok balanced
  | deferCCATimer => exact .ok balanced
  | bcnRxTimer =>
    rw [← ledger_handleBcnRxTimer] at balanced
    exact .ok balanced
  | bcnTxTimer a => exact (handleBcnTxTimer_keeps a).yields balanced
  | ackTimeoutTimer =>
    apply handleAckTimeoutTimer_balanced
    exact balanced
  | txAckBoundTimer => exact handleTxAckBoundTimer_keeps.yields balanced
  | txCmdDataBoundTimer => exact handleTxCmdDataBoundTimer_keeps.yields balanced
  | ifsTimer => exact handleIfsTimer_balanced balanced
  | sdTimer =>
    rw [← ledger_handleSDTimer] at balanced
    exact .ok balanced
  | finalCapTimer => exact handleFinalCapTimer_keeps.yields balanced
  | gtsTimer =>
    apply handleGtsTimer_balanced
    exact balanced
  | startPANCoorTimer a => exact (startPANCoor_keeps a).yields balanced
  | deviceCall call => exact .ok balanced

end Balanced

theorem start_balanced (params : MacParams) (macSuperframeOrder macBSN macDSN : UInt8) :
    Yields (start params macSuperframeOrder macBSN macDSN) fun m => m.ledger.Balanced := by
  have empty : ∀ coor params, (initial params coor macBSN macDSN).ledger.Balanced :=
    fun coor params =>
    ⟨rfl, fun inUse => absurd rfl inUse, fun inUse => absurd rfl inUse⟩
  unfold start
  cases PANCoordinator.startPANCoor params.macBeaconOrder macSuperframeOrder with
  | error text => exact .error
  | ok coor =>
    exact .ite .error (.ite (.ok (empty coor params))
      (.ok (empty coor { params with macBeaconOrder := 15 })))

def Accounted (m : Mac) : Prop :=
  m.stats.numUpperPkt = m.stats.numUpperPktLost + m.stats.numTxDataSucc + m.stats.numTxDataFail +
    m.stats.numTxGTSSucc + m.stats.numTxGTSFail + if m.taskP.mcpsDataRequest then 1 else 0

def Handles (m : Mac) (e : Event × Timing) (m' : Mac) : Prop := m.handleMessage e.2 e.1 = .ok m'

theorem Accounted.of_balanced (balanced : m.ledger.Balanced) : m.Accounted := by
  have total := balanced.total
  unfold Accounted
  cases pending : m.taskP.mcpsDataRequest <;> simpa [ledger, Ledger.reported, pending] using total

/-- Every packet handed down is reported dropped, sent or failed once, or is in progress. -/
theorem upper_packets_accounted {params : MacParams} {macSuperframeOrder macBSN macDSN : UInt8}
    {m : Mac} (started : start params macSuperframeOrder macBSN macDSN = .ok m)
    (events : List (Event × Timing)) : Trace.Always Handles Accounted m events := by
  have keeps : ∀ (m : Mac) e m', m.ledger.Balanced → Handles m e m' → m'.ledger.Balanced :=
    fun m e m' balanced handled => handleMessage_balanced balanced e.1 m' handled
  exact Trace.always_of_invariant keeps (fun _ => Accounted.of_balanced)
    (start_balanced params _ _ _ m started) events

def sensorParams : MacParams := ⟨false, .direct, false, false, 6, true, 7, true⟩

def idleClock : Timing := ⟨true, 0, true, false⟩

def firstBeacon : MacFrame :=
  ⟨⟨.beacon, 1, 0⟩, .none, .associationRequest, false, 0, 1, 0, 0, false⟩

def ackFor (bdsn : UInt8) : MacFrame :=
  ackFrame ⟨⟨.data, 7, bdsn⟩, .none, .associationRequest, true, 2, 1, 1, 1, false⟩

/-- A second packet comes too early, and the acknowledgement arrives when the retry has begun. -/
def lateAck : List (Event × Timing) :=
  [.lower firstBeacon 0 0 0 ⟨6, 15, 7, 0⟩, .upper ⟨20, true, none⟩ 1, .upper ⟨20, true, none⟩ 2,
    .backoffTimer, .plmeSetTrxStateConfirm .success, .plmeCCAConfirm .idle,
    .plmeSetTrxStateConfirm .success, .plmeCCAConfirm .idle, .plmeSetTrxStateConfirm .success,
    .pdDataConfirm .success true, .ackTimeoutTimer, .lower (ackFor 40) 3 3 0 ⟨6, 15, 7, 0⟩].map
      fun e => (e, idleClock)

theorem lateAck_accounted : ∃ m m', start sensorParams 3 9 40 = .ok m ∧
    lateAck.foldlM (fun m e => (m.handleMessage e.2 e.1).toOption) m = some m' ∧
    m'.stats.numUpperPkt = 2 ∧ m'.stats.numUpperPktLost = 1 ∧ m'.stats.numTxDataSucc = 1 ∧
    m'.taskP.mcpsDataRequest = false ∧ m'.Accounted := by
  obtain ⟨m, started⟩ : ∃ m, start sensorParams 3 9 40 = .ok m := ⟨_, rfl⟩
  obtain ⟨m', ran, counts⟩ : ∃ m', lateAck.foldlM (fun m e => (m.handleMessage e.2 e.1).toOption)
    m = some m' ∧
      m'.stats.numUpperPkt = 2 ∧ m'.stats.numUpperPktLost = 1 ∧ m'.stats.numTxDataSucc = 1 ∧
      m'.taskP.mcpsDataRequest = false := by
    cases started
    exact ⟨_, rfl, rfl, rfl, rfl, rfl⟩
  have agrees : ∀ (m : Mac) e m', (m.handleMessage e.2 e.1).toOption = some m' → Handles m e m' :=
    fun _ _ _ => Outcome.eq_ok_of_toOption
  have accounted := (upper_packets_accounted started lateAck).last agrees ran
  exact ⟨m, m', started, ran, counts.1, counts.2.1, counts.2.2.1, counts.2.2.2, accounted⟩

end Mac

end Srwsn
