import Srwsn.Tcp.SendOrder

/-! Whether every segment is taken from inside the send queue. -/
namespace Srwsn.Sender

open Serial Outcome

/-- No data behind a FIN, no FIN counted as data, and a full segment where one is sent without
looking. -/
def Fits (s : Sender) : Event → Prop
  | .send byteLength =>
    ahead s.base s.sendQueue.endSeq + byteLength.toNat + 2 < 2 ^ 31 ∧
      (s.sendFin = true → byteLength = 0)
  | .close => True
  | .ack _ => True
  | .call c => 0 < s.sndMss ∧ match c with
    | .sendData _ _ => ¬ (s.sackEnabled = true ∧ s.afterRto = true)
    | .sendProbe => s.Straight s.sndMax
    | .retransmitOneSegment =>
      s.Straight s.sndUna ∧ seqLE s.sendQueue.beginSeq s.sndUna = true ∧
        ¬ (s.sndMax = s.sendQueue.endSeq + 1 ∧ s.sndMax - s.sndUna ≤ s.sndMss)
    | .retransmitData =>
      ¬ (s.sackEnabled = true ∧ s.afterRto = true) ∧ seqLE s.sendQueue.beginSeq s.sndUna = true
    | .sendSegmentDuringLossRecoveryPhase seqNum =>
      s.Straight seqNum ∧ seqLE s.sndUna seqNum = true ∧ seqLE s.sendQueue.beginSeq seqNum = true ∧
        s.sndMss ≤ s.sendQueue.getBytesAvailable seqNum
    | .sendOneNewSegment fullSegmentsOnly _ =>
      s.Straight s.sndMax ∧ (fullSegmentsOnly = true ∨ s.sendQueue.getBytesAvailable s.sndMax = 0 ∨
        s.sndMss ≤ s.sendQueue.getBytesAvailable s.sndMax)
    | .rexmitTimeout => True
    | .setLossRecovery _ => True

instance (s : Sender) : (event : Event) → Decidable (s.Fits event)
  | .send _ => inferInstanceAs (Decidable (_ ∧ (_ → _)))
  | .close => .isTrue trivial
  | .ack _ => .isTrue trivial
  | .call (.sendData _ _) => inferInstanceAs (Decidable (_ ∧ ¬ _))
  | .call .sendProbe => inferInstanceAs (Decidable (_ ∧ s.Straight _))
  | .call .retransmitOneSegment => inferInstanceAs (Decidable (_ ∧ s.Straight _ ∧ _ ∧ ¬ _))
  | .call .retransmitData => inferInstanceAs (Decidable (_ ∧ ¬ _ ∧ _))
  | .call (.sendSegmentDuringLossRecoveryPhase _) =>
    inferInstanceAs (Decidable (_ ∧ s.Straight _ ∧ _ ∧ _ ∧ _))
  | .call (.sendOneNewSegment _ _) => inferInstanceAs (Decidable (_ ∧ s.Straight _ ∧ (_ ∨ _ ∨ _)))
  | .call .rexmitTimeout => inferInstanceAs (Decidable (_ ∧ True))
  | .call (.setLossRecovery _) => inferInstanceAs (Decidable (_ ∧ True))

structure Housed (s : Sender) : Prop where
  una : ahead s.base s.sndUna ≤ 2
  nxt : ahead s.base s.sndUna ≤ ahead s.base s.sndNxt
  unaMax : ahead s.base s.sndUna ≤ ahead s.base s.sndMax
  nxtFirst : 1 ≤ ahead s.base s.sndNxt
  maxFirst : 1 ≤ ahead s.base s.sndMax
  nxtTop : ahead s.base s.sndNxt ≤ ahead s.base s.sendQueue.endSeq + 1
  maxTop : ahead s.base s.sndMax ≤ ahead s.base s.sendQueue.endSeq + 1
  queue : 1 ≤ ahead s.base s.sendQueue.endSeq
  short : ahead s.base s.sendQueue.endSeq + 2 < 2 ^ 31
  fin : s.sendFin = true → s.sndFinSeq = s.sendQueue.endSeq

variable {s : Sender}

theorem init_housed (iss sndMss sndWnd : UInt32) (sackEnabled limitedTransmitEnabled : Bool) :
    (init iss sndMss sndWnd sackEnabled limitedTransmitEnabled).Housed := by
  have one : ahead iss (iss + 1) = 1 := by simp [ahead]
  constructor
  all_goals simp [init, base, TCPVirtualDataSendQueue.init, one]

section Housed

variable (housed : s.Housed)

include housed

theorem toNat_getBytesAvailable {fromSeq : UInt32}
    (top : ahead s.base fromSeq ≤ ahead s.base s.sendQueue.endSeq + 1) :
    (s.sendQueue.getBytesAvailable fromSeq).toNat =
    ahead s.base s.sendQueue.endSeq - ahead s.base fromSeq := by
  have short := housed.short
  have less := @seqLess_iff s.base fromSeq s.sendQueue.endSeq (by omega) (by omega)
  unfold TCPVirtualDataSendQueue.getBytesAvailable
  split_ifs with before
  · exact ahead_of_le (less.mp before).le
  · rw [less, Nat.not_lt] at before
    rw [UInt32.toNat_zero]
    omega

theorem sendSegment_housed {bytes : UInt32} (straight : s.Straight s.sndNxt)
    (inside : ahead s.base s.sndNxt + bytes.toNat ≤ ahead s.base s.sendQueue.endSeq) :
    ∃ s', s.sendSegment bytes = .ok s' ∧ s'.Housed ∧ Same s s' ∧
      s'.afterRto = (s.afterRto && !seqGE (s.sndNxt + bytes) s.sndMax) ∧
      (ahead s.base s'.sndNxt = ahead s.base s.sndNxt + bytes.toNat ∨ s.sendFin = true ∧
        s'.sndNxt = s.sndFinSeq + 1 ∧
          ahead s.base s.sndNxt + bytes.toNat = ahead s.base s.sendQueue.endSeq) := by
  obtain ⟨una, nxt, unaMax, nxtFirst, maxFirst, nxtTop, maxTop, queue, short, fin⟩ := housed
  have whole := @ahead_add s.base s.sndNxt bytes (by omega)
  have above : seqLE s.sendQueue.beginSeq s.sndNxt = true :=
    (@seqLE_iff s.base _ _ (by rw [ahead_begin]; omega) (by omega)).mpr
      (by rw [ahead_begin]; exact nxtFirst)
  have below : seqLE (s.sndNxt + bytes) s.sendQueue.endSeq = true :=
    (@seqLE_iff s.base _ _ (by omega) (by omega)).mpr (by omega)
  have made : s.sendSegment bytes = .ok (s.sent s.sndNxt bytes) := by
    simp [sendSegment, forwarded_eq straight, TCPVirtualDataSendQueue.createSegmentWithBytes,
      above, below]
  have same := sent_same s s.sndNxt bytes
  have next := sent_sndNxt s s.sndNxt bytes
  have moved : ahead s.base (s.sent s.sndNxt bytes).sndNxt = ahead s.base s.sndNxt + bytes.toNat ∨
      s.sendFin = true ∧ (s.sent s.sndNxt bytes).sndNxt = s.sndFinSeq + 1 ∧
        ahead s.base s.sndNxt + bytes.toNat = ahead s.base s.sendQueue.endSeq := by
    rw [next]
    split_ifs with last
    · rw [Bool.and_eq_true, beq_iff_eq] at last
      refine .inr ⟨last.1, rfl, ?_⟩
      rw [← whole, last.2, fin last.1]
    · exact .inl whole
  have range : ahead s.base s.sndNxt ≤ ahead s.base (s.sent s.sndNxt bytes).sndNxt ∧
      ahead s.base (s.sent s.sndNxt bytes).sndNxt ≤ ahead s.base s.sendQueue.endSeq + 1 := by
    rcases moved with plain | ⟨closing, beyond, atEnd⟩
    · omega
    · have one := @ahead_add s.base s.sendQueue.endSeq 1 (by rw [UInt32.toNat_one]; omega)
      rw [UInt32.toNat_one] at one
      rw [beyond, fin closing, one]
      omega
  refine ⟨_, made, ?_, same, sent_afterRto s _ _, moved⟩
  constructor
  all_goals simp only [same.base, same.sndUna, same.sendQueue, sent_sndMax, same.sendFin,
    same.sndFinSeq]
  case fin => exact fin
  all_goals omega

variable {seqNum : UInt32}

theorem Housed.set (above : ahead s.base s.sndUna ≤ ahead s.base seqNum)
    (first : 1 ≤ ahead s.base seqNum)
    (top : ahead s.base seqNum ≤ ahead s.base s.sendQueue.endSeq + 1) : (s.setNxt seqNum).Housed :=
  { housed with nxt := above, nxtFirst := first, nxtTop := top }

theorem Housed.setMax : (s.setNxt s.sndMax).Housed :=
  housed.set housed.unaMax housed.maxFirst housed.maxTop

theorem Housed.raiseTo (above : ahead s.base s.sndUna ≤ ahead s.base seqNum)
    (first : 1 ≤ ahead s.base seqNum)
    (top : ahead s.base seqNum ≤ ahead s.base s.sendQueue.endSeq + 1) :
    Housed { s with sndMax := seqNum } :=
  { housed with unaMax := above, maxFirst := first, maxTop := top }

theorem Housed.raise : Housed { s with sndMax := s.sndNxt } :=
  housed.raiseTo housed.nxt housed.nxtFirst housed.nxtTop

theorem raiseMax_housed : s.raiseMax.Housed := by
  unfold raiseMax
  split_ifs
  · exact housed
  · exact housed.raise

theorem sendSegments_housed (some : 0 < s.sndMss) (idle : s.Idle) (fuel : Nat)
    {bytesToSend : UInt32} (inside : bytesToSend = 0 ∨ ahead s.base s.sndNxt + bytesToSend.toNat ≤
      ahead s.base s.sendQueue.endSeq) :
    Averts .outsideQueue (sendSegments fuel bytesToSend s) Housed := by
  induction fuel generalizing s bytesToSend with
  | zero => exact .error nofun
  | succ fuel ih =>
    unfold sendSegments
    refine averts_ite (fun enough => ?_) fun _ => .ok housed
    have some' : 0 < s.sndMss.toNat := some
    have enough' := UInt32.le_iff_toNat_le.mp enough
    have inside' : ahead s.base s.sndNxt + bytesToSend.toNat ≤ ahead s.base s.sendQueue.endSeq := by
      rcases inside with rfl | inside
      · rw [UInt32.toNat_zero] at enough'
        omega
      · exact inside
    obtain ⟨s', made, housed', same, after, moved⟩ :=
      sendSegment_housed housed (straight_of_not idle _) (show _ + s.sndMss.toNat ≤ _ by omega)
    rw [made]
    have left : (bytesToSend - s'.sndMss).toNat = bytesToSend.toNat - s.sndMss.toNat := by
      rw [same.sndMss]
      exact UInt32.toNat_sub_of_le _ _ enough
    refine ih housed' (same.sndMss ▸ some) (same.straight idle after) ?_
    rw [same.base, same.sendQueue, left]
    rcases moved with plain | ⟨-, -, atEnd⟩
    · exact .inr (by omega)
    · refine .inl (UInt32.toNat_inj.mp ?_)
      rw [left, UInt32.toNat_zero]
      omega

theorem sendFromNxt_housed (some : 0 < s.sndMss) (idle : s.Idle) (fullSegmentsOnly : Bool)
    (congestionWindow : UInt32) :
    Averts .outsideQueue (s.sendFromNxt fullSegmentsOnly congestionWindow) Housed := by
  have available := toNat_getBytesAvailable housed housed.nxtTop
  unfold sendFromNxt
  refine averts_ite (fun _ => .ok housed) fun buffered => ?_
  refine .ite (.ok housed) ?_
  refine .ite (.ok housed) ?_
  have buffered' : (s.sendQueue.getBytesAvailable s.sndNxt).toNat ≠ 0 := fun none =>
    buffered (UInt32.toNat_inj.mp none)
  have inside : ∀ effectiveWin : UInt32, ahead s.base s.sndNxt +
      (if s.sendQueue.getBytesAvailable s.sndNxt < effectiveWin then
        s.sendQueue.getBytesAvailable s.sndNxt else effectiveWin).toNat ≤
      ahead s.base s.sendQueue.endSeq := by
    intro effectiveWin
    split_ifs with less
    · omega
    · rw [UInt32.lt_iff_toNat_lt] at less
      omega
  refine .bind (P := Housed) ?_ fun s' housed' => .ok (raiseMax_housed housed')
  refine .ite ?_ (sendSegments_housed housed some idle _ (.inr (inside _)))
  obtain ⟨s', made, housed', -⟩ := sendSegment_housed housed (straight_of_not idle _) (inside _)
  rw [made]
  exact .ok housed'

theorem sendData_housed (some : 0 < s.sndMss) (idle : s.Idle) (fullSegmentsOnly : Bool)
    (congestionWindow : UInt32) :
    Averts .outsideQueue (s.sendData fullSegmentsOnly congestionWindow) Housed := by
  unfold sendData
  refine .ite ?_ ?_
  · exact sendFromNxt_housed housed some idle _ _
  · exact sendFromNxt_housed housed.setMax some idle _ _

theorem sendProbe_housed (straight : s.Straight s.sndMax) :
    Averts .outsideQueue s.sendProbe Housed := by
  have available := toNat_getBytesAvailable housed housed.maxTop
  have same := setNxt_same s s.sndMax
  unfold sendProbe
  refine averts_ite (fun _ => .ok housed.setMax) fun buffered => ?_
  have buffered' : (s.sendQueue.getBytesAvailable s.sndMax).toNat ≠ 0 := fun none =>
    buffered (UInt32.toNat_inj.mp none)
  obtain ⟨s', made, housed', -⟩ :=
    sendSegment_housed housed.setMax straight (show _ + (1 : UInt32).toNat ≤ _ by
      rw [same.base, setNxt_sndNxt, same.sendQueue, UInt32.toNat_one]
      omega)
  rw [made]
  exact .ok housed'.raise

theorem Housed.first (acked : seqLE s.sendQueue.beginSeq s.sndUna = true) :
    1 ≤ ahead s.base s.sndUna := by
  have una := housed.una
  have order :=
    @seqLE_iff s.base s.sendQueue.beginSeq s.sndUna (by rw [ahead_begin]; omega) (by omega)
  have le := order.mp acked
  rwa [ahead_begin] at le

theorem Housed.setUna (acked : seqLE s.sendQueue.beginSeq s.sndUna = true) :
    (s.setNxt s.sndUna).Housed :=
  housed.set le_rfl (housed.first acked) (housed.unaMax.trans housed.maxTop)

theorem retransmitOneSegment_housed (straight : s.Straight s.sndUna)
    (acked : seqLE s.sendQueue.beginSeq s.sndUna = true)
    (whole : ¬ (s.sndMax = s.sendQueue.endSeq + 1 ∧ s.sndMax - s.sndUna ≤ s.sndMss)) :
    Averts .outsideQueue s.retransmitOneSegment Housed := by
  have same := setNxt_same s s.sndUna
  have top := housed.maxTop
  have short := housed.short
  have outstanding : (s.sndMax - s.sndUna).toNat = ahead s.base s.sndMax - ahead s.base s.sndUna :=
    ahead_of_le housed.unaMax
  have one := @ahead_add s.base s.sendQueue.endSeq 1 (by rw [UInt32.toNat_one]; omega)
  rw [← @ahead_inj s.base, one, UInt32.le_iff_toNat_le, UInt32.toNat_one] at whole
  unfold retransmitOneSegment
  refine averts_ite (fun _ => .error nofun) fun some => ?_
  have some' : (min s.sndMss (s.sndMax - s.sndUna)).toNat ≠ 0 := fun none =>
    some (UInt32.toNat_inj.mp none)
  rw [toNat_min] at some'
  obtain ⟨s', made, housed', -⟩ := sendSegment_housed (housed.setUna acked) straight
    (show _ + (min s.sndMss (s.sndMax - s.sndUna)).toNat ≤ _ by
      rw [same.base, setNxt_sndNxt, same.sendQueue, toNat_min]
      omega)
  rw [made]
  refine .ok ?_
  split_ifs
  · exact { housed' with }
  · exact housed'

theorem retransmitLoop_housed (idle : s.Idle)
    (before : ahead s.base s.sndNxt ≤ ahead s.base s.sendQueue.endSeq) (fuel : Nat)
    (bytesToSend : UInt32) :
    Averts .outsideQueue (retransmitLoop fuel bytesToSend s) Housed := by
  induction fuel generalizing s bytesToSend with
  | zero => exact .error nofun
  | succ fuel ih =>
    unfold retransmitLoop
    refine .ite (.ok housed) ?_
    have available := toNat_getBytesAvailable housed housed.nxtTop
    have inside : ahead s.base s.sndNxt +
        (min (min bytesToSend s.sndMss) (s.sendQueue.getBytesAvailable s.sndNxt)).toNat ≤
        ahead s.base s.sendQueue.endSeq := by
      rw [toNat_min]
      omega
    obtain ⟨s', made, housed', same, after, moved⟩ :=
      sendSegment_housed housed (straight_of_not idle _) inside
    dsimp only
    rw [made]
    refine averts_ite (fun _ => .ok housed') fun going => ?_
    refine ih housed' (same.straight idle after) ?_ _
    rw [same.base, same.sendQueue]
    rcases moved with plain | ⟨closing, beyond, -⟩
    · omega
    · refine absurd ?_ going
      rw [same.sendFin, same.sndFinSeq, closing, beyond, Bool.true_and, beq_self_eq_true]

theorem retransmitData_housed (idle : s.Idle)
    (acked : seqLE s.sendQueue.beginSeq s.sndUna = true) :
    Averts .outsideQueue s.retransmitData Housed := by
  have same := setNxt_same s s.sndUna
  have unaMax := housed.unaMax
  have top := housed.maxTop
  unfold retransmitData
  refine averts_ite (fun _ => .error nofun) fun some => ?_
  have some' : (s.sndMax - s.sndUna).toNat ≠ 0 := fun none => some (UInt32.toNat_inj.mp none)
  have outstanding : (s.sndMax - s.sndUna).toNat = ahead s.base s.sndMax - ahead s.base s.sndUna :=
    ahead_of_le unaMax
  refine retransmitLoop_housed (housed.setUna acked) idle ?_ _ _
  rw [same.base, setNxt_sndNxt, same.sendQueue]
  omega

theorem Housed.position (above : seqLE s.sndUna seqNum = true)
    (acked : seqLE s.sendQueue.beginSeq seqNum = true)
    (buffered : 0 < (s.sendQueue.getBytesAvailable seqNum).toNat) :
    ahead s.base s.sndUna ≤ ahead s.base seqNum ∧ 1 ≤ ahead s.base seqNum ∧
      ahead s.base seqNum < ahead s.base s.sendQueue.endSeq := by
  have una := housed.una
  have short := housed.short
  have begins := @ahead_begin s
  rw [seqLE_eq, decide_eq_true_iff] at above acked
  have first := @ahead_trans s.base s.sendQueue.beginSeq seqNum (by omega)
  have turn := ahead_rebase s.base s.sndUna seqNum
  have turn' := ahead_rebase s.base seqNum s.sendQueue.endSeq
  have near : 0 < ahead seqNum s.sendQueue.endSeq ∧ ahead seqNum s.sendQueue.endSeq < 2 ^ 31 := by
    unfold TCPVirtualDataSendQueue.getBytesAvailable at buffered
    split_ifs at buffered with before
    · rw [seqLess, Bool.and_eq_true, decide_eq_true_iff] at before
      exact ⟨buffered, before.2⟩
    · rw [UInt32.toNat_zero] at buffered
      omega
  omega

theorem lossRecovery_housed (some : 0 < s.sndMss) (straight : s.Straight seqNum)
    (above : seqLE s.sndUna seqNum = true) (acked : seqLE s.sendQueue.beginSeq seqNum = true)
    (full : s.sndMss ≤ s.sendQueue.getBytesAvailable seqNum) :
    Averts .outsideQueue (s.sendSegmentDuringLossRecoveryPhase seqNum) Housed := by
  have same := setNxt_same s seqNum
  have some' : 0 < s.sndMss.toNat := some
  have full' := UInt32.le_iff_toNat_le.mp full
  have short := housed.short
  obtain ⟨above', first, before⟩ := housed.position above acked (by omega)
  have available := @toNat_getBytesAvailable s housed seqNum (by omega)
  have whole := @ahead_add s.base seqNum s.sndMss (by omega)
  unfold sendSegmentDuringLossRecoveryPhase
  refine .ite ?_ (.error nofun)
  obtain ⟨s', made, housed', same', -⟩ :=
    sendSegment_housed (housed.set above' first (by omega)) straight (show _ + s.sndMss.toNat ≤ _ by
      rw [same.base, setNxt_sndNxt, same.sendQueue]
      omega)
  rw [made]
  refine .ite ?_ ?_
  · exact .ite (.ok { housed' with }) (.error nofun)
  · refine .ite (.ok ?_) (.ok housed')
    have base : s'.base = s.base := same'.base.trans same.base
    have una : s'.sndUna = s.sndUna := same'.sndUna
    have queue : s'.sendQueue = s.sendQueue := same'.sendQueue
    refine housed'.raiseTo ?_ ?_ ?_
    all_goals rw [base]
    · rw [una]
      omega
    · omega
    · rw [queue]
      omega

theorem sendOneNewSegment_housed (some : 0 < s.sndMss) (straight : s.Straight s.sndMax)
    {fullSegmentsOnly : Bool} (full : fullSegmentsOnly = true ∨
      s.sendQueue.getBytesAvailable s.sndMax = 0 ∨
      s.sndMss ≤ s.sendQueue.getBytesAvailable s.sndMax)
    (congestionWindow : UInt32) :
    Averts .outsideQueue (s.sendOneNewSegment fullSegmentsOnly congestionWindow) Housed := by
  have same := setNxt_same s s.sndMax
  have some' : 0 < s.sndMss.toNat := some
  have short := housed.short
  have available := toNat_getBytesAvailable housed housed.maxTop
  have stays : Averts .outsideQueue (.ok s : Except TcpFault Sender) Housed := .ok housed
  unfold sendOneNewSegment
  refine .ite (.error nofun) ?_
  refine .ite stays ?_
  refine averts_ite (fun buffered => ?_) fun _ => stays
  refine .ite ?_ stays
  refine .ite ?_ stays
  have enough : s.sndMss.toNat ≤ (s.sendQueue.getBytesAvailable s.sndMax).toNat := by
    rcases buffered with whole | ⟨any, data⟩
    · exact UInt32.le_iff_toNat_le.mp whole
    · rcases full with only | none | whole
      · simp [only] at any
      · rw [none] at data
        exact absurd data (UInt32.lt_irrefl 0)
      · exact UInt32.le_iff_toNat_le.mp whole
  obtain ⟨bytes, chosen, few⟩ : ∃ bytes : UInt32, min (min s.sndWnd congestionWindow -
      (s.sndMax - s.sndUna) + 2 * s.sndMss) s.sndMss = bytes ∧ bytes.toNat ≤ s.sndMss.toNat := by
    refine ⟨_, rfl, ?_⟩
    rw [toNat_min]
    omega
  dsimp only
  rw [chosen]
  have whole := @ahead_add s.base s.sndMax bytes (by omega)
  obtain ⟨s', made, housed', -, after, -⟩ :=
    sendSegment_housed housed.setMax straight (show _ + bytes.toNat ≤ _ by
      rw [same.base, setNxt_sndNxt, same.sendQueue]
      omega)
  rw [made]
  refine .ok ?_
  have later := (@seqGE_iff s.base (s.sndMax + bytes) s.sndMax (by omega) (by omega)).mpr (by omega)
  have recovered : s'.raiseMax.afterRto = false := by
    simp only [raiseMax, after, setNxt_sndNxt, setNxt_sndMax, later, Bool.not_true, Bool.and_false]
  rw [recovered]
  exact raiseMax_housed housed'

theorem enqueue_housed {byteLength : UInt32}
    (room : ahead s.base s.sendQueue.endSeq + byteLength.toNat + 2 < 2 ^ 31)
    (before : s.sendFin = true → byteLength = 0) : (s.enqueue byteLength).Housed := by
  have whole := @ahead_add s.base s.sendQueue.endSeq byteLength (by omega)
  have base : (s.enqueue byteLength).base = s.base := rfl
  have ends : (s.enqueue byteLength).sendQueue.endSeq = s.sendQueue.endSeq + byteLength := rfl
  have fin : s.sendFin = true → s.sndFinSeq = s.sendQueue.endSeq + byteLength := by
    intro closing
    rw [before closing, UInt32.add_zero]
    exact housed.fin closing
  refine { housed with nxtTop := ?_, maxTop := ?_, queue := ?_, short := ?_, fin := fin }
  all_goals rw [base, ends, whole]
  · exact housed.nxtTop.trans (by omega)
  · exact housed.maxTop.trans (by omega)
  · exact housed.queue.trans (by omega)
  · exact room

theorem close_housed : s.close.2.Housed := by
  have short := housed.short
  have unaMax := housed.unaMax
  have one := @ahead_add s.base s.sendQueue.endSeq 1 (by rw [UInt32.toNat_one]; omega)
  rw [UInt32.toNat_one] at one
  unfold close
  split_ifs with empty
  · rw [empty] at unaMax ⊢
    have above : ahead s.base s.sndUna ≤ ahead s.base (s.sendQueue.endSeq + 1) := by omega
    have first : 1 ≤ ahead s.base (s.sendQueue.endSeq + 1) := by omega
    exact { housed with
      nxt := above
      nxtFirst := first
      nxtTop := one.le
      unaMax := above
      maxFirst := first
      maxTop := one.le
      fin := fun _ => rfl }
  · exact { housed with fin := fun _ => rfl }

end Housed

theorem Unmoved.housed {s' : Sender} (unmoved : Unmoved s s') (housed : s.Housed) : s'.Housed := by
  have same := unmoved.toSame
  obtain ⟨una, nxt, unaMax, nxtFirst, maxFirst, nxtTop, maxTop, queue, short, fin⟩ := housed
  constructor <;> simp only [same.base, same.sndUna, same.sendQueue, same.sendFin, same.sndFinSeq,
    unmoved.sndNxt, unmoved.sndMax] <;> assumption

theorem Acked.housed {s' : Sender} {ackNo upTo : UInt32} (acked : Acked s ackNo upTo s')
    (housed : s.Housed) : s'.Housed := by
  obtain ⟨una, nxt, unaMax, nxtFirst, maxFirst, nxtTop, maxTop, queue, short, fin⟩ := housed
  obtain ⟨inside, first, last, cut, cut', moved⟩ := acked.shift una unaMax (by omega) (by omega)
  have next := acked.next (by omega) (by omega)
  have una' := moved ackNo (by omega)
  have nxt' := moved s'.sndNxt (by omega)
  have max' := moved s.sndMax (by omega)
  have ends := moved s.sendQueue.endSeq (by omega)
  constructor
  case fin =>
    rw [acked.sendFin, acked.finSeq, acked.queue]
    exact fin
  all_goals simp only [acked.una, acked.top, acked.queue, una', nxt', max', ends, next]
  all_goals omega

theorem call_housed (housed : s.Housed) {c : Call} (fits : s.Fits (.call c)) :
    Averts .outsideQueue (s.call c) Housed := by
  cases c with
  | sendData fullSegmentsOnly congestionWindow => exact sendData_housed housed fits.1 fits.2 _ _
  | sendProbe => exact sendProbe_housed housed fits.2
  | retransmitOneSegment => exact retransmitOneSegment_housed housed fits.2.1 fits.2.2.1 fits.2.2.2
  | retransmitData => exact retransmitData_housed housed fits.2.1 fits.2.2
  | sendSegmentDuringLossRecoveryPhase seqNum =>
    exact lossRecovery_housed housed fits.1 fits.2.1 fits.2.2.1 fits.2.2.2.1 fits.2.2.2.2
  | sendOneNewSegment fullSegmentsOnly congestionWindow =>
    exact sendOneNewSegment_housed housed fits.1 fits.2.1 fits.2.2 _
  | rexmitTimeout =>
    refine .ok ?_
    unfold rexmitTimeout
    split_ifs
    · exact { housed with }
    · exact { housed with }
  | setLossRecovery lossRecovery => exact .ok { housed with }

theorem step_housed (housed : s.Housed) {event : Event} (fits : s.Fits event) :
    Averts .outsideQueue (s.step event) Housed := by
  cases event with
  | send byteLength => exact .ok (enqueue_housed housed fits.1 fits.2)
  | close => exact .ok (close_housed housed)
  | ack seg =>
    refine (processAckInEstabEtc_cases s seg).bind ?_
    rintro ⟨_, s'⟩ (unmoved | ⟨upTo, acked⟩)
    · exact .ok (unmoved.housed housed)
    · exact .ok (acked.housed housed)
  | call c => exact call_housed housed fits

theorem segments_inside_queue {iss sndMss sndWnd : UInt32}
    {sackEnabled limitedTransmitEnabled : Bool} {events : List Event}
    (fits : Trace.Each Moves Fits (init iss sndMss sndWnd sackEnabled limitedTransmitEnabled)
      events) :
    Trace.Always Moves (fun s => ∀ event, s.Fits event → s.step event ≠ .error .outsideQueue)
      (init iss sndMss sndWnd sackEnabled limitedTransmitEnabled) events := by
  refine Trace.always_of_each (I := Housed) ?_ ?_ (init_housed _ _ _ _ _) fits
  · intro s event s' housed fits stepped
    exact (step_housed housed fits).2 s' stepped
  · intro s housed event fits
    exact (step_housed housed fits).1

def resent : List Event :=
  [.ack ⟨0, 1, 0, 65535, [], 0⟩, .send 150, .call (.sendData false 65535), .close,
    .call (.sendData false 65535), .call .rexmitTimeout, .call .retransmitOneSegment,
    .ack ⟨0, 101, 0, 65535, [], 0⟩, .call .retransmitData]

theorem resent_inside_queue :
    (∃ s, resent.foldlM step (init 0 100 65535 false false) = .ok s ∧ s.sndNxt = 152 ∧
      s.sndMax = 152) ∧
    Trace.Always Moves (fun s => ∀ event, s.Fits event → s.step event ≠ .error .outsideQueue)
      (init 0 100 65535 false false) resent := by
  refine ⟨⟨_, rfl, rfl, rfl⟩, segments_inside_queue ?_⟩
  iterate 9 refine .cons (fun _ => Except.ok.inj) (by decide) ?_
  trivial

/-- Of what is outstanding one octet is the FIN, which is not in the queue. -/
theorem finCounted_outside_queue :
    ∃ s, [Event.ack ⟨0, 1, 0, 65535, [], 0⟩, .send 100, .call (.sendData false 65535), .close,
        .call .rexmitTimeout].foldlM step (init 0 536 65535 false false) = .ok s ∧
      s.sendQueue = ⟨1, 101⟩ ∧ s.sndUna = 1 ∧ s.sndMax = 102 ∧
      s.step (.call .retransmitOneSegment) = .error .outsideQueue := by
  exact ⟨_, rfl, rfl, rfl, rfl, rfl⟩

end Srwsn.Sender
