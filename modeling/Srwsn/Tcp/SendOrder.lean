import Srwsn.Tcp.Sender

/-! Whether `snd_una`, `snd_nxt` and `snd_max` stay in order. -/
namespace Srwsn.Sender

open Serial Outcome

variable (s : Sender)

def Ordered : Prop :=
  seqLE s.sndUna s.sndNxt = true ∧ seqLE s.sndNxt s.sndMax = true ∧ s.sndMax = s.highestSent
  deriving Decidable

/-- The number before the send queue: `snd_una` is there until the SYN is acknowledged. -/
def base : UInt32 := s.sendQueue.beginSeq - 1

def Room : Prop := ahead s.base s.sendQueue.endSeq + s.sndMss.toNat + 2 < 2 ^ 31
  deriving Decidable

def Unwrapped : Prop :=
  0 < s.sendQueue.beginSeq ∧ s.sendQueue.beginSeq ≤ s.sendQueue.endSeq ∧ s.sendQueue.endSeq <
    4294967295
  deriving Decidable

/- `sendSegment` sends from where it is asked to. -/
def Straight (fromSeq : UInt32) : Prop :=
  s.sackEnabled = true → s.afterRto = true →
    s.rexmitQueue.checkRexmitQueueForSackedOrRexmittedSegments fromSeq = 0
  deriving Decidable

def Admits : Event → Prop
  | .send byteLength => ahead s.base s.sendQueue.endSeq + byteLength.toNat + 2 < 2 ^ 31
  | .close => True
  | .ack _ => True
  | .call c => s.Room ∧ match c with
    | .sendData _ _ => ¬ (s.sackEnabled = true ∧ s.afterRto = true) ∧ s.Unwrapped
    | .sendProbe => s.Straight s.sndMax
    | .retransmitOneSegment => s.Straight s.sndUna
    | .retransmitData => ¬ (s.sackEnabled = true ∧ s.afterRto = true)
    | .sendSegmentDuringLossRecoveryPhase seqNum =>
      s.Straight seqNum ∧ seqLE s.sndUna seqNum = true ∧ seqLE seqNum s.sndMax = true ∧
        ¬ (s.sendFin = true ∧ seqNum + s.sndMss = s.sndFinSeq ∧
          seqGreater s.sndFinSeq s.sndMax = true)
    | .sendOneNewSegment _ _ => s.Straight s.sndMax ∧ s.Unwrapped
    | .rexmitTimeout => True
    | .setLossRecovery _ => True

instance : (event : Event) → Decidable (s.Admits event)
  | .send _ => inferInstanceAs (Decidable (_ < _))
  | .close => .isTrue trivial
  | .ack _ => .isTrue trivial
  | .call (.sendData _ _) => inferInstanceAs (Decidable (_ ∧ ¬ _ ∧ _))
  | .call .sendProbe => inferInstanceAs (Decidable (_ ∧ s.Straight _))
  | .call .retransmitOneSegment => inferInstanceAs (Decidable (_ ∧ s.Straight _))
  | .call .retransmitData => inferInstanceAs (Decidable (_ ∧ ¬ _))
  | .call (.sendSegmentDuringLossRecoveryPhase _) =>
    inferInstanceAs (Decidable (_ ∧ _ ∧ _ ∧ _ ∧ ¬ _))
  | .call (.sendOneNewSegment _ _) => inferInstanceAs (Decidable (_ ∧ s.Straight _ ∧ s.Unwrapped))
  | .call .rexmitTimeout => inferInstanceAs (Decidable (_ ∧ True))
  | .call (.setLossRecovery _) => inferInstanceAs (Decidable (_ ∧ True))

abbrev Idle : Prop := ¬ (s.sackEnabled = true ∧ s.afterRto = true)

structure Sending (s : Sender) : Prop where
  una : ahead s.base s.sndUna ≤ 2
  nxt : ahead s.base s.sndUna ≤ ahead s.base s.sndNxt
  unaMax : ahead s.base s.sndUna ≤ ahead s.base s.sndMax
  nxtTop : ahead s.base s.sndNxt ≤ ahead s.base s.sendQueue.endSeq + 1
  maxTop : ahead s.base s.sndMax ≤ ahead s.base s.sendQueue.endSeq + 1
  queue : 1 ≤ ahead s.base s.sendQueue.endSeq
  short : ahead s.base s.sendQueue.endSeq + 2 < 2 ^ 31
  highest : ahead s.base s.highestSent = max (ahead s.base s.sndMax) (ahead s.base s.sndNxt)
  fin : s.sendFin = true → s.sndFinSeq ≠ s.highestSent

structure Tracked (s : Sender) : Prop extends Sending s where
  order : ahead s.base s.sndNxt ≤ ahead s.base s.sndMax

variable {s s' : Sender}

theorem Tracked.ordered (tracked : s.Tracked) : s.Ordered := by
  have una := tracked.una
  have nxt := tracked.nxt
  have order := tracked.order
  have top := tracked.maxTop
  have short := tracked.short
  refine ⟨(seqLE_iff (by omega) (by omega)).mpr nxt, (seqLE_iff (by omega) (by omega)).mpr order,
    ?_⟩
  rw [← @ahead_inj s.base, tracked.highest]
  exact (Nat.max_eq_left order).symm

/-- An acknowledgement of everything sent is not taken for one of something not yet sent. -/
def Recognises (s : Sender) : Prop :=
  ∀ seg : AckSegment, seg.ackNo = s.highestSent → seqLE seg.ackNo s.sndMax = true ∧
    Yields (s.processAckInEstabEtc seg) fun result => result.1 = true ∧
    result.2.sndUna = s.highestSent

theorem Tracked.recognises (tracked : s.Tracked) : s.Recognises := by
  intro seg all
  have una := tracked.una
  have unaMax := tracked.unaMax
  have top := tracked.maxTop
  have short := tracked.short
  obtain ⟨-, -, max⟩ := tracked.ordered
  rw [← max] at all ⊢
  have sent : seqLE seg.ackNo s.sndMax = true := by
    rw [all]
    exact (@seqLE_iff s.base _ _ (by omega) (by omega)).mpr le_rfl
  refine ⟨sent, ?_⟩
  have read : ∀ t : Sender, ((t.updateWndInfo seg).readHeaderOptions seg).sndUna = t.sndUna :=
    fun t =>
    ((updateWndInfo_unmoved t seg).trans (readHeaderOptions_unmoved _ seg)).sndUna
  unfold processAckInEstabEtc
  refine yields_ite (fun behind => ?_) fun _ => ?_
  · have same : s.sndUna = s.sndMax := by
      rw [all] at behind
      have least := (@seqGE_iff s.base _ _ (by omega) (by omega)).mp behind
      exact (@ahead_inj s.base _ _).mp (by omega)
    exact .ite (.ok ⟨rfl, (read s).trans same⟩) (.ok ⟨rfl, same⟩)
  · rw [if_pos sent]
    refine Yields.bind (P := fun _ => True) (fun _ _ => trivial) fun _ _ => ?_
    refine Yields.bind (P := fun _ => True) (fun _ _ => trivial) fun _ _ => ?_
    exact .ok ⟨rfl, (read _).trans all⟩

theorem init_tracked (iss sndMss sndWnd : UInt32) (sackEnabled limitedTransmitEnabled : Bool) :
    (init iss sndMss sndWnd sackEnabled limitedTransmitEnabled).Tracked := by
  have one : ahead iss (iss + 1) = 1 := by simp [ahead]
  constructor
  constructor
  all_goals simp [init, base, TCPVirtualDataSendQueue.init, one]

theorem ahead_begin : ahead s.base s.sendQueue.beginSeq = 1 := by simp [ahead, base]

theorem Same.base (same : Same s s') : s'.base = s.base := by
  rw [Sender.base, same.sendQueue, Sender.base]

theorem forwarded_eq (straight : s.Straight s.sndNxt) : s.forwarded = s.sndNxt := by
  unfold forwarded
  split_ifs with both
  · rw [Bool.and_eq_true] at both
    rw [straight both.1 both.2, add_zero]
  · rfl

theorem record_highest {base endSeq highest : UInt32} (near : ahead base endSeq < 2 ^ 31)
    (near' : ahead base highest < 2 ^ 31) :
    ahead base (if seqGreater endSeq highest then endSeq else highest) =
      max (ahead base highest) (ahead base endSeq) := by
  have greater := @seqGreater_iff base endSeq highest near near'
  split_ifs with later
  · exact (Nat.max_eq_right (greater.mp later).le).symm
  · rw [greater, Nat.not_lt] at later
    exact (Nat.max_eq_left later).symm

/-- One segment from `snd_nxt`: it lies in the queue, and `snd_nxt` moves behind it, or behind the
FIN if that comes next. -/
theorem sendSegment_sending (sending : s.Sending) {bytes : UInt32} (straight : s.Straight s.sndNxt)
    (fits : ahead s.base s.sndNxt + bytes.toNat < 2 ^ 31) :
    Yields (s.sendSegment bytes) fun s' => s'.Sending ∧ Same s s' ∧ s'.sndMax = s.sndMax ∧
      s'.afterRto = (s.afterRto && !seqGE (s.sndNxt + bytes) s.sndMax) ∧
      ahead s.base (s.sndNxt + bytes) = ahead s.base s.sndNxt + bytes.toNat ∧
      (s'.sndNxt = s.sndNxt + bytes ∧ ¬ (s.sendFin = true ∧ s.sndNxt + bytes = s.sndFinSeq) ∨
        s.sendFin = true ∧ s.sndNxt + bytes = s.sndFinSeq ∧
        ahead s.base s'.sndNxt = ahead s.base s.sndFinSeq + 1) ∧
      ahead s.base (s.sndNxt + bytes) ≤ ahead s.base s'.sndNxt := by
  obtain ⟨una, nxt, unaMax, nxtTop, maxTop, queue, short, highest, fin⟩ := sending
  have whole := @ahead_add s.base s.sndNxt bytes (by omega)
  unfold sendSegment
  rw [forwarded_eq straight]
  refine .bind (P := fun _ => ahead s.base (s.sndNxt + bytes) ≤ ahead s.base s.sendQueue.endSeq) ?_
    ?_
  · unfold TCPVirtualDataSendQueue.createSegmentWithBytes
    refine yields_ite (fun inside => .ok ?_) fun _ => .error
    rw [Bool.and_eq_true] at inside
    exact (seqLE_iff (by omega) (by omega)).mp inside.2
  rintro ⟨⟩ inside
  rw [yields_pure]
  have same := sent_same s s.sndNxt bytes
  have next := sent_sndNxt s s.sndNxt bytes
  have recorded := sent_highestSent s s.sndNxt bytes
  have moved : (s.sent s.sndNxt bytes).sndNxt = s.sndNxt + bytes ∧
        ¬ (s.sendFin = true ∧ s.sndNxt + bytes = s.sndFinSeq) ∨
      s.sendFin = true ∧ s.sndNxt + bytes = s.sndFinSeq ∧
        ahead s.base (s.sent s.sndNxt bytes).sndNxt = ahead s.base s.sndFinSeq + 1 := by
    rw [next]
    split_ifs with last
    · rw [Bool.and_eq_true, beq_iff_eq] at last
      have one :=
        @ahead_add s.base s.sndFinSeq 1 (by rw [← last.2]; simp only [UInt32.toNat_one]; omega)
      exact .inr ⟨last.1, last.2, one⟩
    · rw [Bool.and_eq_true, beq_iff_eq] at last
      exact .inl ⟨rfl, last⟩
  have range : ahead s.base (s.sndNxt + bytes) ≤ ahead s.base (s.sent s.sndNxt bytes).sndNxt ∧
      ahead s.base (s.sent s.sndNxt bytes).sndNxt ≤ ahead s.base (s.sndNxt + bytes) + 1 := by
    rcases moved with ⟨plain, -⟩ | ⟨-, last, beyond⟩
    · rw [plain]
      omega
    · rw [beyond, last]
      omega
  have past : s.sendFin = true → s.sndFinSeq ≠ (s.sent s.sndNxt bytes).sndNxt := by
    rintro closing stuck
    rcases moved with ⟨plain, other⟩ | ⟨-, -, beyond⟩
    · exact other ⟨closing, (stuck.trans plain).symm⟩
    · rw [← stuck] at beyond
      omega
  have high : ahead s.base (s.sent s.sndNxt bytes).highestSent =
      max (ahead s.base s.sndMax) (ahead s.base (s.sent s.sndNxt bytes).sndNxt) := by
    rw [recorded, record_highest (by omega) (by omega), highest]
    omega
  refine ⟨?_, same, sent_sndMax s _ _, sent_afterRto s _ _, whole, moved, range.1⟩
  constructor
  all_goals simp only [same.base, same.sndUna, same.sendQueue, sent_sndMax, same.sendFin,
    same.sndFinSeq]
  case una => exact una
  case nxt => omega
  case unaMax => exact unaMax
  case nxtTop => omega
  case maxTop => exact maxTop
  case queue => exact queue
  case short => exact short
  case highest => exact high
  case fin =>
    intro closing
    rw [recorded]
    split_ifs
    · exact past closing
    · exact fin closing

theorem Tracked.set (tracked : s.Tracked) {seqNum : UInt32}
    (above : ahead s.base s.sndUna ≤ ahead s.base seqNum)
    (below : ahead s.base seqNum ≤ ahead s.base s.sndMax) : (s.setNxt seqNum).Tracked := by
  have highest := tracked.highest
  have order := tracked.order
  have top := tracked.maxTop
  refine { tracked with nxt := above, nxtTop := below.trans top, highest := ?_, order := below }
  simp only [setNxt, Sender.base] at *
  omega

theorem Tracked.setMax (tracked : s.Tracked) : (s.setNxt s.sndMax).Tracked :=
  tracked.set tracked.unaMax le_rfl

theorem Tracked.setUna (tracked : s.Tracked) : (s.setNxt s.sndUna).Tracked :=
  tracked.set le_rfl tracked.unaMax

theorem Same.straight (same : Same s s') (straight : s.Idle) {sent : Bool}
    (after : s'.afterRto = (s.afterRto && sent)) : s'.Idle := by
  rw [Idle, same.sackEnabled, after, Bool.and_eq_true]
  tauto

theorem Same.room (same : Same s s') (room : s.Room) : s'.Room := by
  unfold Room
  rw [same.base, same.sendQueue, same.sndMss]
  exact room

theorem straight_of_not (idle : s.Idle) (fromSeq : UInt32) : s.Straight fromSeq :=
  fun sack after => absurd ⟨sack, after⟩ idle

theorem sendSegments_sending (sending : s.Sending) (room : s.Room) (idle : s.Idle) (fuel : Nat)
    (bytesToSend : UInt32) :
    Yields (sendSegments fuel bytesToSend s) fun s' => s'.Sending ∧ Same s s' := by
  induction fuel generalizing s bytesToSend with
  | zero => exact .error
  | succ fuel ih =>
    unfold sendSegments
    refine .ite ?_ (.ok ⟨sending, .refl s⟩)
    have top := sending.nxtTop
    have fits : ahead s.base s.sndNxt + s.sndMss.toNat < 2 ^ 31 := by
      unfold Room at room
      omega
    refine (sendSegment_sending sending (straight_of_not idle _) fits).bind ?_
    rintro s₁ ⟨sending₁, same₁, -, after, -⟩
    refine (ih sending₁ (same₁.room room) (same₁.straight idle after) _).mono ?_
    rintro s₂ ⟨sending₂, same₂⟩
    exact ⟨sending₂, same₁.trans same₂⟩

theorem Sending.raise (sending : s.Sending)
    (later : ahead s.base s.sndMax ≤ ahead s.base s.sndNxt) :
    Tracked { s with sndMax := s.sndNxt } := by
  have highest := sending.highest
  refine { sending with
    unaMax := sending.nxt, maxTop := sending.nxtTop, highest := ?_, order := le_rfl }
  simp only [Sender.base] at *
  omega

theorem raiseMax_tracked (sending : s.Sending) (unwrapped : s.Unwrapped) : s.raiseMax.Tracked := by
  obtain ⟨first, inside, last⟩ := unwrapped
  have nxtTop := sending.nxtTop
  have maxTop := sending.maxTop
  have flat : s.base.toNat + ahead s.base s.sendQueue.endSeq + 1 < 2 ^ 32 := by
    have below := s.sendQueue.endSeq.toNat_lt
    simp only [UInt32.lt_iff_toNat_lt, UInt32.le_iff_toNat_le, UInt32.reduceToNat]
      at first inside last
    simp only [ahead, base, UInt32.toNat_sub, UInt32.reduceToNat]
    omega
  have numeric : s.sndNxt < s.sndMax ↔ ahead s.base s.sndNxt < ahead s.base s.sndMax := by
    rw [UInt32.lt_iff_toNat_lt, @toNat_of_short s.base s.sndNxt (by omega),
      @toNat_of_short s.base s.sndMax (by omega)]
    omega
  unfold raiseMax
  split_ifs with less
  · exact { sending with order := (numeric.mp less).le }
  · rw [numeric, Nat.not_lt] at less
    exact sending.raise less

theorem Same.unwrapped (same : Same s s') (unwrapped : s.Unwrapped) : s'.Unwrapped := by
  unfold Unwrapped
  rw [same.sendQueue]
  exact unwrapped

section Tracked

variable (tracked : s.Tracked)

include tracked

theorem sendFromNxt_tracked (room : s.Room) (idle : s.Idle) (unwrapped : s.Unwrapped)
    (fullSegmentsOnly : Bool) (congestionWindow : UInt32) :
    Yields (s.sendFromNxt fullSegmentsOnly congestionWindow) Tracked := by
  have top := tracked.nxtTop
  unfold sendFromNxt
  refine .ite (.ok tracked) ?_
  refine .ite (.ok tracked) ?_
  refine .ite (.ok tracked) ?_
  refine .bind (P := fun s' => s'.Sending ∧ Same s s') ?_ ?_
  · refine yields_ite (fun small => ?_) fun _ =>
      sendSegments_sending tracked.toSending room idle _ _
    refine (sendSegment_sending tracked.toSending (straight_of_not idle _) ?_).mono ?_
    · have small' := UInt32.le_iff_toNat_le.mp small
      unfold Room at room
      omega
    · rintro s' ⟨sending, same, -⟩
      exact ⟨sending, same⟩
  · rintro s' ⟨sending, same⟩
    exact .ok (raiseMax_tracked sending (same.unwrapped unwrapped))

theorem sendData_tracked (room : s.Room) (idle : s.Idle) (unwrapped : s.Unwrapped)
    (fullSegmentsOnly : Bool) (congestionWindow : UInt32) :
    Yields (s.sendData fullSegmentsOnly congestionWindow) Tracked := by
  unfold sendData
  refine .ite ?_ ?_
  · exact sendFromNxt_tracked tracked room idle unwrapped _ _
  · exact sendFromNxt_tracked tracked.setMax room idle unwrapped _ _

theorem sendProbe_tracked (straight : s.Straight s.sndMax) : Yields s.sendProbe Tracked := by
  have same := setNxt_same s s.sndMax
  have top := tracked.maxTop
  have short := tracked.short
  unfold sendProbe
  refine .ite (.ok tracked.setMax) ?_
  refine (sendSegment_sending tracked.setMax.toSending straight ?_).bind ?_
  · rw [same.base, setNxt_sndNxt, UInt32.toNat_one]
    omega
  rintro s' ⟨sending, same', max, -, whole, -, range⟩
  refine .ok (sending.raise ?_)
  rw [same'.base, max, setNxt_sndMax]
  rw [whole, setNxt_sndNxt] at range
  omega

theorem sendSegment_below {bytes : UInt32} (straight : s.Straight s.sndNxt)
    (below : ahead s.base s.sndNxt + bytes.toNat ≤ ahead s.base s.sndMax) :
    Yields (s.sendSegment bytes) fun s' => s'.Tracked ∧ Same s s' ∧ s'.sndMax = s.sndMax ∧
      s'.afterRto = (s.afterRto && !seqGE (s.sndNxt + bytes) s.sndMax) ∧
      ahead s.base (s.sndNxt + bytes) = ahead s.base s.sndNxt + bytes.toNat ∧
      (s'.sndNxt = s.sndNxt + bytes ∨
        s.sendFin = true ∧ ahead s.base s'.sndNxt = ahead s.base s.sndFinSeq + 1) := by
  have top := tracked.maxTop
  have short := tracked.short
  refine (sendSegment_sending tracked.toSending straight (by omega)).mono ?_
  rintro s' ⟨sending, same, max, after, whole, moved, -⟩
  refine ⟨{ sending with order := ?_ }, same, max, after, whole, ?_⟩
  · rw [max, same.base]
    rcases moved with ⟨plain, -⟩ | ⟨closing, last, beyond⟩
    · rw [plain, whole]
      exact below
    · -- the FIN has been sent before, so there is room for it
      have other := tracked.fin closing
      rw [← tracked.ordered.2.2, Ne, ← @ahead_inj s.base, ← last, whole] at other
      rw [beyond, ← last, whole]
      omega
  · exact moved.imp And.left fun ⟨closing, _, beyond⟩ => ⟨closing, beyond⟩

theorem toNat_sub_una :
    (s.sndMax - s.sndUna).toNat = ahead s.base s.sndMax - ahead s.base s.sndUna :=
  ahead_of_le tracked.unaMax

theorem retransmitOneSegment_tracked (straight : s.Straight s.sndUna) :
    Yields s.retransmitOneSegment Tracked := by
  have same := setNxt_same s s.sndUna
  have outstanding := toNat_sub_una tracked
  have unaMax := tracked.unaMax
  unfold retransmitOneSegment
  refine .ite .error ?_
  refine (sendSegment_below tracked.setUna straight ?_).bind ?_
  · rw [same.base, setNxt_sndNxt, setNxt_sndMax, toNat_min]
    omega
  rintro s' ⟨tracked', -⟩
  rw [yields_pure]
  split_ifs
  · exact { tracked' with }
  · exact tracked'

/- `snd_nxt` and what is left to send add up to `snd_max`. -/
theorem retransmitLoop_tracked (idle : s.Idle) (fuel : Nat) {bytesToSend : UInt32}
    (left : ahead s.base s.sndNxt + bytesToSend.toNat = ahead s.base s.sndMax) :
    Yields (retransmitLoop fuel bytesToSend s) Tracked := by
  induction fuel generalizing s bytesToSend with
  | zero => exact .error
  | succ fuel ih =>
    unfold retransmitLoop
    refine .ite (.ok tracked) ?_
    have few : (min (min bytesToSend s.sndMss) (s.sendQueue.getBytesAvailable s.sndNxt)).toNat ≤
        bytesToSend.toNat := by
      rw [toNat_min, toNat_min]
      omega
    refine (sendSegment_below tracked (straight_of_not idle _) (by omega)).bind ?_
    rintro s' ⟨tracked', same, max, after, whole, moved⟩
    refine yields_ite (fun _ => .ok tracked') fun going => ?_
    refine ih tracked' (same.straight idle after) ?_
    rcases moved with plain | ⟨closing, beyond⟩
    · rw [same.base, plain, whole, max, UInt32.toNat_sub_of_le _ _ (UInt32.le_iff_toNat_le.mpr few)]
      omega
    · -- behind the FIN the loop is left
      have fin : ahead s.base (s.sndFinSeq + 1) = ahead s.base s.sndFinSeq + 1 := by
        have top := tracked'.nxtTop
        have short := tracked'.short
        rw [same.base] at top short
        exact ahead_add (by rw [UInt32.toNat_one]; omega)
      refine absurd ?_ going
      rw [same.sendFin, same.sndFinSeq, closing, Bool.true_and, beq_iff_eq, ← @ahead_inj s.base,
        beyond, fin]

theorem retransmitData_tracked (idle : s.Idle) : Yields s.retransmitData Tracked := by
  have unaMax := tracked.unaMax
  unfold retransmitData
  refine .ite .error ?_
  refine retransmitLoop_tracked tracked.setUna idle _ ?_
  rw [(setNxt_same s s.sndUna).base, setNxt_sndNxt, setNxt_sndMax, toNat_sub_una tracked]
  omega

theorem lossRecovery_tracked (room : s.Room) {seqNum : UInt32}
    (straight : s.Straight seqNum) (above : seqLE s.sndUna seqNum = true)
    (below : seqLE seqNum s.sndMax = true)
    (fin : ¬ (s.sendFin = true ∧ seqNum + s.sndMss = s.sndFinSeq ∧
      seqGreater s.sndFinSeq s.sndMax = true)) :
    Yields (s.sendSegmentDuringLossRecoveryPhase seqNum) Tracked := by
  have top := tracked.maxTop
  have short := tracked.short
  have start := setNxt_same s seqNum
  rw [seqLE_eq, decide_eq_true_iff] at above below
  obtain ⟨above', below'⟩ := ahead_between tracked.unaMax (by omega) above below
  have ready := tracked.set above' below'
  unfold Room at room
  unfold sendSegmentDuringLossRecoveryPhase
  refine .ite ?_ .error
  rcases Nat.lt_or_ge (ahead s.base s.sndMax) (ahead s.base seqNum + s.sndMss.toNat) with new | old
  · refine (sendSegment_sending ready.toSending straight ?_).bind ?_
    · rw [start.base, setNxt_sndNxt]
      omega
    rintro s' ⟨sending, same, max, -, whole, moved, -⟩
    rw [setNxt_sndNxt, start.base] at whole
    rw [setNxt_sndNxt, start.sendFin, start.sndFinSeq] at moved
    rw [setNxt_sndMax] at max
    rw [← max] at new top below'
    have ends : ahead s.base (seqNum + s.sndMss) < 2 ^ 31 := by omega
    have order := @seqLE_iff s.base (seqNum + s.sndMss) s'.sndMax ends (by omega)
    have order' := @seqGE_iff s.base (seqNum + s.sndMss) s'.sndMax ends (by omega)
    have plain : s'.sndNxt = seqNum + s.sndMss := by
      rcases moved with ⟨plain, -⟩ | ⟨closing, last, -⟩
      · exact plain
      · refine absurd ⟨closing, last, ?_⟩ fin
        rw [← last, ← max]
        exact (seqGreater_iff ends (by omega)).mpr (by omega)
    refine yields_ite (fun less => absurd (order.mp less) (by omega)) fun _ => ?_
    refine yields_ite (fun _ => .ok ?_) fun not => absurd (order'.mpr (by omega)) not
    rw [← plain]
    exact sending.raise (by rw [same.base, start.base, plain]; omega)
  · refine (sendSegment_below ready straight ?_).bind ?_
    · rw [start.base, setNxt_sndNxt, setNxt_sndMax]
      exact old
    rintro s' ⟨tracked', same, max, -, whole, -⟩
    rw [setNxt_sndNxt, start.base] at whole
    rw [setNxt_sndMax] at max
    rw [← max] at old top
    have order := @seqLE_iff s.base (seqNum + s.sndMss) s'.sndMax (by omega) (by omega)
    refine yields_ite (fun _ => ?_) fun not => absurd (order.mpr (by omega)) not
    exact .ite (.ok { tracked' with }) yields_throw

theorem sendOneNewSegment_tracked (room : s.Room) (straight : s.Straight s.sndMax)
    (unwrapped : s.Unwrapped) (fullSegmentsOnly : Bool) (congestionWindow : UInt32) :
    Yields (s.sendOneNewSegment fullSegmentsOnly congestionWindow) Tracked := by
  have top := tracked.maxTop
  have start := setNxt_same s s.sndMax
  unfold Room at room
  have stays : Yields (.ok s : Except TcpFault Sender) Tracked := .ok tracked
  unfold sendOneNewSegment
  refine .ite .error ?_
  refine .ite stays ?_
  refine .ite ?_ stays
  refine .ite ?_ stays
  refine .ite ?_ stays
  refine (sendSegment_sending tracked.setMax.toSending straight ?_).bind ?_
  · rw [start.base, setNxt_sndNxt, toNat_min]
    omega
  rintro s' ⟨sending, same, max, after, whole, -⟩
  have raised := raiseMax_tracked sending ((start.trans same).unwrapped unwrapped)
  rw [yields_pure]
  -- `snd_nxt` is beyond the old `snd_max`, which ends the recovery from a timeout
  have recovered : s'.raiseMax.afterRto = false := by
    rw [start.base, setNxt_sndNxt] at whole
    have bound :=
      toNat_min (min s.sndWnd congestionWindow - (s.sndMax - s.sndUna) + 2 * s.sndMss) s.sndMss
    have later := (@seqGE_iff s.base (s.sndMax + min (min s.sndWnd congestionWindow -
      (s.sndMax - s.sndUna) + 2 * s.sndMss) s.sndMss) s.sndMax (by omega) (by omega)).mpr (by omega)
    simp only [raiseMax, after, setNxt_sndNxt, setNxt_sndMax, later, Bool.not_true, Bool.and_false]
  rw [recovered]
  exact raised

theorem enqueue_tracked {byteLength : UInt32}
    (fits : ahead s.base s.sendQueue.endSeq + byteLength.toNat + 2 < 2 ^ 31) :
    (s.enqueue byteLength).Tracked := by
  have longer := @ahead_add s.base s.sendQueue.endSeq byteLength (by omega)
  have base : (s.enqueue byteLength).base = s.base := rfl
  have ends : (s.enqueue byteLength).sendQueue.endSeq = s.sendQueue.endSeq + byteLength := rfl
  refine { tracked with nxtTop := ?_, maxTop := ?_, queue := ?_, short := ?_ }
  all_goals rw [base, ends, longer]
  · exact tracked.nxtTop.trans (by omega)
  · exact tracked.maxTop.trans (by omega)
  · exact tracked.queue.trans (by omega)
  · exact fits

theorem fin_tracked (all : s.sndMax = s.sendQueue.endSeq) {s' : Sender}
    (queue : s'.sendQueue = s.sendQueue) (una : s'.sndUna = s.sndUna)
    (nxt : s'.sndNxt = s.sndMax + 1)
    (max : s'.sndMax = s.sndMax + 1) (fin : s'.sndFinSeq = s.sndMax) (highest : s'.highestSent =
      if seqGreater (s.sndMax + 1) s.highestSent then s.sndMax + 1
      else s.highestSent) : s'.Tracked := by
  have base : s'.base = s.base := by rw [Sender.base, queue, Sender.base]
  have nonempty := tracked.queue
  have short := tracked.short
  have unaMax := tracked.unaMax
  have first := tracked.una
  have same := tracked.ordered.2.2
  rw [← all] at nonempty short
  have one := @ahead_add s.base s.sndMax 1 (by rw [UInt32.toNat_one]; omega)
  rw [UInt32.toNat_one] at one
  have high : ahead s.base s'.highestSent = ahead s.base s.sndMax + 1 := by
    rw [highest, ← same, record_highest (by omega) (by omega), one]
    omega
  constructor
  case order => rw [nxt, max]
  constructor
  all_goals simp only [base, una, nxt, max, queue, fin, ← all, high, one]
  case fin =>
    rintro - stuck
    rw [← stuck] at high
    omega
  all_goals omega

theorem close_tracked : s.close.2.Tracked := by
  unfold close
  split_ifs with all
  · exact fin_tracked tracked all rfl rfl rfl rfl all.symm rfl
  · refine { tracked with fin := fun _ same => all ?_ }
    rw [tracked.ordered.2.2]
    exact same.symm

end Tracked

theorem Unmoved.tracked (unmoved : Unmoved s s') (tracked : s.Tracked) : s'.Tracked := by
  have same := unmoved.toSame
  obtain ⟨⟨una, nxt, unaMax, nxtTop, maxTop, queue, short, highest, fin⟩, order⟩ := tracked
  refine ⟨?_, ?_⟩
  constructor
  all_goals simp only [same.base, same.sndUna, same.sendQueue, same.sendFin, same.sndFinSeq,
    unmoved.sndNxt, unmoved.sndMax, unmoved.highestSent]
  all_goals assumption

section Acked

variable {ackNo upTo : UInt32} (acked : Acked s ackNo upTo s')

include acked

theorem Acked.shift (una : ahead s.base s.sndUna ≤ 2)
    (unaMax : ahead s.base s.sndUna ≤ ahead s.base s.sndMax) (near : ahead s.base s.sndMax < 2 ^ 31)
    (short : ahead s.base s.sendQueue.endSeq < 2 ^ 31) :
    ahead s.base ackNo ≤ ahead s.base s.sndMax ∧
      1 ≤ ahead s.base upTo ∧ ahead s.base upTo ≤ ahead s.base s.sendQueue.endSeq ∧
      ahead s.base upTo ≤ ahead s.base ackNo ∧ ahead s.base ackNo ≤ ahead s.base upTo + 1 ∧
      ∀ n, ahead s.base upTo ≤ ahead s.base n + 1 →
      ahead s'.base n = ahead s.base n - (ahead s.base upTo - 1) := by
  have inside : ahead s.base s.sndUna < ahead s.base ackNo ∧ ahead s.base ackNo ≤
      ahead s.base s.sndMax := by
    have turn := ahead_rebase s.base ackNo s.sndUna
    have turn' := ahead_rebase s.base ackNo s.sndMax
    have bound := @ahead_lt s.base ackNo
    have far : ¬ ahead ackNo s.sndUna < 2 ^ 31 := of_decide_eq_false acked.later
    have close : ahead ackNo s.sndMax < 2 ^ 31 := of_decide_eq_true acked.sent
    omega
  have cut : ahead s.base upTo ≤ ahead s.base ackNo ∧ ahead s.base ackNo ≤
      ahead s.base upTo + 1 := by
    rcases acked.choice with rfl | rfl
    · omega
    · rw [ahead_pred (by omega)]
      omega
  have first : 1 ≤ ahead s.base upTo := by
    have turn := ahead_rebase s.base s.sendQueue.beginSeq upTo
    have close : ahead s.sendQueue.beginSeq upTo < 2 ^ 31 := of_decide_eq_true acked.above
    rw [ahead_begin] at turn
    omega
  have last := (@seqLE_iff s.base upTo s.sendQueue.endSeq (by omega) (by omega)).mp acked.below
  refine ⟨inside.2, first, last, cut.1, cut.2, fun n from_ => ?_⟩
  have base : s'.base = upTo - 1 := by rw [Sender.base, acked.queue]
  have back : ahead s.base (upTo - 1) = ahead s.base upTo - 1 := ahead_pred first
  have way := @ahead_of_le s.base (upTo - 1) n (by omega)
  rw [base, way, back]

theorem Acked.next (near : ahead s.base s.sndNxt < 2 ^ 31) (near' : ahead s.base ackNo < 2 ^ 31) :
    ahead s.base s'.sndNxt = max (ahead s.base s.sndNxt) (ahead s.base ackNo) := by
  have less := @seqLess_iff s.base s.sndNxt ackNo near near'
  rw [acked.nxt]
  split_ifs with behind
  · exact (Nat.max_eq_right (less.mp behind).le).symm
  · rw [less, Nat.not_lt] at behind
    exact (Nat.max_eq_left behind).symm

theorem Acked.tracked (tracked : s.Tracked) : s'.Tracked := by
  obtain ⟨⟨una, nxt, unaMax, nxtTop, maxTop, queue, short, highest, fin⟩, order⟩ := tracked
  obtain ⟨inside, first, last, cut, cut', moved⟩ := acked.shift una unaMax (by omega) (by omega)
  have next := acked.next (by omega) (by omega)
  have una' := moved ackNo (by omega)
  have nxt' := moved s'.sndNxt (by omega)
  have max' := moved s.sndMax (by omega)
  have ends := moved s.sendQueue.endSeq (by omega)
  have highest' := moved s.highestSent (by omega)
  constructor
  case order =>
    rw [acked.top]
    omega
  constructor
  case fin =>
    rw [acked.sendFin, acked.finSeq, acked.highest]
    exact fin
  all_goals simp only [acked.una, acked.top, acked.highest, acked.queue]
  all_goals omega

end Acked

theorem call_tracked (tracked : s.Tracked) {c : Call} (admits : s.Admits (.call c)) :
    Yields (s.call c) Tracked := by
  obtain ⟨room, admits⟩ := admits
  cases c with
  | sendData fullSegmentsOnly congestionWindow =>
    exact sendData_tracked tracked room admits.1 admits.2 fullSegmentsOnly congestionWindow
  | sendProbe => exact sendProbe_tracked tracked admits
  | retransmitOneSegment => exact retransmitOneSegment_tracked tracked admits
  | retransmitData => exact retransmitData_tracked tracked admits
  | sendSegmentDuringLossRecoveryPhase seqNum =>
    exact lossRecovery_tracked tracked room admits.1 admits.2.1 admits.2.2.1 admits.2.2.2
  | sendOneNewSegment fullSegmentsOnly congestionWindow =>
    exact sendOneNewSegment_tracked tracked room admits.1 admits.2 fullSegmentsOnly congestionWindow
  | rexmitTimeout =>
    refine .ok ?_
    unfold rexmitTimeout
    split_ifs
    · exact { tracked with }
    · exact { tracked with }
  | setLossRecovery lossRecovery => exact .ok { tracked with }

theorem step_tracked (tracked : s.Tracked) {event : Event} (admits : s.Admits event) :
    Yields (s.step event) Tracked := by
  cases event with
  | send byteLength => exact .ok (enqueue_tracked tracked admits)
  | close => exact .ok (close_tracked tracked)
  | ack seg =>
    refine (processAckInEstabEtc_cases s seg).2.bind ?_
    rintro ⟨_, s'⟩ (unmoved | ⟨upTo, acked⟩)
    · exact .ok (unmoved.tracked tracked)
    · exact .ok (acked.tracked tracked)
  | call c => exact call_tracked tracked admits

/-- `snd_una`, `snd_nxt` and `snd_max` stay in order, and `snd_max` one past the highest number
sent; what acknowledges everything sent is recognised. -/
theorem send_order {iss sndMss sndWnd : UInt32} {sackEnabled limitedTransmitEnabled : Bool}
    {events : List Event} (admitted : Trace.Each Moves Admits
      (init iss sndMss sndWnd sackEnabled limitedTransmitEnabled) events) :
    Trace.Always Moves (fun s => s.Ordered ∧
      s.Recognises) (init iss sndMss sndWnd sackEnabled limitedTransmitEnabled) events :=
  Trace.always_of_each (I := Tracked)
    (fun _ _ _ tracked admits moves => step_tracked tracked admits _ moves)
    (fun _ tracked => ⟨tracked.ordered, tracked.recognises⟩)
    (init_tracked iss sndMss sndWnd sackEnabled limitedTransmitEnabled)
    admitted

def repeated : List Event :=
  [.ack ⟨0, 1, 0, 65535, [], 0⟩, .send 150, .call (.sendData false 100), .close,
    .call (.sendData false 65535),
    .call .rexmitTimeout, .call .retransmitOneSegment, .ack ⟨0, 152, 0, 65535, [], 0⟩]

theorem repeated_in_order :
    (∃ s, repeated.foldlM step (init 0 100 65535 false false) = .ok s ∧ s.sndUna = 152 ∧
      s.finAckRcvd = true) ∧
    Trace.Always Moves (fun s => s.Ordered ∧ s.Recognises) (init 0 100 65535 false false)
    repeated := by
  refine ⟨⟨_, rfl, rfl, rfl⟩, send_order ?_⟩
  iterate 8 refine .cons (fun _ => Except.ok.inj) (by decide) ?_
  trivial

/-- Across the wrap the larger number is the earlier one, and the acknowledgement of all that was
sent is dropped. In loss recovery a FIN on the last segment is left out of `snd_max`. -/
theorem wrappedAndFinished_out_of_order :
    (∃ s, [Event.ack ⟨0, 4294967196, 0, 65535, [], 0⟩, .send 200,
      .call (.sendData false 65535)].foldlM step
        (init 4294967195 536 65535 false false) = .ok s ∧ s.sndNxt = 100 ∧ s.sndMax = 4294967196 ∧
        ¬ s.Ordered ∧
      s.processAckInEstabEtc ⟨0, 100, 0, 65535, [], 0⟩ = .ok (false, s)) ∧
    ∃ s, [Event.ack ⟨0, 1, 0, 65535, [], 0⟩, .send 300, .call (.sendData false 200), .close,
        .call (.setLossRecovery true), .call (.sendSegmentDuringLossRecoveryPhase 201)].foldlM step
        (init 0 100 65535 true false) = .ok s ∧ s.sndNxt = 302 ∧ s.sndMax = 301 ∧ ¬ s.Ordered := by
  refine ⟨⟨_, rfl, rfl, rfl, ?_, rfl⟩, _, rfl, rfl, rfl, ?_⟩
  · decide
  · decide

end Srwsn.Sender
