import Srwsn.Tcp.Quiet

/-! Whether a connection that the peer has closed has got everything the peer sent. -/
namespace Srwsn

open Serial Outcome Connection

section Limit

variable {s : Receiver} {seg : DataSegment} {base : UInt32} {limit : Nat}

theorem merge_limit (region : Region) {low : Nat} {regions : List Region}
    (filled : ahead base region.beginSeq < ahead base region.endSeq)
    (near : ahead base region.endSeq < 2 ^ 31) (sorted : Separated base low regions)
    (within : ahead base region.endSeq ≤ limit)
    (others : ∀ r ∈ regions, ahead base r.endSeq ≤ limit)
    {low' : Nat} {merged : List Region}
    (same : TCPVirtualDataRcvQueue.merge region regions = merged)
    (sorted' : Separated base low' merged) : ∀ r ∈ merged, ahead base r.endSeq ≤ limit := by
  intro r member
  obtain ⟨-, nonempty, -⟩ := sorted'.mem member
  have last : Covers base merged (ahead base r.endSeq - 1) := ⟨r, member, by omega, by omega⟩
  rw [← same] at last
  rcases (merge_covers region filled near sorted).mp last with has | ⟨r', member', has⟩
  · have := has.2
    omega
  · have := has.2
    have := others r' member'
    omega

theorem processText_limit (waiting : s.Waiting) (text : seg.payloadLength ≠ 0)
    (near : ahead base s.rcvNxt < 2 ^ 31)
    (nearSeg : ahead base seg.sequenceNo + seg.payloadLength.toNat < 2 ^ 31)
    (inHalf : ∀ r ∈ s.receiveQueue.regionList, ahead base r.endSeq < 2 ^ 31)
    (beyond : ahead base s.rcvNxt < ahead base (seg.sequenceNo + seg.payloadLength))
    (within : ahead base (seg.sequenceNo + seg.payloadLength) ≤ limit)
    (others : ∀ r ∈ s.receiveQueue.regionList, ahead base r.endSeq ≤ limit) :
    ∃ s', s.processText seg = .ok s' ∧ s'.Waiting ∧ ahead base s.rcvNxt ≤ ahead base s'.rcvNxt ∧
      ahead base s'.rcvNxt < 2 ^ 31 ∧ ahead base s'.rcvNxt ≤ limit ∧
      (∀ r ∈ s'.receiveQueue.regionList, ahead base r.endSeq ≤ limit) ∧
      (ahead base seg.sequenceNo ≤ ahead base s.rcvNxt →
        ahead base (seg.sequenceNo + seg.payloadLength) ≤ ahead base s'.rcvNxt) := by
  obtain ⟨filled, nearEnd, -⟩ := segment_region text nearSeg
  have sorted := waiting.above.rebase near inHalf
  -- a segment that starts at or below `rcv_nxt` begins the merged list
  have head : ahead base seg.sequenceNo ≤ ahead base s.rcvNxt → ∃ endSeq rest,
      TCPVirtualDataRcvQueue.merge ⟨seg.sequenceNo, seg.sequenceNo + seg.payloadLength⟩
        s.receiveQueue.regionList = ⟨seg.sequenceNo, endSeq⟩ :: rest ∧
      ahead base (seg.sequenceNo + seg.payloadLength) ≤ ahead base endSeq := fun below =>
    merge_head ⟨seg.sequenceNo, seg.sequenceNo + seg.payloadLength⟩ filled nearEnd
      (sorted.mono (Nat.succ_le_succ below))
  obtain ⟨first, rest, merged, cases⟩ :=
    merge_cases ⟨seg.sequenceNo, seg.sequenceNo + seg.payloadLength⟩ filled nearEnd near
      sorted beyond
  have limited : ∀ low, Separated base low (first :: rest) → ∀ r ∈ first :: rest,
      ahead base r.endSeq ≤ limit :=
    fun low sorted' => merge_limit ⟨seg.sequenceNo, seg.sequenceNo + seg.payloadLength⟩ filled
      nearEnd sorted within others merged sorted'
  rcases cases with ⟨above, -, sorted'⟩ | ⟨reached, advanced, sorted', -, past⟩
  · refine ⟨_, Receiver.processText_waits waiting merged above, ⟨rfl, sorted'.moved⟩,
      le_rfl, near, ?_, limited _ sorted', fun below => ?_⟩
    · exact beyond.le.trans within
    · obtain ⟨endSeq, rest', merged', -⟩ := head below
      obtain ⟨rfl, -⟩ := List.cons.inj (merged.symm.trans merged')
      have gap := sorted'.1
      simp only at gap
      omega
  · obtain ⟨s', done, waiting', -, rcvNxt, regions, -⟩ :=
      Receiver.processText_advances waiting merged sorted' reached advanced
    refine ⟨s', done, waiting', ?_, ?_, ?_, ?_, fun below => ?_⟩
    · rw [rcvNxt]
      exact past.le
    · rw [rcvNxt]
      exact sorted'.2.2.1
    · rw [rcvNxt]
      exact limited _ sorted' first List.mem_cons_self
    · rw [regions]
      exact fun r member => limited _ sorted' r (List.mem_cons_of_mem first member)
    · obtain ⟨endSeq, rest', merged', reaches⟩ := head below
      obtain ⟨rfl, -⟩ := List.cons.inj (merged.symm.trans merged')
      rw [rcvNxt]
      exact reaches

end Limit

def TcpState.peerClosed : TcpState → Bool
  | .closeWait | .lastAck | .closing | .timeWait => true
  | _ => false

variable {active : Bool} {state : TcpState}

theorem TcpState.next_peerClosed {code : TCPEventCode}
    (other : code.bringsFin = false) (closed : (state.next active code).peerClosed = true) :
    state.peerClosed = true := by
  cases code with
  | rcvFin => cases other
  | rcvFinAck => cases other
  | _ => cases state <;> cases active <;> first | rfl | cases closed

theorem TcpState.next_ne_init (code : TCPEventCode) (opened : state ≠ .init) :
    state.next active code ≠ .init := by
  cases state with
  | init => exact absurd rfl opened
  | _ => cases code <;> cases active <;> nofun

/-- Octets from `start` on, and then the FIN. -/
structure Peer where
  start : UInt32
  length : Nat

namespace Peer

variable (peer : Peer)

def seq (position : Nat) : UInt32 := peer.start + UInt32.ofNat position

def finSeq : UInt32 := peer.seq peer.length

theorem seq_add (position : Nat) (k : UInt32) :
    peer.seq position + k = peer.seq (position + k.toNat) :=
    (add_ofNat_add peer.start k position).symm

theorem seq_succ (position : Nat) : peer.seq position + 1 = peer.seq (position + 1) :=
  peer.seq_add position 1

theorem seq_ahead (low : Nat) (x : UInt32) : peer.seq (low + ahead (peer.seq low) x) = x := by
  rw [ahead, ← peer.seq_add]
  exact add_sub_cancel _ _

theorem ahead_seq {m n : Nat} (le : m ≤ n) (short : n < m + 2 ^ 32) :
    ahead (peer.seq m) (peer.seq n) = n - m := ahead_ofNat peer.start le short

end Peer

/-- A connection, and how far `rcv_nxt` has come since the stream began, which no step reads. -/
structure Reception where
  connection : Connection
  moved : Nat

namespace Reception

def step (r : Reception) (event : Event) : Except TcpFault Reception := do
  let c ← r.connection.step event
  return ⟨c, r.moved + ahead r.connection.receiver.rcvNxt c.receiver.rcvNxt⟩

def Moves (r : Reception) (event : Event) (r' : Reception) : Prop := r.step event = .ok r'

/-- A connection the peer has closed has got everything up to the FIN, and the application is told
of it once. -/
def FinInOrder (peer : Peer) (r : Reception) : Prop :=
  (r.connection.fsm.peerClosed = true →
    r.connection.receiver.rcvNxt = peer.finSeq + 1 ∧ r.connection.timesTold = 1) ∧
  r.connection.timesTold ≤ 1

/-- The segment is a piece of the stream, in one half of the sequence space with `rcv_nxt` and what
waits. -/
structure FromPeer (peer : Peer) (r : Reception) (seg : TCPSegment) (low position : Nat) :
    Prop where
  number : seg.sequenceNo = peer.seq position
  inside : position + seg.payloadLength.toNat ≤ peer.length
  fin : seg.finBit = true → position + seg.payloadLength.toNat = peer.length
  lowMoved : low ≤ r.moved
  nearMoved : r.moved < low + 2 ^ 31
  lowPosition : low ≤ position
  nearPosition : position + seg.payloadLength.toNat < low + 2 ^ 31
  waiting : ∀ region ∈ r.connection.receiver.receiveQueue.regionList,
    r.moved - low + ahead r.connection.receiver.rcvNxt region.endSeq < 2 ^ 31

/-- The peer sends its stream, and no FIN that is accepted leaves a gap before it. -/
def Meets (peer : Peer) (r : Reception) : Event → Prop
  | .segment seg _ rcvWnd _ =>
    seg.synBit = false ∧
    (seg.payloadLength ≠ 0 ∨ seg.finBit = true → ∃ low position, r.FromPeer peer seg low position) ∧
    (seg.finBit = true →
      isSegmentAcceptable r.connection.receiver.rcvNxt rcvWnd seg.sequenceNo seg.payloadLength =
        true → seqLE seg.sequenceNo r.connection.receiver.rcvNxt = true)
  | _ => True

structure Awaits (peer : Peer) (r : Reception) : Prop where
  moved : r.moved ≤ peer.length
  state : r.connection.fsm.peerClosed = false
  told : r.connection.timesTold = 0
  waiting : r.connection.receiver.Waiting
  inside : ∀ region ∈ r.connection.receiver.receiveQueue.regionList,
    ahead r.connection.receiver.rcvNxt region.endSeq ≤ peer.length - r.moved

def Done (peer : Peer) (r : Reception) : Prop :=
  r.moved = peer.length + 1 ∧ r.connection.timesTold = 1

structure Tracks (peer : Peer) (r : Reception) : Prop where
  number : r.connection.receiver.rcvNxt = peer.seq r.moved
  opened : r.connection.fsm ≠ .init
  noFin : r.connection.finRcvd = false
  phase : r.Awaits peer ∨ r.Done peer

variable {peer : Peer} {r : Reception}

theorem Tracks.finInOrder (tracks : r.Tracks peer) : r.FinInOrder peer := by
  rcases tracks.phase with awaits | ⟨moved, told⟩
  · refine ⟨fun closed => ?_, awaits.told.le.trans zero_le_one⟩
    rw [awaits.state] at closed
    cases closed
  · refine ⟨fun _ => ⟨?_, told⟩, told.le⟩
    rw [tracks.number, moved, Peer.finSeq, Peer.seq_succ]

structure Lands (peer : Peer) (r : Reception) (n : Nat) (result : TCPEventCode × Connection) :
    Prop where
  fsm : result.2.fsm = r.connection.fsm
  noFin : result.2.finRcvd = false
  number : result.2.receiver.rcvNxt = peer.seq n
  forward : r.moved ≤ n
  short : n < r.moved + 2 ^ 32
  phase : result.1.bringsFin = false ∧ Awaits peer ⟨result.2, n⟩ ∨ Done peer ⟨result.2, n⟩

theorem Awaits.quiet (awaits : r.Awaits peer) {c : Connection} (quiet : r.connection.Quiet c) :
    Awaits peer ⟨c, r.moved⟩ := by
  refine ⟨awaits.moved, ?_, quiet.told.trans awaits.told, ?_, ?_⟩
  · rw [quiet.fsm]
    exact awaits.state
  all_goals rw [quiet.receiver]
  · exact awaits.waiting
  · exact awaits.inside

variable {result : TCPEventCode × Connection}

theorem Tracks.lands (tracks : r.Tracks peer)
    (quiet : r.connection.QuietResult result) : r.Lands peer r.moved result := by
  obtain ⟨quiet, other⟩ := quiet
  refine ⟨quiet.fsm, quiet.finRcvd.trans tracks.noFin, ?_, le_rfl, by omega, ?_⟩
  · rw [quiet.receiver]
    exact tracks.number
  rcases tracks.phase with awaits | ⟨moved, told⟩
  · exact .inl ⟨other, awaits.quiet quiet⟩
  · exact .inr ⟨moved, quiet.told.trans told⟩

theorem Lands.tracks {n : Nat} (lands : r.Lands peer n result) (tracks : r.Tracks peer)
    (active : Bool) : Tracks peer ⟨{ result.2 with fsm := result.2.fsm.next active result.1 },
      r.moved + ahead r.connection.receiver.rcvNxt result.2.receiver.rcvNxt⟩ := by
  have way : r.moved + ahead r.connection.receiver.rcvNxt result.2.receiver.rcvNxt = n := by
    rw [tracks.number, lands.number, peer.ahead_seq lands.forward lands.short]
    have forward := lands.forward
    omega
  rw [way]
  refine ⟨lands.number, ?_, lands.noFin, ?_⟩
  · rw [lands.fsm]
    exact TcpState.next_ne_init result.1 tracks.opened
  rcases lands.phase with ⟨other, awaits⟩ | done
  · refine .inl { awaits with state := ?_ }
    rw [Bool.eq_false_iff]
    intro closed
    have before := TcpState.next_peerClosed other closed
    have state := awaits.state
    simp only at state
    rw [state] at before
    cases before
  · exact .inr done

section Arrival

variable {seg : TCPSegment} {rcvWnd : UInt32} {low position : Nat} (tracks : r.Tracks peer)
  (piece : r.FromPeer peer seg low position)

include tracks piece

theorem FromPeer.ahead_low : ahead (peer.seq low) r.connection.receiver.rcvNxt = r.moved - low ∧
      ahead (peer.seq low) seg.sequenceNo = position - low ∧
      ahead (peer.seq low) (seg.sequenceNo + seg.payloadLength) =
        position + seg.payloadLength.toNat - low := by
  have nearMoved := piece.nearMoved
  have lowPosition := piece.lowPosition
  have nearPosition := piece.nearPosition
  refine ⟨?_, ?_, ?_⟩
  · rw [tracks.number, peer.ahead_seq piece.lowMoved (by omega)]
  · rw [piece.number, peer.ahead_seq lowPosition (by omega)]
  · rw [piece.number, peer.seq_add, peer.ahead_seq (by omega) (by omega)]

theorem FromPeer.reaches (acceptable : isSegmentAcceptable r.connection.receiver.rcvNxt rcvWnd
    seg.sequenceNo
      seg.payloadLength = true) : (seg.payloadLength ≠ 0 →
      r.moved < position + seg.payloadLength.toNat) ∧
      (seg.payloadLength = 0 → r.moved ≤ position) := by
  obtain ⟨rcv, first, last⟩ := piece.ahead_low tracks
  have lowMoved := piece.lowMoved
  have nearMoved := piece.nearMoved
  have lowPosition := piece.lowPosition
  have nearPosition := piece.nearPosition
  constructor
  · intro text
    have beyond :=
      acceptable_reaches acceptable text (show ahead (peer.seq low) _ < _ by omega) (by omega)
    omega
  · intro empty
    have order :=
      @seqLE_iff (peer.seq low) r.connection.receiver.rcvNxt seg.sequenceNo (by omega) (by omega)
    simp only [isSegmentAcceptable, if_pos empty] at acceptable
    split_ifs at acceptable
    · rw [beq_iff_eq] at acceptable
      rw [acceptable] at first
      omega
    · rw [Bool.and_eq_true, order] at acceptable
      omega

theorem processText_lands (awaits : r.Awaits peer) (text : seg.payloadLength ≠ 0)
    (reaches : r.moved < position + seg.payloadLength.toNat) {c : Connection}
    (quiet : r.connection.Quiet c) (takes : c.takesText = true) (event : TCPEventCode) :
    Yields (c.processText seg rcvWnd event) fun progress => progress = .done .ignore c ∨
      ∃ c' n, progress = .next event c' ∧ c'.fsm = r.connection.fsm ∧ c'.finRcvd = false ∧
        c'.receiver.rcvNxt = peer.seq n ∧ r.moved ≤ n ∧ n < r.moved + 2 ^ 32 ∧ Awaits peer ⟨c', n⟩ ∧
        (position ≤ r.moved → position + seg.payloadLength.toNat ≤ n) := by
  obtain ⟨rcv, first, last⟩ := piece.ahead_low tracks
  obtain ⟨-, inside, -, lowMoved, nearMoved, lowPosition, nearPosition, inHalf⟩ := piece
  have waits := awaits.inside
  have moved := awaits.moved
  rw [← quiet.receiver] at rcv inHalf waits
  have above : ∀ region ∈ c.receiver.receiveQueue.regionList,
      ahead (peer.seq low) region.endSeq =
      r.moved - low + ahead c.receiver.rcvNxt region.endSeq := by
    intro region member
    have half := inHalf region member
    rw [← rcv]
    exact ahead_trans (by omega)
  have others : ∀ region ∈ c.receiver.receiveQueue.regionList,
      ahead (peer.seq low) region.endSeq < 2 ^ 31 ∧ ahead (peer.seq low) region.endSeq ≤
      peer.length - low := by
    intro region member
    have half := inHalf region member
    have within := waits region member
    have way := above region member
    omega
  obtain ⟨receiver, processed, waiting, forward, near, limit, regions, filled⟩ :=
    @processText_limit c.receiver ⟨seg.sequenceNo, seg.payloadLength, rcvWnd⟩ (peer.seq low)
      (peer.length - low)
      (quiet.receiver ▸ awaits.waiting) text (by omega) (show ahead _ seg.sequenceNo +
        seg.payloadLength.toNat < _ by omega)
      (fun region member => (others region member).1)
      (show _ < ahead _ (seg.sequenceNo + seg.payloadLength) by omega)
      (show ahead _ (seg.sequenceNo + seg.payloadLength) ≤ _ by omega)
        (fun region member => (others region member).2)
  obtain ⟨n, reached, number⟩ : ∃ n, low + ahead (peer.seq low) receiver.rcvNxt = n ∧
      receiver.rcvNxt = peer.seq n := ⟨_, rfl, (peer.seq_ahead low _).symm⟩
  have rest : ∀ region ∈ receiver.receiveQueue.regionList, ahead receiver.rcvNxt region.endSeq ≤
      peer.length - n := by
    intro region member
    have half := (waiting.above.mem member).2.2
    have way := @ahead_trans (peer.seq low) receiver.rcvNxt region.endSeq (by omega)
    have within := regions region member
    omega
  have noFin : c.finRcvd = false := quiet.finRcvd.trans tracks.noFin
  unfold processText
  rw [takes, Bool.true_and, if_pos (bne_iff_ne.mpr text)]
  refine .ite ?_ (.ok (.inl rfl))
  refine .bind (P := (· = receiver)) (processed ▸ .ok rfl) ?_
  rintro _ rfl
  refine yields_ite (fun earlier => ?_) fun _ => .ok (.inr ⟨_, n, rfl, quiet.fsm, noFin, number,
    by omega, by omega, ?_, fun below => ?_⟩)
  · simp [noFin] at earlier
  · refine ⟨by dsimp only; omega, ?_, quiet.told.trans awaits.told, waiting, rest⟩
    dsimp only
    rw [quiet.fsm]
    exact awaits.state
  · have filled' := filled (show ahead _ seg.sequenceNo ≤ _ by omega)
    simp only at filled'
    omega

omit tracks in
theorem checkFin_lands {c : Connection} {n : Nat}
    (state : c.fsm = r.connection.fsm) (noFin : c.finRcvd = false)
    (number : c.receiver.rcvNxt = peer.seq n)
    (forward : r.moved ≤ n) (short : n < r.moved + 2 ^ 32) (awaits : Awaits peer ⟨c, n⟩)
    (next : seg.finBit = true → n = peer.length) {event : TCPEventCode}
    (other : event.bringsFin = false)
    (oldSndNxt : UInt32) : ∃ n, r.Lands peer n
      ((c.checkFin seg event).2.deferredClose oldSndNxt (c.checkFin seg event).1,
        (c.checkFin seg event).2) := by
  cases fin : seg.finBit with
  | false =>
    have none : c.checkFin seg event = (event, c) := by simp [checkFin, fin]
    rw [none]
    exact ⟨n, state, noFin, number, forward, short,
      .inl ⟨deferredClose_bringsFin c oldSndNxt other, awaits⟩⟩
  | true =>
    obtain rfl := next fin
    have near := piece.nearPosition
    have last := piece.fin fin
    have lowMoved := piece.lowMoved
    have arrived : c.receiver.rcvNxt = seg.sequenceNo + seg.payloadLength := by
      rw [number, piece.number, peer.seq_add, last]
    obtain ⟨noFin', rcvNxt, told⟩ := c.checkFin_next seg event fin arrived
    refine ⟨peer.length + 1, (c.checkFin_apart seg event).1.trans state, noFin'.trans noFin,
      ?_, by omega, by omega, .inr ⟨rfl, ?_⟩⟩
    · rw [rcvNxt, number, peer.seq_succ]
    · exact told.trans (congrArg (· + 1) awaits.told)

theorem arrival_lands (awaits : r.Awaits peer) (takes : r.connection.takesText = true)
    (noSyn : seg.synBit = false) (inOrder : seg.finBit = true →
      isSegmentAcceptable r.connection.receiver.rcvNxt rcvWnd seg.sequenceNo seg.payloadLength =
      true →
        seqLE seg.sequenceNo r.connection.receiver.rcvNxt = true) (calls : List Sender.Call) :
    Yields (r.connection.processSegment1stThru8th seg rcvWnd calls) fun result => ∃ n,
    r.Lands peer n result := by
  have quietly : ∀ result, r.connection.QuietResult result → ∃ n, r.Lands peer n result :=
    fun result quiet => ⟨r.moved, tracks.lands quiet⟩
  unfold processSegment1stThru8th
  rw [noSyn]
  refine yields_ite (fun _ => .ok (quietly _ ⟨.refl _, rfl⟩)) fun accepted => ?_
  refine .ite ((checkRst_still _ seg).mono fun _ still => quietly _ still.quiet) ?_
  rw [Bool.not_eq_true, Bool.not_eq_false'] at accepted
  obtain ⟨rcv, first, last⟩ := piece.ahead_low tracks
  have reaches := piece.reaches tracks accepted
  have order := @seqLE_iff (peer.seq low) seg.sequenceNo r.connection.receiver.rcvNxt
    (by have := piece.nearPosition; have := piece.lowPosition; omega)
    (by have := piece.nearMoved; have := piece.lowMoved; omega)
  have below : seg.finBit = true → position ≤ r.moved := by
    intro fin
    have le := order.mp (inOrder fin accepted)
    have lowMoved := piece.lowMoved
    have lowPosition := piece.lowPosition
    omega
  refine (checkAck_still r.connection seg calls).bind fun progress still => ?_
  cases progress with
  | done event c => exact .ok (quietly _ still.quiet)
  | next event c =>
    obtain ⟨⟨quiet, -⟩, other⟩ := still
    have takes' : c.takesText = true := by
      rw [takesText, quiet.fsm]
      exact takes
    by_cases text : seg.payloadLength = 0
    · have none : c.processText seg rcvWnd event = .ok (.next event c) := by
        simp [processText, text]
      have lands : r.Lands peer r.moved (event, c) := tracks.lands ⟨quiet, other⟩
      dsimp only
      rw [none]
      refine .ok (checkFin_lands piece lands.fsm lands.noFin lands.number le_rfl lands.short
        (awaits.quiet quiet) (fun fin => ?_) other _)
      have whole := piece.fin fin
      rw [text, UInt32.toNat_zero, Nat.add_zero] at whole
      exact le_antisymm awaits.moved (whole ▸ below fin)
    · refine (processText_lands tracks piece awaits text (reaches.1 text) quiet takes' event).bind
        ?_
      rintro _ (rfl | ⟨c', n, rfl, state, noFin, number, forward, short, awaits', filled⟩)
      · exact .ok (quietly _ ⟨quiet, rfl⟩)
      · refine .ok (checkFin_lands piece state noFin number forward short awaits'
          (fun fin => ?_) other _)
        have whole := piece.fin fin
        have reached := filled (below fin)
        have inside : n ≤ peer.length := awaits'.moved
        omega

end Arrival

theorem segment_lands (tracks : r.Tracks peer) (running : r.connection.fsm ≠ .closed)
    {seg : TCPSegment} {iss rcvWnd : UInt32} {calls : List Sender.Call}
    (meets : r.Meets peer (.segment seg iss rcvWnd calls)) :
    Yields (r.connection.processRcvSegment seg iss rcvWnd calls) fun result => ∃ n,
    r.Lands peer n result := by
  obtain ⟨noSyn, fromPeer, inOrder⟩ := meets
  have quietly : ∀ result, r.connection.QuietResult result → ∃ n, r.Lands peer n result :=
    fun result quiet => ⟨r.moved, tracks.lands quiet⟩
  unfold processRcvSegment
  split
  case h_1 => exact .error
  case h_2 => exact .ok (quietly _ (processSegmentInListen_quiet _ seg noSyn iss))
  case h_3 => exact (processSegmentInSynSent_quiet _ seg calls noSyn).mono quietly
  case h_4 notInit notListen notSynSent =>
    by_cases bare : seg.payloadLength ≠ 0 ∨ seg.finBit = true
    · obtain ⟨low, position, piece⟩ := fromPeer bare
      rcases tracks.phase with awaits | ⟨moved, -⟩
      · have takes : r.connection.takesText = true := by
          have state := awaits.state
          revert state
          unfold takesText
          cases stateIs : r.connection.fsm <;> simp_all [TcpState.peerClosed]
        exact arrival_lands tracks piece awaits takes noSyn inOrder calls
      · -- the stream has ended: nothing of it is acceptable any more
        have dropped : isSegmentAcceptable r.connection.receiver.rcvNxt rcvWnd seg.sequenceNo
            seg.payloadLength = false := by
          rw [Bool.eq_false_iff]
          intro accepted
          have reaches := piece.reaches tracks accepted
          have inside := piece.inside
          by_cases text : seg.payloadLength = 0
          · have := reaches.2 text
            omega
          · have := reaches.1 text
            omega
        rw [processSegment1stThru8th, dropped]
        exact .ok (quietly _ ⟨.refl _, rfl⟩)
    · rw [not_or, not_not, Bool.not_eq_true] at bare
      exact (processSegment1stThru8th_quiet _ seg calls rcvWnd bare.1 bare.2).mono fun _ still =>
        quietly _ still.quiet

variable {event : Event}

theorem process_lands (tracks : r.Tracks peer) (running : r.connection.fsm ≠ .closed)
    (meets : r.Meets peer event) :
    Yields (r.connection.process event) fun result => ∃ n, r.Lands peer n result := by
  by_cases arrival : ∃ seg iss rcvWnd calls, event = .segment seg iss rcvWnd calls
  · obtain ⟨seg, iss, rcvWnd, calls, rfl⟩ := arrival
    exact segment_lands tracks running meets
  · have other : ∀ seg iss rcvWnd calls, event ≠ .segment seg iss rcvWnd calls :=
      fun seg iss rcvWnd calls same => arrival ⟨seg, iss, rcvWnd, calls, same⟩
    refine (process_quiet _ tracks.opened other).mono fun result quiet => ?_
    exact ⟨r.moved, tracks.lands quiet⟩

theorem step_closed (closed : r.connection.fsm = .closed) (event : Event) :
    Yields (r.connection.step event) fun _ => False := by
  have stays : Yields (r.connection.process event) fun result => result.2.fsm = .closed := by
    by_cases arrival : ∃ seg iss rcvWnd calls, event = .segment seg iss rcvWnd calls
    · obtain ⟨seg, iss, rcvWnd, calls, rfl⟩ := arrival
      change Yields (r.connection.processRcvSegment seg iss rcvWnd calls) _
      unfold processRcvSegment
      rw [closed]
      refine (processSegment1stThru8th_same _ seg calls rcvWnd).mono fun result same => ?_
      exact same.1.trans closed
    · have other : ∀ seg iss rcvWnd calls, event ≠ .segment seg iss rcvWnd calls :=
        fun seg iss rcvWnd calls same => arrival ⟨seg, iss, rcvWnd, calls, same⟩
      refine (process_quiet _ (by rw [closed]; nofun) other).mono fun result quiet => ?_
      exact quiet.1.fsm.trans closed
  refine stays.bind ?_
  rintro ⟨code, c⟩ closed'
  exact yields_ite (fun _ => .error) fun running => absurd closed' running

theorem step_tracks (tracks : r.Tracks peer) (meets : r.Meets peer event) :
    Yields (r.step event) (Tracks peer) := by
  by_cases closed : r.connection.fsm = .closed
  · exact (step_closed closed event).bind fun _ impossible => impossible.elim
  refine .bind (P := fun c => Tracks peer
    ⟨c, r.moved + ahead r.connection.receiver.rcvNxt c.receiver.rcvNxt⟩) ?_ fun c tracks' =>
    .ok tracks'
  refine (process_lands tracks closed meets).bind ?_
  rintro result ⟨n, lands⟩
  exact .ite .error (.ok (lands.tracks tracks _))

/-- A connection in a data transfer state: it is at some position of the peer's stream, knows of no
FIN, and what waits is of the stream. -/
structure Ready (peer : Peer) (r : Reception) : Prop extends Awaits peer r where
  transfers : r.connection.takesText = true
  number : r.connection.receiver.rcvNxt = peer.seq r.moved
  noFin : r.connection.finRcvd = false

/-- If every FIN comes after the data before it, the peer's close takes effect when all has 
arrived. -/
theorem fin_in_order (ready : r.Ready peer) {events : List Event}
    (meets : Trace.Each Moves (Meets peer) r events) :
    Trace.Always Moves (FinInOrder peer) r events := by
  have opened : r.connection.fsm ≠ .init := by
    intro state
    have takes := ready.transfers
    rw [takesText, state] at takes
    cases takes
  refine Trace.always_of_each (I := Tracks peer) ?_ (fun _ => Tracks.finInOrder)
    ⟨ready.number, opened, ready.noFin, .inl ready.toAwaits⟩ meets
  intro r event r' tracks meets moves
  exact step_tracks tracks meets r' moves

def dataSegment (sequenceNo payloadLength : UInt32) (finBit : Bool) : TCPSegment :=
  ⟨⟨sequenceNo, 1001, payloadLength, 7504, [], 0⟩, false, true, finBit, false, none, false⟩

def handshake : List Event :=
  [.openPassive, .segment ⟨⟨0, 0, 0, 7504, [], 0⟩, true, false, false, false, none,
    false⟩ 1000 7504 [], .segment (dataSegment 1 0 false) 0 7504 []]

def reordered : List Event :=
  [.segment (dataSegment 101 100 false) 0 7504 [], .segment (dataSegment 1 100 false) 0 7504 [],
    .segment (dataSegment 201 0 true) 0 7504 [], .close]

theorem reordered_fin_in_order :
    ∃ c, handshake.foldlM Connection.step (new 536 7504 false false) = .ok c ∧
      Ready ⟨1, 200⟩ ⟨c, 0⟩ ∧
      (∃ r, reordered.foldlM step ⟨c, 0⟩ = .ok r ∧ r.connection.fsm = .lastAck ∧ r.moved = 201) ∧
      Trace.Always Moves (FinInOrder ⟨1, 200⟩) ⟨c, 0⟩ reordered := by
  have ready : ∀ c, handshake.foldlM Connection.step (new 536 7504 false false) = .ok c →
      Ready ⟨1, 200⟩ ⟨c, 0⟩ := by
    rintro _ ⟨⟩
    exact ⟨⟨by decide, rfl, rfl, ⟨rfl, trivial⟩, nofun⟩, rfl, rfl, rfl⟩
  refine ⟨_, rfl, ready _ rfl, ⟨_, rfl, rfl, rfl⟩, fin_in_order (ready _ rfl) ?_⟩
  refine .cons (fun _ => Except.ok.inj) ⟨rfl, fun _ => ⟨0, 100, ?_⟩, nofun⟩ ?_
  · constructor <;> decide
  refine .cons (fun _ => Except.ok.inj) ⟨rfl, fun _ => ⟨0, 0, ?_⟩, nofun⟩ ?_
  · constructor <;> decide
  refine .cons (fun _ => Except.ok.inj) ⟨rfl, fun _ => ⟨0, 200, ?_⟩, fun _ _ => rfl⟩ ?_
  · constructor <;> decide
  exact .cons (fun _ => Except.ok.inj) trivial trivial

def finAhead : List Event :=
  handshake ++ [.segment (dataSegment 101 100 true) 0 7504 [],
    .segment (dataSegment 1 100 false) 0 7504 []]

/-- The FIN comes ahead of the first segment: the connection is in CLOSE_WAIT with nothing received,
and does not take the data when it comes. -/
theorem finAhead_not_in_order :
    ∃ c, finAhead.foldlM Connection.step (new 536 7504 false false) = .ok c ∧
      c.fsm = .closeWait ∧ c.receiver.rcvNxt = 1 ∧ c.receiver.delivered = [] ∧ c.timesTold = 0 ∧
      ∀ moved, ¬ FinInOrder ⟨1, 200⟩ ⟨c, moved⟩ := by
  refine ⟨_, rfl, rfl, rfl, rfl, rfl, fun moved inOrder => ?_⟩
  exact Nat.zero_ne_one (inOrder.1 rfl).2

end Reception

end Srwsn
