import Srwsn.Lib.Trace
import Srwsn.Tcp.Sequence

/-! The receive queue that keeps byte counts only: regions of octets that have arrived. -/
namespace Srwsn

structure Region where
  beginSeq : UInt32
  endSeq : UInt32
  deriving DecidableEq, Repr

structure TCPVirtualDataRcvQueue where
  rcvNxt : UInt32
  regionList : List Region
  deriving DecidableEq, Repr

namespace TCPVirtualDataRcvQueue

def init (startSeq : UInt32) : TCPVirtualDataRcvQueue := ⟨startSeq, []⟩

/-- Region `i` has grown: the regions it now overlaps or touches become part of it. -/
def absorb (i : Region) : List Region → List Region
  | [] => [i]
  | j :: rest =>
    if seqGE i.endSeq j.beginSeq then
      absorb ⟨i.beginSeq, if seqLess i.endSeq j.endSeq then j.endSeq else i.endSeq⟩ rest
    else i :: j :: rest

def merge (seg : Region) : List Region → List Region
  | [] => [seg]
  | i :: rest =>
    if seqLess i.endSeq seg.beginSeq then i :: merge seg rest
    else if seqLess seg.endSeq i.beginSeq then seg :: i :: rest
    else
      let beginSeq := if seqLess seg.beginSeq i.beginSeq then seg.beginSeq else i.beginSeq
      if seqLess i.endSeq seg.endSeq then absorb ⟨beginSeq, seg.endSeq⟩ rest
      else ⟨beginSeq, i.endSeq⟩ :: rest

def insertBytesFromSegment (q : TCPVirtualDataRcvQueue) (sequenceNo payloadLength : UInt32) :
    TCPVirtualDataRcvQueue :=
  let regionList := merge ⟨sequenceNo, sequenceNo + payloadLength⟩ q.regionList
  match regionList with
  | [] => ⟨q.rcvNxt, regionList⟩
  | first :: _ => ⟨if seqGE q.rcvNxt first.beginSeq then first.endSeq else q.rcvNxt, regionList⟩

def extractTo (q : TCPVirtualDataRcvQueue) (seq : UInt32) :
    Except TcpFault (UInt32 × TCPVirtualDataRcvQueue) :=
  if !seqLE seq q.rcvNxt then .error .assertion
  else
    match q.regionList with
    | [] => .ok (0, q)
    | i :: rest =>
      if !seqLess i.beginSeq i.endSeq then .error .assertion
      else if seqLE seq i.beginSeq then .ok (0, q)
      else if seqLess seq i.endSeq then
        .ok (seq - i.beginSeq, ⟨q.rcvNxt, ⟨seq, i.endSeq⟩ :: rest⟩)
      else .ok (i.endSeq - i.beginSeq, ⟨q.rcvNxt, rest⟩)

def extractAll (seq : UInt32) :
    Nat → TCPVirtualDataRcvQueue → Except TcpFault (List UInt32 × TCPVirtualDataRcvQueue)
  | 0, _ => .error .outOfFuel
  | fuel + 1, q => do
    let (numBytes, q) ← q.extractTo seq
    if numBytes = 0 then return ([], q)
    else do
      let (more, q) ← extractAll seq fuel q
      return (numBytes :: more, q)

def getAmountOfBufferedBytes (q : TCPVirtualDataRcvQueue) : UInt32 :=
  q.regionList.foldl (fun bytes i => bytes + (i.endSeq - i.beginSeq)) 0

def getAmountOfFreeBytes (q : TCPVirtualDataRcvQueue) (maxRcvBuffer : UInt32) : UInt32 :=
  maxRcvBuffer - q.getAmountOfBufferedBytes

end TCPVirtualDataRcvQueue

def isSegmentAcceptable (rcvNxt rcvWnd seqNo segLen : UInt32) : Bool :=
  let last := seqNo + segLen - 1
  if segLen = 0 then
    if rcvWnd = 0 then seqNo == rcvNxt
    else seqLE rcvNxt seqNo && seqLess seqNo (rcvNxt + rcvWnd)
  else if rcvWnd = 0 then false
  else
    (seqLE rcvNxt seqNo && seqLess seqNo (rcvNxt + rcvWnd)) ||
    (seqLE rcvNxt last && seqLess last (rcvNxt + rcvWnd))

structure Receiver where
  irs : UInt32
  rcvNxt : UInt32
  maxRcvBuffer : UInt32
  receiveQueue : TCPVirtualDataRcvQueue
  delivered : List UInt32
  deriving DecidableEq, Repr

structure DataSegment where
  sequenceNo : UInt32
  payloadLength : UInt32
  rcvWnd : UInt32
  deriving DecidableEq, Repr

namespace Receiver

def init (irs maxRcvBuffer : UInt32) : Receiver :=
  ⟨irs, irs + 1, maxRcvBuffer, .init (irs + 1), []⟩

variable (s : Receiver) (seg : DataSegment)

/-- The segment is acceptable and there is room for its text. -/
def takes : Bool :=
  isSegmentAcceptable s.rcvNxt seg.rcvWnd seg.sequenceNo seg.payloadLength &&
    seg.payloadLength != 0 &&
    decide (seg.payloadLength ≤ s.receiveQueue.getAmountOfFreeBytes s.maxRcvBuffer)

def processText : Except TcpFault Receiver := do
  let queue := s.receiveQueue.insertBytesFromSegment seg.sequenceNo seg.payloadLength
  if queue.rcvNxt = s.rcvNxt then return { s with receiveQueue := queue }
  else do
    let (messages, queue) ← queue.extractAll queue.rcvNxt (queue.regionList.length + 1)
    return { s with
      rcvNxt := queue.rcvNxt, receiveQueue := queue, delivered := s.delivered ++ messages }

def receive : Except TcpFault Receiver :=
  if s.takes seg then s.processText seg else .ok s

end Receiver

open Serial

open TCPVirtualDataRcvQueue (merge absorb extractTo)

def Separated (base : UInt32) : Nat → List Region → Prop
  | _, [] => True
  | low, r :: rest =>
    low ≤ ahead base r.beginSeq ∧ ahead base r.beginSeq < ahead base r.endSeq ∧
      ahead base r.endSeq < 2 ^ 31 ∧ Separated base (ahead base r.endSeq + 1) rest

def Region.Has (base : UInt32) (r : Region) (octet : Nat) : Prop :=
  ahead base r.beginSeq ≤ octet ∧ octet < ahead base r.endSeq

def Covers (base : UInt32) (regions : List Region) (octet : Nat) : Prop :=
  ∃ r ∈ regions, r.Has base octet

section Merge

variable {base : UInt32} {low : Nat} {i : Region} {regions : List Region}

theorem Separated.mono {low' : Nat} (le : low' ≤ low) (sorted : Separated base low regions) :
    Separated base low' regions := by
  cases regions with
  | nil => trivial
  | cons r rest => exact ⟨le.trans sorted.1, sorted.2⟩

variable {octet : Nat}

@[simp] theorem covers_nil : ¬ Covers base [] octet := fun ⟨_, member, _⟩ => by cases member

@[simp] theorem covers_cons : Covers base (i :: regions) octet ↔ i.Has base octet ∨
    Covers base regions octet := by
  simp [Covers]

theorem Separated.mem {r : Region} (sorted : Separated base low regions) (member : r ∈ regions) :
    low ≤ ahead base r.beginSeq ∧ ahead base r.beginSeq < ahead base r.endSeq ∧
    ahead base r.endSeq < 2 ^ 31 := by
  induction regions generalizing low with
  | nil => cases member
  | cons i rest ih =>
    obtain ⟨le, filled, near, sorted⟩ := sorted
    cases member with
    | head => exact ⟨le, filled, near⟩
    | tail _ member =>
      have later := ih sorted member
      exact ⟨by omega, later.2⟩

theorem Separated.low_le (sorted : Separated base low regions)
    (covered : Covers base regions octet) : low ≤ octet := by
  obtain ⟨r, member, has⟩ := covered
  exact (sorted.mem member).1.trans has.1

theorem Separated.run {last : Nat} (sorted : Separated base low (i :: regions))
    (whole : ∀ octet, ahead base i.beginSeq ≤ octet → octet < last →
      Covers base (i :: regions) octet) :
    last ≤ ahead base i.endSeq := by
  by_contra beyond
  rcases covers_cons.mp (whole (ahead base i.endSeq) sorted.2.1.le (by omega)) with has | later
  · exact lt_irrefl _ has.2
  · exact absurd (sorted.2.2.2.low_le later) (by omega)

theorem absorb_spec (filled : ahead base i.beginSeq < ahead base i.endSeq)
    (near : ahead base i.endSeq < 2 ^ 31) (sorted : Separated base low regions) :
    ∃ endSeq rest, absorb i regions = ⟨i.beginSeq, endSeq⟩ :: rest ∧
      ahead base i.endSeq ≤ ahead base endSeq ∧ ahead base endSeq < 2 ^ 31 ∧
      Separated base (ahead base endSeq + 1) rest := by
  induction regions generalizing i low with
  | nil => exact ⟨i.endSeq, [], rfl, le_rfl, near, trivial⟩
  | cons j regions ih =>
    obtain ⟨-, nonempty, near', sorted⟩ := sorted
    have touches := seqGE_iff near (nonempty.trans near')
    have longer := seqLess_iff near near'
    rw [absorb]
    split
    · rename_i overlap
      split
      · rename_i longer'
        have grown := longer.mp longer'
        obtain ⟨endSeq, rest, absorbed, le, near'', sorted⟩ :=
          ih (i := ⟨i.beginSeq, j.endSeq⟩) (filled.trans grown) near' sorted
        exact ⟨endSeq, rest, absorbed, grown.le.trans le, near'', sorted⟩
      · exact ih filled near sorted
    · rename_i apart
      have gap : ahead base i.endSeq < ahead base j.beginSeq := by
        rw [touches] at apart
        omega
      exact ⟨i.endSeq, j :: regions, rfl, le_rfl, near, gap, nonempty, near', sorted⟩

theorem absorb_covers (start : ahead base i.beginSeq ≤ low) (near : ahead base i.endSeq < 2 ^ 31)
    (sorted : Separated base low regions) :
    Covers base (absorb i regions) octet ↔ i.Has base octet ∨ Covers base regions octet := by
  induction regions generalizing i low with
  | nil => simp [absorb]
  | cons j regions ih =>
    obtain ⟨le, nonempty, near', sorted⟩ := sorted
    have longer := seqLess_iff near near'
    rw [absorb]
    split
    · rename_i overlap
      have touching := (seqGE_iff near (nonempty.trans near')).mp overlap
      rw [covers_cons, ← or_assoc]
      split
      · rename_i grown
        have grown := longer.mp grown
        have both : Region.Has base ⟨i.beginSeq, j.endSeq⟩ octet ↔ i.Has base octet ∨
            j.Has base octet := by
          simp only [Region.Has]
          omega
        rw [ih (i := ⟨i.beginSeq, j.endSeq⟩) (by simp only; omega) near' sorted, both]
      · rename_i short
        rw [longer] at short
        have inside : j.Has base octet → i.Has base octet := by
          simp only [Region.Has]
          omega
        rw [ih (by omega) near sorted, or_iff_left_of_imp inside]
    · rw [covers_cons]

variable (seg : Region) (filled : ahead base seg.beginSeq < ahead base seg.endSeq)
  (near : ahead base seg.endSeq < 2 ^ 31)

include filled near

theorem merge_separated (sorted : Separated base low regions) (le : low ≤ ahead base seg.beginSeq) :
    ∃ first rest, merge seg regions = first :: rest ∧ Separated base low (first :: rest) := by
  induction regions generalizing low with
  | nil => exact ⟨seg, [], rfl, le, filled, near, trivial⟩
  | cons i regions ih =>
    obtain ⟨low_le, nonempty, near', sorted⟩ := sorted
    have behind := seqLess_iff near' (filled.trans near)
    have before := seqLess_iff near (nonempty.trans near')
    have earlier := seqLess_iff (filled.trans near) (nonempty.trans near')
    have longer := seqLess_iff near' near
    rw [merge]
    split
    · rename_i passed
      obtain ⟨next, rest, merged, sorted'⟩ := ih sorted (behind.mp passed)
      exact ⟨i, next :: rest, by rw [merged], low_le, nonempty, near', sorted'⟩
    · rename_i reached
      rw [behind] at reached
      split
      · rename_i gap
        exact ⟨seg, i :: regions, rfl, le, filled, near, before.mp gap, nonempty, near', sorted⟩
      · rename_i touching
        rw [before] at touching
        -- the begin of the merged region is the smaller one
        obtain ⟨beginSeq, smaller, low_le', le_begin⟩ : ∃ beginSeq,
            (if seqLess seg.beginSeq i.beginSeq then seg.beginSeq else i.beginSeq) = beginSeq ∧
              low ≤ ahead base beginSeq ∧ ahead base beginSeq ≤ ahead base i.beginSeq := by
          split
          · exact ⟨_, rfl, le, (earlier.mp ‹_›).le⟩
          · exact ⟨_, rfl, low_le, le_rfl⟩
        simp only [smaller]
        split
        · rename_i grown
          have filled' := le_begin.trans_lt (nonempty.trans (longer.mp grown))
          obtain ⟨endSeq, rest, absorbed, le', near'', sorted'⟩ :=
            absorb_spec (i := ⟨beginSeq, seg.endSeq⟩) filled' near sorted
          exact ⟨_, rest, absorbed, low_le', filled'.trans_le le', near'', sorted'⟩
        · exact ⟨_, regions, rfl, low_le', le_begin.trans_lt nonempty, near', sorted⟩

theorem merge_covers (sorted : Separated base low regions) : Covers base (merge seg regions) octet ↔
      seg.Has base octet ∨ Covers base regions octet := by
  induction regions generalizing low with
  | nil => simp [merge]
  | cons i regions ih =>
    obtain ⟨-, nonempty, near', sorted⟩ := sorted
    have earlier := seqLess_iff (filled.trans near) (nonempty.trans near')
    have longer := seqLess_iff near' near
    rw [merge]
    split
    · rw [covers_cons, ih sorted, covers_cons, or_left_comm]
    · rename_i reached
      rw [seqLess_iff near' (filled.trans near)] at reached
      split
      · rw [covers_cons]
      · rename_i touching
        rw [seqLess_iff near (nonempty.trans near')] at touching
        obtain ⟨beginSeq, smaller, least⟩ : ∃ beginSeq,
            (if seqLess seg.beginSeq i.beginSeq then seg.beginSeq else i.beginSeq) = beginSeq ∧
              ahead base beginSeq = min (ahead base seg.beginSeq) (ahead base i.beginSeq) := by
          refine ⟨_, rfl, ?_⟩
          split
          · simp_all; omega
          · simp_all
        rw [covers_cons, ← or_assoc]
        simp only [smaller]
        split
        · rename_i grown
          have grown := longer.mp grown
          rw [absorb_covers (i := ⟨beginSeq, seg.endSeq⟩) (by simp only; omega) near sorted]
          refine or_congr_left ?_
          simp only [Region.Has]
          omega
        · rename_i short
          rw [longer] at short
          rw [covers_cons]
          refine or_congr_left ?_
          simp only [Region.Has]
          omega

theorem merge_head (sorted : Separated base (ahead base seg.beginSeq + 1) regions) :
    ∃ endSeq rest, merge seg regions = ⟨seg.beginSeq, endSeq⟩ :: rest ∧ ahead base seg.endSeq ≤
    ahead base endSeq := by
  obtain ⟨⟨beginSeq, endSeq⟩, rest, merged, sorted'⟩ :=
    merge_separated seg filled near (sorted.mono (Nat.le_succ _)) le_rfl
  have own : ∀ octet, ahead base seg.beginSeq ≤ octet → octet < ahead base seg.endSeq →
      Covers base (⟨beginSeq, endSeq⟩ :: rest) octet := fun octet above below => by
    rw [← merged, merge_covers seg filled near sorted]
    exact .inl ⟨above, below⟩
  have lowest : Separated base (ahead base beginSeq) (⟨beginSeq, endSeq⟩ :: rest) :=
    ⟨le_rfl, sorted'.2⟩
  have same : beginSeq = seg.beginSeq :=
    ahead_inj.mp (le_antisymm (lowest.low_le (own _ le_rfl filled)) sorted'.1)
  subst same
  exact ⟨endSeq, rest, merged, sorted'.run own⟩

/-- The segment leaves a gap at `rcv_nxt`, or the first region then begins at `rcv_nxt` or where the
segment does. -/
theorem merge_cases {rcvNxt : UInt32} (nearNext : ahead base rcvNxt < 2 ^ 31)
    (sorted : Separated base (ahead base rcvNxt + 1) regions)
    (beyond : ahead base rcvNxt < ahead base seg.endSeq) :
    ∃ first rest, merge seg regions = first :: rest ∧
      (seqGE rcvNxt first.beginSeq = false ∧ ahead base rcvNxt ≤ ahead base seg.beginSeq ∧
          Separated base (ahead base rcvNxt + 1) (first :: rest) ∨
        seqGE rcvNxt first.beginSeq = true ∧ first.endSeq ≠ rcvNxt ∧
          Separated base (ahead base first.beginSeq) (first :: rest) ∧
          ahead base first.beginSeq = min (ahead base rcvNxt) (ahead base seg.beginSeq) ∧
          ahead base rcvNxt < ahead base first.endSeq) := by
  have reach := fun first : Region => @seqGE_iff base rcvNxt first.beginSeq nearNext
  have stuck : ∀ endSeq, ahead base rcvNxt < ahead base endSeq → endSeq ≠ rcvNxt := by
    rintro _ past rfl
    exact lt_irrefl _ past
  rcases Nat.lt_or_ge (ahead base seg.beginSeq) (ahead base rcvNxt) with below | start
  · have sorted₀ := sorted.mono (Nat.succ_le_succ below.le)
    obtain ⟨endSeq, rest, merged, reaches⟩ := merge_head seg filled near sorted₀
    obtain ⟨_, _, merged', sorted'⟩ :=
      merge_separated seg filled near (sorted₀.mono (Nat.le_succ _)) le_rfl
    obtain ⟨rfl, rfl⟩ := List.cons.inj (merged.symm.trans merged')
    have past := beyond.trans_le reaches
    exact ⟨_, rest, merged, .inr ⟨(reach _ (below.trans nearNext)).mpr below.le,
      stuck _ past, sorted', (Nat.min_eq_right below.le).symm, past⟩⟩
  · obtain ⟨first, rest, merged, sorted'⟩ :=
      merge_separated seg filled near (sorted.mono (Nat.le_succ _)) start
    have reach := reach first (sorted'.2.1.trans sorted'.2.2.1)
    refine ⟨first, rest, merged, ?_⟩
    rcases Nat.lt_or_ge (ahead base rcvNxt) (ahead base first.beginSeq) with gap | reached
    · refine .inl ⟨?_, start, gap, sorted'.2⟩
      rw [Bool.eq_false_iff, Ne, reach]
      exact Nat.not_le.mpr gap
    · have same := le_antisymm reached sorted'.1
      have past := same.symm.trans_lt sorted'.2.1
      exact .inr ⟨reach.mpr reached, stuck _ past, ⟨le_rfl, sorted'.2⟩,
        same.trans (Nat.min_eq_left start).symm, past⟩

end Merge

theorem Separated.rebase {base base' : UInt32} {low : Nat} {regions : List Region}
    (near : ahead base' base < 2 ^ 31) (sorted : Separated base low regions)
    (inHalf : ∀ r ∈ regions, ahead base' r.endSeq < 2 ^ 31) :
    Separated base' (ahead base' base + low) regions := by
  induction regions generalizing low with
  | nil => trivial
  | cons r rest ih =>
    obtain ⟨le, filled, near', sorted⟩ := sorted
    have first := @ahead_trans base' base r.beginSeq (by omega)
    have last := @ahead_trans base' base r.endSeq (by omega)
    have later := ih sorted fun r' member => inHalf r' (List.mem_cons_of_mem r member)
    refine ⟨by omega, by omega, inHalf r List.mem_cons_self, ?_⟩
    rw [last, Nat.add_assoc]
    exact later

section Sorted

variable {base base' : UInt32} {low : Nat} {regions : List Region}
  (sorted : Separated base (ahead base base' + low) regions)

include sorted

theorem Separated.moved : Separated base' low regions := by
  induction regions generalizing low with
  | nil => trivial
  | cons r rest ih =>
    obtain ⟨le, filled, near, sorted⟩ := sorted
    have first := @ahead_of_le base base' r.beginSeq (by omega)
    have last := @ahead_of_le base base' r.endSeq (by omega)
    refine ⟨by omega, by omega, by omega, ih ?_⟩
    exact sorted.mono (by omega)

theorem covers_rebase {octet : Nat} :
    Covers base' regions octet ↔ Covers base regions (ahead base base' + octet) := by
  have same : ∀ r ∈ regions, r.Has base' octet ↔ r.Has base (ahead base base' + octet) := by
    intro r member
    obtain ⟨le, filled, -⟩ := sorted.mem member
    have first := @ahead_of_le base base' r.beginSeq (by omega)
    have last := @ahead_of_le base base' r.endSeq (by omega)
    unfold Region.Has
    omega
  exact exists_congr fun r => and_congr_right (same r)

end Sorted

theorem segment_region {base seqNo segLen : UInt32} (text : segLen ≠ 0)
    (near : ahead base seqNo + segLen.toNat < 2 ^ 31) :
    ahead base seqNo < ahead base (seqNo + segLen) ∧ ahead base (seqNo + segLen) < 2 ^ 31 ∧
      ahead base (seqNo + segLen - 1) + 1 = ahead base (seqNo + segLen) := by
  have whole := @ahead_add base seqNo segLen (by omega)
  have some : 0 < segLen.toNat := by
    rw [Nat.pos_iff_ne_zero, Ne, ← UInt32.toNat_zero, UInt32.toNat_inj]
    exact text
  have last := ahead_rebase base (seqNo + segLen - 1) (seqNo + segLen)
  have one : ahead (seqNo + segLen - 1) (seqNo + segLen) = 1 := by simp [ahead]
  have below := @ahead_lt base (seqNo + segLen - 1)
  omega

theorem acceptable_reaches {base rcvNxt rcvWnd seqNo segLen : UInt32}
    (acceptable : isSegmentAcceptable rcvNxt rcvWnd seqNo segLen = true) (text : segLen ≠ 0)
    (near : ahead base rcvNxt < 2 ^ 31) (nearSeg : ahead base seqNo + segLen.toNat < 2 ^ 31) :
    ahead base rcvNxt < ahead base (seqNo + segLen) := by
  obtain ⟨filled, nearEnd, last⟩ := segment_region text nearSeg
  have first := @seqLE_iff base rcvNxt seqNo near (by omega)
  have last' := @seqLE_iff base rcvNxt (seqNo + segLen - 1) near (by omega)
  simp only [isSegmentAcceptable, if_neg text] at acceptable
  split at acceptable
  · cases acceptable
  · simp only [Bool.or_eq_true, Bool.and_eq_true] at acceptable
    rcases acceptable with inside | inside
    · have := first.mp inside.1
      omega
    · have := last'.mp inside.1
      omega

namespace Receiver

variable (s : Receiver)

def total : Nat := (s.delivered.map UInt32.toNat).sum

/-- Every octet below `rcv_nxt` was handed over once; sequence numbers count modulo 2^32. -/
def Exact : Prop := s.total % 2 ^ 32 = ahead (s.irs + 1) s.rcvNxt
  deriving Decidable

def InHalf (seg : DataSegment) : Prop :=
  ∃ base, ahead base s.rcvNxt < 2 ^ 31 ∧
    ahead base seg.sequenceNo + seg.payloadLength.toNat < 2 ^ 31 ∧
    ∀ r ∈ s.receiveQueue.regionList, ahead base r.endSeq < 2 ^ 31

/-- No text that is taken begins below `rcv_nxt`. -/
def StartsFresh (seg : DataSegment) : Prop :=
  s.takes seg = true → seqLE s.rcvNxt seg.sequenceNo = true

/-- What waits in the queue is above `rcv_nxt`, with a gap. -/
structure Waiting (s : Receiver) : Prop where
  agree : s.receiveQueue.rcvNxt = s.rcvNxt
  above : Separated s.rcvNxt 1 s.receiveQueue.regionList

def overlap (seg : DataSegment) : Nat :=
  if seqLE s.rcvNxt seg.sequenceNo then 0 else ahead seg.sequenceNo s.rcvNxt

end Receiver

section Extract

variable {base : UInt32} {low : Nat} {first : Region} {rest : List Region}

variable (sorted : Separated base low (first :: rest))

include sorted

theorem extractTo_first : extractTo ⟨first.endSeq, first :: rest⟩ first.endSeq =
      .ok (first.endSeq - first.beginSeq, ⟨first.endSeq, rest⟩) := by
  obtain ⟨-, filled, near, -⟩ := sorted
  have self : seqLE first.endSeq first.endSeq = true := (seqLE_iff near near).mpr le_rfl
  have nonempty := (seqLess_iff (filled.trans near) near).mpr filled
  have above : seqLE first.endSeq first.beginSeq = false := by
    rw [Bool.eq_false_iff, Ne, seqLE_iff near (filled.trans near)]
    omega
  have whole : seqLess first.endSeq first.endSeq = false := by simp [seqLess]
  simp [extractTo, self, nonempty, above, whole]

theorem extractTo_rest :
    extractTo ⟨first.endSeq, rest⟩ first.endSeq = .ok (0, ⟨first.endSeq, rest⟩) := by
  obtain ⟨-, -, near, sorted⟩ := sorted
  have self : seqLE first.endSeq first.endSeq = true := (seqLE_iff near near).mpr le_rfl
  cases rest with
  | nil => simp [extractTo, self]
  | cons next rest =>
    obtain ⟨gap, filled', near', -⟩ := sorted
    have nonempty' := (seqLess_iff (filled'.trans near') near').mpr filled'
    have below : seqLE first.endSeq next.beginSeq = true :=
      (seqLE_iff near (filled'.trans near')).mpr (by omega)
    simp [extractTo, self, nonempty', below]

theorem extractAll_first (fuel : Nat) :
    TCPVirtualDataRcvQueue.extractAll first.endSeq (fuel + 2) ⟨first.endSeq, first :: rest⟩ =
      .ok ([first.endSeq - first.beginSeq], ⟨first.endSeq, rest⟩) := by
  have some : first.endSeq - first.beginSeq ≠ 0 := by
    intro none
    have filled := sorted.2.1
    rw [sub_eq_zero.mp none] at filled
    omega
  simp [TCPVirtualDataRcvQueue.extractAll, extractTo_first sorted, extractTo_rest sorted, some]

end Extract

namespace Receiver

variable {s : Receiver} {seg : DataSegment} {base : UInt32} {low : Nat} {first : Region}
  {rest : List Region}

theorem processText_advances (waiting : s.Waiting)
    (merged : merge ⟨seg.sequenceNo, seg.sequenceNo + seg.payloadLength⟩
      s.receiveQueue.regionList = first :: rest)
    (sorted : Separated base low (first :: rest)) (reached : seqGE s.rcvNxt first.beginSeq = true)
    (advanced : first.endSeq ≠ s.rcvNxt) :
    ∃ s', s.processText seg = .ok s' ∧ s'.Waiting ∧ s'.irs = s.irs ∧ s'.rcvNxt = first.endSeq ∧
      s'.receiveQueue.regionList = rest ∧
      s'.total = s.total + ahead first.beginSeq first.endSeq := by
  have extracted := extractAll_first sorted rest.length
  refine ⟨{ s with
    rcvNxt := first.endSeq
    receiveQueue := ⟨first.endSeq, rest⟩
    delivered := s.delivered ++ [first.endSeq - first.beginSeq] }, ?_, ⟨rfl, sorted.2.2.2.moved⟩,
      rfl,
    rfl, rfl, by simp [total, ahead]⟩
  simp [processText, TCPVirtualDataRcvQueue.insertBytesFromSegment, merged, waiting.agree, reached,
    advanced, extracted]

theorem processText_waits (waiting : s.Waiting)
    (merged : merge ⟨seg.sequenceNo, seg.sequenceNo + seg.payloadLength⟩
      s.receiveQueue.regionList = first :: rest) (above : seqGE s.rcvNxt first.beginSeq = false) :
    s.processText seg = .ok { s with receiveQueue := ⟨s.rcvNxt, first :: rest⟩ } := by
  simp [processText, TCPVirtualDataRcvQueue.insertBytesFromSegment, merged, waiting.agree, above]

/-- One segment: nothing fails, and the application gets what `rcv_nxt` moves over, and again what
of the segment lies below it. -/
theorem processText_spec (waiting : s.Waiting) (inHalf : s.InHalf seg)
    (takes : s.takes seg = true) : ∃ s', s.processText seg = .ok s' ∧ s'.Waiting ∧ s'.irs = s.irs ∧
      s'.total = s.total + ahead s.rcvNxt s'.rcvNxt + s.overlap seg := by
  obtain ⟨base, near, nearSeg, inHalf⟩ := inHalf
  simp only [Receiver.takes, Bool.and_eq_true, bne_iff_ne] at takes
  obtain ⟨⟨acceptable, text⟩, -⟩ := takes
  obtain ⟨filled, nearEnd, -⟩ := segment_region text nearSeg
  have sorted := waiting.above.rebase near inHalf
  have beyond := acceptable_reaches acceptable text near nearSeg
  have order := @seqLE_iff base s.rcvNxt seg.sequenceNo near (by omega)
  obtain ⟨first, rest, merged, ⟨above, fresh, sorted'⟩ | ⟨reached, advanced, sorted',
      start, past⟩⟩ :=
    merge_cases ⟨seg.sequenceNo, seg.sequenceNo + seg.payloadLength⟩ filled nearEnd near
      sorted beyond
  · refine ⟨_, processText_waits waiting merged above, ⟨rfl, sorted'.moved⟩, rfl, ?_⟩
    simp [total, overlap, order.mpr fresh]
  · obtain ⟨s', done, waiting', irs, rcvNxt, -, total⟩ :=
      processText_advances waiting merged sorted' reached advanced
    refine ⟨s', done, waiting', irs, ?_⟩
    have moved := ahead_of_le past.le
    have handed := ahead_of_le sorted'.2.1.le
    rw [total, rcvNxt, overlap]
    simp only at start
    split
    · rename_i fresh
      have fresh' := order.mp fresh
      omega
    · rename_i below
      rw [order] at below
      have again := @ahead_of_le base seg.sequenceNo s.rcvNxt (by omega)
      omega

def Arrives (s : Receiver) (seg : DataSegment) (s' : Receiver) : Prop :=
  s.InHalf seg ∧ s.receive seg = .ok s'

theorem receive_spec (waiting : s.Waiting) (inHalf : s.InHalf seg) :
    ∃ s', s.receive seg = .ok s' ∧ s'.Waiting ∧ s'.irs = s.irs ∧
      s'.total = s.total + ahead s.rcvNxt s'.rcvNxt + if s.takes seg then s.overlap seg else 0 := by
  unfold receive
  split
  · exact processText_spec waiting inHalf ‹_›
  · exact ⟨s, rfl, waiting, rfl, by simp⟩

theorem overlap_lt : s.overlap seg < 2 ^ 32 := by
  unfold overlap
  split
  · exact Nat.two_pow_pos 32
  · exact ahead_lt

theorem overlap_eq_zero_iff : s.overlap seg = 0 ↔ seqLE s.rcvNxt seg.sequenceNo = true := by
  unfold overlap
  split
  · simp_all
  · rename_i below
    refine iff_of_false (fun same => below ?_) below
    rw [ahead_eq_zero_iff.mp same, seqLE_eq, ahead_self]
    rfl

theorem exact_step_iff {s' : Receiver} (waiting : s.Waiting) (exactly : s.Exact)
    (arrives : Arrives s seg s') : s'.Exact ↔ s.StartsFresh seg := by
  obtain ⟨_, received, -, irs, total⟩ := receive_spec waiting arrives.1
  cases received.symm.trans arrives.2
  have turn := ahead_rebase (s.irs + 1) s.rcvNxt s'.rcvNxt
  have below := @ahead_lt (s.irs + 1) s.rcvNxt
  have below' := @ahead_lt (s.irs + 1) s'.rcvNxt
  have few := @overlap_lt s seg
  unfold Exact StartsFresh at *
  rw [irs, total, ← overlap_eq_zero_iff]
  split <;> simp_all <;> omega

/-- Every octet is handed over exactly once for as long as no segment is taken that begins below
`rcv_nxt`. -/
theorem delivered_exact_iff (irs maxRcvBuffer : UInt32) (segments : List DataSegment) :
    Trace.Always Arrives (fun s => ∀ seg, s.InHalf seg → ∃ s', s.receive seg = .ok s')
      (init irs maxRcvBuffer) segments ∧
      (Trace.Always Arrives Exact (init irs maxRcvBuffer) segments ↔
      Trace.Each Arrives StartsFresh (init irs maxRcvBuffer) segments) := by
  have keeps : ∀ s seg s', Waiting s → Arrives s seg s' → Waiting s' := by
    intro s seg s' waiting arrives
    obtain ⟨_, received, waiting', -⟩ := receive_spec waiting arrives.1
    cases received.symm.trans arrives.2
    exact waiting'
  have start : (init irs maxRcvBuffer).Waiting := ⟨rfl, trivial⟩
  constructor
  · refine Trace.always_of_invariant keeps (fun s waiting seg inHalf => ?_) start segments
    obtain ⟨s', received, -⟩ := receive_spec waiting inHalf
    exact ⟨s', received⟩
  · exact Trace.always_iff_each keeps (fun s seg s' waiting exactly =>
      exact_step_iff waiting exactly) start (by simp [Exact, init, total]) segments

/-- A hundred octets arrive, and the sender repeats them together with fifty more. -/
theorem repeatedAndMore_delivered_twice : ∃ s₁ s₂, Arrives (init 0 7504) ⟨1, 100, 7504⟩ s₁ ∧
    Arrives s₁ ⟨1, 150, 7504⟩ s₂ ∧ s₂.rcvNxt = 151 ∧ s₂.total = 250 ∧ ¬ s₂.Exact := by
  refine ⟨⟨0, 101, 7504, ⟨101, []⟩, [100]⟩, ⟨0, 151, 7504, ⟨151, []⟩, [100, 150]⟩, ⟨⟨0, ?_⟩, rfl⟩,
    ⟨⟨0, ?_⟩, rfl⟩, rfl, rfl, ?_⟩
  · decide
  · decide
  · decide

end Receiver

end Srwsn
