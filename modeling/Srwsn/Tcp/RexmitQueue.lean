import Srwsn.Lib.Trace
import Srwsn.Tcp.Sequence

/-! The queue of sent data that a sender with selective acknowledgements keeps. -/
namespace Srwsn

open List

structure TCPSACKRexmitQueue.Region where
  beginSeqNum : UInt32
  endSeqNum : UInt32
  sacked : Bool
  rexmitted : Bool
  deriving DecidableEq, Repr

structure TCPSACKRexmitQueue where
  rexmitQueue : List TCPSACKRexmitQueue.Region
  beginSeq : UInt32
  endSeq : UInt32
  deriving DecidableEq, Repr

namespace TCPSACKRexmitQueue

def new : TCPSACKRexmitQueue := ⟨[], 0, 0⟩

variable (q : TCPSACKRexmitQueue)

/-- The comment in the source says that the contents are flushed; the list is not. -/
def init (seqNum : UInt32) : TCPSACKRexmitQueue :=
  { q with beginSeq := seqNum, endSeq := seqNum }

/- `pastEnd` is what `rexmitQueue.end()->endSeqNum` reads behind the last region. -/
def discardUpTo (seqNum pastEnd : UInt32) : Except TcpFault TCPSACKRexmitQueue :=
  if q.rexmitQueue.isEmpty then .ok q
  else if seqLE q.beginSeq seqNum && seqLE seqNum q.endSeq then
    match q.rexmitQueue.filter fun i => !seqLess i.beginSeqNum seqNum with
    | [] => .ok ⟨[], 0, 0⟩
    | i :: rest => .ok ⟨i :: rest, i.beginSeqNum, pastEnd⟩
  else .error .assertion

def Region.spans (fromSeqNum toSeqNum : UInt32) (i : Region) : Bool :=
  i.beginSeqNum == fromSeqNum && i.endSeqNum == toSeqNum

def enqueueSentData (fromSeqNum toSeqNum : UInt32) : TCPSACKRexmitQueue :=
  if q.rexmitQueue.isEmpty then ⟨[⟨fromSeqNum, toSeqNum, false, false⟩], fromSeqNum, toSeqNum⟩
  else if seqLE q.beginSeq fromSeqNum && seqLE toSeqNum q.endSeq &&
      q.rexmitQueue.any (Region.spans fromSeqNum toSeqNum) then
    { q with rexmitQueue := q.rexmitQueue.map fun i =>
        if i.spans fromSeqNum toSeqNum then { i with rexmitted := true } else i }
  else
    { q with
      rexmitQueue := q.rexmitQueue ++ [⟨fromSeqNum, toSeqNum, false, false⟩]
      endSeq := toSeqNum }

def setSackedBit (fromSeqNum toSeqNum : UInt32) : TCPSACKRexmitQueue :=
  if seqLE q.beginSeq fromSeqNum && seqLE toSeqNum q.endSeq then
    { q with rexmitQueue := q.rexmitQueue.map fun i =>
        if i.spans fromSeqNum toSeqNum then { i with sacked := true } else i }
  else q

def resetSackedBit : TCPSACKRexmitQueue :=
  { q with rexmitQueue := q.rexmitQueue.map fun i => { i with sacked := false } }

def resetRexmittedBit : TCPSACKRexmitQueue :=
  { q with rexmitQueue := q.rexmitQueue.map fun i => { i with rexmitted := false } }

def getHighestRexmittedSeqNum : UInt32 :=
  q.rexmitQueue.foldl (fun highest i => if i.rexmitted then i.endSeqNum else highest) 0

def getTotalAmountOfSackedBytes : UInt32 :=
  q.rexmitQueue.foldl (fun bytes i => if i.sacked then bytes + (i.endSeqNum - i.beginSeqNum)
    else bytes) 0

/-- The source reads behind the last region to see if it is adjacent, and leaves the loop there in
any case. -/
def countAdjacent : List Region → UInt32
  | [] => 0
  | i :: rest =>
    if i.sacked || i.rexmitted then
      (i.endSeqNum - i.beginSeqNum) +
        match rest with
        | [] => 0
        | next :: later =>
          if next.beginSeqNum != i.endSeqNum then 0 else countAdjacent (next :: later)
    else 0

def checkRexmitQueueForSackedOrRexmittedSegments (fromSeqNum : UInt32) : UInt32 :=
  if fromSeqNum == 0 || q.rexmitQueue.isEmpty ||
      !(seqLE q.beginSeq fromSeqNum && seqLE fromSeqNum q.endSeq) then 0
  else countAdjacent (q.rexmitQueue.dropWhile fun i => i.beginSeqNum != fromSeqNum)

end TCPSACKRexmitQueue

structure SentData where
  queue : TCPSACKRexmitQueue
  sndUna : UInt32
  sndMax : UInt32
  deriving DecidableEq, Repr

namespace SentData

inductive Event where
  | newData (bytes : UInt32)
  | retransmission (fromSeqNum toSeqNum : UInt32)
  | sacked (fromSeqNum toSeqNum : UInt32)
  | resetSacked
  | resetRexmitted
  | acked (seqNum pastEnd : UInt32)
  deriving DecidableEq, Repr

def init (seqNum : UInt32) : SentData := ⟨TCPSACKRexmitQueue.new.init seqNum, seqNum, seqNum⟩

def step (s : SentData) : Event → Except TcpFault SentData
  | .newData bytes => .ok
      ⟨s.queue.enqueueSentData s.sndMax (s.sndMax + bytes), s.sndUna, s.sndMax + bytes⟩
  | .retransmission fromSeqNum toSeqNum => .ok
      { s with queue := s.queue.enqueueSentData fromSeqNum toSeqNum }
  | .sacked fromSeqNum toSeqNum => .ok { s with queue := s.queue.setSackedBit fromSeqNum toSeqNum }
  | .resetSacked => .ok { s with queue := s.queue.resetSackedBit }
  | .resetRexmitted => .ok { s with queue := s.queue.resetRexmittedBit }
  | .acked seqNum pastEnd => do
    let queue ← s.queue.discardUpTo seqNum pastEnd
    return { s with queue := queue, sndUna := seqNum }

open Serial

/-- New data is beyond `snd_max`, with less than half the sequence space outstanding, ranges are
below it, and acknowledgements from `snd_una` to `snd_max`. -/
def InRange (s : SentData) : Event → Prop
  | .newData bytes => 0 < bytes ∧ ahead s.sndUna s.sndMax + bytes.toNat < 2 ^ 31
  | .retransmission fromSeqNum toSeqNum =>
    ahead s.sndUna fromSeqNum ≤ ahead s.sndUna toSeqNum ∧ ahead s.sndUna toSeqNum ≤
      ahead s.sndUna s.sndMax
  | .acked seqNum _ => ahead s.sndUna seqNum ≤ ahead s.sndUna s.sndMax
  | .sacked _ _ | .resetSacked | .resetRexmitted => True

def Calls (s : SentData) (event : Event) (s' : SentData) : Prop :=
  s.InRange event ∧ s.step event = .ok s'

/-- The regions are in order and follow each other from `begin` to `end`; every octet that is sent
and not acknowledged is in one. -/
structure Intact (s : SentData) : Prop where
  filled : ∀ r ∈ s.queue.rexmitQueue, seqLess r.beginSeqNum r.endSeqNum = true
  sorted : s.queue.rexmitQueue.Pairwise fun r r' => seqLE r.endSeqNum r'.beginSeqNum = true
  contiguous : s.queue.rexmitQueue.IsChain fun r r' => r.endSeqNum = r'.beginSeqNum
  first : ∀ r ∈ s.queue.rexmitQueue.head?, r.beginSeqNum = s.queue.beginSeq
  last : ∀ r ∈ s.queue.rexmitQueue.getLast?, r.endSeqNum = s.queue.endSeq
  held : ∀ octet, ahead s.sndUna octet < ahead s.sndUna s.sndMax →
    ∃ r ∈ s.queue.rexmitQueue, seqLE r.beginSeqNum octet = true ∧ seqLess octet r.endSeqNum = true

/-- A retransmission has the boundaries of a stored region, and an acknowledgement is for a
boundary; the read behind the last region gives the end of the queue. -/
def Aligned (s : SentData) : Event → Prop
  | .retransmission fromSeqNum toSeqNum =>
    ∃ r ∈ s.queue.rexmitQueue, r.beginSeqNum = fromSeqNum ∧ r.endSeqNum = toSeqNum
  | .acked seqNum pastEnd =>
    seqNum = s.sndMax ∨ pastEnd = s.sndMax ∧ ∃ r ∈ s.queue.rexmitQueue, r.beginSeqNum = seqNum
  | .newData _ | .sacked _ _ | .resetSacked | .resetRexmitted => True

end SentData

namespace TCPSACKRexmitQueue

open Serial

def Laid (base : UInt32) : Nat → List Region → Nat → Prop
  | low, [], high => low = high
  | low, r :: rest, high =>
    ahead base r.beginSeqNum = low ∧ low < ahead base r.endSeqNum ∧
      Laid base (ahead base r.endSeqNum) rest high

section Laid

variable {base : UInt32} {low high : Nat} {l : List Region}

section Laid

variable (laid : Laid base low l high)

include laid

theorem Laid.le : low ≤ high := by
  induction l generalizing low with
  | nil => exact le_of_eq laid
  | cons i l ih => exact laid.2.1.le.trans (ih laid.2.2)

theorem Laid.mem {r : Region} (member : r ∈ l) :
    low ≤ ahead base r.beginSeqNum ∧ ahead base r.beginSeqNum < ahead base r.endSeqNum ∧
      ahead base r.endSeqNum ≤ high := by
  induction l generalizing low with
  | nil => cases member
  | cons i l ih =>
    obtain ⟨first, filled, rest⟩ := laid
    cases member with
    | head => exact ⟨first.ge, first.symm ▸ filled, rest.le⟩
    | tail _ member =>
      have later := ih rest member
      omega

theorem Laid.sorted (short : high < 2 ^ 31) :
    l.Pairwise fun r r' => seqLE r.endSeqNum r'.beginSeqNum = true := by
  induction l generalizing low with
  | nil => exact .nil
  | cons i l ih =>
    obtain ⟨first, filled, rest⟩ := laid
    refine pairwise_cons.mpr ⟨fun r member => ?_, ih rest⟩
    have later := rest.mem member
    exact (seqLE_iff (by omega) (by omega)).mpr later.1

theorem Laid.contiguous : l.IsChain fun r r' => r.endSeqNum = r'.beginSeqNum := by
  induction l generalizing low with
  | nil => exact .nil
  | cons i l ih =>
    obtain ⟨-, -, rest⟩ := laid
    cases l with
    | nil => exact .singleton i
    | cons r l => exact .cons_cons (ahead_inj.mp rest.1.symm) (ih rest)

theorem Laid.covers {octet : Nat} (above : low ≤ octet) (below : octet < high) :
    ∃ r ∈ l, ahead base r.beginSeqNum ≤ octet ∧ octet < ahead base r.endSeqNum := by
  induction l generalizing low with
  | nil =>
    cases laid
    omega
  | cons i l ih =>
    obtain ⟨first, -, rest⟩ := laid
    rcases Nat.lt_or_ge octet (ahead base i.endSeqNum) with here | later
    · exact ⟨i, mem_cons_self, by omega, here⟩
    · obtain ⟨r, member, inside⟩ := ih rest later
      exact ⟨r, mem_cons_of_mem i member, inside⟩

theorem Laid.last {r : Region} (last : r ∈ l.getLast?) : ahead base r.endSeqNum = high := by
  induction l generalizing low with
  | nil => cases last
  | cons i l ih =>
    obtain ⟨-, -, rest⟩ := laid
    cases l with
    | nil =>
      cases last
      exact rest
    | cons i' l =>
      rw [getLast?_cons_cons] at last
      exact ih rest last

theorem Laid.append {r : Region} (first : ahead base r.beginSeqNum = high)
    (filled : high < ahead base r.endSeqNum) :
    Laid base low (l ++ [r]) (ahead base r.endSeqNum) := by
  induction l generalizing low with
  | nil =>
    cases laid
    exact ⟨first, filled, rfl⟩
  | cons i l ih => exact ⟨laid.1, laid.2.1, ih laid.2.2⟩

theorem Laid.map {f : Region → Region} (same : ∀ r, (f r).beginSeqNum = r.beginSeqNum ∧
    (f r).endSeqNum = r.endSeqNum) : Laid base low (l.map f) high := by
  induction l generalizing low with
  | nil => exact laid
  | cons i l ih =>
    rw [map_cons, Laid, (same i).1, (same i).2]
    exact ⟨laid.1, laid.2.1, ih laid.2.2⟩

theorem Laid.drop {cut : Nat} (above : low ≤ cut)
    (boundary : cut = high ∨ ∃ r ∈ l, ahead base r.beginSeqNum = cut) :
    Laid base cut (l.filter fun r => decide (cut ≤ ahead base r.beginSeqNum)) high := by
  induction l generalizing low with
  | nil =>
    cases laid
    rcases boundary with same | ⟨r, member, -⟩
    · exact same
    · cases member
  | cons i l ih =>
    obtain ⟨first, filled, rest⟩ := laid
    rcases Nat.eq_or_lt_of_le above with here | later
    · -- the cut is here, and nothing is dropped from here on
      have all : ((i :: l).filter fun r => decide (cut ≤ ahead base r.beginSeqNum)) = i :: l := by
        refine filter_eq_self.mpr fun r member => decide_eq_true ?_
        have inside := Laid.mem (l := i :: l) ⟨first, filled, rest⟩ member
        omega
      rw [all, ← here]
      exact ⟨first, filled, rest⟩
    · have gone : ¬ cut ≤ ahead base i.beginSeqNum := by omega
      have dropped : ahead base i.endSeqNum ≤ cut ∧
          (cut = high ∨ ∃ r ∈ l, ahead base r.beginSeqNum = cut) := by
        rcases boundary with same | ⟨r, member, same⟩
        · have last := Laid.mem (l := i :: l) ⟨first, filled, rest⟩ mem_cons_self
          exact ⟨by omega, .inl same⟩
        · rcases mem_cons.mp member with rfl | member
          · omega
          · have next := (rest.mem member).1
            exact ⟨by omega, .inr ⟨r, member, same⟩⟩
      simp only [filter_cons, gone, decide_false, Bool.false_eq_true, if_false]
      exact ih rest dropped.1 dropped.2

end Laid

theorem Laid.moved {base' : UInt32}
    (laid : Laid base (ahead base base' + low) l (ahead base base' + high)) :
    Laid base' low l high := by
  induction l generalizing low with
  | nil => exact Nat.add_left_cancel laid
  | cons i l ih =>
    obtain ⟨first, filled, rest⟩ := laid
    have begins := @ahead_of_le base base' i.beginSeqNum (by omega)
    have ends := @ahead_of_le base base' i.endSeqNum (by omega)
    refine ⟨by omega, by omega, ih ?_⟩
    rwa [ends, Nat.add_sub_cancel' (by omega)]

end Laid

end TCPSACKRexmitQueue

namespace SentData

open Serial TCPSACKRexmitQueue

structure Kept (s : SentData) : Prop where
  short : ahead s.sndUna s.sndMax < 2 ^ 31
  laid : Laid s.sndUna 0 s.queue.rexmitQueue (ahead s.sndUna s.sndMax)
  ends : s.queue.rexmitQueue ≠ [] → s.queue.beginSeq = s.sndUna ∧ s.queue.endSeq = s.sndMax

variable {s : SentData}

theorem Kept.intact (kept : s.Kept) : s.Intact := by
  have short := kept.short
  constructor
  case filled =>
    intro r member
    have inside := kept.laid.mem member
    exact (seqLess_iff (by omega) (by omega)).mpr inside.2.1
  case sorted => exact kept.laid.sorted short
  case contiguous => exact kept.laid.contiguous
  case first =>
    intro r first
    have some : s.queue.rexmitQueue ≠ [] := ne_nil_of_mem (mem_of_mem_head? first)
    have laid := kept.laid
    obtain ⟨rest, list⟩ := head?_eq_some_iff.mp first
    rw [list] at laid
    rw [(kept.ends some).1]
    exact ahead_eq_zero_iff.mp laid.1
  case last =>
    intro r last
    have some : s.queue.rexmitQueue ≠ [] := ne_nil_of_mem (mem_of_mem_getLast? last)
    rw [(kept.ends some).2]
    exact ahead_inj.mp (kept.laid.last last)
  case held =>
    intro octet below
    obtain ⟨r, member, from_, upto⟩ := kept.laid.covers (Nat.zero_le _) below
    have inside := kept.laid.mem member
    exact ⟨r, member, (seqLE_iff (by omega) (by omega)).mpr from_,
      (seqLess_iff (by omega) (by omega)).mpr upto⟩

theorem init_kept (seqNum : UInt32) : (init seqNum).Kept := by
  constructor <;> simp [init, TCPSACKRexmitQueue.new, TCPSACKRexmitQueue.init, Laid]

section Steps

variable {s : SentData} (kept : s.Kept)

include kept

theorem enqueue_new_kept {bytes : UInt32} (some : 0 < bytes)
    (short : ahead s.sndUna s.sndMax + bytes.toNat < 2 ^ 31) :
    Kept ⟨s.queue.enqueueSentData s.sndMax (s.sndMax + bytes), s.sndUna, s.sndMax + bytes⟩ := by
  have last := @ahead_add s.sndUna s.sndMax bytes (by omega)
  have some' : 0 < bytes.toNat := some
  have laid :=
    kept.laid.append (r := ⟨s.sndMax, s.sndMax + bytes, false, false⟩) rfl (by simp only; omega)
  unfold enqueueSentData
  split_ifs with empty found
  · rw [List.isEmpty_iff.mp empty] at laid
    have none := kept.laid
    rw [List.isEmpty_iff.mp empty, Laid] at none
    have same : s.sndMax = s.sndUna := ahead_eq_zero_iff.mp none.symm
    exact ⟨by simp only; omega, laid, fun _ => ⟨same, rfl⟩⟩
  · -- new data ends beyond the queue, so it is not looked up
    have ends := kept.ends (by simpa using empty)
    simp only [Bool.and_eq_true] at found
    have beyond := (@seqLE_iff s.sndUna _ _ (by omega) (by rw [ends.2]; omega)).mp found.1.2
    rw [ends.2] at beyond
    omega
  · have ends := kept.ends (by simpa using empty)
    exact ⟨by simp only; omega, laid, fun _ => ⟨ends.1, rfl⟩⟩

theorem map_kept {f : TCPSACKRexmitQueue.Region → TCPSACKRexmitQueue.Region}
    (same : ∀ r, (f r).beginSeqNum = r.beginSeqNum ∧ (f r).endSeqNum = r.endSeqNum) :
    Kept { s with queue := { s.queue with rexmitQueue := s.queue.rexmitQueue.map f } } := by
  refine ⟨kept.short, kept.laid.map same, fun some => kept.ends ?_⟩
  simpa using some

variable {fromSeqNum toSeqNum : UInt32}

theorem retransmission_kept (aligned : s.Aligned (.retransmission fromSeqNum toSeqNum)) :
    Kept { s with queue := s.queue.enqueueSentData fromSeqNum toSeqNum } := by
  have short := kept.short
  obtain ⟨r, member, rfl, rfl⟩ := aligned
  have some := ne_nil_of_mem member
  have inside := kept.laid.mem member
  have ends := kept.ends some
  have found : (seqLE s.queue.beginSeq r.beginSeqNum && seqLE r.endSeqNum s.queue.endSeq &&
      s.queue.rexmitQueue.any (Region.spans r.beginSeqNum r.endSeqNum)) = true := by
    simp only [Bool.and_eq_true, List.any_eq_true]
    refine ⟨⟨?_, ?_⟩, r, member, by simp [Region.spans]⟩
    · rw [ends.1]
      exact (@seqLE_iff s.sndUna _ _ (by simp) (by omega)).mpr (by simp)
    · rw [ends.2]
      exact (seqLE_iff (by omega) short).mpr inside.2.2
  rw [enqueueSentData, if_neg (by simpa using some), if_pos found]
  refine map_kept kept fun i => ?_
  split_ifs
  · exact ⟨rfl, rfl⟩
  · exact ⟨rfl, rfl⟩

theorem retransmission_aligned (inRange : s.InRange (.retransmission fromSeqNum toSeqNum))
    (intact : Intact { s with queue := s.queue.enqueueSentData fromSeqNum toSeqNum }) :
    s.Aligned (.retransmission fromSeqNum toSeqNum) := by
  have short := kept.short
  obtain ⟨order, below⟩ := inRange
  -- otherwise the range was added at the back
  by_contra other
  have unknown : s.queue.rexmitQueue.any (Region.spans fromSeqNum toSeqNum) = false := by
    rw [List.any_eq_false]
    intro r member spans
    simp only [Region.spans, Bool.and_eq_true, beq_iff_eq] at spans
    exact other ⟨r, member, spans⟩
  have added : (s.queue.enqueueSentData fromSeqNum toSeqNum).rexmitQueue =
      s.queue.rexmitQueue ++ [⟨fromSeqNum, toSeqNum, false, false⟩] := by
    rw [enqueueSentData, unknown, Bool.and_false, if_neg Bool.false_ne_true]
    split_ifs with empty
    · rw [List.isEmpty_iff.mp empty]
      rfl
    · rfl
  have filled : seqLess fromSeqNum toSeqNum = true :=
    intact.filled ⟨fromSeqNum, toSeqNum, false, false⟩ (by simp [added])
  rw [seqLess_iff (show ahead s.sndUna fromSeqNum < 2 ^ 31 by omega) (by omega)] at filled
  obtain ⟨r, member, -, upto⟩ := kept.laid.covers (Nat.zero_le _)
    (show ahead s.sndUna s.sndMax - 1 < ahead s.sndUna s.sndMax by omega)
  have inside := kept.laid.mem member
  have sorted := intact.sorted
  simp only [added] at sorted
  have before := (pairwise_append.mp sorted).2.2 r member _ (mem_singleton_self _)
  rw [seqLE_iff (show ahead s.sndUna r.endSeqNum < 2 ^ 31 by omega)
    (show ahead s.sndUna fromSeqNum < 2 ^ 31 by omega)] at before
  omega

variable {seqNum : UInt32}

theorem discardUpTo_spec (pastEnd : UInt32)
    (inRange : ahead s.sndUna seqNum ≤ ahead s.sndUna s.sndMax) :
    ∃ queue, s.queue.discardUpTo seqNum pastEnd = .ok queue ∧
    queue.rexmitQueue = (s.queue.rexmitQueue.filter fun r =>
        decide (ahead s.sndUna seqNum ≤ ahead s.sndUna r.beginSeqNum)) ∧
      (∀ r ∈ queue.rexmitQueue.head?, queue.beginSeq = r.beginSeqNum) ∧
      (queue.rexmitQueue ≠ [] → queue.endSeq = pastEnd) := by
  have short := kept.short
  have read : (s.queue.rexmitQueue.filter fun r => !seqLess r.beginSeqNum seqNum) =
    s.queue.rexmitQueue.filter fun r =>
        decide (ahead s.sndUna seqNum ≤ ahead s.sndUna r.beginSeqNum) := by
    refine filter_congr fun r member => ?_
    have inside := kept.laid.mem member
    have less := @seqLess_iff s.sndUna r.beginSeqNum seqNum (by omega) (by omega)
    rw [Bool.eq_iff_iff, Bool.not_eq_true', Bool.eq_false_iff, Ne, less, decide_eq_true_iff]
    exact Nat.not_lt
  by_cases empty : s.queue.rexmitQueue = []
  · exact ⟨s.queue, by simp [discardUpTo, empty], by simp [empty], by simp [empty], by simp [empty]⟩
  · obtain ⟨begins, ends⟩ := kept.ends empty
    have above : seqLE s.queue.beginSeq seqNum = true := by
      rw [begins]
      exact (@seqLE_iff s.sndUna _ _ (by simp) (by omega)).mpr (by simp)
    have below : seqLE seqNum s.queue.endSeq = true := by
      rw [ends]
      exact (seqLE_iff (by omega) short).mpr inRange
    rw [discardUpTo, if_neg (by simpa using empty), if_pos (by simp [above, below]), read]
    split
    · rename_i none
      exact ⟨_, rfl, none.symm, by simp, by simp⟩
    · rename_i left
      exact ⟨_, rfl, left.symm, by simp, by simp⟩

variable {pastEnd : UInt32} {queue : TCPSACKRexmitQueue}

theorem acked_kept (inRange : ahead s.sndUna seqNum ≤ ahead s.sndUna s.sndMax)
    (aligned : s.Aligned (.acked seqNum pastEnd))
    (discarded : s.queue.discardUpTo seqNum pastEnd = .ok queue) :
    Kept { s with queue := queue, sndUna := seqNum } := by
  have short := kept.short
  obtain ⟨_, discarded', left, first, last⟩ := discardUpTo_spec kept pastEnd inRange
  cases discarded'.symm.trans discarded
  have boundary : ahead s.sndUna seqNum = ahead s.sndUna s.sndMax ∨
      ∃ r ∈ s.queue.rexmitQueue, ahead s.sndUna r.beginSeqNum = ahead s.sndUna seqNum := by
    refine aligned.imp (fun same => by rw [same]) ?_
    rintro ⟨-, r, member, rfl⟩
    exact ⟨r, member, rfl⟩
  have laid := kept.laid.drop (Nat.zero_le _) boundary
  rw [← left] at laid
  have rest := ahead_of_le inRange
  have moved : Laid seqNum 0 queue.rexmitQueue (ahead seqNum s.sndMax) := by
    refine @Laid.moved s.sndUna _ _ _ _ ?_
    rwa [Nat.add_zero, rest, Nat.add_sub_cancel' inRange]
  refine ⟨by simp only; omega, moved, fun some => ?_⟩
  obtain ⟨r, list, same⟩ : ∃ r list, queue.rexmitQueue = r :: list := exists_cons_of_ne_nil some
  rw [same] at laid moved
  constructor
  · rw [first r (by simp [same])]
    exact ahead_eq_zero_iff.mp moved.1
  · rw [last some]
    rcases aligned with rfl | ⟨pastEnd, -⟩
    · have inside := laid.mem mem_cons_self
      omega
    · exact pastEnd

theorem acked_aligned (inRange : ahead s.sndUna seqNum ≤ ahead s.sndUna s.sndMax)
    (discarded : s.queue.discardUpTo seqNum pastEnd = .ok queue)
    (intact : Intact { s with queue := queue, sndUna := seqNum }) :
    s.Aligned (.acked seqNum pastEnd) := by
  have short := kept.short
  obtain ⟨_, discarded', left, first, last⟩ := discardUpTo_spec kept pastEnd inRange
  cases discarded'.symm.trans discarded
  refine or_iff_not_imp_left.mpr fun different => ?_
  have rest : 0 < ahead seqNum s.sndMax :=
    Nat.pos_of_ne_zero fun none => different (ahead_eq_zero_iff.mp none).symm
  -- the octet at the acknowledgement is still held, so a region begins there
  obtain ⟨r, member, begins, -⟩ := intact.held seqNum (by simpa using rest)
  simp only [left] at member
  obtain ⟨stored, above⟩ := mem_filter.mp member
  have inside := kept.laid.mem stored
  rw [seqLE_iff (show ahead s.sndUna r.beginSeqNum < 2 ^ 31 by omega) (by omega)] at begins
  have same := le_antisymm begins (of_decide_eq_true above)
  have laid := kept.laid.drop (Nat.zero_le _) (.inr ⟨r, stored, same⟩)
  rw [← left] at laid member
  have some := ne_nil_of_mem member
  obtain ⟨r', final⟩ := Option.isSome_iff_exists.mp (getLast?_isSome.mpr some)
  refine ⟨?_, r, stored, ahead_inj.mp same⟩
  rw [← last some, ← intact.last r' final]
  exact ahead_inj.mp (laid.last final)

end Steps

variable {s' : SentData} {event : Event}

theorem calls_kept (kept : s.Kept) (aligned : s.Aligned event) (calls : Calls s event s') :
    s'.Kept := by
  obtain ⟨inRange, stepped⟩ := calls
  cases event with
  | newData bytes =>
    cases stepped
    exact enqueue_new_kept kept inRange.1 inRange.2
  | retransmission fromSeqNum toSeqNum =>
    cases stepped
    exact retransmission_kept kept aligned
  | sacked fromSeqNum toSeqNum =>
    cases stepped
    unfold setSackedBit
    split_ifs
    · refine map_kept kept fun i => ?_
      split_ifs
      · exact ⟨rfl, rfl⟩
      · exact ⟨rfl, rfl⟩
    · exact kept
  | resetSacked =>
    cases stepped
    exact map_kept kept fun i => ⟨rfl, rfl⟩
  | resetRexmitted =>
    cases stepped
    exact map_kept kept fun i => ⟨rfl, rfl⟩
  | acked seqNum pastEnd =>
    obtain ⟨queue, discarded, -⟩ := discardUpTo_spec kept pastEnd inRange
    simp [step, discarded] at stepped
    cases stepped
    exact acked_kept kept inRange aligned discarded

theorem calls_aligned (kept : s.Kept) (calls : Calls s event s') (intact : s'.Intact) :
    s.Aligned event := by
  obtain ⟨inRange, stepped⟩ := calls
  cases event with
  | newData bytes => trivial
  | retransmission fromSeqNum toSeqNum =>
    cases stepped
    exact retransmission_aligned kept inRange intact
  | sacked fromSeqNum toSeqNum => trivial
  | resetSacked => trivial
  | resetRexmitted => trivial
  | acked seqNum pastEnd =>
    obtain ⟨queue, discarded, -⟩ := discardUpTo_spec kept pastEnd inRange
    simp [step, discarded] at stepped
    cases stepped
    exact acked_aligned kept inRange discarded intact

theorem step_ok (kept : s.Kept) (inRange : s.InRange event) : ∃ s', s.step event = .ok s' := by
  cases event with
  | newData bytes => exact ⟨_, rfl⟩
  | retransmission fromSeqNum toSeqNum => exact ⟨_, rfl⟩
  | sacked fromSeqNum toSeqNum => exact ⟨_, rfl⟩
  | resetSacked => exact ⟨_, rfl⟩
  | resetRexmitted => exact ⟨_, rfl⟩
  | acked seqNum pastEnd =>
    obtain ⟨queue, discarded, -⟩ := discardUpTo_spec kept pastEnd inRange
    refine ⟨{ s with queue := queue, sndUna := seqNum }, ?_⟩
    simp [step, discarded]

/-- The queue stays intact exactly as long as retransmissions repeat the stored regions and
acknowledgements fall on their boundaries. -/
theorem rexmitQueue_intact_iff (seqNum : UInt32) (events : List Event) :
    (Trace.Always Calls Intact (init seqNum) events ↔
      Trace.Each Calls Aligned (init seqNum) events) ∧
    (Trace.Each Calls Aligned (init seqNum) events →
      Trace.Always Calls (fun s => ∀ event, s.InRange event → ∃ s', s.step event = .ok s')
      (init seqNum) events) := by
  have keeps : ∀ s event s', Kept s → Aligned s event → Calls s event s' → Kept s' :=
    fun _ _ _ kept aligned calls => calls_kept kept aligned calls
  constructor
  · exact Trace.always_iff_each_kept keeps (fun s kept => kept.intact)
      (fun s event s' kept calls intact => calls_aligned kept calls intact)
      (init_kept seqNum) events
  · exact Trace.always_of_each keeps (fun s kept event inRange => step_ok kept inRange)
      (init_kept seqNum)

/-- Two segments of 100 octets are sent; a repetition joins them, and then an acknowledgement for
half of the first one takes all of it away. -/
theorem joinedAndHalfAcked_broken :
    (∃ s₁ s₂ s₃, Calls (init 1) (.newData 100) s₁ ∧ Calls s₁ (.newData 100) s₂ ∧
      Calls s₂ (.retransmission 1 201) s₃ ∧ ¬ s₃.Intact) ∧
    ∃ s₁ s₂ s₃, Calls (init 1) (.newData 100) s₁ ∧ Calls s₁ (.newData 100) s₂ ∧
      Calls s₂ (.acked 51 201) s₃ ∧ ¬ s₃.Intact := by
  refine ⟨⟨_, _, _, ⟨⟨by decide, by decide⟩, rfl⟩, ⟨⟨by decide, by decide⟩, rfl⟩,
    ⟨⟨by decide, by decide⟩, rfl⟩, fun intact => ?_⟩,
    _, _, _, ⟨⟨by decide, by decide⟩, rfl⟩, ⟨⟨by decide, by decide⟩, rfl⟩, ⟨?_, rfl⟩,
    fun intact => ?_⟩
  · exact absurd intact.contiguous (by decide)
  · exact Nat.le_of_ble_eq_true rfl
  · exact absurd (intact.held 51 (by decide)) (by decide)

end SentData

end Srwsn
