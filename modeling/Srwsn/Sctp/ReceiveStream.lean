import Srwsn.Lib.KeyMap
import Srwsn.Sctp.GapList

/-! The queues of an SCTP receive stream. -/
namespace Srwsn

structure SCTPSimpleMessage where
  dataLen : UInt32
  data : List UInt8
  byteLength : Nat
  deriving DecidableEq

/- `len` is in bits. `numbers` is history: the DATA chunks an entry is made of. -/
structure SCTPDataVariables where
  userData : SCTPSimpleMessage
  bbit : Bool
  ebit : Bool
  ordered : Bool
  len : UInt32
  tsn : UInt32
  sid : UInt16
  ssn : UInt16
  ppid : UInt32
  numbers : List Nat
  deriving DecidableEq

abbrev SCTPQueue := KeyMap UInt32 SCTPDataVariables

namespace SCTPQueue

variable (q : SCTPQueue)

def getVar (tsn : UInt32) : Option SCTPDataVariables := q.find? tsn

def checkAndInsertVar (key : UInt32) (datVar : SCTPDataVariables) : Bool × SCTPQueue :=
  if (q.getVar key).isSome then (false, q) else (true, q.insert key datVar)

def getQueueSize : Nat := q.entries.length

def extractMessage : Option (SCTPDataVariables × SCTPQueue) :=
  q.first?.map fun e => (e.2, q.erase e.1)

/-- The iterator is used without a test, and so is the null pointer an empty queue gives. -/
def getAndExtractMessage (tsn : UInt32) : Except SctpFault (SCTPDataVariables × SCTPQueue) :=
  match q.getVar tsn with
  | some datVar => .ok (datVar, q.erase tsn)
  | none => .error .nullPointer

def dequeueVarBySsn (ssn : UInt16) : Option (SCTPDataVariables × SCTPQueue) :=
  (q.entries.find? fun e => e.2.ssn == ssn && e.2.bbit && e.2.ebit).map fun e => (e.2, q.erase e.1)

variable {q} in
theorem checkAndInsertVar_new {key : UInt32} {datVar : SCTPDataVariables}
    (free : q.getVar key = none) :
    q.checkAndInsertVar key datVar = (true, q.insert key datVar) := by
  simp [checkAndInsertVar, free]

def getNumBytes : Int32 := q.entries.foldl (fun qb e => qb + (e.2.len / 8).toInt32) 0

end SCTPQueue

def SCTPDataVariables.Complete (datVar : SCTPDataVariables) (ssn : UInt16) : Prop :=
  datVar.ssn = ssn ∧ datVar.bbit = true ∧ datVar.ebit = true

variable {q : SCTPQueue} {ssn : UInt16}

theorem SCTPQueue.dequeueVarBySsn_eq_none : q.dequeueVarBySsn ssn = none ↔ ∀ e ∈ q.entries,
    ¬ e.2.Complete ssn := by
  rw [SCTPQueue.dequeueVarBySsn, Option.map_eq_none_iff, List.find?_eq_none]
  simp [SCTPDataVariables.Complete, and_assoc]

theorem SCTPQueue.dequeueVarBySsn_eq_some {r : SCTPDataVariables × SCTPQueue}
    (dequeued : q.dequeueVarBySsn ssn = some r) :
    ∃ tsn, (tsn, r.1) ∈ q.entries ∧ r.1.Complete ssn ∧ r.2 = q.erase tsn := by
  obtain ⟨e, found, rfl⟩ := Option.map_eq_some_iff.mp dequeued
  have complete := List.find?_some found
  simp only [Bool.and_eq_true, beq_iff_eq] at complete
  exact ⟨e.1, List.mem_of_find?_eq_some found, ⟨complete.1.1, complete.1.2, complete.2⟩, rfl⟩

theorem SCTPQueue.dequeueVarBySsn_eq {e : UInt32 × SCTPDataVariables}
    (member : e ∈ q.entries) (complete : e.2.Complete ssn)
    (only : ∀ e' ∈ q.entries, e'.2.Complete ssn → e' = e) :
    q.dequeueVarBySsn ssn = some (e.2, q.erase e.1) := by
  cases dequeued : q.dequeueVarBySsn ssn with
  | none => exact absurd complete (dequeueVarBySsn_eq_none.mp dequeued e member)
  | some r =>
    obtain ⟨tsn, member', complete', rest⟩ := dequeueVarBySsn_eq_some dequeued
    obtain rfl := only _ member' complete'
    exact congrArg some (Prod.ext rfl rest)

/-- The body of the merging loop in `reassemble`. `setData` and `getData` check the index. -/
def SCTPDataVariables.append (firstVar processVar : SCTPDataVariables) :
    Except SctpFault SCTPDataVariables :=
  let first := firstVar.userData
  let process := processVar.userData
  let old := first.data ++ List.replicate process.data.length 0
  let offset := (firstVar.len / 8).toNat
  let count := (processVar.len / 8).toNat
  if 0 < count ∧ (process.data.length < count ∨ old.length < offset + count) then .error .oppError
  else .ok { firstVar with
    userData :=
      { dataLen := first.dataLen + process.dataLen
        data := old.take offset ++ process.data.take count ++ old.drop (offset + count)
        byteLength := first.byteLength + process.byteLength }
    len := firstVar.len + processVar.len
    numbers := firstVar.numbers ++ processVar.numbers }

theorem SCTPDataVariables.append_eq_ok {v v' v'' : SCTPDataVariables}
    (appended : v.append v' = .ok v'') :
    v''.len = v.len + v'.len ∧ v''.tsn = v.tsn ∧ v''.sid = v.sid ∧
    v''.numbers = v.numbers ++ v'.numbers := by
  unfold append at appended
  dsimp only at appended
  split at appended
  · cases appended
  · rw [← Except.ok.inj appended]
    exact ⟨rfl, rfl, rfl, rfl⟩

structure SCTPReceiveStream where
  expectedStreamSeqNum : Nat := 0
  deliveryQ : SCTPQueue := {}
  orderedQ : SCTPQueue := {}
  unorderedQ : SCTPQueue := {}

namespace SCTPReceiveStream

/-- It ends unless every TSN is in the queue. -/
def firstFragment (q : SCTPQueue) : Nat → UInt32 → Except SctpFault UInt32
  | 0, _ => .error .outOfFuel
  | fuel + 1, begintsn =>
    match q.getVar begintsn with
    | some datVar => if datVar.bbit then .ok begintsn else firstFragment q fuel (begintsn - 1)
    | none => .ok begintsn

def lastFragment (q : SCTPQueue) : Nat → UInt32 → Except SctpFault UInt32
  | 0, _ => .error .outOfFuel
  | fuel + 1, endtsn =>
    match q.getVar endtsn with
    | some datVar => if datVar.ebit then .ok endtsn else lastFragment q fuel (endtsn + 1)
    | none => .ok endtsn

def mergeFragments (endtsn : UInt32) :
    Nat → UInt32 → SCTPDataVariables → SCTPQueue → Except SctpFault (SCTPDataVariables × SCTPQueue)
  | 0, _, _, _ => .error .outOfFuel
  | fuel + 1, begintsn, firstVar, q =>
    if begintsn + 1 ≤ endtsn then do
      let extracted ← q.getAndExtractMessage (begintsn + 1)
      let firstVar ← firstVar.append extracted.1
      mergeFragments endtsn fuel (begintsn + 1) firstVar extracted.2
    else .ok (firstVar, q)

/-- The TSN it returns, and `orderedQ`: the queue it is called for is not used. -/
def reassemble (orderedQ : SCTPQueue) (tsn : UInt32) : Except SctpFault (UInt32 × SCTPQueue) := do
  let fuel := orderedQ.getQueueSize + 1
  let begintsn ← firstFragment orderedQ fuel tsn
  match orderedQ.getVar begintsn with
  | none => .ok (tsn, orderedQ)
  | some firstVar =>
    let endtsn ← lastFragment orderedQ fuel begintsn
    match orderedQ.getVar endtsn with
    | none => .ok (tsn, orderedQ)
    | some _ =>
      let merged ← mergeFragments endtsn fuel begintsn firstVar (orderedQ.erase begintsn)
      .ok (merged.1.tsn, merged.2.insert begintsn { merged.1 with ebit := true })

section Branches

variable {q : SCTPQueue} {tsn begintsn endtsn : UInt32} {firstVar lastVar : SCTPDataVariables}
  (first : firstFragment q (q.getQueueSize + 1) tsn = .ok begintsn)

include first

theorem reassemble_of_first_missing (missing : q.getVar begintsn = none) :
    reassemble q tsn = .ok (tsn, q) := by
  simp only [reassemble, first, missing, bind, Except.bind]

variable (found : q.getVar begintsn = some firstVar)
  (last : lastFragment q (q.getQueueSize + 1) begintsn = .ok endtsn)

include found last

theorem reassemble_of_last_missing (missing : q.getVar endtsn = none) :
    reassemble q tsn = .ok (tsn, q) := by
  simp only [reassemble, first, found, last, missing, bind, Except.bind]

theorem reassemble_of_found (complete : q.getVar endtsn = some lastVar) :
    reassemble q tsn = (mergeFragments endtsn (q.getQueueSize + 1) begintsn firstVar
      (q.erase begintsn)).map
      fun merged => (merged.1.tsn, merged.2.insert begintsn { merged.1 with ebit := true }) := by
  simp only [reassemble, first, found, last, complete, bind, Except.bind]
  rfl

end Branches

def advanceSsn (expectedStreamSeqNum : Nat) : Nat :=
  if expectedStreamSeqNum + 1 > 65535 then 0 else expectedStreamSeqNum + 1

/- 0: not stored, 1: in `orderedQ`, 2: something went to `deliveryQ`, 3: a fragment. The test for a
complete unordered message asks for the B bit twice. -/
def enqueueUnordered (dchunk : SCTPDataVariables) (rStream : SCTPReceiveStream) :
    Except SctpFault (Nat × SCTPReceiveStream) := do
  if dchunk.bbit && dchunk.ebit then
    let r := rStream.deliveryQ.checkAndInsertVar dchunk.tsn dchunk
    .ok (if r.1 then 2 else 0, { rStream with deliveryQ := r.2 })
  else
    let unorderedQ := (rStream.unorderedQ.checkAndInsertVar dchunk.tsn dchunk).2
    let reassembled ← reassemble rStream.orderedQ dchunk.tsn
    match unorderedQ.getVar reassembled.1 with
    | none => .error .nullPointer
    | some datVar =>
      if datVar.bbit && datVar.bbit then
        let r := rStream.deliveryQ.checkAndInsertVar reassembled.1 datVar
        .ok (if r.1 then 2 else 3, { rStream with
          deliveryQ := r.2, orderedQ := reassembled.2, unorderedQ :=
            unorderedQ.erase reassembled.1 })
      else .ok (3, { rStream with orderedQ := reassembled.2, unorderedQ := unorderedQ })

def deliverExpected (delivery : Nat) (rStream : SCTPReceiveStream) : Nat × SCTPReceiveStream :=
  match rStream.orderedQ.dequeueVarBySsn (UInt16.ofNat rStream.expectedStreamSeqNum) with
  | none => (delivery, rStream)
  | some dequeued =>
    let r := rStream.deliveryQ.checkAndInsertVar dequeued.1.tsn dequeued.1
    if r.1 then
      (2, { rStream with
        deliveryQ := r.2, orderedQ := dequeued.2,
        expectedStreamSeqNum := advanceSsn rStream.expectedStreamSeqNum })
    else (delivery, { rStream with orderedQ := dequeued.2 })

variable {delivery : Nat} {rStream : SCTPReceiveStream}

theorem deliverExpected_of_none
    (none : ∀ e ∈ rStream.orderedQ.entries,
      ¬ e.2.Complete (UInt16.ofNat rStream.expectedStreamSeqNum)) :
    deliverExpected delivery rStream = (delivery, rStream) := by
  rw [deliverExpected, SCTPQueue.dequeueVarBySsn_eq_none.mpr none]

theorem deliverExpected_of_some {r : SCTPDataVariables × SCTPQueue}
    (dequeued : rStream.orderedQ.dequeueVarBySsn (UInt16.ofNat rStream.expectedStreamSeqNum) =
      some r)
    (free : rStream.deliveryQ.getVar r.1.tsn = none) :
    deliverExpected delivery rStream = (2, { rStream with
      deliveryQ := rStream.deliveryQ.insert r.1.tsn r.1
      orderedQ := r.2
      expectedStreamSeqNum := advanceSsn rStream.expectedStreamSeqNum }) := by
  simp only [deliverExpected, dequeued, SCTPQueue.checkAndInsertVar_new free, if_true]

def enqueueOrdered (dchunk : SCTPDataVariables) (rStream : SCTPReceiveStream) :
    Except SctpFault (Nat × SCTPReceiveStream) := do
  let r := rStream.orderedQ.checkAndInsertVar dchunk.tsn dchunk
  if dchunk.bbit && dchunk.ebit then
    .ok (deliverExpected (if r.1 then 1 else 0) { rStream with orderedQ := r.2 })
  else
    let reassembled ← reassemble r.2 dchunk.tsn
    .ok (deliverExpected 3 { rStream with orderedQ := reassembled.2 })

def enqueueNewDataChunk (dchunk : SCTPDataVariables) (rStream : SCTPReceiveStream) :
    Except SctpFault (Nat × SCTPReceiveStream) :=
  if dchunk.ordered then enqueueOrdered dchunk rStream else enqueueUnordered dchunk rStream

section Kinds

variable {dchunk : SCTPDataVariables} {rStream : SCTPReceiveStream}

theorem enqueue_ordered_whole (ordered : dchunk.ordered = true)
    (whole : (dchunk.bbit && dchunk.ebit) = true) : rStream.enqueueNewDataChunk dchunk =
      .ok (deliverExpected (if (rStream.orderedQ.checkAndInsertVar dchunk.tsn dchunk).1 then 1
        else 0)
        { rStream with orderedQ := (rStream.orderedQ.checkAndInsertVar dchunk.tsn dchunk).2 }) := by
  rw [enqueueNewDataChunk, if_pos ordered, enqueueOrdered]
  exact if_pos whole

theorem enqueue_ordered_fragment (ordered : dchunk.ordered = true)
    (fragment : ¬ (dchunk.bbit && dchunk.ebit) = true) : rStream.enqueueNewDataChunk dchunk =
      (reassemble (rStream.orderedQ.checkAndInsertVar dchunk.tsn dchunk).2 dchunk.tsn).map fun r =>
        deliverExpected 3 { rStream with orderedQ := r.2 } := by
  rw [enqueueNewDataChunk, if_pos ordered, enqueueOrdered]
  refine (if_neg fragment).trans ?_
  cases reassemble (rStream.orderedQ.checkAndInsertVar dchunk.tsn dchunk).2 dchunk.tsn <;> rfl

theorem enqueue_unordered_whole (unordered : dchunk.ordered = false)
    (whole : (dchunk.bbit && dchunk.ebit) = true) : rStream.enqueueNewDataChunk dchunk =
      .ok (if (rStream.deliveryQ.checkAndInsertVar dchunk.tsn dchunk).1 then 2 else 0,
        { rStream with
          deliveryQ := (rStream.deliveryQ.checkAndInsertVar dchunk.tsn dchunk).2 }) := by
  rw [enqueueNewDataChunk, if_neg (by simp [unordered]), enqueueUnordered]
  exact if_pos whole

theorem enqueue_unordered_fragment (unordered : dchunk.ordered = false)
    (fragment : ¬ (dchunk.bbit && dchunk.ebit) = true)
    (absent : rStream.orderedQ.getVar dchunk.tsn = none)
    (new : rStream.unorderedQ.getVar dchunk.tsn = none) :
    rStream.enqueueNewDataChunk dchunk = .ok (if dchunk.bbit then
        (if (rStream.deliveryQ.checkAndInsertVar dchunk.tsn dchunk).1 then 2 else 3, { rStream with
            deliveryQ := (rStream.deliveryQ.checkAndInsertVar dchunk.tsn dchunk).2
            unorderedQ := (rStream.unorderedQ.insert dchunk.tsn dchunk).erase dchunk.tsn })
      else (3, { rStream with unorderedQ := rStream.unorderedQ.insert dchunk.tsn dchunk })) := by
  have first : firstFragment rStream.orderedQ (rStream.orderedQ.getQueueSize + 1) dchunk.tsn =
      .ok dchunk.tsn := by
    simp only [firstFragment, absent]
  have found : SCTPQueue.getVar (rStream.unorderedQ.insert dchunk.tsn dchunk) dchunk.tsn =
      some dchunk := by
    simp [SCTPQueue.getVar]
  rw [enqueueNewDataChunk, if_neg (by simp [unordered]), enqueueUnordered]
  refine (if_neg fragment).trans ?_
  simp only [SCTPQueue.checkAndInsertVar_new new, reassemble_of_first_missing first absent, bind,
    Except.bind, found, Bool.and_self]
  split <;> rfl

end Kinds

end SCTPReceiveStream

end Srwsn
