import Srwsn.Sctp.ReceiveStream

/-! The receiving side of an SCTP association. -/
namespace Srwsn

open Serial Blocks Function

structure SCTPDataChunk where
  eBit : Bool
  bBit : Bool
  uBit : Bool
  tsn : UInt32
  sid : UInt16
  ssn : UInt16
  ppid : UInt32
  userData : SCTPSimpleMessage
  number : Nat := 0
  deriving DecidableEq

inductive SCTPEventCode where
  | send
  | ignore
  | dupReceived
  | delivered
  deriving DecidableEq, Repr

structure SCTPSackChunk where
  cumTsnAck : UInt32
  a_rwnd : UInt32
  gaps : List (UInt32 × UInt32)
  dupTsns : List UInt32
  deriving DecidableEq

/- `pmtu` is that of the path to `remoteAddr`, and `toApp` is what `pushUlp` has passed to the
application. -/
structure SCTPReceiver where
  state : SCTPRcvState := {}
  initPeerTsn : UInt32
  inboundStreams : Nat := 17
  receiveStreams : Nat → SCTPReceiveStream := fun _ => {}
  pmtu : UInt32 := 1500
  toApp : List SCTPDataVariables := []

def SCTPDataChunk.makeVarFromMsg (dataChunk : SCTPDataChunk) : SCTPDataVariables where
  userData := dataChunk.userData
  bbit := dataChunk.bBit
  ebit := dataChunk.eBit
  ordered := !dataChunk.uBit
  len := dataChunk.userData.dataLen * 8
  tsn := dataChunk.tsn
  sid := dataChunk.sid
  ssn := dataChunk.ssn
  ppid := dataChunk.ppid
  numbers := [dataChunk.number]

namespace SCTPRcvState

def removeFromGap (removedTsn : UInt32) (numgaps i : Nat) (s : SCTPRcvState) :
    Except SctpFault SCTPRcvState :=
  if tsnBetween (s.gapStartList i) removedTsn (s.gapStopList i) then
    if (s.gapStopList i - s.gapStartList i + 1).toInt32 > 1 then
      if s.gapStopList i = removedTsn then
        .ok { s with gapStopList := update s.gapStopList i (s.gapStopList i - 1) }
      else if s.gapStartList i = removedTsn then
        .ok { s with gapStartList := update s.gapStartList i (s.gapStartList i + 1) }
      else if numgaps < MAX_GAP_COUNT then
        .ok { s with
          gapStopList := update (shiftUp s.gapStopList i numgaps) i (removedTsn - 1)
          gapStartList := update (shiftUp s.gapStartList i numgaps) (i + 1) (removedTsn + 1)
          numGaps := s.numGaps + 1 }
      else .error .arrayIndex
    else if numgaps < MAX_GAP_COUNT then
      .ok { s with
        gapStopList := update (shiftDown s.gapStopList i (numgaps - i)) (numgaps - 1) 0
        gapStartList := update (shiftDown s.gapStartList i (numgaps - i)) (numgaps - 1) 0
        numGaps := s.numGaps - 1
        lastTsnAck :=
          if s.numGaps - 1 = 0 ∧ removedTsn = s.lastTsnAck + 1 then removedTsn else s.lastTsnAck }
    else .error .arrayIndex
  else .ok s

def removeFromGaps (removedTsn : UInt32) (numgaps : Nat) :
    Nat → SCTPRcvState → Except SctpFault SCTPRcvState
  | 0, s => .ok s
  | i + 1, s => removeFromGap removedTsn numgaps i s >>= removeFromGaps removedTsn numgaps i

def removeFromGapList (removedTsn : UInt32) (s : SCTPRcvState) : Except SctpFault SCTPRcvState :=
  (removeFromGaps removedTsn s.numGaps s.numGaps s).map setHighestTsnReceived

def createSack (pmtu : UInt32) (s : SCTPRcvState) : SCTPSackChunk × SCTPRcvState :=
  let free := s.localRwnd - s.queuedRcvBytes
  let small := free < s.swsLimit.toUInt64 ∨ s.swsAvoidanceInvoked = true
  let arwnd : UInt32 := if s.windowFull then 0 else if small then 1 else free.toUInt32
  let sws := if (s.windowFull ∨ small) ∧ s.swsLimit > 0 then true else s.swsAvoidanceInvoked
  let mtu := pmtu - 32
  let sackLength : UInt16 := UInt16.ofNat (16 + s.numGaps * 4 + s.dupList.length * 4)
  let gapLength : UInt32 := UInt32.ofNat (16 + s.numGaps * 4)
  let numGaps := if sackLength.toUInt32 > mtu ∧ gapLength > mtu then ((mtu - 16) / 4).toNat
    else s.numGaps
  let numDups :=
    if sackLength.toUInt32 > mtu then if gapLength > mtu then 0 else ((mtu - gapLength) / 4).toNat
    else s.dupList.length
  ({ cumTsnAck := s.cTsnAck
     a_rwnd := arwnd
     gaps := (List.range numGaps).map fun key => (s.gapStartList key, s.gapStopList key)
     dupTsns := s.dupList.take numDups },
   { s with
     swsAvoidanceInvoked := sws
     dupList := if numDups > 0 then [] else s.dupList })

def openWindow (pmtu : UInt32) (s : SCTPRcvState) : SCTPRcvState :=
  let free := (s.localRwnd - s.queuedRcvBytes).toUInt32.toInt32
  if s.swsAvoidanceInvoked ∧ free ≥ s.swsLimit.toInt32 ∧
    free ≤ (s.swsLimit + s.assocPmtu).toInt32 then
    (createSack pmtu { s with swsAvoidanceInvoked := false }).2
  else s

end SCTPRcvState

namespace SCTPReceiver

variable (a : SCTPReceiver)

def setStream (sid : Nat) (rStream : SCTPReceiveStream) : SCTPReceiver :=
  { a with receiveStreams := update a.receiveStreams sid rStream }

def putNext (sid : Nat) (a : SCTPReceiver) : Option SCTPReceiver :=
  let rStream := a.receiveStreams sid
  (rStream.orderedQ.dequeueVarBySsn (UInt16.ofNat rStream.expectedStreamSeqNum)).map fun dequeued =>
    let chunk := dequeued.1
    let r := rStream.deliveryQ.checkAndInsertVar chunk.tsn chunk
    let removed := a.state.queuedRcvBytes - (chunk.len / 8).toUInt64
    let a := { a with state := { a.state with
      queuedRcvBytes := if r.1 then removed + (chunk.len / 8).toUInt64 else removed } }
    a.setStream sid { rStream with
      orderedQ := dequeued.2
      deliveryQ := r.2
      expectedStreamSeqNum :=
        if r.1 then SCTPReceiveStream.advanceSsn rStream.expectedStreamSeqNum
          else rStream.expectedStreamSeqNum }

/-- Each round takes a message out of `orderedQ`, so its size bounds the rounds. -/
def putRounds (sid : Nat) : Nat → SCTPReceiver → SCTPReceiver
  | 0, a => a
  | rounds + 1, a =>
    match a.putNext sid with
    | some a => putRounds sid rounds a
    | none => a

def putInDeliveryQ (sid : Nat) (a : SCTPReceiver) : SCTPReceiver :=
  putRounds sid (a.receiveStreams sid).orderedQ.getQueueSize a

/- `numMsgsReq`, indexed by the place of the stream in this round, has 100 elements. -/
def pushMessage (count sid : Nat) (chunk : SCTPDataVariables) (deliveryQ : SCTPQueue)
    (a : SCTPReceiver) : Except SctpFault SCTPReceiver :=
  let s := a.state
  let left := if s.pushMessagesLeft > 0 then s.pushMessagesLeft - 1 else s.pushMessagesLeft
  let s := SCTPRcvState.openWindow a.pmtu { s with
    pushMessagesLeft := left
    queuedRcvBytes := s.queuedRcvBytes - (chunk.len / 8).toUInt64 }
  if count < 100 then
    .ok ({ a with state := s, toApp := a.toApp ++ [chunk] }.setStream sid
      { a.receiveStreams sid with deliveryQ := deliveryQ })
  else .error .arrayIndex

def pushRounds (restrict : Bool) (count sid : Nat) :
    Nat → SCTPReceiver → Except SctpFault SCTPReceiver
  | 0, a => .ok a
  | rounds + 1, a =>
    match (a.receiveStreams sid).deliveryQ.extractMessage with
    | some extracted =>
      if !restrict || decide (a.state.pushMessagesLeft > 0) then
        a.pushMessage count sid extracted.1 extracted.2 >>= pushRounds restrict count sid rounds
      else .ok a
    | none => .ok a

def pushStreams (restrict : Bool) :
    (count : Nat) → List Nat → SCTPReceiver → Except SctpFault SCTPReceiver
  | _, [], a => .ok a
  | count, sid :: sids, a =>
    pushRounds restrict count sid (a.receiveStreams sid).deliveryQ.getQueueSize a >>=
      pushStreams restrict (count + 1) sids

def pushOrder : List Nat :=
  (List.range a.inboundStreams).map fun k => (a.state.nextRSid + k) % a.inboundStreams

def putAll : SCTPReceiver :=
  (List.range a.inboundStreams).foldl (fun a sid => a.putInDeliveryQ sid) a

def setPushMessagesLeft : SCTPReceiver :=
  { a with state := { a.state with
    pushMessagesLeft :=
      if a.state.pushMessagesLeft ≤ 0 then a.state.messagesToPush.toInt32
        else a.state.pushMessagesLeft } }

def advanceRSid : SCTPReceiver :=
  { a with state := { a.state with nextRSid := (a.state.nextRSid + 1) % a.inboundStreams } }

def pushUlp : Except SctpFault SCTPReceiver :=
  if a.inboundStreams = 0 then .error .nullPointer
  else
    let a := a.putAll.setPushMessagesLeft
    (pushStreams (decide (a.state.pushMessagesLeft > 0)) 0 a.pushOrder a).map advanceRSid

/-- The streams are tried in order, each in its reassembly queue for the kind of data that arrived
and then in its delivery queue. -/
def findStored (uBit : Bool) (high : UInt32) (a : SCTPReceiver) :
    Option (Nat × Bool × SCTPDataVariables) :=
  (List.range a.inboundStreams).findSome? fun sid =>
    let rStream := a.receiveStreams sid
    match (if uBit then rStream.unorderedQ else rStream.orderedQ).getVar high with
    | some datVar => some (sid, false, datVar)
    | none => (rStream.deliveryQ.getVar high).map fun datVar => (sid, true, datVar)

def dropStored (uBit delQ : Bool) (high : UInt32) (datVar : SCTPDataVariables)
    (rStream : SCTPReceiveStream) : SCTPReceiveStream :=
  { expectedStreamSeqNum :=
      if ssnGt (UInt16.ofNat rStream.expectedStreamSeqNum) datVar.ssn then datVar.ssn.toNat
      else rStream.expectedStreamSeqNum
    deliveryQ := if delQ then rStream.deliveryQ.erase high else rStream.deliveryQ
    orderedQ := if !delQ && !uBit then rStream.orderedQ.erase high else rStream.orderedQ
    unorderedQ := if !delQ && uBit then rStream.unorderedQ.erase high else rStream.unorderedQ }

def reclaim (tsn high : UInt32) (uBit : Bool) (found : Nat × Bool × SCTPDataVariables)
    (a : SCTPReceiver) : Except SctpFault SCTPReceiver := do
  let datVar := found.2.2
  let s := a.state
  let s ← SCTPRcvState.removeFromGapList high { s with
    queuedRcvBytes := s.queuedRcvBytes - (datVar.len / 8).toUInt64
    highestTsnReceived := if high = s.highestTsnReceived then s.highestTsnReceived - 1
      else s.highestTsnReceived }
  let s := if tsn > s.highestTsnReceived then { s with highestTsnReceived := tsn } else s
  .ok ({ a with state := s }.setStream found.1 (dropStored uBit found.2.1 high datVar
    (a.receiveStreams found.1)))

def reclaimFound (tsn high : UInt32) (uBit : Bool) (a : SCTPReceiver) :
    Option (Nat × Bool × SCTPDataVariables) → Except SctpFault SCTPReceiver
  | some found => a.reclaim tsn high uBit found
  | none => .ok a

def foundLen : Option (Nat × Bool × SCTPDataVariables) → UInt32
  | some found => found.2.2.len
  | none => 0

def makeRoomRounds (tsn length : UInt32) (uBit : Bool) :
    Nat → (high sum : UInt32) → SCTPReceiver → Except SctpFault (Bool × SCTPReceiver)
  | 0, _, _, _ => .error .outOfFuel
  | fuel + 1, high, sum, a =>
    if sum < length ∧ a.state.highestTsnReceived > a.state.lastTsnAck then
      if tsn > high ∧ 0 < a.inboundStreams then .ok (false, a)
      else do
        let found := a.findStored uBit high
        let a ← a.reclaimFound tsn high uBit found
        let sum' := sum + foundLen found
        let high := if found.isSome then high - 1 else high
        let high := if sum' = sum then high - 1 else high
        let a := { a with state := { a.state with highestTsnStored := high } }
        if tsn > a.state.highestTsnReceived then .ok (false, a)
        else makeRoomRounds tsn length uBit fuel high sum' a
    else .ok (true, a)

/-- A round for each TSN at most: after that nothing new can be found. -/
def makeRoomForTsn (tsn length : UInt32) (uBit : Bool) (a : SCTPReceiver) :
    Except SctpFault (Bool × SCTPReceiver) :=
  makeRoomRounds tsn length uBit (2 ^ 32) a.state.highestTsnStored 0 a

section

variable (dataChunk : SCTPDataChunk) (a : SCTPReceiver)

def checkBuffer : Except SctpFault (Bool × SCTPReceiver) :=
  let s := a.state
  if s.windowFull then
    if tsnGt dataChunk.tsn s.highestTsnReceived then .ok (false, a)
    else if !s.tsnIsDuplicate dataChunk.tsn && decide (dataChunk.tsn < s.highestTsnStored) then
      a.makeRoomForTsn dataChunk.tsn (UInt32.ofNat (dataChunk.userData.byteLength * 8))
        dataChunk.uBit
    else .ok (true, a)
  else .ok (true, a)

def storeChunk : Except SctpFault (SCTPEventCode × SCTPReceiver) :=
  if a.state.newChunkReceived then
    let sid := dataChunk.sid.toNat
    if sid < a.inboundStreams then do
      let r ← (a.receiveStreams sid).enqueueNewDataChunk dataChunk.makeVarFromMsg
      let a := a.setStream sid r.2
      let s := { a.state with newChunkReceived := false }
      if r.1 > 0 then
        let payloadLength := UInt32.ofNat dataChunk.userData.byteLength
        let a :=
          { a with state := { s with queuedRcvBytes := s.queuedRcvBytes + payloadLength.toUInt64 } }
        .ok (.delivered, if r.1 < 3 then a.putInDeliveryQ sid else a)
      else .ok (.send, { a with state := s })
    else .error .nullPointer
  else .ok (.send, a)

def processDataArrived : Except SctpFault (SCTPEventCode × SCTPReceiver) :=
  let a := { a with state := { a.state with newChunkReceived := false }.setHighestTsnReceived }
  if a.state.stopReceiving then .ok (.ignore, a)
  else if tsnLe dataChunk.tsn a.state.cTsnAck then
    .ok (.dupReceived, { a with state := a.state.addDuplicate dataChunk.tsn })
  else do
    let room ← a.checkBuffer dataChunk
    if room.1 then
      let recorded ← room.2.state.recordTsn a.initPeerTsn dataChunk.tsn
      let a := { room.2 with state := recorded.2 }
      if recorded.1 then a.storeChunk dataChunk else .ok (.ignore, a)
    else .ok (.ignore, room.2)

end

def getQueuedBytes : Int32 :=
  (List.range a.inboundStreams).foldl (fun qb sid =>
    let rStream := a.receiveStreams sid
    qb + rStream.orderedQ.getNumBytes + rStream.unorderedQ.getNumBytes +
      rStream.deliveryQ.getNumBytes) 0

/-! What one message moving to a delivery queue and one message passed to the application keep,
`putInDeliveryQ` and `pushUlp` keep. -/

open Outcome

structure Kept (I : SCTPReceiver → Prop) : Prop where
  put : ∀ {sid a a'}, sid < a.inboundStreams → I a → a.putNext sid = some a' → I a'
  push : ∀ {count sid a chunk q}, sid < a.inboundStreams → I a →
    (a.receiveStreams sid).deliveryQ.extractMessage = some (chunk, q) →
    Yields (a.pushMessage count sid chunk q) I
  limit : ∀ {a}, I a → I a.setPushMessagesLeft
  next : ∀ {a}, I a → I a.advanceRSid

section Rules

variable {I : SCTPReceiver → Prop} {a : SCTPReceiver} {sid n : Nat}

theorem putNext_inboundStreams {a' : SCTPReceiver} (put : a.putNext sid = some a') :
    a'.inboundStreams = a.inboundStreams := by
  obtain ⟨dequeued, -, rfl⟩ := Option.map_eq_some_iff.mp put
  rfl

section Put

variable (put : ∀ {sid a a'}, sid < a.inboundStreams → I a → a.putNext sid = some a' → I a')

include put

theorem putRounds_kept (known : sid < n) (rounds : Nat) (holds : I a)
    (streams : a.inboundStreams = n) :
    I (putRounds sid rounds a) ∧ (putRounds sid rounds a).inboundStreams = n := by
  induction rounds generalizing a with
  | zero => exact ⟨holds, streams⟩
  | succ rounds ih =>
    unfold SCTPReceiver.putRounds
    split
    · rename_i next found
      exact ih (put (streams ▸ known) holds found) ((putNext_inboundStreams found).trans streams)
    · exact ⟨holds, streams⟩

theorem putAll_kept (holds : I a) : I a.putAll ∧ a.putAll.inboundStreams = a.inboundStreams := by
  have along : ∀ sids : List Nat, (∀ sid ∈ sids, sid < a.inboundStreams) → ∀ b : SCTPReceiver, I b →
      b.inboundStreams = a.inboundStreams →
      I (sids.foldl (fun b sid => b.putInDeliveryQ sid) b) ∧
        (sids.foldl (fun b sid => b.putInDeliveryQ sid) b).inboundStreams = a.inboundStreams := by
    intro sids
    induction sids with
    | nil => exact fun _ b holds streams => ⟨holds, streams⟩
    | cons sid sids ih =>
      intro known b holds streams
      have step := putRounds_kept put (known sid List.mem_cons_self)
        (b.receiveStreams sid).orderedQ.getQueueSize holds streams
      exact ih (fun sid' member => known sid' (List.mem_cons_of_mem sid member)) _ step.1 step.2
  exact along _ (fun sid member => List.mem_range.mp member) a holds rfl

end Put

theorem Kept.putInDeliveryQ (kept : Kept I) (known : sid < a.inboundStreams) (holds : I a) :
    I (a.putInDeliveryQ sid) :=
  (putRounds_kept kept.put known _ holds rfl).1

theorem pushMessage_inboundStreams {count : Nat} {chunk : SCTPDataVariables} {q : SCTPQueue} :
    Yields (a.pushMessage count sid chunk q) fun a' => a'.inboundStreams = a.inboundStreams :=
  .ite (.ok rfl) .error

theorem Kept.pushRounds (kept : Kept I) (known : sid < n) (restrict : Bool) (count rounds : Nat)
    (holds : I a) (streams : a.inboundStreams = n) :
    Yields (pushRounds restrict count sid rounds a) fun a' => I a' ∧ a'.inboundStreams = n := by
  induction rounds generalizing a with
  | zero => exact .ok ⟨holds, streams⟩
  | succ rounds ih =>
    unfold SCTPReceiver.pushRounds
    split
    · rename_i extracted found
      refine .ite ?_ (.ok ⟨holds, streams⟩)
      have step :=
        @Kept.push I kept count sid a extracted.1 extracted.2 (streams ▸ known) holds found
      refine .bind (P := fun a' => I a' ∧ a'.inboundStreams = n)
        (fun a' pushed => ?_) fun a' both =>
        ih both.1 both.2
      exact ⟨step a' pushed, (pushMessage_inboundStreams a' pushed).trans streams⟩
    · exact .ok ⟨holds, streams⟩

theorem Kept.pushStreams (kept : Kept I) (restrict : Bool) {sids : List Nat}
    (known : ∀ sid ∈ sids, sid < n) (count : Nat) (holds : I a) (streams : a.inboundStreams = n) :
    Yields (pushStreams restrict count sids a) fun a' => I a' ∧ a'.inboundStreams = n := by
  induction sids generalizing a count with
  | nil => exact .ok ⟨holds, streams⟩
  | cons sid sids ih =>
    refine .bind (kept.pushRounds (known sid List.mem_cons_self) restrict count _ holds streams) ?_
    exact fun a' both => ih (fun sid' member => known sid' (List.mem_cons_of_mem sid member)) _
      both.1 both.2

theorem Kept.pushUlp (kept : Kept I) (holds : I a) : Yields a.pushUlp I := by
  unfold SCTPReceiver.pushUlp
  refine yields_ite (fun _ => .error) fun some => ?_
  obtain ⟨holds, streams⟩ := putAll_kept kept.put holds
  have visited : ∀ sid ∈ a.putAll.setPushMessagesLeft.pushOrder, sid < a.inboundStreams := by
    intro sid member
    obtain ⟨k, -, rfl⟩ := List.mem_map.mp member
    exact streams ▸ Nat.mod_lt _ (streams ▸ Nat.pos_of_ne_zero some)
  exact ((kept.pushStreams _ visited 0 (kept.limit holds) streams).mono fun a' both =>
    kept.next both.1).map

end Rules

end SCTPReceiver

end Srwsn
