import Srwsn.Sctp.Arrivals
import Srwsn.Sctp.Contents

/-! Ordered messages of one stream, from their arrival to the application. -/
namespace Srwsn

open Outcome Trace SCTPQueue List SCTPReceiver KeyMap

namespace SCTPReceiver

section Settled

variable {a a' : SCTPReceiver} {sid sid' : Nat}

/-- No message of the stream is ready to move to the delivery queue. -/
def Settled (sid : Nat) (a : SCTPReceiver) : Prop := a.putNext sid = none

theorem putNext_receiveStreams (put : a.putNext sid' = some a') (other : sid ≠ sid') :
    a'.receiveStreams sid = a.receiveStreams sid := by
  obtain ⟨dequeued, -, rfl⟩ := Option.map_eq_some_iff.mp put
  simp [setStream, other]

theorem putNext_size (put : a.putNext sid = some a') :
    (a.receiveStreams sid).orderedQ.getQueueSize = (a'.receiveStreams sid).orderedQ.getQueueSize +
    1 := by
  obtain ⟨dequeued, found, rfl⟩ := Option.map_eq_some_iff.mp put
  obtain ⟨tsn, member, -, rest⟩ := dequeueVarBySsn_eq_some found
  have size := length_erase (find?_eq_some_iff.mpr member)
  simpa [setStream, rest, getQueueSize] using size

theorem putNext_eq_none_iff : a.putNext sid = none ↔ (a.receiveStreams sid).orderedQ.dequeueVarBySsn
    (UInt16.ofNat (a.receiveStreams sid).expectedStreamSeqNum) = none := Option.map_eq_none_iff

theorem putRounds_other (rounds : Nat) (other : sid ≠ sid') :
    (putRounds sid' rounds a).receiveStreams sid = a.receiveStreams sid := by
  induction rounds generalizing a with
  | zero => rfl
  | succ rounds ih =>
    unfold putRounds
    split
    · rename_i next put
      exact ih.trans (putNext_receiveStreams put other)
    · rfl

theorem putRounds_settled (rounds : Nat)
    (enough : (a.receiveStreams sid).orderedQ.getQueueSize ≤ rounds) :
    Settled sid (putRounds sid rounds a) := by
  induction rounds generalizing a with
  | zero =>
    have empty : (a.receiveStreams sid).orderedQ.entries = [] :=
      length_eq_zero_iff.mp (Nat.le_zero.mp enough)
    refine putNext_eq_none_iff.mpr (dequeueVarBySsn_eq_none.mpr fun e member => ?_)
    simp [putRounds, empty] at member
  | succ rounds ih =>
    unfold putRounds
    split
    · rename_i next put
      have size := putNext_size put
      exact ih (by omega)
    · assumption

theorem Settled.putInDeliveryQ (sid' : Nat) (settled : sid' = sid ∨ Settled sid a) :
    Settled sid (a.putInDeliveryQ sid') := by
  by_cases same : sid' = sid
  · subst same
    exact putRounds_settled _ le_rfl
  · have still := settled.resolve_left same
    rw [Settled, putNext_eq_none_iff] at still ⊢
    rwa [SCTPReceiver.putInDeliveryQ, putRounds_other _ (Ne.symm same)]

theorem putAll_settled (known : sid < a.inboundStreams) : Settled sid a.putAll := by
  have along : ∀ (sids : List Nat) (b : SCTPReceiver), sid ∈ sids ∨ Settled sid b →
      Settled sid (sids.foldl (fun b sid => b.putInDeliveryQ sid) b) := by
    intro sids
    induction sids with
    | nil => exact fun b settled => settled.resolve_left not_mem_nil
    | cons sid' sids ih =>
      intro b settled
      refine ih _ ?_
      by_cases here : sid' = sid ∨ Settled sid b
      · exact .inr (Settled.putInDeliveryQ sid' here)
      · rw [not_or] at here
        rcases settled with member | settled
        · exact .inl ((mem_cons.mp member).resolve_left (Ne.symm here.1))
        · exact absurd settled here.2
  exact along _ a (.inl (mem_range.mpr known))

end Settled

section Unlimited

variable {a : SCTPReceiver} {sid count : Nat}

structure Pushed (sids : List Nat) (a a' : SCTPReceiver) : Prop where
  app : a.toApp ⊆ a'.toApp
  others : ∀ other ∉ sids, a'.receiveStreams other = a.receiveStreams other
  all : ∀ sid ∈ sids, ∀ t v, (a.receiveStreams sid).deliveryQ.getVar t = some v → v ∈ a'.toApp

theorem extractMessage_eq_none {q : SCTPQueue} (none : q.extractMessage = none) (t : UInt32)
    (v : SCTPDataVariables) : q.getVar t ≠ some v := by
  have empty : q.entries = [] := head?_eq_none_iff.mp (Option.map_eq_none_iff.mp none)
  intro found
  simpa [empty] using find?_eq_some_iff.mp found

theorem pushMessage_eq (few : count < 100) (sid : Nat) (chunk : SCTPDataVariables) (q : SCTPQueue)
    (a : SCTPReceiver) :
    ∃ a', a.pushMessage count sid chunk q = .ok a' ∧ a'.toApp = a.toApp ++ [chunk] ∧
      a'.receiveStreams = Function.update a.receiveStreams sid
      { a.receiveStreams sid with deliveryQ := q } :=
  ⟨_, if_pos few, rfl, rfl⟩

theorem pushed_of_none (none : (a.receiveStreams sid).deliveryQ.extractMessage = none) : Pushed
    [sid] a a := by
  refine ⟨List.Subset.refl _, fun _ _ => rfl, fun sid' member t v found => ?_⟩
  obtain rfl := mem_singleton.mp member
  exact absurd found (extractMessage_eq_none none t v)

theorem pushRounds_pushed (few : count < 100) (rounds : Nat)
    (enough : (a.receiveStreams sid).deliveryQ.getQueueSize ≤ rounds) :
    ∃ a', pushRounds false count sid rounds a = .ok a' ∧ Pushed [sid] a a' := by
  induction rounds generalizing a with
  | zero =>
    have empty : (a.receiveStreams sid).deliveryQ.entries = [] :=
      length_eq_zero_iff.mp (Nat.le_zero.mp enough)
    exact ⟨a, rfl, pushed_of_none (by simp [extractMessage, first?, empty])⟩
  | succ rounds ih =>
    unfold pushRounds
    split
    · rename_i extracted first
      obtain ⟨message, q⟩ := extracted
      obtain ⟨t, found, rest⟩ := extractMessage_eq_some first
      obtain ⟨a₁, done, app, streams⟩ := pushMessage_eq few sid message q a
      have queue : (a₁.receiveStreams sid).deliveryQ =
          (a.receiveStreams sid).deliveryQ.erase t := by
        simp [streams, rest]
      have size : (a₁.receiveStreams sid).deliveryQ.getQueueSize ≤ rounds := by
        have less := length_erase found
        rw [queue]
        simp only [getQueueSize] at enough ⊢
        omega
      obtain ⟨a', ran, pushed⟩ := ih size
      refine ⟨a', ?_, fun v member => pushed.app (app ▸ mem_append_left _ member),
        fun other out => ?_, fun sid' member t' v here => ?_⟩
      · rw [if_pos (by simp), done]
        exact ran
      · rw [pushed.others other out, streams, Function.update_of_ne (by simpa using out)]
      · obtain rfl := mem_singleton.mp member
        by_cases same : t' = t
        · obtain rfl : message = v := Option.some.inj (found.symm.trans (same ▸ here))
          exact pushed.app (app ▸ by simp)
        · refine pushed.all sid' member t' v ?_
          rw [queue, getVar, find?_erase, if_neg same]
          exact here
    · rename_i none
      exact ⟨a, rfl, pushed_of_none none⟩

theorem pushStreams_pushed {sids : List Nat} (few : count + sids.length ≤ 100) :
    ∃ a', pushStreams false count sids a = .ok a' ∧ Pushed sids a a' := by
  induction sids generalizing a count with
  | nil =>
    exact ⟨a, rfl, List.Subset.refl _, fun _ _ => rfl, fun _ member => absurd member not_mem_nil⟩
  | cons sid sids ih =>
    rw [length_cons] at few
    obtain ⟨a₁, ran, first⟩ := @pushRounds_pushed a sid count (by omega) _ le_rfl
    obtain ⟨a', rest, later⟩ := @ih a₁ (count + 1) (by omega)
    refine ⟨a', ?_, List.Subset.trans first.app later.app, fun other out => ?_,
      fun sid' member t v here => ?_⟩
    · rw [pushStreams, ran]
      exact rest
    · rw [mem_cons, not_or] at out
      rw [later.others other out.2, first.others other (by simpa using out.1)]
    · by_cases same : sid' = sid
      · exact later.app (first.all sid' (by simp [same]) t v here)
      · refine later.all sid' ((mem_cons.mp member).resolve_left same) t v ?_
        rw [first.others sid' (by simpa using same)]
        exact here

theorem mem_pushOrder (known : sid < a.inboundStreams) : sid ∈ a.pushOrder := by
  have pos : 0 < a.inboundStreams := Nat.zero_lt_of_lt known
  have turn := Nat.mod_lt a.state.nextRSid pos
  refine List.mem_map.mpr ⟨(sid + (a.inboundStreams - a.state.nextRSid % a.inboundStreams)) %
    a.inboundStreams, mem_range.mpr (Nat.mod_lt _ pos), ?_⟩
  rw [Nat.add_mod_mod, ← Nat.mod_add_mod, show a.state.nextRSid % a.inboundStreams +
    (sid + (a.inboundStreams - a.state.nextRSid % a.inboundStreams)) =
    sid + a.inboundStreams by omega,
    Nat.add_mod_right, Nat.mod_eq_of_lt known]

def Unlimited (a : SCTPReceiver) : Prop := a.setPushMessagesLeft.state.pushMessagesLeft ≤ 0

theorem putAll_unlimited (free : a.Unlimited) : a.putAll.Unlimited := by
  refine (putAll_kept (I := Unlimited) (fun _ holds put => ?_) free).1
  obtain ⟨dequeued, -, rfl⟩ := Option.map_eq_some_iff.mp put
  exact holds

theorem pushUlp_pushed (streams : 0 < a.inboundStreams) (few : a.inboundStreams ≤ 100)
    (free : a.Unlimited) : ∃ a', a.pushUlp = .ok a' ∧ a.putAll.toApp ⊆ a'.toApp ∧
      ∀ sid < a.inboundStreams, ∀ t v, (a.putAll.receiveStreams sid).deliveryQ.getVar t = some v →
      v ∈ a'.toApp := by
  have count := (putAll_kept (I := fun _ => True) (fun _ _ _ => trivial) trivial (a := a)).2
  have order : a.putAll.setPushMessagesLeft.pushOrder.length = a.inboundStreams := by
    simp [pushOrder, setPushMessagesLeft, count]
  obtain ⟨a', ran, pushed⟩ :=
    @pushStreams_pushed a.putAll.setPushMessagesLeft 0 a.putAll.setPushMessagesLeft.pushOrder
    (by omega)
  have limit : decide (a.putAll.setPushMessagesLeft.state.pushMessagesLeft > 0) = false :=
    decide_eq_false (Int32.not_lt.mpr (putAll_unlimited free))
  refine ⟨a'.advanceRSid, ?_, pushed.app, fun sid known t v here => ?_⟩
  · rw [pushUlp, if_neg streams.ne']
    dsimp only
    rw [limit, ran]
    rfl
  · exact pushed.all sid (mem_pushOrder (count.symm ▸ known)) t v here

end Unlimited

end SCTPReceiver

/-- Messages of one DATA chunk each. Their TSNs go up, by less than half a turn over those that can
be outstanding. -/
structure OrderedMessages where
  sid : UInt16
  base : UInt32
  offset : Nat → Nat
  ppid : Nat → UInt32
  userData : Nat → SCTPSimpleMessage
  increasing : StrictMono offset
  half : ∀ {i j}, i ≤ j → j < i + 2 ^ 15 → offset j < offset i + 2 ^ 31

namespace OrderedMessages

def tsnOf (m : OrderedMessages) (k : Nat) : UInt32 := m.base + UInt32.ofNat (m.offset k)

def chunk (m : OrderedMessages) (k : Nat) : SCTPDataChunk where
  eBit := true
  bBit := true
  uBit := false
  tsn := m.tsnOf k
  sid := m.sid
  ssn := UInt16.ofNat k
  ppid := m.ppid k
  userData := m.userData k
  number := k

def var (m : OrderedMessages) (k : Nat) : SCTPDataVariables := (m.chunk k).makeVarFromMsg

variable {m : OrderedMessages} {i j k n c : Nat}

theorem tsnOf_inj (hi : n ≤ i) (hi' : i < n + 2 ^ 15) (hj : n ≤ j) (hj' : j < n + 2 ^ 15) :
    m.tsnOf i = m.tsnOf j ↔ i = j := by
  refine ⟨fun same => ?_, congrArg m.tsnOf⟩
  simp only [tsnOf, add_right_inj, ← UInt32.toNat_inj, UInt32.toNat_ofNat'] at same
  rcases lt_trichotomy i j with less | equal | more
  · have up := m.increasing less
    have near := m.half less.le (by omega)
    omega
  · exact equal
  · have up := m.increasing more
    have near := m.half more.le (by omega)
    omega

structure Queued (m : OrderedMessages) (arrived : List Nat) (n c : Nat)
    (rStream : SCTPReceiveStream) : Prop where
  le : n ≤ c
  got : ∀ k < c, k ∈ arrived
  near : ∀ k ∈ arrived, k < n + 2 ^ 15
  delivery : ∀ t v, rStream.deliveryQ.getVar t = some v ↔ ∃ k, n ≤ k ∧ k < c ∧ t = m.tsnOf k ∧
    v = m.var k
  ordered : ∀ t v, rStream.orderedQ.getVar t = some v ↔ ∃ k ∈ arrived, c ≤ k ∧ t = m.tsnOf k ∧
    v = m.var k
  expected : rStream.expectedStreamSeqNum = c % 65536

section Stream

variable {arrived : List Nat} {rStream : SCTPReceiveStream}

theorem delivery_iff {q : SCTPQueue} :
    (∀ t v, q.getVar t = some v ↔ ∃ k, n ≤ k ∧ k < c ∧ t = m.tsnOf k ∧ v = m.var k) ↔
      Stands q m.tsnOf m.var fun k => n ≤ k ∧ k < c := by
  simp only [Stands, getVar, and_assoc]

theorem ordered_iff {q : SCTPQueue} :
    (∀ t v, q.getVar t = some v ↔ ∃ k ∈ arrived, c ≤ k ∧ t = m.tsnOf k ∧ v = m.var k) ↔
      Stands q m.tsnOf m.var fun k => k ∈ arrived ∧ c ≤ k := by
  simp only [Stands, getVar, and_assoc]

variable (queued : m.Queued arrived n c rStream)

include queued

theorem Queued.c_le : c ≤ n + 2 ^ 15 := by
  rcases Nat.eq_zero_or_pos c with rfl | pos
  · exact Nat.zero_le _
  · have last := queued.near (c - 1) (queued.got (c - 1) (by omega))
    omega

theorem Queued.complete_iff {e : UInt32 × SCTPDataVariables}
    (member : e ∈ rStream.orderedQ.entries) :
    e.2.Complete (UInt16.ofNat rStream.expectedStreamSeqNum) ↔ e = (m.tsnOf c, m.var c) := by
  obtain ⟨k, arrived, beyond, tsn, here⟩ :=
    (queued.ordered e.1 e.2).mp (find?_eq_some_iff.mpr member)
  have near := queued.near k arrived
  have le := queued.le
  constructor
  · rintro ⟨ssn, -, -⟩
    rw [here, queued.expected] at ssn
    have same : k % 65536 = c % 65536 := by
      have := congrArg UInt16.toNat ssn
      simpa [var, chunk, SCTPDataChunk.makeVarFromMsg] using this
    obtain rfl : k = c := by omega
    exact Prod.ext tsn here
  · intro same
    rw [same, queued.expected]
    refine ⟨?_, rfl, rfl⟩
    simp [var, chunk, SCTPDataChunk.makeVarFromMsg, ← UInt16.toNat_inj]

theorem Queued.dequeue_none
    (none : rStream.orderedQ.dequeueVarBySsn (UInt16.ofNat rStream.expectedStreamSeqNum) = none) :
    c ∉ arrived := by
  intro here
  have member := find?_eq_some_iff.mp ((queued.ordered _ _).mpr ⟨c, here, le_rfl, rfl, rfl⟩)
  exact dequeueVarBySsn_eq_none.mp none _ member ((queued.complete_iff member).mpr rfl)

theorem Queued.dequeue_some {r : SCTPDataVariables × SCTPQueue}
    (dequeued : rStream.orderedQ.dequeueVarBySsn (UInt16.ofNat rStream.expectedStreamSeqNum) =
      some r) :
    rStream.deliveryQ.getVar r.1.tsn = none ∧ m.Queued arrived n (c + 1) { rStream with
      orderedQ := r.2
      deliveryQ := rStream.deliveryQ.insert r.1.tsn r.1
      expectedStreamSeqNum := SCTPReceiveStream.advanceSsn rStream.expectedStreamSeqNum } := by
  obtain ⟨message, q⟩ := r
  obtain ⟨tsn, member, complete, rest⟩ := dequeueVarBySsn_eq_some dequeued
  obtain ⟨k, here, beyond, rfl, rfl⟩ := (queued.ordered _ _).mp (find?_eq_some_iff.mpr member)
  have same := (queued.complete_iff member).mp complete
  have near := queued.near k here
  have le := queued.le
  have top := queued.c_le
  obtain rfl : k = c := by
    by_contra other
    have least := congrArg Prod.snd same
    have numbers := congrArg SCTPDataVariables.numbers least
    simp [var, chunk, SCTPDataChunk.makeVarFromMsg, other] at numbers
  have apart : ∀ {j}, n ≤ j → j < n + 2 ^ 15 → (m.tsnOf j = m.tsnOf k ↔ j = k) := fun low high =>
    tsnOf_inj low high le near
  have delivery := delivery_iff.mp queued.delivery
  have below : ∀ j, n ≤ j ∧ j < k → m.tsnOf j ≠ m.tsnOf k := fun j inside same =>
    inside.2.ne ((apart inside.1 (by omega)).mp same)
  have free : rStream.deliveryQ.getVar (m.tsnOf k) = none := delivery.absent below
  refine ⟨free, by omega, fun j less => ?_, queued.near, ?_, ?_, ?_⟩
  · rcases Nat.lt_succ_iff_lt_or_eq.mp less with less | rfl
    · exact queued.got j less
    · exact here
  · exact delivery_iff.mpr ((delivery.insert below).congr fun j => by omega)
  · rw [rest]
    refine ordered_iff.mpr (((ordered_iff.mp queued.ordered).erase fun j inside same => ?_).congr
      fun j => ?_)
    · exact (apart (by omega) (queued.near j inside.1)).mp same
    · rw [and_assoc, Nat.succ_le_iff, lt_iff_le_and_ne, ne_comm]
  · dsimp only
    rw [queued.expected, SCTPReceiveStream.advanceSsn]
    split_ifs <;> omega

theorem Queued.insert (new : k ∉ arrived) (near : k < n + 2 ^ 15) :
    rStream.orderedQ.getVar (m.tsnOf k) = none ∧
      m.Queued (k :: arrived) n c
      { rStream with orderedQ := rStream.orderedQ.insert (m.tsnOf k) (m.var k) } := by
  have low : c ≤ k := Nat.le_of_not_lt fun less => new (queued.got k less)
  have le := queued.le
  have apart : ∀ {j}, c ≤ j → j ∈ arrived → m.tsnOf j ≠ m.tsnOf k := by
    intro j beyond inside same
    rw [tsnOf_inj (n := n) (by omega) (queued.near j inside) (by omega) near] at same
    exact new (same ▸ inside)
  have ordered := ordered_iff.mp queued.ordered
  have others : ∀ j, j ∈ arrived ∧ c ≤ j → m.tsnOf j ≠ m.tsnOf k :=
    fun j inside => apart inside.2 inside.1
  have free : rStream.orderedQ.getVar (m.tsnOf k) = none := ordered.absent others
  refine ⟨free, queued.le, fun j less => mem_cons_of_mem k (queued.got j less),
    fun j inside => ?_, queued.delivery, ordered_iff.mpr ((ordered.insert others).congr fun j =>
      ?_), queued.expected⟩
  · rcases mem_cons.mp inside with rfl | old
    · exact near
    · exact queued.near j old
  · have new : j = k → c ≤ j := fun same => same ▸ low
    rw [mem_cons]
    tauto

theorem Queued.extract {message : SCTPDataVariables} {q : SCTPQueue}
    (line : ∀ j, n < j → j < c → m.tsnOf n < m.tsnOf j)
    (extracted : rStream.deliveryQ.extractMessage = some (message, q)) :
    message = m.var n ∧ m.Queued arrived (n + 1) c { rStream with deliveryQ := q } := by
  obtain ⟨⟨t, v⟩, first, same⟩ := Option.map_eq_some_iff.mp extracted
  cases same
  obtain ⟨k, low, high, rfl, rfl⟩ := (queued.delivery t v).mp (first?_find? first)
  have top := queued.c_le
  have least : (m.tsnOf n, m.var n) ∈ rStream.deliveryQ.entries :=
    find?_eq_some_iff.mp ((queued.delivery _ _).mpr ⟨n, le_rfl, by omega, rfl, rfl⟩)
  obtain rfl : k = n := by
    by_contra other
    have below := line k (by omega) high
    rcases first?_le first least with same | above
    · have equal : m.tsnOf n = m.tsnOf k := congrArg Prod.fst same
      exact UInt32.lt_irrefl _ (equal ▸ below)
    · exact UInt32.lt_irrefl _ (UInt32.lt_trans below above)
  refine ⟨rfl, by omega, queued.got, fun j inside => ?_, ?_, queued.ordered, queued.expected⟩
  · have := queued.near j inside
    omega
  · refine delivery_iff.mpr (((delivery_iff.mp queued.delivery).erase fun j inside same => ?_).congr
      fun j => by omega)
    exact (tsnOf_inj (n := k) (by omega) (by omega) le_rfl (by omega)).mp same

end Stream

def OnStream (sid : Nat) (v : SCTPDataVariables) : Prop := v.sid.toNat = sid

theorem closed_onStream (sid : Nat) : Closed (OnStream sid) where
  append := by
    intro v v' v'' here _ appended
    obtain ⟨-, -, sid, -⟩ := SCTPDataVariables.append_eq_ok appended
    rwa [OnStream, sid]
  finish := id

structure Holds (m : OrderedMessages) (arrived : List Nat) (n c : Nat) (a : SCTPReceiver) :
    Prop where
  queued : m.Queued arrived n c (a.receiveStreams m.sid.toNat)
  app : a.toApp.filter (fun v => v.sid == m.sid) = (List.range n).map m.var
  own : a.AllStored OnStream

/-- The messages still to deliver that nothing missing holds back have TSNs in order as plain
numbers. -/
def Line (m : OrderedMessages) (arrived : List Nat) (n : Nat) : Prop :=
  ∀ i j, n ≤ i → i < j → (∀ k ≤ j, k ∈ arrived) → m.tsnOf i < m.tsnOf j

variable {arrived : List Nat} {a a' : SCTPReceiver} {sid : Nat}

theorem Holds.putNext (holds : m.Holds arrived n c a) (put : a.putNext sid = some a') :
    ∃ c', m.Holds arrived n c' a' := by
  have own := holds.own.putNext put
  obtain ⟨dequeued, found, rfl⟩ := Option.map_eq_some_iff.mp put
  by_cases same : sid = m.sid.toNat
  · subst same
    obtain ⟨free, queued⟩ := holds.queued.dequeue_some found
    refine ⟨c + 1, ?_, holds.app, own⟩
    simpa [setStream, checkAndInsertVar_new free] using queued
  · refine ⟨c, ?_, holds.app, own⟩
    simpa [setStream, Ne.symm same] using holds.queued

theorem Holds.pushMessage (holds : m.Holds arrived n c a) (line : m.Line arrived n) {count : Nat}
    {message : SCTPDataVariables} {q : SCTPQueue}
    (extracted : (a.receiveStreams sid).deliveryQ.extractMessage = some (message, q)) :
    Yields (a.pushMessage count sid message q) fun a' => ∃ n' ≥ n, m.Holds arrived n' c a' := by
  obtain ⟨on, own⟩ := holds.own.pushMessage count extracted
  intro a' pushed
  have own' := own a' pushed
  unfold SCTPReceiver.pushMessage at pushed
  dsimp only at pushed
  split at pushed
  · cases pushed
    by_cases same : sid = m.sid.toNat
    · subst same
      obtain ⟨rfl, queued⟩ :=
        holds.queued.extract
        (fun j low high => line n j le_rfl low fun k le => holds.queued.got k (by omega)) extracted
      refine ⟨n + 1, Nat.le_succ n, ?_, ?_, own'⟩
      · simpa [setStream] using queued
      · have here : ((m.var n).sid == m.sid) = true := beq_self_eq_true _
        simp [setStream, filter_append, holds.app, range_succ, here]
    · refine ⟨n, le_rfl, ?_, ?_, own'⟩
      · simpa [setStream, Ne.symm same] using holds.queued
      · have other : (message.sid == m.sid) = false :=
          beq_false_of_ne fun equal => same (on.symm.trans (congrArg UInt16.toNat equal))
        simp [setStream, filter_append, holds.app, other]
  · cases pushed

theorem kept_holds (m : OrderedMessages) {arrived : List Nat} {n₀ : Nat}
    (line : m.Line arrived n₀) : Kept fun a => ∃ n ≥ n₀, ∃ c, m.Holds arrived n c a where
  put := by
    rintro sid a a' - ⟨n, from_n₀, c, holds⟩ put
    exact ⟨n, from_n₀, holds.putNext put⟩
  push := by
    rintro count sid a message q - ⟨n, from_n₀, c, holds⟩ extracted
    have line' : m.Line arrived n := fun i j low => line i j (le_trans from_n₀ low)
    refine (holds.pushMessage line' extracted).mono ?_
    rintro a' ⟨n', more, holds'⟩
    exact ⟨n', le_trans from_n₀ more, c, holds'⟩
  limit := by
    rintro a ⟨n, from_n₀, c, holds⟩
    exact ⟨n, from_n₀, c, holds.queued, holds.app, holds.own⟩
  next := by
    rintro a ⟨n, from_n₀, c, holds⟩
    exact ⟨n, from_n₀, c, holds.queued, holds.app, holds.own⟩

theorem Holds.putInDeliveryQ (holds : m.Holds arrived n c a) (known : sid < a.inboundStreams) :
    ∃ c', m.Holds arrived n c' (a.putInDeliveryQ sid) := by
  refine (putRounds_kept (I := fun a => ∃ c, m.Holds arrived n c a) ?_ known _ ⟨c, holds⟩ rfl).1
  rintro sid a a' - ⟨c, holds⟩ put
  exact holds.putNext put

theorem Queued.enqueue {rStream : SCTPReceiveStream} (queued : m.Queued arrived n c rStream)
    (new : k ∉ arrived) (near : k < n + 2 ^ 15) :
    Yields (rStream.enqueueNewDataChunk (m.var k)) fun r => ∃ c',
    m.Queued (k :: arrived) n c' r.2 := by
  obtain ⟨free, queued'⟩ := queued.insert new near
  rw [SCTPReceiveStream.enqueue_ordered_whole rfl rfl, show (m.var k).tsn = m.tsnOf k from rfl,
    checkAndInsertVar_new free]
  refine .ok ?_
  unfold SCTPReceiveStream.deliverExpected
  split
  · exact ⟨c, queued'⟩
  · rename_i dequeued found
    obtain ⟨free, queued''⟩ := queued'.dequeue_some found
    dsimp only at free ⊢
    rw [checkAndInsertVar_new free, if_pos rfl]
    exact ⟨c + 1, queued''⟩

end OrderedMessages

namespace SCTPReceiver

/-- What `processDataArrived` does with a chunk after its TSN has been taken for new. -/
def accept (dataChunk : SCTPDataChunk) (a : SCTPReceiver) : Except SctpFault SCTPReceiver :=
  ({ a with state := { a.state with newChunkReceived := true } }.storeChunk dataChunk).map Prod.snd

theorem kept_inboundStreams (n : Nat) : Kept fun a => a.inboundStreams = n where
  put := fun _ streams put => (putNext_inboundStreams put).trans streams
  push := fun _ streams _ a' pushed => (pushMessage_inboundStreams a' pushed).trans streams
  limit := id
  next := id

theorem accept_inboundStreams {dataChunk : SCTPDataChunk} {a : SCTPReceiver} :
    Yields (a.accept dataChunk) fun a' => a'.inboundStreams = a.inboundStreams := by
  unfold accept storeChunk
  refine .map (yields_ite (fun _ => yields_ite (fun known => ?_) fun _ => .error) fun no =>
    absurd rfl no)
  refine .after fun r => ?_
  refine .ite (.ok ?_) (.ok rfl)
  split_ifs
  · exact (kept_inboundStreams a.inboundStreams).putInDeliveryQ known rfl
  · rfl

end SCTPReceiver

namespace OrderedMessages

variable {m : OrderedMessages} {k n c : Nat} {arrived arrived' : List Nat} {a a' : SCTPReceiver}

theorem Holds.accept (holds : m.Holds arrived n c a) {dataChunk : SCTPDataChunk}
    (mine : ∀ r, (a.receiveStreams dataChunk.sid.toNat).enqueueNewDataChunk
      dataChunk.makeVarFromMsg = .ok r →
      ∃ c', m.Queued arrived' n c' (Function.update a.receiveStreams dataChunk.sid.toNat r.2
        m.sid.toNat)) :
    Yields (a.accept dataChunk) fun a' => ∃ c', m.Holds arrived' n c' a' := by
  unfold SCTPReceiver.accept SCTPReceiver.storeChunk
  refine .map (yields_ite (fun _ => yields_ite (fun known => ?_) fun _ => .error) fun no =>
    absurd rfl no)
  refine .bind (P := fun r => (∃ c', m.Queued arrived' n c'
      (Function.update a.receiveStreams dataChunk.sid.toNat r.2 m.sid.toNat)) ∧
      r.2.All (OnStream dataChunk.sid.toNat))
    (fun r enqueued => ⟨mine r enqueued, ?_⟩) ?_
  · have here : OnStream dataChunk.sid.toNat dataChunk.makeVarFromMsg := rfl
    exact (holds.own dataChunk.sid.toNat).enqueue (closed_onStream _) here r enqueued
  · rintro r ⟨⟨c', queued⟩, on⟩
    have stored : ∀ s : SCTPRcvState,
        m.Holds arrived' n c' { a.setStream dataChunk.sid.toNat r.2 with state := s } := fun s =>
      ⟨queued, holds.app, holds.own.update rfl on⟩
    refine .ite (.ok ?_) (.ok ⟨c', stored _⟩)
    split_ifs
    · exact (stored _).putInDeliveryQ known
    · exact ⟨c', stored _⟩

theorem Holds.message (holds : m.Holds arrived n c a) (new : k ∉ arrived) (near : k < n + 2 ^ 15) :
    Yields (a.accept (m.chunk k)) fun a' => ∃ c', m.Holds (k :: arrived) n c' a' := by
  refine holds.accept fun r enqueued => ?_
  obtain ⟨c', queued⟩ := holds.queued.enqueue new near r enqueued
  exact ⟨c', by simpa [chunk] using queued⟩

theorem Holds.other (holds : m.Holds arrived n c a) {dataChunk : SCTPDataChunk}
    (other : dataChunk.sid ≠ m.sid) :
    Yields (a.accept dataChunk) fun a' => ∃ c', m.Holds arrived n c' a' := by
  refine holds.accept fun r _ => ⟨c, ?_⟩
  have apart : m.sid.toNat ≠ dataChunk.sid.toNat :=
    fun same => other (UInt16.toNat_inj.mp same).symm
  simpa [apart] using holds.queued

end OrderedMessages

inductive StreamEvent where
  | message (k : Nat)
  | other (dataChunk : SCTPDataChunk)
  | push

structure Receiving where
  receiver : SCTPReceiver
  arrived : List Nat

namespace Receiving

variable (m : OrderedMessages)

variable (w : Receiving)

def step : StreamEvent → Except SctpFault Receiving
  | .message k => (w.receiver.accept (m.chunk k)).map fun a => ⟨a, k :: w.arrived⟩
  | .other dataChunk => (w.receiver.accept dataChunk).map fun a => ⟨a, w.arrived⟩
  | .push => w.receiver.pushUlp.map fun a => ⟨a, w.arrived⟩

def Next (e : StreamEvent) (w' : Receiving) : Prop := w.step m e = .ok w'

def delivered : List SCTPDataVariables := w.receiver.toApp.filter fun v => v.sid == m.sid

/-- The messages come in order, each once and after it has arrived, and serving the application
without a limit delivers everything that nothing missing holds back. -/
structure InSequence (w : Receiving) : Prop where
  in_order : w.delivered m = (List.range (w.delivered m).length).map m.var
  arrived : ∀ k < (w.delivered m).length, k ∈ w.arrived
  all : w.receiver.Unlimited → ∃ a, w.receiver.pushUlp = .ok a ∧
    ∀ n, (∀ k < n, k ∈ w.arrived) → ∀ k < n, m.var k ∈ a.toApp

def InScope : StreamEvent → Prop
  | .message k => k ∉ w.arrived ∧ k < (w.delivered m).length + 2 ^ 15
  | .other dataChunk => dataChunk.sid ≠ m.sid
  | .push => True

def InLine : StreamEvent → Prop
  | .push => m.Line w.arrived (w.delivered m).length
  | _ => True

structure Inv (w : Receiving) : Prop where
  holds : ∃ n c, m.Holds w.arrived n c w.receiver
  known : m.sid.toNat < w.receiver.inboundStreams
  few : w.receiver.inboundStreams ≤ 100

variable {m} {w w' : Receiving} {n c : Nat}

theorem delivered_length (holds : m.Holds w.arrived n c w.receiver) :
    (w.delivered m).length = n := by
  rw [delivered, holds.app, length_map, length_range]

theorem Inv.inSequence (inv : w.Inv m) : w.InSequence m := by
  obtain ⟨⟨n, c, holds⟩, known, few⟩ := inv
  have length := delivered_length holds
  refine ⟨?_, fun k less => ?_, fun free => ?_⟩
  · rw [length]
    exact holds.app
  · exact holds.queued.got k (by have := holds.queued.le; omega)
  · obtain ⟨a, ran, app, all⟩ := pushUlp_pushed (Nat.zero_lt_of_lt known) few free
    have put := putAll_kept (I := fun a => ∃ c, m.Holds w.arrived n c a)
      (fun _ ⟨c, holds⟩ put => holds.putNext put) ⟨c, holds⟩
    obtain ⟨⟨c', holds'⟩, -⟩ := put
    have settled := holds'.queued.dequeue_none (putNext_eq_none_iff.mp (putAll_settled known))
    refine ⟨a, ran, fun n' contiguous k less => ?_⟩
    have below : n' ≤ c' := Nat.le_of_not_lt fun more => settled (contiguous c' more)
    by_cases old : k < n
    · have member : m.var k ∈ w.receiver.putAll.toApp.filter fun v => v.sid == m.sid := by
        rw [holds'.app]
        exact List.mem_map_of_mem (mem_range.mpr old)
      exact app (mem_filter.mp member).1
    · exact all m.sid.toNat known (m.tsnOf k) (m.var k)
        ((holds'.queued.delivery _ _).mpr ⟨k, by omega, by omega, rfl, rfl⟩)

theorem Inv.step (inv : w.Inv m) {e : StreamEvent} (scope : w.InScope m e) (line : w.InLine m e) :
    Yields (w.step m e) (Inv m) := by
  obtain ⟨⟨n, c, holds⟩, known, few⟩ := inv
  have length := delivered_length holds
  have same : ∀ {a : SCTPReceiver} {arrived : List Nat} {n c : Nat},
    a.inboundStreams = w.receiver.inboundStreams →
      m.Holds arrived n c a → Inv m ⟨a, arrived⟩ := fun {a arrived n c} streams holds =>
    ⟨⟨n, c, holds⟩, by rwa [streams], by rwa [streams]⟩
  cases e with
  | message k =>
    refine .map fun a accepted => ?_
    obtain ⟨c', holds'⟩ := holds.message scope.1 (length ▸ scope.2) a accepted
    exact same (accept_inboundStreams a accepted) holds'
  | other dataChunk =>
    refine .map fun a accepted => ?_
    obtain ⟨c', holds'⟩ := holds.other scope a accepted
    exact same (accept_inboundStreams a accepted) holds'
  | push =>
    refine .map fun a pushed => ?_
    obtain ⟨n', -, c', holds'⟩ :=
      (m.kept_holds (length ▸ line)).pushUlp ⟨n, le_rfl, c, holds⟩ a pushed
    exact same ((kept_inboundStreams w.receiver.inboundStreams).pushUlp rfl a pushed) holds'

theorem Inv.start (initPeerTsn : UInt32) {inboundStreams : Nat} (localRwnd : UInt64)
    (messagesToPush swsLimit assocPmtu pmtu : UInt32) (known : m.sid.toNat < inboundStreams)
    (few : inboundStreams ≤ 100) :
    Inv m ⟨.start initPeerTsn inboundStreams localRwnd messagesToPush swsLimit assocPmtu pmtu,
      []⟩ := by
  refine ⟨⟨0, 0, ⟨le_rfl, ?_, ?_, ?_, ?_, rfl⟩, rfl, fun sid => ?_⟩, known, few⟩
  · exact fun k less => absurd less (Nat.not_lt_zero k)
  · exact fun k member => absurd member not_mem_nil
  · intro t v
    simp [SCTPReceiver.start, getVar, KeyMap.find?]
  · intro t v
    simp [SCTPReceiver.start, getVar, KeyMap.find?]
  · constructor <;> simp [SCTPReceiver.start, SCTPQueue.All, getVar, KeyMap.find?]

end Receiving

/-- Messages come in sequence, if the TSNs of those the application could get are in order as plain
numbers whenever it is served. -/
theorem stream_in_sequence {m : OrderedMessages} {initPeerTsn : UInt32} {inboundStreams : Nat}
    {localRwnd : UInt64} {messagesToPush swsLimit assocPmtu pmtu : UInt32} {es : List StreamEvent}
    (known : m.sid.toNat < inboundStreams)
    (few : inboundStreams ≤ 100)
    (each : Each (Receiving.Next m) (fun w e => w.InScope m e ∧ w.InLine m e)
      ⟨.start initPeerTsn inboundStreams localRwnd messagesToPush swsLimit assocPmtu pmtu, []⟩ es) :
    Always (Receiving.Next m) (Receiving.InSequence m)
      ⟨.start initPeerTsn inboundStreams localRwnd messagesToPush swsLimit assocPmtu pmtu,
        []⟩ es := by
  apply always_of_each _ _ (Receiving.Inv.start initPeerTsn localRwnd messagesToPush swsLimit
    assocPmtu pmtu known few) each
  · exact fun w e w' inv meets next => inv.step meets.1 meets.2 w' next
  · exact fun w inv => inv.inSequence

variable (m : OrderedMessages)

theorem OrderedMessages.line_iff (arrived : List Nat) (n : Nat) :
    m.Line arrived n ↔ ∀ j ∈ arrived, ∀ i < j, n ≤ i → (∀ k < j + 1, k ∈ arrived) →
    m.tsnOf i < m.tsnOf j := by
  constructor
  · exact fun line j _ i less low all => line i j low less fun k le => all k (Nat.lt_succ_of_le le)
  · exact fun line i j low less all => line j (all j le_rfl) i less low fun k le =>
      all k (Nat.le_of_lt_succ le)

instance (arrived : List Nat) (n : Nat) : Decidable (m.Line arrived n) :=
  decidable_of_iff' _ (m.line_iff arrived n)

instance (w : Receiving) (e : StreamEvent) : Decidable (w.InScope m e) :=
  match e with
  | .message _ => inferInstanceAs (Decidable (_ ∧ _))
  | .other _ => inferInstanceAs (Decidable (_ ≠ _))
  | .push => .isTrue trivial

instance (w : Receiving) (e : StreamEvent) : Decidable (w.InLine m e) :=
  match e with
  | .push => inferInstanceAs (Decidable (m.Line _ _))
  | .message _ | .other _ => .isTrue trivial

def Receiving.after (w : Receiving) (e : StreamEvent) : Receiving :=
  (w.step m e).toOption.getD w

theorem Receiving.Next.eq_after {m : OrderedMessages} {w w' : Receiving} {e : StreamEvent}
    (next : w.Next m e w') : w.after m e = w' := by
  rw [Receiving.after, show w.step m e = .ok w' from next]
  rfl

def OrderedMessages.consecutive (base : UInt32) : OrderedMessages where
  sid := 0
  base := base
  offset := id
  ppid := fun _ => 0
  userData := fun _ => ⟨1, [7], 1⟩
  increasing := strictMono_id
  half := by
    intro i j _ less
    simp only [id]
    omega

theorem stream_in_sequence_three :
    Always (Receiving.Next (.consecutive 5)) (Receiving.InSequence (.consecutive 5))
      ⟨.start 5 1 65536 0 0 1500 1500, []⟩ [.message 1, .message 0, .push] := by
  apply stream_in_sequence (by decide) (by decide)
  iterate 3 refine .cons (fun _ next => next.eq_after) (by decide) ?_
  trivial

/-- Two messages on both sides of TSN 0 come to the application in the wrong order. -/
theorem stream_not_in_sequence : ¬ ∀ (m : OrderedMessages) (initPeerTsn : UInt32)
    (inboundStreams : Nat) (localRwnd : UInt64) (messagesToPush swsLimit assocPmtu pmtu : UInt32)
    (es : List StreamEvent),
    m.sid.toNat < inboundStreams → inboundStreams ≤ 100 →
    Each (Receiving.Next m) (fun w e => w.InScope m e)
      ⟨.start initPeerTsn inboundStreams localRwnd messagesToPush swsLimit assocPmtu pmtu, []⟩ es →
    Always (Receiving.Next m) (Receiving.InSequence m)
      ⟨.start initPeerTsn inboundStreams localRwnd messagesToPush swsLimit assocPmtu pmtu,
        []⟩ es := by
  intro all
  have along :=
    all (.consecutive 0xFFFFFFFF) 0xFFFFFFFF 1 65536 0 0 1500 1500 [.message 0, .message 1, .push]
    (by decide) (by decide) ?_
  · have order : ([StreamEvent.message 0, .message 1, .push].foldlM
        (fun (w : Receiving) e => (w.step (.consecutive 0xFFFFFFFF) e).toOption)
        ⟨.start 0xFFFFFFFF 1 65536 0 0 1500 1500, []⟩).map
          (fun w => (w.delivered (.consecutive 0xFFFFFFFF)).map fun v => v.numbers) =
          some [[1], [0]] := by
      decide +kernel
    obtain ⟨w, ran, numbers⟩ := Option.map_eq_some_iff.mp order
    have sequence := (along.last (fun _ _ _ => eq_ok_of_toOption) ran).in_order
    have length : (w.delivered (.consecutive 0xFFFFFFFF)).length = 2 := by
      simpa using congrArg List.length numbers
    rw [sequence, length] at numbers
    revert numbers
    decide
  · iterate 3 refine .cons (fun _ next => next.eq_after) (by decide) ?_
    trivial

end Srwsn
