import Srwsn.Sctp.ReceiveStream

/-! The fragments of one message at an SCTP receive stream. -/
namespace Srwsn

open Outcome Serial SCTPReceiveStream SCTPQueue KeyMap List

/-- A user message cut into fragments, none of them empty, from TSN `tsn` on. -/
structure FragmentedMessage where
  parts : List (List UInt8)
  tsn : UInt32
  sid : UInt16
  ssn : UInt16
  ppid : UInt32
  ordered : Bool
  some_part : parts ≠ []
  no_empty : ∀ part ∈ parts, part ≠ []
  short : parts.flatten.length < 2 ^ 29

namespace FragmentedMessage

variable (m : FragmentedMessage)

def count : Nat := m.parts.length

def tsnOf (k : Nat) : UInt32 := m.tsn + UInt32.ofNat k

def last : UInt32 := m.tsnOf (m.count - 1)

def fragment (k : Nat) : SCTPDataVariables where
  userData :=
    { dataLen := UInt32.ofNat (m.parts.getD k []).length
      data := m.parts.getD k []
      byteLength := (m.parts.getD k []).length }
  bbit := k == 0
  ebit := k + 1 == m.count
  ordered := m.ordered
  len := UInt32.ofNat (8 * (m.parts.getD k []).length)
  tsn := m.tsnOf k
  sid := m.sid
  ssn := m.ssn
  ppid := m.ppid
  numbers := [k]

def arrive (ks : List Nat) (rStream : SCTPReceiveStream) : Except SctpFault SCTPReceiveStream :=
  ks.foldlM (fun rStream k => (rStream.enqueueNewDataChunk (m.fragment k)).map Prod.snd) rStream

/-- Nothing goes to the delivery queue before the last arrival, and then the message as a whole. -/
structure Delivered (m : FragmentedMessage) (ks : List Nat) (rStream : SCTPReceiveStream) :
    Prop where
  before : ∀ j < m.count, ∃ later, m.arrive (ks.take j) rStream = .ok later ∧
    later.deliveryQ = rStream.deliveryQ
  after : ∃ later message, m.arrive ks rStream = .ok later ∧
    rStream.deliveryQ.getVar message.tsn = none ∧
    later.deliveryQ = rStream.deliveryQ.insert message.tsn message ∧
    message.userData.data = m.parts.flatten

/-- The stream has nothing under the TSNs of the message, and if the message is ordered, it is the
one expected. -/
structure Ready (m : FragmentedMessage) (rStream : SCTPReceiveStream) : Prop where
  ordered_free : ∀ k < m.count, rStream.orderedQ.getVar (m.tsnOf k) = none
  unordered_free : ∀ k < m.count, rStream.unorderedQ.getVar (m.tsnOf k) = none
  delivery_free : ∀ k < m.count, rStream.deliveryQ.getVar (m.tsnOf k) = none
  expected : m.ordered = true → UInt16.ofNat rStream.expectedStreamSeqNum = m.ssn
  only : m.ordered = true → ∀ e ∈ rStream.orderedQ.entries, ¬ e.2.Complete m.ssn

section Tsns

variable (m : FragmentedMessage)

theorem length_le_flatten {parts : List (List UInt8)} (no_empty : ∀ part ∈ parts, part ≠ []) :
    parts.length ≤ parts.flatten.length := by
  induction parts with
  | nil => exact le_rfl
  | cons part parts ih =>
    have head := length_pos_of_ne_nil (no_empty part mem_cons_self)
    have rest := ih fun p member => no_empty p (mem_cons_of_mem part member)
    simp only [length_cons, flatten_cons, length_append]
    omega

theorem count_lt : m.count < 2 ^ 29 := (length_le_flatten m.no_empty).trans_lt m.short

theorem count_pos : 0 < m.count := length_pos_of_ne_nil m.some_part

variable {m} {j k : Nat}

theorem tsnOf_inj (hj : j < m.count) (hk : k < m.count) : m.tsnOf j = m.tsnOf k ↔ j = k := by
  have bound := m.count_lt
  simp only [tsnOf, add_right_inj, ← UInt32.toNat_inj, UInt32.toNat_ofNat']
  omega

theorem tsnOf_succ (m : FragmentedMessage) (k : Nat) : m.tsnOf (k + 1) = m.tsnOf k + 1 := by
  simp only [tsnOf, UInt32.ofNat_add, add_assoc]
  rfl

theorem tsnOf_pred (m : FragmentedMessage) (k : Nat) : m.tsnOf (k + 1) - 1 = m.tsnOf k := by
  rw [tsnOf_succ, add_sub_cancel_right]

end Tsns

section Walks

variable {m : FragmentedMessage} {q : SCTPQueue} {k d : Nat}

theorem firstFragment_eq (steps : ∀ i < d, ∃ v, q.getVar (m.tsnOf (k + d - i)) = some v ∧
    v.bbit = false)
    (stop : ∀ v, q.getVar (m.tsnOf k) = some v → v.bbit = true) {fuel : Nat} (enough : d < fuel) :
    firstFragment q fuel (m.tsnOf (k + d)) = .ok (m.tsnOf k) := by
  induction d generalizing fuel with
  | zero =>
    obtain ⟨fuel, rfl⟩ := Nat.exists_eq_succ_of_ne_zero enough.ne'
    unfold firstFragment
    split
    · rename_i v found
      exact if_pos (stop v found)
    · rfl
  | succ d ih =>
    obtain ⟨fuel, rfl⟩ := Nat.exists_eq_succ_of_ne_zero (Nat.ne_zero_of_lt enough)
    obtain ⟨v, found, inner⟩ := steps 0 (Nat.succ_pos d)
    have next : m.tsnOf (k + (d + 1)) - 1 = m.tsnOf (k + d) := m.tsnOf_pred (k + d)
    rw [Nat.sub_zero] at found
    unfold firstFragment
    simp only [found, inner, Bool.false_eq_true, if_false, next]
    refine ih (fun i less => ?_) (Nat.lt_of_succ_lt_succ enough)
    obtain ⟨v, found, inner⟩ := steps (i + 1) (Nat.succ_lt_succ less)
    exact ⟨v, by rwa [show k + (d + 1) - (i + 1) = k + d - i by omega] at found, inner⟩

theorem lastFragment_eq (steps : ∀ i < d, ∃ v, q.getVar (m.tsnOf (k + i)) = some v ∧ v.ebit = false)
    (stop : ∀ v, q.getVar (m.tsnOf (k + d)) = some v → v.ebit = true) {fuel : Nat}
    (enough : d < fuel) :
    lastFragment q fuel (m.tsnOf k) = .ok (m.tsnOf (k + d)) := by
  induction d generalizing fuel k with
  | zero =>
    obtain ⟨fuel, rfl⟩ := Nat.exists_eq_succ_of_ne_zero enough.ne'
    unfold lastFragment
    split
    · rename_i v found
      exact if_pos (stop v found)
    · rfl
  | succ d ih =>
    obtain ⟨fuel, rfl⟩ := Nat.exists_eq_succ_of_ne_zero (Nat.ne_zero_of_lt enough)
    obtain ⟨v, found, inner⟩ := steps 0 (Nat.succ_pos d)
    have shift : ∀ i, k + 1 + i = k + (i + 1) := fun i => by omega
    unfold lastFragment
    simp only [show q.getVar (m.tsnOf k) = some v from found, inner, Bool.false_eq_true, if_false,
      ← m.tsnOf_succ]
    rw [← shift d]
    refine ih (fun i less => ?_) (by rwa [shift d]) (Nat.lt_of_succ_lt_succ enough)
    rw [shift i]
    exact steps (i + 1) (Nat.succ_lt_succ less)

end Walks

section Merging

variable {m : FragmentedMessage} {i : Nat}

structure MergedUpTo (m : FragmentedMessage) (i : Nat) (v : SCTPDataVariables) : Prop where
  data : v.userData.data = (m.parts.take (i + 1)).flatten
  len : v.len = UInt32.ofNat (8 * (m.parts.take (i + 1)).flatten.length)
  bbit : v.bbit = true
  ssn : v.ssn = m.ssn
  tsn : v.tsn = m.tsnOf 0

theorem take_flatten_succ (inside : i < m.count) :
    (m.parts.take (i + 1)).flatten = (m.parts.take i).flatten ++ m.parts.getD i [] := by
  rw [take_add_one, flatten_append, getD_eq_getElem?_getD, getElem?_eq_getElem inside]
  simp

theorem take_flatten_short (m : FragmentedMessage) (i : Nat) :
    (m.parts.take i).flatten.length < 2 ^ 29 := by
  have whole := congrArg List.length (congrArg List.flatten (take_append_drop i m.parts))
  have short := m.short
  simp only [flatten_append, length_append] at whole
  omega

theorem mergedUpTo_zero (m : FragmentedMessage) : MergedUpTo m 0 (m.fragment 0) := by
  have first : (m.parts.take 1).flatten = m.parts.getD 0 [] := by
    rw [take_flatten_succ m.count_pos]
    rfl
  exact ⟨first.symm, by rw [Nat.zero_add, first]; rfl, rfl, rfl, rfl⟩

theorem append_fragment {v : SCTPDataVariables} (merged : MergedUpTo m i v)
    (inside : i + 1 < m.count) :
    ∃ v', v.append (m.fragment (i + 1)) = .ok v' ∧ MergedUpTo m (i + 1) v' := by
  have short := take_flatten_short m (i + 2)
  rw [take_flatten_succ inside, length_append] at short
  have offset : (v.len / 8).toNat = v.userData.data.length := by
    rw [merged.len, merged.data, UInt32.toNat_div, UInt32.toNat_ofNat']
    simp only [UInt32.reduceToNat]
    omega
  have count : ((m.fragment (i + 1)).len / 8).toNat =
      (m.fragment (i + 1)).userData.data.length := by
    simp only [fragment, UInt32.toNat_div, UInt32.toNat_ofNat', UInt32.reduceToNat]
    omega
  refine ⟨_, if_neg ?_, ⟨?_, ?_, merged.bbit, merged.ssn, merged.tsn⟩⟩
  · rw [offset, count, length_append, length_replicate]
    omega
  · simp only [offset, count, take_left, take_length, ← drop_drop, drop_left]
    rw [drop_eq_nil_of_le (by simp), append_nil, merged.data, take_flatten_succ inside]
    rfl
  · rw [take_flatten_succ inside, length_append, Nat.mul_add, UInt32.ofNat_add, ← merged.len]
    rfl

theorem mergeFragments_eq {q : SCTPQueue} {v : SCTPDataVariables} {fuel left : Nat}
    (rest : i + 1 + left = m.count) (merged : MergedUpTo m i v)
    (found : ∀ k < m.count, i < k → q.getVar (m.tsnOf k) = some (m.fragment k))
    (up : ∀ k, i ≤ k → k + 1 < m.count → m.tsnOf k + 1 ≤ m.last) (stop : ¬ m.last + 1 ≤ m.last)
    (enough : left < fuel) :
    ∃ v' q', mergeFragments m.last fuel (m.tsnOf i) v q = .ok (v', q') ∧
      MergedUpTo m (m.count - 1) v' ∧ (∀ k < m.count, i < k → q'.getVar (m.tsnOf k) = none) ∧
      ∀ t, (∀ k < m.count, i < k → t ≠ m.tsnOf k) → q'.getVar t = q.getVar t := by
  obtain ⟨fuel, rfl⟩ := Nat.exists_eq_succ_of_ne_zero (Nat.ne_zero_of_lt enough)
  induction left generalizing i v q fuel with
  | zero =>
    have done : i = m.count - 1 := by omega
    refine ⟨v, q, ?_, done ▸ merged, fun k less beyond => by omega, fun t _ => rfl⟩
    rw [mergeFragments, if_neg (by rw [done]; exact stop)]
  | succ left ih =>
    obtain ⟨v₁, appended, merged₁⟩ := append_fragment merged (by omega)
    have here : q.getVar (m.tsnOf i + 1) = some (m.fragment (i + 1)) := by
      rw [← tsnOf_succ]
      exact found (i + 1) (by omega) (by omega)
    obtain ⟨fuel, rfl⟩ := Nat.exists_eq_succ_of_ne_zero (n := fuel) (by omega)
    have found' : ∀ k < m.count, i + 1 < k →
        getVar (q.erase (m.tsnOf (i + 1))) (m.tsnOf k) = some (m.fragment k) := by
      intro k less beyond
      rw [getVar, find?_erase, if_neg (by rw [tsnOf_inj less (by omega)]; omega)]
      exact found k less (by omega)
    obtain ⟨v', q', ran, merged', gone, others⟩ := @ih (i + 1) _ v₁ (by omega) merged₁ found'
      (fun k le less => up k (by omega) less) fuel (by omega)
    refine ⟨v', q', ?_, merged', fun k less beyond => ?_, fun t apart => ?_⟩
    · rw [mergeFragments, if_pos (up i le_rfl (by omega)), getAndExtractMessage, here]
      change v.append (m.fragment (i + 1)) >>= _ = _
      rw [appended, ← tsnOf_succ]
      exact ran
    · rcases Nat.eq_or_lt_of_le (Nat.succ_le_of_lt beyond) with rfl | later
      · rw [others _ fun k' less' beyond' => ?_]
        · simp [getVar]
        · rw [Ne, tsnOf_inj less less']
          omega
      · exact gone k less later
    · rw [others t fun k less beyond => apart k less (by omega), getVar, find?_erase,
        if_neg (apart (i + 1) (by omega) (by omega))]
      rfl

/-- With the last TSN at the end of the numbers the loop does not return. -/
theorem mergeFragments_ne_ok (fuel : Nat) (begintsn : UInt32) (v : SCTPDataVariables)
    (q : SCTPQueue) (r : SCTPDataVariables × SCTPQueue) :
    mergeFragments 0xFFFFFFFF fuel begintsn v q ≠ .ok r := by
  induction fuel generalizing begintsn v q with
  | zero => nofun
  | succ fuel ih =>
    have always : begintsn + 1 ≤ 0xFFFFFFFF := by
      rw [UInt32.le_iff_toNat_le]
      have bound := (begintsn + 1).toNat_lt
      simp only [UInt32.reduceToNat]
      omega
    rw [mergeFragments, if_pos always]
    intro done
    obtain ⟨extracted, -, rest⟩ := bind_eq_ok done
    obtain ⟨v', -, rest⟩ := bind_eq_ok rest
    exact ih _ _ _ rest

end Merging

section Ordered

variable {m : FragmentedMessage} {rStream st : SCTPReceiveStream} {ks : List Nat} {k : Nat}

/-- The stream with the fragments `ks` waiting. -/
structure Holding (m : FragmentedMessage) (rStream : SCTPReceiveStream) (ks : List Nat)
    (st : SCTPReceiveStream) : Prop where
  mine : ∀ k < m.count, st.orderedQ.getVar (m.tsnOf k) = if k ∈ ks then some (m.fragment k)
    else none
  others : ∀ t, (∀ k < m.count, t ≠ m.tsnOf k) → st.orderedQ.getVar t = rStream.orderedQ.getVar t
  deliveryQ : st.deliveryQ = rStream.deliveryQ
  expected : st.expectedStreamSeqNum = rStream.expectedStreamSeqNum

abbrev stored (m : FragmentedMessage) (st : SCTPReceiveStream) (k : Nat) : SCTPQueue :=
  st.orderedQ.insert (m.tsnOf k) (m.fragment k)

theorem fragment_inner (several : 2 ≤ m.count) : ¬ ((m.fragment k).bbit && (m.fragment k).ebit) =
    true := by
  intro both
  obtain ⟨first, last⟩ := Bool.and_eq_true_iff.mp both
  have zero : k = 0 := eq_of_beq first
  have all : k + 1 = m.count := eq_of_beq last
  omega

theorem Ready.holding (ready : Ready m rStream) : Holding m rStream [] rStream where
  mine := fun k less => by simp [ready.ordered_free k less]
  others := fun _ _ => rfl
  deliveryQ := rfl
  expected := rfl

section Holding

variable (holding : Holding m rStream ks st)

include holding

theorem Holding.congr {ks' : List Nat} (same : ∀ k, k ∈ ks ↔ k ∈ ks') :
    Holding m rStream ks' st := by
  refine ⟨fun k less => ?_, holding.others, holding.deliveryQ, holding.expected⟩
  rw [holding.mine k less]
  simp only [same]

theorem Holding.insert (inside : k < m.count) (new : k ∉ ks) :
    st.orderedQ.getVar (m.tsnOf k) = none ∧
    Holding m rStream (k :: ks) { st with orderedQ := m.stored st k } := by
  have free := holding.mine k inside
  rw [if_neg new] at free
  refine ⟨free, fun j less => ?_, fun t apart => ?_, holding.deliveryQ, holding.expected⟩
  · have before := holding.mine j less
    simp only [getVar, find?_insert, tsnOf_inj less inside, mem_cons] at before ⊢
    by_cases same : j = k
    · simp [same]
    · simp [same, before]
  · have before := holding.others t apart
    simp only [getVar, find?_insert] at before ⊢
    rw [if_neg (apart k inside), before]

theorem Holding.enqueue_eq (ordered : m.ordered = true) (several : 2 ≤ m.count)
    (inside : k < m.count) (new : k ∉ ks) :
    st.enqueueNewDataChunk (m.fragment k) = (reassemble (m.stored st k) (m.tsnOf k)).map fun r =>
      deliverExpected 3 { st with orderedQ := r.2 } := by
  have equation := @enqueue_ordered_fragment (m.fragment k) st ordered (fragment_inner several)
  rwa [show (m.fragment k).tsn = m.tsnOf k from rfl,
    checkAndInsertVar_new (holding.insert inside new).1] at equation

theorem Holding.le_size {n : Nat} (f : Nat → Nat)
    (distinct : ∀ i < n, ∀ j < n, f i = f j → i = j) (waiting : ∀ i < n, f i < m.count ∧ f i ∈ ks) :
    n ≤ st.orderedQ.getQueueSize := by
  apply length_le (f := fun i => m.tsnOf (f i))
  · exact fun i hi j hj same =>
      distinct i hi j hj ((tsnOf_inj (waiting i hi).1 (waiting j hj).1).mp same)
  · intro i hi
    have found := holding.mine (f i) (waiting i hi).1
    rw [if_pos (waiting i hi).2] at found
    exact fun none => Option.some_ne_none _ (found.symm.trans none)

theorem Holding.firstFragment (inside : k < m.count) {b : Nat} (le : b ≤ k)
    (between : ∀ i, b < i → i ≤ k → i ∈ ks) (stop : b ∈ ks → b = 0) :
    firstFragment st.orderedQ (st.orderedQ.getQueueSize + 1) (m.tsnOf k) = .ok (m.tsnOf b) := by
  have size : k - b ≤ st.orderedQ.getQueueSize :=
    holding.le_size (fun i => k - i) (fun i hi j hj same => by omega) fun i hi =>
      ⟨by omega, between (k - i) (by omega) (by omega)⟩
  obtain ⟨d, rfl⟩ := Nat.exists_eq_add_of_le le
  refine firstFragment_eq (fun i less => ?_) (fun v found => ?_) (by omega)
  · have found := holding.mine (b + d - i) (by omega)
    rw [if_pos (between _ (by omega) (by omega))] at found
    exact ⟨_, found, beq_false_of_ne (by omega)⟩
  · rw [holding.mine b (by omega)] at found
    split_ifs at found with waiting
    · cases found
      simp [fragment, stop waiting]

theorem Holding.lastFragment {e : Nat} (inside : e < m.count)
    (below : ∀ i < e, i ∈ ks) (stop : e ∈ ks → e + 1 = m.count) :
    lastFragment st.orderedQ (st.orderedQ.getQueueSize + 1) (m.tsnOf 0) = .ok (m.tsnOf e) := by
  have size : e ≤ st.orderedQ.getQueueSize :=
    holding.le_size id (fun i _ j _ => id) fun i hi => ⟨hi.trans inside, below i hi⟩
  have walk := @lastFragment_eq m st.orderedQ 0 e (fun i less => ?_) (fun v found => ?_)
    (st.orderedQ.getQueueSize + 1) (by omega)
  · rwa [Nat.zero_add] at walk
  · have found := holding.mine i (less.trans inside)
    rw [if_pos (below i less)] at found
    exact ⟨m.fragment i, by rwa [Nat.zero_add], beq_false_of_ne (by omega)⟩
  · rw [Nat.zero_add, holding.mine e inside] at found
    split_ifs at found with waiting
    · cases found
      simp [fragment, stop waiting]

theorem Holding.reassemble_missing (inside : k < m.count) (missing : ∃ j < m.count, j ∉ ks) :
    reassemble st.orderedQ (m.tsnOf k) = .ok (m.tsnOf k, st.orderedQ) := by
  classical
  let b := Nat.findGreatest (fun b => b ∉ ks ∨ b = 0) k
  have stop : b ∉ ks ∨ b = 0 :=
    Nat.findGreatest_spec (P := fun b => b ∉ ks ∨ b = 0) (Nat.zero_le k) (.inr rfl)
  have between : ∀ i, b < i → i ≤ k → i ∈ ks := by
    intro i low high
    have inner := Nat.findGreatest_is_greatest low high
    simpa using (not_or.mp inner).1
  have le : b ≤ k := Nat.findGreatest_le k
  have first :=
    holding.firstFragment inside le between fun waiting => stop.resolve_left (not_not.mpr waiting)
  have here := holding.mine b (le.trans_lt inside)
  split_ifs at here with waiting
  · have zero : b = 0 := stop.resolve_left (not_not.mpr waiting)
    have least := Nat.find_spec missing
    have below : ∀ i < Nat.find missing, i ∈ ks := by
      intro i less
      have inner := Nat.find_min missing less
      simpa [less.trans least.1] using inner
    have last := holding.lastFragment least.1 below fun waiting => absurd waiting least.2
    have gap := holding.mine (Nat.find missing) least.1
    rw [if_neg least.2] at gap
    rw [zero] at first here
    exact reassemble_of_last_missing first here last gap
  · exact reassemble_of_first_missing first here

theorem Holding.reassemble_complete (inside : k < m.count) (all : ∀ j < m.count, j ∈ ks) :
    reassemble st.orderedQ (m.tsnOf k) =
      (mergeFragments m.last (st.orderedQ.getQueueSize + 1) (m.tsnOf 0) (m.fragment 0)
        (st.orderedQ.erase (m.tsnOf 0))).map
        fun merged => (merged.1.tsn,
          merged.2.insert (m.tsnOf 0) { merged.1 with ebit := true }) := by
  have pos := m.count_pos
  have first := holding.firstFragment inside (Nat.zero_le k)
    (fun i _ le => all i (le.trans_lt inside)) fun _ => rfl
  have last := holding.lastFragment (e := m.count - 1) (by omega) (fun i less => all i (by omega))
    fun _ => by omega
  have found := holding.mine 0 pos
  have end_found := holding.mine (m.count - 1) (by omega)
  rw [if_pos (all _ (by omega))] at found end_found
  exact reassemble_of_found first found last end_found

end Holding

def Straight (m : FragmentedMessage) : Prop := m.tsn + 1 ≤ m.last ∧ m.last ≠ 0xFFFFFFFF
  deriving Decidable

theorem tsnOf_add_one_toNat (m : FragmentedMessage) (k : Nat) :
    (m.tsnOf k + 1).toNat = ((m.tsn + 1).toNat + k) % 2 ^ 32 := by
  simp only [tsnOf, UInt32.toNat_add, UInt32.toNat_ofNat', UInt32.reduceToNat]
  omega

theorem Straight.up (straight : m.Straight) (inside : k + 1 < m.count) :
    m.tsnOf k + 1 ≤ m.last := by
  have bound := m.count_lt
  have last : m.last.toNat = ((m.tsn + 1).toNat + (m.count - 2)) % 2 ^ 32 := by
    rw [← tsnOf_add_one_toNat, ← tsnOf_succ, last, show m.count - 2 + 1 = m.count - 1 by omega]
  have low := straight.1
  have below := (m.tsn + 1).toNat_lt
  rw [UInt32.le_iff_toNat_le] at low ⊢
  rw [tsnOf_add_one_toNat]
  omega

theorem Straight.stop (straight : m.Straight) : ¬ m.last + 1 ≤ m.last := by
  have other := straight.2
  have below := m.last.toNat_lt
  rw [Ne, ← UInt32.toNat_inj] at other
  rw [UInt32.le_iff_toNat_le, UInt32.toNat_add]
  simp only [UInt32.reduceToNat] at *
  omega

variable {q : SCTPQueue} {v : SCTPDataVariables}

theorem dequeue_merged (ssn : v.ssn = m.ssn) (bbit : v.bbit = true)
    (gone : ∀ e ∈ q.entries, e.1 ≠ m.tsnOf 0 → ¬ e.2.Complete m.ssn) :
    dequeueVarBySsn (q.insert (m.tsnOf 0) { v with ebit := true }) m.ssn =
      some ({ v with ebit := true }, (q.insert (m.tsnOf 0) { v with ebit := true }).erase
        (m.tsnOf 0)) := by
  have member : (m.tsnOf 0, { v with ebit := true }) ∈
      (q.insert (m.tsnOf 0) { v with ebit := true }).entries :=
    find?_eq_some_iff.mp (by simp)
  refine dequeueVarBySsn_eq member ⟨ssn, bbit, rfl⟩ fun e inside complete => ?_
  have found := find?_eq_some_iff.mpr inside
  rw [find?_insert] at found
  split_ifs at found with same
  · exact Prod.ext same (Option.some.inj found).symm
  · exact absurd complete (gone e (find?_eq_some_iff.mp found) same)

variable (holding : Holding m rStream ks st) (ready : Ready m rStream) (ordered : m.ordered = true)

include holding ready ordered

theorem Holding.not_other {e : UInt32 × SCTPDataVariables} (member : e ∈ st.orderedQ.entries)
    (outside : ∀ k < m.count, e.1 ≠ m.tsnOf k) : ¬ e.2.Complete m.ssn := by
  have found : st.orderedQ.getVar e.1 = some e.2 := find?_eq_some_iff.mpr member
  rw [holding.others e.1 outside] at found
  exact ready.only ordered e (find?_eq_some_iff.mp found)

theorem Holding.none_complete (several : 2 ≤ m.count) :
    ∀ e ∈ st.orderedQ.entries, ¬ e.2.Complete (UInt16.ofNat st.expectedStreamSeqNum) := by
  intro e member
  rw [holding.expected, ready.expected ordered]
  by_cases mine : ∃ k < m.count, e.1 = m.tsnOf k
  · obtain ⟨k, less, here⟩ := mine
    have found : st.orderedQ.getVar e.1 = some e.2 := find?_eq_some_iff.mpr member
    rw [here, holding.mine k less] at found
    split_ifs at found
    · rw [← Option.some.inj found]
      exact fun complete => fragment_inner several (Bool.and_eq_true_iff.mpr complete.2)
  · exact holding.not_other ready ordered member fun k less same => mine ⟨k, less, same⟩

theorem Holding.enqueue_missing (inside : k < m.count) (new : k ∉ ks)
    (missing : ∃ j < m.count, j ∉ k :: ks) :
    ∃ st', st.enqueueNewDataChunk (m.fragment k) = .ok (3, st') ∧
    Holding m rStream (k :: ks) st' := by
  have several : 2 ≤ m.count := by
    obtain ⟨j, less, other⟩ := missing
    have : j ≠ k := fun same => other (same ▸ mem_cons_self)
    omega
  obtain ⟨-, holding'⟩ := holding.insert inside new
  refine ⟨_, ?_, holding'⟩
  rw [holding.enqueue_eq ordered several inside new, holding'.reassemble_missing inside missing]
  exact congrArg Except.ok (deliverExpected_of_none (holding'.none_complete ready ordered several))

variable (several : 2 ≤ m.count) (inside : k < m.count) (new : k ∉ ks)
  (all : ∀ j < m.count, j ∈ k :: ks)

include several

theorem Holding.gone (smaller : ∀ t ≠ m.tsnOf 0, ∀ v, q.getVar t = some v →
      st.orderedQ.getVar t = some v) : ∀ e ∈ q.entries, e.1 ≠ m.tsnOf 0 → ¬ e.2.Complete m.ssn := by
  intro e member other
  have found := smaller e.1 other e.2 (find?_eq_some_iff.mpr member)
  have none := holding.none_complete ready ordered several e (find?_eq_some_iff.mp found)
  rwa [holding.expected, ready.expected ordered] at none

include inside new all

theorem Holding.enqueue_merged (merged : mergeFragments m.last
      ((m.stored st k).getQueueSize + 1) (m.tsnOf 0) (m.fragment 0)
      ((m.stored st k).erase (m.tsnOf 0)) = .ok (v, q))
    (ssn : v.ssn = m.ssn) (bbit : v.bbit = true) (tsn : v.tsn = m.tsnOf 0)
    (gone : ∀ e ∈ q.entries, e.1 ≠ m.tsnOf 0 → ¬ e.2.Complete m.ssn) :
    ∃ st', st.enqueueNewDataChunk (m.fragment k) = .ok (2, st') ∧
      st'.deliveryQ = rStream.deliveryQ.insert (m.tsnOf 0) { v with ebit := true } := by
  obtain ⟨-, holding'⟩ := holding.insert inside new
  have equation := holding.enqueue_eq ordered several inside new
  rw [holding'.reassemble_complete inside all, merged] at equation
  have free : st.deliveryQ.getVar v.tsn = none := by
    rw [tsn, holding.deliveryQ]
    exact ready.delivery_free 0 m.count_pos
  have dequeued := @dequeue_merged m q v ssn bbit gone
  rw [← ready.expected ordered, ← holding.expected] at dequeued
  refine ⟨_, equation.trans (congrArg Except.ok (deliverExpected_of_some dequeued free)), ?_⟩
  dsimp only
  rw [tsn, holding.deliveryQ]

theorem Holding.enqueue_last (straight : m.Straight) :
    ∃ st' v, st.enqueueNewDataChunk (m.fragment k) = .ok (2, st') ∧
      st'.deliveryQ = rStream.deliveryQ.insert (m.tsnOf 0) v ∧ v.tsn = m.tsnOf 0 ∧
      v.userData.data = m.parts.flatten := by
  obtain ⟨-, holding'⟩ := holding.insert inside new
  have size : m.count ≤ (m.stored st k).getQueueSize :=
    holding'.le_size id (fun i _ j _ => id) fun i less => ⟨less, all i less⟩
  have found : ∀ j < m.count, 0 < j →
      getVar ((m.stored st k).erase (m.tsnOf 0)) (m.tsnOf j) = some (m.fragment j) := by
    intro j less pos
    rw [getVar, find?_erase, if_neg (by rw [tsnOf_inj less m.count_pos]; omega)]
    exact (holding'.mine j less).trans (if_pos (all j less))
  obtain ⟨v, q, merged, upTo, taken, others⟩ :=
    mergeFragments_eq (Nat.add_sub_of_le m.count_pos) (mergedUpTo_zero m)
    found (fun j _ less => straight.up less) straight.stop
    (show m.count - 1 < (m.stored st k).getQueueSize + 1 by omega)
  have smaller : ∀ t ≠ m.tsnOf 0, ∀ v, q.getVar t = some v → (m.stored st k).getVar t = some v := by
    intro t other v here
    rw [others t fun j less pos same => ?_, getVar, find?_erase, if_neg other] at here
    · exact here
    · rw [same, taken j less pos] at here
      cases here
  obtain ⟨st', enqueued, delivered⟩ :=
    holding.enqueue_merged ready ordered several inside new all merged upTo.ssn
    upTo.bbit upTo.tsn (holding'.gone ready ordered several smaller)
  refine ⟨st', _, enqueued, delivered, upTo.tsn, ?_⟩
  have whole : m.count - 1 + 1 = m.parts.length := Nat.sub_add_cancel m.count_pos
  rw [upTo.data, whole, take_length]

theorem Holding.enqueue_crooked (crooked : ¬ m.Straight) {r : Nat × SCTPReceiveStream}
    (enqueued : st.enqueueNewDataChunk (m.fragment k) = .ok r) :
    r.2.deliveryQ = rStream.deliveryQ.insert (m.tsnOf 0) { m.fragment 0 with ebit := true } := by
  obtain ⟨-, holding'⟩ := holding.insert inside new
  have zero : m.tsnOf 0 = m.tsn := add_zero m.tsn
  rcases not_and_or.mp crooked with wrapped | last
  · have merged : mergeFragments m.last ((m.stored st k).getQueueSize + 1) (m.tsnOf 0)
        (m.fragment 0) ((m.stored st k).erase (m.tsnOf 0)) =
          .ok (m.fragment 0, (m.stored st k).erase (m.tsnOf 0)) := by
      rw [mergeFragments, if_neg (by rwa [zero])]
    have smaller : ∀ t ≠ m.tsnOf 0, ∀ v, getVar ((m.stored st k).erase (m.tsnOf 0)) t = some v →
          (m.stored st k).getVar t = some v := by
      intro t other v here
      rwa [getVar, find?_erase, if_neg other] at here
    obtain ⟨st', enqueued', delivered⟩ :=
      holding.enqueue_merged ready ordered several inside new all merged rfl rfl
      rfl (holding'.gone ready ordered several smaller)
    rw [Except.ok.inj (enqueued.symm.trans enqueued')]
    exact delivered
  · rw [holding.enqueue_eq ordered several inside new, holding'.reassemble_complete inside all,
      not_not.mp last] at enqueued
    obtain ⟨r₁, mapped, -⟩ := map_eq_ok enqueued
    obtain ⟨r₂, merged, -⟩ := map_eq_ok mapped
    exact absurd merged (mergeFragments_ne_ok _ _ _ _ r₂)

end Ordered

section Runs

variable {m : FragmentedMessage} {rStream st : SCTPReceiveStream} {ks l : List Nat} {k : Nat}

theorem arrive_cons (m : FragmentedMessage) (k : Nat) (l : List Nat) (st : SCTPReceiveStream) :
    m.arrive (k :: l) st = ((st.enqueueNewDataChunk (m.fragment k)).map Prod.snd).bind
    (m.arrive l) := rfl

theorem arrive_append (m : FragmentedMessage) (l l' : List Nat) (st : SCTPReceiveStream) :
    m.arrive (l ++ l') st = (m.arrive l st).bind (m.arrive l') := foldlM_append

theorem Holding.arrive (holding : Holding m rStream ks st) (ready : Ready m rStream)
    (ordered : m.ordered = true) (nodup : (l ++ ks).Nodup) (inside : ∀ k ∈ l, k < m.count)
    (missing : ∃ j < m.count, j ∉ l ++ ks) :
    ∃ st', m.arrive l st = .ok st' ∧ Holding m rStream (l ++ ks) st' := by
  induction l generalizing ks st with
  | nil => exact ⟨st, rfl, holding⟩
  | cons k l ih =>
    have shifted : ∀ j, j ∈ l ++ k :: ks ↔ j ∈ k :: l ++ ks := fun j => by simp [or_left_comm]
    have new : k ∉ ks := fun member =>
      (nodup_cons.mp nodup).1 (mem_append_right l member)
    obtain ⟨j, less, out⟩ := missing
    obtain ⟨st₁, enqueued, holding₁⟩ :=
      holding.enqueue_missing ready ordered (inside k mem_cons_self) new
      ⟨j, less, fun member => out (by simp at member ⊢; tauto)⟩
    obtain ⟨st', arrived, holding'⟩ := ih holding₁ (nodup_middle.mpr nodup)
      (fun k' member => inside k' (mem_cons_of_mem k member)) ⟨j, less,
        fun member => out ((shifted j).mp member)⟩
    refine ⟨st', ?_, holding'.congr shifted⟩
    rw [arrive_cons, enqueued]
    exact arrived

theorem Ready.free (ready : Ready m rStream) : rStream.deliveryQ.getVar (m.fragment 0).tsn = none :=
  ready.delivery_free 0 m.count_pos

theorem arrive_snoc (m : FragmentedMessage) (k : Nat) (arrived : m.arrive l rStream = .ok st) :
    m.arrive (l ++ [k]) rStream = (st.enqueueNewDataChunk (m.fragment k)).map Prod.snd := by
  rw [arrive_append, arrived]
  change m.arrive [k] st = _
  rw [arrive_cons]
  cases st.enqueueNewDataChunk (m.fragment k) <;> rfl

theorem arrive_unordered (ready : Ready m rStream) (unordered : m.ordered = false)
    (several : 2 ≤ m.count) (nodup : l.Nodup) (inside : ∀ k ∈ l, k < m.count) :
    ∃ st', m.arrive l rStream = .ok st' ∧ st'.orderedQ = rStream.orderedQ ∧
      (∀ k < m.count, k ∉ l → st'.unorderedQ.getVar (m.tsnOf k) = none) ∧
        st'.deliveryQ = if 0 ∈ l then rStream.deliveryQ.insert (m.tsnOf 0) (m.fragment 0)
        else rStream.deliveryQ := by
  induction l using List.reverseRecOn with
  | nil => exact ⟨rStream, rfl, rfl, fun k less _ => ready.unordered_free k less, by simp⟩
  | append_singleton l k ih =>
    have apart := nodup_append.mp nodup
    have new : k ∉ l := fun member => apart.2.2 k member k mem_cons_self rfl
    have less : k < m.count := inside k (by simp)
    obtain ⟨st, arrived, same, free, delivered⟩ :=
      ih apart.1 fun j member => inside j (by simp [member])
    have equation := @enqueue_unordered_fragment (m.fragment k) st unordered
      (fragment_inner several) (by rw [same]; exact ready.ordered_free k less) (free k less new)
    have still : ∀ j < m.count, j ∉ l ++ [k] → m.tsnOf j ≠ m.tsnOf k ∧
        st.unorderedQ.find? (m.tsnOf j) = none := by
      intro j inside' out
      rw [Ne, tsnOf_inj inside' less]
      exact ⟨fun equal => out (by simp [equal]), free j inside' fun member =>
        out (mem_append_left _ member)⟩
    have ran := arrive_snoc m k arrived
    rw [equation] at ran
    rcases Nat.eq_zero_or_pos k with rfl | pos
    · rw [if_neg new] at delivered
      rw [delivered, checkAndInsertVar_new ready.free, show (m.fragment 0).bbit = true from rfl]
        at ran
      refine ⟨_, ran, same, fun j inside' out => ?_, (if_pos (by simp)).symm⟩
      simp [fragment, getVar, still j inside' out]
    · have zero : 0 ∈ l ++ [k] ↔ 0 ∈ l := by simp [pos.ne]
      have inner' : (m.fragment k).bbit = false := beq_false_of_ne pos.ne'
      rw [inner'] at ran
      refine ⟨_, ran, same, fun j inside' out => ?_, ?_⟩
      · simp [fragment, getVar, still j inside' out]
      · simp only [zero]
        exact delivered

theorem first_ne_flatten (several : 2 ≤ m.count) : m.parts.getD 0 [] ≠ m.parts.flatten := by
  obtain ⟨part, part', parts, here⟩ : ∃ part part' parts, m.parts = part :: part' :: parts := by
    match here : m.parts, several with
    | part :: part' :: parts, _ => exact ⟨part, part', parts, rfl⟩
    | [], several | [_], several => simp [count, here] at several
  have second : part' ≠ [] := m.no_empty part' (by simp [here])
  simp [here, second]

theorem insert_inj {q : SCTPQueue} {t t' : UInt32} {v v' : SCTPDataVariables}
    (free : q.getVar t = none) (same : q.insert t v = q.insert t' v') : v = v' := by
  have found : (q.insert t' v').find? t = some v := by rw [← same]; simp
  rw [find?_insert] at found
  split_ifs at found
  · exact (Option.some.inj found).symm
  · exact absurd (free.symm.trans found) (by simp)

theorem not_delivered_of_first (several : 2 ≤ m.count) {v : SCTPDataVariables}
    (data : v.userData.data = m.parts.getD 0 [])
    (arrived : ∀ st, m.arrive ks rStream = .ok st → st.deliveryQ = rStream.deliveryQ.insert
      (m.tsnOf 0) v) :
    ¬ m.Delivered ks rStream := by
  intro delivered
  obtain ⟨st, message, ran, free, here, whole⟩ := delivered.after
  obtain rfl := insert_inj free (here.symm.trans (arrived st ran))
  exact first_ne_flatten several (data.symm.trans whole)

variable (ready : Ready m rStream)

include ready

theorem Ready.enqueue_single (single : m.count = 1) :
    ∃ st, rStream.enqueueNewDataChunk (m.fragment 0) = .ok (2, st) ∧
      st.deliveryQ = rStream.deliveryQ.insert (m.tsnOf 0) (m.fragment 0) := by
  have whole : ((m.fragment 0).bbit && (m.fragment 0).ebit) = true := by simp [fragment, single]
  cases ordered : m.ordered with
  | false =>
    have equation := @enqueue_unordered_whole (m.fragment 0) rStream ordered whole
    rw [checkAndInsertVar_new ready.free] at equation
    exact ⟨_, equation, rfl⟩
  | true =>
    obtain ⟨free, -⟩ := ready.holding.insert m.count_pos not_mem_nil
    have equation := @enqueue_ordered_whole (m.fragment 0) rStream ordered whole
    have complete : { m.fragment 0 with ebit := true } = m.fragment 0 := by simp [fragment, single]
    have dequeued := @dequeue_merged m rStream.orderedQ (m.fragment 0) rfl rfl fun e member _ =>
      ready.only ordered e member
    rw [complete, ← ready.expected ordered] at dequeued
    rw [show (m.fragment 0).tsn = m.tsnOf 0 from rfl, checkAndInsertVar_new free] at equation
    exact ⟨_, equation.trans (congrArg Except.ok (deliverExpected_of_some dequeued
      (ready.delivery_free 0 m.count_pos))), rfl⟩

variable (perm : ks.Perm (List.range m.count))

include perm

theorem delivered_of_single (single : m.count = 1) : m.Delivered ks rStream := by
  obtain rfl : ks = [0] := by
    rw [single] at perm
    exact perm_singleton.mp perm
  obtain ⟨part, here⟩ : ∃ part, m.parts = [part] := length_eq_one_iff.mp single
  obtain ⟨st, enqueued, delivered⟩ := ready.enqueue_single single
  refine ⟨fun j less => ⟨rStream, ?_, rfl⟩, st, m.fragment 0, ?_, ready.delivery_free 0 m.count_pos,
    delivered, ?_⟩
  · obtain rfl : j = 0 := by omega
    rfl
  · have ran := arrive_snoc m 0 (show m.arrive [] rStream = .ok rStream from rfl)
    rw [enqueued] at ran
    exact ran
  · simp [fragment, here]

theorem Ready.arrive_init (ordered : m.ordered = true) :
    ∃ l k st, ks = l ++ [k] ∧ m.arrive l rStream = .ok st ∧ Holding m rStream l st ∧
      k < m.count ∧ k ∉ l ∧ ∀ j < m.count, j ∈ k :: l := by
  have range : ∀ j, j ∈ ks ↔ j < m.count := fun j => perm.mem_iff.trans mem_range
  obtain rfl | ⟨l, k, rfl⟩ := eq_nil_or_concat' ks
  · exact absurd ((range 0).mpr m.count_pos) not_mem_nil
  · have nodup := nodup_append.mp (perm.nodup_iff.mpr nodup_range)
    have new : k ∉ l := fun member => nodup.2.2 k member k mem_cons_self rfl
    have less := (range k).mp (by simp)
    obtain ⟨st, arrived, holding⟩ :=
      ready.holding.arrive ready ordered (l := l) (by simpa using nodup.1)
      (fun j member => (range j).mp (mem_append_left _ member)) ⟨k, less, by simpa using new⟩
    refine ⟨l, k, st, rfl, arrived, by simpa using holding, less, new, fun j less => ?_⟩
    have member := (range j).mpr less
    simp only [mem_append, mem_cons] at member ⊢
    tauto

theorem delivered_of_straight (several : 2 ≤ m.count) (ordered : m.ordered = true)
    (straight : m.Straight) : m.Delivered ks rStream := by
  have nodup : ks.Nodup := perm.nodup_iff.mpr nodup_range
  have length : ks.length = m.count := by rw [perm.length_eq, length_range]
  have range : ∀ j, j ∈ ks ↔ j < m.count := fun j => perm.mem_iff.trans mem_range
  refine ⟨fun j less => ?_, ?_⟩
  · have split := nodup_append.mp ((take_append_drop j ks).symm ▸ nodup)
    obtain ⟨k, rest, later⟩ : ∃ k rest, ks.drop j = k :: rest :=
      exists_cons_of_length_pos (by rw [length_drop]; omega)
    have member : k ∈ ks := mem_of_mem_drop (by rw [later]; exact mem_cons_self)
    obtain ⟨st, arrived, holding⟩ :=
      ready.holding.arrive ready ordered (l := ks.take j) (by simpa using split.1)
      (fun i inside => (range i).mp (mem_of_mem_take inside)) ⟨k, (range k).mp member, fun before =>
        split.2.2 k (by simpa using before) k (by rw [later]; exact mem_cons_self) rfl⟩
    exact ⟨st, arrived, holding.deliveryQ⟩
  · obtain ⟨l, k, st, rfl, arrived, holding, less, new, all⟩ := ready.arrive_init perm ordered
    obtain ⟨st', message, enqueued, delivered, tsn, data⟩ :=
      holding.enqueue_last ready ordered several less new all straight
    refine ⟨st', message, ?_, ?_, ?_, data⟩
    · rw [arrive_snoc m k arrived, enqueued]
      rfl
    · rw [tsn]
      exact ready.delivery_free 0 m.count_pos
    · rw [tsn, delivered]

theorem straight_of_delivered (several : 2 ≤ m.count) (delivered : m.Delivered ks rStream) :
    m.ordered = true ∧ m.Straight := by
  have nodup : ks.Nodup := perm.nodup_iff.mpr nodup_range
  have range : ∀ j, j ∈ ks ↔ j < m.count := fun j => perm.mem_iff.trans mem_range
  cases ordered : m.ordered with
  | false =>
    obtain ⟨st, arrived, -, -, first⟩ :=
      arrive_unordered ready ordered several nodup fun j => (range j).mp
    rw [if_pos ((range 0).mpr m.count_pos)] at first
    refine absurd delivered (not_delivered_of_first several (v := m.fragment 0) rfl fun st'
      arrived' => ?_)
    rw [Except.ok.inj (arrived'.symm.trans arrived), first]
  | true =>
    refine ⟨rfl, by_contra fun crooked => ?_⟩
    obtain ⟨l, k, st, rfl, arrived, holding, less, new, all⟩ := ready.arrive_init perm ordered
    refine absurd delivered (not_delivered_of_first several
      (v := { m.fragment 0 with ebit := true }) rfl ?_)
    intro st' ran
    rw [arrive_snoc m k arrived] at ran
    obtain ⟨r, enqueued, rfl⟩ := map_eq_ok ran
    exact holding.enqueue_crooked ready ordered several less new all crooked enqueued

end Runs

end FragmentedMessage

/-- The message is delivered when its last fragment arrives, and as a whole, exactly if it is in one
DATA chunk or is ordered with straight TSNs. -/
theorem message_delivered {m : FragmentedMessage} {rStream : SCTPReceiveStream}
    (ready : m.Ready rStream) {ks : List Nat} (perm : ks.Perm (List.range m.count)) :
    m.Delivered ks rStream ↔ m.count = 1 ∨ m.ordered = true ∧ m.Straight := by
  have pos := m.count_pos
  constructor
  · intro delivered
    obtain single | several : m.count = 1 ∨ 2 ≤ m.count := by omega
    · exact .inl single
    · exact .inr (m.straight_of_delivered ready perm several delivered)
  · rintro (single | ⟨ordered, straight⟩)
    · exact m.delivered_of_single ready perm single
    · obtain single | several : m.count = 1 ∨ 2 ≤ m.count := by omega
      · exact m.delivered_of_single ready perm single
      · exact m.delivered_of_straight ready perm several ordered straight

def FragmentedMessage.threeBytes (tsn : UInt32) (ordered : Bool) : FragmentedMessage where
  parts := [[1], [2], [3]]
  tsn
  sid := 0
  ssn := 0
  ppid := 0
  ordered
  some_part := by simp
  no_empty := by simp
  short := by simp

theorem FragmentedMessage.ready_empty (m : FragmentedMessage) (first : m.ssn = 0) : m.Ready {} where
  ordered_free := fun _ _ => rfl
  unordered_free := fun _ _ => rfl
  delivery_free := fun _ _ => rfl
  expected := fun _ => first.symm
  only := fun _ _ member => absurd member not_mem_nil

theorem message_delivered_three : (FragmentedMessage.threeBytes 7 true).Delivered [2, 0, 1] {} :=
  (message_delivered (FragmentedMessage.ready_empty _ rfl) (by decide)).mpr (.inr ⟨rfl, by decide⟩)

/-- An unordered first fragment is delivered while the others are missing, and across TSN 0 the
other fragments of an ordered message never follow the first. -/
theorem message_not_delivered : ¬ (FragmentedMessage.threeBytes 7 false).Delivered [0, 1, 2] {} ∧
      ¬ (FragmentedMessage.threeBytes 0xFFFFFFFE true).Delivered [0, 1, 2] {} := by
  constructor
  · rintro ⟨before, -⟩
    obtain ⟨later, arrived, same⟩ := before 1 (by decide)
    have early : ((FragmentedMessage.threeBytes 7 false).arrive [0] {}).toOption.map
        (fun st => st.deliveryQ.entries.map Prod.fst) = some [7] := by decide
    rw [show [0, 1, 2].take 1 = [0] from rfl] at arrived
    rw [arrived] at early
    simp [Except.toOption, same] at early
  · rintro ⟨-, later, message, arrived, -, inserted, whole⟩
    have short : ((FragmentedMessage.threeBytes 0xFFFFFFFE true).arrive [0, 1, 2] {}).toOption.map
        (fun st => st.deliveryQ.entries.map fun e => e.2.userData.data) = some [[1]] := by decide
    rw [arrived] at short
    have found : message.userData.data ∈ later.deliveryQ.entries.map fun e =>
        e.2.userData.data := by
      rw [inserted]
      exact List.mem_map_of_mem (find?_eq_some_iff.mp (by simp) : (message.tsn, message) ∈ _)
    simp only [Except.toOption, Option.map_some, Option.some.injEq] at short
    rw [short, whole] at found
    exact absurd found (by decide)

end Srwsn
