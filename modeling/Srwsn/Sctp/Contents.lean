import Srwsn.Sctp.Receiver

/-! What the queues of a stream hold. Reassembly and delivery move data between the queues and merge
it. -/
namespace Srwsn

open Outcome SCTPQueue KeyMap

namespace SCTPQueue

variable {q q' : SCTPQueue} {t t' : UInt32} {v : SCTPDataVariables}

theorem getVar_erase_some (found : getVar (q.erase t) t' = some v) : q.getVar t' = some v := by
  rw [getVar, find?_erase] at found
  split_ifs at found
  exact found

theorem getVar_insert_none (other : t' ≠ t) (absent : q.getVar t' = none) :
    getVar (q.insert t v) t' = none := by
  rw [getVar, find?_insert, if_neg other]
  exact absent

theorem getVar_none_of (sub : ∀ v, q'.getVar t = some v → q.getVar t = some v)
    (absent : q.getVar t = none) : q'.getVar t = none := by
  refine Option.eq_none_iff_forall_ne_some.mpr fun v here => ?_
  cases absent.symm.trans (sub v here)

end SCTPQueue

/-- Fragments taken out of a queue one after the other and added to a message. -/
inductive Merges : SCTPDataVariables → SCTPQueue → SCTPDataVariables → SCTPQueue → Prop
  | refl (v : SCTPDataVariables) (q : SCTPQueue) : Merges v q v q
  | step {v v₁ v₂ v' : SCTPDataVariables} {q q' : SCTPQueue} {t : UInt32} (found : q.getVar t =
      some v₁)
    (appended : v.append v₁ = .ok v₂) (rest : Merges v₂ (q.erase t) v' q') : Merges v q v' q'

section Reassembly

open SCTPReceiveStream

theorem mergeFragments_merges (endtsn : UInt32) (fuel : Nat) (begintsn : UInt32)
    (v : SCTPDataVariables) (q : SCTPQueue) :
    Yields (mergeFragments endtsn fuel begintsn v q) fun r => Merges v q r.1 r.2 := by
  induction fuel generalizing begintsn v q with
  | zero => exact .error
  | succ fuel ih =>
    unfold mergeFragments
    refine .ite ?_ (.ok (.refl v q))
    unfold getAndExtractMessage
    cases found : q.getVar (begintsn + 1) with
    | none => exact .error
    | some v₁ =>
      refine .bind (P := fun v₂ => v.append v₁ = .ok v₂) (fun _ => id) fun v₂ appended => ?_
      exact (ih (begintsn + 1) v₂ (q.erase (begintsn + 1))).mono fun r rest =>
        .step found appended rest

/-- Nothing happens to the queue, or one message is merged under its first TSN. -/
theorem reassemble_cases (q : SCTPQueue) (tsn : UInt32) :
    Yields (reassemble q tsn) fun r => r = (tsn, q) ∨ ∃ begintsn v v' q',
    q.getVar begintsn = some v ∧
      Merges v (q.erase begintsn) v' q' ∧
      r = (v'.tsn, q'.insert begintsn { v' with ebit := true }) := by
  unfold reassemble
  refine .after fun begintsn => ?_
  split
  · exact .ok (.inl rfl)
  · rename_i v found
    refine .after fun endtsn => ?_
    split
    · exact .ok (.inl rfl)
    · refine .bind (mergeFragments_merges endtsn _ begintsn v (q.erase begintsn)) fun r merges => ?_
      exact .ok (.inr ⟨begintsn, v, r.1, r.2, found, merges, rfl⟩)

end Reassembly

namespace Merges

variable {v v' : SCTPDataVariables} {q q' : SCTPQueue}

theorem tsn (merges : Merges v q v' q') : v'.tsn = v.tsn := by
  induction merges with
  | refl => rfl
  | step _ appended _ ih =>
    obtain ⟨-, same, -⟩ := SCTPDataVariables.append_eq_ok appended
    rw [ih, same]

theorem find? (merges : Merges v q v' q') {t : UInt32} {u : SCTPDataVariables}
    (found : q'.getVar t = some u) : q.getVar t = some u := by
  induction merges with
  | refl => exact found
  | step _ _ _ ih => exact getVar_erase_some (ih found)

end Merges

structure Closed (P : SCTPDataVariables → Prop) : Prop where
  append : ∀ {v v' v''}, P v → P v' → v.append v' = .ok v'' → P v''
  finish : ∀ {v}, P v → P { v with ebit := true }

def SCTPQueue.All (P : SCTPDataVariables → Prop) (q : SCTPQueue) : Prop :=
  ∀ t v, q.getVar t = some v → P v

structure SCTPReceiveStream.All (P : SCTPDataVariables → Prop) (rStream : SCTPReceiveStream) :
    Prop where
  deliveryQ : rStream.deliveryQ.All P
  orderedQ : rStream.orderedQ.All P
  unorderedQ : rStream.unorderedQ.All P

section All

variable {P : SCTPDataVariables → Prop} {q : SCTPQueue} {v : SCTPDataVariables} {t : UInt32}

theorem SCTPQueue.All.erase (all : q.All P) (t : UInt32) : SCTPQueue.All P (q.erase t) :=
  fun t' v found => all t' v (getVar_erase_some found)

theorem SCTPQueue.All.insert (all : q.All P) (t : UInt32) (new : P v) :
    SCTPQueue.All P (q.insert t v) := by
  intro t' v' found
  rw [getVar, find?_insert] at found
  split_ifs at found
  · exact Option.some.inj found ▸ new
  · exact all t' v' found

theorem SCTPQueue.All.checkAndInsertVar (all : q.All P) (t : UInt32) (new : P v) :
    (q.checkAndInsertVar t v).2.All P := by
  unfold SCTPQueue.checkAndInsertVar
  split_ifs
  · exact all
  · exact all.insert t new

theorem Merges.all {v' : SCTPDataVariables} {q' : SCTPQueue} (merges : Merges v q v' q')
    (closed : Closed P) (here : P v) (all : q.All P) : P v' ∧ q'.All P := by
  induction merges with
  | refl => exact ⟨here, all⟩
  | step found appended _ ih => exact ih (closed.append here (all _ _ found) appended) (all.erase _)

theorem reassemble_all (closed : Closed P) (all : q.All P) (tsn : UInt32) :
    Yields (SCTPReceiveStream.reassemble q tsn) fun r => r.2.All P := by
  refine (reassemble_cases q tsn).mono ?_
  rintro r (rfl | ⟨begintsn, v, v', q', found, merges, rfl⟩)
  · exact all
  · obtain ⟨here, rest⟩ := merges.all closed (all _ _ found) (all.erase begintsn)
    exact rest.insert begintsn (closed.finish here)

namespace SCTPReceiveStream

variable {rStream : SCTPReceiveStream} {dchunk : SCTPDataVariables}

theorem All.dequeue {ssn : UInt16} {r : SCTPDataVariables × SCTPQueue} (all : q.All P)
    (dequeued : q.dequeueVarBySsn ssn = some r) : P r.1 ∧ r.2.All P := by
  obtain ⟨tsn, member, -, rest⟩ := dequeueVarBySsn_eq_some dequeued
  exact ⟨all tsn r.1 (find?_eq_some_iff.mpr member), rest ▸ all.erase tsn⟩

theorem All.deliverExpected (all : rStream.All P) (delivery : Nat) :
    (deliverExpected delivery rStream).2.All P := by
  unfold SCTPReceiveStream.deliverExpected
  split
  · exact all
  · rename_i dequeued found
    obtain ⟨here, rest⟩ := All.dequeue all.orderedQ found
    dsimp only
    split_ifs
    · exact ⟨all.deliveryQ.checkAndInsertVar _ here, rest, all.unorderedQ⟩
    · exact ⟨all.deliveryQ, rest, all.unorderedQ⟩

theorem All.enqueue (closed : Closed P) (all : rStream.All P) (new : P dchunk) :
    Yields (rStream.enqueueNewDataChunk dchunk) fun r => r.2.All P := by
  unfold enqueueNewDataChunk
  refine .ite ?_ ?_
  · unfold enqueueOrdered
    have inserted := all.orderedQ.checkAndInsertVar dchunk.tsn new
    have into : ∀ q, q.All P → SCTPReceiveStream.All P { rStream with orderedQ := q } :=
      fun q rest =>
      ⟨all.deliveryQ, rest, all.unorderedQ⟩
    refine .ite (.ok ?_) ?_
    · exact (into _ inserted).deliverExpected _
    · refine .bind (reassemble_all closed inserted dchunk.tsn) fun r rest => .ok ?_
      exact (into _ rest).deliverExpected _
  · unfold enqueueUnordered
    have inserted := all.unorderedQ.checkAndInsertVar dchunk.tsn new
    refine .ite (.ok ?_) ?_
    · exact ⟨all.deliveryQ.checkAndInsertVar dchunk.tsn new, all.orderedQ, all.unorderedQ⟩
    · refine .bind (reassemble_all closed all.orderedQ dchunk.tsn) fun r rest => ?_
      split
      · exact .error
      · rename_i datVar found
        refine .ite (.ok ?_) (.ok ⟨all.deliveryQ, rest, inserted⟩)
        exact ⟨all.deliveryQ.checkAndInsertVar _ (inserted _ _ found), rest, inserted.erase _⟩

end SCTPReceiveStream

end All

/-- The sums in question are those that are `ok`; with a fixed width that is no overflow. -/
structure Additive {M : Type*} [AddCommMonoid M] (w : SCTPDataVariables → M) (ok : M → Prop) :
    Prop where
  append : ∀ {v v' v''}, v.append v' = .ok v'' → ok (w v + w v') → w v'' = w v + w v'
  finish : ∀ v, w { v with ebit := true } = w v
  part : ∀ {x y}, ok (x + y) → ok x

def SCTPReceiveStream.total {M : Type*} [AddCommMonoid M] (w : SCTPDataVariables → M)
    (rStream : SCTPReceiveStream) : M :=
  KeyMap.total w rStream.orderedQ + KeyMap.total w rStream.unorderedQ + KeyMap.total w
    rStream.deliveryQ

section Additive

variable {M : Type*} [AddCommMonoid M] {w : SCTPDataVariables → M} {ok : M → Prop}
  {q q' : SCTPQueue} {v v' : SCTPDataVariables}

theorem Merges.total (merges : Merges v q v' q') (additive : Additive w ok)
    (fits : ok (w v + total w q)) : w v' + total w q' = w v + total w q := by
  induction merges with
  | refl => rfl
  | step found appended _ ih =>
    rw [total_erase w found, ← add_assoc] at fits
    have sum := additive.append appended (additive.part fits)
    rw [← sum] at fits
    rw [ih fits, sum, total_erase w found, add_assoc]

theorem reassemble_total (additive : Additive w ok) (fits : ok (total w q)) (tsn : UInt32) :
    Yields (SCTPReceiveStream.reassemble q tsn) fun r => total w r.2 = total w q := by
  refine (reassemble_cases q tsn).mono ?_
  rintro r (rfl | ⟨begintsn, v, v', q', found, merges, rfl⟩)
  · rfl
  · have total := total_erase w found
    have free : q'.getVar begintsn = none :=
      getVar_none_of (q := q.erase begintsn) (fun _ => merges.find?) (by simp [getVar])
    rw [total] at fits
    dsimp only
    rw [total_insert w free, additive.finish, merges.total additive fits, total]

end Additive

structure SCTPReceiveStream.Keyed (rStream : SCTPReceiveStream) : Prop where
  ordered : ∀ t v, rStream.orderedQ.getVar t = some v → v.tsn = t
  unordered : ∀ t v, rStream.unorderedQ.getVar t = some v → v.tsn = t
  delivery : ∀ t v, rStream.deliveryQ.getVar t = some v → v.tsn = t
  ordered_unordered : ∀ t, rStream.orderedQ.getVar t = none ∨ rStream.unorderedQ.getVar t = none
  ordered_delivery : ∀ t, rStream.orderedQ.getVar t = none ∨ rStream.deliveryQ.getVar t = none
  unordered_delivery : ∀ t, rStream.unorderedQ.getVar t = none ∨ rStream.deliveryQ.getVar t = none

structure SCTPReceiveStream.Fresh (rStream : SCTPReceiveStream) (t : UInt32) : Prop where
  ordered : rStream.orderedQ.getVar t = none
  unordered : rStream.unorderedQ.getVar t = none
  delivery : rStream.deliveryQ.getVar t = none

namespace SCTPReceiveStream

section Keyed

variable {rStream rStream' : SCTPReceiveStream} {t : UInt32} {v dchunk : SCTPDataVariables}
  {M : Type*} [AddCommMonoid M] {w : SCTPDataVariables → M} {ok : M → Prop}

/-- One step of data through the stream: no new TSNs, and `weight` of data in all. -/
structure Step (w : SCTPDataVariables → M) (rStream : SCTPReceiveStream) (weight : M)
    (rStream' : SCTPReceiveStream) : Prop where
  keyed : rStream'.Keyed
  fresh : ∀ t, rStream.Fresh t → rStream'.Fresh t
  total : rStream'.total w = weight

theorem reassemble_keyed {q : SCTPQueue} (own : ∀ t v, q.getVar t = some v → v.tsn = t)
    (tsn : UInt32) : Yields (reassemble q tsn) fun r =>
      (∀ t v, r.2.getVar t = some v → v.tsn = t) ∧ ∀ t, q.getVar t = none →
        r.2.getVar t = none := by
  refine (reassemble_cases q tsn).mono ?_
  rintro r (rfl | ⟨begintsn, v, v', q', found, merges, rfl⟩)
  · exact ⟨own, fun _ => id⟩
  · have from_q : ∀ t u, q'.getVar t = some u → q.getVar t = some u := fun t u here =>
      getVar_erase_some (merges.find? here)
    have first : v'.tsn = begintsn := merges.tsn.trans (own _ _ found)
    refine ⟨fun t u here => ?_, fun t none => ?_⟩
    · simp only [getVar, find?_insert] at here
      split_ifs at here with same
      · rw [← Option.some.inj here, same, first]
      · exact own t u (from_q t u here)
    · refine getVar_insert_none ?_ (getVar_none_of (from_q t) none)
      rintro rfl
      cases none.symm.trans found

structure Enqueued (w : SCTPDataVariables → M) (rStream : SCTPReceiveStream)
    (dchunk : SCTPDataVariables) (r : Nat × SCTPReceiveStream) : Prop where
  stored : 0 < r.1
  keyed : r.2.Keyed
  fresh : ∀ t ≠ dchunk.tsn, rStream.Fresh t → r.2.Fresh t
  total : r.2.total w = w dchunk + rStream.total w

section Keyed

variable (keyed : rStream.Keyed)

include keyed

theorem Keyed.set_ordered {q : SCTPQueue} (own : ∀ t v, q.getVar t = some v → v.tsn = t)
    (fewer : ∀ t, rStream.orderedQ.getVar t = none → q.getVar t = none) :
    Keyed { rStream with orderedQ := q } ∧ ∀ t, rStream.Fresh t →
    Fresh { rStream with orderedQ := q } t := by
  refine ⟨⟨own, keyed.unordered, keyed.delivery, fun t => (keyed.ordered_unordered t).imp_left
    (fewer t),
    fun t => (keyed.ordered_delivery t).imp_left (fewer t), keyed.unordered_delivery⟩,
    fun t fresh => ?_⟩
  exact ⟨fewer t fresh.ordered, fresh.unordered, fresh.delivery⟩

theorem Keyed.insert (fresh : rStream.Fresh v.tsn) :
    Keyed { rStream with orderedQ := rStream.orderedQ.insert v.tsn v } ∧
      Keyed { rStream with unorderedQ := rStream.unorderedQ.insert v.tsn v } ∧
      Keyed { rStream with deliveryQ := rStream.deliveryQ.insert v.tsn v } := by
  obtain ⟨ko, ku, kd, ou, od, ud⟩ := keyed
  obtain ⟨fo, fu, fd⟩ := fresh
  refine ⟨?_, ?_, ?_⟩ <;> constructor <;> simp only [getVar, find?_insert] at * <;> grind

theorem Keyed.move (found : rStream.orderedQ.getVar t = some v) (ssn : Nat) :
    rStream.deliveryQ.getVar v.tsn = none ∧ Step w rStream (rStream.total w) { rStream with
      orderedQ := rStream.orderedQ.erase t
      deliveryQ := rStream.deliveryQ.insert v.tsn v
      expectedStreamSeqNum := ssn } := by
  obtain rfl := keyed.ordered t v found
  have free : rStream.deliveryQ.getVar v.tsn = none :=
    (keyed.ordered_delivery v.tsn).resolve_left (by simp [found])
  refine ⟨free, ?_, fun t fresh => ?_, ?_⟩
  · obtain ⟨ko, ku, kd, ou, od, ud⟩ := keyed
    have other := (ou v.tsn).resolve_left (by simp [found])
    constructor <;> simp only [getVar, find?_insert, find?_erase] at * <;> grind
  · obtain ⟨fo, fu, fd⟩ := fresh
    constructor <;> simp only [getVar, find?_insert, find?_erase] at * <;> grind
  · simp only [SCTPReceiveStream.total]
    rw [total_insert w free, total_erase w found]
    abel

theorem Keyed.deliverExpected (delivery : Nat) :
    Step w rStream (rStream.total w) (deliverExpected delivery rStream).2 ∧
      (0 < delivery → 0 < (SCTPReceiveStream.deliverExpected delivery rStream).1) := by
  unfold SCTPReceiveStream.deliverExpected
  split
  · exact ⟨⟨keyed, fun _ => id, rfl⟩, id⟩
  · rename_i dequeued found
    obtain ⟨tsn, member, -, rest⟩ := dequeueVarBySsn_eq_some found
    obtain ⟨free, moved⟩ :=
      keyed.move (w := w) (find?_eq_some_iff.mpr member) (advanceSsn rStream.expectedStreamSeqNum)
    dsimp only
    rw [checkAndInsertVar_new free, rest]
    exact ⟨moved, fun _ => Nat.two_pos⟩

theorem Keyed.fewer (ordered : ∀ t v, rStream'.orderedQ.getVar t = some v →
    rStream.orderedQ.getVar t = some v)
    (unordered : ∀ t v, rStream'.unorderedQ.getVar t = some v →
      rStream.unorderedQ.getVar t = some v)
    (delivery : ∀ t v, rStream'.deliveryQ.getVar t = some v → rStream.deliveryQ.getVar t = some v) :
    Step w rStream (rStream'.total w) rStream' := by
  have no := fun t => getVar_none_of (ordered t)
  have nu := fun t => getVar_none_of (unordered t)
  have nd := fun t => getVar_none_of (delivery t)
  refine ⟨⟨fun t v here => keyed.ordered t v (ordered t v here),
    fun t v here => keyed.unordered t v (unordered t v here),
    fun t v here => keyed.delivery t v (delivery t v here),
    fun t => (keyed.ordered_unordered t).imp (no t) (nu t),
    fun t => (keyed.ordered_delivery t).imp (no t) (nd t),
    fun t => (keyed.unordered_delivery t).imp (nu t) (nd t)⟩, fun t fresh => ?_, rfl⟩
  exact ⟨no t fresh.ordered, nu t fresh.unordered, nd t fresh.delivery⟩

variable (fresh : rStream.Fresh dchunk.tsn)

include fresh

theorem Keyed.enqueueOrdered (additive : Additive w ok) (fits : ok (w dchunk + rStream.total w)) :
    Yields (rStream.enqueueOrdered dchunk) (Enqueued w rStream dchunk) := by
  unfold SCTPReceiveStream.enqueueOrdered
  have keyed' := (keyed.insert fresh).1
  have others : ∀ t ≠ dchunk.tsn, rStream.Fresh t →
      Fresh { rStream with orderedQ := rStream.orderedQ.insert dchunk.tsn dchunk } t :=
      fun t other fresh =>
    ⟨getVar_insert_none other fresh.ordered, fresh.unordered, fresh.delivery⟩
  have total := total_insert (v := dchunk) w fresh.ordered
  rw [checkAndInsertVar_new fresh.ordered]
  refine .ite (.ok ?_) ?_
  · obtain ⟨step, stored⟩ := keyed'.deliverExpected (w := w) 1
    refine ⟨stored Nat.one_pos, step.keyed,
      fun t other fresh => step.fresh t (others t other fresh), ?_⟩
    rw [if_pos rfl, step.total]
    simp only [SCTPReceiveStream.total, total, add_assoc]
  · have room : ok (KeyMap.total w (rStream.orderedQ.insert dchunk.tsn dchunk)) := by
      simp only [SCTPReceiveStream.total, ← add_assoc] at fits
      rw [total]
      exact additive.part (additive.part fits)
    refine .bind (P := fun r => (∀ t v, r.2.getVar t = some v → v.tsn = t) ∧
      (∀ t, getVar (rStream.orderedQ.insert dchunk.tsn dchunk) t = none → r.2.getVar t = none) ∧
      KeyMap.total w r.2 = KeyMap.total w (rStream.orderedQ.insert dchunk.tsn dchunk)) ?_ ?_
    · intro r ran
      obtain ⟨own, fewer⟩ := reassemble_keyed keyed'.ordered dchunk.tsn r ran
      exact ⟨own, fewer, reassemble_total additive room dchunk.tsn r ran⟩
    · rintro r ⟨own, fewer, same⟩
      obtain ⟨keyed'', fresh''⟩ := keyed'.set_ordered own fewer
      obtain ⟨step, stored⟩ := keyed''.deliverExpected (w := w) 3
      refine .ok ⟨stored (by omega), step.keyed, fun t other fresh =>
        step.fresh t (fresh'' t (others t other fresh)), ?_⟩
      rw [step.total]
      simp only [SCTPReceiveStream.total, same, total, add_assoc]

theorem Keyed.enqueued_delivery :
    Enqueued w rStream dchunk (2,
      { rStream with deliveryQ := rStream.deliveryQ.insert dchunk.tsn dchunk }) := by
  refine ⟨Nat.two_pos, (keyed.insert fresh).2.2, fun t other fresh =>
    ⟨fresh.ordered, fresh.unordered, getVar_insert_none other fresh.delivery⟩, ?_⟩
  · simp only [SCTPReceiveStream.total, total_insert (v := dchunk) w fresh.delivery]
    abel

theorem Keyed.enqueueUnordered (unordered : dchunk.ordered = false) :
    Yields (rStream.enqueueNewDataChunk dchunk) (Enqueued w rStream dchunk) := by
  have inserted := @checkAndInsertVar_new _ _ dchunk fresh.delivery
  by_cases whole : (dchunk.bbit && dchunk.ebit) = true
  · rw [enqueue_unordered_whole unordered whole, inserted]
    exact .ok (keyed.enqueued_delivery fresh)
  · rw [enqueue_unordered_fragment unordered whole fresh.ordered fresh.unordered, inserted]
    by_cases first : dchunk.bbit = true
    · rw [if_pos first, if_pos rfl,
        show erase _ _ = rStream.unorderedQ from erase_insert fresh.unordered]
      exact .ok (keyed.enqueued_delivery fresh)
    · rw [if_neg first]
      refine .ok ⟨Nat.succ_pos 2, (keyed.insert fresh).2.1, fun t other fresh => ⟨fresh.ordered,
        getVar_insert_none other fresh.unordered, fresh.delivery⟩, ?_⟩
      · simp only [SCTPReceiveStream.total, total_insert (v := dchunk) w fresh.unordered]
        abel

theorem Keyed.enqueue (additive : Additive w ok) (fits : ok (w dchunk + rStream.total w)) :
    Yields (rStream.enqueueNewDataChunk dchunk) (Enqueued w rStream dchunk) := by
  cases ordered : dchunk.ordered with
  | true =>
    rw [enqueueNewDataChunk, if_pos ordered]
    exact keyed.enqueueOrdered fresh additive fits
  | false => exact keyed.enqueueUnordered fresh ordered

end Keyed

end Keyed

end SCTPReceiveStream

namespace SCTPReceiver

variable {M : Type*} [AddCommMonoid M] {w : SCTPDataVariables → M} {a a' : SCTPReceiver} {sid : Nat}

def total (w : SCTPDataVariables → M) (a : SCTPReceiver) : M :=
  ∑ sid ∈ Finset.range a.inboundStreams, (a.receiveStreams sid).total w

def Keyed (a : SCTPReceiver) : Prop := ∀ sid, (a.receiveStreams sid).Keyed

theorem total_split (w : SCTPDataVariables → M) (known : sid < a.inboundStreams) :
    ∃ rest, a.total w = (a.receiveStreams sid).total w + rest ∧
      ∀ rStream, (a.setStream sid rStream).total w = rStream.total w + rest := by
  have member := Finset.mem_range.mpr known
  refine ⟨_, (Finset.add_sum_erase _ _ member).symm, fun rStream => ?_⟩
  refine (Finset.add_sum_erase _ _ member).symm.trans (congrArg₂ (· + ·) (by simp [setStream]) ?_)
  refine Finset.sum_congr rfl fun other inside => ?_
  simp [setStream, Finset.ne_of_mem_erase inside]

variable {rStream : SCTPReceiveStream}

theorem Keyed.setStream (keyed : a.Keyed) (new : rStream.Keyed) (sid : Nat) :
    (a.setStream sid rStream).Keyed := by
  intro other
  by_cases same : other = sid
  · simpa [same, SCTPReceiver.setStream] using new
  · simpa [same, SCTPReceiver.setStream] using keyed other

theorem fresh_setStream (fewer : ∀ t, (a.receiveStreams sid).Fresh t → rStream.Fresh t)
    {other : Nat} {t : UInt32} (fresh : (a.receiveStreams other).Fresh t) :
    ((a.setStream sid rStream).receiveStreams other).Fresh t := by
  by_cases same : other = sid
  · subst same
    simpa [SCTPReceiver.setStream] using fewer t fresh
  · simpa [SCTPReceiver.setStream, same] using fresh

theorem Keyed.putNext (keyed : a.Keyed) (known : sid < a.inboundStreams)
    (put : a.putNext sid = some a') :
    a'.Keyed ∧ a'.total w = a.total w ∧ a'.toApp = a.toApp ∧
    a'.state.queuedRcvBytes = a.state.queuedRcvBytes ∧
      ∀ sid t, (a.receiveStreams sid).Fresh t → (a'.receiveStreams sid).Fresh t := by
  obtain ⟨dequeued, found, rfl⟩ := Option.map_eq_some_iff.mp put
  obtain ⟨tsn, member, -, rest⟩ := dequeueVarBySsn_eq_some found
  obtain ⟨free, step⟩ := (keyed sid).move (w := w) (find?_eq_some_iff.mpr member)
    (SCTPReceiveStream.advanceSsn (a.receiveStreams sid).expectedStreamSeqNum)
  obtain ⟨others, before, after⟩ := total_split w known
  simp only [checkAndInsertVar_new free, rest, if_true]
  refine ⟨keyed.setStream step.keyed sid, ?_, rfl, ?_, fun sid' t => fresh_setStream step.fresh⟩
  · refine (after _).trans ?_
    rw [step.total, before]
  · exact sub_add_cancel _ _

variable {chunk : SCTPDataVariables}

theorem extractMessage_eq_some {q q' : SCTPQueue}
    (extracted : q.extractMessage = some (chunk, q')) : ∃ t, q.getVar t = some chunk ∧
    q' = q.erase t := by
  obtain ⟨⟨t, v⟩, first, same⟩ := Option.map_eq_some_iff.mp extracted
  cases same
  exact ⟨t, first?_find? first, rfl⟩

theorem openWindow_queuedRcvBytes (pmtu : UInt32) (s : SCTPRcvState) :
    (s.openWindow pmtu).queuedRcvBytes = s.queuedRcvBytes := by
  unfold SCTPRcvState.openWindow
  dsimp only
  split_ifs <;> rfl

theorem Keyed.pushMessage (keyed : a.Keyed) (known : sid < a.inboundStreams) {count : Nat}
    {q : SCTPQueue} (extracted : (a.receiveStreams sid).deliveryQ.extractMessage =
      some (chunk, q)) :
    Yields (a.pushMessage count sid chunk q) fun a' =>
      a'.Keyed ∧ a.total w = w chunk + a'.total w ∧ a'.toApp = a.toApp ++ [chunk] ∧
        a'.state.queuedRcvBytes = a.state.queuedRcvBytes - (chunk.len / 8).toUInt64 := by
  obtain ⟨t, found, rfl⟩ := extractMessage_eq_some extracted
  obtain ⟨others, before, after⟩ := total_split w known
  have step : SCTPReceiveStream.Step w (a.receiveStreams sid) _
      { a.receiveStreams sid with deliveryQ := (a.receiveStreams sid).deliveryQ.erase t } :=
    (keyed sid).fewer (fun _ _ => id) (fun _ _ => id) fun _ _ => getVar_erase_some
  refine .ite (.ok ⟨keyed.setStream step.keyed sid, ?_, rfl, ?_⟩) .error
  · refine before.trans ((congrArg (w chunk + ·) (after _)).trans ?_).symm
    simp only [SCTPReceiveStream.total, total_erase w found]
    abel
  · exact openWindow_queuedRcvBytes _ _

variable {uBit delQ : Bool} {high : UInt32} {datVar : SCTPDataVariables}

theorem findStored_some (found : a.findStored uBit high = some (sid, delQ, datVar)) :
      sid < a.inboundStreams ∧ (if delQ then (a.receiveStreams sid).deliveryQ
        else if uBit then (a.receiveStreams sid).unorderedQ
          else (a.receiveStreams sid).orderedQ).getVar high = some datVar := by
  obtain ⟨other, inside, here⟩ := List.exists_of_findSome?_eq_some found
  dsimp only at here
  split at here
  · rename_i v stored
    cases here
    exact ⟨List.mem_range.mp inside, stored⟩
  · obtain ⟨v, stored, same⟩ := Option.map_eq_some_iff.mp here
    cases same
    exact ⟨List.mem_range.mp inside, stored⟩

theorem dropStored_step (keyed : rStream.Keyed)
    (stored : (if delQ then rStream.deliveryQ else if uBit then rStream.unorderedQ
      else rStream.orderedQ).getVar
      high = some datVar) : SCTPReceiveStream.Step w rStream
        ((dropStored uBit delQ high datVar rStream).total w)
        (dropStored uBit delQ high datVar rStream) ∧
      rStream.total w = w datVar + (dropStored uBit delQ high datVar rStream).total w := by
  constructor
  · apply keyed.fewer <;> intro t v here <;> simp only [dropStored] at here <;> split_ifs at here
    all_goals first | exact here | exact getVar_erase_some here
  · cases delQ <;> cases uBit <;>
      simp only [if_true, Bool.false_eq_true, if_false] at stored <;>
      simp only [SCTPReceiveStream.total, dropStored, total_erase w stored, Bool.not_true,
        Bool.not_false,
        Bool.and_self, Bool.and_true, Bool.and_false, if_true, Bool.false_eq_true, if_false] <;>
      abel

end SCTPReceiver

namespace SCTPReceiver

variable {P : Nat → SCTPDataVariables → Prop} {a a' : SCTPReceiver} {sid : Nat}

def AllStored (P : Nat → SCTPDataVariables → Prop) (a : SCTPReceiver) : Prop :=
  ∀ sid, (a.receiveStreams sid).All (P sid)

theorem AllStored.update (all : a.AllStored P) {rStream : SCTPReceiveStream}
    (changed : a'.receiveStreams = Function.update a.receiveStreams sid rStream)
    (new : rStream.All (P sid)) :
    a'.AllStored P := by
  intro other
  by_cases same : other = sid
  · subst same
    simpa [changed] using new
  · simpa [same, changed] using all other

theorem AllStored.putNext (all : a.AllStored P) (put : a.putNext sid = some a') :
    a'.AllStored P := by
  obtain ⟨dequeued, found, rfl⟩ := Option.map_eq_some_iff.mp put
  obtain ⟨here, rest⟩ := SCTPReceiveStream.All.dequeue (all sid).orderedQ found
  exact all.update rfl ⟨(all sid).deliveryQ.checkAndInsertVar _ here, rest, (all sid).unorderedQ⟩

theorem AllStored.pushMessage (all : a.AllStored P) (count : Nat) {chunk : SCTPDataVariables}
    {q : SCTPQueue} (extracted : (a.receiveStreams sid).deliveryQ.extractMessage =
      some (chunk, q)) :
    P sid chunk ∧ Yields (a.pushMessage count sid chunk q) (AllStored P) := by
  obtain ⟨t, found, rfl⟩ := extractMessage_eq_some extracted
  refine ⟨(all sid).deliveryQ t chunk found, .ite (.ok ?_) .error⟩
  exact all.update rfl ⟨(all sid).deliveryQ.erase t, (all sid).orderedQ, (all sid).unorderedQ⟩

theorem All.dropStored {P : SCTPDataVariables → Prop} {rStream : SCTPReceiveStream}
    (all : rStream.All P) (uBit delQ : Bool) (high : UInt32) (datVar : SCTPDataVariables) :
    (dropStored uBit delQ high datVar rStream).All P := by
  constructor <;> dsimp only [SCTPReceiver.dropStored] <;> split_ifs
  · exact all.deliveryQ.erase high
  · exact all.deliveryQ
  · exact all.orderedQ.erase high
  · exact all.orderedQ
  · exact all.unorderedQ.erase high
  · exact all.unorderedQ

theorem AllStored.reclaim (all : a.AllStored P) (tsn : UInt32) {high : UInt32} {uBit : Bool}
    {found : Nat × Bool × SCTPDataVariables} (stored : a.findStored uBit high = some found) :
    P found.1 found.2.2 ∧ Yields (a.reclaim tsn high uBit found) (AllStored P) := by
  obtain ⟨sid, delQ, datVar⟩ := found
  obtain ⟨-, here⟩ := findStored_some stored
  constructor
  · split_ifs at here
    · exact (all sid).deliveryQ high datVar here
    · exact (all sid).unorderedQ high datVar here
    · exact (all sid).orderedQ high datVar here
  · unfold SCTPReceiver.reclaim
    refine .after fun s => .ok ?_
    exact all.update rfl (All.dropStored (all sid) uBit delQ high datVar)

end SCTPReceiver

structure SameBuffer (s s' : SCTPRcvState) : Prop where
  queuedRcvBytes : s'.queuedRcvBytes = s.queuedRcvBytes
  localRwnd : s'.localRwnd = s.localRwnd

namespace SCTPRcvState

variable {s s' : SCTPRcvState} {tsn lo hi : UInt32} {i : Nat}

theorem updateAfterGaps_buffer : Yields (s.updateAfterGaps tsn lo) (SameBuffer s) := by
  unfold updateAfterGaps
  refine .ite (.ite ?_ ?_) (.ite ?_ .error)
  all_goals exact .ok ⟨rfl, rfl⟩

theorem widenGap_buffer : Yields (s.widenGap tsn i lo hi) (SameBuffer s) := by
  unfold widenGap
  refine .ite ?_ (.ite (.ite ?_ ?_) (.ite ?_ .error))
  all_goals exact .ok ⟨rfl, rfl⟩

theorem closeGap_buffer : Yields (s.closeGap i lo) (SameBuffer s) := by
  unfold closeGap
  refine .ite ?_ (.ite ?_ .error)
  all_goals exact .ok ⟨rfl, rfl⟩

theorem updateGaps_buffer (left i : Nat) (lo : UInt32) :
    Yields (s.updateGaps tsn left i lo) (SameBuffer s) := by
  induction left generalizing i lo with
  | zero => exact updateAfterGaps_buffer
  | succ left ih =>
    refine .ite (.ite (.ite ?_ ?_) ?_) ?_
    · exact widenGap_buffer
    · exact closeGap_buffer
    · exact ih _ _
    · exact ih _ _

theorem updateGapList_buffer : Yields (s.updateGapList tsn) fun r => SameBuffer s r.2 := by
  unfold updateGapList
  refine .ite (.ok ⟨rfl, rfl⟩) (.map ?_)
  exact (updateGaps_buffer _ _ _).mono fun s' same => ⟨same.1, same.2⟩

theorem advanceRounds_buffer (left : Nat) (s : SCTPRcvState) :
    SameBuffer s (advanceRounds left s) := by
  induction left generalizing s with
  | zero => exact ⟨rfl, rfl⟩
  | succ left ih =>
    unfold advanceRounds
    split_ifs
    · exact ⟨(ih _).1, (ih _).2⟩
    · exact ⟨rfl, rfl⟩

theorem recordTsn_buffer {initPeerTsn : UInt32} :
    Yields (s.recordTsn initPeerTsn tsn) fun r => SameBuffer s r.2 := by
  have advanced : ∀ (s₁ : SCTPRcvState) (b : Bool), SameBuffer s s₁ →
      SameBuffer s (if b then s₁.advanceCtsna else s₁) := by
    intro s₁ b same
    have later := advanceRounds_buffer s₁.numGaps s₁
    split_ifs
    · exact ⟨later.1.trans same.1, later.2.trans same.2⟩
    · exact same
  unfold recordTsn
  refine .ite (.ite (.ok ⟨rfl, rfl⟩) (.map ?_)) (.ite (.ok ⟨rfl, rfl⟩) (.map ?_))
  · exact updateGapList_buffer.mono fun r same => advanced _ r.1 ⟨same.1, same.2⟩
  · exact updateGapList_buffer.mono fun r same => advanced _ r.1 same

theorem removeFromGap_buffer {numgaps : Nat} :
    Yields (removeFromGap tsn numgaps i s) (SameBuffer s) := by
  unfold removeFromGap
  refine .ite (.ite (.ite ?_ (.ite ?_ (.ite ?_ .error))) (.ite ?_ .error)) ?_
  all_goals exact .ok ⟨rfl, rfl⟩

theorem removeFromGapList_buffer : Yields (removeFromGapList tsn s) (SameBuffer s) := by
  have along : ∀ (numgaps i : Nat) (s : SCTPRcvState),
      Yields (removeFromGaps tsn numgaps i s) (SameBuffer s) := by
    intro numgaps i
    induction i with
    | zero => exact fun s => .ok ⟨rfl, rfl⟩
    | succ i ih =>
      intro s
      refine .bind removeFromGap_buffer fun s₁ same => (ih s₁).mono fun s₂ same' => ?_
      exact ⟨same'.1.trans same.1, same'.2.trans same.2⟩
  exact .map ((along _ _ s).mono fun s' same => ⟨same.1, same.2⟩)

end SCTPRcvState

namespace SCTPReceiver

variable {M : Type*} [AddCommMonoid M] {w : SCTPDataVariables → M} {a : SCTPReceiver}

theorem Keyed.reclaim (keyed : a.Keyed) {tsn high : UInt32} {uBit : Bool}
    {found : Nat × Bool × SCTPDataVariables} (stored : a.findStored uBit high = some found) :
    Yields (a.reclaim tsn high uBit found) fun a' =>
      a'.Keyed ∧ a.total w = w found.2.2 + a'.total w ∧
        a'.state.queuedRcvBytes = a.state.queuedRcvBytes - (found.2.2.len / 8).toUInt64 ∧
        ∀ sid t, (a.receiveStreams sid).Fresh t → (a'.receiveStreams sid).Fresh t := by
  obtain ⟨sid, delQ, datVar⟩ := found
  obtain ⟨known, here⟩ := findStored_some stored
  obtain ⟨step, dropped⟩ := dropStored_step (w := w) (keyed sid) here
  obtain ⟨others, before, after⟩ := total_split w known
  unfold SCTPReceiver.reclaim
  refine .bind SCTPRcvState.removeFromGapList_buffer fun s same => .ok ?_
  refine ⟨keyed.setStream step.keyed sid, ?_, ?_, fun sid' t => fresh_setStream step.fresh⟩
  · refine before.trans ((congrArg (w datVar + ·) (after _)).trans ?_).symm
    rw [dropped, add_assoc]
  · dsimp only [setStream]
    split_ifs <;> exact same.queuedRcvBytes

end SCTPReceiver

/-! The TSNs tried lie between the one that arrived and `top`, unless the count down passes 0. -/

namespace SCTPReceiver

variable {I : SCTPReceiver → Prop} {tsn length top : UInt32} {uBit : Bool}

theorem pred_le {high : UInt32} (pos : 0 < high) (inside : high ≤ top) : high - 1 ≤ top := by
  rw [UInt32.lt_iff_toNat_lt] at pos
  rw [UInt32.le_iff_toNat_le] at inside ⊢
  have below := high.toNat_lt
  simp only [UInt32.toNat_sub, UInt32.reduceToNat] at pos ⊢
  omega

theorem next_high_le {high : UInt32} {found empty : Prop} [Decidable found] [Decidable empty]
    (bottom : (0 < tsn ∧ tsn ≤ high ∧ (found → tsn ≠ high)) ∨ ∀ high, high ≤ top)
    (inside : high ≤ top) :
    (if empty then (if found then high - 1 else high) - 1 else if found then high - 1 else high) ≤
    top := by
  rcases bottom with ⟨pos, low, apart⟩ | all
  · have once := pred_le (UInt32.lt_of_lt_of_le pos low) inside
    by_cases here : found
    · have above : 0 < high - 1 := by
        have other := apart here
        rw [Ne, ← UInt32.toNat_inj] at other
        rw [UInt32.lt_iff_toNat_lt] at *
        rw [UInt32.le_iff_toNat_le] at low
        have below := high.toNat_lt
        simp only [UInt32.toNat_sub, UInt32.reduceToNat] at *
        omega
      simp only [here, if_true]
      split_ifs
      · exact pred_le above once
      · exact once
    · simp only [here, if_false]
      split_ifs
      · exact once
      · exact inside
  · exact all _

theorem makeRoomRounds_kept
    (bottom : (0 < tsn ∧ ∀ {a : SCTPReceiver}, I a → 0 < a.inboundStreams ∧
      a.findStored uBit tsn = none) ∨ ∀ high, high ≤ top)
    (drop : ∀ {a high found}, I a → tsn ≤ high → high ≤ top → a.findStored uBit high = some found →
      Yields (a.reclaim tsn high uBit found) I)
    (mark : ∀ {a} high, I a → I { a with state := { a.state with highestTsnStored := high } })
    (fuel : Nat) {high sum : UInt32} {a : SCTPReceiver} (inside : high ≤ top) (holds : I a) :
    Yields (makeRoomRounds tsn length uBit fuel high sum a) fun r => I r.2 := by
  induction fuel generalizing high sum a with
  | zero => exact .error
  | succ fuel ih =>
    unfold makeRoomRounds
    refine .ite (yields_ite (fun _ => .ok holds) fun goes => ?_) (.ok holds)
    have low : 0 < a.inboundStreams → tsn ≤ high :=
      fun some => UInt32.not_lt.mp fun above => goes ⟨above, some⟩
    have below : ∀ {sum sum' : UInt32}, (if sum' = sum then
        (if (a.findStored uBit high).isSome then high - 1 else high) - 1
        else if (a.findStored uBit high).isSome then high - 1 else high) ≤ top := by
      intro sum sum'
      have lower : (0 < tsn ∧ tsn ≤ high ∧ ((a.findStored uBit high).isSome → tsn ≠ high)) ∨ ∀ high,
          high ≤ top := by
        refine bottom.imp_left fun ⟨pos, absent⟩ => ?_
        obtain ⟨some, none⟩ := absent holds
        refine ⟨pos, low some, fun found same => ?_⟩
        simp [← same, none] at found
      exact next_high_le lower inside
    dsimp only
    refine .bind (P := I) ?_ fun a₁ holds₁ => ?_
    · cases found : a.findStored uBit high with
      | none => exact .ok holds
      | some r =>
        obtain ⟨sid, delQ, datVar⟩ := r
        obtain ⟨known, -⟩ := findStored_some found
        exact drop holds (low (by omega)) inside found
    · exact .ite (.ok (mark _ holds₁)) (ih below (mark _ holds₁))

end SCTPReceiver

end Srwsn
