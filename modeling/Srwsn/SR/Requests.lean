import Srwsn.SR.Records

/-! Duplicate suppression. A node remembers one timestamp only, so it recognises a copy as long as
it has not replaced that timestamp while copies were still under way. -/
namespace Srwsn
open SR MACAddress List

variable {ι : Type*} [DecidableEq ι]

def stampOf (v : Snapshot ι) (i : ι) : UInt32 := (v.nodes i).currentRequestTimeStamp

variable (c : World ι)

def UnderWay (t : UInt32) : Prop :=
  ∃ p, c.Carries p ∧ IsRequest p ∧ p.myTimestamp = t

instance (t : UInt32) : Decidable (UnderWay c t) :=
  decidable_of_iff
    ((∃ x ∈ c.pending, IsRequest x.2 ∧ x.2.myTimestamp = t) ∨
      ∃ f ∈ c.air, IsRequest f.packet ∧ f.packet.myTimestamp = t) (by
    constructor
    · rintro (⟨⟨i, p⟩, member, request⟩ | ⟨f, member, request⟩)
      · exact ⟨p, .inl ⟨i, member⟩, request⟩
      · exact ⟨f.packet, .inr ⟨f, member, rfl⟩, request⟩
    · rintro ⟨p, ⟨i, member⟩ | ⟨f, member, rfl⟩, request⟩
      · exact .inl ⟨(i, p), member, request⟩
      · exact .inr ⟨f, member, request⟩)

/-- The step replaces a node's timestamp only if no request that bears it is under way. -/
def ForgetsNothing : Radio.Event ι Input → Prop
  | .transmit _ _ => True
  | .deliver k input => ∀ f, c.air[k]? = some f →
      (c.nodes f.receiver).nextStamp input (some f.packet) ≠ stampOf c.toView f.receiver →
        ¬ UnderWay c (stampOf c.toView f.receiver)
  | .wake i input => (c.nodes i).nextStamp input none ≠ stampOf c.toView i →
      ¬ UnderWay c (stampOf c.toView i)

instance (ev : Radio.Event ι Input) : Decidable (ForgetsNothing c ev) :=
  match ev with
  | .transmit _ _ => isTrue trivial
  | .deliver k input =>
    decidable_of_iff (∀ f ∈ c.air[k]?,
      (c.nodes f.receiver).nextStamp input (some f.packet) ≠ stampOf c.toView f.receiver →
        ¬ UnderWay c (stampOf c.toView f.receiver)) Iff.rfl
  | .wake _ _ => inferInstanceAs (Decidable (_ → _))

def generatedBy : Note → Option (UInt16 × UInt32)
  | .generated id t => some (id, t)
  | _ => none

def takenUpBy : Note → Option (UInt16 × UInt32)
  | .takenUp id t => some (id, t)
  | _ => none

def generated (v : Snapshot ι) : List (UInt16 × UInt32) :=
  v.history.flatMap (fun record => record.notes.filterMap generatedBy)

def takenUp (v : Snapshot ι) (i : ι) : List (UInt16 × UInt32) :=
  (v.history.filter (fun record => record.node = i)).flatMap
    (fun record => record.notes.filterMap takenUpBy)

def FreshStamp : Radio.Event ι Input → Prop
  | .wake i input => (c.nodes i).Generates input →
      ((c.nodes i).myID, newStamp input) ∉ generated c.toView
  | _ => True

instance (ev : Radio.Event ι Input) : Decidable (FreshStamp c ev) :=
  match ev with
  | .transmit _ _ => isTrue trivial
  | .deliver _ _ => isTrue trivial
  | .wake _ _ => inferInstanceAs (Decidable (_ → _))

structure Action (c d : World ι) (i : ι) (cause : Option (ι × SRPacket)) (e : Eff) : Prop where
  routed : Routed (c.nodes i) e (cause.map Prod.snd)
  same : SameIdentity (c.nodes i) e.node
  view : d.toView = c.toView.after i cause e
  carried : ∀ q, d.Carries q → c.Carries q ∨ q ∈ e.out
  caused : ∀ s p, cause = some (s, p) → ⟨s, i, p⟩ ∈ c.air

def KeepsStamp (i : ι) (e : Eff) : Prop :=
  e.node.currentRequestTimeStamp ≠ stampOf c.toView i → ¬ UnderWay c (stampOf c.toView i)

def Plain : Prop := ∀ p, c.Carries p → p.msgType ≠ .discovery

theorem step_action {hears : ι → ι → Bool} {c d : World ι} {ev : Radio.Event ι Input}
    (plain : Plain c) (h : (network hears).step c ev = some (.ok d)) :
    (d.toView = c.toView ∧ ∀ p, d.Carries p → c.Carries p) ∨ ∃ i cause e, Action c d i cause e ∧
      (ForgetsNothing c ev → KeepsStamp c i e) ∧
      (FreshStamp c ev → ∀ id t, .generated id t ∈ e.notes → (id, t) ∉ generated c.toView) := by
  obtain ⟨k, receivers, i, p, -, found, -, -, rfl⟩ | ⟨k, input, f, e, rfl, found, acted, rfl⟩ |
    ⟨i, input, e, rfl, acted, rfl⟩ := Radio.System.step_cases h
  · exact .inl ⟨rfl, fun q => Radio.Config.carries_sent found⟩
  · have carries : c.Carries f.packet := .inr ⟨f, mem_of_getElem? found, rfl⟩
    obtain ⟨routed, same⟩ := (handlePacket_settles (plain _ carries)).1 _ acted
    refine .inr ⟨f.receiver, some (f.sender, f.packet), e, ⟨routed, same, rfl, ?_, ?_⟩, ?_, ?_⟩
    · exact fun q => Radio.Config.carries_after (fun _ => mem_of_mem_eraseIdx)
    · rintro s p ⟨⟩
      exact mem_of_getElem? found
    · intro keeps changed
      apply keeps f found
      cases routed with
      | quiet _ stamp _ _ _ => exact absurd stamp changed
      | takeUp _ request new _ _ _ _ =>
        rw [nextStamp, if_pos request]
        exact Ne.symm new
      | forward _ _ _ _ _ _ _ _ stamp _ _ => exact absurd stamp changed
    · intro _ id t member
      cases routed with
      | quiet _ _ _ _ notes => exact (notes _ member).elim
      | takeUp _ _ _ _ _ _ notes =>
        rw [notes, mem_singleton] at member
        cases member
      | forward _ _ _ _ _ _ _ _ _ _ notes =>
        rw [notes] at member
        cases member
  · obtain ⟨routed, same, stamp, notes⟩ := handleTimer_settles.1 _ acted
    refine .inr ⟨i, none, e, ⟨routed, same, rfl, ?_, ?_⟩, ?_, ?_⟩
    · exact fun q => Radio.Config.carries_after (fun _ => id)
    · rintro s p ⟨⟩
    · intro keeps changed
      exact keeps (stamp ▸ changed)
    · intro fresh id t member
      obtain ⟨due, rfl, rfl⟩ := notes id t member
      exact fresh due

section Once

variable {c d : World ι} {i : ι} {cause : Option (ι × SRPacket)} {e : Eff}

theorem generated_after (v : Snapshot ι) :
    generated (v.after i cause e) = e.notes.filterMap generatedBy ++ generated v := rfl

theorem takenUp_after_self (v : Snapshot ι) :
    takenUp (v.after i cause e) i = e.notes.filterMap takenUpBy ++ takenUp v i := by
  simp [takenUp, Radio.View.after]

theorem takenUp_after_other (v : Snapshot ι) {j : ι} (h : j ≠ i) :
    takenUp (v.after i cause e) j = takenUp v j := by
  simp [takenUp, Radio.View.after, Ne.symm h]

/-- A request under way has been generated, and whoever took it up still remembers it. -/
structure Remembered (c : World ι) : Prop where
  plain : Plain c
  made : ∀ p, c.Carries p → IsRequest p → (p.Id, p.myTimestamp) ∈ generated c.toView
  known : ∀ i r, r ∈ takenUp c.toView i → r ∈ generated c.toView
  recalled : ∀ p, c.Carries p → IsRequest p → ∀ i,
    (p.Id, p.myTimestamp) ∈ takenUp c.toView i → stampOf c.toView i = p.myTimestamp
  once : ∀ i, (takenUp c.toView i).Nodup

theorem stamp_kept (act : Action c d i cause e) (keeps : KeepsStamp c i e)
    {p : SRPacket} (carried : c.Carries p) (request : IsRequest p) {j : ι}
    (held : stampOf c.toView j = p.myTimestamp) : stampOf d.toView j = p.myTimestamp := by
  rw [act.view]
  by_cases here : j = i
  · subst here
    simp only [stampOf, Radio.View.after_self]
    by_contra changed
    exact keeps (fun equal => changed (equal.trans held)) ⟨p, carried, request, held.symm⟩
  · simp only [stampOf, Radio.View.after_other here]
    exact held

theorem plain_after (plain : Plain c) (act : Action c d i cause e) : Plain d := by
  intro q carried
  rcases act.carried q carried with old | new
  · exact plain q old
  · exact act.routed.out_plain q new

theorem Action.carries {p : SRPacket} (act : Action c d i cause e)
    (packet : cause.map Prod.snd = some p) : c.Carries p := by
  obtain ⟨⟨s, q⟩, rfl, rfl⟩ := Option.map_eq_some_iff.mp packet
  exact .inr ⟨_, act.caused s q rfl, rfl⟩

variable (h : Remembered c) (act : Action c d i cause e) (keeps : KeepsStamp c i e)

include h act keeps

theorem remembered_of_same (out : ∀ q ∈ e.out, ¬ IsRequest q)
    (notes : ∀ n ∈ e.notes, Incidental n) : Remembered d := by
  have old : ∀ q, d.Carries q → IsRequest q → c.Carries q := by
    intro q carried request
    rcases act.carried q carried with old | new
    · exact old
    · exact absurd request (out q new)
  have none : ∀ f : Note → Option (UInt16 × UInt32), (∀ n, Incidental n → f n = none) →
      e.notes.filterMap f = [] := by
    intro f silent
    exact filterMap_eq_nil_iff.mpr (fun n member => silent n (notes n member))
  have made : generated d.toView = generated c.toView := by
    rw [act.view, generated_after, none generatedBy, nil_append]
    rintro (_ | _ | _ | _ | _ | _ | _) arrival <;> first | rfl | exact arrival.elim
  have taken : ∀ j, takenUp d.toView j = takenUp c.toView j := by
    intro j
    rw [act.view]
    by_cases here : j = i
    · subst here
      rw [takenUp_after_self, none takenUpBy, nil_append]
      rintro (_ | _ | _ | _ | _ | _ | _) arrival <;> first | rfl | exact arrival.elim
    · exact takenUp_after_other _ here
  constructor
  · exact plain_after h.plain act
  · intro q carried request
    rw [made]
    exact h.made q (old q carried request) request
  · intro j r member
    rw [made]
    exact h.known j r (taken j ▸ member)
  · intro q carried request j member
    have before := old q carried request
    exact stamp_kept act keeps before request (h.recalled q before request j (taken j ▸ member))
  · intro j
    rw [taken]
    exact h.once j

theorem remembered_generate {q : SRPacket} (out : e.out = [q])
    (notes : e.notes = [.generated q.Id q.myTimestamp])
    (fresh : (q.Id, q.myTimestamp) ∉ generated c.toView) : Remembered d := by
  have made : generated d.toView = (q.Id, q.myTimestamp) :: generated c.toView := by
    rw [act.view, generated_after, notes]
    rfl
  have taken : ∀ j, takenUp d.toView j = takenUp c.toView j := by
    intro j
    rw [act.view]
    by_cases here : j = i
    · subst here
      rw [takenUp_after_self, notes]
      rfl
    · exact takenUp_after_other _ here
  constructor
  · exact plain_after h.plain act
  · intro p carried request
    rw [made]
    rcases act.carried p carried with old | new
    · exact mem_cons_of_mem _ (h.made p old request)
    · rw [out, mem_singleton] at new
      rw [new]
      exact mem_cons_self
  · intro j r member
    rw [made]
    exact mem_cons_of_mem _ (h.known j r (taken j ▸ member))
  · intro p carried request j member
    rw [taken] at member
    rcases act.carried p carried with old | new
    · exact stamp_kept act keeps old request (h.recalled p old request j member)
    · -- nobody has taken up a request that did not exist
      rw [out, mem_singleton] at new
      rw [new] at member
      exact absurd (h.known j _ member) fresh
  · intro j
    rw [taken]
    exact h.once j

theorem remembered_takeUp {p : SRPacket} (carried : c.Carries p)
    (request : IsRequest p) (new : stampOf c.toView i ≠ p.myTimestamp)
    (stamp : e.node.currentRequestTimeStamp = p.myTimestamp)
    (out : ∀ q ∈ e.out, IsRequest q → q.Id = p.Id ∧ q.myTimestamp = p.myTimestamp)
    (notes : e.notes = [.takenUp p.Id p.myTimestamp]) : Remembered d := by
  have made : generated d.toView = generated c.toView := by
    rw [act.view, generated_after, notes]
    rfl
  have self : takenUp d.toView i = (p.Id, p.myTimestamp) :: takenUp c.toView i := by
    rw [act.view, takenUp_after_self, notes]
    rfl
  have other : ∀ j, j ≠ i → takenUp d.toView j = takenUp c.toView j := by
    intro j away
    rw [act.view]
    exact takenUp_after_other _ away
  -- a node that had taken it up before would still hold its timestamp
  have first : (p.Id, p.myTimestamp) ∉ takenUp c.toView i := fun member =>
    new (h.recalled p carried request i member)
  have held : stampOf d.toView i = p.myTimestamp := by
    rw [act.view]
    simp only [stampOf, Radio.View.after_self]
    exact stamp
  -- every copy in play afterwards has a copy in play before
  have copy : ∀ q, d.Carries q → IsRequest q → ∃ r, c.Carries r ∧ IsRequest r ∧ r.Id = q.Id ∧
      r.myTimestamp = q.myTimestamp := by
    intro q carried' request'
    rcases act.carried q carried' with old | sent
    · exact ⟨q, old, request', rfl, rfl⟩
    · obtain ⟨id, t⟩ := out q sent request'
      exact ⟨p, carried, request, id.symm, t.symm⟩
  constructor
  · exact plain_after h.plain act
  · intro q carried' request'
    obtain ⟨r, before, again, id, t⟩ := copy q carried' request'
    rw [made, ← id, ← t]
    exact h.made r before again
  · intro j r member
    rw [made]
    by_cases here : j = i
    · subst here
      rw [self] at member
      rcases mem_cons.mp member with rfl | old
      · exact h.made p carried request
      · exact h.known j r old
    · exact h.known j r (other j here ▸ member)
  · intro q carried' request' j member
    obtain ⟨r, before, again, id, t⟩ := copy q carried' request'
    rw [← id, ← t] at member
    rw [← t]
    by_cases here : j = i
    · subst here
      rw [self] at member
      rcases mem_cons.mp member with same | old
      · rw [held, (Prod.mk.inj same).2]
      · exact stamp_kept act keeps before again (h.recalled r before again j old)
    · exact stamp_kept act keeps before again (h.recalled r before again j (other j here ▸ member))
  · intro j
    by_cases here : j = i
    · subst here
      rw [self]
      exact nodup_cons.mpr ⟨first, h.once j⟩
    · rw [other j here]
      exact h.once j

theorem remembered_action (fresh : ∀ id t, .generated id t ∈ e.notes →
    (id, t) ∉ generated c.toView) : Remembered d := by
  have routed := act.routed
  generalize packet : cause.map Prod.snd = p at routed
  cases routed with
  | quiet _ _ _ out notes =>
    refine remembered_of_same h act keeps (fun q member request => ?_) notes
    have alert := out q member
    rw [request.1] at alert
    cases alert
  | generate q out _ _ _ _ _ notes =>
    exact remembered_generate h act keeps out notes (fresh _ _ (notes ▸ mem_cons_self))
  | takeUp r request new stamp _ out notes =>
    refine remembered_takeUp h act keeps (act.carries packet) request new stamp ?_ notes
    intro q member again
    rcases out with none | ⟨s, out, forwarded | answered⟩
    · rw [none] at member
      cases member
    · rw [out, mem_singleton] at member
      subst member
      exact ⟨forwarded.2.1, forwarded.2.2.1⟩
    · rw [out, mem_singleton] at member
      subst member
      exact absurd again (not_request_of_reply answered.1)
  | forward _ s _ _ out sent _ _ _ _ notes =>
    refine remembered_of_same h act keeps (fun q member => ?_) (by simp [notes])
    rw [out, mem_singleton] at member
    rw [member]
    exact not_request_of_reply sent

end Once

/-- If no node replaces a timestamp while a request that bears it is under way, or uses one twice,
each node takes up each request at most once. -/
theorem requests_taken_up_once (hears : ι → ι → Bool) (start c : World ι) (quiet : Quiet start)
    (reached : (network hears).Reaches (fun c ev => ForgetsNothing c ev ∧ FreshStamp c ev) start c)
    (i : ι) : (takenUp c.toView i).Nodup := by
  have base : Remembered start := by
    have empty := quiet.carries_nothing
    have none : ∀ j, takenUp start.toView j = [] := by
      intro j
      simp [takenUp, quiet.history]
    exact ⟨fun p carried => absurd carried (empty p), fun p carried => absurd carried (empty p),
      fun j r member => by simp [none] at member, fun p carried => absurd carried (empty p),
      fun j => by simp [none]⟩
  have all : Remembered c := by
    induction reached with
    | start => exact base
    | step _ allowed stepped ih =>
      rcases step_action ih.plain stepped with ⟨view, carried⟩ | ⟨j, cause, e, act, keeps, fresh⟩
      · exact ⟨fun p h => ih.plain p (carried p h), fun p h => view ▸ ih.made p (carried p h),
          view ▸ ih.known, fun p h => view ▸ ih.recalled p (carried p h), view ▸ ih.once⟩
      · exact remembered_action ih act (keeps allowed.1) (fresh allowed.2)
  exact all.once i

/-- Each of two neighbours sends the other a copy of what it has; both copies are discarded. -/
theorem triangle_takes_up_once :
    ∃ c, (network triangleHears).Reaches (fun c ev => ForgetsNothing c ev ∧ FreshStamp c ev)
        triangle c ∧ (∀ i, (takenUp c.toView i).Nodup) ∧ takenUp c.toView 1 = [(262, 100)] ∧
      (c.history.filter (fun record => record.notes = [.discarded 262 100])).length = 2 := by
  obtain ⟨c, reached, seen⟩ := Radio.System.reaches_of_run (network triangleHears)
    (fun c ev => ForgetsNothing c ev ∧ FreshStamp c ev) triangle
    [.wake 2 { raw := 100 }, .transmit 0 [0, 1], .deliver 0 {}, .deliver 0 {}, .transmit 0 [1],
      .transmit 0 [0], .deliver 0 {}, .deliver 0 {}]
    (fun c => takenUp c.toView 1 = [(262, 100)] ∧
      (c.history.filter (fun record => record.notes = [.discarded 262 100])).length = 2)
    (by decide +kernel)
  exact ⟨c, reached, requests_taken_up_once triangleHears triangle c (trio_quiet ..) reached, seen⟩

/-- Node 1 takes up a request, then one of its neighbour 0, and then a late copy of the first 
again. -/
theorem triangle_takes_up_twice : ∃ c, Addressed triangle.nodes ∧ Quiet triangle ∧
      (network triangleHears).Reaches Radio.System.Free triangle c ∧
      takenUp c.toView 1 = [(262, 100), (132, 200), (262, 100)] ∧ ¬ ∀ i,
      (takenUp c.toView i).Nodup := by
  obtain ⟨c, reached, seen⟩ :=
    Radio.System.reaches_of_run (network triangleHears) Radio.System.Free triangle
    [.wake 2 { raw := 100 }, .transmit 0 [0, 1], .deliver 0 {}, .deliver 0 {},
      .wake 0 { raw := 200 }, .transmit 2 [1], .deliver 0 {}, .transmit 0 [1], .deliver 0 {}]
    (fun c => takenUp c.toView 1 = [(262, 100), (132, 200), (262, 100)]) (by decide +kernel)
  refine ⟨c, trio_addressed .., trio_quiet .., reached, seen, ?_⟩
  intro once
  have twice := once 1
  rw [seen] at twice
  revert twice
  decide

/-- Outside discovery, only alerts come without a request for the same id. -/
def Asked (v : Snapshot ι) (p : SRPacket) : Prop :=
  p.msgType ≠ .discovery ∧ (p.msgType ≠ .alert → ∃ t, (p.Id, t) ∈ generated v)

theorem asked_inductive (hears : ι → ι → Bool) :
    (network hears).Inductive (fun _ => True) (fun v _ => Asked v)
    (fun v f => Asked v f.packet) := by
  refine ⟨fun _ _ _ _ _ asked _ _ => asked, fun v i cause input e _ caused acted => ?_⟩
  have old : ∀ p, cause.map Prod.snd = some p → Asked v p := by
    intro p found
    obtain ⟨⟨s, p⟩, rfl, rfl⟩ := Option.map_eq_some_iff.mp found
    exact caused s p rfl
  obtain ⟨routed, -⟩ := act_routed (fun p found => (old p found).1) acted
  have kept : ∀ p, Asked v p → Asked (v.after i cause e) p := fun p asked =>
    ⟨asked.1, fun other => (asked.2 other).imp fun _ => mem_append_right _⟩
  refine ⟨trivial, fun q sent => ⟨routed.out_plain q sent, fun other => ?_⟩, fun _ => kept, fun f =>
    kept f.packet⟩
  generalize cause.map Prod.snd = p at old routed
  cases routed with
  | quiet _ _ _ out _ => exact absurd (out q sent) other
  | generate r out _ _ _ _ _ notes =>
    rw [out, mem_singleton] at sent
    exact ⟨q.myTimestamp, mem_append_left _ (by simp [notes, sent, generatedBy])⟩
  | takeUp p request _ _ _ out _ =>
    have asked := (kept p (old p rfl)).2 (by simp [request.1])
    rcases out with none | ⟨s, out, ⟨-, id, -⟩ | ⟨-, id, -⟩⟩
    · rw [none] at sent
      cases sent
    all_goals
      rw [out, mem_singleton] at sent
      rw [sent, id]
      exact asked
  | forward p r reply _ out _ id _ _ _ _ =>
    rw [out, mem_singleton] at sent
    rw [sent, id]
    exact (kept p (old p rfl)).2 (by simp [reply.1])

theorem packets_asked (hears : ι → ι → Bool) (start c : World ι) (quiet : Quiet start)
    (reached : (network hears).Reaches Radio.System.Free start c) (p : SRPacket)
    (carried : c.Carries p) :
    Asked c.toView p := by
  obtain ⟨-, scheduled, flying⟩ := (asked_inductive hears).holds
    ⟨trivial, by simp [quiet.pending], by simp [quiet.air]⟩ reached
  rcases carried with ⟨i, member⟩ | ⟨f, member, rfl⟩
  · exact scheduled _ member
  · exact flying f member

theorem line_asked : ∃ c p, (network lineHears).Reaches Radio.System.Free line c ∧ IsReply p ∧
    Asked c.toView p := by
  obtain ⟨c, reached, x, member, reply⟩ :=
    Radio.System.reaches_of_run (network lineHears) Radio.System.Free line
    [.wake 2 { raw := 100 }, .transmit 0 [0], .deliver 0 {}, .transmit 0 [1], .deliver 0 {}]
    (fun c => ∃ x ∈ c.pending, IsReply x.2) (by decide +kernel)
  exact ⟨c, x.2, reached, reply, packets_asked lineHears line c (trio_quiet ..) reached _
    (.inl ⟨_, member⟩)⟩

end Srwsn
