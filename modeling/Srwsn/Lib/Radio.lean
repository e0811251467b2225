import Mathlib

/-! Radio networks as transition systems. What a node schedules is later transmitted and reaches any
choice of the nodes that hear it: loss, delay and reordering are all in the choice of events. -/
namespace Radio

variable {ι σ γ π ε ω φ : Type*}

structure Effect (σ γ π ω : Type*) where
  node : σ
  shared : γ
  out : List π
  notes : List ω

structure System (ι σ γ π ε ω φ : Type*) where
  hears : ι → ι → Bool
  accepts : σ → π → Bool
  act : σ → γ → ε → Option π → Except φ (Effect σ γ π ω)

structure Flight (ι π : Type*) where
  sender : ι
  receiver : ι
  packet : π

structure Record (ι π ω : Type*) where
  node : ι
  cause : Option (ι × π)
  out : List π
  notes : List ω

inductive Route (hears : ι → ι → Bool) (i : ι) : List ι → ι → Prop where
  | here : Route hears i [] i
  | hop {path : List ι} {j k : ι} (rest : Route hears i path j) (heard : hears j k = true) :
      Route hears i (k :: path) k

noncomputable def hopDistance (hears : ι → ι → Bool) (i j : ι) : Nat :=
  sInf {n | ∃ path, Route hears i path j ∧ path.length = n}

variable {i j : ι}

theorem hopDistance_le {hears : ι → ι → Bool} {path : List ι}
    (h : Route hears i path j) : hopDistance hears i j ≤ path.length :=
  Nat.sInf_le ⟨path, h, rfl⟩

/-- The history is newest first and is never read by a step. -/
structure View (ι σ γ π ω : Type*) where
  nodes : ι → σ
  shared : γ
  history : List (Record ι π ω)

structure Config (ι σ γ π ω : Type*) extends View ι σ γ π ω where
  pending : List (ι × π)
  air : List (Flight ι π)

inductive Event (ι ε : Type*) where
  | transmit (k : Nat) (receivers : List ι)
  | deliver (k : Nat) (input : ε)
  | wake (node : ι) (input : ε)

variable [DecidableEq ι]

def View.after (v : View ι σ γ π ω) (i : ι) (cause : Option (ι × π)) (e : Effect σ γ π ω) :
    View ι σ γ π ω :=
  ⟨Function.update v.nodes i e.node, e.shared, ⟨i, cause, e.out, e.notes⟩ :: v.history⟩

@[simp] theorem View.after_self (v : View ι σ γ π ω) (i : ι) (cause : Option (ι × π))
    (e : Effect σ γ π ω) : (v.after i cause e).nodes i = e.node := Function.update_self ..

variable {cause : Option (ι × π)} {e : Effect σ γ π ω} {v : View ι σ γ π ω}

theorem View.after_other (h : j ≠ i) : (v.after i cause e).nodes j = v.nodes j :=
  Function.update_of_ne h ..

theorem View.after_frame {β : Type*} (f : σ → β) (same : f e.node = f (v.nodes i)) (j : ι) :
    f ((v.after i cause e).nodes j) = f (v.nodes j) := by
  by_cases here : j = i
  · subst here
    rw [View.after_self, same]
  · rw [View.after_other here]

def Config.after (c : Config ι σ γ π ω) (i : ι) (cause : Option (ι × π))
    (air : List (Flight ι π)) (e : Effect σ γ π ω) : Config ι σ γ π ω :=
  ⟨c.toView.after i cause e, c.pending ++ e.out.map (i, ·), air⟩

def Config.sent (c : Config ι σ γ π ω) (k : Nat) (i : ι) (p : π) (receivers : List ι) :
    Config ι σ γ π ω :=
  ⟨c.toView, c.pending.eraseIdx k, c.air ++ receivers.map (⟨i, ·, p⟩)⟩

def Config.Carries (c : Config ι σ γ π ω) (p : π) : Prop :=
  (∃ i, (i, p) ∈ c.pending) ∨ ∃ f ∈ c.air, f.packet = p

variable {c : Config ι σ γ π ω} {air : List (Flight ι π)} {p : π}

theorem Config.carries_after (fewer : air ⊆ c.air)
    (h : (c.after i cause air e).Carries p) : c.Carries p ∨ p ∈ e.out := by
  rcases h with ⟨j, member⟩ | ⟨f, member, rfl⟩
  · rcases List.mem_append.mp member with old | new
    · exact .inl (.inl ⟨j, old⟩)
    · obtain ⟨q, scheduled, same⟩ := List.mem_map.mp new
      cases same
      exact .inr scheduled
  · exact .inl (.inr ⟨f, fewer member, rfl⟩)

variable {k : Nat} {receivers : List ι}

omit [DecidableEq ι] in
theorem Config.carries_sent {q : π} (found : c.pending[k]? = some (i, q))
    (h : (c.sent k i q receivers).Carries p) : c.Carries p := by
  rcases h with ⟨j, member⟩ | ⟨f, member, rfl⟩
  · exact .inl ⟨j, List.mem_of_mem_eraseIdx member⟩
  · rcases List.mem_append.mp member with old | new
    · exact .inr ⟨f, old, rfl⟩
    · obtain ⟨j, -, rfl⟩ := List.mem_map.mp new
      exact .inl ⟨i, List.mem_of_getElem? found⟩

def Config.load (c : Config ι σ γ π ω) (marked : ι → π → Bool) (r : ι) : Nat :=
  c.pending.countP (fun x => marked x.1 x.2) +
    c.air.countP (fun f => marked f.sender f.packet && f.receiver = r)

def consumed (marked : ι → π → Bool) (r i : ι) : Option (ι × π) → Nat
  | some (s, p) => if marked s p && i = r then 1 else 0
  | none => 0

theorem countP_eraseIdx {α : Type*} {l : List α} {a : α} (p : α → Bool)
    (h : l[k]? = some a) : (l.eraseIdx k).countP p + (if p a then 1 else 0) = l.countP p := by
  obtain ⟨inside, rfl⟩ := List.getElem?_eq_some_iff.mp h
  rw [← (List.getElem_cons_eraseIdx_perm inside).countP_eq p, List.countP_cons]

theorem Config.load_sent
    (found : c.pending[k]? = some (i, p)) (nodup : receivers.Nodup) (marked : ι → π → Bool)
    (r : ι) :
    (c.sent k i p receivers).load marked r ≤ c.load marked r := by
  have fewer := countP_eraseIdx (fun x => marked x.1 x.2) found
  dsimp only at fewer
  have more : (receivers.map (fun j => (⟨i, j, p⟩ : Flight ι π))).countP
      (fun f => marked f.sender f.packet && f.receiver = r) ≤ if marked i p then 1 else 0 := by
    rw [List.countP_map]
    change receivers.countP (fun j => marked i p && decide (j = r)) ≤ _
    cases marked i p with
    | false => simp
    | true =>
      have once := List.nodup_iff_count_le_one.mp nodup r
      simpa [List.count_eq_countP, beq_eq_decide] using once
  simp only [load, Config.sent, List.countP_append]
  omega

theorem Config.load_after (marked : ι → π → Bool) (r : ι) : (c.after i cause air e).load marked r =
      c.pending.countP (fun x => marked x.1 x.2) + e.out.countP (marked i) +
        air.countP (fun f => marked f.sender f.packet && f.receiver = r) := by
  simp only [load, Config.after, List.countP_append, List.countP_map]
  rfl

theorem Config.load_delivered {f : Flight ι π} (found : c.air[k]? = some f) (marked : ι → π → Bool)
    (r : ι) : (c.after f.receiver (some (f.sender, f.packet)) (c.air.eraseIdx k) e).load marked r +
        consumed marked r f.receiver (some (f.sender, f.packet)) =
      c.load marked r + e.out.countP (marked f.receiver) := by
  have fewer := countP_eraseIdx (fun f => marked f.sender f.packet && f.receiver = r) found
  rw [load_after, load, consumed]
  omega

theorem Config.load_woken (marked : ι → π → Bool) (r : ι) :
    (c.after i none c.air e).load marked r + consumed marked r i none =
    c.load marked r + e.out.countP (marked i) := by
  rw [load_after, load, consumed]
  omega

namespace System

variable (sys : System ι σ γ π ε ω φ)

def perform (c : Config ι σ γ π ω) (i : ι) (cause : Option (ι × π)) (air : List (Flight ι π))
    (input : ε) : Except φ (Config ι σ γ π ω) :=
  match sys.act (c.nodes i) c.shared input (cause.map Prod.snd) with
  | .error fault => .error fault
  | .ok e => .ok (c.after i cause air e)

/-- `none`: the event cannot happen here. An error ends the run. -/
def step (c : Config ι σ γ π ω) : Event ι ε → Option (Except φ (Config ι σ γ π ω))
  | .transmit k receivers =>
    match c.pending[k]? with
    | none => none
    | some (i, p) =>
      if receivers.Nodup ∧ ∀ j ∈ receivers, sys.hears i j = true ∧ sys.accepts (c.nodes j) p = true
      then some (.ok (c.sent k i p receivers))
      else none
  | .deliver k input =>
    match c.air[k]? with
    | none => none
    | some f => some (sys.perform c f.receiver (some (f.sender, f.packet)) (c.air.eraseIdx k) input)
  | .wake i input => some (sys.perform c i none c.air input)

inductive Reaches (allowed : Config ι σ γ π ω → Event ι ε → Prop) (start : Config ι σ γ π ω) :
    Config ι σ γ π ω → Prop where
  | start : Reaches allowed start start
  | step {c d : Config ι σ γ π ω} {e : Event ι ε} :
      Reaches allowed start c → allowed c e → sys.step c e = some (.ok d) → Reaches allowed start d

def Free : Config ι σ γ π ω → Event ι ε → Prop := fun _ _ => True

instance (c : Config ι σ γ π ω) (e : Event ι ε) : Decidable (Free c e) := isTrue trivial

section Run

variable (allowed : Config ι σ γ π ω → Event ι ε → Prop) [∀ c e, Decidable (allowed c e)]

def run (c : Config ι σ γ π ω) : List (Event ι ε) → Option (Config ι σ γ π ω)
  | [] => some c
  | e :: es =>
    if allowed c e then
      match sys.step c e with
      | some (.ok d) => run d es
      | _ => none
    else none

variable {sys allowed}

theorem reaches_run {start c d : Config ι σ γ π ω} {es : List (Event ι ε)}
    (h : sys.Reaches allowed start c) (done : sys.run allowed c es = some d) :
    sys.Reaches allowed start d := by
  induction es generalizing c with
  | nil => exact Option.some.inj done ▸ h
  | cons e es ih =>
    simp only [run] at done
    split at done
    · rename_i fine
      split at done
      · rename_i next stepped
        exact ih (h.step fine stepped) done
      · cases done
    · cases done

theorem reaches_of_run (sys : System ι σ γ π ε ω φ)
    (allowed : Config ι σ γ π ω → Event ι ε → Prop) [∀ c e, Decidable (allowed c e)]
    (start : Config ι σ γ π ω) (es : List (Event ι ε)) (P : Config ι σ γ π ω → Prop)
    [DecidablePred P]
    (h : (sys.run allowed start es).any
      (fun c => decide (P c)) = true) : ∃ c, sys.Reaches allowed start c ∧ P c := by
  obtain ⟨c, done, seen⟩ := (Option.any_eq_true _ _).mp h
  exact ⟨c, reaches_run .start done, of_decide_eq_true seen⟩

end Run

variable {sys} {d : Config ι σ γ π ω} {air : List (Flight ι π)} {input : ε}

theorem perform_ok {i : ι} (h : sys.perform c i cause air input = .ok d) :
    ∃ e, sys.act (c.nodes i) c.shared input (cause.map Prod.snd) = .ok e ∧
    d = c.after i cause air e := by
  unfold perform at h
  split at h
  · cases h
  · rename_i e acted
    cases h
    exact ⟨e, acted, rfl⟩

theorem step_cases {e : Event ι ε} (h : sys.step c e = some (.ok d)) :
    (∃ k receivers i p, e = .transmit k receivers ∧ c.pending[k]? = some (i, p) ∧ receivers.Nodup ∧
      (∀ j ∈ receivers, sys.hears i j = true ∧ sys.accepts (c.nodes j) p = true) ∧
      d = c.sent k i p receivers) ∨
    (∃ k input f eff, e = .deliver k input ∧ c.air[k]? = some f ∧
      sys.act (c.nodes f.receiver) c.shared input (some f.packet) = .ok eff ∧
      d = c.after f.receiver (some (f.sender, f.packet)) (c.air.eraseIdx k) eff) ∨
    (∃ i input eff, e = .wake i input ∧ sys.act (c.nodes i) c.shared input none = .ok eff ∧
      d = c.after i none c.air eff) := by
  cases e with
  | transmit k receivers =>
    simp only [step] at h
    split at h
    · cases h
    · rename_i i p found
      split at h
      · rename_i ok
        cases h
        exact .inl ⟨k, receivers, i, p, rfl, found, ok.1, ok.2, rfl⟩
      · cases h
  | deliver k input =>
    simp only [step] at h
    split at h
    · cases h
    · rename_i f found
      obtain ⟨eff, acted, rfl⟩ := perform_ok (Option.some.inj h)
      exact .inr (.inl ⟨k, input, f, eff, rfl, found, acted, rfl⟩)
  | wake i input =>
    obtain ⟨eff, acted, rfl⟩ := perform_ok (Option.some.inj h)
    exact .inr (.inr ⟨i, input, eff, rfl, acted, rfl⟩)

theorem step_fault {e : Event ι ε} {fault : φ} (h : sys.step c e = some (.error fault)) :
    (∃ k input f, e = .deliver k input ∧ c.air[k]? = some f ∧
      sys.act (c.nodes f.receiver) c.shared input (some f.packet) = .error fault) ∨
    (∃ i input, e = .wake i input ∧ sys.act (c.nodes i) c.shared input none = .error fault) := by
  have acted : ∀ {i cause air input}, sys.perform c i cause air input = .error fault →
      sys.act (c.nodes i) c.shared input (cause.map Prod.snd) = .error fault := by
    intro i cause air input failed
    unfold perform at failed
    split at failed
    · rename_i fault' acted
      rw [acted, Except.error.inj failed]
    · cases failed
  cases e with
  | transmit k receivers =>
    simp only [step] at h
    split at h
    · cases h
    · split at h <;> cases h
  | deliver k input =>
    simp only [step] at h
    split at h
    · cases h
    · rename_i f found
      exact .inl ⟨k, input, f, rfl, found, acted (Option.some.inj h)⟩
  | wake i input => exact .inr ⟨i, input, rfl, acted (Option.some.inj h)⟩

/-- A property of the view, of scheduled packets and of packets on the air that one action keeps. -/
structure Inductive (sys : System ι σ γ π ε ω φ) (N : View ι σ γ π ω → Prop)
    (P : View ι σ γ π ω → ι → π → Prop) (A : View ι σ γ π ω → Flight ι π → Prop) : Prop where
  transmit : ∀ v i j p, N v → P v i p → sys.hears i j = true →
    sys.accepts (v.nodes j) p = true → A v ⟨i, j, p⟩
  act : ∀ v i cause input e, N v → (∀ s p, cause = some (s, p) → A v ⟨s, i, p⟩) →
    sys.act (v.nodes i) v.shared input (cause.map Prod.snd) = .ok e →
    N (v.after i cause e) ∧ (∀ q ∈ e.out, P (v.after i cause e) i q) ∧
      (∀ j q, P v j q → P (v.after i cause e) j q) ∧ (∀ f, A v f → A (v.after i cause e) f)

def Holds (N : View ι σ γ π ω → Prop) (P : View ι σ γ π ω → ι → π → Prop)
    (A : View ι σ γ π ω → Flight ι π → Prop) (c : Config ι σ γ π ω) : Prop :=
  N c.toView ∧ (∀ x ∈ c.pending, P c.toView x.1 x.2) ∧ ∀ f ∈ c.air, A c.toView f

variable {N : View ι σ γ π ω → Prop} {P : View ι σ γ π ω → ι → π → Prop}
  {A : View ι σ γ π ω → Flight ι π → Prop} (inv : sys.Inductive N P A)

include inv

theorem Inductive.after (h : Holds N P A c) {i : ι} {e : Effect σ γ π ω} (fewer : air ⊆ c.air)
    (caused : ∀ s p, cause = some (s, p) → A c.toView ⟨s, i, p⟩)
    (acted : sys.act (c.nodes i) c.shared input (cause.map Prod.snd) = .ok e) :
    Holds N P A (c.after i cause air e) := by
  obtain ⟨view, fresh, kept, flying⟩ := inv.act c.toView i cause input e h.1 caused acted
  refine ⟨view, ?_, fun f member => flying f (h.2.2 f (fewer member))⟩
  intro x member
  rcases List.mem_append.mp member with old | new
  · exact kept x.1 x.2 (h.2.1 x old)
  · obtain ⟨q, scheduled, rfl⟩ := List.mem_map.mp new
    exact fresh q scheduled

theorem Inductive.step {e : Event ι ε} (h : Holds N P A c) (stepped : sys.step c e = some (.ok d)) :
    Holds N P A d := by
  obtain ⟨k, receivers, i, p, -, found, -, heard, rfl⟩ | ⟨k, input, f, eff, -, found, acted, rfl⟩ |
    ⟨i, input, eff, -, acted, rfl⟩ := step_cases stepped
  · refine ⟨h.1, fun x member => h.2.1 x (List.mem_of_mem_eraseIdx member), ?_⟩
    intro f member
    rcases List.mem_append.mp member with old | new
    · exact h.2.2 f old
    · obtain ⟨j, receiving, rfl⟩ := List.mem_map.mp new
      exact inv.transmit _ i j p h.1 (h.2.1 _ (List.mem_of_getElem? found)) (heard j receiving).1
        (heard j receiving).2
  · refine inv.after h (fun _ => List.mem_of_mem_eraseIdx) ?_ acted
    rintro s p ⟨⟩
    exact h.2.2 f (List.mem_of_getElem? found)
  · exact inv.after h (fun _ => id) (fun s p impossible => by cases impossible) acted

theorem Inductive.holds
 {allowed : Config ι σ γ π ω → Event ι ε → Prop} {start : Config ι σ γ π ω}
    (base : Holds N P A start) (h : sys.Reaches allowed start c) : Holds N P A c := by
  induction h with
  | start => exact base
  | step _ _ stepped ih => exact inv.step ih stepped

end System
end Radio
