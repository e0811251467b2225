import Mathlib

/-! Properties along the steps of a run: what each step preserves, every run preserves. -/

theorem List.mem_snoc {α : Type*} {a b : α} {l : List α} (member : a ∈ l ++ [b]) : a ∈ l ∨ a = b :=
  (List.mem_append.mp member).imp_right List.mem_singleton.mp

namespace Trace

variable {σ ε : Type*} (next : σ → ε → σ → Prop)

/-- The property holds at the start and after every step. -/
def Always (P : σ → Prop) : σ → List ε → Prop
  | s, [] => P s
  | s, e :: es => P s ∧ ∀ s', next s e s' → Always P s' es

/-- Every step that is taken meets the condition in the state it starts from. -/
def Each (Q : σ → ε → Prop) : σ → List ε → Prop
  | _, [] => True
  | s, e :: es => ∀ s', next s e s' → Q s e ∧ Each Q s' es

variable {next} {P : σ → Prop} {Q : σ → ε → Prop} {s : σ} {es : List ε}

theorem Always.head (h : Always next P s es) : P s := by
  cases es with
  | nil => exact h
  | cons e es => exact h.1

variable {s' : σ} {e : ε}

theorem Each.cons (only : ∀ t, next s e t → s' = t) (meets : Q s e)
    (rest : Each next Q s' es) : Each next Q s (e :: es) := by
  intro t stepped
  cases only t stepped
  exact ⟨meets, rest⟩

variable {Q' : σ → ε → Prop}

theorem Each.and (h : Each next Q s es) (h' : Each next Q' s es) :
    Each next (fun s e => Q s e ∧ Q' s e) s es := by
  induction es generalizing s with
  | nil => trivial
  | cons e es ih =>
    intro s' stepped
    obtain ⟨meets, rest⟩ := h s' stepped
    obtain ⟨meets', rest'⟩ := h' s' stepped
    exact ⟨⟨meets, meets'⟩, ih rest rest'⟩

variable {I : σ → Prop}

theorem each_of_invariant (keeps : ∀ s e s', I s → next s e s' → I s')
    (meets : ∀ s e, I s → Q s e) (inside : I s) (es : List ε) : Each next Q s es := by
  induction es generalizing s with
  | nil => trivial
  | cons e es ih => exact fun s' stepped => ⟨meets s e inside, ih (keeps s e s' inside stepped)⟩

theorem always_of_invariant (keeps : ∀ s e s', I s → next s e s' → I s')
    (holds : ∀ s, I s → P s) (inside : I s) (es : List ε) : Always next P s es := by
  induction es generalizing s with
  | nil => exact holds s inside
  | cons e es ih => exact ⟨holds s inside, fun s' stepped => ih (keeps s e s' inside stepped)⟩

theorem always_of_each (keeps : ∀ s e s', I s → Q s e → next s e s' → I s')
    (holds : ∀ s, I s → P s) (inside : I s) (each : Each next Q s es) : Always next P s es := by
  induction es generalizing s with
  | nil => exact holds s inside
  | cons e es ih =>
    refine ⟨holds s inside, fun s' stepped => ?_⟩
    obtain ⟨meets, each⟩ := each s' stepped
    exact ih (keeps s e s' inside meets stepped) each

/-- The rule may use an invariant of the runs in question. -/
theorem always_iff_each (keeps : ∀ s e s', I s → next s e s' → I s')
    (exact_step : ∀ s e s', I s → P s → next s e s' → (P s' ↔ Q s e))
    (inside : I s) (start : P s) (es : List ε) : Always next P s es ↔ Each next Q s es := by
  induction es generalizing s with
  | nil => exact iff_of_true start trivial
  | cons e es ih =>
    constructor
    · rintro ⟨-, later⟩ s' stepped
      have along := later s' stepped
      have step := exact_step s e s' inside start stepped
      exact ⟨step.mp along.head, (ih (keeps s e s' inside stepped) along.head).mp along⟩
    · intro each
      refine ⟨start, fun s' stepped => ?_⟩
      obtain ⟨now, later⟩ := each s' stepped
      have good := (exact_step s e s' inside start stepped).mpr now
      exact (ih (keeps s e s' inside stepped) good).mpr later

theorem always_iff_each_kept (keeps : ∀ s e s', I s → Q s e → next s e s' → I s')
    (holds : ∀ s, I s → P s) (exact_step : ∀ s e s', I s → next s e s' → P s' → Q s e)
    (inside : I s) (es : List ε) : Always next P s es ↔ Each next Q s es := by
  refine ⟨fun along => ?_, always_of_each keeps holds inside⟩
  induction es generalizing s with
  | nil => trivial
  | cons e es ih =>
    intro s' stepped
    have later := along.2 s' stepped
    have meets := exact_step s e s' inside stepped later.head
    exact ⟨meets, ih (keeps s e s' inside meets stepped) later⟩

variable {f : σ → ε → Option σ}

theorem Always.last (agrees : ∀ s e s', f s e = some s' → next s e s') (h : Always next P s es)
    (ran : es.foldlM f s = some s') : P s' := by
  induction es generalizing s with
  | nil =>
    cases ran
    exact h
  | cons e es ih =>
    rw [List.foldlM_cons] at ran
    obtain ⟨t, stepped, rest⟩ := Option.bind_eq_some_iff.mp ran
    exact ih (h.2 t (agrees s e t stepped)) rest

variable (next Q) in
/-- A run that is taken, with steps that all meet the condition. -/
inductive Path : σ → List ε → σ → Prop where
  | nil (s : σ) : Path s [] s
  | cons {s t u : σ} {e : ε} {es : List ε} (stepped : next s e t) (meets : Q s e)
      (rest : Path t es u) : Path s (e :: es) u

variable {t u : σ}

theorem Path.snoc (path : Path next Q s es t) (stepped : next t e u) (meets : Q t e) :
    Path next Q s (es ++ [e]) u := by
  induction path with
  | nil => exact .cons stepped meets (.nil u)
  | cons first met rest ih => exact .cons first met (ih stepped meets)

theorem Path.each (only : ∀ s e t t', next s e t → next s e t' → t = t')
    (path : Path next Q s es t) : Each next Q s es := by
  induction path with
  | nil => trivial
  | cons stepped meets rest ih =>
    exact Each.cons (fun t' other => only _ _ _ t' stepped other) meets ih

theorem Always.along (h : Always next P s es) (path : Path next Q s es t) : P t := by
  induction path with
  | nil => exact h
  | cons stepped meets rest ih => exact ih (h.2 _ stepped)

theorem Each.last (agrees : ∀ s e s', f s e = some s' → next s e s') (h : Each next Q s (es ++ [e]))
    (ran : es.foldlM f s = some t) (stepped : next t e u) : Q t e := by
  induction es generalizing s with
  | nil =>
    cases ran
    exact (h u stepped).1
  | cons d es ih =>
    rw [List.foldlM_cons] at ran
    obtain ⟨s', first, rest⟩ := Option.bind_eq_some_iff.mp ran
    exact ih (h s' (agrees s d s' first)).2 rest

theorem each_iff (keeps : ∀ s e s', I s → next s e s' → I s')
    (same : ∀ s e s', I s → next s e s' → (Q s e ↔ Q' s e)) (inside : I s) (es : List ε) :
    Each next Q s es ↔ Each next Q' s es := by
  induction es generalizing s with
  | nil => exact Iff.rfl
  | cons e es ih =>
    constructor
    · intro each s' stepped
      obtain ⟨meets, later⟩ := each s' stepped
      exact ⟨(same s e s' inside stepped).mp meets, (ih (keeps s e s' inside stepped)).mp later⟩
    · intro each s' stepped
      obtain ⟨meets, later⟩ := each s' stepped
      exact ⟨(same s e s' inside stepped).mpr meets, (ih (keeps s e s' inside stepped)).mpr later⟩

end Trace
