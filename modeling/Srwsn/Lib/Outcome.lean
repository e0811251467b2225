import Mathlib

/-! Partial correctness for computations that may stop with an error: `Yields x Q` says what holds
of the result if there is one. -/
namespace Outcome

universe u v

variable {ε : Type u} {α β : Type v}

def Yields (x : Except ε α) (Q : α → Prop) : Prop := ∀ a, x = .ok a → Q a

variable {x : Except ε α} {f : α → Except ε β} {P Q : α → Prop} {a : α}

@[simp] theorem yields_ok : Yields (.ok a : Except ε α) Q ↔ Q a :=
  ⟨fun h => h a rfl, fun h _ same => Except.ok.inj same ▸ h⟩

@[simp] theorem yields_pure : Yields (pure a : Except ε α) Q ↔ Q a := yields_ok

theorem Yields.ok (holds : Q a) : Yields (.ok a : Except ε α) Q := yields_ok.mpr holds

variable {e : ε}

@[simp] theorem Yields.error : Yields (.error e : Except ε α) Q := nofun

@[simp] theorem yields_throw : Yields (throw e : Except ε α) Q := nofun

theorem eq_ok_of_toOption (same : x.toOption = some a) : x = .ok a := by
  cases x with
  | error e => cases same
  | ok b => exact congrArg Except.ok (Option.some.inj same)

theorem Yields.mono (h : Yields x P) (sub : ∀ a, P a → Q a) : Yields x Q :=
  fun a done => sub a (h a done)

variable {R : β → Prop}

theorem Yields.bind (first : Yields x P) (rest : ∀ a, P a → Yields (f a) R) :
    Yields (x >>= f) R := by
  intro b done
  cases x with
  | error e => cases done
  | ok a => exact rest a (first a rfl) b done

theorem Yields.after (rest : ∀ a, Yields (f a) R) : Yields (x >>= f) R :=
  .bind (P := fun _ => True) (fun _ _ => trivial) fun a _ => rest a

variable {g : α → β}

theorem map_eq_ok {b : β} (done : x.map g = .ok b) : ∃ a, x = .ok a ∧ g a = b := by
  cases x with
  | error e => cases done
  | ok a => exact ⟨a, rfl, Except.ok.inj done⟩

@[simp] theorem ok_bind (a : α) (f : α → Except ε β) : (.ok a >>= f) = f a := rfl

@[simp] theorem pure_eq_ok (a : α) : (pure a : Except ε α) = .ok a := rfl

@[simp] theorem bind_ok (x : Except ε α) : (x >>= fun a => .ok a) = x := by cases x <;> rfl

@[simp] theorem error_bind (e : ε) (f : α → Except ε β) : (.error e >>= f) = .error e := rfl

theorem bind_eq_ok {b : β} (done : x >>= f = .ok b) : ∃ a, x = .ok a ∧ f a = .ok b := by
  cases x with
  | error e => cases done
  | ok a => exact ⟨a, rfl, done⟩

theorem Yields.map (first : Yields x fun a => R (g a)) : Yields (x.map g) R := by
  intro b done
  obtain ⟨a, ran, rfl⟩ := map_eq_ok done
  exact first a ran

variable {p : Prop} {y : Except ε α}

theorem yields_ite [Decidable p] (yes : p → Yields x Q) (no : ¬ p → Yields y Q) :
    Yields (if p then x else y) Q := by
  split
  · exact yes ‹_›
  · exact no ‹_›

theorem Yields.ite [Decidable p] (yes : Yields x Q) (no : Yields y Q) :
    Yields (if p then x else y) Q :=
  yields_ite (fun _ => yes) fun _ => no

theorem guard_bind [Decidable p] :
    (if p then .error e else .ok a : Except ε α) >>= f = if p then .error e else f a := by
  split <;> rfl

theorem Yields.foldlM {γ : Type*} {g : α → γ → Except ε α} (keeps : ∀ a x, P a → Yields (g a x) P)
    (start : P a) (xs : List γ) : Yields (xs.foldlM g a) P := by
  induction xs generalizing a with
  | nil => exact yields_pure.mpr start
  | cons x xs ih =>
    rw [List.foldlM_cons]
    exact (keeps a x start).bind fun _ => ih

/-- The computation does not stop with that error, and `Q` holds of the result if there is one. -/
def Averts (bad : ε) (x : Except ε α) (Q : α → Prop) : Prop := x ≠ .error bad ∧ Yields x Q

variable {bad : ε}

@[simp] theorem averts_ok : Averts bad (.ok a) Q ↔ Q a :=
  ⟨fun h => yields_ok.mp h.2, fun h => ⟨nofun, yields_ok.mpr h⟩⟩

@[simp] theorem averts_pure : Averts bad (pure a : Except ε α) Q ↔ Q a := averts_ok

theorem Averts.ok (holds : Q a) : Averts bad (.ok a) Q := averts_ok.mpr holds

theorem Averts.error (other : e ≠ bad) : Averts bad (.error e : Except ε α) Q :=
  ⟨fun same => other (Except.error.inj same), .error⟩

theorem Averts.bind (first : Averts bad x P) (rest : ∀ a, P a → Averts bad (f a) R) :
    Averts bad (x >>= f) R := by
  cases x with
  | error e =>
    refine .error ?_
    rintro rfl
    exact first.1 rfl
  | ok a => exact rest a (first.2 a rfl)

theorem Averts.mono (h : Averts bad x P) (sub : ∀ a, P a → Q a) : Averts bad x Q :=
  ⟨h.1, h.2.mono sub⟩

theorem Averts.map (first : Averts bad x fun a => R (g a)) : Averts bad (x.map g) R := by
  cases x with
  | error e => exact .error fun same => first.1 (congrArg _ same)
  | ok a => exact .ok (first.2 a rfl)

theorem averts_ite [Decidable p] (yes : p → Averts bad x Q)
    (no : ¬ p → Averts bad y Q) : Averts bad (if p then x else y) Q := by
  split
  · exact yes ‹_›
  · exact no ‹_›

theorem Averts.ite [Decidable p] (yes : Averts bad x Q) (no : Averts bad y Q) :
    Averts bad (if p then x else y) Q :=
  averts_ite (fun _ => yes) fun _ => no

end Outcome
