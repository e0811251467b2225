import Mathlib

/-! Following pointers to a root. `Leads` holds where finitely many hops end at the root, so it
excludes cycles. -/
namespace Pointer

variable {ι : Type*} {root : ι → Prop} {next next' : ι → ι → Prop}

inductive Leads (root : ι → Prop) (next : ι → ι → Prop) : ι → Prop where
  | home {i : ι} (h : root i) : Leads root next i
  | hop {i j : ι} (h : next i j) (rest : Leads root next j) : Leads root next i

theorem Leads.mono (sub : ∀ i j, next i j → next' i j) {i : ι} (h : Leads root next i) :
    Leads root next' i := by
  induction h with
  | home h => exact .home h
  | hop h _ ih => exact .hop (sub _ _ h) ih

/-- Cut an old path where it first meets the redirected node and go on from there. -/
theorem Leads.redirect {n : ι} (same : ∀ i j, i ≠ n → next i j → next' i j)
    (new : Leads root next' n) {i : ι} (h : Leads root next i) : Leads root next' i := by
  induction h with
  | home h => exact .home h
  | @hop i j h _ ih =>
    by_cases here : i = n
    · exact here ▸ new
    · exact .hop (same i j here h) ih

theorem Leads.avoids {trap : ι → Prop} (outside : ∀ i, trap i → ¬ root i)
    (closed : ∀ i j, trap i → next i j → trap j) {i : ι} (h : Leads root next i) : ¬ trap i := by
  induction h with
  | home h => exact fun inside => outside _ inside h
  | hop h _ ih => exact fun inside => ih (closed _ _ inside h)

end Pointer
