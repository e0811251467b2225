import Srwsn.Lib.Trace

/-! A running maximum over entries in key order. A strict comparison keeps the first of equal
scores. -/
namespace Scan

open List

variable {κ ν : Type*} [LinearOrder ν]

def step (best : ν × κ) (entry : κ × ν) : ν × κ := if best.1 < entry.2 then (entry.2, entry.1)
    else best

def scan (zero : ν) (none : κ) (entries : List (κ × ν)) : ν × κ := entries.foldl step (zero, none)

/-- Either no entry has beaten the start, or the best is the least of the greatest seen. -/
structure Best (cmp : κ → κ → Ordering) (zero : ν) (seen : List (κ × ν)) (best : ν × κ) : Prop where
  upper : ∀ e ∈ seen, e.2 ≤ best.1
  lower : zero ≤ best.1
  least : zero < best.1 → (best.2, best.1) ∈ seen ∧ ∀ e ∈ seen, e.2 = best.1 → cmp best.2 e.1 ≠ .gt

theorem best_step (cmp : κ → κ → Ordering) [Std.ReflCmp cmp] {zero : ν} {seen : List (κ × ν)}
    {best : ν × κ} {entry : κ × ν} (h : Best cmp zero seen best)
    (later : ∀ e ∈ seen, cmp e.1 entry.1 = .lt) :
    Best cmp zero (seen ++ [entry]) (step best entry) := by
  unfold step
  split
  · rename_i beaten
    have new : ∀ e ∈ seen ++ [entry], e.2 ≤ entry.2 := by
      intro e he
      rcases mem_append.mp he with he | he
      · exact (h.upper e he).trans beaten.le
      · rw [mem_singleton.mp he]
    refine ⟨new, h.lower.trans beaten.le, fun _ => ⟨by simp, ?_⟩⟩
    intro e he same
    rcases mem_append.mp he with he | he
    · exact absurd same (ne_of_lt (lt_of_le_of_lt (h.upper e he) beaten))
    · have self : cmp entry.1 entry.1 = .eq := Std.ReflCmp.compare_self
      rw [mem_singleton.mp he, self]
      decide
  · rename_i kept
    refine ⟨?_, h.lower, ?_⟩
    · intro e he
      rcases mem_snoc he with he | rfl
      · exact h.upper e he
      · exact not_lt.mp kept
    · intro positive
      obtain ⟨member, first⟩ := h.least positive
      refine ⟨mem_append_left _ member, ?_⟩
      intro e he same
      rcases mem_snoc he with he | rfl
      · exact first e he same
      · rw [later _ member]
        decide

theorem best_foldl (cmp : κ → κ → Ordering) [Std.ReflCmp cmp] {zero : ν}
    (entries seen : List (κ × ν)) (best : ν × κ) (h : Best cmp zero seen best)
    (ordered : (seen ++ entries).Pairwise (fun a b => cmp a.1 b.1 = .lt)) :
    Best cmp zero (seen ++ entries) (entries.foldl step best) := by
  induction entries generalizing seen best with
  | nil => simpa using h
  | cons entry entries ih =>
    have later : ∀ e ∈ seen, cmp e.1 entry.1 = .lt := fun e he =>
      (pairwise_append.mp ordered).2.2 e he entry (by simp)
    have shape : seen ++ entry :: entries = (seen ++ [entry]) ++ entries := by simp
    rw [shape] at ordered ⊢
    exact ih (seen ++ [entry]) (step best entry) (best_step cmp h later) ordered

theorem scan_first_maximum (cmp : κ → κ → Ordering) [Std.ReflCmp cmp] (zero : ν) (none : κ)
    (entries : List (κ × ν)) (ordered : entries.Pairwise (fun a b => cmp a.1 b.1 = .lt))
    (positive : ∃ e ∈ entries, zero < e.2) :
    ((scan zero none entries).2, (scan zero none entries).1) ∈ entries ∧
      ∀ e ∈ entries, e.2 ≤ (scan zero none entries).1 ∧
        (e.2 = (scan zero none entries).1 → cmp (scan zero none entries).2 e.1 ≠ .gt) := by
  have start : Best cmp zero [] (zero, none) :=
    ⟨by simp, le_rfl, fun h => absurd h (lt_irrefl zero)⟩
  have h := best_foldl cmp entries [] (zero, none) start (by simpa using ordered)
  simp only [nil_append] at h
  obtain ⟨e, he, above⟩ := positive
  obtain ⟨member, first⟩ := h.least (lt_of_lt_of_le above (h.upper e he))
  exact ⟨member, fun e he => ⟨h.upper e he, first e he⟩⟩

theorem scan_flat (zero : ν) (none : κ) (entries : List (κ × ν))
    (flat : ∀ e ∈ entries, e.2 ≤ zero) : scan zero none entries = (zero, none) := by
  induction entries with
  | nil => rfl
  | cons entry entries ih =>
    have kept : step (zero, none) entry = (zero, none) := if_neg (flat entry mem_cons_self).not_gt
    rw [scan, foldl_cons, kept]
    exact ih fun e he => flat e (mem_cons_of_mem _ he)

section First

variable {α : Type*} {ok : α → Prop} {rank : α → ν} {l : List α} {x : α}

/-- The first entry of greatest rank among those that qualify, if any does. -/
def First (ok : α → Prop) (rank : α → ν) (l : List α) : Option α → Prop
  | none => ∀ x ∈ l, ¬ ok x
  | some x => ∃ before after, l = before ++ x :: after ∧ ok x ∧
      (∀ y ∈ before, ok y → rank y < rank x) ∧ ∀ y ∈ after, ok y → rank y ≤ rank x

theorem First.mem (first : First ok rank l (some x)) : x ∈ l ∧ ok x := by
  obtain ⟨before, after, rfl, qualifies, -⟩ := first
  exact ⟨by simp, qualifies⟩

variable {best : Option α}

theorem First.skip {y : α} (first : First ok rank l best)
    (below : ok y → ∃ x, best = some x ∧ rank y ≤ rank x) : First ok rank (l ++ [y]) best := by
  cases best with
  | none =>
    intro x hx qualifies
    obtain hx | hx := mem_append.mp hx
    · exact first x hx qualifies
    · obtain rfl := mem_singleton.mp hx
      obtain ⟨x, none, -⟩ := below qualifies
      cases none
  | some x =>
    obtain ⟨before, after, rfl, qualifies, earlier, later⟩ := first
    refine ⟨before, after ++ [y], by simp, qualifies, earlier, fun z hz ok => ?_⟩
    obtain hz | hz := mem_append.mp hz
    · exact later z hz ok
    · obtain rfl := mem_singleton.mp hz
      obtain ⟨x', same, less⟩ := below ok
      cases same
      exact less

theorem First.take {y : α} (first : First ok rank l best) (qualifies : ok y)
    (above : ∀ x, best = some x → rank x < rank y) : First ok rank (l ++ [y]) (some y) := by
  refine ⟨l, [], rfl, qualifies, fun z hz ok => ?_, nofun⟩
  cases best with
  | none => exact absurd ok (first z hz)
  | some x =>
    have beaten := above x rfl
    obtain ⟨before, after, rfl, -, earlier, later⟩ := first
    obtain hz | hz := mem_append.mp hz
    · exact (earlier z hz ok).trans beaten
    · cases hz with
      | head => exact beaten
      | tail _ hz => exact (later z hz ok).trans_lt beaten

theorem First.weaken {ok' : α → Prop} (first : First ok rank l (some x)) (still : ok' x)
    (fewer : ∀ y ∈ l, ok' y → ok y) : First ok' rank l (some x) := by
  obtain ⟨before, after, rfl, -, earlier, later⟩ := first
  refine ⟨before, after, rfl, still, fun y hy ok => ?_, fun y hy ok => ?_⟩
  · exact earlier y hy (fewer y (by simp [hy]) ok)
  · exact later y hy (fewer y (by simp [hy]) ok)

theorem First.rerank {ν' : Type*} [LinearOrder ν'] {rank' : α → ν'}
    (first : First ok rank l best) (same : ∀ x ∈ l, ∀ y ∈ l, rank x < rank y ↔ rank' x < rank' y) :
    First ok rank' l best := by
  cases best with
  | none => exact first
  | some x =>
    obtain ⟨before, after, rfl, qualifies, earlier, later⟩ := first
    refine ⟨before, after, rfl, qualifies, fun y hy ok => ?_, fun y hy ok => ?_⟩
    · exact (same y (by simp [hy]) x (by simp)).mp (earlier y hy ok)
    · apply le_of_not_gt
      intro above
      have := (same x (by simp) y (by simp [hy])).mpr above
      exact absurd (later y hy ok) (not_le.mpr this)

end First

end Scan
