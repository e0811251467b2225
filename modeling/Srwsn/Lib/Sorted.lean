import Mathlib

/-! Lists cut where a property ends: taking and dropping while it holds is the same as filtering. -/
namespace Sorted

open List

variable {α : Type*} {p : α → Bool} {l : List α}

theorem filter_eq_nil_of_head {a : α} (inherit : ∀ b ∈ l, p b = true → p a = true)
    (none : p a = false) : l.filter p = [] := by
  refine filter_eq_nil_iff.mpr fun b member yes => ?_
  rw [inherit b member yes] at none
  cases none

variable (cut : l.Pairwise fun a b => p b = true → p a = true)

include cut

theorem takeWhile_eq_filter : l.takeWhile p = l.filter p := by
  induction l with
  | nil => rfl
  | cons a l ih =>
    obtain ⟨inherit, cut⟩ := pairwise_cons.mp cut
    cases here : p a with
    | true => simp [here, ih cut]
    | false => simp [here, filter_eq_nil_of_head inherit here]

theorem dropWhile_eq_filter : l.dropWhile p = l.filter fun a => !p a := by
  induction l with
  | nil => rfl
  | cons a l ih =>
    obtain ⟨inherit, cut⟩ := pairwise_cons.mp cut
    cases here : p a with
    | true => simp [here, ih cut]
    | false =>
      have rest := filter_eq_nil_iff.mp (filter_eq_nil_of_head inherit here)
      have all : l.filter (fun b => !p b) = l :=
        filter_eq_self.mpr fun b member => by simpa using rest b member
      simp [here, all]

theorem filter_split (r : α → Bool) :
    l.filter r = l.filter (fun a => r a && p a) ++ l.filter fun a => r a && !p a := by
  nth_rewrite 1 [← takeWhile_append_dropWhile (p := p) (l := l)]
  rw [filter_append, takeWhile_eq_filter cut, dropWhile_eq_filter cut, List.filter_filter,
    List.filter_filter]

omit cut in
theorem filter_split_le {f : α → ℕ} (mono : l.Pairwise fun a b => f a ≤ f b) (r : α → Bool)
    (mid : ℕ) :
    l.filter r = l.filter (fun a => r a && decide (f a ≤ mid)) ++ l.filter fun a => r a &&
    !decide (f a ≤ mid) :=
  filter_split (mono.imp fun le below => decide_eq_true (le.trans (of_decide_eq_true below))) r

end Sorted
