import Mathlib

/-! Pieces that tile an interval of positions: each is nonempty and begins where the one before it
stops. -/
namespace Tiling

open List

variable {α : Type*} (beg stop : α → Nat)

def Tiles : Nat → List α → Nat → Prop
  | low, [], high => low = high
  | low, x :: xs, high => beg x = low ∧ beg x < stop x ∧ Tiles (stop x) xs high

def IsCut (l : List α) (high c : Nat) : Prop := c = high ∨ ∃ x ∈ l, beg x = c

def cover (l : List α) (k : Nat) : Nat := l.countP fun x => decide (beg x ≤ k ∧ k < stop x)

variable {beg stop} {low high : Nat} {l : List α} {x y : α}

theorem Tiles.low_le (tiles : Tiles beg stop low l high) : low ≤ high := by
  induction l generalizing low with
  | nil => exact tiles.le
  | cons x xs ih =>
    obtain ⟨first, nonempty, rest⟩ := tiles
    have := ih rest
    omega

theorem Tiles.mem (tiles : Tiles beg stop low l high) (member : x ∈ l) :
    low ≤ beg x ∧ beg x < stop x ∧ stop x ≤ high := by
  induction l generalizing low with
  | nil => cases member
  | cons y ys ih =>
    obtain ⟨first, nonempty, rest⟩ := tiles
    cases member with
    | head => exact ⟨first.ge, nonempty, rest.low_le⟩
    | tail _ member =>
      have inside := ih rest member
      omega

theorem Tiles.append {mid : Nat} {m : List α} (left : Tiles beg stop low l mid)
    (right : Tiles beg stop mid m high) : Tiles beg stop low (l ++ m) high := by
  induction l generalizing low with
  | nil =>
    cases left
    exact right
  | cons y ys ih => exact ⟨left.1, left.2.1, ih left.2.2⟩

theorem Tiles.low_cut (tiles : Tiles beg stop low l high) : IsCut beg l high low := by
  cases l with
  | nil => exact .inl tiles
  | cons y ys => exact .inr ⟨y, mem_cons_self, tiles.1⟩

theorem IsCut.cons {c : Nat} (cut : IsCut beg l high c) : IsCut beg (y :: l) high c := by
  obtain rfl | ⟨x, member, begins⟩ := cut
  · exact .inl rfl
  · exact .inr ⟨x, mem_cons_of_mem y member, begins⟩

section Tiles

variable (tiles : Tiles beg stop low l high)

include tiles

theorem Tiles.stop_cut (member : x ∈ l) : IsCut beg l high (stop x) := by
  induction l generalizing low with
  | nil => cases member
  | cons y ys ih =>
    cases member with
    | head => exact tiles.2.2.low_cut.cons
    | tail _ member => exact (ih tiles.2.2 member).cons

theorem Tiles.apart {c : Nat} (member : x ∈ l) (cut : IsCut beg l high c) :
    stop x ≤ c ∨ c ≤ beg x := by
  induction l generalizing low with
  | nil => cases member
  | cons y ys ih =>
    obtain ⟨first, nonempty, rest⟩ := tiles
    have later : c = beg y ∨ IsCut beg ys high c := by
      obtain rfl | ⟨z, member, begins⟩ := cut
      · exact .inr (.inl rfl)
      · cases member with
        | head => exact .inl begins.symm
        | tail _ member => exact .inr (.inr ⟨z, member, begins⟩)
    have bound : ∀ {c}, IsCut beg ys high c → stop y ≤ c := by
      rintro c (rfl | ⟨z, member, rfl⟩)
      · exact rest.low_le
      · exact (rest.mem member).1
    cases member with
    | head =>
      obtain rfl | later := later
      · exact .inr le_rfl
      · exact .inl (bound later)
    | tail _ member =>
      obtain rfl | later := later
      · have inside := rest.mem member
        exact .inr (by omega)
      · exact ih rest member later

theorem Tiles.eq_of_inside (hx : x ∈ l) (hy : y ∈ l) (left : beg x ≤ beg y)
    (right : stop y ≤ stop x) : y = x := by
  induction l generalizing low with
  | nil => cases hx
  | cons z zs ih =>
    obtain ⟨-, nonempty, rest⟩ := tiles
    cases hx with
    | head =>
      cases hy with
      | head => rfl
      | tail _ hy =>
        have inside := rest.mem hy
        omega
    | tail _ hx =>
      have inside := rest.mem hx
      cases hy with
      | head => omega
      | tail _ hy => exact ih rest hx hy

theorem Tiles.cover (k : Nat) : cover beg stop l k = if low ≤ k ∧ k < high then 1 else 0 := by
  induction l generalizing low with
  | nil =>
    cases tiles
    rw [if_neg (by omega)]
    rfl
  | cons y ys ih =>
    obtain ⟨rfl, nonempty, rest⟩ := tiles
    have ends := rest.low_le
    have later := ih rest
    simp only [Tiling.cover, countP_cons, decide_eq_true_eq] at later ⊢
    rw [later]
    split_ifs <;> omega

theorem Tiles.flatMap {f : α → List α}
    (again : ∀ x ∈ l, Tiles beg stop (beg x) (f x) (stop x)) :
    Tiles beg stop low (l.flatMap f) high := by
  induction l generalizing low with
  | nil => exact tiles
  | cons y ys ih =>
    obtain ⟨rfl, -, rest⟩ := tiles
    rw [flatMap_cons]
    exact (again y mem_cons_self).append (ih rest fun x hx => again x (mem_cons_of_mem y hx))

theorem Tiles.nodup : l.Nodup := by
  induction l generalizing low with
  | nil => exact nodup_nil
  | cons y ys ih =>
    obtain ⟨-, nonempty, rest⟩ := tiles
    refine nodup_cons.mpr ⟨fun again => ?_, ih rest⟩
    have inside := rest.mem again
    omega

theorem Tiles.count_last (some : l ≠ []) : l.countP (fun x => stop x = high) = 1 := by
  induction l generalizing low with
  | nil => exact absurd rfl some
  | cons y ys ih =>
    obtain ⟨-, nonempty, rest⟩ := tiles
    rw [countP_cons]
    cases ys with
    | nil =>
      have last : stop y = high := rest
      simp [last]
    | cons z zs =>
      have inside := rest.mem mem_cons_self
      have before : stop y ≠ high := by omega
      simp [ih rest (cons_ne_nil z zs), before]

end Tiles

def weight (beg stop : α → Nat) (l : List α) : Nat :=
  (l.map fun x => ∑ k ∈ Finset.Ico (beg x) (stop x), k).sum

theorem weight_eq_sum_cover (inside : ∀ x ∈ l, Finset.Ico (beg x) (stop x) ⊆ Finset.range high) :
    weight beg stop l = ∑ k ∈ Finset.range high, k * Tiling.cover beg stop l k := by
  induction l with
  | nil => simp [weight, Tiling.cover]
  | cons y ys ih =>
    have rest := ih fun x hx => inside x (mem_cons_of_mem y hx)
    have one : ∑ k ∈ Finset.Ico (beg y) (stop y), k =
        ∑ k ∈ Finset.range high, k * if beg y ≤ k ∧ k < stop y then 1 else 0 := by
      rw [← Finset.sum_subset (inside y mem_cons_self)]
      · refine Finset.sum_congr rfl fun k hk => ?_
        rw [if_pos (Finset.mem_Ico.mp hk), mul_one]
      · intro k _ outside
        rw [if_neg (fun held => outside (Finset.mem_Ico.mpr held)), mul_zero]
    simp only [weight, map_cons, sum_cons] at rest ⊢
    rw [rest, one, ← Finset.sum_add_distrib]
    refine Finset.sum_congr rfl fun k _ => ?_
    simp only [Tiling.cover, countP_cons, decide_eq_true_eq, mul_add]
    ring

/-- Pieces that hold each position below the end once have all the same weight. -/
theorem weight_of_cover (once : ∀ k, Tiling.cover beg stop l k = if k < high then 1 else 0) :
    weight beg stop l = ∑ k ∈ Finset.range high, k := by
  rw [weight_eq_sum_cover]
  · refine Finset.sum_congr rfl fun k hk => ?_
    rw [once, if_pos (Finset.mem_range.mp hk), mul_one]
  · intro x hx k held
    by_contra outside
    have none := once k
    rw [if_neg (fun below => outside (Finset.mem_range.mpr below)), Tiling.cover, countP_eq_zero]
      at none
    exact none x hx (by simpa using Finset.mem_Ico.mp held)

theorem tiles_range {f : Nat → α} {c : Nat → Nat} {n : Nat}
    (laid : ∀ i < n, beg (f i) = c i ∧ stop (f i) = c (i + 1) ∧ c i < c (i + 1)) :
    Tiles beg stop (c 0) ((List.range n).map f) (c n) := by
  induction n with
  | zero => rfl
  | succ n ih =>
    obtain ⟨first, last, nonempty⟩ := laid n n.lt_succ_self
    rw [range_succ, map_append]
    exact (ih fun i below => laid i (by omega)).append ⟨first, by omega, last⟩

end Tiling
