import Mathlib

/-! Sets of naturals kept as blocks `[lo i, hi i]`, `i < n`, whose ends are in two arrays. -/
namespace Blocks

open Function

section Shift

variable {α : Type*}

def shiftUp (a : ℕ → α) (i : ℕ) : ℕ → ℕ → α
  | 0 => a
  | n + 1 => if i < n + 1 then shiftUp (update a (n + 1) (a n)) i n else a

def shiftDown (a : ℕ → α) (i : ℕ) : ℕ → ℕ → α
  | 0 => a
  | k + 1 => update (shiftDown a i k) (i + k) (shiftDown a i k (i + k + 1))

theorem shiftUp_apply (a : ℕ → α) (i n j : ℕ) : shiftUp a i n j = if i < j ∧ j ≤ n then a (j - 1)
    else a j := by
  induction n generalizing a with
  | zero => simp only [shiftUp]; rw [if_neg (by omega)]
  | succ n ih =>
    unfold shiftUp
    split_ifs with inside range range
    · rw [ih]
      rcases eq_or_ne j (n + 1) with rfl | other
      · rw [if_neg (by omega), update_self, Nat.add_sub_cancel]
      · rw [if_pos (by omega), update_of_ne (by omega)]
    · rw [ih, if_neg (by omega), update_of_ne (by omega)]
    · omega
    · rfl

theorem shiftDown_apply (a : ℕ → α) (i k j : ℕ) :
    shiftDown a i k j = if i ≤ j ∧ j < i + k then a (j + 1) else a j := by
  induction k generalizing j with
  | zero => simp only [shiftDown]; rw [if_neg (by omega)]
  | succ k ih =>
    simp only [shiftDown, update_apply, ih]
    split_ifs with here up mid mid mid mid <;> first | omega | rfl | (subst here; rfl)

end Shift

/-- No block is empty, and none touches the one before it. -/
structure Spaced (n : ℕ) (lo hi : ℕ → ℕ) : Prop where
  order : ∀ i < n, lo i ≤ hi i
  apart : ∀ i, i + 1 < n → hi i + 1 < lo (i + 1)

def Covers (n : ℕ) (lo hi : ℕ → ℕ) (x : ℕ) : Prop := ∃ i < n, lo i ≤ x ∧ x ≤ hi i

variable {n : ℕ} {lo hi lo' hi' : ℕ → ℕ} {i j x : ℕ}

theorem Spaced.lt (h : Spaced n lo hi) (before : i < j) (inside : j < n) : hi i + 1 < lo j := by
  induction j with
  | zero => omega
  | succ j ih =>
    have next := h.apart j inside
    rcases Nat.lt_succ_iff_lt_or_eq.mp before with less | rfl
    · have below := ih less (by omega)
      have order := h.order j (by omega)
      omega
    · exact next

theorem Spaced.eq_of_mem (h : Spaced n lo hi) (inside : i < n) (inside' : j < n)
    (here : lo i ≤ x ∧ x ≤ hi i) (there : lo j ≤ x ∧ x ≤ hi j) : i = j := by
  rcases lt_trichotomy i j with before | same | after
  · have := h.lt before inside'
    omega
  · exact same
  · have := h.lt after inside
    omega

theorem Spaced.le_last (h : Spaced (n + 1) lo hi) (covered : Covers (n + 1) lo hi x) :
    x ≤ hi n := by
  obtain ⟨i, inside, -, stop⟩ := covered
  rcases Nat.lt_succ_iff_lt_or_eq.mp inside with less | rfl
  · have later := h.lt less (Nat.lt_succ_self n)
    have order := h.order n (Nat.lt_succ_self n)
    omega
  · exact stop

theorem covers_split (inside : i < n) {y : ℕ} :
    Covers n lo hi y ↔ (lo i ≤ y ∧ y ≤ hi i) ∨ ∃ j < n, j ≠ i ∧ lo j ≤ y ∧ y ≤ hi j := by
  constructor
  · rintro ⟨j, less, here⟩
    by_cases same : j = i
    · exact .inl (same ▸ here)
    · exact .inr ⟨j, less, same, here⟩
  · rintro (here | ⟨j, less, -, here⟩)
    · exact ⟨i, inside, here⟩
    · exact ⟨j, less, here⟩

theorem Spaced.edit (h : Spaced n lo hi) (inside : i < n) (order : lo' i ≤ hi' i)
    (low : ∀ j, j + 1 = i → hi j + 1 < lo' i) (high : i + 1 < n → hi' i + 1 < lo (i + 1))
    (others : ∀ j < n, j ≠ i → lo' j = lo j ∧ hi' j = hi j) :
    Spaced n lo' hi' ∧ ∀ y, Covers n lo' hi' y ↔
      (lo' i ≤ y ∧ y ≤ hi' i) ∨ ∃ j < n, j ≠ i ∧ lo j ≤ y ∧ y ≤ hi j := by
  refine ⟨⟨fun j less => ?_, fun j less => ?_⟩,
    fun y => (covers_split inside).trans (or_congr_right ?_)⟩
  · by_cases same : j = i
    · exact same ▸ order
    · rw [(others j less same).1, (others j less same).2]
      exact h.order j less
  · by_cases same : j = i
    · rw [same, (others (i + 1) (same ▸ less) (Nat.succ_ne_self i)).1]
      exact high (same ▸ less)
    · rw [(others j (by omega) same).2]
      by_cases next : j + 1 = i
      · exact next ▸ low j next
      · rw [(others (j + 1) less next).1]
        exact h.apart j less
  · refine exists_congr fun j => and_congr_right fun less => and_congr_right fun other => ?_
    rw [(others j less other).1, (others j less other).2]

/-- The second list is the first, of `n + 1` blocks, without block `i`. -/
structure Omits (n i : ℕ) (lo hi lo' hi' : ℕ → ℕ) : Prop where
  before : ∀ j < i, lo' j = lo j ∧ hi' j = hi j
  after : ∀ j, i ≤ j → j < n → lo' j = lo (j + 1) ∧ hi' j = hi (j + 1)

section Omits

variable (omits : Omits n i lo hi lo' hi')

include omits

theorem Omits.others (inside : i ≤ n) {y : ℕ} : Covers n lo' hi' y ↔ ∃ j < n + 1, j ≠ i ∧ lo j ≤ y ∧
    y ≤ hi j := by
  constructor
  · rintro ⟨j, less, here⟩
    rcases Nat.lt_or_ge j i with below | above
    · rw [(omits.before j below).1, (omits.before j below).2] at here
      exact ⟨j, by omega, below.ne, here⟩
    · rw [(omits.after j above less).1, (omits.after j above less).2] at here
      exact ⟨j + 1, by omega, by omega, here⟩
  · rintro ⟨j, less, other, here⟩
    rcases Nat.lt_or_gt_of_ne other with below | above
    · exact ⟨j, by omega, by rwa [(omits.before j below).1, (omits.before j below).2]⟩
    · obtain ⟨j, rfl⟩ := Nat.exists_eq_add_one_of_ne_zero (Nat.ne_zero_of_lt above)
      have same := omits.after j (by omega) (by omega)
      exact ⟨j, by omega, by rwa [same.1, same.2]⟩

theorem Omits.covers (inside : i ≤ n) {y : ℕ} :
    Covers (n + 1) lo hi y ↔ (lo i ≤ y ∧ y ≤ hi i) ∨ Covers n lo' hi' y := by
  rw [covers_split (Nat.lt_succ_of_le inside), omits.others inside]

theorem Omits.spaced (h : Spaced (n + 1) lo hi) : Spaced n lo' hi' := by
  refine ⟨fun j less => ?_, fun j less => ?_⟩
  · rcases Nat.lt_or_ge j i with below | above
    · rw [(omits.before j below).1, (omits.before j below).2]
      exact h.order j (by omega)
    · rw [(omits.after j above less).1, (omits.after j above less).2]
      exact h.order (j + 1) (by omega)
  · rcases Nat.lt_or_ge (j + 1) i with below | above
    · rw [(omits.before j (by omega)).2, (omits.before (j + 1) below).1]
      exact h.apart j (by omega)
    · rw [(omits.after (j + 1) above less).1]
      rcases Nat.lt_or_ge j i with below | above
      · rw [(omits.before j below).2]
        exact h.lt (by omega) (by omega)
      · rw [(omits.after j above (by omega)).2]
        exact h.apart (j + 1) (by omega)

theorem Omits.spaced_of (inside : i ≤ n) (h : Spaced n lo' hi') (order : lo i ≤ hi i)
    (low : ∀ j, j + 1 = i → hi' j + 1 < lo i) (high : i < n → hi i + 1 < lo' i) :
    Spaced (n + 1) lo hi := by
  refine ⟨fun j less => ?_, fun j less => ?_⟩
  · rcases lt_trichotomy j i with below | rfl | above
    · rw [← (omits.before j below).1, ← (omits.before j below).2]
      exact h.order j (by omega)
    · exact order
    · obtain ⟨j, rfl⟩ := Nat.exists_eq_add_one_of_ne_zero (Nat.ne_zero_of_lt above)
      have same := omits.after j (by omega) (by omega)
      rw [← same.1, ← same.2]
      exact h.order j (by omega)
  · rcases lt_trichotomy j i with below | rfl | above
    · rw [← (omits.before j below).2]
      rcases Nat.eq_or_lt_of_le (Nat.succ_le_of_lt below) with next | below
      · subst next
        exact low j rfl
      · rw [← (omits.before (j + 1) below).1]
        exact h.apart j (by omega)
    · rw [← (omits.after j le_rfl (by omega)).1]
      exact high (by omega)
    · obtain ⟨j, rfl⟩ := Nat.exists_eq_add_one_of_ne_zero (Nat.ne_zero_of_lt above)
      rw [← (omits.after j (by omega) (by omega)).2,
        ← (omits.after (j + 1) (by omega) (by omega)).1]
      exact h.apart j (by omega)

end Omits

theorem Spaced.raise (h : Spaced n lo hi) (inside : i < n) (touch : x = hi i + 1)
    (free : i + 1 < n → x + 1 < lo (i + 1)) (ends : ∀ j < n, hi' j = if j = i then x else hi j) :
    Spaced n lo hi' ∧ ∀ y, Covers n lo hi' y ↔ y = x ∨ Covers n lo hi y := by
  have here := h.order i inside
  have top : hi' i = x := by simp [ends i inside]
  obtain ⟨spaced, covers⟩ := @Spaced.edit n lo hi lo hi' i h inside (by omega)
    (fun j next => next ▸ h.apart j (next ▸ inside)) (top ▸ free) fun j less other =>
    ⟨rfl, by simp [ends j less, other]⟩
  refine ⟨spaced, fun y => ?_⟩
  rw [covers, covers_split inside, ← or_assoc]
  refine or_congr_left ?_
  omega

theorem Spaced.lower (h : Spaced n lo hi) (inside : i + 1 < n) (free : hi i + 1 < x)
    (touch : x + 1 = lo (i + 1)) (starts : ∀ j < n, lo' j = if j = i + 1 then x else lo j) :
    Spaced n lo' hi ∧ ∀ y, Covers n lo' hi y ↔ y = x ∨ Covers n lo hi y := by
  have here := h.order (i + 1) inside
  have bottom : lo' (i + 1) = x := by simp [starts _ inside]
  obtain ⟨spaced, covers⟩ := @Spaced.edit n lo hi lo' hi (i + 1) h inside (by omega)
    (fun j next => by rwa [bottom, Nat.succ.inj next]) (h.apart (i + 1)) fun j less other =>
      ⟨by simp [starts j less, other], rfl⟩
  refine ⟨spaced, fun y => ?_⟩
  rw [covers, covers_split inside, ← or_assoc]
  refine or_congr_left ?_
  omega

theorem Spaced.insert (h : Spaced n lo hi) (inside : i < n) (low : hi i + 1 < x)
    (high : i + 1 < n → x + 1 < lo (i + 1)) (starts : ∀ j ≤ n, lo' j = if j ≤ i then lo j
      else if j = i + 1 then x else lo (j - 1))
    (ends : ∀ j ≤ n, hi' j = if j ≤ i then hi j else if j = i + 1 then x else hi (j - 1)) :
    Spaced (n + 1) lo' hi' ∧ ∀ y, Covers (n + 1) lo' hi' y ↔ y = x ∨ Covers n lo hi y := by
  have new : lo' (i + 1) = x ∧ hi' (i + 1) = x := by simp [starts _ inside, ends _ inside]
  have omits : Omits n (i + 1) lo' hi' lo hi := by
    refine ⟨fun j below => ?_, fun j above less => ?_⟩
    · simp [starts j (by omega), ends j (by omega), Nat.le_of_lt_succ below]
    · simp [starts (j + 1) less, ends (j + 1) less, show ¬ j + 1 ≤
        i by omega, show ¬ j = i by omega]
  refine ⟨omits.spaced_of inside h (by omega) (fun j next => ?_) (by rwa [new.2]), fun y => ?_⟩
  · rwa [new.1, Nat.succ.inj next]
  · rw [omits.covers inside]
    refine or_congr_left ?_
    omega

theorem Spaced.join (h : Spaced (n + 1) lo hi) (inside : i < n) (low : x = hi i + 1)
    (high : x + 1 = lo (i + 1)) (starts : ∀ j < n, lo' j = if j ≤ i then lo j else lo (j + 1))
    (ends : ∀ j < n, hi' j = if j < i then hi j else hi (j + 1)) :
    Spaced n lo' hi' ∧ ∀ y, Covers n lo' hi' y ↔ y = x ∨ Covers (n + 1) lo hi y := by
  have here := h.order i (by omega)
  have next := h.order (i + 1) (by omega)
  have merged : lo' i = lo i ∧ hi' i = hi (i + 1) := by simp [starts i inside, ends i inside]
  -- the upper neighbour goes first, and then the lower one reaches to its end
  have omits : Omits n (i + 1) lo hi lo' fun j => if j ≤ i then hi j else hi (j + 1) := by
    refine ⟨fun j below => ?_, fun j above less => ?_⟩
    · simp [starts j (by omega), Nat.le_of_lt_succ below]
    · simp [starts j less, show ¬ j ≤ i by omega]
  have spaced := omits.spaced h
  obtain ⟨spaced', covers⟩ := @Spaced.edit n _ _ lo' hi' i spaced inside (by omega)
    (fun j next => next ▸ spaced.apart j (next ▸ inside))
    (fun less => by
      rw [merged.2, starts _ less, if_neg (by omega)]
      exact h.apart (i + 1) (by omega))
    fun j less other => ⟨rfl, by rw [ends j less]; split_ifs <;> first | rfl | omega⟩
  refine ⟨spaced', fun y => ?_⟩
  rw [covers, omits.covers inside, covers_split inside, ← or_assoc, ← or_assoc]
  refine or_congr_left ?_
  simp only [le_refl, if_true]
  omega

section

variable (h : Spaced n lo hi) (inside : i < n)

include h inside

theorem Spaced.ne_of_other (here : lo i ≤ x ∧ x ≤ hi i) {y : ℕ}
    (others : ∃ j < n, j ≠ i ∧ lo j ≤ y ∧ y ≤ hi j) : y ≠ x := by
  rintro rfl
  obtain ⟨j, less, other, there⟩ := others
  exact other (h.eq_of_mem less inside there here)

theorem Spaced.shrink_top (top : x = hi i) (more : lo i < x)
    (ends : ∀ j < n, hi' j = if j = i then x - 1 else hi j) :
    Spaced n lo hi' ∧ ∀ y, Covers n lo hi' y ↔ Covers n lo hi y ∧ y ≠ x := by
  have top' : hi' i = x - 1 := by simp [ends i inside]
  obtain ⟨spaced, covers⟩ := @Spaced.edit n lo hi lo hi' i h inside (by omega)
    (fun j next => next ▸ h.apart j (next ▸ inside)) (fun less => by have := h.apart i less; omega)
    fun j less other => ⟨rfl, by simp [ends j less, other]⟩
  refine ⟨spaced, fun y => ?_⟩
  rw [covers, covers_split inside, or_and_right,
    and_iff_left_of_imp (h.ne_of_other inside ⟨more.le, top.le⟩)]
  refine or_congr_left ?_
  omega

theorem Spaced.shrink_bottom (bottom : x = lo i) (more : x < hi i)
    (begins : ∀ j < n, lo' j = if j = i then x + 1 else lo j) :
    Spaced n lo' hi ∧ ∀ y, Covers n lo' hi y ↔ Covers n lo hi y ∧ y ≠ x := by
  have bottom' : lo' i = x + 1 := by simp [begins i inside]
  obtain ⟨spaced, covers⟩ := @Spaced.edit n lo hi lo' hi i h inside (by omega)
    (fun j next => by have := h.apart j (next ▸ inside); rw [next] at this; omega) (h.apart i)
    fun j less other => ⟨by simp [begins j less, other], rfl⟩
  refine ⟨spaced, fun y => ?_⟩
  rw [covers, covers_split inside, or_and_right,
    and_iff_left_of_imp (h.ne_of_other inside ⟨bottom.ge, more.le⟩)]
  refine or_congr_left ?_
  omega

theorem Spaced.split (low : lo i < x) (high : x < hi i)
    (begins : ∀ j ≤ n, lo' j = if j ≤ i then lo j else if j = i + 1 then x + 1 else lo (j - 1))
    (ends : ∀ j ≤ n, hi' j = if j < i then hi j else if j = i then x - 1 else hi (j - 1)) :
    Spaced (n + 1) lo' hi' ∧ ∀ y, Covers (n + 1) lo' hi' y ↔ Covers n lo hi y ∧ y ≠ x := by
  have upper : lo' (i + 1) = x + 1 ∧ hi' (i + 1) = hi i := by simp [begins _ inside, ends _ inside]
  -- the lower part stays block `i`, and then the upper part is put behind it
  obtain ⟨spaced, covers⟩ := @Spaced.edit n lo hi lo (update hi i (x - 1)) i h inside
    (by rw [update_self]; omega) (fun j next => next ▸ h.apart j (next ▸ inside))
    (fun less => by have := h.apart i less; rw [update_self]; omega)
    fun j less other => ⟨rfl, update_of_ne other _ _⟩
  rw [update_self] at covers
  have omits : Omits n (i + 1) lo' hi' lo (update hi i (x - 1)) := by
    refine ⟨fun j below => ⟨?_, ?_⟩, fun j above less => ⟨?_, ?_⟩⟩
    · rw [begins j (by omega), if_pos (by omega)]
    · rw [ends j (by omega), update_apply]
      split_ifs <;> first | rfl | omega
    · rw [begins (j + 1) less, if_neg (by omega), if_neg (by omega), Nat.add_sub_cancel]
    · rw [ends (j + 1) less, if_neg (by omega), if_neg (by omega), update_of_ne (by omega),
        Nat.add_sub_cancel]
  refine ⟨omits.spaced_of inside spaced (by omega) (fun j next => ?_)
    (fun less => upper.2 ▸ h.apart i less), fun y => ?_⟩
  · rw [Nat.succ.inj next, update_self]
    omega
  · rw [omits.covers inside, covers, covers_split inside, or_and_right,
      and_iff_left_of_imp (h.ne_of_other inside ⟨low.le, high.le⟩), ← or_assoc]
    refine or_congr_left ?_
    omega

end

theorem Spaced.delete (h : Spaced (n + 1) lo hi) (inside : i < n + 1) (only : lo i = x ∧ hi i = x)
    (begins : ∀ j < n, lo' j = if j < i then lo j else lo (j + 1))
    (ends : ∀ j < n, hi' j = if j < i then hi j else hi (j + 1)) :
    Spaced n lo' hi' ∧ ∀ y, Covers n lo' hi' y ↔ Covers (n + 1) lo hi y ∧ y ≠ x := by
  have omits : Omits n i lo hi lo' hi' := by
    refine ⟨fun j below => ?_, fun j above less => ?_⟩
    · simp [begins j (by omega), ends j (by omega), below]
    · simp [begins j less, ends j less, Nat.not_lt.mpr above]
  refine ⟨omits.spaced h, fun y => ?_⟩
  have ne := @Spaced.ne_of_other (n + 1) lo hi i x h inside ⟨only.1.le, only.2.ge⟩ y
  rw [omits.others (by omega), covers_split inside, or_and_right, and_iff_left_of_imp ne]
  refine (or_iff_right ?_).symm
  omega

end Blocks
