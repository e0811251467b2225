import Mathlib

/-! Serial numbers: 32-bit numbers on a circle. Seen from a base, the numbers less than half a turn
ahead of it are ordered like the distances. -/
namespace Serial

/-- How far up from the base a number is. -/
def ahead (base x : UInt32) : Nat := (x - base).toNat

variable {base x y : UInt32}

theorem ahead_lt : ahead base x < 2 ^ 32 := (x - base).toNat_lt

@[simp] theorem ahead_self : ahead base base = 0 := by simp [ahead]

theorem ahead_rebase (base x y : UInt32) :
    ahead x y = (2 ^ 32 - ahead base x + ahead base y) % 2 ^ 32 := by
  have below := x.toNat_lt
  have below' := y.toNat_lt
  have below'' := base.toNat_lt
  simp only [ahead, UInt32.toNat_sub]
  omega

theorem ahead_eq_zero_iff : ahead base x = 0 ↔ x = base := by
  rw [ahead, ← UInt32.toNat_zero, UInt32.toNat_inj, sub_eq_zero]

theorem ahead_inj : ahead base x = ahead base y ↔ x = y := by
  constructor
  · intro same
    have apart : ahead x y = 0 := by
      have turn := ahead_rebase base x y
      have below := @ahead_lt base x
      omega
    exact (ahead_eq_zero_iff.mp apart).symm
  · rintro rfl
    rfl

theorem ahead_trans (short : ahead base x + ahead x y < 2 ^ 32) :
    ahead base y = ahead base x + ahead x y := by
  have turn := ahead_rebase base x y
  have below := @ahead_lt base x
  have below' := @ahead_lt base y
  omega

theorem ahead_of_le (le : ahead base x ≤ ahead base y) :
    ahead x y = ahead base y - ahead base x := by
  have turn := ahead_rebase base x y
  have below := @ahead_lt base y
  omega

theorem ahead_lt_half_iff (near : ahead base x < 2 ^ 31) (near' : ahead base y < 2 ^ 31) :
    ahead x y < 2 ^ 31 ↔ ahead base x ≤ ahead base y := by
  have turn := ahead_rebase base x y
  omega

theorem ahead_add {k : UInt32} (short : ahead base x + k.toNat < 2 ^ 32) :
    ahead base (x + k) = ahead base x + k.toNat := by
  have step : ahead x (x + k) = k.toNat := by simp [ahead]
  rw [ahead_trans (step ▸ short), step]

theorem ahead_pred (pos : 0 < ahead base x) : ahead base (x - 1) = ahead base x - 1 := by
  have below := x.toNat_lt
  have below' := base.toNat_lt
  simp only [ahead, UInt32.toNat_sub, UInt32.toNat_one] at *
  omega

theorem ahead_ofNat (start : UInt32) {m n : Nat} (le : m ≤ n) (short : n < m + 2 ^ 32) :
    ahead (start + UInt32.ofNat m) (start + UInt32.ofNat n) = n - m := by
  simp only [ahead, add_sub_add_left_eq_sub, UInt32.toNat_sub, UInt32.toNat_ofNat']
  omega

theorem add_ofNat_add (start k : UInt32) (m : Nat) :
    start + UInt32.ofNat (m + k.toNat) = start + UInt32.ofNat m + k := by
  rw [UInt32.ofNat_add, UInt32.ofNat_toNat, add_assoc]

theorem ahead_between {low high : UInt32} (order : ahead base low ≤ ahead base high)
    (near : ahead base high < 2 ^ 31) (above : ahead low x < 2 ^ 31)
    (below : ahead x high < 2 ^ 31) :
    ahead base low ≤ ahead base x ∧ ahead base x ≤ ahead base high := by
  have turn := ahead_rebase base low x
  have turn' := ahead_rebase base x high
  have bound := @ahead_lt base x
  omega

theorem toNat_min (x y : UInt32) : (min x y).toNat = min x.toNat y.toNat := by
  have unfolded : min x y = if x ≤ y then x else y := rfl
  rw [unfolded]
  split_ifs with le
  · exact (Nat.min_eq_left (UInt32.le_iff_toNat_le.mp le)).symm
  · rw [UInt32.le_iff_toNat_le] at le
    omega

theorem toNat_of_short (short : base.toNat + ahead base x < 2 ^ 32) :
    x.toNat = base.toNat + ahead base x := by
  have below := x.toNat_lt
  have below' := base.toNat_lt
  simp only [ahead, UInt32.toNat_sub] at *
  omega

/-- On one side of the base, the order of the numbers is the order of the distances. -/
theorem lt_iff_ahead_lt (side : base < x ∧ base < y ∨ x < base ∧ y < base) :
    x < y ↔ ahead base x < ahead base y := by
  have below := x.toNat_lt
  have below' := y.toNat_lt
  have below'' := base.toNat_lt
  simp only [ahead, UInt32.lt_iff_toNat_lt, UInt32.toNat_sub] at *
  omega

end Serial
