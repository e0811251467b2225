import Srwsn.SR.BloomTable

/-! The shared reservation bitmaps. `1<<pos` is an `int`: its count is taken modulo 32, and its sign
bit is extended to the width of the bitmap. -/
namespace Srwsn

open BitVec
namespace Reservation

variable {w pos : Nat}

def mask (w pos : Nat) : BitVec w := (1#32 <<< (pos % 32)).signExtend w

/-- The loop condition of both searches compares the masked bitmap with one, not with zero. -/
def occupied (bitmap : BitVec w) (pos : Nat) : Bool := bitmap &&& mask w pos == 1#w

/- `none` is the exit taken after `limit` redraws; the draw made just before it is not tested. -/
def search (bitmap : BitVec w) (range limit : Nat) :
    Nat → Nat → List Nat → Except Fault (Option Nat × List Nat)
  | ii, pos, draws =>
    if occupied bitmap pos then
      match draws with
      | [] => .error .outOfDraws
      | rand :: draws =>
        if ii = limit then .ok (none, draws)
          else search bitmap range limit (ii + 1) (rand % range) draws
    else .ok (some pos, draws)

def reserve (bitmap : BitVec w) (range limit : Nat) :
    List Nat → Except Fault (Option Nat × List Nat)
  | [] => .error .outOfDraws
  | rand :: draws => search bitmap range limit 0 (rand % range) draws

def blocked (zeroHeld : Bool) (pos : Nat) : Bool := zeroHeld && pos % 32 == 0

def firstUsable (zeroHeld : Bool) (range limit : Nat) (draws : List Nat) : Option Nat :=
  ((draws.take (limit + 1)).map (· % range)).find? (fun pos => !blocked zeroHeld pos)

theorem mask_low_bit (wide : 0 < w) (pos : Nat) :
    (mask w pos).getLsbD 0 = decide (pos % 32 = 0) := by
  simp only [mask, getLsbD_signExtend, wide, decide_true, Bool.true_and]
  by_cases h : pos % 32 = 0
  · simp [h]
  · simp [h, Nat.pos_of_ne_zero h]

theorem mask_of_low (h : pos % 32 = 0) (wide : 0 < w) : mask w pos = 1#w := by
  apply eq_of_getLsbD_eq
  intro i bound
  simp only [mask, h, shiftLeft_zero, getLsbD_signExtend, bound, decide_true, Bool.true_and,
    getLsbD_one, wide]
  split
  · simp
  · have : i ≠ 0 := by omega
    simp [this]

/-- Only the lowest bit can make the search redraw. -/
theorem occupied_eq_blocked (wide : 0 < w) (bitmap : BitVec w) (pos : Nat) :
    occupied bitmap pos = blocked (bitmap.getLsbD 0) pos := by
  by_cases low : pos % 32 = 0
  · simp only [occupied, mask_of_low low wide, blocked, low, beq_self_eq_true, Bool.and_true]
    by_cases set : bitmap.getLsbD 0 = true
    · rw [set, beq_iff_eq]
      apply eq_of_getLsbD_eq
      intro i _
      rw [getLsbD_and, getLsbD_one]
      by_cases zero : i = 0
      · subst zero
        simp [set]
      · simp [zero]
    · rw [Bool.eq_false_iff.mpr set, beq_eq_false_iff_ne]
      intro equal
      have bit := congrArg (fun v => getLsbD v 0) equal
      simp only [getLsbD_and, getLsbD_one, wide, decide_true, Bool.and_true] at bit
      exact set bit
  · have clear : (mask w pos).getLsbD 0 = false := by simp [mask_low_bit wide, low]
    have free : bitmap &&& mask w pos ≠ 1#w := by
      intro equal
      have bit := congrArg (fun v => getLsbD v 0) equal
      simp only [getLsbD_and, clear, getLsbD_one, wide, decide_true, Bool.and_false, Bool.and_true]
        at bit
      cases bit
    have unblocked : (pos % 32 == 0) = false := by simpa using low
    rw [occupied, blocked, unblocked, Bool.and_false]
    exact beq_eq_false_iff_ne.mpr free

theorem search_found (wide : 0 < w) (bitmap : BitVec w) (range limit : Nat) (draws : List Nat)
    (ii pos p : Nat) (more : ii ≤ limit) :
    (∃ rest, search bitmap range limit ii pos draws = .ok (some p, rest)) ↔
      (pos :: (draws.take (limit - ii)).map (· % range)).find?
        (fun q => !blocked (bitmap.getLsbD 0) q) = some p := by
  -- along the remaining draws, with the redraw counter `ii` as in the loop
  induction draws generalizing ii pos with
  | nil =>
    unfold search
    rw [occupied_eq_blocked wide]
    cases held : blocked (bitmap.getLsbD 0) pos <;> simp [held]
  | cons rand draws ih =>
    unfold search
    rw [occupied_eq_blocked wide]
    cases held : blocked (bitmap.getLsbD 0) pos with
    | false => simp [held]
    | true =>
      by_cases last : ii = limit
      · simp [held, last]
      · have next : limit - ii = (limit - (ii + 1)) + 1 := by omega
        simp only [if_true, if_neg last, ih (ii + 1) (rand % range) (by omega), next,
          List.take_succ_cons, List.map_cons]
        rw [List.find?_cons (a := pos)]
        simp [held]

theorem reserve_found (wide : 0 < w) (bitmap : BitVec w) (range limit : Nat) (draws : List Nat)
    (p : Nat) : (∃ rest, reserve bitmap range limit draws = .ok (some p, rest)) ↔
      firstUsable (bitmap.getLsbD 0) range limit draws = some p := by
  cases draws with
  | nil => simp [reserve, firstUsable]
  | cons rand draws =>
    simp only [reserve, firstUsable, List.take_succ_cons, List.map_cons]
    simpa using search_found wide bitmap range limit draws 0 (rand % range) p (Nat.zero_le limit)

def Exact (bitmap : BitVec w) (held : List Nat) : Prop :=
  ∀ i, i < w → bitmap.getLsbD i = decide (i ∈ held)

section H

variable {bitmap : BitVec w} {held : List Nat} (h : Exact bitmap held)

include h

theorem exact_unique {other : BitVec w} (h' : Exact other held) : bitmap = other :=
  eq_of_getLsbD_eq (fun i bound => (h i bound).trans (h' i bound).symm)

theorem exact_add {pos : Nat} (free : pos ∉ held) :
    Exact (bitmap + twoPow w pos) (pos :: held) := by
  have disjoint : bitmap &&& twoPow w pos = 0#w := by
    apply eq_of_getLsbD_eq
    intro i bound
    rw [getLsbD_and, getLsbD_twoPow, h i bound]
    by_cases same : pos = i
    · subst same
      simp [free]
    · simp [same]
  intro i bound
  rw [add_eq_or_of_and_eq_zero _ _ disjoint, getLsbD_or, getLsbD_twoPow, h i bound]
  by_cases same : pos = i
  · subst same
    simp [bound]
  · simp [same, Ne.symm same]

theorem exact_add_mask_iff {pos : Nat} (free : pos ∉ held) :
    Exact (bitmap + mask w pos) (pos :: held) ↔ mask w pos = twoPow w pos := by
  have right := exact_add h free
  constructor
  · intro exact
    exact (add_right_inj bitmap).mp (exact_unique exact right)
  · intro same
    rw [same]
    exact right

end H

/-- The shift is done on 32 bits with a sign: positions from 31 on write other bits. -/
theorem generator_mask_iff : ∀ pos, pos < 64 → (mask 64 pos = twoPow 64 pos ↔ pos ≤ 30) := by decide

theorem area_mask : ∀ pos, pos < 4 → mask 16 pos = twoPow 16 pos := by decide

end Reservation
end Srwsn
