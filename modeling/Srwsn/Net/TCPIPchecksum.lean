import Mathlib

/-! The checksum of the header serializers: 16 bit words are added up in 32 bits, and the carries
are folded in late. -/
namespace Srwsn.TCPIPchecksum

open List

def fold (sum : UInt32) : UInt32 := (sum &&& (0xFFFF : UInt32)) + (sum >>> (16 : UInt32))

def wordAt (low high : UInt8) : UInt16 := UInt16.ofNat (low.toNat + 256 * high.toNat)

def addWord (sum : UInt32) (word : UInt16) : UInt32 :=
  let sum := sum + word.toUInt32
  if sum &&& (0x80000000 : UInt32) = 0 then sum else fold sum

def accumulate (sum : UInt32) : List UInt8 → UInt32
  | low :: high :: rest => accumulate (addWord sum (wordAt low high)) rest
  | [last] => sum + last.toUInt32
  | [] => sum

theorem toNat_fold (sum : UInt32) : (fold sum).toNat = sum.toNat % 65536 + sum.toNat / 65536 := by
  have low : (65535 : ℕ) = 2 ^ 16 - 1 := rfl
  have := sum.toNat_lt
  simp only [fold, UInt32.toNat_add, UInt32.toNat_and, UInt32.toNat_shiftRight, UInt32.reduceToNat,
    Nat.reduceMod, Nat.shiftRight_eq_div_pow, low, Nat.and_two_pow_sub_one_eq_mod]
  omega

theorem carry_eq_zero {sum : UInt32} : sum >>> (16 : UInt32) = 0 ↔ sum.toNat < 65536 := by
  rw [← UInt32.toNat_inj]
  simp [Nat.shiftRight_eq_div_pow]

def foldCarries (sum : UInt32) : UInt32 := if sum >>> (16 : UInt32) = 0 then sum
    else foldCarries (fold sum)
  termination_by sum.toNat
  decreasing_by
    rename_i carry
    rw [carry_eq_zero] at carry
    rw [toNat_fold]
    omega

def checksum (bytes : List UInt8) : UInt16 := (foldCarries (accumulate 0 bytes)).toUInt16

/-- The words of a buffer. An odd last byte is the low byte of one. -/
def words : List UInt8 → List UInt16
  | low :: high :: rest => wordAt low high :: words rest
  | [last] => [wordAt last 0]
  | [] => []

def total (bytes : List UInt8) : ℕ := ((words bytes).map UInt16.toNat).sum

def Same (m n : ℕ) : Prop := m % 65535 = n % 65535 ∧ (m = 0 ↔ n = 0)

theorem foldCarries_same (sum : UInt32) :
    (foldCarries sum).toNat < 65536 ∧ Same (foldCarries sum).toNat sum.toNat := by
  fun_induction foldCarries with
  | case1 sum none => exact ⟨carry_eq_zero.mp none, rfl, Iff.rfl⟩
  | case2 sum carry ih =>
    rw [toNat_fold] at ih
    unfold Same at *
    omega

/-- Adding a word never overflows, and leaves bit 31 clear for the next one. -/
theorem addWord_same {sum : UInt32} (clear : sum.toNat < 2 ^ 31) (word : UInt16) :
    (addWord sum word).toNat < 2 ^ 31 ∧ Same (addWord sum word).toNat (sum.toNat + word.toNat) := by
  have exact_sum : (sum + word.toUInt32).toNat = sum.toNat + word.toNat := by
    have := word.toNat_lt
    rw [UInt32.toNat_add, UInt16.toNat_toUInt32]
    omega
  dsimp only [addWord]
  split_ifs with low
  · have bit : (sum + word.toUInt32).toNat &&& 2 ^ 31 = 0 := congrArg UInt32.toNat low
    have bound := (sum + word.toUInt32).toNat_lt
    rw [Nat.and_two_pow, Nat.testBit_eq_decide_div_mod_eq] at bit
    simp only [mul_eq_zero, Bool.toNat_eq_zero, decide_eq_false_iff_not] at bit
    rw [← exact_sum]
    exact ⟨by omega, rfl, Iff.rfl⟩
  · have bound := (sum + word.toUInt32).toNat_lt
    rw [toNat_fold, ← exact_sum]
    unfold Same
    omega

theorem toNat_wordAt (low high : UInt8) :
    (wordAt low high).toNat = low.toNat + 256 * high.toNat := by
  have := low.toNat_lt
  have := high.toNat_lt
  simp [wordAt]
  omega

theorem accumulate_same {sum : UInt32} (clear : sum.toNat < 2 ^ 31) (bytes : List UInt8) :
    Same (accumulate sum bytes).toNat (sum.toNat + total bytes) ∧
      (Even bytes.length → (accumulate sum bytes).toNat < 2 ^ 31) := by
  fun_induction accumulate sum bytes with
  | case1 sum low high rest ih =>
    obtain ⟨clear', same⟩ := addWord_same clear (wordAt low high)
    obtain ⟨later, even⟩ := ih clear'
    simp only [total, words, map_cons, sum_cons, length_cons, Same] at *
    exact ⟨by omega, fun h => even (by simpa [Nat.even_add_one] using h)⟩
  | case2 sum last =>
    have := last.toNat_lt
    simp [Same, total, words, toNat_wordAt]
    omega
  | case3 sum =>
    simp [Same, total, words]
    omega

theorem toNat_checksum (bytes : List UInt8) :
    (checksum bytes).toNat < 65536 ∧ Same (checksum bytes).toNat (total bytes) := by
  obtain ⟨small, folded⟩ := foldCarries_same (accumulate 0 bytes)
  have same := (@accumulate_same 0 (by decide) bytes).1
  have read : (checksum bytes).toNat = (foldCarries (accumulate 0 bytes)).toNat := by
    rw [checksum, UInt32.toNat_toUInt16]
    exact Nat.mod_eq_of_lt small
  simp only [Same, UInt32.toNat_zero] at *
  omega

theorem eq_zero_of_total {bytes : List UInt8} (none : total bytes = 0) :
    ∀ b ∈ bytes, b.toNat = 0 := by
  unfold total at none
  fun_induction words bytes with
  | case1 low high rest ih =>
    rw [map_cons, sum_cons, toNat_wordAt] at none
    simp only [mem_cons, forall_eq_or_imp]
    exact ⟨by omega, by omega, ih (by omega)⟩
  | case2 last =>
    simp only [map_cons, map_nil, sum_singleton, toNat_wordAt] at none
    simp only [mem_singleton, forall_eq]
    omega
  | case3 => simp

/-- The one's complement sum of the words, in any order; with its complement in their place it
becomes 0xFFFF. -/
theorem checksum_onesComplement (bytes : List UInt8) :
    (checksum bytes).toNat % 65535 = total bytes % 65535 ∧
    (checksum bytes = 0 → ∀ b ∈ bytes, b = 0) ∧
    (∀ bytes', (words bytes').Perm (words bytes) → checksum bytes' = checksum bytes) ∧
    (∀ bytes' before after, words bytes = before ++ 0 :: after →
      words bytes' = before ++ ~~~(checksum bytes) :: after → checksum bytes' = 0xFFFF) ∧
    ∀ front back, bytes = front ++ back → Even front.length → (accumulate 0 front).toNat + 0xFFFF <
    2 ^ 32 := by
  obtain ⟨small, mod, zero⟩ := toNat_checksum bytes
  refine ⟨mod, fun none => ?_, fun bytes' perm => ?_, fun bytes' before after cleared written => ?_,
    fun front _ _ even => ?_⟩
  · exact fun b inside => UInt8.toNat_inj.mp (eq_zero_of_total (zero.mp (by rw [none]; rfl)) b
      inside)
  · obtain ⟨small', mod', zero'⟩ := toNat_checksum bytes'
    rw [total, (perm.map _).sum_eq, ← total] at mod' zero'
    exact UInt16.toNat_inj.mp (by omega)
  · obtain ⟨small', mod', zero'⟩ := toNat_checksum bytes'
    have sum : total bytes' = total bytes + (65535 - (checksum bytes).toNat) := by
      simp [total, cleared, written]
      omega
    exact UInt16.toNat_inj.mp (show _ = 65535 by omega)
  · have := (@accumulate_same 0 (by decide) front).2 even
    omega

end Srwsn.TCPIPchecksum
