import Srwsn.Net.RouteLookup

/-! The functions of `IPAddress` on prefixes and netmasks, bit by bit. -/
namespace Srwsn
namespace IPAddress

def hasBit (addr : UInt32) (i : Nat) : Bool := addr &&& ((1 : UInt32) <<< .ofNat i) != 0

def matchingFrom (res : UInt32) : Nat → Int
  | 0 => 32
  | i + 1 => if hasBit res i then 31 - i else matchingFrom res i

def getNumMatchingPrefixBits (addr to_cmp : UInt32) : Int := matchingFrom (addr ^^^ to_cmp) 32

def netmaskLengthFrom (addr : UInt32) : Nat → Nat → Int
  | 0, _ => 0
  | n + 1, i => if hasBit addr i then 32 - i else netmaskLengthFrom addr n (i + 1)

def getNetmaskLength (addr : UInt32) : Int := netmaskLengthFrom addr 31 0

/-- A shift by the width of the type or more is undefined. -/
def keepFirstBits (addr n : UInt32) : Option UInt32 :=
  if n < 32 then some (addr &&& (0xFFFFFFFF <<< n)) else none

def bit (addr : UInt32) (i : Nat) : Bool := addr.toNat.testBit i

/- `r` has the first `k` bits of `a`, and zeros elsewhere. Bit 31 is the first. -/
def FirstBits (a : UInt32) (k : Nat) (r : UInt32) : Prop :=
  ∀ i < 32, bit r i = (bit a i && decide (32 ≤ i + k))

structure Agree (a b : UInt32) (k : Nat) : Prop where
  length : getNetmaskLength (prefixMask k) = k
  masked : maskedAddrAreEqual a b (prefixMask k) = prefixMatches a b k
  matching : prefixMatches a b k = decide (k ≤ getNumMatchingPrefixBits a b)
  kept : ∃ r, keepFirstBits a (.ofNat k) = some r ∧ FirstBits a k r

theorem eq_of_bit {a b : UInt32} (same : ∀ i < 32, bit a i = bit b i) : a = b := by
  apply UInt32.toNat_inj.mp
  apply Nat.eq_of_testBit_eq
  intro i
  by_cases low : i < 32
  · exact same i low
  · have wide (c : UInt32) : c.toNat < 2 ^ i :=
      c.toNat_lt.trans_le (Nat.pow_le_pow_right (by decide) (by omega))
    rw [Nat.testBit_lt_two_pow (wide a), Nat.testBit_lt_two_pow (wide b)]

@[simp] theorem bit_and (a b : UInt32) (i : Nat) : bit (a &&& b) i = (bit a i && bit b i) := by
  simp [bit]

@[simp] theorem bit_xor (a b : UInt32) (i : Nat) : bit (a ^^^ b) i = (bit a i ^^ bit b i) := by
  simp [bit]

theorem bit_prefixMask : ∀ k : Fin 33, ∀ i : Fin 32,
    bit (prefixMask k) i = decide (32 ≤ i.val + k.val) := by decide +kernel

theorem bit_shift : ∀ k i :
    Fin 32, bit ((0xFFFFFFFF : UInt32) <<< .ofNat k) i = decide (k ≤ i) := by decide +kernel

theorem prefixMask_eq : ∀ k : Fin 33, 1 ≤ k.val → k.val ≤ 31 →
    ~~~((0xFFFFFFFF : UInt32) >>> .ofNat k) = prefixMask k := by decide +kernel

theorem getNetmaskLength_prefixMask : ∀ k : Fin 33,
    getNetmaskLength (prefixMask k) = if k.val = 1 then 0 else k.val := by decide +kernel

theorem hasBit_eq {addr : UInt32} {i : Nat} (low : i < 32) : hasBit addr i = bit addr i := by
  have shifted : ((1 : UInt32) <<< .ofNat i).toNat = 2 ^ i := by
    have small : 2 ^ i < 2 ^ 32 := Nat.pow_lt_pow_right (by decide) low
    have count : (UInt32.ofNat i).toNat = i :=
      UInt32.toNat_ofNat_of_lt (by simp [UInt32.size]; omega)
    rw [UInt32.toNat_shiftLeft, count, Nat.mod_eq_of_lt low]
    simpa [Nat.one_shiftLeft] using Nat.mod_eq_of_lt small
  have zero : addr &&& ((1 : UInt32) <<< .ofNat i) = 0 ↔ bit addr i = false := by
    rw [← UInt32.toNat_inj, UInt32.toNat_and, shifted, Nat.and_two_pow]
    cases set : addr.toNat.testBit i <;> simp [bit, set]
  cases set : bit addr i <;> simp [hasBit, zero, set]

theorem le_matchingFrom_iff {res : UInt32} {k : Nat} (short : k ≤ 32) {n : Nat} (low : n ≤ 32) :
    (k : Int) ≤ matchingFrom res n ↔ ∀ i < n, 32 ≤ i + k → bit res i = false := by
  induction n with
  | zero => simpa [matchingFrom] using short
  | succ n ih =>
    rw [matchingFrom, hasBit_eq low]
    split_ifs with set
    · constructor
      · intro above i below far
        omega
      · intro equal
        by_contra above
        exact absurd (equal n (by omega) (by omega)) (by simp [set])
    · rw [ih (by omega)]
      constructor
      · intro equal i below far
        by_cases here : i = n
        · simpa [here] using set
        · exact equal i (by omega) far
      · exact fun equal i below => equal i (by omega)

section Prefix

variable (a b : UInt32) (k : Fin 33)

def SamePrefix (k : Nat) : Prop := ∀ i < 32, 32 ≤ i + k → bit a i = bit b i

theorem and_prefixMask_eq_iff : a &&& prefixMask k = b &&& prefixMask k ↔ SamePrefix a b k := by
  constructor
  · intro same i low far
    have here := congrArg (bit · i) same
    simpa [bit_prefixMask k ⟨i, low⟩, far] using here
  · intro same
    apply eq_of_bit
    intro i low
    rw [bit_and, bit_and, bit_prefixMask k ⟨i, low⟩]
    by_cases far : 32 ≤ i + k.val
    · rw [same i low far]
    · simp [far]

theorem maskedAddrAreEqual_iff : maskedAddrAreEqual a b (prefixMask k) ↔ SamePrefix a b k := by
  rw [← and_prefixMask_eq_iff, maskedAddrAreEqual, beq_iff_eq]
  have spread : (a ^^^ b) &&& prefixMask k = (a &&& prefixMask k) ^^^ (b &&& prefixMask k) := by
    apply eq_of_bit
    intro i _
    simp only [bit_and, bit_xor, Bool.and_xor_distrib_right]
  rw [spread, UInt32.xor_eq_zero_iff]

theorem prefixMatches_iff : prefixMatches a b k.val ↔ SamePrefix a b k := by
  unfold prefixMatches
  split_ifs with none all
  · simp only [true_iff]
    intro i low far
    omega
  · rw [beq_iff_eq]
    constructor
    · rintro rfl i low far
      rfl
    · exact fun same => eq_of_bit fun i low => same i low (by omega)
  · dsimp only
    rw [Int.toNat_natCast, prefixMask_eq k (by omega) (by omega), beq_iff_eq, and_prefixMask_eq_iff]

theorem matching_iff : k.val ≤ getNumMatchingPrefixBits a b ↔ SamePrefix a b k := by
  rw [getNumMatchingPrefixBits, le_matchingFrom_iff (by omega) le_rfl]
  simp [SamePrefix]

theorem keepFirstBits_iff : (∃ r, keepFirstBits a (.ofNat k) = some r ∧ FirstBits a k r) ↔
    k.val < 32 ∧ ∀ i < 32, bit a i → (k.val ≤ i ↔ 32 ≤ i + k.val) := by
  have count : (UInt32.ofNat k.val < 32) ↔ k.val < 32 := by
    revert k
    decide
  unfold keepFirstBits
  split_ifs with defined
  · have short := count.mp defined
    have kept (i : Nat) (low : i < 32) : bit (a &&& ((0xFFFFFFFF : UInt32) <<< .ofNat k)) i =
        (bit a i && decide (k.val ≤ i)) := by
      rw [bit_and, bit_shift ⟨k, short⟩ ⟨i, low⟩]
      rfl
    simp only [Option.some.injEq, exists_eq_left', FirstBits, short, true_and]
    refine forall₂_congr fun i low => ?_
    rw [kept i low]
    cases bit a i <;> simp
  · simp [mt count.mpr defined]

theorem agree_iff : Agree a b k ↔ k.val ≠ 1 ∧ k.val < 32 ∧ ∀ i < 32, bit a i →
    (k.val ≤ i ↔ 32 ≤ i + k.val) := by
  rw [← keepFirstBits_iff]
  have length : getNetmaskLength (prefixMask k) = k.val ↔ k.val ≠ 1 := by
    rw [getNetmaskLength_prefixMask]
    split_ifs with one <;> simp [one]
  constructor
  · exact fun agree => ⟨length.mp agree.length, agree.kept⟩
  · rintro ⟨other, kept⟩
    refine ⟨length.mpr other, ?_, ?_, kept⟩
    · exact Bool.eq_iff_iff.mpr ((maskedAddrAreEqual_iff a b k).trans
        (prefixMatches_iff a b k).symm)
    · apply Bool.eq_iff_iff.mpr
      rw [prefixMatches_iff, decide_eq_true_iff, matching_iff]

end Prefix

/-- A netmask of one bit has length 0, and eight bits of 10.1.2.3 are 24. -/
theorem not_agree : getNetmaskLength 0x80000000 = 0 ∧ ¬ Agree 0 0 1 ∧
    keepFirstBits 0x0A010203 8 = some 0x0A010200 ∧ ¬ Agree 0x0A010203 0 8 := by
  refine ⟨by decide, fun agree => absurd agree.length (by decide), by decide, fun agree => ?_⟩
  obtain ⟨r, kept, first⟩ := agree.kept
  cases Option.some.inj kept
  exact absurd (first 9 (by decide)) (by decide)

end IPAddress
end Srwsn
