import Mathlib

/-! Link state advertisements: their headers and contents, and which of two instances is more
recent. -/
namespace Srwsn

namespace OSPF

def MAX_AGE : UInt16 := 3600
def MAX_AGE_DIFF : Int := 900
def MIN_LS_ARRIVAL : Nat := 1
def MAX_SEQUENCE_NUMBER : Int := 2147483647

inductive LSAType where
  | RouterLSAType | NetworkLSAType | SummaryLSA_NetworksType | SummaryLSA_ASBoundaryRoutersType
  | ASExternalLSAType | unknown (code : UInt8)
  deriving DecidableEq

structure LSAHeader where
  lsAge : UInt16 := 0
  lsType : LSAType
  linkStateID : UInt64
  advertisingRouter : UInt32
  lsSequenceNumber : Int := 0
  lsChecksum : UInt16 := 0
  deriving DecidableEq

inductive LinkType where
  | PointToPointLink | TransitLink | StubLink | VirtualLink
  deriving DecidableEq

structure Link where
  linkID : UInt32
  linkData : UInt64
  type : LinkType
  linkCost : Nat := 1
  deriving DecidableEq

inductive LSABody where
  | router (V_VirtualLinkEndpoint E_ASBoundaryRouter B_AreaBorderRouter : Bool) (links : List Link)
  | network (networkMask : UInt32) (attachedRouters : List UInt32)
  | summary (networkMask : UInt32) (routeCost : Nat)
  | external (networkMask : UInt32) (E_ExternalMetricType : Bool) (routeCost : Nat)
      (forwardingAddress : UInt32)
  deriving DecidableEq

structure LSA where
  header : LSAHeader
  body : LSABody
  deriving DecidableEq

namespace LSAHeader

variable (a b : LSAHeader)

def ageDifference : Int := |(a.lsAge.toNat : Int) - b.lsAge.toNat|

/- `operator<`: the left instance is older. -/
def older (leftLSA rightLSA : LSAHeader) : Bool :=
  if leftLSA.lsSequenceNumber < rightLSA.lsSequenceNumber then true
  else if leftLSA.lsSequenceNumber = rightLSA.lsSequenceNumber then
    if leftLSA.lsChecksum < rightLSA.lsChecksum then true
    else if leftLSA.lsChecksum = rightLSA.lsChecksum then
      if leftLSA.lsAge ≠ MAX_AGE ∧ rightLSA.lsAge = MAX_AGE then true
      else if ageDifference leftLSA rightLSA > MAX_AGE_DIFF ∧ leftLSA.lsAge > rightLSA.lsAge then
        true
      else false
    else false
  else false

def same (leftLSA rightLSA : LSAHeader) : Bool :=
  leftLSA.lsSequenceNumber == rightLSA.lsSequenceNumber && leftLSA.lsChecksum ==
    rightLSA.lsChecksum && (leftLSA.lsAge == MAX_AGE && rightLSA.lsAge == MAX_AGE ||
      leftLSA.lsAge != MAX_AGE && rightLSA.lsAge != MAX_AGE &&
      decide (ageDifference leftLSA rightLSA ≤ MAX_AGE_DIFF))

def Alike : Prop := a.lsSequenceNumber = b.lsSequenceNumber ∧ a.lsChecksum = b.lsChecksum
  deriving Decidable

def Before : Prop :=
  a.lsSequenceNumber < b.lsSequenceNumber ∨ a.lsSequenceNumber = b.lsSequenceNumber ∧ a.lsChecksum <
    b.lsChecksum

/-- The more recent of two instances: by sequence number, by checksum, by age `MAX_AGE`, and by an
age that is much smaller. -/
def Newer : Prop :=
  b.Before a ∨ a.Alike b ∧ b.lsAge ≠ MAX_AGE ∧
    (a.lsAge = MAX_AGE ∨ a.lsAge.toNat + 900 < b.lsAge.toNat)

/-- Exactly one of "older", "newer" and "the same instance" holds, and an instance of age `MAX_AGE`
is not older than one that is alike and younger. -/
structure Ordered (a b : LSAHeader) : Prop where
  one : (a.older b, b.older a, a.same b) = (true, false, false) ∨ (a.older b, b.older a, a.same b) =
    (false, true, false) ∨ (a.older b, b.older a, a.same b) = (false, false, true)
  left : a.Alike b → a.lsAge = MAX_AGE → b.lsAge < MAX_AGE → a.older b = false
  right : a.Alike b → b.lsAge = MAX_AGE → a.lsAge < MAX_AGE → b.older a = false

/-- The first has age `MAX_AGE`, and the second is younger by more than `MAX_AGE_DIFF`. -/
def Outdates : Prop := a.Alike b ∧ a.lsAge = MAX_AGE ∧ b.lsAge < 2700
  deriving Decidable

def Clash : Prop := a.Outdates b ∨ b.Outdates a
  deriving Decidable

variable {a b : LSAHeader}

theorem ageDifference_gt : ageDifference a b > MAX_AGE_DIFF ∧ a.lsAge > b.lsAge ↔
    b.lsAge.toNat + 900 < a.lsAge.toNat := by
  unfold ageDifference MAX_AGE_DIFF
  rw [gt_iff_lt, gt_iff_lt, lt_abs, UInt16.lt_iff_toNat_lt]
  omega

theorem lsAge_eq_max : a.lsAge = MAX_AGE ↔ a.lsAge.toNat = 3600 := by
  rw [← UInt16.toNat_inj]
  rfl

theorem older_of_alike (alike : a.Alike b) :
    a.older b = true ↔ a.lsAge.toNat ≠ 3600 ∧ b.lsAge.toNat = 3600 ∨ b.lsAge.toNat + 900 <
    a.lsAge.toNat := by
  unfold older
  have checksum : ¬ a.lsChecksum < b.lsChecksum := by
    rw [alike.2]
    exact UInt16.lt_irrefl _
  rw [if_neg alike.1.not_lt, if_pos alike.1, if_neg checksum, if_pos alike.2]
  split_ifs with first second
  · exact iff_of_true rfl (.inl ⟨mt lsAge_eq_max.mpr first.1, lsAge_eq_max.mp first.2⟩)
  · exact iff_of_true rfl (.inr (ageDifference_gt.mp second))
  · refine iff_of_false not_false ?_
    rintro (⟨age, age'⟩ | far)
    · exact first ⟨mt lsAge_eq_max.mp age, lsAge_eq_max.mpr age'⟩
    · exact second (ageDifference_gt.mpr far)

theorem same_of_alike (alike : a.Alike b) : a.same b = true ↔ a.lsAge.toNat = 3600 ∧
    b.lsAge.toNat = 3600 ∨
      a.lsAge.toNat ≠ 3600 ∧ b.lsAge.toNat ≠ 3600 ∧ a.lsAge.toNat ≤ b.lsAge.toNat + 900 ∧
        b.lsAge.toNat ≤ a.lsAge.toNat + 900 := by
  unfold same
  simp only [alike.1, alike.2, beq_self_eq_true, Bool.true_and, Bool.or_eq_true, Bool.and_eq_true,
    beq_iff_eq, bne_iff_ne,
    decide_eq_true_eq, lsAge_eq_max, ne_eq, ageDifference, MAX_AGE_DIFF, abs_le]
  omega

theorem Alike.symm (alike : a.Alike b) : b.Alike a := ⟨alike.1.symm, alike.2.symm⟩

theorem outdates_iff (alike : a.Alike b) : a.Outdates b ↔ a.lsAge.toNat = 3600 ∧ b.lsAge.toNat <
    2700 := by
  unfold Outdates
  rw [lsAge_eq_max, UInt16.lt_iff_toNat_lt]
  exact and_iff_right alike

theorem alike_or_before (a b : LSAHeader) : a.Alike b ∨ a.Before b ∨ b.Before a := by
  unfold Alike Before
  rcases lt_trichotomy a.lsSequenceNumber b.lsSequenceNumber with less | same | more
  · exact .inr (.inl (.inl less))
  · rcases lt_trichotomy a.lsChecksum.toNat b.lsChecksum.toNat with less | same' | more
    · exact .inr (.inl (.inr ⟨same, UInt16.lt_iff_toNat_lt.mpr less⟩))
    · exact .inl ⟨same, UInt16.toNat_inj.mp same'⟩
    · exact .inr (.inr (.inr ⟨same.symm, UInt16.lt_iff_toNat_lt.mpr more⟩))
  · exact .inr (.inr (.inl more))

theorem Before.older (before : a.Before b) : a.older b = true := by
  unfold LSAHeader.older
  rcases before with less | ⟨same, less⟩
  · rw [if_pos less]
  · rw [if_neg same.not_lt, if_pos same, if_pos less]

theorem Before.not_older (before : a.Before b) : b.older a = false := by
  unfold LSAHeader.older
  rcases before with less | ⟨same, less⟩
  · rw [if_neg less.not_gt, if_neg less.ne']
  · have less' : ¬ b.lsChecksum < a.lsChecksum := UInt16.lt_asymm less
    have other : b.lsChecksum ≠ a.lsChecksum := (UInt16.ne_of_lt less).symm
    rw [if_neg same.not_gt, if_pos same.symm, if_neg less', if_neg other]

theorem Before.not_alike (before : a.Before b) : ¬ a.Alike b ∧ ¬ b.Alike a := by
  constructor
  · rintro ⟨same, same'⟩
    rcases before with less | ⟨-, less⟩
    · exact less.ne same
    · exact UInt16.ne_of_lt less same'
  · rintro ⟨same, same'⟩
    rcases before with less | ⟨-, less⟩
    · exact less.ne same.symm
    · exact UInt16.ne_of_lt less same'.symm

theorem not_same_of_not_alike (other : ¬ a.Alike b) : a.same b = false := by
  by_contra yes
  rw [Bool.not_eq_false, same, Bool.and_eq_true, Bool.and_eq_true, beq_iff_eq, beq_iff_eq] at yes
  exact other yes.1

theorem ordered_iff : a.Ordered b ↔ ¬ a.Clash b := by
  rcases alike_or_before a b with alike | before | before
  · have first := older_of_alike alike
    have second := older_of_alike alike.symm
    have third := same_of_alike alike
    rw [Clash, outdates_iff alike, outdates_iff alike.symm]
    constructor
    · intro ordered clash
      have both : a.older b = true ∧ b.older a = true :=
        ⟨first.mpr (by omega), second.mpr (by omega)⟩
      rcases ordered.one with one | one | one
      · cases both.2.symm.trans (congrArg (·.2.1) one)
      · cases both.1.symm.trans (congrArg (·.1) one)
      · cases both.1.symm.trans (congrArg (·.1) one)
    · intro apart
      have young : b.lsAge < MAX_AGE → b.lsAge.toNat < 3600 := UInt16.lt_iff_toNat_lt.mp
      have young' : a.lsAge < MAX_AGE → a.lsAge.toNat < 3600 := UInt16.lt_iff_toNat_lt.mp
      refine ⟨?_, fun _ old less => ?_, fun _ old less => ?_⟩
      · have cases' : (a.older b = true ∧ ¬ b.older a = true ∧ ¬ a.same b = true) ∨
            (¬ a.older b = true ∧ b.older a = true ∧ ¬ a.same b = true) ∨
            (¬ a.older b = true ∧ ¬ b.older a = true ∧ a.same b = true) := by
          rw [first, second, third]
          omega
        simpa only [Prod.mk.injEq, Bool.not_eq_true] using cases'
      · have less' := young less
        have old' := lsAge_eq_max.mp old
        rw [← Bool.not_eq_true, first]
        omega
      · have less' := young' less
        have old' := lsAge_eq_max.mp old
        rw [← Bool.not_eq_true, second]
        omega
  · constructor
    · rintro - (clash | clash)
      · exact before.not_alike.1 clash.1
      · exact before.not_alike.2 clash.1
    · intro _
      refine ⟨.inl ?_, fun alike => absurd alike before.not_alike.1,
        fun alike => absurd alike before.not_alike.1⟩
      rw [before.older, before.not_older, not_same_of_not_alike before.not_alike.1]
  · constructor
    · rintro - (clash | clash)
      · exact before.not_alike.2 clash.1
      · exact before.not_alike.1 clash.1
    · intro _
      refine ⟨.inr (.inl ?_), fun alike => absurd alike before.not_alike.2,
        fun alike => absurd alike before.not_alike.2⟩
      rw [before.older, before.not_older, not_same_of_not_alike before.not_alike.2]

/-- An instance that the operator takes for newer is newer, unless the other has reached 
`MAX_AGE`. -/
theorem newer_of_older (older : a.older b = true) (apart : ¬ a.Outdates b) : b.Newer a := by
  rcases alike_or_before a b with alike | before | before
  · rw [outdates_iff alike] at apart
    rw [older_of_alike alike] at older
    refine .inr ⟨alike.symm, ?_⟩
    rw [ne_eq, lsAge_eq_max, lsAge_eq_max]
    omega
  · exact .inl before
  · rw [before.not_older] at older
    cases older

theorem Outdates.not_newer (outdates : a.Outdates b) : ¬ b.Newer a := by
  rintro (before | ⟨-, young, -⟩)
  · exact before.not_alike.1 outdates.1
  · exact young outdates.2.1

end LSAHeader
end OSPF
end Srwsn
