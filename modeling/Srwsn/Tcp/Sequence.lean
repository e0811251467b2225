import Srwsn.Lib.Serial
import Srwsn.Lib.Outcome

/-! Comparing TCP sequence numbers. -/
namespace Srwsn

def seqLess (a b : UInt32) : Bool := a != b && decide (b - a < 2147483648)
def seqLE (a b : UInt32) : Bool := decide (b - a < 2147483648)
def seqGreater (a b : UInt32) : Bool := a != b && decide (a - b < 2147483648)
def seqGE (a b : UInt32) : Bool := decide (a - b < 2147483648)

/-- A failed ASSERT, the one in `createSegmentWithBytes` told apart, an `opp_error`, or a loop that
does not end. -/
inductive TcpFault where
  | assertion
  | outsideQueue
  | oppError
  | outOfFuel
  deriving DecidableEq, Repr

open Serial

section Compare

variable {base a b : UInt32}

theorem seqLE_eq : seqLE a b = decide (ahead a b < 2 ^ 31) := rfl

variable (near : ahead base a < 2 ^ 31) (near' : ahead base b < 2 ^ 31)

include near near'

theorem seqLE_iff : seqLE a b = true ↔ ahead base a ≤ ahead base b := by
  rw [seqLE_eq, decide_eq_true_iff, ahead_lt_half_iff near near']

theorem seqGE_iff : seqGE a b = true ↔ ahead base b ≤ ahead base a :=
  seqLE_iff near' near

theorem seqLess_iff : seqLess a b = true ↔ ahead base a < ahead base b := by
  have different : (a != b) = true ↔ ahead base a ≠ ahead base b :=
    bne_iff_ne.trans (not_congr ahead_inj).symm
  have less := seqLE_iff near near'
  unfold seqLE at less
  rw [seqLess, Bool.and_eq_true_iff, different, less]
  omega

theorem seqGreater_iff : seqGreater a b = true ↔ ahead base b < ahead base a := by
  have mirrored : seqGreater a b = seqLess b a := by
    unfold seqGreater seqLess
    rw [bne_comm]
  rw [mirrored, seqLess_iff near' near]

end Compare

end Srwsn
