import Conformance.Proofs.Number.Fraction
import Conformance.Tally

/-!
# A group without failures never stops a session

The failure rate is computed with three roundings: two counts are converted and
one is divided by the other.  When the counts are equal all of them cancel, so the
rate is exactly zero and exceeds no threshold that is at least zero.  Counts too
large for the format give a rate that is no number, which exceeds nothing.
-/

namespace Conformance

namespace Binary64

theorem sub_one_one : sub one one = zero := by
  unfold sub neg one
  generalize unitsPerOne = units
  simp [add, signedUnits, zero]

theorem lt_nan (x : Binary64) : lt x nan = false := by
  cases x with
  | nan => rfl
  | _ => rfl

/-- The number nearest to a count, divided by itself, is one if it is a number at
all: it may be zero or out of range. -/
theorem div_ofNat_self (n : Nat) :
    div (ofNat n) (ofNat n) = one ∨ div (ofNat n) (ofNat n) = nan := by
  unfold ofNat ofRatio ofUnits
  dsimp only
  split
  · rename_i hrange
    by_cases hzero : nearestUnits (n * unitsPerOne) 1 = 0
    · right
      simp [div, hzero]
    · left
      exact div_self_finite hzero
  · right
    rfl

end Binary64

theorem Tally.failureFraction_of_all_passed {tally : Tally}
    (hall : tally.passed = tally.run) :
    tally.failureFraction = .zero ∨ tally.failureFraction = .nan := by
  unfold Tally.failureFraction Tally.passFraction
  rw [hall]
  by_cases hnone : tally.run = 0
  · left
    rw [if_pos hnone]
    exact Binary64.sub_one_one
  · rw [if_neg hnone]
    rcases Binary64.div_ofNat_self tally.run with hone | hnan
    · left
      rw [hone]
      exact Binary64.sub_one_one
    · right
      rw [hnan]
      rfl

theorem Decision.evaluate_of_all_passed {threshold : Binary64} {tally : Tally}
    (hthreshold : Binary64.le .zero threshold = true)
    (hall : tally.passed = tally.run) :
    Decision.evaluate threshold tally = .proceed := by
  have hcalm : Binary64.lt threshold tally.failureFraction = false := by
    rcases Tally.failureFraction_of_all_passed hall with hzero | hnan
    · rw [hzero]
      exact Binary64.not_lt_of_le hthreshold Nat.le.refl
    · rw [hnan]
      exact Binary64.lt_nan threshold
  unfold Decision.evaluate
  simp [hcalm]

end Conformance
