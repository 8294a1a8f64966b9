import Conformance.Proofs.Number.Fraction
import Conformance.Tally

/-!
# A threshold at the failure fraction itself

A threshold is one rounded number: the one nearest to the fraction that was written.
The failure rate it is compared with is rounded twice, once as the fraction of passed
checks and once as what that leaves of one.  So a group whose failures are exactly the
tolerated fraction can have a rate above its threshold.

This file says when.  The session goes on if the fraction of passed checks was not
rounded down; in particular if it is a multiple of `2 ^ (-53)`, as halves and quarters
are.  If it was rounded down, the rate is at least the threshold, and the session goes
on only where the two agree.  The rate is never further above than `gapBelowOne`: both
roundings keep to the multiple of that gap next above the exact failure fraction.
-/

namespace Conformance

namespace Tally

/-- The number nearest to the exact fraction of failed checks. -/
def nearestFailureFraction (tally : Tally) : Binary64 := .ofRatio false tally.failed tally.run

/-- The units of the failure rate: what the rounded fraction of passed checks leaves of
one, rounded. -/
def failureUnits (tally : Tally) : Nat :=
  nearestUnits (Binary64.unitsPerOne - Binary64.fractionUnits tally.passed tally.run) 1

end Tally

section

variable {tally : Tally}

/-! ## The two numbers that are compared -/

theorem Tally.nearestFailureFraction_eq (hrun : 1 ≤ tally.run) :
    tally.nearestFailureFraction =
      .finite false (Binary64.fractionUnits tally.failed tally.run) :=
  Binary64.ofRatio_eq hrun (Nat.sub_le tally.run tally.passed)

theorem Tally.passFraction_eq (hrun : 1 ≤ tally.run) (hbound : tally.run ≤ 2 ^ 53)
    (hpassed : tally.passed ≤ tally.run) :
    tally.passFraction = .finite false (Binary64.fractionUnits tally.passed tally.run) := by
  have hsome : tally.run ≠ 0 := by omega
  rw [Tally.passFraction, if_neg hsome,
    Binary64.div_ofNat hrun (hpassed.trans hbound) hbound, Binary64.ofRatio_eq hrun hpassed]

theorem Tally.failureFraction_eq (hrun : 1 ≤ tally.run) (hbound : tally.run ≤ 2 ^ 53)
    (hpassed : tally.passed ≤ tally.run) :
    tally.failureFraction = .finite false tally.failureUnits := by
  rw [Tally.failureFraction, Tally.passFraction_eq hrun hbound hpassed]
  exact Binary64.one_sub_finite (Binary64.fractionUnits_le_unitsPerOne hrun hpassed)

/-! ## Their order -/

/-- The exact fractions of failed and of passed checks make one. -/
theorem Tally.failed_mul_add (hpassed : tally.passed ≤ tally.run) (scale : Nat) :
    tally.failed * scale + tally.passed * scale = tally.run * scale := by
  rw [← Nat.add_mul, Tally.failed, Nat.sub_add_cancel hpassed]

theorem Tally.failureUnits_le (hrun : 1 ≤ tally.run) (hpassed : tally.passed ≤ tally.run)
    (habove : tally.passed * Binary64.unitsPerOne ≤
      Binary64.fractionUnits tally.passed tally.run * tally.run) :
    tally.failureUnits ≤ Binary64.fractionUnits tally.failed tally.run := by
  have hone := Tally.failed_mul_add hpassed Binary64.unitsPerOne
  refine nearestUnits_le Nat.one_pos hrun ?_
  rw [Nat.sub_mul, Nat.mul_comm Binary64.unitsPerOne]
  omega

theorem Tally.le_failureUnits (hrun : 1 ≤ tally.run) (hpassed : tally.passed ≤ tally.run)
    (hbelow : Binary64.fractionUnits tally.passed tally.run * tally.run ≤
      tally.passed * Binary64.unitsPerOne) :
    Binary64.fractionUnits tally.failed tally.run ≤ tally.failureUnits := by
  have hone := Tally.failed_mul_add hpassed Binary64.unitsPerOne
  refine nearestUnits_le hrun Nat.one_pos ?_
  rw [Nat.sub_mul, Nat.mul_comm Binary64.unitsPerOne]
  omega

/-- The rate is at most a multiple of the gap that is at most one gap above the threshold: of
the `2 ^ 53` gaps in one, those are left that do not fit below the fraction of passed checks. -/
theorem Tally.failureUnits_le_multiple (hrun : 1 ≤ tally.run)
    (hpassed : tally.passed ≤ tally.run) :
    ∃ count ≤ 2 ^ 53, tally.failureUnits ≤ count * Binary64.gapUnits ∧
      count * Binary64.gapUnits ≤
        Binary64.fractionUnits tally.failed tally.run + Binary64.gapUnits := by
  obtain ⟨kept, hkept, hnext⟩ : ∃ kept, kept * tally.run ≤ tally.passed * 2 ^ 53 ∧
      tally.passed * 2 ^ 53 < kept * tally.run + tally.run :=
    ⟨_, Nat.div_mul_le_self _ _, Nat.lt_div_mul_add hrun⟩
  have hkept_le : kept ≤ 2 ^ 53 := by
    refine Nat.le_of_mul_le_mul_right (hkept.trans ?_) hrun
    rw [Nat.mul_comm (2 ^ 53)]
    exact Nat.mul_le_mul_right _ hpassed
  obtain ⟨rest, hrest⟩ : ∃ rest, 2 ^ 53 = kept + rest := Nat.exists_eq_add_of_le hkept_le
  have hrest_le : rest ≤ 2 ^ 53 := by omega
  refine ⟨rest, hrest_le, ?_, ?_⟩
  · have hreached : kept * Binary64.gapUnits ≤ Binary64.fractionUnits tally.passed tally.run :=
      Binary64.gap_le_fractionUnits hrun hkept_le hkept
    have hleft : Binary64.unitsPerOne - Binary64.fractionUnits tally.passed tally.run ≤
        rest * Binary64.gapUnits := by
      rw [Binary64.unitsPerOne_eq, hrest, Nat.add_mul]
      omega
    calc tally.failureUnits ≤ nearestUnits (rest * Binary64.gapUnits) 1 :=
          nearestUnits_le Nat.one_pos Nat.one_pos (by omega)
      _ = rest * Binary64.gapUnits := Binary64.nearestUnits_gap hrest_le
  · cases rest with
    | zero => simp
    | succ count =>
        have hfailed : count * tally.run ≤ tally.failed * 2 ^ 53 := by
          have hone := Tally.failed_mul_add hpassed (2 ^ 53)
          have hwhole : tally.run * 2 ^ 53 =
              kept * tally.run + (count * tally.run + tally.run) := by
            rw [hrest]
            ring
          omega
        have hreached : count * Binary64.gapUnits ≤
            Binary64.fractionUnits tally.failed tally.run :=
          Binary64.gap_le_fractionUnits hrun (by omega) hfailed
        rw [Nat.succ_mul]
        exact Nat.add_le_add_right hreached _

/-! ## The decision -/

theorem Decision.evaluate_proceed_iff (hrun : 1 ≤ tally.run) (hbound : tally.run ≤ 2 ^ 53)
    (hpassed : tally.passed ≤ tally.run) (units : Nat) :
    Decision.evaluate (.finite false units) tally = .proceed ↔ tally.failureUnits ≤ units := by
  rw [Decision.evaluate, Tally.failureFraction_eq hrun hbound hpassed]
  simp

theorem Decision.proceed_at_nearest_iff (hrun : 1 ≤ tally.run) (hbound : tally.run ≤ 2 ^ 53)
    (hpassed : tally.passed ≤ tally.run) :
    Decision.evaluate tally.nearestFailureFraction tally = .proceed ↔
      tally.failureFraction = tally.nearestFailureFraction ∨
        ¬tally.passFraction.IsBelow tally.passed tally.run := by
  rw [Tally.nearestFailureFraction_eq hrun, Tally.failureFraction_eq hrun hbound hpassed,
    Tally.passFraction_eq hrun hbound hpassed,
    Decision.evaluate_proceed_iff hrun hbound hpassed, Binary64.isBelow_finite_nonnegative,
    Binary64.finite.injEq]
  constructor
  · intro hle
    by_cases hbelow : Binary64.fractionUnits tally.passed tally.run * tally.run <
        tally.passed * Binary64.unitsPerOne
    · left
      exact ⟨rfl, hle.antisymm (Tally.le_failureUnits hrun hpassed hbelow.le)⟩
    · right
      exact hbelow
  · intro hside
    cases hside with
    | inl hnearest => exact hnearest.2.le
    | inr habove => exact Tally.failureUnits_le hrun hpassed (Nat.le_of_not_lt habove)

theorem Decision.proceed_above_gap (hrun : 1 ≤ tally.run) (hbound : tally.run ≤ 2 ^ 53)
    (hpassed : tally.passed ≤ tally.run) {threshold : Binary64}
    (hthreshold :
      Binary64.le (.add tally.nearestFailureFraction .gapBelowOne) threshold = true) :
    Decision.evaluate threshold tally = .proceed := by
  have hunits : Binary64.fractionUnits tally.failed tally.run ≤ Binary64.unitsPerOne :=
    Binary64.fractionUnits_le_unitsPerOne hrun (Nat.sub_le tally.run tally.passed)
  rw [Tally.nearestFailureFraction_eq hrun, Binary64.add_gapBelowOne hunits] at hthreshold
  obtain ⟨count, hcount, hrate, hstep⟩ := Tally.failureUnits_le_multiple hrun hpassed
  have hle : tally.failureUnits ≤
      nearestUnits (Binary64.fractionUnits tally.failed tally.run + Binary64.gapUnits) 1 := by
    calc tally.failureUnits ≤ count * Binary64.gapUnits := hrate
      _ = nearestUnits (count * Binary64.gapUnits) 1 := (Binary64.nearestUnits_gap hcount).symm
      _ ≤ nearestUnits (Binary64.fractionUnits tally.failed tally.run + Binary64.gapUnits) 1 :=
          nearestUnits_le Nat.one_pos Nat.one_pos (by omega)
  rw [Decision.evaluate, Tally.failureFraction_eq hrun hbound hpassed,
    Binary64.not_lt_of_le hthreshold hle]
  rfl

/-- A fraction of passed checks that the format holds is not rounded down, so the session
goes on. -/
theorem Decision.proceed_of_multiple (hrun : 1 ≤ tally.run) (hbound : tally.run ≤ 2 ^ 53)
    (hpassed : tally.passed ≤ tally.run) (hmultiple : tally.run ∣ tally.passed * 2 ^ 53) :
    Decision.evaluate tally.nearestFailureFraction tally = .proceed := by
  obtain ⟨count, hcount⟩ := hmultiple
  have hcount_le : count ≤ 2 ^ 53 := by
    refine Nat.le_of_mul_le_mul_left ?_ hrun
    rw [← hcount]
    exact Nat.mul_le_mul_right _ hpassed
  have hreached : count * Binary64.gapUnits ≤ Binary64.fractionUnits tally.passed tally.run :=
    Binary64.gap_le_fractionUnits hrun hcount_le (by rw [hcount, Nat.mul_comm])
  refine (Decision.proceed_at_nearest_iff hrun hbound hpassed).2 (.inr ?_)
  rw [Tally.passFraction_eq hrun hbound hpassed, Binary64.isBelow_finite_nonnegative,
    Nat.not_lt]
  calc tally.passed * Binary64.unitsPerOne
      = count * Binary64.gapUnits * tally.run := by
        rw [Binary64.unitsPerOne_eq, ← Nat.mul_assoc, hcount]
        ring
    _ ≤ Binary64.fractionUnits tally.passed tally.run * tally.run :=
        Nat.mul_le_mul_right _ hreached

/-- At the number nearest to the failure fraction the session goes on exactly if the rate
is that number or the fraction of passed checks was not rounded down, which no multiple of
`2 ^ (-53)` is.  From one `gapBelowOne` above that number on it goes on for all counts. -/
theorem Decision.evaluate_nearestFailureFraction (tally : Tally) (hrun : 1 ≤ tally.run)
    (hbound : tally.run ≤ 2 ^ 53) (hpassed : tally.passed ≤ tally.run) :
    (Decision.evaluate tally.nearestFailureFraction tally = .proceed ↔
      tally.failureFraction = tally.nearestFailureFraction ∨
        ¬tally.passFraction.IsBelow tally.passed tally.run) ∧
    (tally.run ∣ tally.passed * 2 ^ 53 →
      Decision.evaluate tally.nearestFailureFraction tally = .proceed) ∧
    ∀ threshold : Binary64,
      Binary64.le (.add tally.nearestFailureFraction .gapBelowOne) threshold = true →
        Decision.evaluate threshold tally = .proceed :=
  ⟨proceed_at_nearest_iff hrun hbound hpassed,
    proceed_of_multiple hrun hbound hpassed,
    fun _ hthreshold => proceed_above_gap hrun hbound hpassed hthreshold⟩

/-- One failure in ten at a tenth, one in two at a half, and one in three at one gap above
a third. -/
theorem Decision.proceed_at_tenth_half_and_above_third :
    Decision.evaluate (.ofRatio false 1 10) ⟨10, 9⟩ = .proceed ∧
      Decision.evaluate (.ofRatio false 1 2) ⟨2, 1⟩ = .proceed ∧
      Decision.evaluate (.add (.ofRatio false 1 3) .gapBelowOne) ⟨3, 2⟩ = .proceed := by
  have htenth := evaluate_nearestFailureFraction ⟨10, 9⟩ (by decide) (by decide) (by decide)
  have hhalf := evaluate_nearestFailureFraction ⟨2, 1⟩ (by decide) (by decide) (by decide)
  have hthird := evaluate_nearestFailureFraction ⟨3, 2⟩ (by decide) (by decide) (by decide)
  refine ⟨htenth.1.2 (.inr ?_), hhalf.2.1 ?_, hthird.2.2 _ ?_⟩
  · decide +kernel
  · decide
  · decide +kernel

end

/-- One failure in three at a third: two thirds are rounded down, and what they leave of
one is the number next above the threshold. -/
theorem Decision.third_aborts :
    (Decision.evaluate (.ofRatio false 1 3) ⟨3, 2⟩).isAbort = true := by
  decide +kernel

end Conformance
