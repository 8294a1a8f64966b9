import Conformance.Proofs.Tally.Boundary
import Conformance.Proofs.Tally.Decision

/-!
# The decision follows the order of failures and thresholds

Each rounding on the way to a failure rate keeps the order, so a group with more failures has
no lower rate, and neither such a group nor a lower threshold turns an abort into going on.

At the end points the order has to be strict.  For counts up to `2 ^ 53` a fraction below one
is at least `gapBelowOne` away from one, hence so is the number it is rounded to, and the
rate of a group with a failure is never rounded to zero.
-/

namespace Conformance

namespace Binary64

/-! ## Comparisons -/

theorem le_finite_nonnegative (units units' : Nat) :
    le (.finite false units) (.finite false units') = decide (units ≤ units') := by
  simp [le, signedUnits]

/-- A number below a finite one is below everything above that, and so is every number that
does not exceed it. -/
theorem lt_finite_of_le {low high : Binary64} {units units' : Nat} (hle : le low high = true)
    (hlt : lt high (.finite false units) = true) (hunits : units ≤ units') :
    lt low (.finite false units') = true := by
  cases high with
  | nan => cases hlt
  | infinite negative =>
      have hnegative : negative = true := hlt
      cases low with
      | nan => cases hle
      | infinite negative' => simpa [le, lt, hnegative] using hle
      | finite negative' units'' => simp [le, hnegative] at hle
  | finite negative bound =>
      cases low with
      | nan => cases hle
      | infinite negative' => exact hle
      | finite negative' bound' =>
          simp only [le, lt, decide_eq_true_eq] at hle hlt ⊢
          have hunits' : signedUnits false units ≤ signedUnits false units' :=
            Int.ofNat_le.mpr hunits
          omega

/-! ## Rounded fractions below one -/

theorem gapUnits_pos : 0 < gapUnits := by
  decide +kernel

section

variable {num num' den : Nat}

theorem fractionUnits_mono (hden : 0 < den) (hle : num ≤ num') :
    fractionUnits num den ≤ fractionUnits num' den := by
  refine nearestUnits_le hden hden (Nat.mul_le_mul_right den ?_)
  exact Nat.mul_le_mul_right unitsPerOne hle

/-- A fraction that does not exceed a multiple of the gap does not exceed it after rounding. -/
theorem fractionUnits_le_gap (hden : 0 < den) {count : Nat} (hcount : count ≤ 2 ^ 53)
    (hle : num * 2 ^ 53 ≤ count * den) : fractionUnits num den ≤ count * gapUnits := by
  calc nearestUnits (num * unitsPerOne) den ≤ nearestUnits (count * gapUnits) 1 :=
        nearestUnits_le hden Nat.one_pos (by
          rw [unitsPerOne_eq]
          linarith [Nat.mul_le_mul_right gapUnits hle])
    _ = count * gapUnits := nearestUnits_gap hcount

/-- A fraction below one stays away from one by the gap, also after rounding. -/
theorem fractionUnits_add_gap_le (hlt : num < den) (hbound : den ≤ 2 ^ 53) :
    fractionUnits num den + gapUnits ≤ unitsPerOne := by
  have hbelow : num * 2 ^ 53 ≤ (2 ^ 53 - 1) * den := by
    have hnext : (num + 1) * 2 ^ 53 ≤ den * 2 ^ 53 := Nat.mul_le_mul_right _ hlt
    generalize 2 ^ 53 = scale at hbound hnext ⊢
    rw [Nat.sub_mul, Nat.one_mul, Nat.mul_comm scale]
    rw [Nat.succ_mul] at hnext
    omega
  have hunits : fractionUnits num den ≤ (2 ^ 53 - 1) * gapUnits :=
    fractionUnits_le_gap (Nat.zero_lt_of_lt hlt) (Nat.sub_le _ _) hbelow
  have hone : unitsPerOne = 2 ^ 53 * gapUnits := unitsPerOne_eq
  omega

end

end Binary64

/-! ## The failure rate -/

section

variable {run passed fewer : Nat} {tally : Tally} {threshold low high : Binary64}

theorem Tally.failureUnits_le_unitsPerOne (tally : Tally) :
    tally.failureUnits ≤ Binary64.unitsPerOne := by
  calc tally.failureUnits ≤ nearestUnits Binary64.unitsPerOne 1 :=
        nearestUnits_le Nat.one_pos Nat.one_pos (by omega)
    _ = Binary64.unitsPerOne := Binary64.nearestUnits_unitsPerOne

theorem Tally.gap_le_failureUnits (hfailure : tally.passed < tally.run)
    (hbound : tally.run ≤ 2 ^ 53) : Binary64.gapUnits ≤ tally.failureUnits := by
  have hpassed := Binary64.fractionUnits_add_gap_le hfailure hbound
  calc Binary64.gapUnits = nearestUnits (1 * Binary64.gapUnits) 1 := by
        rw [Binary64.nearestUnits_gap (by decide), Nat.one_mul]
    _ ≤ tally.failureUnits := nearestUnits_le Nat.one_pos Nat.one_pos (by omega)

/-- The failure rate is a fraction, and it is positive exactly if there is a failure. -/
theorem Tally.exists_failureFraction_eq (hpassed : tally.passed ≤ tally.run)
    (hbound : tally.run ≤ 2 ^ 53) :
    ∃ units ≤ Binary64.unitsPerOne, tally.failureFraction = .finite false units ∧
      (0 < units ↔ tally.passed < tally.run) := by
  rcases hpassed.eq_or_lt with hall | hfailure
  · refine ⟨0, Nat.zero_le _, ?_, by omega⟩
    rcases Nat.eq_zero_or_pos tally.run with hnone | hrun
    · rw [Tally.failureFraction, Tally.passFraction, if_pos hnone]
      exact Binary64.sub_one_one
    · have hnumber := Tally.failureFraction_eq hrun hbound hpassed
      rcases Tally.failureFraction_of_all_passed hall with hzero | hnan
      · exact hzero
      · cases hnumber.symm.trans hnan
  · have hrun : 1 ≤ tally.run := Nat.one_le_of_lt hfailure
    have hgap : Binary64.gapUnits ≤ tally.failureUnits :=
      Tally.gap_le_failureUnits hfailure hbound
    have hpos : 0 < Binary64.gapUnits := Binary64.gapUnits_pos
    exact ⟨tally.failureUnits, Tally.failureUnits_le_unitsPerOne tally,
      Tally.failureFraction_eq hrun hbound hpassed, by omega⟩

theorem Tally.failureFraction_inUnitInterval (hpassed : tally.passed ≤ tally.run)
    (hbound : tally.run ≤ 2 ^ 53) : tally.failureFraction.inUnitInterval = true := by
  obtain ⟨units, hunits, hrate, _⟩ := Tally.exists_failureFraction_eq hpassed hbound
  rw [hrate, Binary64.inUnitInterval, Binary64.zero, Binary64.one,
    Binary64.le_finite_nonnegative, Binary64.le_finite_nonnegative]
  exact Bool.and_eq_true_iff.mpr ⟨decide_eq_true (Nat.zero_le units), decide_eq_true hunits⟩

/-- The fewer checks have passed, the higher the rate. -/
theorem Tally.exists_failureFraction_le (hfewer : fewer ≤ passed) (hpassed : passed ≤ run)
    (hbound : run ≤ 2 ^ 53) :
    ∃ units units', Tally.failureFraction ⟨run, passed⟩ = .finite false units ∧
      Tally.failureFraction ⟨run, fewer⟩ = .finite false units' ∧ units ≤ units' := by
  rcases Nat.eq_zero_or_pos run with rfl | hrun
  · obtain rfl : passed = 0 := Nat.le_zero.mp hpassed
    obtain rfl : fewer = 0 := Nat.le_zero.mp hfewer
    exact ⟨0, 0, Binary64.sub_one_one, Binary64.sub_one_one, Nat.le.refl⟩
  · have hrate {checks : Nat} (hchecks : checks ≤ run) :
        Tally.failureFraction ⟨run, checks⟩ = .finite false (Tally.failureUnits ⟨run, checks⟩) :=
      Tally.failureFraction_eq hrun hbound hchecks
    refine ⟨_, _, hrate hpassed, hrate (hfewer.trans hpassed), ?_⟩
    have hfraction : Binary64.fractionUnits fewer run ≤ Binary64.fractionUnits passed run :=
      Binary64.fractionUnits_mono hrun hfewer
    refine nearestUnits_le Nat.one_pos Nat.one_pos ?_
    dsimp only
    omega

/-! ## The decision -/

theorem Decision.isAbort_evaluate (threshold : Binary64) (tally : Tally) :
    (Decision.evaluate threshold tally).isAbort =
      Binary64.lt threshold tally.failureFraction := by
  unfold Decision.evaluate
  cases Binary64.lt threshold tally.failureFraction with
  | false => rfl
  | true => rfl

theorem Decision.isAbort_mono (hfewer : fewer ≤ passed) (hpassed : passed ≤ run)
    (hbound : run ≤ 2 ^ 53) (hle : Binary64.le low high = true)
    (habort : (Decision.evaluate high ⟨run, passed⟩).isAbort = true) :
    (Decision.evaluate low ⟨run, fewer⟩).isAbort = true := by
  rw [Decision.isAbort_evaluate] at habort ⊢
  obtain ⟨units, units', hrate, hrate', hunits⟩ :=
    Tally.exists_failureFraction_le hfewer hpassed hbound
  rw [hrate] at habort
  rw [hrate']
  exact Binary64.lt_finite_of_le hle habort hunits

theorem Decision.isAbort_one (hpassed : tally.passed ≤ tally.run) (hbound : tally.run ≤ 2 ^ 53) :
    (Decision.evaluate .one tally).isAbort = false := by
  obtain ⟨units, hunits, hrate, _⟩ := Tally.exists_failureFraction_eq hpassed hbound
  rw [Decision.isAbort_evaluate, hrate, Binary64.one, Binary64.lt_finite_nonnegative,
    decide_eq_false_iff_not, Nat.not_lt]
  exact hunits

theorem Decision.isAbort_zero_iff (hpassed : tally.passed ≤ tally.run)
    (hbound : tally.run ≤ 2 ^ 53) :
    (Decision.evaluate .zero tally).isAbort = true ↔ tally.passed < tally.run := by
  obtain ⟨units, _, hrate, hpos⟩ := Tally.exists_failureFraction_eq hpassed hbound
  rw [Decision.isAbort_evaluate, hrate, Binary64.zero, Binary64.lt_finite_nonnegative,
    decide_eq_true_eq, hpos]

/-- What is reported with an abort: the threshold, and a rate that exceeds it. -/
theorem Decision.evaluate_eq_abort {tolerance rate : Binary64}
    (habort : Decision.evaluate threshold tally = .abort tolerance rate) :
    tolerance = threshold ∧ rate = tally.failureFraction ∧
      Binary64.lt tolerance rate = true := by
  unfold Decision.evaluate at habort
  split at habort
  case isTrue hlt =>
    obtain ⟨htolerance, hrate⟩ := Decision.abort.inj habort
    rw [htolerance, hrate] at hlt
    exact ⟨htolerance.symm, hrate.symm, hlt⟩
  case isFalse => cases habort

/-- The decision in the order of failures and thresholds.  Of two groups with as many checks the
one with more failures is stopped by every threshold that stops the other one, and by every
lower threshold.  A threshold of one stops nothing, a threshold of zero every group with a
failure, and no threshold a group without failures.  What is reported with an abort is the
threshold, and a rate that is a fraction above it. -/
theorem Decision.evaluate_ordered (hfewer : fewer ≤ passed) (hpassed : passed ≤ run)
    (hbound : run ≤ 2 ^ 53) :
    (∀ low high, Binary64.le low high = true →
        (evaluate high ⟨run, passed⟩).isAbort = true →
          (evaluate low ⟨run, fewer⟩).isAbort = true) ∧
      (evaluate .one ⟨run, passed⟩).isAbort = false ∧
      ((evaluate .zero ⟨run, passed⟩).isAbort = true ↔ passed < run) ∧
      (∀ threshold, threshold.inUnitInterval = true → run = 0 ∨ passed = run →
        evaluate threshold ⟨run, passed⟩ = .proceed) ∧
      ∀ threshold tolerance rate, evaluate threshold ⟨run, passed⟩ = .abort tolerance rate →
        tolerance = threshold ∧ rate.inUnitInterval = true ∧
          Binary64.lt tolerance rate = true := by
  refine ⟨fun low high => isAbort_mono hfewer hpassed hbound, isAbort_one hpassed hbound,
    isAbort_zero_iff hpassed hbound, ?calm, ?reported⟩
  case calm =>
    intro threshold hthreshold hnone
    have hall : passed = run := by omega
    have hnonnegative : Binary64.le .zero threshold = true :=
      (Bool.and_eq_true_iff.mp hthreshold).1
    exact evaluate_of_all_passed hnonnegative hall
  case reported =>
    intro threshold tolerance rate habort
    obtain ⟨htolerance, rfl, hlt⟩ := evaluate_eq_abort habort
    exact ⟨htolerance, Tally.failureFraction_inUnitInterval hpassed hbound, hlt⟩

/-- Nine of ten checks passed and four of ten, at a twentieth and at a hundredth. -/
theorem Decision.evaluate_ordered_of_ten_checks :
    (evaluate (.ofRatio false 1 20) ⟨10, 9⟩).isAbort = true ∧
      (evaluate (.ofRatio false 1 100) ⟨10, 4⟩).isAbort = true ∧
      (evaluate .one ⟨10, 9⟩).isAbort = false ∧ (evaluate .zero ⟨10, 9⟩).isAbort = true ∧
      evaluate (.ofRatio false 1 20) ⟨10, 10⟩ = .proceed ∧
      ∃ rate, evaluate (.ofRatio false 1 20) ⟨10, 9⟩ = .abort (.ofRatio false 1 20) rate ∧
        rate.inUnitInterval = true ∧ Binary64.lt (.ofRatio false 1 20) rate = true := by
  have hinterval : (Binary64.ofRatio false 1 20).inUnitInterval = true := by decide +kernel
  have hle : Binary64.le (.ofRatio false 1 100) (.ofRatio false 1 20) = true := by decide +kernel
  have habort : evaluate (.ofRatio false 1 20) ⟨10, 9⟩ =
      .abort (.ofRatio false 1 20) (Tally.failureFraction ⟨10, 9⟩) := by decide +kernel
  have hstopped : (evaluate (.ofRatio false 1 20) ⟨10, 9⟩).isAbort = true := by rw [habort]; rfl
  obtain ⟨hmono, hone, hzero, _, hreported⟩ :=
    evaluate_ordered (show 4 ≤ 9 by decide) (show 9 ≤ 10 by decide) (by decide)
  obtain ⟨_, _, _, hcalm, _⟩ :=
    evaluate_ordered (show 4 ≤ 10 by decide) (show 10 ≤ 10 by decide) (by decide)
  have hworse : (evaluate (.ofRatio false 1 100) ⟨10, 4⟩).isAbort = true :=
    hmono _ _ hle hstopped
  have hstrict : (evaluate .zero ⟨10, 9⟩).isAbort = true := hzero.2 (by decide)
  have hclean : evaluate (.ofRatio false 1 20) ⟨10, 10⟩ = .proceed :=
    hcalm _ hinterval (.inr rfl)
  exact ⟨hstopped, hworse, hone, hstrict, hclean, _, habort, (hreported _ _ _ habort).2⟩

end

end Conformance
