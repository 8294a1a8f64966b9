import Conformance.Proofs.Number.Order

/-!
# Fractions between zero and one

The number nearest to a fraction of one is finite and at most one, and it grows with
the fraction.  The multiples of `2 ^ (-53)` up to one are numbers of the format.  They
bound the rounded fractions, which gives the step of one such multiple, `gapBelowOne`,
that two roundings together can be off by.  Counts up to `2 ^ 53` are numbers of the
format too, so a quotient of two such counts is rounded only once.
-/

namespace Conformance

namespace Binary64

/-! ## Multiples of the gap below one -/

/-- The units between one and the greatest number below it. -/
def gapUnits : Nat := Nat.pow 2 1021

/-- The distance between one and the greatest number below it, `2 ^ (-53)`. -/
def gapBelowOne : Binary64 := ofRatio false 1 (2 ^ 53)

theorem gapBelowOne_eq : gapBelowOne = .finite false gapUnits := by
  decide +kernel

theorem unitsPerOne_eq : unitsPerOne = 2 ^ 53 * gapUnits := by
  decide +kernel

theorem unitsPerOne_pos : 0 < unitsPerOne := by
  decide +kernel

theorem two_pow_53_mul_unitsPerOne_lt : 2 ^ 53 * unitsPerOne < unitsLimit := by
  decide +kernel

theorem nearestUnits_multiple {count : Nat} (hcount : count ≤ 2 ^ 53) (exponent : Nat) :
    nearestUnits (count * Nat.pow 2 exponent) 1 = count * Nat.pow 2 exponent := by
  simp only [Nat.pow_eq]
  rcases hcount.lt_or_eq with hbits | rfl
  · exact nearestUnits_exact hbits exponent
  · rw [← Nat.pow_add]
    simpa using nearestUnits_two_pow (53 + exponent)

theorem nearestUnits_gap {count : Nat} (hcount : count ≤ 2 ^ 53) :
    nearestUnits (count * gapUnits) 1 = count * gapUnits := by
  unfold gapUnits
  generalize 1021 = exponent
  exact nearestUnits_multiple hcount exponent

theorem nearestUnits_count {count : Nat} (hcount : count ≤ 2 ^ 53) :
    nearestUnits (count * unitsPerOne) 1 = count * unitsPerOne := by
  unfold unitsPerOne
  generalize 1074 = exponent
  exact nearestUnits_multiple hcount exponent

theorem nearestUnits_unitsPerOne : nearestUnits unitsPerOne 1 = unitsPerOne := by
  simpa using nearestUnits_count (show 1 ≤ 2 ^ 53 by decide)

theorem nearestUnits_lt_unitsLimit {num den : Nat} (hden : 0 < den)
    (hle : num ≤ 2 ^ 53 * unitsPerOne * den) : nearestUnits num den < unitsLimit := by
  calc nearestUnits num den ≤ nearestUnits (2 ^ 53 * unitsPerOne) 1 :=
        nearestUnits_le hden Nat.one_pos (by omega)
    _ = 2 ^ 53 * unitsPerOne := nearestUnits_count Nat.le.refl
    _ < unitsLimit := two_pow_53_mul_unitsPerOne_lt

/-- A count that the format holds is converted exactly. -/
theorem ofNat_eq {count : Nat} (hcount : count ≤ 2 ^ 53) :
    ofNat count = .finite false (count * unitsPerOne) := by
  have hrange : nearestUnits (count * unitsPerOne) 1 < unitsLimit :=
    nearestUnits_lt_unitsLimit Nat.one_pos (by
      rw [Nat.mul_one]
      exact Nat.mul_le_mul_right _ hcount)
  rw [ofNat, ofRatio, ofUnits, if_pos hrange, nearestUnits_count hcount]

/-! ## Rounded fractions -/

/-- The units of the number nearest to a fraction. -/
def fractionUnits (num den : Nat) : Nat := nearestUnits (num * unitsPerOne) den

section

variable {num den : Nat}

theorem fractionUnits_le_unitsPerOne (hden : 0 < den) (hle : num ≤ den) :
    fractionUnits num den ≤ unitsPerOne := by
  calc nearestUnits (num * unitsPerOne) den ≤ nearestUnits unitsPerOne 1 :=
        nearestUnits_le hden Nat.one_pos (by
          rw [Nat.mul_one, Nat.mul_comm unitsPerOne]
          exact Nat.mul_le_mul_right _ hle)
    _ = unitsPerOne := nearestUnits_unitsPerOne

theorem ofRatio_eq (hden : 0 < den) (hle : num ≤ den) :
    ofRatio false num den = .finite false (fractionUnits num den) := by
  have hrange : nearestUnits (num * unitsPerOne) den < unitsLimit :=
    (fractionUnits_le_unitsPerOne hden hle).trans_lt unitsPerOne_lt_unitsLimit
  simp only [ofRatio, ofUnits, hrange, if_true, fractionUnits]

/-- A fraction that reaches a multiple of the gap reaches it after rounding too. -/
theorem gap_le_fractionUnits (hden : 0 < den) {count : Nat} (hcount : count ≤ 2 ^ 53)
    (hle : count * den ≤ num * 2 ^ 53) : count * gapUnits ≤ fractionUnits num den := by
  calc count * gapUnits = nearestUnits (count * gapUnits) 1 := (nearestUnits_gap hcount).symm
    _ ≤ nearestUnits (num * unitsPerOne) den :=
        nearestUnits_le Nat.one_pos hden (by
          rw [unitsPerOne_eq]
          linarith [Nat.mul_le_mul_right gapUnits hle])

/-- The quotient of two counts is the number nearest to their fraction: only the
division rounds. -/
theorem div_ofNat (hden : 0 < den) (hnum : num ≤ 2 ^ 53) (hbound : den ≤ 2 ^ 53) :
    div (ofNat num) (ofNat den) = ofRatio false num den := by
  have hunits : den * unitsPerOne ≠ 0 := Nat.mul_ne_zero hden.ne' unitsPerOne_pos.ne'
  have hscaled : nearestUnits (num * unitsPerOne * unitsPerOne) (den * unitsPerOne) =
      nearestUnits (num * unitsPerOne) den := by
    rw [Nat.mul_comm _ unitsPerOne, Nat.mul_comm den]
    exact nearestUnits_mul_left unitsPerOne_pos _ _
  rw [ofNat_eq hnum, ofNat_eq hbound]
  simp only [div, hunits, if_false, bne_self_eq_false, ofRatio, ofUnits, hscaled]

end

/-! ## Sums and differences -/

theorem add_finite_of_total {negative negative' : Bool} {units units' total : Nat}
    (hsign : (negative && negative') = false)
    (htotal : signedUnits negative units + signedUnits negative' units' = (total : Int))
    (hrange : total ≤ 2 ^ 53 * unitsPerOne) :
    add (.finite negative units) (.finite negative' units') =
      .finite false (nearestUnits total 1) := by
  have hlimit : nearestUnits total 1 < unitsLimit :=
    nearestUnits_lt_unitsLimit Nat.one_pos (by omega)
  simp only [add, htotal]
  rcases Nat.eq_zero_or_pos total with rfl | hpos
  · simp only [Int.natCast_zero, if_true, hsign]
    rfl
  · have hne : (total : Int) ≠ 0 := by omega
    have hnonnegative : ¬(total : Int) < 0 := by omega
    simp only [hne, if_false, hnonnegative, decide_false, Int.natAbs_natCast, ofUnits, hlimit,
      if_true]

theorem one_sub_finite {units : Nat} (hle : units ≤ unitsPerOne) :
    sub one (.finite false units) = .finite false (nearestUnits (unitsPerOne - units) 1) := by
  refine add_finite_of_total rfl ?_ (by omega)
  simp only [signedUnits, Bool.not_false, Bool.false_eq_true, if_false, if_true]
  omega

theorem add_gapBelowOne {units : Nat} (hle : units ≤ unitsPerOne) :
    add (.finite false units) gapBelowOne = .finite false (nearestUnits (units + gapUnits) 1) := by
  have hone : unitsPerOne = 2 ^ 53 * gapUnits := unitsPerOne_eq
  rw [gapBelowOne_eq]
  refine add_finite_of_total rfl ?_ (by omega)
  simp only [signedUnits, Bool.false_eq_true, if_false]
  omega

/-! ## Comparisons -/

@[simp] theorem lt_finite_nonnegative (units units' : Nat) :
    lt (.finite false units) (.finite false units') = decide (units < units') := by
  simp [lt, signedUnits]

theorem not_lt_of_le {x : Binary64} {bound units : Nat}
    (hle : le (.finite false bound) x = true) (hunits : units ≤ bound) :
    lt x (.finite false units) = false := by
  cases x with
  | finite negative units' =>
      simp only [le, lt, signedUnits, Bool.false_eq_true, if_false, decide_eq_true_eq,
        decide_eq_false_iff_not] at hle ⊢
      omega
  | infinite negative => simpa [le, lt] using hle
  | nan => rfl

/-- The number is less than the exact fraction `num / den`. -/
def IsBelow (num den : Nat) : Binary64 → Prop
  | .finite negative units => signedUnits negative units * den < num * unitsPerOne
  | .infinite negative => negative
  | .nan => False

instance (num den : Nat) : DecidablePred (IsBelow num den)
  | .finite negative units =>
      inferInstanceAs (Decidable (signedUnits negative units * den < num * unitsPerOne))
  | .infinite negative => inferInstanceAs (Decidable (negative = true))
  | .nan => inferInstanceAs (Decidable False)

theorem isBelow_finite_nonnegative {num den units : Nat} :
    IsBelow num den (.finite false units) ↔ units * den < num * unitsPerOne := by
  simp only [IsBelow, signedUnits, Bool.false_eq_true, if_false]
  exact_mod_cast Iff.rfl

end Binary64

end Conformance
