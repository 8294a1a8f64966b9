import Conformance.Number.Decimal
import Conformance.Proofs.Number.Fraction

/-!
# Spacing of the format

A finite number of the format is a significand of at most 53 bits times a power of
two.  Just below a power of two there is therefore a gap: no number lies between
`(2 ^ 53 - 1) * 2 ^ place` and `2 ^ 53 * 2 ^ place`.  A bound that the numbers below a
power of two keep is thus kept with some room, which later rounding cannot use up.

Such numbers are what the interchange encoding decodes to, what rounding yields, and so
what is read from a text.
-/

namespace Conformance

/-- A quotient is rounded to something positive exactly if it is more than a half. -/
theorem roundHalfEven_pos_iff {num den : Nat} (hden : 0 < den) :
    0 < roundHalfEven num den ↔ den < 2 * num := by
  have hnear : IsNearestEven num den (roundHalfEven num den) :=
    roundHalfEven_isNearestEven hden num
  obtain ⟨hlower, hupper, htie, -⟩ := hnear
  generalize roundHalfEven num den = value at hlower hupper htie ⊢
  constructor
  · intro hpos
    rcases Nat.eq_or_lt_of_le hpos with rfl | hmany
    · have hne : den ≠ 2 * num := by
        intro hhalf
        have heven := htie (by omega)
        omega
      omega
    · have htwice : 2 * den ≤ value * den := Nat.mul_le_mul_right den hmany
      omega
  · intro hmore
    by_contra hnone
    obtain rfl : value = 0 := by omega
    omega

namespace Binary64

/-! ## Representable numbers of units -/

/-- The units are a significand of at most 53 bits, shifted. -/
def IsRepresentable (units : Nat) : Prop :=
  ∃ significand exponent, significand < 2 ^ 53 ∧ units = significand * 2 ^ exponent

/-- Rounding may carry into a bit more, which leaves a power of two. -/
theorem isRepresentable_nearestUnits {den : Nat} (hden : 0 < den) (num : Nat) :
    IsRepresentable (nearestUnits num den) := by
  have hbound : nearestUnits num den ≤ 2 ^ (lastPlace (num / den) + 53) :=
    nearestUnits_le_two_pow hden num
  rw [nearestUnits_eq] at hbound ⊢
  generalize lastPlace (num / den) = place at hbound ⊢
  generalize roundHalfEven num (den * 2 ^ place) = significand at hbound ⊢
  have hsignificand : significand ≤ 2 ^ 53 := by
    refine Nat.le_of_mul_le_mul_right ?_ (Nat.two_pow_pos place)
    calc significand * 2 ^ place ≤ 2 ^ (place + 53) := hbound
      _ = 2 ^ 53 * 2 ^ place := by ring
  rcases Nat.lt_or_eq_of_le hsignificand with hbits | rfl
  · exact ⟨significand, place, hbits, rfl⟩
  · refine ⟨2 ^ 52, place + 1, by norm_num, ?_⟩
    ring

/-- The number is one of the format. -/
def IsOfFormat (x : Binary64) : Prop :=
  ∀ negative units, x = .finite negative units → IsRepresentable units

theorem isOfFormat_finite (negative : Bool) {units : Nat} (hunits : IsRepresentable units) :
    (finite negative units).IsOfFormat := by
  intro negative' units' hsame
  rw [← (finite.inj hsame).2]
  exact hunits

theorem isOfFormat_infinite (negative : Bool) : (infinite negative).IsOfFormat := by
  intro negative' units hsame
  cases hsame

theorem isOfFormat_nan : nan.IsOfFormat := by
  intro negative units hsame
  cases hsame

theorem isOfFormat_ofBits (bits : Nat) : (ofBits bits).IsOfFormat := by
  have hfraction : bits % Nat.pow 2 52 < 2 ^ 52 := Nat.mod_lt bits (Nat.two_pow_pos 52)
  unfold ofBits
  generalize bits % Nat.pow 2 52 = fraction at hfraction ⊢
  generalize bits / Nat.pow 2 52 % Nat.pow 2 11 = exponent
  dsimp only
  split
  · split
    · exact isOfFormat_infinite _
    · exact isOfFormat_nan
  · split
    · exact isOfFormat_finite _ ⟨fraction, 0, by omega, by simp⟩
    · refine isOfFormat_finite _ ⟨2 ^ 52 + fraction, exponent - 1, ?_, rfl⟩
      calc 2 ^ 52 + fraction < 2 ^ 52 + 2 ^ 52 := Nat.add_lt_add_left hfraction _
        _ = 2 ^ 53 := by norm_num

theorem isOfFormat_ofRatio (negative : Bool) (num : Nat) {den : Nat} (hden : 0 < den) :
    (ofRatio negative num den).IsOfFormat := by
  have hunits : IsRepresentable (nearestUnits (num * unitsPerOne) den) :=
    isRepresentable_nearestUnits hden _
  unfold ofRatio ofUnits
  generalize nearestUnits (num * unitsPerOne) den = units at hunits ⊢
  generalize unitsLimit = limit
  dsimp only
  split
  · exact isOfFormat_finite negative hunits
  · exact isOfFormat_infinite negative

theorem isOfFormat_ofDecimal (negative : Bool) (digits : Nat) (exponent : Int) :
    (ofDecimal negative digits exponent).IsOfFormat := by
  have hzero : (finite negative 0).IsOfFormat :=
    isOfFormat_finite negative ⟨0, 0, by norm_num, by norm_num⟩
  unfold ofDecimal
  dsimp only
  split
  · exact hzero
  split
  · exact isOfFormat_infinite negative
  split
  · exact hzero
  split
  · exact isOfFormat_ofRatio negative _ Nat.one_pos
  · exact isOfFormat_ofRatio negative digits (Nat.pow_pos (by decide))

/-- Whatever is read from a text is a number of the format. -/
theorem isOfFormat_of_ofText? {text : String} {x : Binary64} (htext : ofText? text = some x) :
    x.IsOfFormat := by
  unfold ofText? at htext
  dsimp only at htext
  split at htext
  · rw [← Option.some.inj htext]
    exact isOfFormat_infinite _
  split at htext
  · rw [← Option.some.inj htext]
    exact isOfFormat_nan
  unfold decimalOfText? at htext
  dsimp only at htext
  split at htext
  all_goals
    split at htext
    · cases htext
    · obtain ⟨exponent, -, hdigits⟩ := Option.bind_eq_some_iff.1 htext
      obtain ⟨digits, -, hnumber⟩ := Option.bind_eq_some_iff.1 hdigits
      rw [← Option.some.inj hnumber]
      exact isOfFormat_ofDecimal _ _ _

/-- No number lies in the gap below a power of two. -/
theorem IsRepresentable.le_of_lt {units : Nat} (hunits : IsRepresentable units) {place : Nat}
    (hlt : units < 2 ^ 53 * 2 ^ place) : units ≤ (2 ^ 53 - 1) * 2 ^ place := by
  obtain ⟨significand, exponent, hbits, rfl⟩ := hunits
  rcases Nat.le_total exponent place with hfine | hcoarse
  · exact Nat.mul_le_mul (Nat.le_sub_one_of_lt hbits) (Nat.pow_le_pow_right Nat.two_pos hfine)
  · have hfactor : significand * 2 ^ exponent =
        significand * 2 ^ (exponent - place) * 2 ^ place := by
      rw [Nat.mul_assoc, ← Nat.pow_add, Nat.sub_add_cancel hcoarse]
    rw [hfactor] at hlt ⊢
    have hmultiple : significand * 2 ^ (exponent - place) < 2 ^ 53 :=
      Nat.lt_of_mul_lt_mul_right hlt
    exact Nat.mul_le_mul_right _ (Nat.le_sub_one_of_lt hmultiple)

/-- The same for whole numbers: what is below `2 ^ (53 + place)` is below it by at
least `2 ^ place`. -/
theorem IsRepresentable.le_whole_of_lt {units : Nat} (hunits : IsRepresentable units)
    {place : Nat} (hlt : units < 2 ^ 53 * 2 ^ place * unitsPerOne) :
    units ≤ (2 ^ 53 - 1) * 2 ^ place * unitsPerOne := by
  unfold unitsPerOne at hlt ⊢
  generalize 1074 = ones at hlt ⊢
  rw [Nat.pow_eq, Nat.mul_assoc, ← Nat.pow_add] at hlt ⊢
  exact hunits.le_of_lt hlt

/-! ## Comparisons with exact fractions -/

/-- The number is more than the exact fraction `num / den`. -/
def IsAbove (num den : Nat) : Binary64 → Prop
  | .finite negative units => num * unitsPerOne < signedUnits negative units * den
  | .infinite negative => negative = false
  | .nan => False

instance (num den : Nat) : DecidablePred (IsAbove num den)
  | .finite negative units =>
      inferInstanceAs (Decidable (num * unitsPerOne < signedUnits negative units * den))
  | .infinite negative => inferInstanceAs (Decidable (negative = false))
  | .nan => inferInstanceAs (Decidable False)

theorem isAbove_finite_nonnegative {num den units : Nat} :
    IsAbove num den (.finite false units) ↔ num * unitsPerOne < units * den := by
  simp only [IsAbove, signedUnits, Bool.false_eq_true, if_false]
  exact_mod_cast Iff.rfl

theorem zero_lt_iff_isAbove (x : Binary64) : lt zero x = true ↔ x.IsAbove 0 1 := by
  cases x with
  | finite negative units =>
      generalize hone : unitsPerOne = one
      simp only [lt, zero, IsAbove, hone, signedUnits, Bool.false_eq_true, if_false,
        decide_eq_true_eq, Int.natCast_zero, Int.zero_mul, Int.natCast_one, Int.mul_one]
  | infinite negative => simp only [lt, zero, IsAbove, Bool.not_eq_true']
  | nan => exact iff_of_false Bool.false_ne_true id

theorem IsAbove.finite_or_infinite {x : Binary64} (hpos : x.IsAbove 0 1) :
    (∃ units, x = .finite false units) ∨ x = .infinite false := by
  cases x with
  | finite negative units =>
      left
      refine ⟨units, ?_⟩
      cases negative with
      | false => rfl
      | true =>
          exfalso
          simp only [IsAbove, signedUnits, if_true, Int.natCast_zero, Int.zero_mul,
            Int.natCast_one, Int.mul_one] at hpos
          omega
  | infinite negative =>
      right
      rw [show negative = false from hpos]
  | nan => exact hpos.elim

end Binary64

end Conformance
