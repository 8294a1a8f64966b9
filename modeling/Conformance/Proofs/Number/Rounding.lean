import Conformance.Number.Binary64
import Mathlib.Tactic

/-!
# Rounding that changes nothing

A quotient is rounded to a multiple of a power of two that its size determines.
Scaling numerator and denominator alike changes neither, and a number of at most
53 significant bits is a multiple already.  Hence a positive finite number divided
by itself is exactly one, whatever it was rounded to before.
-/

namespace Conformance

/-! ## Quotients -/

theorem roundHalfEven_mul_left {scale : Nat} (hscale : 0 < scale) (num den : Nat) :
    roundHalfEven (scale * num) (scale * den) = roundHalfEven num den := by
  unfold roundHalfEven
  have hquotient : scale * num / (scale * den) = num / den :=
    Nat.mul_div_mul_left num den hscale
  have htwice : 2 * (scale * num % (scale * den)) = scale * (2 * (num % den)) := by
    rw [Nat.mul_mod_mul_left]
    ring
  simp only [hquotient, htwice, Nat.mul_lt_mul_left hscale]

/-- An exact quotient is not changed by rounding. -/
theorem roundHalfEven_mul_right {den : Nat} (hden : 0 < den) (quotient : Nat) :
    roundHalfEven (quotient * den) den = quotient := by
  unfold roundHalfEven
  simp [Nat.mul_div_cancel quotient hden, hden]

/-! ## Units -/

theorem nearestUnits_mul_left {scale : Nat} (hscale : 0 < scale) (num den : Nat) :
    nearestUnits (scale * num) (scale * den) = nearestUnits num den := by
  unfold nearestUnits
  have hquotient : scale * num / (scale * den) = num / den :=
    Nat.mul_div_mul_left num den hscale
  simp only [hquotient, Nat.mul_assoc, roundHalfEven_mul_left hscale]

/-- A number of units with at most 53 significant bits is not changed by rounding. -/
theorem nearestUnits_exact {significand : Nat} (hbits : significand < 2 ^ 53)
    (exponent : Nat) :
    nearestUnits (significand * 2 ^ exponent) 1 = significand * 2 ^ exponent := by
  rcases Nat.eq_zero_or_pos significand with rfl | hpos
  · simp [nearestUnits, roundHalfEven]
  · have hne : significand * 2 ^ exponent ≠ 0 :=
      Nat.mul_ne_zero hpos.ne' (Nat.two_pow_pos exponent).ne'
    have hlog : (significand * 2 ^ exponent).log2 < 53 + exponent := by
      rw [Nat.log2_lt hne, Nat.pow_add]
      exact Nat.mul_lt_mul_of_pos_right hbits (Nat.two_pow_pos exponent)
    unfold nearestUnits
    simp only [Nat.div_one, Nat.pow_eq, Nat.one_mul]
    generalize hshift : (significand * 2 ^ exponent).log2 - 52 = shift
    have hle : shift ≤ exponent := by omega
    have hfactor : significand * 2 ^ exponent =
        significand * 2 ^ (exponent - shift) * 2 ^ shift := by
      rw [Nat.mul_assoc, ← Nat.pow_add, Nat.sub_add_cancel hle]
    rw [hfactor, roundHalfEven_mul_right (Nat.two_pow_pos shift)]

theorem nearestUnits_two_pow (exponent : Nat) :
    nearestUnits (Nat.pow 2 exponent) 1 = Nat.pow 2 exponent := by
  simpa using nearestUnits_exact (show 1 < 2 ^ 53 by decide) exponent

namespace Binary64

/-! ## One -/

theorem unitsPerOne_lt_unitsLimit : unitsPerOne < unitsLimit := by
  have hlt : 1074 < 2098 := by decide
  unfold unitsPerOne unitsLimit
  generalize 1074 = small at hlt ⊢
  generalize 2098 = large at hlt ⊢
  exact Nat.pow_lt_pow_right (by decide) hlt

theorem ofUnits_unitsPerOne : ofUnits false unitsPerOne 1 = one := by
  have hunits : nearestUnits unitsPerOne 1 = unitsPerOne := by
    unfold unitsPerOne
    generalize 1074 = exponent
    exact nearestUnits_two_pow exponent
  unfold ofUnits one
  simp only [hunits, unitsPerOne_lt_unitsLimit, if_true]

/-- A positive finite number divided by itself is one. -/
theorem div_self_finite {units : Nat} (hunits : units ≠ 0) :
    div (.finite false units) (.finite false units) = one := by
  have hpos : 0 < units := Nat.pos_of_ne_zero hunits
  have hscaled : nearestUnits (units * unitsPerOne) units = nearestUnits unitsPerOne 1 := by
    simpa using nearestUnits_mul_left hpos unitsPerOne 1
  rw [← ofUnits_unitsPerOne]
  simp only [div, hunits, if_false, bne_self_eq_false, ofUnits, hscaled]

end Binary64

end Conformance
