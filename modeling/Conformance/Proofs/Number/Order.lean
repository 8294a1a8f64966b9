import Conformance.Proofs.Number.Rounding

/-!
# Rounding keeps the order

A quotient is rounded to the nearest whole number, halves to the even one, and
`IsNearestEven` says just that.  Two quotients in order have rounded values in order:
values in the wrong order would be neighbours with both quotients halfway between
them, and of two neighbours only one is even.

The format rounds to a multiple of a power of two that depends on the size of the
quotient.  Where two quotients have the same power the first fact is enough.  Where
they have different ones a power of two lies between them, and it is not changed by
either rounding.  Numbers with few significant bits therefore bound the rounded values
of everything beyond them.
-/

namespace Conformance

/-! ## Whole numbers -/

/-- `value` is a whole number nearest to `num / den`, and even if there are two. -/
structure IsNearestEven (num den value : Nat) : Prop where
  lower : 2 * (value * den) ≤ 2 * num + den
  upper : 2 * num ≤ 2 * (value * den) + den
  lower_tie : 2 * (value * den) = 2 * num + den → value % 2 = 0
  upper_tie : 2 * num = 2 * (value * den) + den → value % 2 = 0

theorem roundHalfEven_isNearestEven {den : Nat} (hden : 0 < den) (num : Nat) :
    IsNearestEven num den (roundHalfEven num den) := by
  have hsplit : num = num / den * den + num % den := (Nat.div_add_mod' num den).symm
  have hremainder : num % den < den := Nat.mod_lt num hden
  have hnext : (num / den + 1) * den = num / den * den + den := Nat.succ_mul _ _
  unfold roundHalfEven
  generalize num / den = quotient at hsplit hnext ⊢
  generalize num % den = remainder at hsplit hremainder ⊢
  dsimp only
  split
  · constructor
    all_goals omega
  · split
    · constructor
      all_goals omega
    · rcases Nat.mod_two_eq_zero_or_one quotient with heven | hodd
      · simp only [heven, Nat.add_zero]
        constructor
        all_goals omega
      · simp only [hodd]
        constructor
        all_goals omega

/-- Of two rounded fractions the larger one is rounded no lower: if it were by more than one,
the two estimates would not meet, and if it were by one, both would be ties. -/
theorem IsNearestEven.le {num den value num' den' value' : Nat}
    (hden : 0 < den) (hden' : 0 < den')
    (hnear : IsNearestEven num den value) (hnear' : IsNearestEven num' den' value')
    (hle : num * den' ≤ num' * den) : value ≤ value' := by
  by_contra hgreater
  obtain ⟨gap, hgap⟩ : ∃ gap, value = value' + 1 + gap :=
    ⟨value - value' - 1, by omega⟩
  have hpos : 0 < den * den' := Nat.mul_pos hden hden'
  have hlower : 2 * (value * (den * den')) ≤ 2 * (num * den') + den * den' := by
    linarith [Nat.mul_le_mul_right den' hnear.lower]
  have hupper' : 2 * (num' * den) ≤ 2 * (value' * (den * den')) + den * den' := by
    linarith [Nat.mul_le_mul_right den hnear'.upper]
  have hvalue : value * (den * den') = value' * (den * den') + den * den' + gap * (den * den') := by
    rw [hgap]
    ring
  have hnone : gap * (den * den') = 0 := by omega
  have hneighbour : gap = 0 := by
    rcases Nat.mul_eq_zero.1 hnone with hzero | hzero
    · exact hzero
    · omega
  have htie : 2 * (value * den) = 2 * num + den := by
    refine Nat.eq_of_mul_eq_mul_right hden' ?_
    linarith
  have htie' : 2 * num' = 2 * (value' * den') + den' := by
    refine Nat.eq_of_mul_eq_mul_right hden ?_
    linarith
  have heven : value % 2 = 0 := hnear.lower_tie htie
  have heven' : value' % 2 = 0 := hnear'.upper_tie htie'
  omega

theorem roundHalfEven_le {num den num' den' : Nat} (hden : 0 < den) (hden' : 0 < den')
    (hle : num * den' ≤ num' * den) : roundHalfEven num den ≤ roundHalfEven num' den' :=
  (roundHalfEven_isNearestEven hden num).le hden hden'
    (roundHalfEven_isNearestEven hden' num') hle

/-- A quotient that is at most a whole number is rounded to at most that number. -/
theorem roundHalfEven_le_of_le {num den bound : Nat} (hden : 0 < den)
    (hle : num ≤ bound * den) : roundHalfEven num den ≤ bound := by
  calc roundHalfEven num den ≤ roundHalfEven (bound * den) den :=
        roundHalfEven_le hden hden (Nat.mul_le_mul_right den hle)
    _ = bound := roundHalfEven_mul_right hden bound

/-- A quotient that is at least a whole number is rounded to at least that number. -/
theorem le_roundHalfEven_of_le {num den bound : Nat} (hden : 0 < den)
    (hle : bound * den ≤ num) : bound ≤ roundHalfEven num den := by
  calc bound = roundHalfEven (bound * den) den := (roundHalfEven_mul_right hden bound).symm
    _ ≤ roundHalfEven num den := roundHalfEven_le hden hden (Nat.mul_le_mul_right den hle)

/-! ## Units -/

/-- The exponent of the power of two that a quotient of this size is rounded to a
multiple of. -/
def lastPlace (quotient : Nat) : Nat := quotient.log2 - 52

theorem nearestUnits_eq (num den : Nat) :
    nearestUnits num den =
      roundHalfEven num (den * 2 ^ lastPlace (num / den)) * 2 ^ lastPlace (num / den) := rfl

theorem lastPlace_le_lastPlace {quotient quotient' : Nat} (hle : quotient ≤ quotient') :
    lastPlace quotient ≤ lastPlace quotient' := by
  unfold lastPlace
  rcases Nat.eq_zero_or_pos quotient with rfl | hpos
  · simp
  · have hlog : quotient.log2 ≤ quotient'.log2 :=
      (Nat.le_log2 (by omega)).2 ((Nat.log2_self_le (by omega)).trans hle)
    omega

theorem lt_two_pow_lastPlace (quotient : Nat) : quotient < 2 ^ (lastPlace quotient + 53) :=
  Nat.lt_log2_self.trans_le (Nat.pow_le_pow_right Nat.two_pos (by unfold lastPlace; omega))

theorem two_pow_lastPlace_le {quotient : Nat} (hcoarse : 0 < lastPlace quotient) :
    2 ^ (lastPlace quotient + 52) ≤ quotient := by
  have hlog : lastPlace quotient + 52 = quotient.log2 := by
    unfold lastPlace at hcoarse ⊢
    omega
  have hne : quotient ≠ 0 := by
    intro hzero
    rw [hzero] at hcoarse
    simp [lastPlace] at hcoarse
  rw [hlog]
  exact Nat.log2_self_le hne

theorem nearestUnits_le_two_pow {den : Nat} (hden : 0 < den) (num : Nat) :
    nearestUnits num den ≤ 2 ^ (lastPlace (num / den) + 53) := by
  rw [nearestUnits_eq]
  have hsize : num / den < 2 ^ (lastPlace (num / den) + 53) := lt_two_pow_lastPlace _
  generalize lastPlace (num / den) = place at hsize ⊢
  have hbound : num ≤ 2 ^ 53 * (den * 2 ^ place) := by
    calc num ≤ 2 ^ (place + 53) * den := ((Nat.div_lt_iff_lt_mul hden).1 hsize).le
      _ = 2 ^ 53 * (den * 2 ^ place) := by ring
  calc roundHalfEven num (den * 2 ^ place) * 2 ^ place
      ≤ 2 ^ 53 * 2 ^ place :=
        Nat.mul_le_mul_right _
          (roundHalfEven_le_of_le (Nat.mul_pos hden (Nat.two_pow_pos place)) hbound)
    _ = 2 ^ (place + 53) := by ring

theorem two_pow_le_nearestUnits {den num : Nat} (hden : 0 < den)
    (hcoarse : 0 < lastPlace (num / den)) :
    2 ^ (lastPlace (num / den) + 52) ≤ nearestUnits num den := by
  rw [nearestUnits_eq]
  have hsize : 2 ^ (lastPlace (num / den) + 52) ≤ num / den := two_pow_lastPlace_le hcoarse
  generalize lastPlace (num / den) = place at hsize ⊢
  have hbound : 2 ^ 52 * (den * 2 ^ place) ≤ num := by
    calc 2 ^ 52 * (den * 2 ^ place) = 2 ^ (place + 52) * den := by ring
      _ ≤ num := (Nat.le_div_iff_mul_le hden).1 hsize
  calc 2 ^ (place + 52) = 2 ^ 52 * 2 ^ place := by ring
    _ ≤ roundHalfEven num (den * 2 ^ place) * 2 ^ place :=
        Nat.mul_le_mul_right _
          (le_roundHalfEven_of_le (Nat.mul_pos hden (Nat.two_pow_pos place)) hbound)

theorem nearestUnits_le {num den num' den' : Nat} (hden : 0 < den) (hden' : 0 < den')
    (hle : num * den' ≤ num' * den) : nearestUnits num den ≤ nearestUnits num' den' := by
  have hquotient : num / den ≤ num' / den' := by
    rw [Nat.le_div_iff_mul_le hden']
    refine Nat.le_of_mul_le_mul_right ?_ hden
    calc num / den * den' * den = num / den * den * den' := by ring
      _ ≤ num * den' := Nat.mul_le_mul_right den' (Nat.div_mul_le_self num den)
      _ ≤ num' * den := hle
  rcases (lastPlace_le_lastPlace hquotient).eq_or_lt with hsame | hcoarser
  · rw [nearestUnits_eq, nearestUnits_eq, hsame]
    generalize lastPlace (num' / den') = place
    have hscale : 0 < 2 ^ place := Nat.two_pow_pos place
    refine Nat.mul_le_mul_right _
      (roundHalfEven_le (Nat.mul_pos hden hscale) (Nat.mul_pos hden' hscale) ?_)
    calc num * (den' * 2 ^ place) = num * den' * 2 ^ place := by ring
      _ ≤ num' * den * 2 ^ place := Nat.mul_le_mul_right _ hle
      _ = num' * (den * 2 ^ place) := by ring
  · calc nearestUnits num den ≤ 2 ^ (lastPlace (num / den) + 53) :=
          nearestUnits_le_two_pow hden num
      _ ≤ 2 ^ (lastPlace (num' / den') + 52) := Nat.pow_le_pow_right Nat.two_pos (by omega)
      _ ≤ nearestUnits num' den' := two_pow_le_nearestUnits hden' (by omega)

end Conformance
