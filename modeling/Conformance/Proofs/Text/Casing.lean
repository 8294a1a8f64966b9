import Conformance.Text.Casing
import Mathlib.Tactic

/-!
# Lowering a text twice

A text that was lowered once is not changed by lowering it again.  The context
matters for the capital sigma alone, and none is left after the first time; so it is
enough that no character that comes out of the table is moved by the table again.
That is a property of pairs of its runs, not of single characters.
-/

namespace Conformance

/-! ## Runs -/

/-- No character that the first run maps to is mapped by the second: the images lie
beside it, or both go by twos and never meet. -/
def CaseRun.misses (run other : CaseRun) : Bool :=
  let first := (run.first + run.offset).toNat
  let last := (run.last + run.offset).toNat
  last.blt other.first || other.last.blt first ||
    (0 ≤ run.first + run.offset && (run.first.beq run.last || run.step.beq 2) &&
      other.step.beq 2 && ((first + other.first) % 2).beq 1)

theorem CaseRun.not_covers_image {run other : CaseRun} (hmisses : run.misses other = true)
    {code : Nat} (hcovers : run.covers code = true) :
    other.covers (code + run.offset).toNat = false := by
  obtain ⟨first, last, step, offset⟩ := run
  obtain ⟨otherFirst, otherLast, otherStep, otherOffset⟩ := other
  simp only [CaseRun.misses, CaseRun.covers, Bool.and_eq_true, Bool.or_eq_true,
    Bool.and_eq_false_iff, decide_eq_true_eq, decide_eq_false_iff_not, Nat.blt_eq,
    Nat.beq_eq] at hmisses hcovers ⊢
  rcases hmisses with houtside | hinterleaved
  · left
    omega
  · obtain ⟨hsteps, hparity⟩ := hinterleaved
    obtain ⟨hsparse, hother⟩ := hsteps
    obtain ⟨hnonneg, hstep⟩ := hsparse
    subst hother
    cases hstep with
    | inl hone =>
        subst hone
        omega
    | inr htwo =>
        subst htwo
        omega

/-- The run of the one character whose lowercase form has two characters. -/
def dottedCapital : CaseRun := ⟨0x130, 0x130, 1, 0⟩

theorem lowercaseRuns_miss :
    lowercaseRuns.all (fun run => (dottedCapital :: lowercaseRuns).all run.misses) = true := by
  decide +kernel

/-! ## Characters -/

theorem lowerChar_of_not_covered {c : Char}
    (hplain : ∀ run ∈ dottedCapital :: lowercaseRuns, run.covers c.toNat = false) :
    lowerChar c = [c] := by
  have hdotted : c ≠ 'İ' := by
    intro hsame
    rw [hsame] at hplain
    exact absurd (hplain dottedCapital (List.mem_cons_self ..)) (by decide)
  have hfind : lowercaseRuns.find? (·.covers c.toNat) = none := by
    rw [List.find?_eq_none]
    intro run hrun
    simp [hplain run (List.mem_cons_of_mem dottedCapital hrun)]
  simp only [lowerChar, hdotted, if_false, mapByRuns, hfind]

/-- What the table maps to is mapped no further. -/
theorem lowerChar_image {run : CaseRun} (hrun : run ∈ lowercaseRuns) {code : Nat}
    (hcovers : run.covers code = true) :
    lowerChar (Char.ofNat (code + run.offset).toNat) =
      [Char.ofNat (code + run.offset).toNat] := by
  apply lowerChar_of_not_covered
  intro other hother
  by_cases hvalid : (code + run.offset).toNat.isValidChar
  · have hcode : (Char.ofNat (code + run.offset).toNat).toNat = (code + run.offset).toNat := by
      rw [Char.ofNat, dif_pos hvalid]
      rfl
    rw [hcode]
    have hmisses := List.all_eq_true.mp (List.all_eq_true.mp lowercaseRuns_miss run hrun)
    exact CaseRun.not_covers_image (hmisses other hother) hcovers
  · have hcode : (Char.ofNat (code + run.offset).toNat).toNat = 0 := by
      rw [Char.ofNat, dif_neg hvalid]
      rfl
    have hnul : (dottedCapital :: lowercaseRuns).all (!·.covers 0) = true := by decide
    rw [hcode]
    simpa using List.all_eq_true.mp hnul other hother

/-- Lowering a character again changes none of those it was lowered to. -/
theorem lowerChar_of_mem {c d : Char} (hd : d ∈ lowerChar c) : lowerChar d = [d] := by
  by_cases hdotted : c = 'İ'
  · rw [lowerChar, if_pos hdotted, List.mem_pair] at hd
    cases hd with
    | inl hletter =>
        rw [hletter]
        decide
    | inr hdot =>
        rw [hdot]
        decide
  · cases hfind : lowercaseRuns.find? (·.covers c.toNat) with
    | some run =>
        have hcovers := List.find?_some hfind
        simp only [lowerChar, hdotted, if_false, mapByRuns, hfind, List.mem_singleton] at hd
        rw [hd]
        exact lowerChar_image (List.mem_of_find?_eq_some hfind) hcovers
    | none =>
        have hsame : lowerChar c = [c] := by
          simp only [lowerChar, hdotted, if_false, mapByRuns, hfind]
        rw [hsame, List.mem_singleton] at hd
        rw [hd, hsame]

/-! ## Texts -/

theorem lowerChar_of_mem_lowerAfter {before text : List Char} {d : Char}
    (hd : d ∈ lowerAfter before text) : lowerChar d = [d] := by
  induction text generalizing before with
  | nil => simp [lowerAfter] at hd
  | cons c rest ih =>
      simp only [lowerAfter, List.mem_append] at hd
      cases hd with
      | inl hhead =>
          split at hhead
          · split at hhead
            · rw [List.mem_singleton.mp hhead]
              decide
            · rw [List.mem_singleton.mp hhead]
              decide
          · exact lowerChar_of_mem hhead
      | inr htail => exact ih htail

theorem lowerAfter_of_lower {before text : List Char}
    (hlower : ∀ c ∈ text, lowerChar c = [c]) : lowerAfter before text = text := by
  induction text generalizing before with
  | nil => rfl
  | cons c rest ih =>
      have hhead := hlower c (List.mem_cons_self ..)
      have hsigma : c ≠ 'Σ' := by
        intro hsame
        rw [hsame] at hhead
        exact absurd hhead (by decide)
      rw [lowerAfter, if_neg hsigma, hhead, List.singleton_append,
        ih fun d hd => hlower d (List.mem_cons_of_mem c hd)]

theorem lowercase_lowercase (text : String) : lowercase (lowercase text) = lowercase text := by
  have hlower : ∀ d ∈ lowerAfter [] text.toList, lowerChar d = [d] :=
    fun _ => lowerChar_of_mem_lowerAfter
  unfold lowercase
  rw [String.toList_ofList, lowerAfter_of_lower hlower]

end Conformance
