import Conformance.ExecuteStage
import Conformance.Proofs.Text.Splitting

/-!
# What a comparison shows

The lines that the walk through the table finds are common to both lists, in order, whatever the
table holds.  Lists that are laid out against common lines are shown completely: what is left of
the layout without the lines of one list is the other list.  Only the way through texts loses
something.  The text of a single empty line is the text of no lines at all, and is compared as
such.
-/

namespace Conformance

/-! ## The two sides of a comparison -/

/-- The line as it stands in the expected lines. -/
def DiffLine.expected? : DiffLine → Option String
  | .same text => some text
  | .expected text => some text
  | .actual _ => none

/-- The line as it stands in the captured lines. -/
def DiffLine.actual? : DiffLine → Option String
  | .same text => some text
  | .expected _ => none
  | .actual text => some text

/-- What a comparison shows as expected. -/
def expectedSide (diff : List DiffLine) : List String := diff.filterMap DiffLine.expected?

/-- What a comparison shows as printed. -/
def actualSide (diff : List DiffLine) : List String := diff.filterMap DiffLine.actual?

@[simp]
theorem expectedSide_nil : expectedSide [] = [] := rfl

@[simp]
theorem actualSide_nil : actualSide [] = [] := rfl

section

variable (text : String) (diff : List DiffLine)

@[simp]
theorem expectedSide_same : expectedSide (.same text :: diff) = text :: expectedSide diff := rfl

@[simp]
theorem expectedSide_expected :
    expectedSide (.expected text :: diff) = text :: expectedSide diff := rfl

@[simp]
theorem expectedSide_actual : expectedSide (.actual text :: diff) = expectedSide diff := rfl

@[simp]
theorem actualSide_same : actualSide (.same text :: diff) = text :: actualSide diff := rfl

@[simp]
theorem actualSide_expected : actualSide (.expected text :: diff) = actualSide diff := rfl

@[simp]
theorem actualSide_actual : actualSide (.actual text :: diff) = text :: actualSide diff := rfl

end

section

variable {first second common found : List String}

/-! ## Common lines -/

/-- The lines that were found lie from the given positions on, in either list. -/
structure LieFrom (first second : List String) (i j : Nat) (found : List String) : Prop where
  left : found.Sublist (first.drop i)
  right : found.Sublist (second.drop j)

theorem LieFrom.mono {i i' j j' : Nat} (hfound : LieFrom first second i j found) (hi : i' ≤ i)
    (hj : j' ≤ j) : LieFrom first second i' j' found :=
  ⟨hfound.left.trans (List.drop_sublist_drop_left first hi),
    hfound.right.trans (List.drop_sublist_drop_left second hj)⟩

/-- A line that both lists have before those found is one more of them. -/
theorem LieFrom.cons {i j : Nat} {line : String} (hfound : LieFrom first second (i + 1) (j + 1) found)
    (hi : first[i]? = some line) (hj : second[j]? = some line) :
    LieFrom first second i j (line :: found) := by
  obtain ⟨hileft, rfl⟩ := List.getElem?_eq_some_iff.mp hi
  obtain ⟨hjright, hline⟩ := List.getElem?_eq_some_iff.mp hj
  refine ⟨?_, ?_⟩
  · rw [List.drop_eq_getElem_cons hileft]
    exact hfound.left.cons_cons _
  · rw [List.drop_eq_getElem_cons hjright, hline]
    exact hfound.right.cons_cons _

theorem getElem?_eq_getD {i : Nat} (hi : i < first.length) :
    first[i]? = some (first.toArray.getD i "") := by
  simp [Array.getD, hi]

/-- Wherever the walk goes, it finds lines that lie before those found already.  The table decides
where it goes on, never what it finds. -/
theorem lieFrom_commonWalk {table : Array Nat} {fuel i j : Nat} (hi : i < first.length)
    (hj : j < second.length) (hfound : LieFrom first second (i + 1) (j + 1) found) :
    LieFrom first second 0 0
      (commonWalk first.toArray second.toArray table fuel i j found) := by
  induction fuel generalizing i j found with
  | zero => exact hfound.mono (Nat.zero_le _) (Nat.zero_le _)
  | succ fuel ih =>
      unfold commonWalk
      dsimp only
      split
      · rename_i hline
        have htaken := hfound.cons (getElem?_eq_getD hi) (hline ▸ getElem?_eq_getD hj)
        split
        · exact htaken.mono (Nat.zero_le _) (Nat.zero_le _)
        · have hi' : i - 1 < first.length := by omega
          have hj' : j - 1 < second.length := by omega
          have hboth : LieFrom first second (i - 1 + 1) (j - 1 + 1) _ :=
            htaken.mono (by omega) (by omega)
          exact ih hi' hj' hboth
      · split
        · exact hfound.mono (Nat.zero_le _) (Nat.zero_le _)
        · split
          · split
            · exact hfound.mono (Nat.zero_le _) (Nat.zero_le _)
            · have hj' : j - 1 < second.length := by omega
              have hright : LieFrom first second (i + 1) (j - 1 + 1) found :=
                hfound.mono le_rfl (by omega)
              exact ih hi hj' hright
          · have hi' : i - 1 < first.length := by omega
            have hleft : LieFrom first second (i - 1 + 1) (j + 1) found :=
              hfound.mono (by omega) le_rfl
            exact ih hi' hj hleft

theorem commonLines_sublist (hfirst : first ≠ []) (hsecond : second ≠ []) :
    (commonLines first second).Sublist first ∧ (commonLines first second).Sublist second := by
  have hi := List.length_pos_iff.mpr hfirst
  have hj := List.length_pos_iff.mpr hsecond
  have hwalk : LieFrom first second 0 0 (commonLines first second) :=
    lieFrom_commonWalk (by omega) (by omega) ⟨List.nil_sublist _, List.nil_sublist _⟩
  exact ⟨hwalk.left, hwalk.right⟩

/-! ## The layout -/

/-- A line that is not the next common one is passed over. -/
theorem sublist_of_ne {x z : String} (hcommon : (z :: common).Sublist (x :: first)) (hne : x ≠ z) :
    (z :: common).Sublist first := by
  cases hcommon with
  | cons _ hlater => exact hlater
  | cons_cons => exact absurd rfl hne

/-- Laid out against common lines, both lists are shown completely. -/
theorem mergeLines_sides (hfirst : common.Sublist first) (hsecond : common.Sublist second) :
    expectedSide (mergeLines first second common) = first ∧
      actualSide (mergeLines first second common) = second := by
  fun_induction mergeLines first second common with
  | case1 x first y second z common halike ih =>
      obtain ⟨rfl, rfl⟩ := halike
      obtain ⟨hexpected, hactual⟩ := ih (List.cons_sublist_cons.mp hfirst)
        (List.cons_sublist_cons.mp hsecond)
      rw [expectedSide_same, actualSide_same, hexpected, hactual]
      exact ⟨rfl, rfl⟩
  | case2 x first y second z common _ hx ih =>
      obtain ⟨hexpected, hactual⟩ := ih (sublist_of_ne hfirst hx) hsecond
      rw [expectedSide_expected, actualSide_expected, hexpected]
      exact ⟨rfl, hactual⟩
  | case3 x first y second z common _ _ hy ih =>
      obtain ⟨hexpected, hactual⟩ := ih hfirst (sublist_of_ne hsecond hy)
      rw [expectedSide_actual, actualSide_actual, hactual]
      exact ⟨hexpected, rfl⟩
  | case4 x first y second z common hnot hx hy =>
      have hleft : x = z := not_not.mp hx
      have hright : y = z := not_not.mp hy
      exact absurd ⟨hleft.trans hright.symm, hright⟩ hnot
  | case5 => cases hsecond
  | case6 => cases hsecond
  | case7 => cases hfirst
  | case8 => cases hfirst
  | case9 x first second ih =>
      obtain ⟨hexpected, hactual⟩ := ih (List.nil_sublist _) (List.nil_sublist _)
      rw [expectedSide_expected, actualSide_expected, hexpected]
      exact ⟨rfl, hactual⟩
  | case10 y second ih =>
      obtain ⟨hexpected, hactual⟩ := ih (List.nil_sublist _) (List.nil_sublist _)
      rw [expectedSide_actual, actualSide_actual, hactual]
      exact ⟨hexpected, rfl⟩
  | case11 => exact ⟨expectedSide_nil, actualSide_nil⟩

end

/-! ## The way through texts -/

theorem pieces_eq (text : String) :
    pieces text =
      ((cutLines '\n' text.toList).1 ++ [(cutLines '\n' text.toList).2]).map String.ofList :=
  rfl

theorem pieces_ne_nil (text : String) : pieces text ≠ [] := by
  simp [pieces_eq]

theorem newline_notMem_pieces {text line : String} (hline : line ∈ pieces text) :
    '\n' ∉ line.toList := by
  obtain ⟨-, hlines, htail⟩ := cutLines_isCut '\n' text.toList
  rw [pieces_eq] at hline
  obtain ⟨piece, hpiece, rfl⟩ := List.mem_map.mp hline
  rw [String.toList_ofList]
  rcases List.mem_append.mp hpiece with hended | hlast
  · exact hlines piece hended
  · exact List.mem_singleton.mp hlast ▸ htail

/-- The lines as a comparison sees them: a single empty line is none. -/
def comparedLines (lines : List String) : List String := if lines = [""] then [] else lines

section

variable {lines : List String}

theorem joinLines_isCut {line : String} (hlines : ∀ other ∈ lines, '\n' ∉ other.toList)
    (hline : '\n' ∉ line.toList) :
    IsCut '\n' (joinLines (lines ++ [line])).toList (lines.map String.toList) line.toList :=
  ⟨toList_joinLines lines line, by simpa using hlines, hline⟩

/-- A text is cut back into the lines it was joined from; no lines give one empty piece. -/
theorem pieces_joinLines (hlines : ∀ line ∈ lines, '\n' ∉ line.toList) :
    pieces (joinLines lines) = if lines = [] then [""] else lines := by
  cases lines using List.reverseRecOn with
  | nil => decide
  | append_singleton lines line =>
      simp only [List.forall_mem_append, List.forall_mem_singleton] at hlines
      have hcut := joinLines_isCut hlines.1 hlines.2
      simp [pieces_eq, hcut.cutLines_eq, Function.comp_def]

theorem joinLines_eq_empty_iff : joinLines lines = "" ↔ lines = [] ∨ lines = [""] := by
  match lines with
  | [] => simp [joinLines]
  | [line] => simp [joinLines]
  | line :: other :: more => simp [joinLines, String.intercalate_cons_cons]

theorem contentPieces_joinLines (hlines : ∀ line ∈ lines, '\n' ∉ line.toList) :
    contentPieces (joinLines lines) = comparedLines lines := by
  simp only [contentPieces, comparedLines, String.isEmpty_iff, joinLines_eq_empty_iff,
    pieces_joinLines hlines]
  by_cases hnone : lines = []
  · simp [hnone]
  · simp [hnone]

/-- Lines that lie in the pieces of a text still do where both are seen as the comparison sees
them. -/
theorem comparedLines_sublist {common : List String}
    (hcommon : common.Sublist (if lines = [] then [""] else lines)) :
    (comparedLines common).Sublist (comparedLines lines) := by
  by_cases hblank : lines = [] ∨ lines = [""]
  · have hpieces : (if lines = [] then [""] else lines) = [""] := by
      cases hblank with
      | inl hnone => rw [hnone, if_pos rfl]
      | inr hempty => rw [hempty, if_neg (List.cons_ne_nil _ _)]
    have hnothing : comparedLines common = [] := by
      rw [hpieces, List.sublist_singleton] at hcommon
      cases hcommon with
      | inl hnone => simp [hnone, comparedLines]
      | inr hempty => simp [hempty, comparedLines]
    rw [hnothing]
    exact List.nil_sublist _
  · obtain ⟨hsome, hmore⟩ := not_or.mp hblank
    rw [if_neg hsome] at hcommon
    rw [comparedLines, comparedLines, if_neg hmore]
    split
    · exact List.nil_sublist _
    · exact hcommon

end

/-! ## Comparisons -/

section

variable {expected captured : List String}

/-- A comparison shows both lists of lines completely, each as it is seen. -/
theorem compareTexts_joinLines (hexpected : ∀ line ∈ expected, '\n' ∉ line.toList)
    (hcaptured : ∀ line ∈ captured, '\n' ∉ line.toList) :
    let diff := compareTexts (joinLines expected) (joinLines captured)
    expectedSide diff = comparedLines expected ∧ actualSide diff = comparedLines captured := by
  intro diff
  obtain ⟨hfirst, hsecond⟩ :=
    commonLines_sublist (pieces_ne_nil (joinLines expected)) (pieces_ne_nil (joinLines captured))
  have hcommon := contentPieces_joinLines fun line hline =>
    newline_notMem_pieces (hfirst.subset hline)
  have hlayout : diff = mergeLines (comparedLines expected) (comparedLines captured)
      (comparedLines (commonLines (pieces (joinLines expected)) (pieces (joinLines captured)))) := by
    rw [← contentPieces_joinLines hexpected, ← contentPieces_joinLines hcaptured, ← hcommon]
    rfl
  rw [hlayout]
  apply mergeLines_sides
  · exact comparedLines_sublist (pieces_joinLines hexpected ▸ hfirst)
  · exact comparedLines_sublist (pieces_joinLines hcaptured ▸ hsecond)

theorem newline_notMem_take (hcaptured : ∀ line ∈ captured, '\n' ∉ line.toList) (count : Nat) :
    ∀ line ∈ captured.take count, '\n' ∉ line.toList :=
  fun line hline => hcaptured line (List.mem_of_mem_take hline)

theorem mem_actualSide_iff {text : String} {diff : List DiffLine} :
    text ∈ actualSide diff ↔ .same text ∈ diff ∨ .actual text ∈ diff := by
  simp only [actualSide, List.mem_filterMap]
  constructor
  · intro hshown
    obtain ⟨line, hline, htext⟩ := hshown
    cases line with
    | same other =>
        rw [Option.some.inj htext] at hline
        exact .inl hline
    | expected other => cases htext
    | actual other =>
        rw [Option.some.inj htext] at hline
        exact .inr hline
  · intro hline
    cases hline with
    | inl hsame => exact ⟨_, hsame, rfl⟩
    | inr hactual => exact ⟨_, hactual, rfl⟩

/-- Output that should have matched and did not fails with the comparison, cut to size. -/
theorem checkOutput_diff {files : FileTree} {place : Path} {text : String} {outcome : Outcome}
    (htext : files.readText place = .ok text)
    (hdiffers : prefixMatches (textLines text) outcome.stdout = false) :
    ∃ failure, (checkOutput files place false outcome).1 = .fail .output failure ∧
      failure.diff = lineDiff (textLines text) outcome.stdout := by
  simp only [checkOutput, htext, hdiffers]
  exact ⟨_, rfl, rfl⟩

theorem comparedLines_eq_self_iff {lines : List String} :
    comparedLines lines = lines ↔ lines ≠ [""] := by
  unfold comparedLines
  split
  · rename_i hempty
    simp [hempty]
  · rename_i hmore
    simp [hmore]

/-- The comparison of expected lines with as many captured ones shows the expected lines and
those captured ones, in order and completely, except that a single empty line on either side is
not shown.  No line is shown as printed that was not printed, and a failure keeps the first
twenty lines. -/
theorem fullDiff_shows_both_sides (hexpected : ∀ line ∈ expected, '\n' ∉ line.toList)
    (hcaptured : ∀ line ∈ captured, '\n' ∉ line.toList) :
    let diff := fullDiff expected captured
    let compared := captured.take expected.length
    (expectedSide diff = comparedLines expected ∧
        (expectedSide diff = expected ↔ expected ≠ [""])) ∧
      (actualSide diff = comparedLines compared ∧
        (actualSide diff = compared ↔ compared ≠ [""])) ∧
      (lineDiff expected captured = diff.take 20 ∧
        ∀ text, .same text ∈ diff ∨ .actual text ∈ diff → text ∈ compared) ∧
      ∀ (files : FileTree) (place : Path) (text : String) (outcome : Outcome),
        files.readText place = .ok text → textLines text = expected → outcome.stdout = captured →
        prefixMatches expected captured = false →
        ∃ failure, (checkOutput files place false outcome).1 = .fail .output failure ∧
          failure.diff = diff.take 20 := by
  intro diff compared
  obtain ⟨hleft, hright⟩ : expectedSide diff = comparedLines expected ∧
      actualSide diff = comparedLines compared :=
    compareTexts_joinLines hexpected (newline_notMem_take hcaptured expected.length)
  refine ⟨⟨hleft, ?_⟩, ⟨hright, ?_⟩, ⟨rfl, ?printed⟩, ?kept⟩
  · rw [hleft, comparedLines_eq_self_iff]
  · rw [hright, comparedLines_eq_self_iff]
  case printed =>
    intro text htext
    have hshown := mem_actualSide_iff.mpr htext
    rw [hright, comparedLines] at hshown
    split at hshown
    · cases hshown
    · exact hshown
  case kept =>
    intro files place text outcome htext hwanted hprinted hdiffers
    subst hwanted hprinted
    exact checkOutput_diff htext hdiffers

end

/-- A line that is missing and one that differs, and a further line that is not compared. -/
theorem fullDiff_shows_both_sides_twoLines :
    let expected := ["hello", "world"]
    let captured := ["hello", "", "extra"]
    prefixMatches expected captured = false ∧
      expectedSide (fullDiff expected captured) = ["hello", "world"] ∧
      actualSide (fullDiff expected captured) = ["hello", ""] := by
  intro expected captured
  have hexpected : ∀ line ∈ expected, '\n' ∉ line.toList := by decide
  have hcaptured : ∀ line ∈ captured, '\n' ∉ line.toList := by decide
  obtain ⟨hleft, hright, _, _⟩ := fullDiff_shows_both_sides hexpected hcaptured
  have hdiffers : prefixMatches expected captured = false := by decide
  exact ⟨hdiffers, hleft.2.mpr (by decide), hright.2.mpr (by decide)⟩

/-- A program that prints an empty line is shown as one that prints nothing, and an empty line
that was expected is not shown as missing. -/
theorem emptyLine_isNotShown :
    (prefixMatches ["a"] [""] = false ∧ fullDiff ["a"] [""] = [.expected "a"] ∧
        actualSide (fullDiff ["a"] [""]) ≠ [""]) ∧
      prefixMatches [""] [] = false ∧ fullDiff [""] [] = [] ∧
        expectedSide (fullDiff [""] []) ≠ [""] := by
  decide +kernel

end Conformance
