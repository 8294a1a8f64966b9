import Conformance.Text.Lines
import Mathlib.Tactic

/-!
# Cutting lines piece by piece

What follows the last newline of one piece is put before the next piece; nothing else of
the first piece is needed to cut the second.  So a sequence may arrive in any pieces, and
the lines of its beginning are the first lines of the whole.
-/

namespace Conformance

section

variable {α : Type} [DecidableEq α]

theorem cutLines_append (newline : α) (first rest : List α) :
    cutLines newline (first ++ rest) =
      let head := cutLines newline first
      let later := cutLines newline (head.2 ++ rest)
      (head.1 ++ later.1, later.2) := by
  induction first with
  | nil => rfl
  | cons c first ih =>
      simp only [List.cons_append, cutLines, ih]
      by_cases hnewline : c = newline
      · simp [hnewline]
      · cases hlines : (cutLines newline first).1 with
        | nil => simp [hnewline, cutLines]
        | cons line more => simp [hnewline]

/-- The lines that have ended are not cut again. -/
theorem cutLines_prefix (newline : α) {first whole : List α} (hfirst : first <+: whole) :
    (cutLines newline first).1 <+: (cutLines newline whole).1 := by
  obtain ⟨rest, rfl⟩ := hfirst
  rw [cutLines_append]
  exact List.prefix_append ..

theorem notMem_cutLines_snd (newline : α) (list : List α) :
    newline ∉ (cutLines newline list).2 := by
  induction list with
  | nil => simp [cutLines]
  | cons c rest ih =>
      rw [cutLines]
      by_cases hnewline : c = newline
      · simpa [hnewline] using ih
      · cases hlines : (cutLines newline rest).1 with
        | nil => simpa [hnewline, Ne.symm hnewline, hlines] using ih
        | cons line more => simpa [hnewline, hlines] using ih

theorem cutLines_append_newline {newline : α} {line : List α} (hline : newline ∉ line) :
    cutLines newline (line ++ [newline]) = ([line], []) := by
  induction line with
  | nil => simp [cutLines]
  | cons c rest ih =>
      obtain ⟨hne, hrest⟩ := not_or.mp (mt List.mem_cons.mpr hline)
      rw [List.cons_append, cutLines, ih hrest]
      simp [Ne.symm hne]

/-- A sequence in parts: each of `lines` was ended by a newline, `tail` was not. -/
structure IsCut (newline : α) (list : List α) (lines : List (List α)) (tail : List α) : Prop where
  eq : list = lines.flatMap (· ++ [newline]) ++ tail
  lines : ∀ line ∈ lines, newline ∉ line
  tail : newline ∉ tail

theorem cutLines_isCut (newline : α) (list : List α) :
    IsCut newline list (cutLines newline list).1 (cutLines newline list).2 := by
  refine ⟨?_, ?_, notMem_cutLines_snd newline list⟩
  · induction list with
    | nil => rfl
    | cons c rest ih =>
        by_cases hnewline : c = newline
        · simpa [cutLines, hnewline] using ih
        · cases hlines : (cutLines newline rest).1 with
          | nil => simpa [cutLines, hnewline, hlines] using ih
          | cons line more => simpa [cutLines, hnewline, hlines] using ih
  · induction list with
    | nil => simp [cutLines]
    | cons c rest ih =>
        by_cases hnewline : c = newline
        · simpa [cutLines, hnewline] using ih
        · cases hlines : (cutLines newline rest).1 with
          | nil => simp [cutLines, hnewline, hlines]
          | cons line more => simpa [cutLines, hnewline, Ne.symm hnewline, hlines] using ih

theorem cutLines_of_notMem {newline : α} {list : List α} (hlist : newline ∉ list) :
    cutLines newline list = ([], list) := by
  induction list with
  | nil => rfl
  | cons c rest ih =>
      obtain ⟨hne, hrest⟩ := not_or.mp (mt List.mem_cons.mpr hlist)
      simp [cutLines, ih hrest, Ne.symm hne]

/-- There is one way only to cut a sequence. -/
theorem IsCut.cutLines_eq {newline : α} {list tail : List α} {lines : List (List α)}
    (hcut : IsCut newline list lines tail) : cutLines newline list = (lines, tail) := by
  obtain ⟨rfl, hlines, htail⟩ := hcut
  induction lines with
  | nil => exact cutLines_of_notMem htail
  | cons line lines ih =>
      obtain ⟨hline, hlater⟩ := List.forall_mem_cons.mp hlines
      rw [List.flatMap_cons, List.append_assoc, cutLines_append, cutLines_append_newline hline]
      simp [ih hlater]

omit [DecidableEq α] in
/-- How a sequence ends is how the part behind its last newline ends, newlines apart. -/
theorem IsCut.getLast?_eq_some_iff {newline mark : α} {list tail : List α}
    {lines : List (List α)} (hcut : IsCut newline list lines tail) (hmark : mark ≠ newline) :
    list.getLast? = some mark ↔ tail.getLast? = some mark := by
  obtain ⟨rfl, -, -⟩ := hcut
  rw [List.getLast?_append]
  cases htail : tail.getLast? with
  | some last => simp
  | none =>
      induction lines using List.reverseRecOn with
      | nil => simp
      | append_singleton lines line _ => simp [hmark.symm]

/-! ## Marks at the end -/

theorem dropTrailing_concat (mark : α) (line : List α) :
    dropTrailing mark (line ++ [mark]) = line := by
  simp [dropTrailing]

theorem dropTrailing_of_ne {mark : α} {line : List α} (hline : line.getLast? ≠ some mark) :
    dropTrailing mark line = line :=
  if_neg hline

theorem mem_of_mem_dropTrailing {mark c : α} {line : List α} (hc : c ∈ dropTrailing mark line) :
    c ∈ line := by
  unfold dropTrailing at hc
  split at hc
  · exact List.mem_of_mem_dropLast hc
  · exact hc

theorem dropTrailing_eq_self_iff {mark : α} {line : List α} :
    dropTrailing mark line = line ↔ line.getLast? ≠ some mark := by
  refine ⟨?_, dropTrailing_of_ne⟩
  intro hsame hlast
  obtain ⟨before, rfl⟩ := List.getLast?_eq_some_iff.mp hlast
  simp [dropTrailing_concat] at hsame

end

/-- The lines of an output that have ended, as they are captured. -/
def endedLines (output : Bytes) : List Bytes :=
  (cutLines (10 : UInt8) output).1.map (dropTrailing 13)

/-- A line that has not ended is the last line of the output, unless it is empty. -/
theorem rawLines_eq (output : Bytes) :
    rawLines output =
      endedLines output ++
        (if (cutLines (10 : UInt8) output).2.isEmpty then []
          else [dropTrailing 13 (cutLines (10 : UInt8) output).2]) := by
  unfold rawLines endedLines
  dsimp only
  rw [List.map_append]
  split
  · rfl
  · rfl

/-- A newline behind the last line makes no difference, unless that line has ended. -/
theorem rawLines_append_newline {output : Bytes} (hopen : (cutLines (10 : UInt8) output).2 ≠ []) :
    rawLines (output ++ [10]) = rawLines output := by
  have hcut := cutLines_append (10 : UInt8) output [10]
  simp only [cutLines_append_newline (notMem_cutLines_snd 10 output)] at hcut
  rw [rawLines_eq, rawLines_eq, endedLines, endedLines, hcut]
  simp [hopen]

theorem endedLines_prefix {first whole : Bytes} (hfirst : first <+: whole) :
    endedLines first <+: rawLines whole := by
  have hlines := cutLines_prefix (10 : UInt8) hfirst
  rw [rawLines_eq]
  exact (hlines.map (dropTrailing (13 : UInt8))).trans (List.prefix_append ..)

end Conformance
