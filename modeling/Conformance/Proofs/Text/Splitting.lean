import Conformance.Proofs.Text.Lines
import Conformance.Proofs.Text.Utf8

/-!
# Lines of bytes and lines of text

A newline byte is read as a newline wherever it comes, and nothing else is, so bytes may be cut
into lines before they are read or after.  The two ways part only where the bytes end in a
carriage return: captured lines lose it, lines of a text keep it.  A dump of lines is cut back
into those lines, each without a carriage return at its end.
-/

namespace Conformance

/-- A line without one carriage return at its end. -/
def dropReturn (line : String) : String := String.ofList (dropTrailing '\r' line.toList)

section

variable {text : String} {lines : List (List Char)} {tail : List Char}

theorem textLines_of_isCut (hcut : IsCut '\n' text.toList lines tail) :
    textLines text =
      lines.map (fun line => String.ofList (dropTrailing '\r' line)) ++
        (if tail.isEmpty then [] else [String.ofList tail]) := by
  unfold textLines
  rw [hcut.cutLines_eq]
  cases tail with
  | nil => simp
  | cons c more => simp

end

/-! ## Bytes -/

section

variable {stream bytes tail : Bytes} {lines : List Bytes}

theorem lenientChars_newline (before rest : Bytes) :
    lenientChars (before ++ 10 :: rest) = lenientChars before ++ '\n' :: lenientChars rest :=
  lenientChars_append (b := 10) (by decide) before rest

theorem lenientChars_return (before : Bytes) :
    lenientChars (before ++ [13]) = lenientChars before ++ ['\r'] :=
  lenientChars_append (b := 13) (by decide) before []

/-- A carriage return may be dropped before a line is read or after. -/
theorem lenientChars_dropTrailing (line : Bytes) :
    lenientChars (dropTrailing 13 line) = dropTrailing '\r' (lenientChars line) := by
  have hreturn : (lenientChars line).getLast? = some '\r' ↔ line.getLast? = some 13 :=
    getLast?_lenientChars (b := 13) (by decide)
  by_cases hline : line.getLast? = some 13
  · obtain ⟨before, rfl⟩ := List.getLast?_eq_some_iff.mp hline
    rw [dropTrailing_concat, lenientChars_return, dropTrailing_concat]
  · rw [dropTrailing_of_ne hline, dropTrailing_of_ne (mt hreturn.mp hline)]

theorem newline_notMem_lenientChars (hbytes : 10 ∉ bytes) : '\n' ∉ lenientChars bytes := by
  intro hnewline
  obtain ⟨b, hb, hcode⟩ := mem_of_mem_lenientChars hnewline (by decide)
  obtain rfl : b = 10 := UInt8.toNat_inj.mp hcode
  exact hbytes hb

/-- Bytes are cut into lines where the text they are read as is. -/
theorem IsCut.lenientChars (hcut : IsCut 10 bytes lines tail) :
    IsCut '\n' (lenientChars bytes) (lines.map lenientChars) (lenientChars tail) := by
  obtain ⟨rfl, hlines, htail⟩ := hcut
  refine ⟨?_, ?_, newline_notMem_lenientChars htail⟩
  · clear hlines
    induction lines with
    | nil => rfl
    | cons line lines ih =>
        simp only [List.flatMap_cons, List.map_cons, List.append_assoc,
          List.singleton_append] at ih ⊢
        rw [List.cons_append, lenientChars_newline, ih]
        rfl
  · intro line hline
    obtain ⟨other, hother, rfl⟩ := List.mem_map.mp hline
    exact newline_notMem_lenientChars (hlines other hother)

/-- The lines of the text that bytes are read as. -/
theorem textLines_lenientText (stream : Bytes) :
    textLines (lenientText stream) =
      (endedLines stream).map lenientText ++
        (if (cutLines (10 : UInt8) stream).2.isEmpty then []
          else [lenientText (cutLines (10 : UInt8) stream).2]) := by
  have hcut := (cutLines_isCut 10 stream).lenientChars
  rw [← toList_lenientText] at hcut
  have hlines : (endedLines stream).map lenientText =
      ((cutLines (10 : UInt8) stream).1.map lenientChars).map
        fun line => String.ofList (dropTrailing '\r' line) := by
    simp only [endedLines, List.map_map, Function.comp_def, ← lenientChars_dropTrailing]
    rfl
  rw [textLines_of_isCut hcut, hlines]
  congr 1
  by_cases htail : (cutLines (10 : UInt8) stream).2 = []
  · simp [htail, lenientChars_eq_nil_iff]
  · simp only [List.isEmpty_iff, lenientChars_eq_nil_iff, htail, if_false]
    rfl

theorem capturedLines_of_getLast?_ne (hlast : stream.getLast? ≠ some 13) :
    capturedLines stream = textLines (lenientText stream) := by
  have htail : (cutLines (10 : UInt8) stream).2.getLast? ≠ some 13 :=
    mt ((cutLines_isCut 10 stream).getLast?_eq_some_iff (by decide)).mpr hlast
  rw [capturedLines, rawLines_eq, textLines_lenientText, dropTrailing_of_ne htail, List.map_append]
  split
  · rfl
  · rfl

theorem capturedLines_of_getLast?_eq (hlast : stream.getLast? = some 13) :
    ∃ earlier last, capturedLines stream = earlier ++ [last] ∧
      textLines (lenientText stream) = earlier ++ [last ++ "\r"] := by
  have htail : (cutLines (10 : UInt8) stream).2.getLast? = some 13 :=
    ((cutLines_isCut 10 stream).getLast?_eq_some_iff (by decide)).mp hlast
  obtain ⟨before, hbefore⟩ := List.getLast?_eq_some_iff.mp htail
  have hopen : (before ++ [13]).isEmpty = false := by simp
  refine ⟨(endedLines stream).map lenientText, lenientText before, ?_, ?_⟩
  · rw [capturedLines, rawLines_eq, hbefore, dropTrailing_concat, hopen, List.map_append]
    rfl
  · have hreturn : lenientText (before ++ [13]) = lenientText before ++ "\r" := by
      apply String.toList_injective
      simp [lenientChars_return]
    rw [textLines_lenientText, hbefore, hopen, hreturn]
    rfl

/-- There are as many lines either way, and they are the same unless the last one ends in a
carriage return. -/
theorem textLines_eq_capturedLines_iff (stream : Bytes) :
    (textLines (lenientText stream)).length = (capturedLines stream).length ∧
      (textLines (lenientText stream) = capturedLines stream ↔ stream.getLast? ≠ some 13) := by
  by_cases hlast : stream.getLast? = some 13
  · obtain ⟨earlier, last, hcaptured, htext⟩ := capturedLines_of_getLast?_eq hlast
    have hlonger : last ++ "\r" ≠ last := by simp
    simp [hcaptured, htext, hlast, hlonger]
  · rw [capturedLines_of_getLast?_ne hlast]
    exact ⟨rfl, by simp [hlast]⟩

/-- No captured line has a newline in it. -/
theorem newline_notMem_capturedLines : ∀ line ∈ capturedLines stream, '\n' ∉ line.toList := by
  intro line hline
  obtain ⟨raw, hraw, rfl⟩ := List.mem_map.mp hline
  rw [toList_lenientText]
  obtain ⟨-, hlines, htail⟩ := cutLines_isCut 10 stream
  obtain ⟨piece, hpiece, rfl⟩ := List.mem_map.mp hraw
  refine newline_notMem_lenientChars fun hnewline => ?_
  replace hnewline := mem_of_mem_dropTrailing hnewline
  rcases List.mem_append.mp hpiece with hended | hopen
  · exact hlines piece hended hnewline
  · split at hopen
    · cases hopen
    · rw [List.mem_singleton.mp hopen] at hnewline
      exact htail hnewline

end

/-! ## Dumps -/

section

variable {lines first second : List String}

/-- Lines with a newline after each. -/
def terminateLines (lines : List String) : String :=
  String.join (lines.map (· ++ "\n"))

theorem toList_terminateLines (lines : List String) :
    (terminateLines lines).toList = (lines.map String.toList).flatMap (· ++ ['\n']) := by
  simp [terminateLines, List.flatMap_map]

/-- Between lines there are newlines, so every line but the last has one behind it. -/
theorem toList_joinLines (lines : List String) (line : String) :
    (joinLines (lines ++ [line])).toList =
      (lines.map String.toList).flatMap (· ++ ['\n']) ++ line.toList := by
  induction lines with
  | nil => simp [joinLines]
  | cons other lines ih =>
      rw [List.cons_append, joinLines, String.intercalate_cons_of_ne_nil (by simp), ← joinLines]
      simp [ih]

/-- In a dump every line has a newline after it. -/
theorem dumpLines_eq_terminateLines (lines : List String) :
    dumpLines lines = terminateLines lines := by
  rw [← String.toList_inj, toList_terminateLines]
  cases lines using List.reverseRecOn with
  | nil => rfl
  | append_singleton lines line => simp [dumpLines, toList_joinLines]

theorem terminateLines_isCut (hlines : ∀ line ∈ lines, '\n' ∉ line.toList) :
    IsCut '\n' (terminateLines lines).toList (lines.map String.toList) [] := by
  refine ⟨?_, ?_, List.not_mem_nil⟩
  · rw [toList_terminateLines, List.append_nil]
  · simpa using hlines

/-- A dump is cut back into its lines. -/
theorem textLines_terminateLines (hlines : ∀ line ∈ lines, '\n' ∉ line.toList) :
    textLines (terminateLines lines) = lines.map dropReturn := by
  rw [textLines_of_isCut (terminateLines_isCut hlines)]
  simp [Function.comp_def, dropReturn]

/-- Lines that have been dumped are told apart. -/
theorem terminateLines_inj (hfirst : ∀ line ∈ first, '\n' ∉ line.toList)
    (hsecond : ∀ line ∈ second, '\n' ∉ line.toList) :
    terminateLines first = terminateLines second ↔ first = second := by
  have hinjective : Function.Injective (List.map String.toList) :=
    List.map_injective_iff.mpr fun _ _ => String.toList_injective
  constructor
  · intro hsame
    have hlines := (terminateLines_isCut hfirst).cutLines_eq
    rw [hsame, (terminateLines_isCut hsecond).cutLines_eq] at hlines
    exact hinjective (Prod.mk.inj hlines).1.symm
  · intro hsame
    rw [hsame]

theorem dropReturn_eq_self_iff {line : String} :
    dropReturn line = line ↔ line.toList.getLast? ≠ some '\r' := by
  rw [← dropTrailing_eq_self_iff, dropReturn, ← String.toList_inj, String.toList_ofList]

theorem textLines_terminateLines_eq_iff (hlines : ∀ line ∈ lines, '\n' ∉ line.toList) :
    textLines (terminateLines lines) = lines ↔
      ∀ line ∈ lines, line.toList.getLast? ≠ some '\r' := by
  rw [textLines_terminateLines hlines]
  nth_rewrite 2 [← List.map_id lines]
  simp only [List.map_inj_left, dropReturn_eq_self_iff, id]

end

end Conformance
