import Conformance.Proofs.Capture.Interleaving
import Conformance.Proofs.Session.Verdicts
import Conformance.Proofs.Text.Splitting

/-!
# Expected files and captured output

A file of expected output is cut into lines as a text, what a child prints is cut as it is
captured.  A child that prints the bytes of the file matches it, unless they end in a carriage
return.  Output that was kept in a file is matched by the same output again, unless one of its
lines ends in a carriage return: such a line is captured where two of them stood before a newline.
-/

namespace Conformance

section

variable {files : FileTree} {expected : Path} {outcome : Outcome} {text : String}

theorem FileTree.readText_eq_ok {tree : FileTree} {p : Path} :
    tree.readText p = .ok text ↔
      ∃ bytes, tree.read p = .ok bytes ∧ textOfBytes? bytes = some text := by
  unfold FileTree.readText
  cases tree.read p with
  | error cause => simp [bind, Except.bind]
  | ok bytes =>
      cases htext : textOfBytes? bytes with
      | none => simp [bind, Except.bind, htext]
      | some found => simp [bind, Except.bind, htext]

/-- Where there are as many expected lines as captured ones, they match only if they are equal. -/
theorem prefixMatches_iff_eq {expected captured : List String}
    (hlength : expected.length = captured.length) :
    prefixMatches expected captured = true ↔ expected = captured := by
  rw [prefixMatches_iff]
  exact ⟨fun hbegins => hbegins.eq_of_length hlength, fun hsame => hsame ▸ List.prefix_rfl⟩

theorem checkOutput_passed_iff_eq (htext : files.readText expected = .ok text)
    (hlength : (textLines text).length = outcome.stdout.length) (expectFailure : Bool) :
    (checkOutput files expected expectFailure outcome).1.passed = true ↔
      (textLines text = outcome.stdout ↔ expectFailure = false) := by
  rw [checkOutput_passed, ← prefixMatches_iff_eq hlength]
  simp [htext, prefixMatches_iff]

end

/-! ## Output that a file was made for -/

namespace Capture

section

variable {stream : Bytes} {steps : List Step}

/-- A reader that has met the end of the pipe has passed on every line of the stream. -/
theorem Interleaving.passed_of_close (hsteps : Interleaving stream steps)
    (hclose : .close ∈ steps) :
    (start.run steps).passed.map lenientText = capturedLines stream := by
  cases hsteps.progress with
  | reading hreading _ _ _ => exact absurd hclose hreading.1
  | ended _ _ _ hpassed => rw [hpassed, capturedLines]
  | failed hnoclose _ _ _ => exact absurd hclose hnoclose

/-- Bytes that are read to their end are cut into the lines of the text they are read as, but for
a carriage return at their very end, which the last captured line loses.  So a file matches a
child that prints its bytes exactly if they do not end in one. -/
theorem lines_split_alike (hsteps : Interleaving stream steps) (hclose : .close ∈ steps) :
    let captured := (start.run steps).passed.map lenientText
    (stream.getLast? ≠ some 13 → captured = textLines (lenientText stream)) ∧
      (stream.getLast? = some 13 → ∃ earlier last, captured = earlier ++ [last] ∧
        textLines (lenientText stream) = earlier ++ [last ++ "\r"]) ∧
      ∀ text, textOfBytes? stream = some text →
        (prefixMatches (textLines text) captured = true ↔ stream.getLast? ≠ some 13) ∧
        ∀ (files : FileTree) (expected : Path) (expectFailure : Bool) (outcome : Outcome),
          files.read expected = .ok stream → outcome.stdout = captured →
          ((checkOutput files expected expectFailure outcome).1.passed = true ↔
            (stream.getLast? ≠ some 13 ↔ expectFailure = false)) := by
  intro captured
  have hcaptured : captured = capturedLines stream := hsteps.passed_of_close hclose
  obtain ⟨hlength, hequal⟩ := textLines_eq_capturedLines_iff stream
  rw [hcaptured]
  refine ⟨capturedLines_of_getLast?_ne, capturedLines_of_getLast?_eq, ?_⟩
  intro text htext
  rw [lenientText_of_textOfBytes? htext] at hlength hequal
  refine ⟨(prefixMatches_iff_eq hlength).trans hequal, ?_⟩
  intro files expected expectFailure outcome hread hstdout
  rw [← hstdout] at hlength hequal
  rw [← hequal]
  exact checkOutput_passed_iff_eq (FileTree.readText_eq_ok.mpr ⟨stream, hread, htext⟩) hlength
    expectFailure

end

/-- A carriage return before a newline is dropped either way, one at the very end is not. -/
theorem lines_split_alike_of_two_lines :
    (start.run [.arrive [97, 13], .arrive [10, 98], .take, .close]).passed.map lenientText =
        textLines "a\r\nb" ∧
      prefixMatches (textLines "a\r\nb\r")
        ((start.run [.arrive [97, 13], .arrive [10, 98, 13], .close]).passed.map lenientText) =
          false := by
  constructor
  · have hread : Interleaving [97, 13, 10, 98] [.arrive [97, 13]] :=
      Interleaving.initial.arrive ⟨by decide, by decide⟩ (by decide)
    have hall : Interleaving [97, 13, 10, 98] [.arrive [97, 13], .arrive [10, 98]] :=
      hread.arrive ⟨by decide, by decide⟩ (by decide)
    have hclosed : Interleaving [97, 13, 10, 98]
        [.arrive [97, 13], .arrive [10, 98], .take, .close] :=
      hall.take.close ⟨by decide, by decide⟩ (by decide)
    obtain ⟨hread, _⟩ := lines_split_alike hclosed (by decide)
    have htext : lenientText [97, 13, 10, 98] = "a\r\nb" := by decide +kernel
    rw [← htext]
    exact hread (by decide)
  · have hread : Interleaving [97, 13, 10, 98, 13] [.arrive [97, 13]] :=
      Interleaving.initial.arrive ⟨by decide, by decide⟩ (by decide)
    have hall : Interleaving [97, 13, 10, 98, 13] [.arrive [97, 13], .arrive [10, 98, 13]] :=
      hread.arrive ⟨by decide, by decide⟩ (by decide)
    have hclosed : Interleaving [97, 13, 10, 98, 13]
        [.arrive [97, 13], .arrive [10, 98, 13], .close] :=
      hall.close ⟨by decide, by decide⟩ (by decide)
    have htext : textOfBytes? [97, 13, 10, 98, 13] = some "a\r\nb\r" := by decide +kernel
    have hmatch := ((lines_split_alike hclosed (by decide)).2.2 _ htext).1
    rw [Bool.eq_false_iff, ne_eq, hmatch]
    decide

end Capture

/-! ## Output that was kept -/

section

variable {files written : FileTree} {expected observed : Path} {captured : List String}

theorem read_of_writeObserved
    (hwrite : writeObserved files expected captured = (some observed, written)) :
    written.read observed = .ok (bytesOfText (terminateLines captured)) := by
  unfold writeObserved at hwrite
  rw [dumpLines_eq_terminateLines] at hwrite
  cases hkept : files.writeText (observedPath expected) (terminateLines captured) with
  | error cause => simp [hkept] at hwrite
  | ok kept =>
      have hresult : observedPath expected = observed ∧ kept = written := by
        simpa [hkept] using hwrite
      obtain ⟨place, executable, _, _, hthere⟩ := FileTree.find_write hkept
      rw [hresult.1, hresult.2] at hthere
      exact FileTree.read_eq_ok.mpr ⟨place, executable, hthere⟩

/-- A file that holds kept output is read as those lines, each without a carriage return at its
end.  The same output matches it exactly if no line loses one, and two outputs that are kept
leave equal files only if they are equal. -/
theorem writeObserved_roundTrip (hlines : ∀ line ∈ captured, '\n' ∉ line.toList)
    (hwrite : writeObserved files expected captured = (some observed, written)) :
    (∃ text, written.readText observed = .ok text ∧ textLines text = captured.map dropReturn ∧
      (prefixMatches (textLines text) captured = true ↔
        ∀ line ∈ captured, line.toList.getLast? ≠ some '\r')) ∧
      (∀ (later : FileTree) (place : Path) (expectFailure : Bool) (outcome : Outcome),
        later.read place = written.read observed → outcome.stdout = captured →
        ((checkOutput later place expectFailure outcome).1.passed = true ↔
          ((∀ line ∈ captured, line.toList.getLast? ≠ some '\r') ↔ expectFailure = false))) ∧
      ∀ (other : List String) (before after : FileTree) (place kept : Path),
        (∀ line ∈ other, '\n' ∉ line.toList) →
        writeObserved before place other = (some kept, after) →
        (written.read observed = after.read kept ↔ captured = other) := by
  have hread := read_of_writeObserved hwrite
  have htext := textOfBytes?_bytesOfText (terminateLines captured)
  have hcut := textLines_terminateLines hlines
  have hsame := textLines_terminateLines_eq_iff hlines
  have hlength : (textLines (terminateLines captured)).length = captured.length := by
    rw [hcut, List.length_map]
  refine ⟨⟨terminateLines captured, ?reads, hcut, ?matched⟩, ?checked, ?apart⟩
  case reads => exact FileTree.readText_eq_ok.mpr ⟨_, hread, htext⟩
  case matched => exact (prefixMatches_iff_eq hlength).trans hsame
  case checked =>
    intro later place expectFailure outcome hlater hstdout
    have hlines' : later.readText place = .ok (terminateLines captured) :=
      FileTree.readText_eq_ok.mpr ⟨_, hlater.trans hread, htext⟩
    rw [← hsame, ← hstdout]
    rw [← hstdout] at hlines' hlength
    exact checkOutput_passed_iff_eq hlines' hlength expectFailure
  case apart =>
    intro other before after place kept hother hkept
    rw [hread, read_of_writeObserved hkept, Except.ok.injEq, bytesOfText_inj,
      terminateLines_inj hlines hother]

end

/-- Of two carriage returns before a newline the second one is dropped, and the first one is when
the kept output is read. -/
theorem writeObserved_roundTrip_of_two_returns :
    let written := (writeObserved expectingTree ⟨"_test/e"⟩ (capturedLines [97, 13, 13, 10, 10])).2
    ∃ text, written.readText ⟨"_test/e.observed"⟩ = .ok text ∧ textLines text = ["a", ""] ∧
      prefixMatches (textLines text) (capturedLines [97, 13, 13, 10, 10]) = false := by
  intro written
  have hcaptured : capturedLines [97, 13, 13, 10, 10] = ["a\r", ""] := by decide +kernel
  have hobserved : (writeObserved expectingTree ⟨"_test/e"⟩
      (capturedLines [97, 13, 13, 10, 10])).1 = some ⟨"_test/e.observed"⟩ := by
    decide +kernel
  have hwrite : writeObserved expectingTree ⟨"_test/e"⟩ (capturedLines [97, 13, 13, 10, 10]) =
      (some ⟨"_test/e.observed"⟩, written) := Prod.ext hobserved rfl
  have hreads := (writeObserved_roundTrip newline_notMem_capturedLines hwrite).1
  obtain ⟨text, htext, hcut, hmatch⟩ := hreads
  refine ⟨text, htext, ?_, ?_⟩
  · rw [hcut, hcaptured]
    decide +kernel
  · rw [Bool.eq_false_iff, ne_eq, hmatch, hcaptured]
    decide +kernel

end Conformance
