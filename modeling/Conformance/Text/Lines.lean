import Conformance.Text.Utf8

/-!
# Lines

`cutLines` separates the terminated lines of a sequence from what follows the
last terminator.  Lines of a text and lines captured from a child are both read
off it: both drop one carriage return before a newline, a text keeps one at its
very end, a capture drops it there too.
-/

namespace Conformance

/-- Terminated lines, without their terminator, and the unterminated rest. -/
def cutLines {α : Type} [DecidableEq α] (newline : α) : List α → List (List α) × List α
  | [] => ([], [])
  | c :: rest =>
    let (lines, tail) := cutLines newline rest
    if c = newline then ([] :: lines, tail)
    else match lines with
      | [] => ([], c :: tail)
      | line :: more => ((c :: line) :: more, tail)

/-- Drops one `mark` at the end. -/
def dropTrailing {α : Type} [DecidableEq α] (mark : α) (line : List α) : List α :=
  if line.getLast? = some mark then line.dropLast else line

/-- The lines of a text: a final newline starts no further line. -/
def textLines (text : String) : List String :=
  let (lines, tail) := cutLines '\n' text.toList
  (lines.map (dropTrailing '\r') ++ (if tail.isEmpty then [] else [tail])).map String.ofList

/-- The byte lines of a child's output. -/
def rawLines (output : Bytes) : List Bytes :=
  let (lines, tail) := cutLines (10 : UInt8) output
  (lines ++ (if tail.isEmpty then [] else [tail])).map (dropTrailing (13 : UInt8))

/-- The lines of a child's output, each read leniently. -/
def capturedLines (output : Bytes) : List String := (rawLines output).map lenientText

/-- The pieces between newlines; the empty text has one empty piece. -/
def pieces (text : String) : List String :=
  let (lines, tail) := cutLines '\n' text.toList
  (lines ++ [tail]).map String.ofList

/-- Lines with a newline between them. -/
def joinLines (lines : List String) : String := String.intercalate "\n" lines

/-- Lines with a newline between them, and one at the end unless there are no lines. -/
def dumpLines (lines : List String) : String :=
  let text := joinLines lines
  if lines.isEmpty then text else text.push '\n'

end Conformance
