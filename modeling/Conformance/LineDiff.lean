import Conformance.Check
import Conformance.Text.Lines

/-!
# Comparison of expected with actual lines

Two lists of lines are compared through the lengths of their longest common
subsequences, kept row by row in one array.  The walk back through the array
treats it as flat: to the left of a row's first cell lies the last cell of the
row above.
-/

namespace Conformance

/-- Whether the expected lines begin the captured ones. -/
def prefixMatches : List String → List String → Bool
  | [], _ => true
  | _ :: _, [] => false
  | e :: expected, c :: captured => e = c && prefixMatches expected captured

/-- The next row of the table, from the row above (shifted by one cell) and the
cell to the left. -/
def commonRow (line : String) : List String → List Nat → Nat → Nat → List Nat
  | b :: other, up :: above, corner, left =>
    let cell := if line = b then corner + 1 else max left up
    cell :: commonRow line other above up cell
  | _, _, _, _ => []

/-- All rows of the table, one after another. -/
def commonTable (other : List String) : List String → List Nat → List Nat
  | [], _ => []
  | line :: lines, above =>
    let row := commonRow line other above 0 0
    row ++ commonTable other lines row

/-- Walks back from cell `(i, j)` of a table with rows of the given width and
collects the common lines, the first one in front. -/
def commonWalk (first second : Array String) (table : Array Nat) :
    Nat → Nat → Nat → List String → List String
  | 0, _, _, found => found
  | fuel + 1, i, j, found =>
    let width := second.size
    let line := first.getD i ""
    if line = second.getD j "" then
      if i = 0 ∨ j = 0 then line :: found
      else commonWalk first second table fuel (i - 1) (j - 1) (line :: found)
    else if i = 0 ∧ j = 0 then found
    else if i = 0 ∨ (table.getD ((i - 1) * width + j) 0 < table.getD (i * width + j - 1) 0) then
      if j = 0 then found else commonWalk first second table fuel i (j - 1) found
    else commonWalk first second table fuel (i - 1) j found

/-- The common lines that the walk finds. -/
def commonLines (first second : List String) : List String :=
  let table := commonTable second first (List.replicate second.length 0)
  commonWalk first.toArray second.toArray table.toArray (first.length + second.length)
    (first.length - 1) (second.length - 1) []

/-- Lays both lists out against their common lines.  Where all three begin alike
the line is the same in both; a line of the first list that is not the next
common line comes before such a line of the second. -/
def mergeLines : List String → List String → List String → List DiffLine
  | x :: first, y :: second, z :: common =>
    if x = y ∧ y = z then .same x :: mergeLines first second common
    else if x ≠ z then .expected x :: mergeLines first (y :: second) (z :: common)
    else if y ≠ z then .actual y :: mergeLines (x :: first) second (z :: common)
    else []
  | x :: first, [], z :: common =>
    if x ≠ z then .expected x :: mergeLines first [] (z :: common) else []
  | [], y :: second, z :: common =>
    if y ≠ z then .actual y :: mergeLines [] second (z :: common) else []
  | x :: first, second, [] => .expected x :: mergeLines first second []
  | [], y :: second, [] => .actual y :: mergeLines [] second []
  | [], [], _ => []
termination_by first second _ => first.length + second.length

/-- The pieces of a text, none for the empty text. -/
def contentPieces (text : String) : List String := if text.isEmpty then [] else pieces text

/-- The whole comparison of two texts. -/
def compareTexts (first second : String) : List DiffLine :=
  let common := joinLines (commonLines (pieces first) (pieces second))
  mergeLines (contentPieces first) (contentPieces second) (contentPieces common)

/-- The longest comparison that a failure keeps. -/
def diffLimit : Nat := 20

/-- Expected lines against as many captured ones, before it is cut to size. -/
def fullDiff (expected captured : List String) : List DiffLine :=
  compareTexts (joinLines expected) (joinLines (captured.take expected.length))

def lineDiff (expected captured : List String) : List DiffLine :=
  (fullDiff expected captured).take diffLimit

end Conformance
