import Conformance.Text.CaseTable
import Conformance.Text.CharacterTable

/-!
# Letter case and blanks

`lowercase` is the full lowercase form of a text: each character by the table,
except that a capital sigma at the end of a word becomes a final sigma.
`capitalize` treats the first character and the others apart and looks at no
context.
-/

namespace Conformance

/-- Moves a character by the run that covers it, if any does. -/
def mapByRuns (runs : List CaseRun) (c : Char) : Char :=
  match runs.find? (·.covers c.toNat) with
  | some run => Char.ofNat (c.toNat + run.offset).toNat
  | none => c

/-- The lowercase form of one character on its own. -/
def lowerChar (c : Char) : List Char :=
  if c = 'İ' then ['i', '\u0307'] else [mapByRuns lowercaseRuns c]

/-- The uppercase form of one character. -/
def upperChar (c : Char) : List Char :=
  match uppercaseExpansions.find? (·.1 = c.toNat) with
  | some (_, codes) => codes.map Char.ofNat
  | none => [mapByRuns uppercaseRuns c]

def isCased (c : Char) : Bool := inRuns casedRuns c

def isCaseIgnorable (c : Char) : Bool := inRuns caseIgnorableRuns c

/-- Whether the first character that is not ignorable is a letter with case. -/
def meetsCased (text : List Char) : Bool :=
  match text.dropWhile isCaseIgnorable with
  | c :: _ => isCased c
  | [] => false

/-- Lowers a text whose part before it, read backwards, is `before`. -/
def lowerAfter (before : List Char) : List Char → List Char
  | [] => []
  | c :: rest =>
    let lowered :=
      if c = 'Σ' then
        if meetsCased before && !meetsCased rest then ['ς'] else ['σ']
      else lowerChar c
    lowered ++ lowerAfter (c :: before) rest

/-- The lowercase form of a text. -/
def lowercase (text : String) : String := String.ofList (lowerAfter [] text.toList)

/-- The first character in uppercase, every other one lowered on its own. -/
def capitalize (text : String) : String :=
  match text.toList with
  | [] => ""
  | c :: rest => String.ofList (upperChar c ++ rest.flatMap lowerChar)

/-- White space of any script. -/
def isBlank (c : Char) : Bool := inRuns whiteSpaceRuns c

/-- Whether a text has nothing but white space. -/
def allBlank (text : String) : Bool := text.toList.all isBlank

end Conformance
