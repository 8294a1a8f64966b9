import Conformance.Shell.CharSet

/-!
# Patterns

A pattern is compared with a whole text.  Characters that were quoted stand for
themselves.
-/

namespace Conformance.Shell

inductive PatternItem where
  | one (set : CharSet)
  | anyRun
deriving DecidableEq, Repr

/-- The pattern that glyphs denote; `fuel` bounds the items. -/
def patternFrom : (fuel : Nat) → List Glyph → List PatternItem
  | 0, _ => []
  | _ + 1, [] => []
  | fuel + 1, (c, quoted) :: rest =>
    if quoted then .one (.only c) :: patternFrom fuel rest
    else match c with
      | '*' => .anyRun :: patternFrom fuel rest
      | '?' => .one .any :: patternFrom fuel rest
      | '[' =>
        match CharSet.read? ['!', '^'] rest with
        | some (set, after) => .one set :: patternFrom fuel after
        | none => .one (.only c) :: patternFrom fuel rest
      | _ => .one (.only c) :: patternFrom fuel rest

def patternOf (glyphs : List Glyph) : List PatternItem := patternFrom (glyphs.length + 1) glyphs

/-- Whether an unquoted mark makes these glyphs more than a plain text. -/
def isPattern (glyphs : List Glyph) : Bool :=
  glyphs.any fun (c, quoted) => !quoted && (c = '*' || c = '?' || c = '[')

/-- What is left of a text behind each of its beginnings. -/
def remainders : List Char → List (List Char)
  | [] => [[]]
  | c :: rest => (c :: rest) :: remainders rest

def fits : List PatternItem → List Char → Bool
  | [], text => text.isEmpty
  | .anyRun :: items, text => (remainders text).any (fits items)
  | .one set :: items, text =>
    match text with
    | [] => false
    | c :: rest => set.accepts c && fits items rest

/-- Cuts off the shortest or longest beginning that fits. -/
def cutFront (longest : Bool) (items : List PatternItem) (text : List Char) : List Char :=
  let sizes := List.range (text.length + 1)
  match (if longest then sizes.reverse else sizes).find? fun n => fits items (text.take n) with
  | some n => text.drop n
  | none => text

def cutEnd (longest : Bool) (items : List PatternItem) (text : List Char) : List Char :=
  let sizes := List.range (text.length + 1)
  match (if longest then sizes else sizes.reverse).find? fun n => fits items (text.drop n) with
  | some n => text.take n
  | none => text

end Conformance.Shell
