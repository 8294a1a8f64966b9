/-!
# Sets of characters

Sets as they are written between brackets: single characters, ranges and named
classes, or everything else if the set is turned around.  Patterns of file names
and of lines share them.
-/

namespace Conformance.Shell

abbrev Glyph := Char × Bool

/-- The characters in some ranges, or outside of all of them. -/
structure CharSet where
  outside : Bool
  ranges : List (Char × Char)
deriving DecidableEq, Repr

namespace CharSet

def accepts (s : CharSet) (c : Char) : Bool :=
  (s.ranges.any fun (low, high) => low ≤ c && c ≤ high) != s.outside

def any : CharSet := ⟨true, []⟩

def only (c : Char) : CharSet := ⟨false, [(c, c)]⟩

/-- The part of a range between two letters, moved to the other case. -/
def shiftedRange (first last : Char) (shift : Char → Char) (low high : Char) :
    List (Char × Char) :=
  let start := if low < first then first else low
  let stop := if last < high then last else high
  if start ≤ stop then [(shift start, shift stop)] else []

def foldCase (s : CharSet) : CharSet :=
  ⟨s.outside, s.ranges ++ s.ranges.flatMap fun (low, high) =>
    shiftedRange 'a' 'z' Char.toUpper low high ++ shiftedRange 'A' 'Z' Char.toLower low high⟩

def classRanges? (name : String) : Option (List (Char × Char)) :=
  match name with
  | "alpha" => some [('a', 'z'), ('A', 'Z')]
  | "digit" => some [('0', '9')]
  | "alnum" => some [('a', 'z'), ('A', 'Z'), ('0', '9')]
  | "upper" => some [('A', 'Z')]
  | "lower" => some [('a', 'z')]
  | "space" => some [('\t', '\r'), (' ', ' ')]
  | "blank" => some [(' ', ' '), ('\t', '\t')]
  | "punct" => some [('!', '/'), (':', '@'), ('[', '\x60'), ('\x7b', '~')]
  | "print" => some [(' ', '~')]
  | "graph" => some [('!', '~')]
  | "cntrl" => some [('\x00', '\x1f'), ('\x7f', '\x7f')]
  | "xdigit" => some [('0', '9'), ('a', 'f'), ('A', 'F')]
  | _ => none

/-- A name between a bracket with a mark and the same mark with a bracket. -/
def markedName? (mark : Char) (text : List Glyph) : Option (String × List Glyph) :=
  let name := text.takeWhile (·.1 ≠ mark)
  match text.drop name.length with
  | _ :: (']', false) :: rest => some (String.ofList (name.map (·.1)), rest)
  | _ => none

/-- What stands at the start of the inside of brackets: a class, or one character. -/
inductive Member where
  | ranges (content : List (Char × Char))
  | char (c : Char)

def memberAt (c : Char) (quoted : Bool) (rest : List Glyph) : Member × List Glyph :=
  if c = '[' && !quoted then
    match rest with
    | (':', false) :: more =>
      match markedName? ':' more with
      | some (name, after) =>
        match classRanges? name with
        | some found => (.ranges found, after)
        | none => (.char c, rest)
      | none => (.char c, rest)
    | (mark, false) :: more =>
      if mark = '.' || mark = '=' then
        match markedName? mark more with
        | some (name, after) =>
          match name.toList with
          | [d] => (.char d, after)
          | _ => (.char c, rest)
        | none => (.char c, rest)
      else (.char c, rest)
    | _ => (.char c, rest)
  else (.char c, rest)

/-- The inside of brackets up to the closing one; that one counts as a member in
the first place.  `fuel` bounds the members. -/
def membersFrom : (fuel : Nat) → (first : Bool) → List Glyph →
    Option (List (Char × Char) × List Glyph)
  | 0, _, _ => none
  | _ + 1, _, [] => none
  | fuel + 1, first, (c, quoted) :: rest =>
    if c = ']' && !quoted && !first then some ([], rest)
    else
      let add (found : List (Char × Char)) (after : List Glyph) :
          Option (List (Char × Char) × List Glyph) :=
        (membersFrom fuel false after).map fun (more, left) => (found ++ more, left)
      match memberAt c quoted rest with
      | (.ranges found, after) => add found after
      | (.char low, after) =>
        match after with
        | ('-', false) :: (d, dQuoted) :: more =>
          if d = ']' && !dQuoted then add [(low, low)] after
          else match memberAt d dQuoted more with
            | (.char high, behind) => add [(low, high)] behind
            | (.ranges _, _) => add [(low, low)] after
        | _ => add [(low, low)] after

/-- The set that brackets hold, read behind the opening one.  `marks` turn it
around. -/
def read? (marks : List Char) (text : List Glyph) : Option (CharSet × List Glyph) :=
  let (outside, inside) := match text with
    | (c, false) :: rest => if marks.contains c then (true, rest) else (false, text)
    | _ => (false, text)
  (membersFrom (inside.length + 1) true inside).map fun (ranges, rest) => (⟨outside, ranges⟩, rest)

end CharSet

end Conformance.Shell
