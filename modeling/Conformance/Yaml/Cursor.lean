/-!
# Positions in a document

A cursor is what is left to read together with where that begins: a byte index,
a line and a column in characters.  Reading never goes back, so every loop over a
document ends with the characters it consumes.
-/

namespace Conformance.Yaml

/-- A position; the index counts bytes, the column characters, all from zero. -/
structure Mark where
  index : Nat
  line : Nat
  column : Nat
deriving DecidableEq, Repr

namespace Mark

def start : Mark := ⟨0, 0, 0⟩

/-- Whether the position is the first of a document, which messages leave out. -/
def isStart (mark : Mark) : Bool := mark.line = 0 && mark.column = 0

/-- The position in words, counted from one. -/
def text (mark : Mark) : String :=
  "line " ++ toString (mark.line + 1) ++ " column " ++ toString (mark.column + 1)

end Mark

def isSpace (c : Char) : Bool := c = ' ' || c = '\t'

def isBreak (c : Char) : Bool :=
  c = '\n' || c = '\r' || c = '\u0085' || c = '\u2028' || c = '\u2029'

/-- Letters, digits, the underscore and the hyphen. -/
def isWordChar (c : Char) : Bool := c.isAlphanum || c = '_' || c = '-'

def isHexDigit (c : Char) : Bool :=
  c.isDigit || ('a' ≤ c && c ≤ 'f') || ('A' ≤ c && c ≤ 'F')

structure Cursor where
  rest : List Char
  mark : Mark

namespace Cursor

def ofText (text : List Char) : Cursor := ⟨text, .start⟩

def peek (c : Cursor) : Option Char := c.rest.head?

/-- The character `n` places ahead. -/
def peekAt (c : Cursor) (n : Nat) : Option Char := c.rest[n]?

def atEnd (c : Cursor) : Bool := c.rest.isEmpty

/-- Whether the character `n` places ahead is the given one. -/
def sees (c : Cursor) (x : Char) (n : Nat) : Bool := c.peekAt n = some x

def isSpaceAt (c : Cursor) (n : Nat) : Bool := (c.peekAt n).any isSpace

def isBreakAt (c : Cursor) (n : Nat) : Bool := (c.peekAt n).any isBreak

/-- A line break or the end. -/
def endsLineAt (c : Cursor) (n : Nat) : Bool := (c.peekAt n).all isBreak

/-- A blank, a line break or the end. -/
def endsWordAt (c : Cursor) (n : Nat) : Bool :=
  (c.peekAt n).all fun x => isSpace x || isBreak x

/-- One character further on the same line. -/
def skip (c : Cursor) : Cursor :=
  match c.rest with
  | [] => c
  | x :: rest =>
    ⟨rest, { c.mark with index := c.mark.index + x.utf8Size, column := c.mark.column + 1 }⟩

def skipMany : Nat → Cursor → Cursor
  | 0, c => c
  | n + 1, c => skipMany n c.skip

/-- Over a line break, if there is one; carriage return and line feed are one
break. -/
def skipBreak (c : Cursor) : Cursor :=
  match c.rest with
  | '\r' :: '\n' :: rest => ⟨rest, ⟨c.mark.index + 2, c.mark.line + 1, 0⟩⟩
  | x :: rest =>
    if isBreak x then ⟨rest, ⟨c.mark.index + x.utf8Size, c.mark.line + 1, 0⟩⟩ else c
  | [] => c

/-- What a line break contributes to a scalar. -/
def breakText (c : Cursor) : List Char :=
  match c.peek with
  | some x =>
    if x = '\u2028' || x = '\u2029' then [x]
    else if isBreak x then ['\n']
    else []
  | none => []

/-- Characters that satisfy a test, and the cursor behind them. -/
def spanFrom (test : Char → Bool) : List Char → Mark → List Char × Cursor
  | [], mark => ([], ⟨[], mark⟩)
  | x :: rest, mark =>
    if test x then
      let (taken, after) :=
        spanFrom test rest { mark with index := mark.index + x.utf8Size, column := mark.column + 1 }
      (x :: taken, after)
    else ([], ⟨x :: rest, mark⟩)

def span (c : Cursor) (test : Char → Bool) : List Char × Cursor := spanFrom test c.rest c.mark

def skipWhile (c : Cursor) (test : Char → Bool) : Cursor := (c.span test).2

/-- Whether a document marker stands at the beginning of the line. -/
def seesMarker (c : Cursor) (x : Char) : Bool :=
  c.mark.column = 0 && c.sees x 0 && c.sees x 1 && c.sees x 2 && c.endsWordAt 3

/-- Blanks, and a comment if one follows. -/
def skipComment (c : Cursor) : Cursor :=
  let blank := c.skipWhile isSpace
  if blank.sees '#' 0 then blank.skipWhile (!isBreak ·) else blank

end Cursor

end Conformance.Yaml
