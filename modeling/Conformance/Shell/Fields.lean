import Conformance.Shell.Pattern

/-!
# Fields

An expanded word consists of pieces.  Pieces are cut into fields: text that came out
of an expansion is cut at separators, and boundaries always end a field.  An empty
field remains only where something quoted stood.
-/

namespace Conformance.Shell

/-- A piece of an expanded word. -/
inductive Piece where
  | glyphs (content : List Glyph)
  /-- Text that is cut at separators. -/
  | loose (content : List Char)
  /-- The end of a field. -/
  | boundary

namespace Piece

def ofText (quoted : Bool) (text : List Char) : Piece :=
  if quoted then .glyphs (text.map fun c => (c, true)) else .loose text

/-- Text that stood without quotes in an operand can be cut. -/
def loosen : Piece → Piece
  | .glyphs content =>
    if content.isEmpty || content.any (·.2) then .glyphs content else .loose (content.map (·.1))
  | piece => piece

def glyphsOf (pieces : List Piece) : List Glyph :=
  pieces.flatMap fun piece => match piece with
    | .glyphs content => content
    | .loose content => content.map fun c => (c, false)
    | .boundary => [(' ', true)]

def textOf (pieces : List Piece) : List Char := (glyphsOf pieces).map (·.1)

end Piece

/-- Fields that are complete, and the one under way, both backwards. -/
structure Fields where
  complete : List (List Glyph)
  current : Option (List Glyph)
  /-- Whether blanks have ended the last field, so that one more mark may follow. -/
  afterBlank : Bool

namespace Fields

def close (fields : Fields) : Fields :=
  match fields.current with
  | some field => { fields with complete := field.reverse :: fields.complete, current := none }
  | none => fields

def add (fields : Fields) (glyphs : List Glyph) : Fields :=
  { fields with
    current := some (glyphs.reverse ++ fields.current.getD [])
    afterBlank := false }

def isBlankMark (c : Char) : Bool := c = ' ' || c = '\t' || c = '\n'

/-- A character of loose text: blanks end a field, other marks always do, with the
blanks around them. -/
def addLoose (marks : List Char) (fields : Fields) (c : Char) : Fields :=
  if marks.contains c then
    if isBlankMark c then
      match fields.current with
      | some _ => { fields.close with afterBlank := true }
      | none => fields
    else if fields.afterBlank then { fields with afterBlank := false }
    else (fields.add []).close
  else fields.add [(c, false)]

def addPiece (marks : List Char) (fields : Fields) : Piece → Fields
  | .glyphs content => fields.add content
  | .loose content => content.foldl (addLoose marks) fields
  | .boundary => { fields.close with afterBlank := false }

def ofPieces (marks : List Char) (pieces : List Piece) : List (List Glyph) :=
  (pieces.foldl (addPiece marks) ⟨[], none, false⟩).close.complete.reverse

end Fields

/-- The pieces of a field between its slashes. -/
def cutField : List Glyph → List (List Glyph)
  | [] => [[]]
  | (c, quoted) :: rest =>
    match cutField rest with
    | [] => [[(c, quoted)]]
    | piece :: more => if c = '/' then [] :: piece :: more else ((c, quoted) :: piece) :: more

end Conformance.Shell
