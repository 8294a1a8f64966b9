import Conformance.Yaml.Token

/-!
# Scalars of a document

Plain, quoted and block scalars.  Between two lines of a plain or quoted scalar
one line break becomes a space and further ones are kept; blanks around them
vanish.
-/

namespace Conformance.Yaml

/-- Blanks and breaks between two pieces of a scalar. -/
structure Gap where
  blanks : List Char
  firstBreak : List Char
  moreBreaks : List Char
  /-- Whether a line has ended since the last piece. -/
  lineEnded : Bool

namespace Gap

def none : Gap := ⟨[], [], [], false⟩

/-- What stands for the gap in the scalar. -/
def text (gap : Gap) : List Char :=
  if gap.lineEnded then
    if gap.firstBreak.head? = some '\n' then
      if gap.moreBreaks.isEmpty then [' '] else gap.moreBreaks
    else gap.firstBreak ++ gap.moreBreaks
  else gap.blanks

/-- The gap with a line break more. -/
def addBreak (gap : Gap) (brk : List Char) : Gap :=
  if gap.lineEnded then { gap with moreBreaks := gap.moreBreaks ++ brk }
  else { gap with blanks := [], firstBreak := brk, lineEnded := true }

/-- The gap with a blank more; blanks at the beginning of a line vanish. -/
def addBlank (gap : Gap) (x : Char) : Gap :=
  if gap.lineEnded then gap else { gap with blanks := gap.blanks ++ [x] }

end Gap

/-- Blanks and line breaks.  In a plain scalar a tab must not stand below the
indentation `tabLimit` of a continued line. -/
def scanGap (tabLimit : Option Int) (start : Mark) (gap : Gap) (c : Cursor) :
    Except Malformed (Gap × Cursor) :=
  match c.peek with
  | .none => .ok (gap, c)
  | some x =>
    if isSpace x then
      if gap.lineEnded && x = '\t' && tabLimit.any (fun limit => (c.mark.column : Int) < limit) then
        failAt .plainScalar start .tabBelowIndentation c
      else if _h : c.skip.rest.length < c.rest.length then
        scanGap tabLimit start (gap.addBlank x) c.skip
      else .ok (gap, c)
    else if isBreak x then
      if _h : c.skipBreak.rest.length < c.rest.length then
        scanGap tabLimit start (gap.addBreak c.breakText) c.skipBreak
      else .ok (gap, c)
    else .ok (gap, c)
termination_by c.rest.length

/-- Whether a character ends a plain scalar when `next` follows it. -/
def endsPlain (inFlow : Bool) (x : Char) (next : Option Char) : Bool :=
  (x = ':' && next.all fun y => isSpace y || isBreak y) ||
    (inFlow && (x = ',' || x = '[' || x = ']' || x = '\x7b' || x = '\x7d'))

/-- A run of a plain scalar without blanks. -/
def scanPlainRun (inFlow : Bool) (start : Mark) :
    List Char → Mark → Except Malformed (List Char × Cursor)
  | [], mark => .ok ([], ⟨[], mark⟩)
  | x :: rest, mark =>
    if isSpace x || isBreak x then .ok ([], ⟨x :: rest, mark⟩)
    else if inFlow && x = ':' && rest.head?.any (",?[]\x7b\x7d".toList.contains ·) then
      .error (.during .plainScalar start .unexpectedColon mark)
    else if endsPlain inFlow x rest.head? then .ok ([], ⟨x :: rest, mark⟩)
    else
      match scanPlainRun inFlow start rest
        { mark with index := mark.index + x.utf8Size, column := mark.column + 1 } with
      | .error e => .error e
      | .ok (run, after) => .ok (x :: run, after)

/-- What is known of a plain scalar so far. -/
structure PlainScalar where
  text : List Char
  gap : Gap
  stop : Mark

/-- The rest of a plain scalar on lines indented by at least `indent`. -/
def scanPlainFrom (inFlow : Bool) (indent : Int) (start : Mark) (scalar : PlainScalar)
    (c : Cursor) : Except Malformed (PlainScalar × Cursor) :=
  if c.seesMarker '-' || c.seesMarker '.' || c.sees '#' 0 then .ok (scalar, c)
  else
    match scanPlainRun inFlow start c.rest c.mark with
    | .error e => .error e
    | .ok (run, after) =>
      let grown : PlainScalar :=
        if run.isEmpty then scalar
        else ⟨scalar.text ++ scalar.gap.text ++ run, .none, after.mark⟩
      if !(after.isSpaceAt 0 || after.isBreakAt 0) then .ok (grown, after)
      else
        match scanGap (some indent) start grown.gap after with
        | .error e => .error e
        | .ok (gap, behind) =>
          let spaced := { grown with gap := gap }
          if !inFlow && (behind.mark.column : Int) < indent then .ok (spaced, behind)
          else if _h : behind.rest.length < c.rest.length then
            scanPlainFrom inFlow indent start spaced behind
          else .ok (spaced, behind)
termination_by c.rest.length

/-- A plain scalar, and whether it was followed by a line break. -/
def scanPlain (inFlow : Bool) (indent : Int) (c : Cursor) :
    Except Malformed ((Token × Bool) × Cursor) := do
  let start := c.mark
  let (scalar, after) ← scanPlainFrom inFlow (indent + 1) start ⟨[], .none, start⟩ c
  .ok ((⟨.scalar (wordText scalar.text) .plain, start, scalar.stop⟩, scalar.gap.lineEnded), after)

/-- The character that a one-letter escape stands for. -/
def simpleEscape? : Char → Option Char
  | '0' => some '\x00'
  | 'a' => some '\x07'
  | 'b' => some '\x08'
  | 't' => some '\t'
  | '\t' => some '\t'
  | 'n' => some '\n'
  | 'v' => some '\x0b'
  | 'f' => some '\x0c'
  | 'r' => some '\r'
  | 'e' => some '\x1b'
  | ' ' => some ' '
  | '"' => some '"'
  | '/' => some '/'
  | '\\' => some '\\'
  | 'N' => some '\u0085'
  | '_' => some '\u00a0'
  | 'L' => some '\u2028'
  | 'P' => some '\u2029'
  | _ => none

/-- The number of hexadecimal digits that an escape asks for. -/
def escapeLength? : Char → Option Nat
  | 'x' => some 2
  | 'u' => some 4
  | 'U' => some 8
  | _ => none

/-- An escape sequence of a double-quoted scalar. -/
def scanEscape (start : Mark) (c : Cursor) : Except Malformed (Char × Cursor) :=
  match c.peekAt 1 with
  | none => failAt .quotedEscape start .unknownEscape c
  | some x =>
    match simpleEscape? x, escapeLength? x with
    | some decoded, _ => .ok (decoded, c.skipMany 2)
    | none, some length =>
      let after := c.skipMany 2
      let digits := after.rest.take length
      if digits.length < length || !digits.all isHexDigit then
        failAt .quotedEscape start .noHexDigit after
      else
        let code := digits.foldl (fun n d => n * 16 + hexValue d) 0
        if code.isValidChar then .ok (Char.ofNat code, after.skipMany length)
        else failAt .quotedEscape start .badCodePoint after
    | none, none => failAt .quotedEscape start .unknownEscape c

/-- A run of a quoted scalar without blanks, and whether an escaped line break
ended it. -/
def scanQuotedRun (single : Bool) (start : Mark) (c : Cursor) :
    Except Malformed ((List Char × Bool) × Cursor) :=
  match c.peek with
  | none => .ok (([], false), c)
  | some x =>
    if isSpace x || isBreak x then .ok (([], false), c)
    else if !single && x = '\\' && c.isBreakAt 1 then .ok (([], true), c.skip.skipBreak)
    else if x = (if single then '\'' else '"') && !(single && c.sees '\'' 1) then
      .ok (([], false), c)
    else
      let step : Except Malformed (Char × Cursor) :=
        if single && x = '\'' then .ok ('\'', c.skipMany 2)
        else if !single && x = '\\' then scanEscape start c
        else .ok (x, c.skip)
      match step with
      | .error e => .error e
      | .ok (decoded, after) =>
        if _h : after.rest.length < c.rest.length then
          match scanQuotedRun single start after with
          | .error e => .error e
          | .ok ((more, escaped), final) => .ok ((decoded :: more, escaped), final)
        else .ok (([decoded], false), after)
termination_by c.rest.length

/-- The rest of a quoted scalar, up to its closing quote. -/
def scanQuotedFrom (single : Bool) (start : Mark) (text : List Char) (c : Cursor) :
    Except Malformed (List Char × Cursor) :=
  if c.seesMarker '-' || c.seesMarker '.' then failAt .quotedScalar start .documentMarker c
  else if c.atEnd then failAt .quotedScalar start .unexpectedEnd c
  else
    match scanQuotedRun single start c with
    | .error e => .error e
    | .ok ((run, escaped), after) =>
      if after.sees (if single then '\'' else '"') 0 then .ok (text ++ run, after)
      else
        match scanGap none start { Gap.none with lineEnded := escaped } after with
        | .error e => .error e
        | .ok (gap, behind) =>
          if _h : behind.rest.length < c.rest.length then
            scanQuotedFrom single start (text ++ run ++ gap.text) behind
          else .ok (text ++ run ++ gap.text, behind)
termination_by c.rest.length

def scanQuoted (single : Bool) (c : Cursor) : Except Malformed (Token × Cursor) := do
  let start := c.mark
  let (text, after) ← scanQuotedFrom single start [] c.skip
  let style := if single then ScalarStyle.singleQuoted else .doubleQuoted
  .ok (⟨.scalar (wordText text) style, start, after.skip.mark⟩, after.skip)

/-- What becomes of the line breaks at the end of a block scalar. -/
inductive Chomping where
  | strip
  | clip
  | keep
deriving DecidableEq

/-- The header of a block scalar: chomping and indentation, in either order. -/
structure BlockHeader where
  chomping : Chomping
  increment : Nat

def chompingOf? : Option Char → Option Chomping
  | some '+' => some .keep
  | some '-' => some .strip
  | _ => none

/-- An indentation digit, if there is one. -/
def scanIncrement (start : Mark) (c : Cursor) : Except Malformed (Nat × Cursor) :=
  match c.peek with
  | some x =>
    if x = '0' then failAt .blockScalar start .zeroIndentation c
    else if x.isDigit then .ok (x.toNat - '0'.toNat, c.skip)
    else .ok (0, c)
  | none => .ok (0, c)

def scanBlockHeader (start : Mark) (c : Cursor) : Except Malformed (BlockHeader × Cursor) :=
  match chompingOf? c.peek with
  | some chomping => do
    let (increment, after) ← scanIncrement start c.skip
    .ok (⟨chomping, increment⟩, after)
  | none => do
    let (increment, after) ← scanIncrement start c
    match (if increment = 0 then none else chompingOf? after.peek) with
    | some chomping => .ok (⟨chomping, increment⟩, after.skip)
    | none => .ok (⟨.clip, increment⟩, after)

/-- Empty lines before a line of a block scalar. -/
structure BlockBreaks where
  breaks : List Char
  /-- The deepest indentation met. -/
  deepest : Nat
  stop : Mark

/-- Indentation and empty lines; an indentation of zero is still to be found. -/
def scanBlockBreaks (indent : Nat) (start : Mark) (found : BlockBreaks) (c : Cursor) :
    Except Malformed (BlockBreaks × Cursor) :=
  let room := if indent = 0 then c.rest.length else indent - c.mark.column
  let blanks := ((c.rest.take room).takeWhile (· = ' ')).length
  let after := c.skipMany blanks
  let found := { found with deepest := max found.deepest after.mark.column }
  if (indent = 0 || after.mark.column < indent) && after.sees '\t' 0 then
    failAt .blockScalar start .tabInIndentation after
  else if !after.isBreakAt 0 then .ok (found, after)
  else
    let behind := after.skipBreak
    let found := { found with breaks := found.breaks ++ after.breakText, stop := behind.mark }
    if _h : behind.rest.length < c.rest.length then scanBlockBreaks indent start found behind
    else .ok (found, behind)
termination_by c.rest.length

/-- A block scalar being read. -/
structure BlockScalar where
  text : List Char
  lastBreak : List Char
  breaks : List Char
  /-- Whether the last line began with a blank. -/
  indentedLine : Bool
  stop : Mark

/-- The lines of a block scalar at its indentation. -/
def scanBlockLines (literal : Bool) (indent : Nat) (start : Mark) (scalar : BlockScalar)
    (c : Cursor) : Except Malformed (BlockScalar × Cursor) :=
  if c.mark.column ≠ indent || c.atEnd then .ok (scalar, c)
  else
    let blank := c.isSpaceAt 0
    let folds := !literal && scalar.lastBreak.head? = some '\n' && !scalar.indentedLine && !blank
    let joint :=
      if folds then (if scalar.breaks.isEmpty then [' '] else []) else scalar.lastBreak
    let (line, after) := c.span (!isBreak ·)
    let behind := after.skipBreak
    match scanBlockBreaks indent start ⟨[], 0, behind.mark⟩ behind with
    | .error e => .error e
    | .ok (found, next) =>
      let grown : BlockScalar :=
        ⟨scalar.text ++ joint ++ scalar.breaks ++ line, after.breakText, found.breaks, blank,
          found.stop⟩
      if _h : next.rest.length < c.rest.length then
        scanBlockLines literal indent start grown next
      else .ok (grown, next)
termination_by c.rest.length

/-- A block scalar inside a block indented by `parent`. -/
def scanBlock (literal : Bool) (parent : Int) (c : Cursor) : Except Malformed (Token × Cursor) := do
  let start := c.mark
  let (header, after) ← scanBlockHeader start c.skip
  let line := after.skipComment
  if !line.endsLineAt 0 then failAt .blockScalar start .noHeaderEnd line
  else
    let first := line.skipBreak
    let fixed : Nat :=
      if header.increment = 0 then 0
      else if 0 ≤ parent then (parent + header.increment).toNat
      else header.increment
    let (found, body) ← scanBlockBreaks fixed start ⟨[], 0, first.mark⟩ first
    let indent :=
      if fixed = 0 then max (max found.deepest (parent + 1).toNat) 1 else fixed
    let (scalar, behind) ← scanBlockLines literal indent start
      ⟨[], [], found.breaks, false, found.stop⟩ body
    let ending := match header.chomping with
      | .strip => []
      | .clip => scalar.lastBreak
      | .keep => scalar.lastBreak ++ scalar.breaks
    let style := if literal then ScalarStyle.literal else .folded
    .ok (⟨.scalar (wordText (scalar.text ++ ending)) style, start, scalar.stop⟩, behind)

end Conformance.Yaml
