import Conformance.Yaml.Scalar

/-!
# Tokens on demand

Tokens are read only as far as the next one is settled.  A token that may turn
out to be a mapping key stays open until a colon confirms it, in which case a key
token is put in front of it; a key must be on one line and near its colon.
Indentation opens and closes blocks.
-/

namespace Conformance.Yaml

/-- A place where a mapping key may have begun. -/
structure KeyCandidate where
  /-- Whether the place is a key for certain, so that a colon must follow. -/
  required : Bool
  /-- The number of the token that would be the key. -/
  number : Nat
  mark : Mark

structure TokenStream where
  cursor : Cursor
  started : Bool
  ended : Bool
  /-- Tokens read and not taken yet. -/
  queue : List Token
  /-- How many tokens were taken. -/
  taken : Nat
  indent : Int
  outerIndents : List Int
  keyAllowed : Bool
  /-- The open candidate of each flow level, innermost first. -/
  candidates : List (Option KeyCandidate)
  flowLevel : Nat

namespace TokenStream

def ofText (text : List Char) : TokenStream :=
  { cursor := .ofText text, started := false, ended := false, queue := [], taken := 0
    indent := -1, outerIndents := [], keyAllowed := false, candidates := [], flowLevel := 0 }

def mark (s : TokenStream) : Mark := s.cursor.mark

def inFlow (s : TokenStream) : Bool := s.flowLevel ≠ 0

def enqueue (s : TokenStream) (token : Token) : TokenStream :=
  { s with queue := s.queue ++ [token] }

/-- Puts a token in front of the one with the given number. -/
def enqueueBefore (s : TokenStream) (number : Nat) (token : Token) : TokenStream :=
  let place := number - s.taken
  { s with queue := s.queue.take place ++ token :: s.queue.drop place }

/-- A token without extent at a position. -/
def pointToken (kind : TokenKind) (mark : Mark) : Token := ⟨kind, mark, mark⟩

/-- How far apart a key and its colon may be, in bytes. -/
def keyReach : Nat := 1024

/-- Closes candidates that lie on an earlier line or too far back. -/
def expire (s : TokenStream) : List (Option KeyCandidate) →
    Except Malformed (List (Option KeyCandidate))
  | [] => .ok []
  | none :: rest => do
    let rest ← expire s rest
    .ok (none :: rest)
  | some key :: rest => do
    let rest ← expire s rest
    if key.mark.line < s.mark.line || key.mark.index + keyReach < s.mark.index then
      if key.required then
        .error (.during .simpleKey key.mark .keyWithoutColon s.mark)
      else .ok (none :: rest)
    else .ok (some key :: rest)

def expireKeys (s : TokenStream) : Except Malformed TokenStream := do
  let candidates ← expire s s.candidates
  .ok { s with candidates := candidates }

/-- Gives up the innermost candidate. -/
def dropKey (s : TokenStream) : Except Malformed TokenStream :=
  match s.candidates with
  | some key :: rest =>
    if key.required then .error (.during .simpleKey key.mark .keyWithoutColon s.mark)
    else .ok { s with candidates := none :: rest }
  | _ => .ok s

/-- Notes that the next token may be a key, where keys may stand. -/
def noteKey (s : TokenStream) : Except Malformed TokenStream :=
  if s.keyAllowed then do
    let required := !s.inFlow && s.indent = s.mark.column
    let dropped ← s.dropKey
    let key : KeyCandidate := ⟨required, s.taken + s.queue.length, s.mark⟩
    .ok { dropped with candidates := some key :: dropped.candidates.drop 1 }
  else .ok s

/-- Closes blocks that are indented more than `column`. -/
def closeBlocks (column : Int) (s : TokenStream) : List Int → TokenStream
  | [] => s
  | outer :: rest =>
    if column < s.indent then
      closeBlocks column
        { s.enqueue (pointToken .blockEnd s.mark) with indent := outer, outerIndents := rest } rest
    else s

def unindent (s : TokenStream) (column : Int) : TokenStream :=
  if s.inFlow then s else closeBlocks column s s.outerIndents

/-- Opens a block at a deeper column, in front of a numbered token if one is
given. -/
def indentTo (s : TokenStream) (mark : Mark) (number : Option Nat) (kind : TokenKind) :
    TokenStream :=
  if s.inFlow || mark.column ≤ s.indent then s
  else
    let deeper := { s with indent := mark.column, outerIndents := s.indent :: s.outerIndents }
    match number with
    | some n => deeper.enqueueBefore n (pointToken kind mark)
    | none => deeper.enqueue (pointToken kind mark)

/-- Takes `width` characters as a token. -/
def take (s : TokenStream) (width : Nat) (kind : TokenKind) : TokenStream :=
  let after := s.cursor.skipMany width
  { s.enqueue ⟨kind, s.mark, after.mark⟩ with cursor := after }

/-- Adds a token that was read behind the cursor. -/
def accept (s : TokenStream) (scanned : Token × Cursor) : TokenStream :=
  { s.enqueue scanned.1 with cursor := scanned.2 }

/-- Blanks and a comment.  Where a key may begin, tabs are no blanks.  One byte
order mark may open a line; it takes up its column. -/
def skipOnLine (c : Cursor) (tabs : Bool) : Cursor :=
  let first := if c.mark.column = 0 && c.sees '\uFEFF' 0 then c.skip else c
  let blank := first.skipWhile fun x => x = ' ' || (tabs && x = '\t')
  if blank.sees '#' 0 then blank.skipWhile (!isBreak ·) else blank

/-- Blanks, comments and line breaks.  After a line break of a block a key may
follow. -/
def skipSpace (c : Cursor) (inFlow keyAllowed : Bool) : Cursor × Bool :=
  let line := skipOnLine c (inFlow || !keyAllowed)
  if line.isBreakAt 0 then
    if _h : line.skipBreak.rest.length < c.rest.length then
      skipSpace line.skipBreak inFlow (!inFlow || keyAllowed)
    else (line, keyAllowed)
  else (line, keyAllowed)
termination_by c.rest.length

/-- Ends the block structure before a directive or a document marker. -/
def resetBlocks (s : TokenStream) : Except Malformed TokenStream := do
  let dropped ← (s.unindent (-1)).dropKey
  .ok { dropped with keyAllowed := false }

def readStreamStart (s : TokenStream) : TokenStream :=
  { s.enqueue (pointToken .streamStart s.mark) with
    candidates := [none], keyAllowed := true, started := true, indent := -1 }

def readStreamEnd (s : TokenStream) : Except Malformed TokenStream := do
  let mark := if s.mark.column = 0 then s.mark
    else { s.mark with line := s.mark.line + 1, column := 0 }
  let reset ← resetBlocks { s with cursor := { s.cursor with mark := mark } }
  .ok { reset.enqueue (pointToken .streamEnd mark) with ended := true }

def readDirective (s : TokenStream) : Except Malformed TokenStream := do
  let reset ← s.resetBlocks
  let scanned ← scanDirective reset.cursor
  .ok (reset.accept scanned)

def readMarker (s : TokenStream) (kind : TokenKind) : Except Malformed TokenStream := do
  let reset ← s.resetBlocks
  .ok (reset.take 3 kind)

def readFlowStart (s : TokenStream) (kind : TokenKind) : Except Malformed TokenStream := do
  let noted ← s.noteKey
  .ok { noted.take 1 kind with
    candidates := none :: noted.candidates, flowLevel := noted.flowLevel + 1, keyAllowed := true }

def readFlowEnd (s : TokenStream) (kind : TokenKind) : Except Malformed TokenStream := do
  let dropped ← s.dropKey
  let candidates := if dropped.inFlow then dropped.candidates.drop 1 else dropped.candidates
  .ok { dropped.take 1 kind with
    candidates := candidates, flowLevel := dropped.flowLevel - 1, keyAllowed := false }

def readFlowEntry (s : TokenStream) : Except Malformed TokenStream := do
  let dropped ← s.dropKey
  .ok { dropped.take 1 .flowEntry with keyAllowed := true }

def readBlockEntry (s : TokenStream) : Except Malformed TokenStream := do
  if !s.inFlow && !s.keyAllowed then .error (.found .entryNotAllowed s.mark)
  else
    let dropped ← (s.indentTo s.mark none .blockSequenceStart).dropKey
    .ok { dropped.take 1 .blockEntry with keyAllowed := true }

def readKey (s : TokenStream) : Except Malformed TokenStream := do
  if !s.inFlow && !s.keyAllowed then .error (.found .keyNotAllowed s.mark)
  else
    let dropped ← (s.indentTo s.mark none .blockMappingStart).dropKey
    .ok { dropped.take 1 .key with keyAllowed := !s.inFlow }

def readValue (s : TokenStream) : Except Malformed TokenStream :=
  match s.candidates with
  | some key :: rest =>
    let keyed := s.enqueueBefore key.number (pointToken .key key.mark)
    let opened := keyed.indentTo key.mark (some key.number) .blockMappingStart
    .ok { opened.take 1 .value with candidates := none :: rest, keyAllowed := false }
  | _ =>
    if !s.inFlow && !s.keyAllowed then .error (.found .valueNotAllowed s.mark)
    else
      .ok { (s.indentTo s.mark none .blockMappingStart).take 1 .value with keyAllowed := !s.inFlow }

/-- Reads a token that may be a key and after which none may start. -/
def readContent (s : TokenStream)
    (scan : Cursor → Except Malformed (Token × Cursor)) : Except Malformed TokenStream := do
  let noted ← s.noteKey
  let scanned ← scan noted.cursor
  .ok { noted.accept scanned with keyAllowed := false }

def readBlockScalar (s : TokenStream) (literal : Bool) : Except Malformed TokenStream := do
  let dropped ← s.dropKey
  let scanned ← scanBlock literal dropped.indent dropped.cursor
  .ok { dropped.accept scanned with keyAllowed := true }

def readPlain (s : TokenStream) : Except Malformed TokenStream := do
  let noted ← s.noteKey
  let ((token, lineEnded), after) ← scanPlain noted.inFlow noted.indent noted.cursor
  .ok { noted.accept (token, after) with keyAllowed := lineEnded }

/-- Characters that never begin a plain scalar by themselves. -/
def indicators : List Char := "-?:,[]\x7b\x7d#&*!|>'\"%@`".toList

/-- Whether a plain scalar begins here. -/
def startsPlain (c : Cursor) (inFlow : Bool) : Bool :=
  match c.peek with
  | none => false
  | some x =>
    (!isSpace x && !isBreak x && !indicators.contains x) ||
      (x = '-' && !c.isSpaceAt 1) ||
      (!inFlow && (x = '?' || x = ':') && !c.endsWordAt 1)

/-- Reads the token at the cursor. -/
def readToken (s : TokenStream) : Except Malformed TokenStream :=
  let c := s.cursor
  if c.mark.column = 0 && c.sees '%' 0 then s.readDirective
  else if c.seesMarker '-' then s.readMarker .documentStart
  else if c.seesMarker '.' then s.readMarker .documentEnd
  else
    match c.peek with
    | none => s.readStreamEnd
    | some x =>
      if x = '[' then s.readFlowStart .flowSequenceStart
      else if x = '\x7b' then s.readFlowStart .flowMappingStart
      else if x = ']' then s.readFlowEnd .flowSequenceEnd
      else if x = '\x7d' then s.readFlowEnd .flowMappingEnd
      else if x = ',' then s.readFlowEntry
      else if x = '-' && c.endsWordAt 1 then s.readBlockEntry
      else if x = '?' && (s.inFlow || c.endsWordAt 1) then s.readKey
      else if x = ':' && (s.inFlow || c.endsWordAt 1) then s.readValue
      else if x = '*' then s.readContent (scanName .alias .alias)
      else if x = '&' then s.readContent (scanName .anchor .anchor)
      else if x = '!' then s.readContent (scanTag s.inFlow)
      else if x = '|' && !s.inFlow then s.readBlockScalar true
      else if x = '>' && !s.inFlow then s.readBlockScalar false
      else if x = '\'' then s.readContent (scanQuoted true)
      else if x = '"' then s.readContent (scanQuoted false)
      else if startsPlain c s.inFlow then s.readPlain
      else .error (.during .nextToken s.mark .noTokenStart s.mark)

/-- Reads one more token, with the block tokens before it. -/
def readMore (s : TokenStream) : Except Malformed TokenStream :=
  if !s.started then .ok s.readStreamStart
  else do
    let (cursor, keyAllowed) := skipSpace s.cursor s.inFlow s.keyAllowed
    let moved ← expireKeys { s with cursor := cursor, keyAllowed := keyAllowed }
    (moved.unindent moved.mark.column).readToken

/-- What is still to be read. -/
def remaining (s : TokenStream) : Nat :=
  s.cursor.rest.length + (if s.started then 0 else 1) + (if s.ended then 0 else 1)

/-- Whether the first token in the queue may still become a key. -/
def headIsOpen (s : TokenStream) : Bool :=
  s.candidates.any fun candidate => candidate.any (·.number = s.taken)

/-- Reads until the first token is settled. -/
def settle (s : TokenStream) : Except Malformed TokenStream := do
  let kept ← if s.queue.isEmpty then .ok s else s.expireKeys
  if !kept.queue.isEmpty && !kept.headIsOpen then .ok kept
  else
    match kept.readMore with
    | .error e => .error e
    | .ok more =>
      if _h : more.remaining < s.remaining then settle more else .ok more
termination_by s.remaining

/-- The next token, which stays in the stream. -/
def peek (s : TokenStream) : Except Malformed (Token × TokenStream) := do
  let settled ← s.settle
  match settled.queue with
  | token :: _ => .ok (token, settled)
  | [] => .ok (pointToken .streamEnd settled.mark, settled)

/-- The stream behind the next token. -/
def drop (s : TokenStream) : TokenStream :=
  { s with queue := s.queue.drop 1, taken := s.taken + 1 }

end TokenStream

end Conformance.Yaml
