import Conformance.Shell.Scan

/-!
# Reading words

Words are read character by character.  What ends a word, and which characters are
special in it, depends on the zone in which it stands.  Commands inside of words are
read by a reader for commands, which is given as `Deeper`.
-/

namespace Conformance.Shell

/-- Where parts of words stand. -/
inductive Zone where
  /-- Ends in front of a blank, a newline or an operator. -/
  | word
  /-- Like a word, but without expansions. -/
  | mark
  /-- Like a word, but parentheses and bars belong to it. -/
  | expression
  /-- Ends with a double quote. -/
  | quoted
  /-- Ends with a closing brace. -/
  | operand (inQuotes : Bool)
  /-- Ends with a closing brace, or in front of one of some characters. -/
  | operandTo (inQuotes : Bool) (marks : List Char)
  /-- Ends with a closing bracket. -/
  | subscript
  /-- Ends with the script. -/
  | document
  /-- Ends with two closing parentheses. -/
  | arithmetic
deriving DecidableEq, Repr

/-- Readers for what is nested more deeply. -/
structure Deeper where
  list : Nat → Read (Option Command)
  /-- Commands up to and with a closing parenthesis. -/
  enclosed : Read (Option Command)
  parts : Zone → Read Word

/-- Parts that are being put together, latest first. -/
structure Draft where
  parts : List Part
  run : String
  isQuoted : Bool
  isOpen : Bool

namespace Draft

def empty : Draft := ⟨[], "", false, false⟩

/-- Ends a run of characters.  An empty one counts only if it was quoted. -/
def flush (draft : Draft) : Draft :=
  if draft.isOpen && (draft.isQuoted || !draft.run.isEmpty) then
    ⟨.text draft.run draft.isQuoted :: draft.parts, "", false, false⟩
  else ⟨draft.parts, "", false, false⟩

def add (draft : Draft) (c : Char) (quoted : Bool) : Draft :=
  if draft.isOpen && draft.isQuoted = quoted then { draft with run := draft.run.push c }
  else { draft.flush with run := String.singleton c, isQuoted := quoted, isOpen := true }

def addText (draft : Draft) (text : List Char) (quoted : Bool) : Draft :=
  let opened := if draft.isOpen && draft.isQuoted = quoted then draft
    else { draft.flush with run := "", isQuoted := quoted, isOpen := true }
  text.foldl (fun draft c => draft.add c quoted) opened

def addPart (draft : Draft) (part : Part) : Draft :=
  { draft.flush with parts := part :: draft.flush.parts }

/-- Adds what stands between double quotes.  All arguments alone are no empty text. -/
def addQuoted (draft : Draft) (inner : Word) : Draft :=
  match inner with
  | [.parameter "@" none .value true] => inner.foldl addPart draft
  | .text content true :: rest =>
    rest.foldl addPart (draft.addText content.toList true)
  | _ => inner.foldl addPart (draft.addText [] true)

def word (draft : Draft) : Word := draft.flush.parts.reverse

end Draft

namespace Read

def isOperatorChar (c : Char) : Bool :=
  [' ', '\t', '\n', ';', '&', '(', ')', '<', '>', '|'].contains c

def isQuotedZone : Zone → Bool
  | .quoted => true
  | .operand inQuotes => inQuotes
  | .operandTo inQuotes _ => inQuotes
  | .document => true
  | .arithmetic => true
  | _ => false

def singleQuoted : (fuel : Nat) → (taken : List Char) → Read (List Char)
  | 0, taken => return taken.reverse
  | fuel + 1, taken => do
    match ← next with
    | none => fail "Unterminated quoted string"
    | some '\'' => return taken.reverse
    | some c => singleQuoted fuel (c :: taken)

/-- Takes digits of a radix, at most so many. -/
def escapeDigits (isPart : Char → Bool) : (count : Nat) → Read (List Char)
  | 0 => return []
  | count + 1 => do
    match ← peek with
    | some c =>
      if isPart c then
        let _ ← next
        return c :: (← escapeDigits isPart count)
      else return []
    | none => return []

def digitsIn (radix : Nat) (digits : List Char) : Nat :=
  digits.foldl (fun n c =>
    let d := if c.isDigit then c.toNat - 48 else (c.toLower.toNat - 87)
    n * radix + d) 0

def encoded (code : Nat) : List Char :=
  (String.utf8EncodeChar (Char.ofNat code)).map fun b => Char.ofNat b.toNat

/-- The text between single quotes behind a dollar sign, with its escapes replaced. -/
def escapedQuoted : (fuel : Nat) → (taken : List Char) → Read (List Char)
  | 0, taken => return taken.reverse
  | fuel + 1, taken => do
    let isHex (c : Char) : Bool :=
      c.isDigit || ('a' ≤ c.toLower && c.toLower ≤ 'f')
    match ← next with
    | none => fail "Unterminated quoted string"
    | some '\'' => return taken.reverse
    | some '\\' =>
      match ← next with
      | none => fail "Unterminated quoted string"
      | some c =>
        let simple := [('a', '\x07'), ('b', '\x08'), ('e', '\x1b'), ('E', '\x1b'), ('f', '\x0c'),
          ('n', '\n'), ('r', '\r'), ('t', '\t'), ('v', '\x0b'), ('\\', '\\'), ('\'', '\''),
          ('"', '"'), ('?', '?')]
        match simple.lookup c with
        | some d => escapedQuoted fuel (d :: taken)
        | none =>
          if '0' ≤ c && c ≤ '7' then
            let more ← escapeDigits (fun d => '0' ≤ d && d ≤ '7') 2
            escapedQuoted fuel (Char.ofNat (digitsIn 8 (c :: more) % 256) :: taken)
          else if c = 'x' then
            let digits ← escapeDigits isHex 2
            if digits.isEmpty then escapedQuoted fuel ('x' :: '\\' :: taken)
            else escapedQuoted fuel (Char.ofNat (digitsIn 16 digits) :: taken)
          else if c = 'u' || c = 'U' then
            let digits ← escapeDigits isHex (if c = 'u' then 4 else 8)
            if digits.isEmpty then escapedQuoted fuel (c :: '\\' :: taken)
            else escapedQuoted fuel ((encoded (digitsIn 16 digits)).reverse ++ taken)
          else if c = 'c' then
            match ← next with
            | none => fail "Unterminated quoted string"
            | some d => escapedQuoted fuel (Char.ofNat (d.toNat % 32) :: taken)
          else escapedQuoted fuel (c :: '\\' :: taken)
    | some c => escapedQuoted fuel (c :: taken)

/-- The text between backquotes, behind the first, with its backslashes taken off. -/
def backquoted (inQuotes : Bool) : (fuel : Nat) → (taken : List Char) → Read (List Char)
  | 0, taken => return taken.reverse
  | fuel + 1, taken => do
    match ← nextJoined with
    | none => fail "EOF in backquote substitution"
    | some '\x60' => return taken.reverse
    | some '\\' =>
      match ← next with
      | none => fail "EOF in backquote substitution"
      | some c =>
        if c = '\\' || c = '\x60' || c = '$' || (inQuotes && c = '"') then
          backquoted inQuotes fuel (c :: taken)
        else backquoted inQuotes fuel (c :: '\\' :: taken)
    | some c => backquoted inQuotes fuel (c :: taken)

section

variable (deeper : Deeper)

def nestedList (text : List Char) (line : Nat) : Read (Option Command) := do
  let scan ← get
  set { scan with
    rest := text, isWhole := true, line, isPushedBack := false, awaited := [], layers := [] }
  let body ← deeper.list 2
  let inner ← get
  set { scan with documents := inner.documents, nextDocument := inner.nextDocument }
  return body

def parenthesized : Read (Option Command) := do
  let scan ← get
  set { scan with isPushedBack := false, awaited := [], checks := .nothing }
  let body ← deeper.enclosed
  modify fun inner => { inner with
    awaited := scan.awaited, checks := scan.checks, isPushedBack := false }
  return body

/-- A name between braces: of a variable, digits, or a mark. -/
inductive BraceName where
  | found (name : String)
  | lengthOf (name : String)
  | none

/-- Reads the name between braces.  A number sign in front of a name asks for its
length. -/
def braceName : Read BraceName := do
  let plain (c : Char) : Read String := do
    if isNameStart c then takeWhile isNameChar bound []
    else takeWhile Char.isDigit bound []
  match ← peekJoined with
  | none => return .none
  | some c =>
    if isNameStart c || c.isDigit then return .found (← plain c)
    else if c = '\x7d' then return .none
    else
      let _ ← next
      if c = '#' then
        match ← peekJoined with
        | none => return .found "#"
        | some d =>
          if isNameChar d then return .lengthOf (← plain d)
          else if d = '\x7d' then return .found "#"
          else
            let before ← get
            let _ ← next
            if (← peekJoined) = some '\x7d' && isSpecialParameter d then
              return .lengthOf (String.singleton d)
            else if (← isExtended) && isSpecialParameter d && (← peekJoined) = some '[' then
              return .lengthOf (String.singleton d)
            else
              set before
              return .found "#"
      else if isSpecialParameter c then return .found (String.singleton c)
      else return .none

/-- What follows a name between braces in the larger language. -/
def extendedUse (inQuotes : Bool) (c : Char) : Read (Option Use) := do
  match c with
  | ':' =>
    let start ← deeper.parts (.operandTo inQuotes [':'])
    if ← accept ':' then
      return some (.slice start (some (← deeper.parts (.operand inQuotes))))
    else
      let _ ← next
      return some (.slice start none)
  | '/' =>
    let (all, anchor) ← do
      match ← peekJoined with
      | some '/' => let _ ← next; pure (true, Anchor.anywhere)
      | some '#' => let _ ← next; pure (false, Anchor.front)
      | some '%' => let _ ← next; pure (false, Anchor.finish)
      | _ => pure (false, Anchor.anywhere)
    let pattern ← deeper.parts (.operandTo false ['/'])
    if ← accept '/' then
      return some (.replace all anchor pattern (← deeper.parts (.operand inQuotes)))
    else
      let _ ← next
      return some (.replace all anchor pattern [])
  | '^' =>
    let all ← accept '^'
    return some (.recase true all (← deeper.parts (.operand false)))
  | ',' =>
    let all ← accept ','
    return some (.recase false all (← deeper.parts (.operand false)))
  | '@' =>
    match ← nextJoined with
    | some letter =>
      if ← accept '\x7d' then return some (.transform letter)
      else
        let _ ← deeper.parts (.operand inQuotes)
        return some .invalid
    | none => return none
  | _ => return none

/-- What follows a name between braces, up to the closing one. -/
def braceUse (inQuotes : Bool) : Read Use := do
  let choose (orEmpty : Bool) (c : Char) : Read (Option Use) := do
    let word : Read Word := deeper.parts (.operand inQuotes)
    match c with
    | '-' => return some (.fallback orEmpty (← word))
    | '=' => return some (.assign orEmpty (← word))
    | '?' => return some (.demand orEmpty (← word))
    | '+' => return some (.alternative orEmpty (← word))
    | _ => return none
  match ← peekJoined with
  | none => let _ ← deeper.parts (.operand inQuotes); return .invalid
  | some c =>
    let _ ← next
    let extended ← isExtended
    if c = '\x7d' then return .value
    else if c = '%' || c = '#' then
      let longest ← accept c
      return .trim (c = '%') longest (← deeper.parts (.operand false))
    else if c = ':' then
      match ← peekJoined with
      | some d =>
        if ['-', '=', '?', '+'].contains d then
          let _ ← next
          return (← choose true d).getD .invalid
        else if extended then return (← extendedUse deeper inQuotes c).getD .invalid
        else
          let _ ← next
          let _ ← deeper.parts (.operand inQuotes)
          return if d = '\x7d' then .value else .invalid
      | none => let _ ← deeper.parts (.operand inQuotes); return .invalid
    else
      match ← choose false c with
      | some use => return use
      | none =>
        let found ← if extended then extendedUse deeper inQuotes c else pure none
        match found with
        | some use => return use
        | none =>
          let _ ← deeper.parts (.operand inQuotes)
          return .invalid

/-- An index between brackets, if one follows. -/
def subscript? : Read (Option Word) := do
  if (← isExtended) && (← peek) = some '[' then
    let _ ← next
    return some (← deeper.parts .subscript)
  else return none

/-- An expansion between braces, behind the first. -/
def braced (inQuotes : Bool) : Read Part := do
  let extended ← isExtended
  let bang := (← peekJoined) = some '!'
  let before ← get
  if extended && bang then
    let _ ← next
    let name ← takeWhile isNameChar bound []
    if name.isEmpty then set before
    else
      let index ← subscript? deeper
      match index, ← peek with
      | none, some '@' =>
        let _ ← next
        if ← accept '\x7d' then return .parameter name none .names inQuotes
      | none, some '*' =>
        let _ ← next
        if ← accept '\x7d' then return .parameter name none .names inQuotes
      | _, _ => pure ()
      match index with
      | some [.text mark _] =>
        if mark = "@" || mark = "*" then
          if ← accept '\x7d' then return .parameter name index .keys inQuotes
      | _ => pure ()
      return .parameter name index (.indirect (← braceUse deeper inQuotes)) inQuotes
  match ← braceName with
  | .none =>
    let _ ← deeper.parts (.operand inQuotes)
    return .parameter "" none .invalid inQuotes
  | .lengthOf name =>
    let index ← subscript? deeper
    if ← accept '\x7d' then return .parameter name index .length inQuotes
    else
      let _ ← deeper.parts (.operand inQuotes)
      return .parameter name index .invalid inQuotes
  | .found name =>
    let index ← subscript? deeper
    return .parameter name index (← braceUse deeper inQuotes) inQuotes

/-- What a dollar sign stands for, behind it; nothing if for itself. -/
def dollar (zone : Zone) : Read (Option Part) := do
  let inQuotes := isQuotedZone zone
  match ← peekJoined with
  | none => return none
  | some '(' =>
    let _ ← next
    if ← accept '(' then return some (.arithmetic (← deeper.parts .arithmetic) inQuotes)
    else return some (.command (← parenthesized deeper) inQuotes)
  | some '\x7b' =>
    let _ ← next
    return some (← braced deeper inQuotes)
  | some c =>
    if isNameStart c then
      return some (.parameter (← takeWhile isNameChar bound []) none .value inQuotes)
    else if c.isDigit || isSpecialParameter c then
      let _ ← next
      return some (.parameter (String.singleton c) none .value inQuotes)
    else return none

/-- Which characters a backslash quotes in a zone where it does not quote all. -/
def isEscapable (zone : Zone) (c : Char) : Bool :=
  c = '\\' || c = '\x60' || c = '$' || match zone with
    | .document => false
    | .operand _ => c = '"' || c = '\x7d'
    | .operandTo _ _ => c = '"' || c = '\x7d'
    | _ => c = '"'

def unfinished (zone : Zone) : Read Word :=
  match zone with
  | .operand false => fail "Missing '\x7d'"
  | .operandTo false _ => fail "Missing '\x7d'"
  | .subscript => fail "Missing ']'"
  | .arithmetic => fail "Missing '))'"
  | _ => fail "Unterminated quoted string"

/-- How far the parts of a zone have come. -/
structure Progress where
  draft : Draft
  /-- Parentheses or brackets that are open. -/
  depth : Nat
  /-- Whether an odd number of quotes has come in an operand between quotes. -/
  isTurned : Bool

/-- One more character of a zone.  Yields nothing at its end. -/
def partStep (zone : Zone) (progress : Progress) (c : Char) : Read (Option Progress) := do
  let draft := progress.draft
  let inQuotes := isQuotedZone zone
  let goOn (draft : Draft) : Read (Option Progress) := return some { progress with draft }
  let literal : Read (Option Progress) := do
    let _ ← next
    goOn (draft.add c inQuotes)
  let isPlainMark := match zone with
    | .mark => true
    | _ => false
  if c = '$' && !isPlainMark then
    let _ ← next
    if !inQuotes && (← isExtended) && (← peek) = some '\'' then
      let _ ← next
      goOn (draft.addText (← escapedQuoted bound []) true)
    else if !inQuotes && (← isExtended) && (← peek) = some '"' then
      let _ ← next
      goOn (draft.addQuoted (← deeper.parts .quoted))
    else
      match ← dollar deeper zone with
      | some part => goOn (draft.addPart part)
      | none => goOn (draft.add '$' inQuotes)
  else if c = '\x60' && !isPlainMark then
    let _ ← next
    let line := (← get).line
    let text ← backquoted inQuotes bound []
    goOn (draft.addPart (.command (← nestedList deeper text line) inQuotes))
  else if c = '\\' then
    let _ ← next
    if inQuotes then
      match ← peek with
      | some d =>
        if isEscapable zone d then
          let _ ← next
          goOn (draft.add d true)
        else goOn (draft.add '\\' true)
      | none => goOn (draft.add '\\' true)
    else
      match ← next with
      | some d => goOn (draft.add d true)
      | none => goOn (draft.add '\\' true)
  else
    match zone with
    | .quoted =>
      if c = '"' then
        let _ ← next
        return none
      else literal
    | .document => literal
    | .arithmetic =>
      if c = '(' then
        let _ ← next
        return some { progress with draft := draft.add c true, depth := progress.depth + 1 }
      else if c = ')' then
        let _ ← next
        if 0 < progress.depth then
          return some { progress with draft := draft.add c true, depth := progress.depth - 1 }
        else if ← accept ')' then return none
        else goOn (draft.add c true)
      else literal
    | _ =>
      let isTurnable := match zone with
        | .operand true => true
        | .operandTo true _ => true
        | _ => false
      if isTurnable && c = '"' then
        let _ ← next
        return some { progress with isTurned := !progress.isTurned }
      else if !inQuotes && c = '\'' then
        let _ ← next
        goOn (draft.addText (← singleQuoted bound []) true)
      else if !inQuotes && c = '"' then
        let _ ← next
        goOn (draft.addQuoted (← deeper.parts .quoted))
      else match zone with
        | .operand _ =>
          if c = '\x7d' && !progress.isTurned then
            let _ ← next
            return none
          else literal
        | .operandTo _ marks =>
          if (c = '\x7d' || (marks.contains c && progress.depth = 0)) && !progress.isTurned then
            return none
          else if c = '(' then
            let _ ← next
            return some { progress with draft := draft.add c inQuotes, depth := progress.depth + 1 }
          else if c = ')' then
            let _ ← next
            return some { progress with draft := draft.add c inQuotes, depth := progress.depth - 1 }
          else literal
        | .subscript =>
          if c = '[' then
            let _ ← next
            return some { progress with draft := draft.add c false, depth := progress.depth + 1 }
          else if c = ']' then
            let _ ← next
            if progress.depth = 0 then return none
            else
              return some { progress with draft := draft.add c false, depth := progress.depth - 1 }
          else literal
        | .expression =>
          if c = '(' then
            let _ ← next
            return some { progress with draft := draft.add c false, depth := progress.depth + 1 }
          else if c = ')' then
            if progress.depth = 0 then return none
            else
              let _ ← next
              return some { progress with draft := draft.add c false, depth := progress.depth - 1 }
          else if c = '|' then
            if progress.depth = 0 && ((← get).rest.drop 1).head? = some '|' then return none
            else literal
          else if isOperatorChar c && !(isBlank c && 0 < progress.depth) then return none
          else literal
        | _ =>
          if isOperatorChar c then
            let isChannel := (c = '<' || c = '>') && ((← get).rest.drop 1).head? = some '('
            if isChannel && (← isExtended) then
              let _ ← next
              let _ ← next
              goOn (draft.addPart (.channel (c = '<') (← parenthesized deeper)))
            else return none
          else literal

/-- The parts of a zone from here on; `fuel` bounds their characters. -/
def partsFrom (zone : Zone) : (fuel : Nat) → Progress → Read Word
  | 0, progress => return progress.draft.word
  | fuel + 1, progress => do
    match ← peekJoined with
    | none =>
      match zone with
      | .word => return progress.draft.word
      | .mark => return progress.draft.word
      | .expression => return progress.draft.word
      | .document => return progress.draft.word
      | _ => unfinished zone
    | some c =>
      match ← partStep deeper zone progress c with
      | some later => partsFrom zone fuel later
      | none => return progress.draft.word

def parts (zone : Zone) : Read Word := partsFrom deeper zone bound ⟨.empty, 0, false⟩

end

def literalChars (word : Word) : List Char :=
  word.flatMap fun part => match part with
    | .text content _ => content.toList
    | _ => []

def hasQuotes (word : Word) : Bool :=
  word.any fun part => match part with
    | .text _ quoted => quoted
    | .parameter _ _ _ quoted => quoted
    | _ => false

/-- Takes the lines of a text up to one that is the mark.  A line that goes on in the
next one is no mark there. -/
def documentLines (awaited : Awaited) :
    (fuel : Nat) → (continued : Bool) → (taken : List Char) → Read (List Char)
  | 0, _, taken => return taken.reverse
  | fuel + 1, continued, taken => do
    let scan ← get
    let stripped := if awaited.stripsTabs && !continued then scan.rest.dropWhile (· = '\t')
      else scan.rest
    let line := stripped.takeWhile (· ≠ '\n')
    let behind := stripped.drop line.length
    if behind.isEmpty && !scan.isWhole then throw .more
    let isEnd := !continued && line = awaited.mark
    let after := behind.drop 1
    let moved := { scan with
      rest := after, line := if behind.isEmpty then scan.line else scan.line + 1 }
    if isEnd then set moved; return taken.reverse
    else if behind.isEmpty then
      set moved
      return (line.reverse ++ taken).reverse
    else
      set moved
      let goesOn := !awaited.isLiteral && (line.reverse.takeWhile (· = '\\')).length % 2 = 1
      documentLines awaited fuel goesOn ('\n' :: (line.reverse ++ taken))

/-- Reads the texts that stand behind the line that has ended. -/
def documents (deeper : Deeper) : Read Unit := do
  let awaited := (← get).awaited
  modify fun scan => { scan with awaited := [] }
  for document in awaited do
    let line := (← get).line
    let text ← documentLines document bound false []
    let content ← if document.isLiteral then pure [Part.text (String.ofList text) true]
      else do
        let scan ← get
        set { scan with rest := text, isWhole := true, line, layers := [] }
        let content ← deeper.parts .document
        let inner ← get
        set { scan with documents := inner.documents, nextDocument := inner.nextDocument }
        pure content
    modify fun scan => { scan with documents := (document.number, content) :: scan.documents }

end Read

end Conformance.Shell
