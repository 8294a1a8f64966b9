import Conformance.Shell.RegexText

/-!
# Scripts that edit lines

A script is a list of instructions, each with the lines it applies to.  It is read
character by character; what is wrong with it is told together with the place where
that became clear.
-/

namespace Conformance.Tool.Edit

open Shell

/-- A line, or lines, by number or content. -/
inductive Address where
  | line (number : Nat)
  | every (first step : Nat)
  | last
  /-- Without an expression, the one used last. -/
  | matching (regex : Option Regex)
deriving DecidableEq, Repr

/-- Where a range of lines ends. -/
inductive Stop where
  | address (place : Address)
  | after (count : Nat)
  | multiple (step : Nat)
deriving DecidableEq, Repr

/-- The lines an instruction applies to. -/
structure Selector where
  start : Option Address
  stop : Option Stop
  negated : Bool
deriving DecidableEq, Repr

/-- A change of case in a replacement. -/
inductive CaseChange where
  | upper
  | lower
  | stop
  /-- Only the next character, on top of a lasting change. -/
  | upperNext
  | lowerNext
deriving DecidableEq, Repr

inductive ReplacementPart where
  | text (content : List Char)
  | group (index : Nat)
  | change (kind : CaseChange)
deriving DecidableEq, Repr

structure Substitution where
  regex : Option Regex
  parts : List ReplacementPart
  isGlobal : Bool
  /-- The first match that is replaced. -/
  first : Nat
  prints : Bool
  /-- Whether the result is a command whose output takes its place. -/
  runs : Bool
  target : Option String
deriving DecidableEq, Repr

inductive Action where
  | openBlock
  | closeBlock
  | label (name : String)
  | substitute (rule : Substitution)
  | exchangeChars (pairs : List (Char × Char))
  | append (text : List Char)
  | insert (text : List Char)
  | change (text : List Char)
  | delete
  | deleteLine
  | print
  | printLine
  | next
  | nextLine
  | hold
  | holdMore
  | get
  | getMore
  | exchange
  | branch (label : String)
  | branchIf (label : String)
  | branchUnless (label : String)
  | quit (status : Nat)
  | quitQuietly (status : Nat)
  | showNumber
  | showPlainly (width : Option Nat)
  | showName
  | clear
  | readFile (name : String)
  | readLine (name : String)
  | writeFile (name : String)
  | writeLine (name : String)
  /-- Runs a command and shows its output; the empty one is the text of the line. -/
  | run (command : List Char)
  | nothing
deriving DecidableEq, Repr

structure Instruction where
  selector : Selector
  action : Action
deriving DecidableEq, Repr

/-! ## Faults -/

inductive ScriptFault where
  | severalMarks
  | loneComma
  | looseAddress
  | openBlock
  | closedBlock
  | moreBehind
  | missingText
  | placedBlockEnd
  | placedLabel
  | placedComment
  | noCommand
  | oneAddress
  | openAddress
  | openSubstitution
  | openExchange
  | unknownFlag
  | severalPrints
  | severalGlobals
  | severalNumbers
  | numberZero
  | unequalSides
  | lineZero
  | unknownCommand (name : Char)
  | missingLabel
  | missingFile
  | newerVersion
  | emptyWithFlags
  | missingGroup (index : Nat)
  | forbidden
  | regex (fault : RegexFault)
deriving DecidableEq, Repr

def ScriptFault.message : ScriptFault → String
  | .severalMarks => "multiple \x60!'s"
  | .loneComma => "unexpected \x60,'"
  | .looseAddress => "invalid usage of +N or ~N as first address"
  | .openBlock => "unmatched \x60\x7b'"
  | .closedBlock => "unexpected \x60\x7d'"
  | .moreBehind => "extra characters after command"
  | .missingText => "expected \\ after \x60a', \x60c' or \x60i'"
  | .placedBlockEnd => "\x60\x7d' doesn't want any addresses"
  | .placedLabel => ": doesn't want any addresses"
  | .placedComment => "comments don't accept any addresses"
  | .noCommand => "missing command"
  | .oneAddress => "command only uses one address"
  | .openAddress => "unterminated address regex"
  | .openSubstitution => "unterminated \x60s' command"
  | .openExchange => "unterminated \x60y' command"
  | .unknownFlag => "unknown option to \x60s'"
  | .severalPrints => "multiple \x60p' options to \x60s' command"
  | .severalGlobals => "multiple \x60g' options to \x60s' command"
  | .severalNumbers => "multiple number options to \x60s' command"
  | .numberZero => "number option to \x60s' command may not be zero"
  | .unequalSides => "strings for \x60y' command are different lengths"
  | .lineZero => "invalid usage of line address 0"
  | .unknownCommand name => "unknown command: \x60" ++ String.singleton name ++ "'"
  | .missingLabel => "\":\" lacks a label"
  | .missingFile => "missing filename in r/R/w/W commands"
  | .newerVersion => "expected newer version of sed"
  | .emptyWithFlags => "cannot specify modifiers on empty regexp"
  | .missingGroup index =>
    "invalid reference \\" ++ toString index ++ " on \x60s' command's RHS"
  | .forbidden => "e/r/w commands disabled in sandbox mode"
  | .regex fault => fault.message

/-- Where a part of a script comes from. -/
inductive ScriptOrigin where
  | expression (number : Nat)
  | file (name : String)
deriving DecidableEq, Repr

/-- What is wrong, and where. -/
structure Complaint where
  origin : ScriptOrigin
  place : Nat
  line : Nat
  fault : ScriptFault

def Complaint.message (complaint : Complaint) : String :=
  (match complaint.origin with
    | .expression number =>
      "-e expression #" ++ toString number ++ ", char " ++ toString complaint.place
    | .file name => "file " ++ name ++ " line " ++ toString complaint.line) ++
    ": " ++ complaint.fault.message

/-! ## Escapes -/

/-- A character that digits of a radix spell behind a letter, at most `count` of them. -/
def codeEscape? (radix count : Nat) (text : List Char) : Option (Char × List Char) :=
  let digit? (c : Char) : Option Nat :=
    let value := if c.isDigit then c.toNat - '0'.toNat
      else if 'a' ≤ c.toLower && c.toLower ≤ 'f' then c.toLower.toNat - 'a'.toNat + 10
      else radix
    if value < radix then some value else none
  let digits := (text.take count).takeWhile fun c => (digit? c).isSome
  if digits.isEmpty then none
  else some (Char.ofNat (digits.foldl (fun n c => n * radix + (digit? c).getD 0) 0 % 256),
    text.drop digits.length)

/-- The character that an escape stands for, read behind the backslash. -/
def escape? (text : List Char) : Option (Char × List Char) :=
  match text with
  | 'a' :: rest => some ('\x07', rest)
  | 'f' :: rest => some ('\x0c', rest)
  | 'n' :: rest => some ('\n', rest)
  | 'r' :: rest => some ('\r', rest)
  | 't' :: rest => some ('\t', rest)
  | 'v' :: rest => some ('\x0b', rest)
  | 'x' :: rest => codeEscape? 16 2 rest
  | 'd' :: rest => codeEscape? 10 3 rest
  | 'o' :: rest => codeEscape? 8 3 rest
  | 'c' :: c :: rest => if c = '\\' then none else some (Char.ofNat (Nat.xor c.toUpper.toNat 64), rest)
  | _ => none

/-- The escapes of an expression as the characters they stand for; `fuel` bounds the
characters. -/
def expandEscapes : (fuel : Nat) → List Char → List Char
  | 0, text => text
  | _ + 1, [] => []
  | fuel + 1, '\\' :: rest =>
    match rest with
    | [] => ['\\']
    | c :: more =>
      match escape? rest with
      | some (found, after) =>
        (if found = '\\' then ['\\', '\\'] else [found]) ++ expandEscapes fuel after
      | none => '\\' :: c :: expandEscapes fuel more
  | fuel + 1, c :: rest => c :: expandEscapes fuel rest

/-- The text up to a delimiter that no backslash protects and no brackets hold, and how
many characters that took; the delimiter may be missing.  A protected delimiter loses its
backslash.  Brackets count only if `isRegex`; `fuel` bounds the characters. -/
def upToDelimiter (delimiter : Char) (isRegex : Bool) : (fuel : Nat) → (inside : Bool) →
    List Char → List Char × Nat × Bool
  | 0, _, _ => ([], 0, false)
  | _ + 1, _, [] => ([], 0, false)
  | fuel + 1, inside, c :: rest =>
    let goOn (front : List Char) (count : Nat) (inside : Bool) (rest : List Char) :
        List Char × Nat × Bool :=
      let (text, size, isEnded) := upToDelimiter delimiter isRegex fuel inside rest
      (front ++ text, size + count, isEnded)
    if c = '\n' then ([], 0, false)
    else if inside then goOn [c] 1 (c ≠ ']') rest
    else if c = delimiter then ([], 1, true)
    else match c, rest with
      | '\\', d :: more =>
        let front := if d = '\n' then (if isRegex then ['\n'] else ['\\', '\n'])
          else if d = delimiter && !(d = '&' && !isRegex) then [d]
          else [c, d]
        goOn front 2 false more
      | '[', '^' :: ']' :: more =>
        if isRegex then goOn ['[', '^', ']'] 3 true more else goOn [c] 1 false rest
      | '[', '^' :: more =>
        if isRegex then goOn ['[', '^'] 2 true more else goOn [c] 1 false rest
      | '[', ']' :: more =>
        if isRegex then goOn ['[', ']'] 2 true more else goOn [c] 1 false rest
      | '[', _ => goOn [c] 1 isRegex rest
      | _, _ => goOn [c] 1 false rest

def addPart (c : Char) : List ReplacementPart → List ReplacementPart
  | .text content :: rest => .text (c :: content) :: rest
  | parts => .text [c] :: parts

/-- The parts of a replacement; `fuel` bounds the characters. -/
def replacementParts : (fuel : Nat) → List Char → List ReplacementPart
  | 0, _ => []
  | _ + 1, [] => []
  | fuel + 1, '&' :: rest => .group 0 :: replacementParts fuel rest
  | fuel + 1, '\\' :: rest =>
    match rest with
    | [] => [.text ['\\']]
    | 'U' :: more => .change .upper :: replacementParts fuel more
    | 'L' :: more => .change .lower :: replacementParts fuel more
    | 'E' :: more => .change .stop :: replacementParts fuel more
    | 'u' :: more => .change .upperNext :: replacementParts fuel more
    | 'l' :: more => .change .lowerNext :: replacementParts fuel more
    | c :: more =>
      if c.isDigit then .group (c.toNat - '0'.toNat) :: replacementParts fuel more
      else match escape? rest with
        | some (found, after) => addPart found (replacementParts fuel after)
        | none => addPart c (replacementParts fuel more)
  | fuel + 1, c :: rest => addPart c (replacementParts fuel rest)

def lastGroup (parts : List ReplacementPart) : Nat :=
  parts.foldl (fun last part => match part with
    | .group index => max last index
    | _ => last) 0

def exchangeSide : (fuel : Nat) → List Char → List Char
  | 0, _ => []
  | _ + 1, [] => []
  | fuel + 1, '\\' :: rest =>
    match rest with
    | [] => ['\\']
    | c :: more =>
      match escape? rest with
      | some (found, after) => found :: exchangeSide fuel after
      | none => c :: exchangeSide fuel more
  | fuel + 1, c :: rest => c :: exchangeSide fuel rest

def groupCount : Regex → Nat
  | .seq first second => max (groupCount first) (groupCount second)
  | .either first second => max (groupCount first) (groupCount second)
  | .times body _ _ => groupCount body
  | .group index body => max index (groupCount body)
  | _ => 0

/-! ## Reading -/

/-- A block that has been opened: where the instruction is, and where it came from. -/
structure OpenBlock where
  origin : ScriptOrigin
  line : Nat

structure ReadState where
  origin : ScriptOrigin
  rest : List Char
  /-- How many characters of this part have been read, and how many lines. -/
  place : Nat
  line : Nat
  later : List (ScriptOrigin × List Char)
  /-- Instructions so far, latest first. -/
  found : List Instruction
  blocks : List OpenBlock
  isFirst : Bool
  quiet : Bool

/-- How a script is read. -/
structure Reading where
  extended : Bool
  forbids : Bool

abbrev Reader := ReaderT Reading (StateT ReadState (Except Complaint))

namespace Reader

def bad {α : Type} (fault : ScriptFault) : Reader α := do
  let state ← get
  throw ⟨state.origin, state.place, state.line, fault⟩

def advance (count : Nat) : Reader Unit :=
  modify fun state => { state with
    rest := state.rest.drop count
    place := state.place + min count state.rest.length
    line := state.line + ((state.rest.take count).filter (· = '\n')).length }

def next : Reader (Option Char) := do
  match (← get).rest with
  | [] => return none
  | c :: _ =>
    advance 1
    return some c

def peek : Reader (Option Char) := return (← get).rest.head?

def skip (test : Char → Bool) : Reader Unit := do
  advance ((← get).rest.takeWhile test).length

def isBlank (c : Char) : Bool := c = ' ' || c = '\t'

def isSpace (c : Char) : Bool := c = ' ' || ('\t' ≤ c && c ≤ '\r')

def number? : Reader (Option Nat) := do
  let digits := (← get).rest.takeWhile Char.isDigit
  if digits.isEmpty then return none
  advance digits.length
  return some (digits.foldl (fun n c => n * 10 + (c.toNat - '0'.toNat)) 0)

def number : Reader Nat := return (← number?).getD 0

def delimited (delimiter : Char) (isRegex : Bool) (fault : ScriptFault) : Reader (List Char) := do
  let rest := (← get).rest
  let (text, count, isEnded) := upToDelimiter delimiter isRegex (rest.length + 1) false rest
  advance count
  if !isEnded then bad fault
  return text

/-- An expression; the empty one stands for the one used last. -/
def regex (text : List Char) (foldCase byLines : Bool) : Reader (Option Regex) := do
  if text.isEmpty then
    if foldCase || byLines then bad .emptyWithFlags
    return none
  let style : RegexStyle := ⟨(← read).extended, foldCase, false, byLines, false, true⟩
  match style.read (expandEscapes text.length text) with
  | .ok found => return some found
  | .error fault => bad (.regex fault)

/-- Whether letters behind an expression say that case does not count, and that lines
count; `fuel` bounds them. -/
def addressFlags : (fuel : Nat) → (foldCase byLines : Bool) → Reader (Bool × Bool)
  | 0, foldCase, byLines => return (foldCase, byLines)
  | fuel + 1, foldCase, byLines => do
    skip isBlank
    match ← peek with
    | some 'I' =>
      advance 1
      addressFlags fuel true byLines
    | some 'M' =>
      advance 1
      addressFlags fuel foldCase true
    | _ => return (foldCase, byLines)

/-- An expression as an address, behind its first delimiter. -/
def matchingAddress (delimiter : Char) : Reader Address := do
  let text ← delimited delimiter true .openAddress
  let (foldCase, byLines) ← addressFlags ((← get).rest.length + 1) false false
  return .matching (← regex text foldCase byLines)

def address? : Reader (Option Address) := do
  match ← peek with
  | some '/' =>
    advance 1
    return some (← matchingAddress '/')
  | some '\\' =>
    advance 1
    match ← next with
    | some delimiter => return some (← matchingAddress delimiter)
    | none => bad .openAddress
  | some '$' =>
    advance 1
    return some .last
  | _ =>
    match ← number? with
    | none => return none
    | some first =>
      skip isBlank
      if (← peek) = some '~' then
        advance 1
        skip isBlank
        let step ← number
        return some (if step = 0 then .line first else .every first step)
      else return some (.line first)

def rangeStop : Reader Stop := do
  skip isBlank
  match ← peek with
  | some '+' =>
    advance 1
    skip isBlank
    return .after (← number)
  | some '~' =>
    advance 1
    skip isBlank
    return .multiple (← number)
  | _ =>
    match ← address? with
    | some place => return .address place
    | none =>
      advance 1
      bad .loneComma

/-- The lines that an instruction applies to. -/
def selector : Reader Selector := do
  match ← peek with
  | some '+' =>
    advance 1
    let _ ← number?
    bad .looseAddress
  | some '~' =>
    advance 1
    let _ ← number?
    bad .looseAddress
  | _ => pure ()
  let start ← address?
  if start.isSome then skip isBlank
  let hasStop := start.isSome && (← peek) = some ','
  let stop ← if hasStop then do
      advance 1
      pure (some (← rangeStop))
    else pure none
  if start = some (.line 0) then
    let isOpen := match stop with
      | some (.address (.matching _)) => true
      | _ => false
    if !isOpen then
      skip isBlank
      advance 1
      bad .lineZero
  skip isBlank
  if (← peek) = some '!' then
    advance 1
    skip isBlank
    if (← peek) = some '!' then
      advance 1
      bad .severalMarks
    return ⟨start, stop, true⟩
  else return ⟨start, stop, false⟩

/-- Nothing may follow a command on its line but a comment or the end of a block. -/
def endOfCommand : Reader Unit := do
  skip isBlank
  match ← peek with
  | none => return
  | some c =>
    if c = '\x7d' || c = '#' then return
    advance 1
    if c ≠ '\n' && c ≠ ';' then bad .moreBehind

def fileName : Reader String := do
  skip isBlank
  let name := (← get).rest.takeWhile (· ≠ '\n')
  advance (name.length + 1)
  if name.isEmpty then
    bad .missingFile
  return String.ofList name

/-- A label, which a semicolon or a blank ends. -/
def label : Reader String := do
  skip isBlank
  let name := (← get).rest.takeWhile fun c => !isSpace c && c ≠ ';' && c ≠ '\x7d'
  advance name.length
  return String.ofList name

/-- Goes over to the next part of the script, if there is one. -/
def nextPart? : Reader Bool := do
  let state ← get
  match state.later with
  | [] => return false
  | (origin, content) :: later =>
    set { state with origin, rest := content, place := 0, line := 1, later, isFirst := false }
    return true

/-- The lines of an insertion, backwards: a backslash protects the end of a line, also of
a part of the script, and every other character.  `fuel` bounds the characters. -/
def insertedText : (fuel : Nat) → List Char → Reader (List Char)
  | 0, text => return text
  | fuel + 1, text => do
    match ← next with
    | none => return '\n' :: text
    | some '\n' => return '\n' :: text
    | some '\\' =>
      match ← peek with
      | none =>
        if ← nextPart? then insertedText fuel ('\n' :: text) else return '\n' :: text
      | some c =>
        match escape? (← get).rest with
        | some (found, after) =>
          advance ((← get).rest.length - after.length)
          insertedText fuel (found :: text)
        | none =>
          advance 1
          insertedText fuel (c :: text)
    | some c => insertedText fuel (c :: text)

/-- More than the characters of any script. -/
def sizeBound : Reader Nat := do
  let state ← get
  return state.later.foldl (fun n part => n + part.2.length + 2) (2 * state.rest.length + 2)

/-- The text that some commands take: on the same line, or on the lines behind a
backslash.  A text that is not empty ends in a newline. -/
def commandText : Reader (List Char) := do
  let fuel ← sizeBound
  skip isBlank
  match ← peek with
  | none => bad .missingText
  | some '\\' =>
    advance 1
    match ← peek with
    | none =>
      if ← nextPart? then return (← insertedText fuel []).reverse
      else return []
    | some '\n' =>
      advance 1
      return (← insertedText fuel []).reverse
    | some c =>
      advance 1
      return (← insertedText fuel [c]).reverse
  | some _ => return (← insertedText fuel []).reverse

/-- The flags of a substitution; `fuel` bounds them. -/
def substitutionFlags : (fuel : Nat) → Substitution → (foldCase byLines hasNumber : Bool) →
    Reader (Substitution × Bool × Bool)
  | 0, rule, foldCase, byLines, _ => return (rule, foldCase, byLines)
  | fuel + 1, rule, foldCase, byLines, hasNumber => do
    match ← peek with
    | none => return (rule, foldCase, byLines)
    | some c =>
      if c = '\x7d' || c = '#' then return (rule, foldCase, byLines)
      else if c.isDigit then
        if hasNumber then
          advance 1
          bad .severalNumbers
        let n ← number
        if n = 0 then bad .numberZero
        substitutionFlags fuel { rule with first := n } foldCase byLines true
      else
        advance 1
        match c with
        | 'i' => substitutionFlags fuel rule true byLines hasNumber
        | 'I' => substitutionFlags fuel rule true byLines hasNumber
        | 'm' => substitutionFlags fuel rule foldCase true hasNumber
        | 'M' => substitutionFlags fuel rule foldCase true hasNumber
        | 'e' =>
          if (← read).forbids then bad .forbidden
          substitutionFlags fuel { rule with runs := true } foldCase byLines hasNumber
        | 'p' =>
          if rule.prints then bad .severalPrints
          substitutionFlags fuel { rule with prints := true } foldCase byLines hasNumber
        | 'g' =>
          if rule.isGlobal then bad .severalGlobals
          substitutionFlags fuel { rule with isGlobal := true } foldCase byLines hasNumber
        | 'w' =>
          if (← read).forbids then bad .forbidden
          let name ← fileName
          return ({ rule with target := some name }, foldCase, byLines)
        | ' ' => substitutionFlags fuel rule foldCase byLines hasNumber
        | '\n' => return (rule, foldCase, byLines)
        | ';' => return (rule, foldCase, byLines)
        | _ => bad .unknownFlag

def substitution : Reader Action := do
  match ← next with
  | none => bad .openSubstitution
  | some delimiter =>
    if delimiter = '\n' then bad .openSubstitution
    let source ← delimited delimiter true .openSubstitution
    let target ← delimited delimiter false .openSubstitution
    let parts := replacementParts (target.length + 1) target
    let (rule, foldCase, byLines) ← substitutionFlags ((← get).rest.length + 1)
      ⟨none, parts, false, 1, false, false, none⟩ false false false
    let found ← regex source foldCase byLines
    match found with
    | some regex =>
      if groupCount regex < lastGroup parts then bad (.missingGroup (lastGroup parts))
    | none => pure ()
    return .substitute { rule with regex := found }

def exchange : Reader Action := do
  match ← next with
  | none => bad .openExchange
  | some delimiter =>
    let source ← delimited delimiter false .openExchange
    let target ← delimited delimiter false .openExchange
    let left := exchangeSide (source.length + 1) source
    let right := exchangeSide (target.length + 1) target
    if left.length ≠ right.length then bad .unequalSides
    endOfCommand
    return .exchangeChars (left.zip right)

/-- A command that is complete with its letter. -/
def simpleAction? (c : Char) : Option Action :=
  match c with
  | 'd' => some .delete
  | 'D' => some .deleteLine
  | 'p' => some .print
  | 'P' => some .printLine
  | 'n' => some .next
  | 'N' => some .nextLine
  | 'h' => some .hold
  | 'H' => some .holdMore
  | 'g' => some .get
  | 'G' => some .getMore
  | 'x' => some .exchange
  | '=' => some .showNumber
  | 'F' => some .showName
  | 'z' => some .clear
  | _ => none

def fileAction (make : String → Action) : Reader Action := do
  if (← read).forbids then bad .forbidden
  return make (← fileName)

/-- The first numbers of versions that are no newer than this one. -/
def knowsVersion (text : String) : Bool :=
  let numbers := (text.splitOn ".").map fun part => (part.toNat?).getD 0
  match numbers with
  | major :: minor :: _ => major < 4 || (major = 4 && minor ≤ 9)
  | [major] => major ≤ 4
  | [] => true

def action (where_ : Selector) : Reader Action := do
  let isPlaced := where_.start.isSome
  match ← next with
  | none => bad .noCommand
  | some c =>
    match simpleAction? c with
    | some found =>
      endOfCommand
      return found
    | none =>
      match c with
      | '\x7b' =>
        modify fun state => { state with blocks := ⟨state.origin, state.line⟩ :: state.blocks }
        return .openBlock
      | '\x7d' =>
        let state ← get
        if state.blocks.isEmpty then bad .closedBlock
        if isPlaced then bad .placedBlockEnd
        set { state with blocks := state.blocks.drop 1 }
        endOfCommand
        return .closeBlock
      | ':' =>
        if isPlaced then bad .placedLabel
        let name ← label
        if name.isEmpty then bad .missingLabel
        return .label name
      | 's' => substitution
      | 'y' => exchange
      | 'a' => return .append (← commandText)
      | 'i' => return .insert (← commandText)
      | 'c' => return .change (← commandText)
      | 'b' => return .branch (← label)
      | 't' => return .branchIf (← label)
      | 'T' => return .branchUnless (← label)
      | 'r' => fileAction .readFile
      | 'R' => fileAction .readLine
      | 'w' => fileAction .writeFile
      | 'W' => fileAction .writeLine
      | 'e' =>
        if (← read).forbids then bad .forbidden
        skip isBlank
        match ← peek with
        | none => return .run []
        | some '\n' =>
          advance 1
          return .run []
        | some _ => return .run (← insertedText (← sizeBound) []).reverse
      | 'v' =>
        let version ← label
        if !knowsVersion version then bad .newerVersion
        return .nothing
      | _ =>
        if c = 'q' || c = 'Q' then
          if where_.stop.isSome then bad .oneAddress
          skip isBlank
          let status ← number
          endOfCommand
          return if c = 'q' then .quit status else .quitQuietly status
        else if c = 'l' then
          skip isBlank
          let width ← number?
          endOfCommand
          return .showPlainly width
        else bad (.unknownCommand c)

/-- A comment; the first one can ask for quiet. -/
def comment : Reader Unit := do
  let state ← get
  let line := state.rest.takeWhile (· ≠ '\n')
  if state.isFirst && state.place = 1 && line.head? = some 'n' then
    modify fun state => { state with quiet := true }
  advance line.length

/-- The instructions of all parts of a script; `fuel` bounds them. -/
def instructions : (fuel : Nat) → Reader Unit
  | 0 => return
  | fuel + 1 => do
    skip fun c => isSpace c || c = ';'
    match ← peek with
    | none => if ← nextPart? then instructions fuel else return
    | some '#' =>
      advance 1
      comment
      instructions fuel
    | some _ =>
      let selector ← selector
      if selector.start.isSome && (← peek) = some '#' then
        advance 1
        bad .placedComment
      let action ← action selector
      modify fun state => { state with found := ⟨selector, action⟩ :: state.found }
      instructions fuel

end Reader

/-- The instructions of a script, and whether it asks for quiet. -/
def readScript (reading : Reading) (parts : List (ScriptOrigin × List Char)) :
    Except Complaint (List Instruction × Bool) :=
  match parts with
  | [] => .ok ([], false)
  | (origin, content) :: later =>
    let start : ReadState := ⟨origin, content, 0, 1, later, [], [], true, false⟩
    let fuel := parts.foldl (fun n part => n + part.2.length + 2) 2
    match ((Reader.instructions fuel).run reading).run start with
    | .error complaint => .error complaint
    | .ok (_, state) =>
      match state.blocks with
      | block :: _ => .error ⟨block.origin, 0, block.line, .openBlock⟩
      | [] => .ok (state.found.reverse, state.quiet)

def missingLabel? (instructions : List Instruction) : Option String :=
  let labels := instructions.filterMap fun instruction =>
    match instruction.action with
    | .label name => some name
    | _ => none
  instructions.findSome? fun instruction =>
    let name? := match instruction.action with
      | .branch name => some name
      | .branchIf name => some name
      | .branchUnless name => some name
      | _ => none
    name?.filter fun name => !name.isEmpty && !labels.contains name

def writtenFiles (instructions : List Instruction) : List String :=
  (instructions.filterMap fun instruction => match instruction.action with
    | .writeFile name => some name
    | .writeLine name => some name
    | .substitute rule => rule.target
    | _ => none).eraseDups

end Conformance.Tool.Edit
