import Conformance.Shell.Script

/-!
# Scanning

The state in which a script is read, and how its characters are taken.  Lines are
counted as their ends are taken.  A script that is not yet known as a whole can run
out of characters: reading then starts again when there are more.
-/

namespace Conformance.Shell

/-- Which language is read: the common one of all shells, or the larger one. -/
inductive Dialect where
  | standard
  | extended
deriving DecidableEq, Repr, Inhabited

inductive Token where
  | finish
  | newline
  | semicolon
  | background
  | both
  | either
  | pipe
  | opening
  | closing
  | endOfBranch (goesOn tries : Bool)
  | redirection
  | word
  | keyword (text : String)
deriving DecidableEq, Repr, Inhabited

/-- The words with a meaning of their own. -/
def keywords : List String :=
  ["!", "case", "do", "done", "elif", "else", "esac", "fi", "for", "if", "in", "then", "until",
    "while", "\x7b", "\x7d"]

def moreKeywords : List String := ["[[", "]]", "function", "time"]

namespace Token

def shown : Token → String
  | .finish => "end of file"
  | .newline => "newline"
  | .semicolon => "\";\""
  | .background => "\"&\""
  | .both => "\"&&\""
  | .either => "\"||\""
  | .pipe => "\"|\""
  | .opening => "\"(\""
  | .closing => "\")\""
  | .endOfBranch _ _ => "\";;\""
  | .redirection => "redirection"
  | .word => "word"
  | .keyword text => "\"" ++ text ++ "\""

/-- A token as messages of the larger language show it, given the text of a word. -/
def bareText (word : String) : Token → String
  | .finish => "end of file"
  | .newline => "newline"
  | .semicolon => ";"
  | .background => "&"
  | .both => "&&"
  | .either => "||"
  | .pipe => "|"
  | .opening => "("
  | .closing => ")"
  | .endOfBranch _ _ => ";;"
  | .redirection => ">"
  | .word => word
  | .keyword text => text

def endsList : Token → Bool
  | .finish => true
  | .closing => true
  | .endOfBranch _ _ => true
  | .keyword text =>
    ["do", "done", "elif", "else", "esac", "fi", "then", "\x7d"].contains text
  | _ => false

end Token

/-- What the next token is examined for. -/
structure Checks where
  newlines : Bool
  keywords : Bool
  aliases : Bool
  /-- The word ends a text that stands in the lines behind the command. -/
  endMark : Bool
deriving Inhabited

namespace Checks

def nothing : Checks := ⟨false, false, false, false⟩
def command : Checks := ⟨false, true, true, false⟩
def everything : Checks := ⟨true, true, true, false⟩
def afterBranch : Checks := ⟨true, true, false, false⟩
def aliasOnly : Checks := ⟨false, false, true, false⟩
def mark : Checks := ⟨false, false, false, true⟩

def union (a b : Checks) : Checks :=
  ⟨a.newlines || b.newlines, a.keywords || b.keywords, a.aliases || b.aliases,
    a.endMark || b.endMark⟩

end Checks

/-- A text to be read from the lines behind a command. -/
structure Awaited where
  number : Nat
  mark : List Char
  stripsTabs : Bool
  isLiteral : Bool

/-- The text of an alias that is being read. -/
structure Layer where
  name : String
  /-- The place at which the text ends. -/
  finish : Nat
  endsInBlank : Bool

structure Scan where
  dialect : Dialect
  rest : List Char
  isWhole : Bool
  line : Nat
  place : Nat
  isPushedBack : Bool
  last : Token
  word : Word
  redirection : Redirection
  checks : Checks
  awaited : List Awaited
  documents : List (Nat × Word)
  nextDocument : Nat
  aliases : List (String × String)
  layers : List Layer

/-- A script that is about to be read. -/
def Scan.ofText (dialect : Dialect) (text : List Char) (isWhole : Bool) : Scan :=
  { dialect
    rest := text.filter (· ≠ '\x00')
    isWhole
    line := 1
    place := 0
    isPushedBack := false
    last := .newline
    word := []
    redirection := .mk 0 .input []
    checks := .nothing
    awaited := []
    documents := []
    nextDocument := 0
    aliases := []
    layers := [] }

/-- Why reading stops. -/
inductive ScanFault where
  /-- More characters are needed. -/
  | more
  | wrong (line : Nat) (reason : String)

abbrev Read := StateT Scan (Except ScanFault)

namespace Read

def fail {α : Type} (reason : String) : Read α := do
  throw (.wrong (← get).line reason)

def peek : Read (Option Char) := do
  let scan ← get
  match scan.rest with
  | [] => if scan.isWhole then return none else throw .more
  | c :: _ => return some c

def next : Read (Option Char) := do
  let scan ← get
  match scan.rest with
  | [] => if scan.isWhole then return none else throw .more
  | c :: rest =>
    set { scan with
      rest, place := scan.place + 1, line := if c = '\n' then scan.line + 1 else scan.line }
    return some c

/-- Leaves out the ends of lines that go on; `fuel` bounds their number. -/
def skipJoinsFrom : (fuel : Nat) → Read Unit
  | 0 => return
  | fuel + 1 => do
    let scan ← get
    match scan.rest with
    | '\\' :: '\n' :: rest =>
      set { scan with rest, place := scan.place + 2, line := scan.line + 1 }
      skipJoinsFrom fuel
    | ['\\'] => if scan.isWhole then return else throw .more
    | _ => return

/-- More than any script has characters. -/
def bound : Nat := 1000000000

/-- The next character behind ends of lines that go on. -/
def peekJoined : Read (Option Char) := do
  skipJoinsFrom bound
  peek

def nextJoined : Read (Option Char) := do
  skipJoinsFrom bound
  next

/-- Takes the next character if it is a certain one. -/
def accept (c : Char) : Read Bool := do
  if (← peekJoined) = some c then
    let _ ← next
    return true
  else return false

/-- Takes the next character if that is allowed and it is a certain one. -/
def acceptIf (isAllowed : Bool) (c : Char) : Read Bool :=
  if isAllowed then accept c else return false

/-- Takes characters as long as they belong to a class; `fuel` bounds their number. -/
def takeWhile (isPart : Char → Bool) : (fuel : Nat) → (taken : List Char) → Read String
  | 0, taken => return String.ofList taken.reverse
  | fuel + 1, taken => do
    match ← peekJoined with
    | some c =>
      if isPart c then
        let _ ← next
        takeWhile isPart fuel (c :: taken)
      else return String.ofList taken.reverse
    | none => return String.ofList taken.reverse

def isExtended : Read Bool := do return (← get).dialect = .extended

end Read

def isNameStart (c : Char) : Bool := c.isAlpha || c = '_'

def isNameChar (c : Char) : Bool := isNameStart c || c.isDigit

def isName (text : String) : Bool :=
  match text.toList with
  | [] => false
  | c :: rest => isNameStart c && rest.all isNameChar

def isBlank (c : Char) : Bool := c = ' ' || c = '\t'

def isSpecialParameter (c : Char) : Bool :=
  ['@', '*', '#', '?', '-', '$', '!'].contains c

end Conformance.Shell
