import Conformance.Machine.Process
import Conformance.Shell.Integer
import Conformance.Text.Lines
import Conformance.Text.Raw

/-!
# Tools

A tool is a program of the machine other than a shell.  It gathers its output and
writes it in larger pieces; complaints are written at once, behind the output that was
gathered before them.  Arguments and messages are raw texts.
-/

namespace Conformance.Tool

open Machine

/-- What a tool under way has in hand. -/
structure Bench where
  /-- The name by which it was called. -/
  name : String
  environment : List String
  /-- Output that has not been written, latest first. -/
  output : List ByteArray
  size : Nat
  /-- The status with which it will end. -/
  status : Nat
  /-- The status of a tool that could not do its work. -/
  failure : Nat
  /-- Why output could not be written. -/
  broken : Option Fault

/-- The work of a tool; it can be broken off with a status. -/
abbrev Work := Activity Bench Nat

/-- A tool as a function of its arguments. -/
abbrev Utility := List String → Work Unit

def outputLimit : Nat := 4096

namespace Work

/-- Writes the output that was gathered. -/
def flush : Work Unit := do
  let bench ← get
  if !bench.output.isEmpty then
    set { bench with output := [], size := 0 }
    let data := bench.output.reverse.foldl (· ++ ·) .empty
    if bench.broken.isNone then
      match ← Activity.write 1 data with
      | some fault => modify fun bench => { bench with broken := some fault }
      | none => pure ()

def putData (data : ByteArray) : Work Unit := do
  modify fun bench => { bench with
    output := data :: bench.output, size := bench.size + data.size }
  if outputLimit ≤ (← get).size then flush

def put (text : String) : Work Unit := putData (dataOfRaw text)

def putChars (text : List Char) : Work Unit := putData (dataOfChars text)

def putLine (text : String) : Work Unit := putData ((dataOfRaw text).push 10)

def writeError (text : String) : Work Unit := do
  flush
  let _ ← Activity.write 2 (dataOfRaw text)

def warn (text : String) : Work Unit := do
  writeError ((← get).name ++ ": " ++ text ++ "\n")

def setStatus (status : Nat) : Work Unit := modify fun bench => { bench with status }

/-- Complains and goes on; the tool has failed. -/
def complain (text : String) : Work Unit := do
  warn text
  modify fun bench => { bench with status := max bench.status bench.failure }

def fail {α : Type} (text : String) : Work α := do
  warn text
  throw (← get).failure

def hint {α : Type} : Work α := do
  let bench ← get
  writeError ("Try '" ++ bench.name ++ " --help' for more information.\n")
  throw bench.failure

/-- Complains about how the tool was called, and ends. -/
def misuse {α : Type} (text : String) : Work α := do
  warn text
  hint

/-- Lets others go on, so that long computations do not pile up. -/
def breathe : Work Unit := do
  let _ ← Activity.ask (.spend 100)

def environment? (name : String) : Work (Option String) := do
  let bench ← get
  let start := name ++ "="
  return (bench.environment.find? (·.startsWith start)).map fun entry =>
    String.ofList (entry.toList.drop start.length)

/-- Ends the work: what is left of the output is written. -/
def finish : Work Unit := do
  flush
  let bench ← get
  match bench.broken with
  | some fault =>
    let _ ← Activity.write 2 (dataOfRaw (bench.name ++ ": write error: " ++ fault.text ++ "\n"))
    throw bench.failure
  | none => pure ()

def toProcess (work : Work Unit) (bench : Bench) : Process :=
  work bench fun result bench =>
    let status := match result with
      | .ok _ => none
      | .error status => some status
    finish bench fun result bench =>
      match result with
      | .ok _ => .exit (status.getD bench.status)
      | .error failed => .exit failed

end Work

/-! ## Names in messages -/

/-- Whether a shell would take a character for something else, at a place. -/
def isShellMark (place : Nat) (c : Char) : Bool :=
  " !\"$&()*;<=>[^\x60|'\\?".toList.contains c || (place = 0 && (c = '#' || c = '~')) ||
    c.toNat < 32 || 127 ≤ c.toNat

def hiddenEscape (c : Char) : String :=
  match c with
  | '\n' => "\\n"
  | '\t' => "\\t"
  | '\r' => "\\r"
  | '\x07' => "\\a"
  | '\x08' => "\\b"
  | '\x0b' => "\\v"
  | '\x0c' => "\\f"
  | _ =>
    let digits := Nat.toDigits 8 c.toNat
    "\\" ++ String.ofList (List.replicate (3 - digits.length) '0' ++ digits)

def quoted (text : String) : String :=
  let chars := text.toList
  let isHidden (c : Char) : Bool := c.toNat < 32 || 127 ≤ c.toNat
  if chars.contains '\'' && !chars.any (fun c => isHidden c || "\"$\\\x60!".toList.contains c) then
    "\"" ++ text ++ "\""
  else
    let runs := chars.splitBy fun a b => isHidden a = isHidden b
    let shown (run : List Char) : String :=
      if run.any isHidden then "'$'" ++ String.join (run.map hiddenEscape) ++ "'"
      else String.join (run.map fun c => if c = '\'' then "'\\''" else String.singleton c)
    let isLastHidden := (chars.getLast?.map isHidden).getD false
    let parts := runs.zipIdx.map fun (run, place) =>
      if place ≠ 0 && !run.any isHidden then "'" ++ shown run else shown run
    "'" ++ String.join parts ++ (if isLastHidden then "" else "'")

/-- A name in a message, between quotes only where that is needed. -/
def shownName (text : String) : String :=
  let needs := text.isEmpty || text.toList.zipIdx.any fun (c, place) =>
    isShellMark place c || c = ':'
  if needs then quoted text else text

/-- A text between quotes, with what cannot be shown escaped. -/
def plainQuoted (text : String) : String :=
  "'" ++ String.join (text.toList.map fun c =>
    if c = '\'' then "\\'" else if c = '\\' then "\\\\"
    else if c.toNat < 32 || 127 ≤ c.toNat then hiddenEscape c else String.singleton c) ++ "'"

/-! ## Options -/

/-- Which options a tool has. -/
structure Rules where
  /-- Letters of options without a value. -/
  flags : List Char
  /-- Letters of options with a value. -/
  valued : List Char
  /-- Letters of options whose value may be missing. -/
  optional : List Char
  /-- Long names and the letters they stand for. -/
  names : List (String × Char)
  /-- Whether options may follow operands. -/
  anywhere : Bool

/-- Options by their letters, with their values, in order; and the operands. -/
structure Options where
  given : List (Char × String)
  operands : List String

namespace Options

def has (options : Options) (letter : Char) : Bool := options.given.any (·.1 = letter)

def value? (options : Options) (letter : Char) : Option String :=
  (options.given.reverse.find? (·.1 = letter)).map (·.2)

def values (options : Options) (letter : Char) : List String :=
  (options.given.filter (·.1 = letter)).map (·.2)

def last? (options : Options) (letters : List Char) : Option Char :=
  (options.given.reverse.find? fun (letter, _) => letters.contains letter).map (·.1)

end Options

namespace Rules

/-- Options of a tool that has single letters only. -/
def plain (flags valued : String) : Rules := ⟨flags.toList, valued.toList, [], [], true⟩

/-- The letters of one word: options, and the letter whose value is the next word; or
what is wrong. -/
def letters (rules : Rules) : List Char → List (Char × String) × Except String (Option Char)
  | [] => ([], .ok none)
  | c :: rest =>
    if rules.valued.contains c then
      if rest.isEmpty then ([], .ok (some c)) else ([(c, String.ofList rest)], .ok none)
    else if rules.optional.contains c then ([(c, String.ofList rest)], .ok none)
    else if rules.flags.contains c then
      let (more, result) := letters rules rest
      ((c, "") :: more, result)
    else ([], .error ("invalid option -- '" ++ String.singleton c ++ "'"))

/-- The long name that a text abbreviates; `word` is all that was written. -/
def longName (rules : Rules) (word key : String) : Except String (String × Char) :=
  match rules.names.find? (·.1 = key) with
  | some found => .ok found
  | none =>
    let fitting := rules.names.filter fun (name, _) => key.toList.isPrefixOf name.toList
    match fitting with
    | [] => .error ("unrecognized option '" ++ word ++ "'")
    | first :: others =>
      if others.all (·.2 = first.2) then .ok first
      else .error ("option '" ++ word ++ "' is ambiguous; possibilities:" ++
        String.join (fitting.map fun (name, _) => " '--" ++ name ++ "'"))

/-- Reads words into options, up to the first mistake; `fuel` bounds the words.  The
result is the options in reverse, the operands in reverse and the mistake. -/
def readFrom (rules : Rules) : (fuel : Nat) → List (Char × String) → (operands : List String) →
    List String → List (Char × String) × List String × Option String
  | 0, given, operands, _ => (given, operands, none)
  | _ + 1, given, operands, [] => (given, operands, none)
  | fuel + 1, given, operands, word :: rest =>
    match word.toList with
    | ['-', '-'] => (given, rest.reverse ++ operands, none)
    | '-' :: '-' :: name =>
      let key := String.ofList (name.takeWhile (· ≠ '='))
      let value : Option String := if name.contains '=' then
          some (String.ofList ((name.dropWhile (· ≠ '=')).drop 1))
        else none
      match rules.longName word key with
      | .error message => (given, operands, some message)
      | .ok (full, letter) =>
        if rules.valued.contains letter then
          match value, rest with
          | some text, _ => readFrom rules fuel ((letter, text) :: given) operands rest
          | none, text :: others => readFrom rules fuel ((letter, text) :: given) operands others
          | none, [] => (given, operands, some ("option '--" ++ full ++ "' requires an argument"))
        else if value.isSome && !rules.optional.contains letter then
          (given, operands, some ("option '--" ++ full ++ "' doesn't allow an argument"))
        else readFrom rules fuel ((letter, value.getD "") :: given) operands rest
    | '-' :: c :: more =>
      let (found, result) := rules.letters (c :: more)
      let now := found.reverse ++ given
      match result with
      | .error message => (now, operands, some message)
      | .ok none => readFrom rules fuel now operands rest
      | .ok (some letter) =>
        match rest with
        | text :: others => readFrom rules fuel ((letter, text) :: now) operands others
        | [] => (now, operands,
            some ("option requires an argument -- '" ++ String.singleton letter ++ "'"))
    | _ =>
      if rules.anywhere then readFrom rules fuel given (word :: operands) rest
      else (given, rest.reverse ++ word :: operands, none)

end Rules

/-- Reads the words of a tool.  Every option is looked at by `check`, in order, before
a mistake in the words counts. -/
def readOptions (rules : Rules) (check : Char → String → Work Unit) (words : List String) :
    Work Options := do
  let (given, operands, mistake) := rules.readFrom (words.length + 1) [] [] words
  for (letter, value) in given.reverse do
    check letter value
  match mistake with
  | some message => Work.misuse message
  | none => return ⟨given.reverse, operands.reverse⟩

/-- Reads the words of a tool whose options need no check. -/
def plainOptions (rules : Rules) (words : List String) : Work Options :=
  readOptions rules (fun _ _ => pure ()) words

/-- The one of some choices that a text names or abbreviates.  Every choice may have
several names, of which the first counts. -/
def choice (option value : String) (choices : List (List String)) : Work String := do
  let exact := choices.filter (·.contains value)
  let fitting := choices.filter (·.any fun name => value.toList.isPrefixOf name.toList)
  match exact ++ fitting with
  | [] =>
    Work.warn ("invalid argument " ++ quoted value ++ " for " ++ quoted option)
  | first :: _ =>
    if !exact.isEmpty || fitting.length = 1 then return first.headD ""
    Work.warn ("ambiguous argument " ++ quoted value ++ " for " ++ quoted option)
  Work.writeError "Valid arguments are:\n"
  for names in choices do
    Work.writeError ("  - " ++ String.intercalate ", " (names.map quoted) ++ "\n")
  Work.writeError ("Try '" ++ (← get).name ++ " --help' for more information.\n")
  throw 1

/-! ## Numbers -/

/-- The value of decimal digits, if there is nothing else. -/
def natural? (text : List Char) : Option Nat :=
  if text.isEmpty || !text.all Char.isDigit then none
  else some (text.foldl (fun n c => n * 10 + (c.toNat - '0'.toNat)) 0)

/-- What a unit behind a count multiplies it by. -/
def unitScale? (unit : String) : Option Nat :=
  match unit with
  | "" => some 1
  | "b" => some 512
  | "k" => some 1024
  | "w" => some 2
  | "c" => some 1
  | _ =>
    let powers := "KMGTPEZY".toList
    match unit.toList with
    | letter :: rest =>
      let place := powers.findIdx (· = (if letter = 'k' then 'K' else letter))
      if powers.length ≤ place then none
      else if rest.isEmpty || rest = ['i', 'B'] then some (Nat.pow 1024 (place + 1))
      else if rest = ['B'] then some (Nat.pow 1000 (place + 1))
      else none
    | [] => none

/-- A count with a unit such as `K` or `b` behind it. -/
def sizeCount? (text : List Char) : Option Nat := do
  let digits := text.takeWhile Char.isDigit
  let number ← natural? digits
  let scale ← unitScale? (String.ofList (text.drop digits.length))
  some (number * scale)

def padLeft (width : Nat) (text : String) : String :=
  String.ofList (List.replicate (width - text.length) ' ') ++ text

def padRight (width : Nat) (text : String) : String :=
  text ++ String.ofList (List.replicate (width - text.length) ' ')

/-- The pieces of a text between marks; the empty text has one empty piece. -/
def splitAtMark (mark : Char) (text : List Char) : List (List Char) :=
  let (done, current) := text.foldl (fun (done, current) c =>
    if c = mark then (current.reverse :: done, ([] : List Char)) else (done, c :: current))
    (([] : List (List Char)), ([] : List Char))
  (current.reverse :: done).reverse

end Conformance.Tool
