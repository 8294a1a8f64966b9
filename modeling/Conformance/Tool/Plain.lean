import Conformance.Shell.Printf
import Conformance.Shell.Test
import Conformance.Tool.Basic

/-!
# Plain tools

Tools that put out a text, or tell something by their status.
-/

namespace Conformance.Tool

open Machine Shell

/-- A tool that does nothing but end with a status. -/
def constant (status : Nat) : Utility := fun _ => Work.setStatus status

def echo : Utility := fun words => Work.putChars (echoPlainText words)

def numberComplaint (message : String) : String :=
  let reason := message.toList.reverse.takeWhile (· ≠ ':') |>.reverse
  let argument := String.ofList (message.toList.take (message.length - reason.length - 1))
  plainQuoted argument ++ ":" ++ (match String.ofList reason with
    | " expected numeric value" => " expected a numeric value"
    | " not completely converted" => " value not completely converted"
    | other => other)

def printf : Utility := fun words => do
  let words := if words.head? = some "--" then words.drop 1 else words
  match words with
  | [] => Work.misuse "missing operand"
  | pattern :: values =>
    let result := format pattern values
    for item in result.printed do
      match item with
      | .text content => Work.putChars content
      | .warning message => Work.complain (numberComplaint message)
    match result.failure with
    | some message =>
      let directive := String.ofList (message.toList.takeWhile (· ≠ ':'))
      Work.fail ((if message.startsWith "missing" then "%" else directive) ++
        ": invalid conversion specification")
    | none =>
      let used := (format pattern []).printed.length
      if !pattern.toList.contains '%' && used ≤ result.printed.length then
        match values with
        | first :: _ =>
          Work.warn ("warning: ignoring excess arguments, starting with " ++ plainQuoted first)
        | [] => pure ()

/-! ## Tests -/

abbrev Condition := Activity (List String) String

namespace Condition

def isBinary (word : String) : Bool := binaryTests.contains word

def isUnary (word : String) : Bool :=
  match word.toList with
  | ['-', _] => true
  | _ => false

def missing {α : Type} (all : List String) : Condition α :=
  throw ("missing argument after " ++ plainQuoted (all.getLastD ""))

def binary (operator left right : String) : Condition Bool :=
  tryCatch (Test.binary operator left right) fun message =>
    if message.startsWith "Illegal number: " then
      throw ("invalid integer " ++ plainQuoted (String.ofList (message.toList.drop 16)))
    else throw message

def unary (operator operand : String) : Condition Bool := do
  if !unaryTests.contains operator then
    throw (plainQuoted operator ++ ": unary operator expected")
  tryCatch (Test.unary operator operand) fun message =>
    throw ("invalid integer " ++ plainQuoted (String.ofList (message.toList.drop 16)))

/-- Conditions of any length; `all` are the words from the start, and `level` tells what
binds them: zero a single condition, one `-a`, two `-o`. -/
def general (all : List String) : (fuel level : Nat) → Condition Bool
  | 0, _ => missing all
  | fuel + 1, 0 => do
    match ← get with
    | [] => missing all
    | "!" :: rest =>
      set rest
      return !(← general all fuel 0)
    | "(" :: rest =>
      set rest
      let inner ← general all fuel 2
      match ← get with
      | ")" :: more =>
        set more
        return inner
      | [] => throw (plainQuoted ")" ++ " expected")
      | other :: _ => throw (plainQuoted ")" ++ " expected, found " ++ other)
    | left :: operator :: right :: rest =>
      if isBinary operator then
        set rest
        binary operator left right
      else if isUnary left then
        set (right :: rest)
        unary left operator
      else
        set (operator :: right :: rest)
        return !left.isEmpty
    | [left, operand] =>
      if isUnary left then
        set ([] : List String)
        unary left operand
      else
        set [operand]
        return !left.isEmpty
    | [only] =>
      set ([] : List String)
      return !only.isEmpty
  | fuel + 1, level + 1 => do
    let first ← general all fuel level
    match ← get with
    | operator :: rest =>
      if operator = (if level = 0 then "-a" else "-o") then
        set rest
        let second ← general all fuel (level + 1)
        return if level = 0 then first && second else first || second
      else return first
    | [] => return first

/-- A whole condition: with few words their number decides. -/
def whole (all : List String) : (fuel : Nat) → List String → Condition Bool
  | 0, _ => missing all
  | fuel + 1, words => do
    let long : Condition Bool := do
      set words
      let result ← general all (4 * words.length + 8) 2
      match ← get with
      | extra :: _ => throw ("extra argument " ++ plainQuoted extra)
      | [] => return result
    match words with
    | [] => return false
    | [only] => return !only.isEmpty
    | ["!", only] => return only.isEmpty
    | [operator, operand] => if isUnary operator then unary operator operand else missing all
    | [left, operator, right] =>
      if isBinary operator then binary operator left right
      else if left = "!" then return !(← whole all fuel [operator, right])
      else if left = "(" && right = ")" then return !operator.isEmpty
      else if operator = "-a" || operator = "-o" then long
      else throw (plainQuoted operator ++ ": binary operator expected")
    | ["!", a, b, c] => return !(← whole all fuel [a, b, c])
    | ["(", a, b, ")"] => whole all fuel [a, b]
    | _ => long

def decide (words : List String) : Work Unit := do
  let result : Except String Bool ← fun bench k =>
    whole words (words.length + 1) words [] fun result _ => k (.ok result) bench
  match result with
  | .ok truth => Work.setStatus (if truth then 0 else 1)
  | .error message =>
    Work.warn message
    throw 2

end Condition

def test : Utility := Condition.decide

def bracket : Utility := fun words => do
  if words.getLast? = some "]" then Condition.decide words.dropLast
  else
    Work.warn "missing ']'"
    throw 2

/-! ## What is known of the machine -/

def pwd : Utility := fun words => do
  let options ← plainOptions ⟨['L', 'P'], [], [], [("logical", 'L'), ("physical", 'P')], true⟩ words
  if !options.operands.isEmpty then Work.warn "ignoring non-option arguments"
  match ← Activity.workingDirectory with
  | .ok path => Work.putLine path
  | .error fault => Work.fail ("couldn't find directory entry: " ++ fault.text)

def oneLine (line : String) : Utility := fun words => do
  let options ← plainOptions (.plain "" "") words
  match options.operands with
  | extra :: _ => Work.misuse ("extra operand " ++ plainQuoted extra)
  | [] => Work.putLine line

def userName : String := "root"
def userNumber : String := "0"

def identity : Utility := fun words => do
  let options ← plainOptions ⟨"ugGnrza".toList, [], [], [("user", 'u'), ("group", 'g'),
    ("groups", 'G'), ("name", 'n'), ("real", 'r'), ("zero", 'z')], true⟩ words
  match options.operands with
  | name :: _ =>
    if name ≠ userName then Work.fail (plainQuoted name ++ ": no such user")
  | [] => pure ()
  if options.has 'n' then Work.putLine userName
  else if options.has 'u' || options.has 'g' || options.has 'G' then Work.putLine userNumber
  else
    let both := userNumber ++ "(" ++ userName ++ ")"
    Work.putLine ("uid=" ++ both ++ " gid=" ++ both ++ " groups=" ++ both)

def uname : Utility := fun words => do
  let options ← plainOptions ⟨"asnrvmpio".toList, [], [], [("all", 'a'), ("kernel-name", 's'),
    ("nodename", 'n'), ("kernel-release", 'r'), ("kernel-version", 'v'), ("machine", 'm'),
    ("processor", 'p'), ("hardware-platform", 'i'), ("operating-system", 'o')], true⟩ words
  match options.operands with
  | extra :: _ => Work.misuse ("extra operand " ++ plainQuoted extra)
  | [] => pure ()
  let parts := [('s', "Linux"), ('n', "localhost"), ('r', "6.1.0"), ('v', "#1 SMP"),
    ('m', "x86_64"), ('p', "x86_64"), ('i', "x86_64"), ('o', "GNU/Linux")]
  let chosen := if options.has 'a' then parts.map (·.2)
    else if options.given.isEmpty then ["Linux"]
    else (parts.filter fun (letter, _) => options.has letter).map (·.2)
  Work.putLine (String.intercalate " " chosen)

def tty : Utility := fun words => do
  let options ← plainOptions ⟨['s'], [], [], [("silent", 's'), ("quiet", 's')], true⟩ words
  if !options.has 's' then Work.putLine "not a tty"
  Work.setStatus 1

/-- How much `yes` writes at once. -/
def repeatedSize : Nat := 8192

/-- Writes the same data as long as somebody takes it; `fuel` bounds the rounds. -/
def writeForever (data : ByteArray) : (fuel : Nat) → Work Unit
  | 0 => return
  | fuel + 1 => do
    match ← Activity.write 1 data with
    | some fault => Work.fail ("standard output: " ++ fault.text)
    | none => writeForever data fuel

/-- Puts out a line again and again. -/
def yes : Utility := fun words => do
  let options ← plainOptions ⟨[], [], [], [], true⟩ words
  let words := options.operands
  let line := (if words.isEmpty then "y" else String.intercalate " " words) ++ "\n"
  let count := max 1 (repeatedSize / line.length)
  let data := (List.range count).foldl (fun data _ => data ++ dataOfRaw line) .empty
  writeForever data 1000000000

end Conformance.Tool
