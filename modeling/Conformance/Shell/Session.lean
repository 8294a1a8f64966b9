import Conformance.Machine.Process
import Conformance.Shell.Grammar
import Conformance.Shell.Integer
import Conformance.Text.Raw

/-!
# Sessions

What a running shell knows: its parameters and functions, the script it reads, its
options, the signals it prepares for and the processes it has started.  A shell is an
activity on a session.  It is broken off when the script ends, by itself or because
of a mistake.
-/

namespace Conformance.Shell

open Machine

/-- What a variable holds. -/
inductive Value where
  | scalar (text : String)
  | indexed (items : List (Nat × String))
  | keyed (items : List (String × String))
deriving Repr, DecidableEq

/-- The text that an array stands for by itself. -/
def Value.text? : Value → Option String
  | .scalar text => some text
  | .indexed items => items.lookup 0
  | .keyed items => items.lookup "0"

structure Variable where
  value : Option Value
  isExported : Bool
  isFixed : Bool
  /-- Whether values are computed as numbers. -/
  isNumber : Bool
deriving Repr, DecidableEq

def Variable.none : Variable := ⟨Option.none, false, false, false⟩

/-- Which commands are passed over. -/
inductive Skip where
  | nothing
  | breaks (levels : Nat)
  | continues (levels : Nat)
  /-- The rest of a function; `isExplicit` tells whether a status was given. -/
  | function (isExplicit : Bool)
deriving DecidableEq, Repr

/-- Whether commands are passed over for good, and not only up to the next round. -/
def Skip.leavesLoop : Skip → Bool
  | .nothing => false
  | .continues _ => false
  | _ => true

/-- A process of a job and how it has ended. -/
structure Member where
  process : Nat
  ending : Option Exit

structure Job where
  /-- The number by which the job is known. -/
  number : Nat
  members : List Member
  /-- Whether somebody has asked for its end. -/
  isAwaited : Bool

def Job.isDone (job : Job) : Bool := job.members.all (·.ending.isSome)

/-- The descriptors that a command has replaced, with what they were: a copy, or
nothing if they were closed. -/
abbrev Replaced := List (Nat × Option Nat)

/-- Where more of a script comes from. -/
structure Source where
  scan : Scan
  /-- The descriptor from which the script is read as it runs. -/
  descriptor : Option Nat

/-- A program that was found by its name. -/
structure Tracked where
  name : String
  path : String
  /-- How often it was started. -/
  uses : Nat
  /-- Whether it is to be looked for again. -/
  isStale : Bool

structure Session where
  dialect : Dialect
  /-- The name of the shell or script. -/
  name : String
  /-- The command that is running, if messages name it. -/
  command : Option String
  /-- The line that messages show. -/
  line : Nat
  bindings : List (String × Variable)
  functions : List (String × Nat × Option Command)
  /-- Where the function that runs was defined, and its name. -/
  callers : List String
  aliases : List (String × String)
  arguments : List String
  /-- The letters of the options in force. -/
  options : List Char
  /-- The names of further options in force. -/
  settings : List String
  status : Nat
  /-- The status of the last command whose output was taken. -/
  substituted : Nat
  skip : Skip
  loops : Nat
  /-- How many functions and files surround the current command. -/
  depth : Nat
  /-- Actions by signal number; zero stands for the end of the shell. -/
  traps : List (Nat × String)
  /-- Signals that were ignored from the start. -/
  ignored : List Nat
  jobs : List Job
  lastJob : Option Nat
  process : Nat
  parent : Nat
  /-- Whether this is no subshell. -/
  isOutermost : Bool
  /-- Values to bring back, one list for every function or command under way. -/
  frames : List (List (String × Option Variable))
  replaced : List Replaced
  source : Source
  documents : List (Nat × Word)
  nextDocument : Nat
  /-- Signals that have come and wait for their actions. -/
  pending : List Nat
  /-- The place of the argument from which the next option is taken, counted from one. -/
  optionIndex : Nat
  /-- How far options have been taken from a word. -/
  optionPlace : Option Nat
  /-- Where programs were found before. -/
  hashed : List Tracked
  /-- The status with which the shell ends while an action for a signal runs. -/
  saved : Option Nat
  directory : String
  /-- What the current command has put out and not yet written. -/
  output : List String
  /-- The start of the clock that the script can see. -/
  started : Nat
  /-- Descriptors that are open for commands inside of words. -/
  channels : List Nat

/-- Why a shell is broken off; the status is in the session. -/
inductive Stop where
  | mistake
  | leave
deriving DecidableEq, Repr, Inhabited

abbrev Sh := Activity Session Stop

/-- The time a command of the shell itself takes. -/
def builtinCost : Nat := 3000

namespace Session

def has (session : Session) (letter : Char) : Bool := session.options.contains letter

def withStatus (session : Session) (status : Nat) : Session := { session with status }

def lookup? (session : Session) (name : String) : Option Variable :=
  session.bindings.lookup name

def text? (session : Session) (name : String) : Option String :=
  ((session.lookup? name).bind (·.value)).bind Value.text?

/-- Replaces a variable, or adds it at the end. -/
def putVariable (name : String) (item : Variable) :
    List (String × Variable) → List (String × Variable)
  | [] => [(name, item)]
  | entry :: rest =>
    if entry.1 = name then (name, item) :: rest else entry :: putVariable name item rest

def setVariable (session : Session) (name : String) (item : Variable) : Session :=
  let changed := { session with bindings := putVariable name item session.bindings }
  if name = "OPTIND" then
    let index := (item.value.bind Value.text?).bind fun text => (digitsAt 10 text.toList).1
    { changed with optionIndex := max 1 (index.getD 1), optionPlace := none }
  else if name = "PATH" then { changed with hashed := [] }
  else changed

/-- Gives a variable a text; whether it is exported stays. -/
def assign (session : Session) (name text : String) : Session :=
  let known := (session.lookup? name).getD .none
  let value : Value := match known.value with
    | some (.indexed items) => .indexed ((0, text) :: items.filter (·.1 ≠ 0))
    | some (.keyed items) => .keyed (items.filter (·.1 ≠ "0") ++ [("0", text)])
    | _ => .scalar text
  session.setVariable name
    { known with value := some value, isExported := known.isExported || session.has 'a' }

def removeVariable (session : Session) (name : String) : Session :=
  { session with
    bindings := session.bindings.filter (·.1 ≠ name)
    hashed := if name = "PATH" then [] else session.hashed }

/-- Brings a variable back to what it was; a hyphen stands for the options. -/
def restore (session : Session) (name : String) : Option Variable → Session
  | some item =>
    if name = "-" then
      { session with options := ((item.value.bind Value.text?).getD "").toList }
    else session.setVariable name item
  | none => session.removeVariable name

/-- Notes what a variable is, to be brought back at the end of the innermost frame. -/
def remember (session : Session) (name : String) : Session :=
  match session.frames with
  | frame :: others =>
    if frame.any (·.1 = name) then session
    else { session with frames := ((name, session.lookup? name) :: frame) :: others }
  | [] => session

def pushFrame (session : Session) : Session := { session with frames := [] :: session.frames }

def popFrame (session : Session) : Session :=
  match session.frames with
  | frame :: others =>
    frame.foldl (fun session (name, old) => session.restore name old)
      { session with frames := others }
  | [] => session

/-- The place of a name in the table in which a shell keeps its variables. -/
def bucket (name : String) : Nat :=
  let codes := name.toList.map Char.toNat
  (codes.headD 0 * 16 + codes.foldl (· + ·) 0) % 39

/-- A number that stands for a text in tables of the larger language. -/
def textHash (text : String) : Nat :=
  (text.toList.map Char.toNat).foldl
    (fun hash code => Nat.xor (hash * 16777619 % 4294967296) code) 2166136261

/-- Entries in the order of a table with 1024 places, in each of which the latest comes
first. -/
def inTableOrder {α : Type} (entries : List (String × α)) : List (String × α) :=
  entries.reverse.mergeSort fun a b => textHash a.1 % 1024 ≤ textHash b.1 % 1024

/-- The place of a name in the table in which a shell keeps the programs it has found. -/
def trackedBucket (dialect : Dialect) (name : String) : Nat :=
  let codes := name.toList.map Char.toNat
  match dialect with
  | .standard => (codes.headD 0 * 16 + codes.foldl (· + ·) 0) % 32768 % 31
  | .extended => textHash name % 256

/-- The programs found, in the order in which they are listed. -/
def tracked (session : Session) : List Tracked :=
  let place (item : Tracked) : Nat := trackedBucket session.dialect item.name
  let items := match session.dialect with
    | .standard => session.hashed
    | .extended => session.hashed.reverse
  items.mergeSort fun a b => place a ≤ place b

def tracked? (session : Session) (name : String) : Option Tracked :=
  session.hashed.find? (·.name = name)

/-- Remembers where a program was found, and that it was started so often. -/
def track (session : Session) (name path : String) (uses : Nat) : Session :=
  if (session.tracked? name).isSome then
    { session with hashed := session.hashed.map fun item =>
        if item.name = name then ⟨name, path, item.uses + uses, false⟩ else item }
  else { session with hashed := session.hashed ++ [⟨name, path, uses, false⟩] }

def untrack (session : Session) (name : String) : Session :=
  { session with hashed := session.hashed.filter (·.name ≠ name) }

def environment (session : Session) : List String :=
  let exported := session.bindings.filterMap fun (name, item) =>
    match item.value with
    | some (.scalar text) => if item.isExported then some (name, text) else none
    | _ => none
  let ordered := match session.dialect with
    | .standard => exported.mergeSort fun a b => bucket a.1 ≤ bucket b.1
    | .extended => inTableOrder exported
  ordered.map fun (name, text) => name ++ "=" ++ text

def separators (session : Session) : List Char :=
  match session.text? "IFS" with
  | some text => text.toList
  | none => [' ', '\t', '\n']

/-- What stands between arguments that are joined. -/
def glue (session : Session) : String :=
  match session.text? "IFS" with
  | some text => match text.toList with
    | c :: _ => String.singleton c
    | [] => ""
  | none => " "

end Session

namespace Sh

def put (text : String) : Sh Unit :=
  modify fun session => { session with output := text :: session.output }

def writeTo (descriptor : Nat) (text : String) : Sh (Option Fault) :=
  Activity.write descriptor (dataOfRaw text)

/-- Writes what the current command has put out; tells whether that failed. -/
def flush : Sh Bool := do
  let session ← get
  if session.output.isEmpty then return false
  else
    set { session with output := [] }
    let data := session.output.reverse.foldl (fun data text => data ++ dataOfRaw text) .empty
    return (← Activity.write 1 data).isSome

def messageStart (session : Session) : String :=
  let behind := match session.command with
    | some command => command ++ ": "
    | none => ""
  match session.dialect with
  | .standard => session.name ++ ": " ++ toString session.line ++ ": " ++ behind
  | .extended => session.name ++ ": line " ++ toString session.line ++ ": " ++ behind

def warn (text : String) : Sh Unit := do
  let _ ← writeTo 2 (messageStart (← get) ++ text ++ "\n")

def setStatus (status : Nat) : Sh Unit := modify (·.withStatus status)

/-- Says what went wrong and breaks off. -/
def fail {α : Type} (text : String) : Sh α := do
  warn text
  setStatus 2
  throw .mistake

def textOf (name : String) : Sh String := do return ((← get).text? name).getD ""

/-- Gives a variable a text, unless it is fixed. -/
def assign (name text : String) : Sh Unit := do
  let session ← get
  if ((session.lookup? name).map (·.isFixed)).getD false then
    match session.dialect with
    | .standard => fail (name ++ ": is read only")
    | .extended =>
      set { session with command := none }
      warn (name ++ ": readonly variable")
      setStatus 1
      throw .mistake
  else set (session.assign name text)

def statusOf : Exit → Nat
  | .status code => code
  | .signal number => 128 + number

end Sh

end Conformance.Shell
