import Conformance.Tool.Launch
import Conformance.Tool.Records.Expression
import Conformance.Tool.Records.Script
import Conformance.Tool.Records.Table

/-!
# State of a script for records

Variables and arrays, the record with its fields, and what is read and written.  What is
written to files and commands waits until there is enough of it, until it is closed, or
until the script ends.
-/

namespace Conformance.Tool.Records

open Machine Shell

/-- A parameter of a function: its value, and the array it stands for. -/
structure Local where
  name : String
  value : Value
  table : Nat

/-- Something that is read record by record. -/
structure Reader where
  descriptor : Nat
  buffer : List Char
  isOver : Bool
  /-- How much is read at once. -/
  chunk : Nat
  /-- The command whose output it is. -/
  process : Option Nat

namespace Reader

def firstChunk : Nat := 4096

def ofDescriptor (descriptor : Nat) (process : Option Nat) : Reader :=
  ⟨descriptor, [], false, firstChunk, process⟩

end Reader

/-- Something that is written to. -/
structure Writer where
  descriptor : Nat
  /-- What waits, backwards. -/
  waiting : List ByteArray
  size : Nat
  /-- The command whose input it is. -/
  process : Option Nat

structure State where
  bench : Bench
  globals : Std.TreeMap String Value compare
  arrays : Std.TreeMap String Nat compare
  tables : Std.TreeMap Nat Table compare
  nextTable : Nat
  frames : List (List Local)
  record : Value
  fields : Array Value
  /-- What is left of the operand that is read. -/
  current : Option Reader
  /-- The place of the next operand. -/
  place : Nat
  /-- Whether an operand has named a file, or the input was taken instead. -/
  hasRead : Bool
  /-- Files and commands that are read, by their names. -/
  readers : List (String × Reader)
  /-- Files and commands that are written to, by their names, latest use first. -/
  writers : List (String × Writer)
  /-- Rules whose range is under way. -/
  ranges : List Nat
  /-- What the numbers by chance were begun with, and what the next one is made of. -/
  seed : Value
  chance : Nat
  status : Nat

/-- Why a statement does not lead to the next one. -/
inductive Leap where
  | nextRecord
  | nextFile
  | exit
  | returned (value : Value)
  | broke
  | continued
  | stop (status : Nat)

abbrev Run := Activity State Leap

namespace State

def global (state : State) (name : String) : Value := state.globals.getD name .unset

def globalText (state : State) (name : String) : List Char :=
  (state.global name).toText "%.6g".toList

def format (state : State) : List Char := state.globalText "CONVFMT"

/-- The parameter with a name in the function that runs. -/
def local? (state : State) (name : String) : Option Local :=
  match state.frames with
  | frame :: _ => frame.find? (·.name = name)
  | [] => none

end State

/-- What ends a record. -/
inductive Separator where
  | char (c : Char)
  | paragraph
  | regex (regex : Regex)

/-- What stands at the start of a text of which there may be more. -/
inductive Cut where
  | record (content rest : List Char)
  | more
  | over

/-- The lines up to an empty one, backwards, and what follows it. -/
def paragraphAt : List Char → List Char → Option (List Char × List Char)
  | _, [] => none
  | done, '\n' :: '\n' :: rest => some (done.reverse, rest.dropWhile (· = '\n'))
  | done, c :: rest => paragraphAt (c :: done) rest

/-- Cuts the first record off a text; `isOver` tells that there is no more of it. -/
def Separator.cut (separator : Separator) (isOver : Bool) (text : List Char) : Cut :=
  match separator with
  | .char c =>
    match text.span (· ≠ c) with
    | (front, _ :: rest) => .record front rest
    | (_, []) => if !isOver then .more else if text.isEmpty then .over else .record text []
  | .paragraph =>
    let start := text.dropWhile (· = '\n')
    match paragraphAt [] start with
    | some (content, rest) =>
      if rest.isEmpty && !isOver then .more else .record content rest
    | none =>
      if !isOver then .more
      else if start.isEmpty then .over
      else .record (if start.getLast? = some '\n' then start.dropLast else start) []
  | .regex ending =>
    let whole : Cut := if !isOver then .more
      else if text.isEmpty then .over else .record text []
    match (ending.findAll text).find? fun found => found.start < found.finish with
    | some found =>
      if found.finish < text.length || isOver then
        .record (text.take found.start) (text.drop found.finish)
      else .more
    | none => whole

namespace Run

def ofWork {α : Type} (work : Work α) : Run α := fun state next =>
  work state.bench fun result bench =>
    match result with
    | .ok a => next (.ok a) { state with bench }
    | .error status => next (.error (.stop status)) { state with bench }

instance : MonadLift Work Run := ⟨ofWork⟩

/-- Writes a message to the errors, without what was put out before. -/
def report (text : String) : Run Unit := do
  let _ ← Activity.write 2 (dataOfRaw ((← get).bench.name ++ ": " ++ text ++ "\n"))

def panic {α : Type} (text : String) : Run α := do
  report text
  throw (.stop 2)

/-- Complains about what the script does, and ends. -/
def fault {α : Type} (message : String) : Run α := do
  let state ← get
  let shown (name : String) : String := String.ofList (state.globalText name)
  panic ("run time error: " ++ message ++ "\n\tFILENAME=\"" ++ shown "FILENAME" ++ "\" FNR=" ++
    shown "FNR" ++ " NR=" ++ shown "NR")

/-- The expression that a text spells. -/
def regexOf (source : List Char) : Run Regex := do
  match expressionOf source with
  | .ok regex => return regex
  | .error wrong => fault ("regular expression compile failed (" ++ wrong.message ++ ")\n" ++
      String.ofList source)

/-! ## Fields -/

/-- The texts of fields with the separator for output between them. -/
def joinedFields (state : State) (fields : Array Value) : List Char :=
  (state.globalText "OFS").intercalate (fields.toList.map (·.toText state.format))

def wordsOf (text : List Char) : List (List Char) :=
  (text.splitBy fun a b => isSpaceChar a = isSpaceChar b).filter fun run =>
    !run.any isSpaceChar

def piecesBetween (text : List Char) : (start : Nat) → List Match → List (List Char)
  | start, [] => [text.drop start]
  | start, found :: rest =>
    (text.drop start).take (found.start - start) :: piecesBetween text found.finish rest

/-- Cuts a text at the matches of an expression that are not empty. -/
def splitAtMatches (regex : Regex) (text : List Char) : List (List Char) :=
  if text.isEmpty then []
  else piecesBetween text 0 ((regex.findAll text).filter fun found => found.start < found.finish)

def splitText (separator text : List Char) : Run (List (List Char)) := do
  if text.isEmpty then return []
  match separator with
  | [' '] => return wordsOf text
  | [] => return text.map fun c => [c]
  | [c] => return splitAtMark c text
  | _ => return splitAtMatches (← regexOf separator) text

/-- Cuts the record into fields; between paragraphs, newlines separate as well. -/
def recordFields (text : List Char) : Run (Array Value) := do
  let state ← get
  let separator := state.globalText "FS"
  let pieces ← if (state.globalText "RS").isEmpty && separator ≠ [' '] then do
      let mut pieces : List (List Char) := []
      for line in splitAtMark '\n' text do
        let found ← splitText separator line
        pieces := pieces ++ (if found.isEmpty then [[]] else found)
      pure (if text.isEmpty then [] else pieces)
    else splitText separator text
  return (pieces.map Value.outside).toArray

def setRecord (value : Value) : Run Unit := do
  let fields ← recordFields (value.toText (← get).format)
  modify fun state => { state with record := value, fields }

def fieldLimit : Nat := 1000000

/-- Gives a field a value, and makes up the record anew. -/
def setField (index : Nat) (value : Value) : Run Unit := do
  if fieldLimit < index then fault "too many fields"
  if index = 0 then setRecord (.outside (value.toText (← get).format))
  else modify fun state =>
    let missing := index - state.fields.size
    let padded := state.fields ++ Array.replicate missing Value.unset
    let fields := padded.setIfInBounds (index - 1) value
    { state with fields, record := .outside (joinedFields state fields) }

/-- Changes the number of fields. -/
def setCount (count : Int) : Run Unit := do
  if count < 0 then fault "negative value assigned to NF"
  if (fieldLimit : Int) < count then fault "too many fields"
  modify fun state =>
    let kept := state.fields.extract 0 count.toNat
    let fields := kept ++ Array.replicate (count.toNat - kept.size) Value.unset
    { state with fields, record := .outside (joinedFields state fields) }

/-! ## Variables and arrays -/

def getVariable (name : String) : Run Value := do
  let state ← get
  match state.local? name with
  | some found => return found.value
  | none => return if name = "NF" then .ofNat state.fields.size else state.global name

def setGlobal (name : String) (value : Value) : Run Unit :=
  if name = "NF" then setCount (integerOf value.toNumber)
  else modify fun state => { state with globals := state.globals.insert name value }

def setVariable (name : String) (value : Value) : Run Unit := do
  let state ← get
  match state.frames with
  | frame :: others =>
    if frame.any (·.name = name) then
      let changed := frame.map fun (found : Local) =>
        if found.name = name then { found with value := value } else found
      set { state with frames := changed :: others }
    else setGlobal name value
  | [] => setGlobal name value

def newTable : Run Nat := do
  let state ← get
  set { state with
    tables := state.tables.insert state.nextTable .empty
    nextTable := state.nextTable + 1 }
  return state.nextTable

/-- The array with a name; it is made if there is none. -/
def tableOf (name : String) : Run Nat := do
  let state ← get
  match state.local? name with
  | some found => return found.table
  | none =>
    match state.arrays.get? name with
    | some index => return index
    | none =>
      let index ← newTable
      modify fun state => { state with arrays := state.arrays.insert name index }
      return index

def getTable (index : Nat) : Run Table := do return (← get).tables.getD index .empty

def setTable (index : Nat) (table : Table) : Run Unit :=
  modify fun state => { state with tables := state.tables.insert index table }

def getElement (index : Nat) (key : Key) : Run Value := do
  let table := (← getTable index).visit true key
  setTable index table
  return table.get key

def setElement (index : Nat) (key : Key) (value : Value) : Run Unit := do
  setTable index ((← getTable index).set key value)

def countUp (name : String) : Run Unit :=
  modify fun state =>
    { state with globals := state.globals.insert name (.number ((state.global name).toNumber + 1)) }

/-! ## Reading -/

/-- What ends a record at the moment. -/
def separator : Run Separator := do
  match (← get).globalText "RS" with
  | [] => return .paragraph
  | [c] => return .char c
  | source => return .regex (← regexOf source)

/-- The next record of a reader; `fuel` bounds the pieces in which it comes. -/
def nextOf (separator : Separator) : (fuel : Nat) → Reader → Run (Option (List Char) × Reader)
  | 0, reader => return (none, reader)
  | fuel + 1, reader => do
    match separator.cut reader.isOver reader.buffer with
    | .record content rest =>
      return (some content, { reader with buffer := rest, chunk := Reader.firstChunk })
    | .over => return (none, { reader with buffer := [] })
    | .more =>
      match ← (Activity.read reader.descriptor reader.chunk : Run (Except Fault ByteArray)) with
      | .error fault => panic ("read error (" ++ fault.text ++ ")")
      | .ok data =>
        if data.isEmpty then nextOf separator fuel { reader with isOver := true }
        else nextOf separator fuel { reader with
          buffer := reader.buffer ++ charsOfData data
          chunk := if data.size = reader.chunk then min (2 * reader.chunk) 1048576
            else reader.chunk }

/-- An operand that gives a variable a value. -/
def assignment? (operand : List Char) : Option (String × List Char) :=
  let name := operand.takeWhile fun c => c.isAlphanum || c = '_'
  match operand.drop name.length with
  | '=' :: value =>
    if name.head?.any fun c => c.isAlpha || c = '_' then some (String.ofList name, value)
    else none
  | _ => none

def startReading (name : List Char) (reader : Reader) : Run Unit :=
  modify fun state => { state with
    current := some reader
    hasRead := true
    globals := (state.globals.insert "FILENAME" (.text name)).insert "FNR" (.ofNat 0) }

/-- Opens a file to be read; a hyphen is the input. -/
def openReader (name : String) : Run (Except Fault Reader) := do
  if name = "-" || name = "/dev/stdin" then return .ok (.ofDescriptor 0 none)
  match ← Activity.openFile name .input with
  | .ok descriptor => return .ok (.ofDescriptor descriptor none)
  | .error fault => return .error fault

/-- Goes on with the next operand, if there is one; `unescape` reads the escapes of a
value.  `fuel` bounds the operands. -/
def openNext (unescape : List Char → List Char) : (fuel : Nat) → Run Bool
  | 0 => return false
  | fuel + 1 => do
    let state ← get
    if (state.global "ARGC").toNumber ≤ Float.ofNat state.place then
      if state.hasRead then return false
      startReading ['-'] (.ofDescriptor 0 none)
      return true
    else
      set { state with place := state.place + 1 }
      let operand := ((state.tables.getD ((state.arrays.get? "ARGV").getD 0) .empty).get
        (.number state.place)).toText state.format
      match assignment? operand with
      | some (name, value) =>
        setGlobal name (.outside (unescape value))
        openNext unescape fuel
      | none =>
        if operand.isEmpty then openNext unescape fuel
        else
          let name := String.ofList operand
          match ← openReader name with
          | .ok reader =>
            startReading operand reader
            return true
          | .error fault => panic ("cannot open " ++ name ++ " (" ++ fault.text ++ ")")

def release (reader : Reader) : Run Unit :=
  if reader.descriptor = 0 then return else Activity.close reader.descriptor

/-- Gives up the operand that is read. -/
def skipFile : Run Unit := do
  match (← get).current with
  | some reader =>
    release reader
    modify fun state => { state with current := none }
  | none => pure ()

/-- More than the operands and pieces of any input. -/
def inputBound : Nat := 100000000

/-- The next record of the operands; `fuel` bounds them. -/
def nextRecord (unescape : List Char → List Char) : (fuel : Nat) → Run (Option (List Char))
  | 0 => return none
  | fuel + 1 => do
    match (← get).current with
    | some reader =>
      match ← nextOf (← separator) inputBound reader with
      | (some content, rest) =>
        modify fun state => { state with current := some rest }
        countUp "NR"
        countUp "FNR"
        return some content
      | (none, rest) =>
        release rest
        modify fun state => { state with current := none }
        nextRecord unescape fuel
    | none =>
      if ← openNext unescape inputBound then nextRecord unescape fuel else return none

/-! ## Writing -/

def emit (text : List Char) : Run Unit := ofWork (Work.putChars text)

def flushWriter (name : String) (writer : Writer) : Run Writer := do
  if writer.waiting.isEmpty then return writer
  let data := writer.waiting.reverse.foldl (· ++ ·) .empty
  match ← (Activity.write writer.descriptor data : Run (Option Fault)) with
  | some fault => panic ("write failure on file \"" ++ name ++ "\" (" ++ fault.text ++ ")")
  | none => return { writer with waiting := [], size := 0 }

/-- Passes on everything that waits to be written. -/
def flushAll : Run Unit := do
  ofWork Work.flush
  let mut flushed : List (String × Writer) := []
  for (name, writer) in (← get).writers do
    flushed := (name, ← flushWriter name writer) :: flushed
  modify fun state => { state with writers := flushed.reverse }

/-- The descriptors that commands must not keep. -/
def pipeEnds (state : State) : List Nat :=
  state.writers.filterMap fun (_, writer) => writer.process.map fun _ => writer.descriptor

def commandShell : String := "/bin/sh"

def openWriter (target : Destination) (name : String) : Run Writer := do
  match target with
  | .command =>
    match ← (Work.openCommand commandShell false (pipeEnds (← get)) name :
        Work (Option (Nat × Nat))) with
    | some (process, descriptor) => return ⟨descriptor, [], 0, some process⟩
    | none => panic ("cannot open \"" ++ name ++ "\" for output")
  | .file append =>
    match ← (Activity.openFile name (if append then .append else .output) :
        Run (Except Fault Nat)) with
    | .ok descriptor => return ⟨descriptor, [], 0, none⟩
    | .error fault =>
      panic ("cannot open \"" ++ name ++ "\" for output (" ++ fault.text ++ ")")

def sendTo (target : Destination) (name : String) (text : List Char) : Run Unit := do
  let isFile := match target with
    | .file _ => true
    | .command => false
  if isFile && name = "/dev/stdout" then emit text
  else if isFile && name = "/dev/stderr" then
    let _ ← Activity.write 2 (dataOfChars text)
    return
  else
    let writer ← match (← get).writers.lookup name with
      | some writer => pure writer
      | none => openWriter target name
    let data := dataOfChars text
    let longer := { writer with
      waiting := data :: writer.waiting, size := writer.size + data.size }
    let kept ← if outputLimit ≤ longer.size then flushWriter name longer else pure longer
    modify fun state => { state with
      writers := (name, kept) :: state.writers.filter (·.1 ≠ name) }

/-- The number that stands for the end of a command. -/
def exitNumber : Exit → Int
  | .status code => Int.ofNat code
  | .signal number => 256 + Int.ofNat number

def closeWriter (name : String) (writer : Writer) : Run Int := do
  let writer ← flushWriter name writer
  Activity.close writer.descriptor
  match writer.process with
  | some process => return exitNumber (← (Work.await process 1000 : Work Exit))
  | none => return 0

def close (name : String) : Run Value := do
  let state ← get
  let mut result : Int := -1
  match state.writers.lookup name with
  | some writer =>
    set { state with writers := state.writers.filter (·.1 ≠ name) }
    result ← closeWriter name writer
  | none => pure ()
  match state.readers.lookup name with
  | some reader =>
    modify fun state => { state with readers := state.readers.filter (·.1 ≠ name) }
    release reader
    match reader.process with
    | some process => result := exitNumber (← (Work.await process 1000 : Work Exit))
    | none => result := 0
  | none => pure ()
  return .ofInt result

def closeAll : Run Unit := do
  for (name, writer) in (← get).writers do
    let _ ← closeWriter name writer
  modify fun state => { state with writers := [] }

def runCommand (command : String) : Run Value := do
  flushAll
  let how ← (Work.runCommand commandShell (pure ()) command : Work Exit)
  return .ofInt (exitNumber how)

/-- The reader of a file or of the output of a command. -/
def readerOf (source : LineSource) (name : String) : Run (Option Reader) := do
  let state ← get
  match state.readers.lookup name with
  | some reader => return some reader
  | none =>
    match source with
    | .command =>
      match ← (Work.openCommand commandShell true (pipeEnds state) name :
          Work (Option (Nat × Nat))) with
      | some (process, descriptor) => return some (.ofDescriptor descriptor (some process))
      | none => return none
    | _ => return (← openReader name).toOption

/-- The next record of a file or command: one, none, or a failure to open it. -/
def readFrom (source : LineSource) (name : String) :
    Run (Except Unit (Option (List Char))) := do
  match ← readerOf source name with
  | none => return .error ()
  | some reader =>
    let (record, rest) ← nextOf (← separator) inputBound reader
    modify fun state => { state with
      readers := (name, rest) :: state.readers.filter (·.1 ≠ name) }
    return .ok record

end Run

end Conformance.Tool.Records
