import Conformance.Tool.Edit.Run
import Conformance.Tool.Launch
import Conformance.Tool.Names

/-!
# Editing streams of lines

`sed` runs a script on every line of its input.  A last line without an end stays one
unless something follows it.  Files can be edited in their places: the result is gathered
beside a file and then takes its name.
-/

namespace Conformance.Tool

open Machine Shell Edit

/-- The input that is edited. -/
structure EditInput where
  /-- Operands that are still to be opened. -/
  operands : List String
  stream : Option Stream
  name : String
  /-- A line that has been read in advance. -/
  ahead : Option TextLine
  /-- Whether a file begins with the next line. -/
  isFresh : Bool

/-- A file that is edited in its place. -/
structure EditedFile where
  descriptor : Nat
  path : String
  source : String
  mode : Nat

/-- What an edit has at hand. -/
structure EditDesk where
  input : EditInput
  /-- Where an end of a line is owed before anything else. -/
  owes : List Outlet
  written : List (String × Nat)
  /-- Files that are read line by line. -/
  sources : List (String × Stream)
  edited : Option EditedFile
  hasFailed : Bool

/-- How an edit treats its files. -/
structure EditRules where
  setting : Setting
  separate : Bool
  /-- The ending of copies that are kept of edited files. -/
  inPlace : Option String
  isUnbuffered : Bool

abbrev EditWork := StateT EditDesk Work

namespace EditWork

/-- Complains without putting out first what was gathered. -/
def warn (text : String) : Work Unit := do
  let _ ← Activity.write 2 (dataOfRaw ("sed: " ++ text ++ "\n"))

def panic {α : Type} (text : String) : Work α := do
  warn text
  throw 4

def send (target : Outlet) (data : ByteArray) : EditWork Unit := do
  let desk ← get
  match target with
  | .output =>
    match desk.edited with
    | some file =>
      let _ ← (Activity.write file.descriptor data : Work (Option Fault))
    | none => (Work.putData data : Work Unit)
  | .standard => (Work.putData data : Work Unit)
  | .errors =>
    let _ ← (Activity.write 2 data : Work (Option Fault))
  | .file name =>
    match desk.written.lookup name with
    | some descriptor =>
      let _ ← (Activity.write descriptor data : Work (Option Fault))
    | none => pure ()

/-- Puts out the end of a line that is owed. -/
def settle (mark : UInt8) (target : Outlet) : EditWork Unit := do
  let desk ← get
  if desk.owes.contains target then
    set { desk with owes := desk.owes.filter (· ≠ target) }
    send target ⟨#[mark]⟩

/-- Everything that a file holds, or nothing. -/
def contentOf (name : String) : Work ByteArray := do
  match ← Work.readOperand (if name = "-" then "./-" else name) with
  | .ok data => return data
  | .error _ => return .empty

def nextLineOf (mark : UInt8) (name : String) : EditWork (Option TextLine) := do
  let desk ← get
  let stream? : Option Stream ← match desk.sources.lookup name with
    | some stream => pure (some stream)
    | none => do
      match ← (Activity.openFile name .input : Work (Except Fault Nat)) with
      | .ok descriptor => pure (some (Stream.ofDescriptor descriptor mark))
      | .error _ => pure none
  match stream? with
  | none => return none
  | some stream =>
    let (line, rest) ← (stream.next : Work (Option TextLine × Stream))
    modify fun desk => { desk with
      sources := (name, rest) :: desk.sources.filter (·.1 ≠ name) }
    return line

/-- Does one thing that a script has asked for. -/
def perform (mark : UInt8) : Effect → EditWork Unit
  | .line target text isEnded => do
    settle mark target
    let data := dataOfChars text
    send target (if isEnded then data.push mark else data)
    if !isEnded then modify fun desk => { desk with owes := target :: desk.owes }
  | .text content => do
    settle mark .output
    send .output (dataOfChars content)
  | .copyFile name => do
    let data ← (contentOf name : Work ByteArray)
    if !data.isEmpty then
      settle mark .output
      send .output data
  | .copyLine name => do
    match ← nextLineOf mark name with
    | none => pure ()
    | some line =>
      settle mark .output
      let data := dataOfChars line.content
      send .output (if line.isEnded then data.push mark else data)

/-- Does what a run has asked for, in order. -/
def performAll (rules : EditRules) (state : State) : EditWork State := do
  let mark := UInt8.ofNat rules.setting.mark.toNat
  let rec go : List Effect → EditWork Unit
    | [] => return
    | effect :: rest => do
      perform mark effect
      go rest
  go state.effects.reverse
  if rules.isUnbuffered then (Work.flush : Work Unit)
  return { state with effects := [] }

/-! ## Input -/

def copyName (ending name : String) : String :=
  let pattern := if ending.toList.contains '*' then ending.toList else '*' :: ending.toList
  String.join (pattern.map fun c => if c = '*' then name else String.singleton c)

def finishFile (rules : EditRules) : EditWork Unit := do
  let desk ← get
  match desk.edited, rules.inPlace with
  | some file, some ending =>
    (Activity.close file.descriptor : Work Unit)
    let rename (source target : String) : Work Unit := do
      match ← Activity.attemptTo (.rename source target) with
      | none => pure ()
      | some fault =>
        let _ ← Activity.ask (.remove file.path)
        panic ("cannot rename " ++ source ++ ": " ++ fault.text)
    if !ending.isEmpty then rename file.source (copyName ending file.source)
    rename file.path file.source
    set { desk with edited := none, owes := desk.owes.filter (· ≠ Outlet.output) }
  | _, _ => pure ()

def beginFile (name : String) (info : Info) : EditWork Unit := do
  let (own, _) ← (Activity.identify : Work (Nat × Nat))
  let above := String.ofList (name.toList.reverse.dropWhile (· ≠ '/')).reverse
  let path := above ++ "sed" ++ String.ofList (Nat.toDigits 36 (own * 46656 + 15552))
  match ← (Activity.openFile path .output : Work (Except Fault Nat)) with
  | .error fault =>
    (panic ("couldn't open temporary file " ++ (if above.isEmpty then "./" else "") ++ path ++
      ": " ++ fault.text) : Work Unit)
  | .ok descriptor =>
    let _ ← (Activity.ask (.setMode path info.mode) : Work Machine.Reply)
    modify fun desk => { desk with edited := some ⟨descriptor, path, name, info.mode⟩ }

def openNext (rules : EditRules) (name : String) : EditWork Unit := do
  let fail (text : String) : EditWork Unit := do
    (warn text : Work Unit)
    modify fun desk => { desk with hasFailed := true }
  let isInput := name = "-" && rules.inPlace.isNone
  let opened : Except Fault Nat ←
    if isInput then pure (.ok 0)
    else (Activity.openFile name .input : Work (Except Fault Nat))
  match opened with
  | .error fault => fail ("can't read " ++ name ++ ": " ++ fault.text)
  | .ok descriptor =>
    let stream := { Stream.ofDescriptor descriptor (UInt8.ofNat rules.setting.mark.toNat) with
      chunk := if rules.isUnbuffered then 0 else 4096 }
    if rules.inPlace.isSome then
      match ← (Activity.examineOpen descriptor : Work (Except Fault Info)) with
      | .ok info =>
        if info.kind ≠ .regular then
          (panic ("couldn't edit " ++ name ++ ": not a regular file") : Work Unit)
        beginFile name info
      | .error _ => pure ()
    modify fun desk => { desk with
      input := { desk.input with stream := some stream, name, isFresh := true } }

def closeInput (rules : EditRules) : EditWork Unit := do
  let desk ← get
  match desk.input.stream with
  | some stream => if stream.descriptor ≠ 0 then (Activity.close stream.descriptor : Work Unit)
  | none => pure ()
  set { desk with input := { desk.input with stream := none } }
  finishFile rules

/-- Makes sure that the next line is there if there is one: of the current file, or of a
later one if `crosses`.  `fuel` bounds the files. -/
def lookAhead (rules : EditRules) (crosses : Bool) : (fuel : Nat) → EditWork Bool
  | 0 => return false
  | fuel + 1 => do
    let desk ← get
    if desk.input.ahead.isSome then return true
    match desk.input.stream with
    | some stream =>
      let (line, rest) ← (stream.next : Work (Option TextLine × Stream))
      match rest.fault with
      | some fault =>
        (panic ("read error on " ++ desk.input.name ++ ": " ++ fault.text) : Work Unit)
      | none => pure ()
      modify fun desk => { desk with input := { desk.input with stream := some rest, ahead := line } }
      if line.isSome then return true
      if !crosses then return false
      closeInput rules
      lookAhead rules crosses fuel
    | none =>
      if !crosses then return false
      match desk.input.operands with
      | [] => return false
      | name :: others =>
        set { desk with input := { desk.input with operands := others } }
        openNext rules name
        lookAhead rules crosses fuel

/-- Takes the next line into the state, in place of the pattern space or behind it. -/
def takeLine (rules : EditRules) (appends : Bool) (state : State) : EditWork (Option State) := do
  let flushed ← performAll rules state.flush
  let fuel := (← get).input.operands.length + 2
  if !(← lookAhead rules true fuel) then return none
  let desk ← get
  match desk.input.ahead with
  | none => return none
  | some line =>
    let isNew := desk.input.isFresh && rules.separate
    set { desk with input := { desk.input with ahead := none, isFresh := false } }
    if isNew then settle (UInt8.ofNat rules.setting.mark.toNat) .output
    let begun := if isNew then
        { flushed with number := 0, held := [], ranges := openRanges rules.setting.program }
      else flushed
    let isLast ← if rules.setting.looksAhead then do
        let more ← lookAhead rules (!rules.separate) fuel
        pure !more
      else pure false
    let space := if appends then begun.space ++ rules.setting.mark :: line.content
      else line.content
    return some { begun with
      space, isLast, isEnded := line.isEnded, number := begun.number + 1, replaced := false }

/-! ## Cycles -/

/-- How many instructions run before others have their turn. -/
def runBound : Nat := 20000

/-- Runs the script on the pattern space and on the lines that are left, from an index
on; `fuel` bounds the pieces of the run.  The result is the status with which the script
has ended. -/
def cycles (rules : EditRules) : (fuel : Nat) → (index : Nat) → State → EditWork Nat
  | 0, _, _ => return 0
  | fuel + 1, index, state => do
    let setting := { rules.setting with name := (← get).input.name }
    let (next, after) := setting.run runBound index state
    if after.lacksRegex then
      (warn "-e expression #1, char 0: no previous regular expression" : Work Unit)
      return 1
    let shown (state : State) : State :=
      if setting.quiet then state else state.emit state.space state.isEnded
    let goOn (state : State) : EditWork Nat := do
      let state ← performAll rules state.flush
      match ← takeLine rules false state with
      | some state => cycles rules fuel 0 state
      | none => return 0
    match next with
    | .finish => goOn (shown after)
    | .drop => goOn after
    | .again =>
      let after ← performAll rules after
      (Work.breathe : Work Unit)
      cycles rules fuel 0 after
    | .quit status =>
      let _ ← performAll rules (shown after).flush
      return status
    | .quitQuietly status =>
      let _ ← performAll rules after
      return status
    | .needLine index appends =>
      let after ← performAll rules after
      match ← takeLine rules appends after with
      | some state => cycles rules fuel index state
      | none => return 0
    | .needOutput index command replaces rule =>
      let after ← performAll rules after
      let data ← (Work.outputOf (String.ofList command) : Work ByteArray)
      let text := charsOfData data
      if replaces then
        let space := if text.getLast? = some setting.mark then text.dropLast else text
        let changed := { after with space }
        cycles rules fuel index (match rule with
          | some rule => afterReplacing rule changed
          | none => changed)
      else
        settle (UInt8.ofNat setting.mark.toNat) .output
        send .output data
        cycles rules fuel index after
    | .go index =>
      let after ← performAll rules after
      (Activity.spend 1000000 : Work Unit)
      cycles rules fuel index after

/-- Runs the script on all lines. -/
def all (rules : EditRules) : EditWork Nat := do
  let start := { State.initial with ranges := openRanges rules.setting.program }
  match ← takeLine rules false start with
  | some state => cycles rules Stream.pieceBound 0 state
  | none => return 0

end EditWork

/-! ## Options -/

def sedRules : Rules :=
  ⟨"nErsuzbPSDL".toList, "efl".toList, ['i'],
    [("quiet", 'n'), ("silent", 'n'), ("expression", 'e'), ("file", 'f'),
      ("regexp-extended", 'E'), ("in-place", 'i'), ("line-length", 'l'), ("separate", 's'),
      ("unbuffered", 'u'), ("null-data", 'z'), ("zero-terminated", 'z'), ("binary", 'b'),
      ("posix", 'P'), ("sandbox", 'S'), ("debug", 'D'), ("follow-symlinks", 'L')], true⟩

def sedUsage {α : Type} : Work α := do
  let _ ← Activity.write 2 (dataOfRaw
    "Usage: sed [OPTION]... \x7bscript-only-if-no-other-script\x7d [input-file]...\n\n")
  throw 1

def scriptParts : (number : Nat) → List (Char × String) → Work (List (ScriptOrigin × List Char))
  | _, [] => return []
  | number, ('e', text) :: rest => do
    return (.expression number, text.toList) :: (← scriptParts (number + 1) rest)
  | number, ('f', name) :: rest => do
    match ← Work.readOperand name with
    | .ok data =>
      return (.file name, charsOfData data) :: (← scriptParts number rest)
    | .error fault => EditWork.panic ("couldn't open file " ++ name ++ ": " ++ fault.text)
  | number, _ :: rest => scriptParts number rest

def openWritten : List String → Work (List (String × Nat))
  | [] => return []
  | name :: rest => do
    if name = "/dev/stdout" || name = "/dev/stderr" then openWritten rest
    else
      match ← Activity.openFile name .output with
      | .ok descriptor => return (name, descriptor) :: (← openWritten rest)
      | .error fault => EditWork.panic ("couldn't open file " ++ name ++ ": " ++ fault.text)

/-- Whether case of the letters `E` and `r` counts before a place among the options. -/
def isExtendedBefore (options : Options) (count : Nat) : Bool :=
  (options.given.take count).any fun (letter, _) => letter = 'E' || letter = 'r'

def sed : Utility := fun words => do
  let (given, operands, mistake) := sedRules.readFrom (words.length + 1) [] [] words
  let options : Options := ⟨given.reverse, operands.reverse⟩
  match mistake with
  | some text =>
    EditWork.warn text
    sedUsage
  | none => pure ()
  let hasScript := options.has 'e' || options.has 'f'
  let (parts, operands) ← if hasScript then do
      pure ((← scriptParts 1 options.given), options.operands)
    else match options.operands with
      | [] => sedUsage
      | script :: rest => pure ([(ScriptOrigin.expression 1, script.toList)], rest)
  let firstScript := options.given.findIdx fun (letter, _) => letter = 'e' || letter = 'f'
  let reading : Reading := ⟨isExtendedBefore options firstScript, options.has 'S'⟩
  let (program, asksQuiet) ← match readScript reading parts with
    | .ok found => pure found
    | .error complaint =>
      EditWork.warn complaint.message
      throw 1
  let isPlaced : Bool ← match parts with
    | (.file name, _) :: _ =>
      if name = "-" || name = "/dev/stdin" then do
        match ← Activity.examineOpen 0 with
        | .ok info => pure (info.kind = .regular)
        | .error _ => pure false
      else pure true
    | _ => pure true
  let written ← openWritten (writtenFiles program)
  match missingLabel? program with
  | some name => EditWork.panic ("can't find label for jump to \x60" ++ name ++ "'")
  | none => pure ()
  let inPlace := options.value? 'i'
  if inPlace.isSome && operands.isEmpty then EditWork.panic "no input files"
  let setting : Setting := ⟨program.toArray, options.has 'n' || (asksQuiet && isPlaced),
    if options.has 'z' then '\x00' else '\n',
    match options.value? 'l' with
      | some text => (natural? (text.toList.takeWhile Char.isDigit)).getD 0
      | none => 70,
    "-"⟩
  let rules : EditRules := ⟨setting, options.has 's' || inPlace.isSome, inPlace, options.has 'u'⟩
  let desk : EditDesk := ⟨⟨Work.orInput operands, none, "-", none, true⟩, [], written, [], none,
    false⟩
  let (status, desk) ← (EditWork.all rules).run desk
  let ((), desk) ← (EditWork.finishFile rules).run desk
  match desk.input.stream with
  | some stream =>
    if stream.descriptor = 0 then
      let held := match desk.input.ahead with
        | some line => line.content.length + (if line.isEnded then 1 else 0)
        | none => 0
      let count := stream.unused + held
      if 0 < count then
        let _ ← Activity.ask (.seek 0 (-Int.ofNat count) .current)
  | none => pure ()
  let failure := if status = 0 && desk.hasFailed then 2 else status
  Work.flush
  match (← get).broken with
  | some fault =>
    modify fun bench => { bench with broken := none }
    EditWork.panic ("couldn't flush stdout: " ++ fault.text)
  | none => Work.setStatus failure

end Conformance.Tool
