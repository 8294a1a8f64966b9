import Conformance.Tool.Edit.Script

/-!
# Running scripts on lines

For every line of the input the instructions run in order on the pattern space.  A run
goes on by itself until the script ends, or until it needs something from outside: a
line, or the output of a command.  What it puts out is gathered in order.
-/

namespace Conformance.Tool.Edit

open Shell

/-- Where something is put out. -/
inductive Outlet where
  | output
  | standard
  | errors
  | file (name : String)
deriving DecidableEq, Repr

/-- Something that a run does outside. -/
inductive Effect where
  /-- A line, whose end may be missing. -/
  | line (target : Outlet) (text : List Char) (isEnded : Bool)
  /-- A text that ends as it ends. -/
  | text (content : List Char)
  | copyFile (name : String)
  | copyLine (name : String)

structure State where
  space : List Char
  held : List Char
  /-- Whether the current line has an end. -/
  isEnded : Bool
  number : Nat
  /-- Whether no other line follows. -/
  isLast : Bool
  replaced : Bool
  /-- Ranges under way, by instruction, with their last line if it is known. -/
  ranges : List (Nat × Option Nat)
  lastRegex : Option Regex
  /-- What is put out before the next line is read, latest first. -/
  pending : List Effect
  /-- What was put out, latest first. -/
  effects : List Effect
  /-- Whether an expression was asked for that has never been given. -/
  lacksRegex : Bool

/-- What does not change while a script runs. -/
structure Setting where
  program : Array Instruction
  quiet : Bool
  /-- What stands between lines. -/
  mark : Char
  /-- How long lines are that show everything plainly. -/
  width : Nat
  name : String

/-- Where a script goes on. -/
inductive Next where
  | go (index : Nat)
  /-- The end of the script: the pattern space is put out. -/
  | finish
  | drop
  /-- Again from the start, without a new line. -/
  | again
  | quit (status : Nat)
  | quitQuietly (status : Nat)
  /-- Another line is needed, in place of the pattern space or behind it. -/
  | needLine (index : Nat) (appends : Bool)
  /-- The output of a command is needed, to be shown or in place of the pattern space. -/
  | needOutput (index : Nat) (command : List Char) (replaces : Bool) (rule : Option Substitution)

namespace State

def initial : State := ⟨[], [], true, 0, false, false, [], none, [], [], false⟩

def put (state : State) (effect : Effect) : State :=
  { state with effects := effect :: state.effects }

def emit (state : State) (text : List Char) (isEnded : Bool) : State :=
  state.put (.line .output text isEnded)

/-- A file that a script writes to; two names stand for the standard streams. -/
def targetOf (name : String) : Outlet :=
  if name = "/dev/stdout" then .standard else if name = "/dev/stderr" then .errors else .file name

/-- Puts out what waits for the end of the line. -/
def flush (state : State) : State :=
  { state with effects := state.pending ++ state.effects, pending := [] }

def isAt (state : State) : Address → Bool × State
  | .line number => (state.number = number, state)
  | .every first step => (first ≤ state.number && (state.number - first) % step = 0, state)
  | .last => (state.isLast, state)
  | .matching regex =>
    match regex <|> state.lastRegex with
    | some found => (found.isFoundIn state.space, { state with lastRegex := some found })
    | none => (false, { state with lacksRegex := true })

def setRange (state : State) (index : Nat) (stop : Option (Option Nat)) : State :=
  let others := state.ranges.filter (·.1 ≠ index)
  { state with ranges := match stop with
      | some last => (index, last) :: others
      | none => others }

/-- Whether a range that begins here goes on, and up to which line if that is known. -/
def rangeFrom (number : Nat) : Stop → Option (Option Nat)
  | .address (.line last) => if last ≤ number then none else some (some last)
  | .address _ => some none
  | .after count => if count = 0 then none else some (some (number + count))
  | .multiple step =>
    if step = 0 || number % step = 0 then none else some (some (number + step - number % step))

/-- Whether an instruction applies to the current line. -/
def selects (state : State) (index : Nat) (selector : Selector) : Bool × State :=
  let (truth, after) : Bool × State := match selector.start, selector.stop with
    | none, _ => (true, state)
    | some start, none => state.isAt start
    | some start, some stop =>
      match state.ranges.lookup index with
      | some (some last) =>
        if last ≤ state.number then (state.number = last, state.setRange index none)
        else (true, state)
      | some none =>
        match stop with
        | .address place =>
          let (ends, after) := state.isAt place
          (true, if ends then after.setRange index none else after)
        | _ => (true, state)
      | none =>
        let (begins, after) := state.isAt start
        if begins then (true, after.setRange index (rangeFrom state.number stop))
        else (false, after)
  (truth != selector.negated, after)

end State

/-- Ranges that are under way before the first line. -/
def openRanges (program : Array Instruction) : List (Nat × Option Nat) :=
  program.toList.zipIdx.filterMap fun (instruction, index) =>
    match instruction.selector.start, instruction.selector.stop with
    | some (.line 0), some _ => some (index, none)
    | _, _ => none

/-! ## Replacing -/

/-- A replacement under way: its text backwards, and the changes of case in force. -/
structure CasedText where
  text : List Char
  lasting : Option CaseChange
  once : Option CaseChange

namespace CasedText

def changed (kind : Option CaseChange) (c : Char) : Char :=
  match kind with
  | some .upper => c.toUpper
  | some .upperNext => c.toUpper
  | some .lower => c.toLower
  | some .lowerNext => c.toLower
  | _ => c

def add (state : CasedText) (c : Char) : CasedText :=
  ⟨changed (state.once <|> state.lasting) c :: state.text, state.lasting, none⟩

def change (state : CasedText) : CaseChange → CasedText
  | .upper => { state with lasting := some .upper, once := none }
  | .lower => { state with lasting := some .lower, once := none }
  | .stop => { state with lasting := none, once := none }
  | kind => { state with once := some kind }

end CasedText

def replacementFor (parts : List ReplacementPart) (found : Match) (text : List Char) :
    List Char :=
  (parts.foldl (fun (state : CasedText) part => match part with
    | .text content => content.foldl CasedText.add state
    | .group index => (found.part text index).foldl CasedText.add state
    | .change kind => state.change kind) ⟨[], none, none⟩).text.reverse

def replaceMatches (parts : List ReplacementPart) (text : List Char) :
    (start : Nat) → List Match → List Char
  | start, [] => text.drop start
  | start, found :: rest =>
    (text.drop start).take (found.start - start) ++ replacementFor parts found text ++
      replaceMatches parts text found.finish rest

/-- What a substitution does once the pattern space has changed. -/
def afterReplacing (rule : Substitution) (state : State) : State :=
  let printed := if rule.prints then state.emit state.space state.isEnded else state
  match rule.target with
  | some name => printed.put (.line (State.targetOf name) printed.space printed.isEnded)
  | none => printed

/-- Replaces matches in the pattern space, and tells whether there were any. -/
def substitute (rule : Substitution) (state : State) : State × Bool :=
  match rule.regex <|> state.lastRegex with
  | none => ({ state with lacksRegex := true }, false)
  | some regex =>
    let known := { state with lastRegex := some regex }
    let all := if rule.isGlobal || 1 < rule.first then regex.findAll state.space
      else (regex.find? state.space 0).toList
    let chosen := (all.drop (rule.first - 1)).take (if rule.isGlobal then all.length else 1)
    if chosen.isEmpty then (known, false)
    else
      let space := replaceMatches rule.parts state.space 0 chosen
      ({ known with space, replaced := true }, true)

def plainlyShownChar (c : Char) : List Char :=
  match c with
  | '\\' => ['\\', '\\']
  | '\n' => ['\\', 'n']
  | '\x07' => ['\\', 'a']
  | '\x08' => ['\\', 'b']
  | '\x0c' => ['\\', 'f']
  | '\r' => ['\\', 'r']
  | '\t' => ['\\', 't']
  | '\x0b' => ['\\', 'v']
  | _ =>
    if ' ' ≤ c && c ≤ '~' then [c]
    else
      let digits := Nat.toDigits 8 c.toNat
      '\\' :: (List.replicate (3 - digits.length) '0' ++ digits)

/-- A line in which everything is visible, cut into pieces of a width unless that is
zero. -/
def plainlyShown (width : Nat) (text : List Char) : List Char :=
  let (lines, last, _) := (text.map plainlyShownChar).foldl (fun (done, line, size) item =>
    if 0 < width && width - 1 < size + item.length then
      ('\n' :: '\\' :: (line ++ done), item.reverse, item.length)
    else (done, item.reverse ++ line, size + item.length))
    (([] : List Char), ([] : List Char), 0)
  ('$' :: (last ++ lines)).reverse

/-! ## Instructions -/

namespace Setting

def firstLine (setting : Setting) (text : List Char) : List Char :=
  text.takeWhile (· ≠ setting.mark)

/-- Where the instructions behind a block start; `fuel` bounds the search. -/
def behindBlock (setting : Setting) : (fuel : Nat) → (index depth : Nat) → Nat
  | 0, index, _ => index
  | fuel + 1, index, depth =>
    match setting.program[index]? with
    | none => index
    | some instruction =>
      match instruction.action with
      | .openBlock => setting.behindBlock fuel (index + 1) (depth + 1)
      | .closeBlock =>
        if depth ≤ 1 then index + 1 else setting.behindBlock fuel (index + 1) (depth - 1)
      | _ => setting.behindBlock fuel (index + 1) depth

def target (setting : Setting) (name : String) : Next :=
  if name.isEmpty then .finish
  else match setting.program.findIdx? fun instruction => instruction.action = .label name with
    | some index => .go index
    | none => .finish

def act (setting : Setting) (index : Nat) (instruction : Instruction) (state : State) :
    Next × State :=
  let next : Next := .go (index + 1)
  match instruction.action with
  | .openBlock => (next, state)
  | .closeBlock => (next, state)
  | .label _ => (next, state)
  | .nothing => (next, state)
  | .substitute rule =>
    let (after, done) := substitute rule state
    if !done then (next, after)
    else if rule.runs then (.needOutput (index + 1) after.space true (some rule), after)
    else (next, afterReplacing rule after)
  | .exchangeChars pairs =>
    (next, { state with space := state.space.map fun c => (pairs.lookup c).getD c })
  | .append text => (next, { state with pending := .text text :: state.pending })
  | .insert text => (next, state.put (.text text))
  | .change text =>
    let ongoing := (state.ranges.lookup index).isSome && !instruction.selector.negated
    (.drop, if ongoing then state else state.put (.text text))
  | .delete => (.drop, state)
  | .deleteLine =>
    if state.space.contains setting.mark then
      (.again, { state with space := (state.space.dropWhile (· ≠ setting.mark)).drop 1 })
    else (.drop, state)
  | .print => (next, state.emit state.space state.isEnded)
  | .printLine => (next, state.emit (setting.firstLine state.space) true)
  | .next =>
    if state.isLast then (.finish, state)
    else (.needLine (index + 1) false,
      if setting.quiet then state else state.emit state.space state.isEnded)
  | .nextLine => if state.isLast then (.finish, state) else (.needLine (index + 1) true, state)
  | .hold => (next, { state with held := state.space })
  | .holdMore => (next, { state with held := state.held ++ setting.mark :: state.space })
  | .get => (next, { state with space := state.held })
  | .getMore => (next, { state with space := state.space ++ setting.mark :: state.held })
  | .exchange => (next, { state with space := state.held, held := state.space })
  | .branch name => (setting.target name, state)
  | .branchIf name =>
    if state.replaced then (setting.target name, { state with replaced := false })
    else (next, state)
  | .branchUnless name =>
    if state.replaced then (next, { state with replaced := false })
    else (setting.target name, state)
  | .quit status => (.quit status, state)
  | .quitQuietly status => (.quitQuietly status, state)
  | .showNumber => (next, state.put (.text (toString state.number ++ "\n").toList))
  | .showPlainly width =>
    (next, state.put (.text (plainlyShown (width.getD setting.width) state.space ++ ['\n'])))
  | .showName => (next, state.put (.text (setting.name.toList ++ [setting.mark])))
  | .clear => (next, { state with space := [] })
  | .readFile name => (next, { state with pending := .copyFile name :: state.pending })
  | .readLine name => (next, { state with pending := .copyLine name :: state.pending })
  | .writeFile name =>
    (next, state.put (.line (State.targetOf name) state.space state.isEnded))
  | .writeLine name =>
    (next, state.put (.line (State.targetOf name) (setting.firstLine state.space) true))
  | .run command =>
    if command.isEmpty then (.needOutput (index + 1) state.space true none, state)
    else (.needOutput (index + 1) command false none, state)

/-- Runs instructions from an index on until something is needed; `fuel` bounds their
number, and a run that has used it up can go on where it is. -/
def run (setting : Setting) : (fuel : Nat) → (index : Nat) → State → Next × State
  | 0, index, state => (.go index, state)
  | fuel + 1, index, state =>
    match setting.program[index]? with
    | none => (.finish, state)
    | some instruction =>
      let (chosen, state) := state.selects index instruction.selector
      if state.lacksRegex then (.go index, state)
      else if !chosen then
        let behind := if instruction.action = .openBlock then
            setting.behindBlock (setting.program.size + 1) index 0
          else index + 1
        setting.run fuel behind state
      else match setting.act index instruction state with
        | (.go target, after) =>
          if after.lacksRegex then (.go target, after) else setting.run fuel target after
        | other => other

/-- Whether a script has to know which line is the last. -/
def looksAhead (setting : Setting) : Bool :=
  setting.program.any fun instruction =>
    instruction.action = .next || instruction.action = .nextLine ||
      instruction.selector.start = some .last ||
      instruction.selector.stop = some (.address .last)

end Setting

end Conformance.Tool.Edit
