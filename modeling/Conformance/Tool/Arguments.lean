import Conformance.Tool.Arguments.Words
import Conformance.Tool.Launch

/-!
# Running commands on words of an input

`xargs` gathers words into calls of a command.  A call is complete when it has as many
words, lines or characters as are allowed; with a text to be replaced, every line makes
a call of its own.
-/

namespace Conformance.Tool

open Machine Shell Conformance.Tool.Arguments

/-- How words are made into calls. -/
structure CallRules where
  command : List String
  maxWords : Option Nat
  maxLines : Option Nat
  maxSize : Nat
  /-- The text in the command for which a line is put. -/
  slot : Option String
  /-- Whether a call that would be too long ends everything. -/
  isStrict : Bool
  /-- Whether calls are shown. -/
  isVerbose : Bool
  /-- Whether there is a call without any words. -/
  runsEmpty : Bool
  /-- How many calls may be under way at once. -/
  atOnce : Option Nat
  /-- Whether the calls read the input of the tool. -/
  sharesInput : Bool

/-- Calls under way and the one that is gathered. -/
structure Calls where
  /-- Words of the next call, backwards. -/
  words : List String
  size : Nat
  count : Nat
  lines : Nat
  hasRun : Bool
  running : List Nat
  /-- The first failure of a call. -/
  failure : Option Nat

namespace Calls

def start : Calls := ⟨[], 0, 0, 0, false, [], none⟩

end Calls

abbrev CallWork := StateT Calls Work

def wordSize (word : String) : Nat := word.length + 1

def shellWord (word : String) : String :=
  let needs := word.isEmpty || word = "\x7b" || word = "\x7d" ||
    word.toList.zipIdx.any fun (c, place) => isShellMark place c
  if needs then quoted word else word

namespace CallRules

def initialSize (rules : CallRules) : Nat :=
  rules.command.foldl (fun size word => size + wordSize word) 0

end CallRules

def noteEnd (rules : CallRules) (process : Nat) (how : Exit) : CallWork Unit := do
  modify fun calls => { calls with running := calls.running.filter (· ≠ process) }
  let name := rules.command.headD ""
  let stop (text : String) (status : Nat) : CallWork Unit := do
    Work.warn (name ++ ": " ++ text)
    throw ((← get).failure.getD status)
  match how with
  | .signal number => stop ("terminated by signal " ++ toString number) 125
  | .status 255 => stop "exited with status 255; aborting" 124
  | .status 0 => pure ()
  | .status _ => modify fun calls => { calls with failure := calls.failure.or (some 123) }

/-- Waits until fewer calls than `limit` are under way; `fuel` bounds the calls. -/
def awaitRoom (rules : CallRules) (limit : Nat) : (fuel : Nat) → CallWork Unit
  | 0 => return
  | fuel + 1 => do
    if (← get).running.length < limit then return
    match ← (Activity.wait none .full : Work (Except Fault (Nat × Exit))) with
    | .ok (process, how) =>
      noteEnd rules process how
      awaitRoom rules limit fuel
    | .error .interrupted => awaitRoom rules limit fuel
    | .error _ => modify fun calls => { calls with running := [] }

/-- The number of a descriptor that is out of the way of a command. -/
def farDescriptor : Nat := 10

/-- Waits for everything that is under way; `fuel` bounds the calls. -/
def awaitAll : (fuel : Nat) → Work Unit
  | 0 => return
  | fuel + 1 => do
    match ← Activity.wait none .full with
    | .ok _ => awaitAll fuel
    | .error .interrupted => awaitAll fuel
    | .error _ => return

/-- Starts a call.  A pipe tells whether the command could be started. -/
def startCall (rules : CallRules) (arguments : List String) : CallWork Unit := do
  match rules.atOnce with
  | some limit => awaitRoom rules limit 1000000
  | none => pure ()
  if rules.isVerbose then
    (Work.writeError (String.intercalate " " (arguments.map shellWord) ++ "\n") : Work Unit)
  match ← (Activity.makePipe : Work (Except Fault (Nat × Nat))) with
  | .error fault => (Work.fail ("pipe: " ++ fault.text) : Work Unit)
  | .ok (input, output) =>
    let child : Work Unit := do
      Activity.close input
      let _ ← Activity.ask (.copy output farDescriptor false)
      Activity.close output
      if !rules.sharesInput then
        match ← Activity.openFile "/dev/null" .input with
        | .ok null =>
          let _ ← Activity.ask (.redirect null 0)
          if null ≠ 0 then Activity.close null
        | .error _ => pure ()
      let fault ← Work.execute arguments (← get).environment
      Work.warn (arguments.headD "" ++ ": " ++ fault.text)
      let _ ← Activity.write farDescriptor ⟨#[1]⟩
      throw (startFailure fault)
    let process ← (Activity.fork fun bench => child bench fun result _ =>
      match result with
      | .ok _ => .exit 0
      | .error status => .exit status : Work Nat)
    (Activity.close output : Work Unit)
    let note ← (Activity.read input 1 : Work (Except Fault ByteArray))
    (Activity.close input : Work Unit)
    match note with
    | .ok data =>
      if !data.isEmpty then
        match ← (Work.await process 1000 : Work Exit) with
        | .status code => throw code
        | .signal _ => throw 126
    | .error _ => pure ()
    modify fun calls => { calls with running := process :: calls.running, hasRun := true }

def runGathered (rules : CallRules) : CallWork Unit := do
  let calls ← get
  set { calls with words := [], size := 0, count := 0 }
  startCall rules (rules.command ++ calls.words.reverse)

/-- Whether no more words may be added to a call. -/
def isFull (rules : CallRules) (calls : Calls) : Bool :=
  match rules.maxWords with
  | some most => decide (most ≤ calls.count)
  | none => false

def pushWord (rules : CallRules) (word : String) : CallWork Unit := do
  let initial := rules.initialSize
  if rules.maxSize < initial + wordSize word then
    (Work.fail "argument line too long" : Work Unit)
  if rules.maxSize < initial + (← get).size + wordSize word then
    if rules.isStrict && (rules.maxLines.isSome || rules.maxWords.isSome) then
      (Work.fail "argument list too long" : Work Unit)
    runGathered rules
  modify fun calls => { calls with
    words := word :: calls.words, size := calls.size + wordSize word, count := calls.count + 1 }
  if isFull rules (← get) then runGathered rules

/-- A text with every occurrence of `old` replaced. -/
def replaceAll (old new : List Char) : (fuel : Nat) → List Char → List Char
  | 0, text => text
  | _ + 1, [] => []
  | fuel + 1, c :: rest =>
    if !old.isEmpty && old.isPrefixOf (c :: rest) then
      new ++ replaceAll old new fuel ((c :: rest).drop old.length)
    else c :: replaceAll old new fuel rest

def runReplaced (rules : CallRules) (slot : String) (line : String) : CallWork Unit := do
  let put (word : String) : String :=
    String.ofList (replaceAll slot.toList line.toList (word.length + 1) word.toList)
  match rules.command with
  | [] => pure ()
  | name :: others => startCall rules (name :: others.map put)

/-- Deals with one thing that was found; tells whether there may be more. -/
def takeEvent (rules : CallRules) (event : WordEvent) : CallWork Bool := do
  match event with
  | .word text =>
    let word := String.ofList text
    match rules.slot with
    | some slot => runReplaced rules slot word
    | none => pushWord rules word
    return true
  | .line counts =>
    if counts then modify fun calls => { calls with lines := calls.lines + 1 }
    match rules.maxLines with
    | some most =>
      if most ≤ (← get).lines then
        runGathered rules
        modify fun calls => { calls with lines := 0 }
    | none => pure ()
    return true
  | .stop => return false
  | .unmatched mark =>
    if rules.slot.isNone && 0 < (← get).count then runGathered rules
    (Work.fail ("unmatched " ++ (if mark = '"' then "double" else "single") ++
      " quote; by default quotes are special to xargs unless you use the -0 option") : Work Bool)

/-- Deals with what was found up to a stop. -/
def takeEvents (rules : CallRules) : List WordEvent → CallWork Bool
  | [] => return true
  | event :: rest => do
    match ← takeEvent rules event with
    | true => takeEvents rules rest
    | false => return false

/-- Takes the words of an input without quotes; `fuel` bounds their number. -/
def takeMarked (rules : CallRules) : (fuel : Nat) → Stream → CallWork Unit
  | 0, _ => return
  | fuel + 1, stream => do
    match ← (stream.next : Work (Option TextLine × Stream)) with
    | (none, _) => return
    | (some line, rest) =>
      let text := WordRules.visible line.content
      let _ ← takeEvents rules [.word text, .line line.isEnded]
      takeMarked rules fuel rest

/-- Takes the words of an input line by line; `fuel` bounds the lines. -/
def takeWords (rules : CallRules) (cut : WordRules) :
    (fuel : Nat) → Stream → WordState → (isWarned : Bool) → CallWork Unit
  | 0, _, _, _ => return
  | fuel + 1, stream, state, isWarned => do
    match ← (stream.next : Work (Option TextLine × Stream)) with
    | (none, _) =>
      let _ ← takeEvents rules (cut.finish state)
      return
    | (some line, rest) =>
      let hasZero := line.content.contains '\x00'
      if hasZero && !isWarned then
        (Work.warn ("WARNING: a NUL character occurred in the input.  It cannot be passed " ++
          "through in the argument list.  Did you mean to use the --null option?") : Work Unit)
      let (state, events) := cut.run state
        (if line.isEnded then line.content ++ ['\n'] else line.content)
      match ← takeEvents rules events with
      | true => takeWords rules cut fuel rest state (isWarned || hasZero)
      | false => return

/-! ## The tool -/

/-- A mark between words, given as itself or as an escape. -/
def wordMark (text : String) : Work Char := do
  let invalid : Work Char := Work.fail ("Invalid input delimiter specification " ++ text ++
    ": the delimiter must be either a single character or an escape sequence starting with \\.")
  let numbered (base : Nat) (digits : List Char) : Work Char := do
    let value? := digits.foldl (fun (n : Option Nat) c => do
      let n ← n
      let d := if c.isDigit then c.toNat - '0'.toNat
        else if 'a' ≤ c.toLower && c.toLower ≤ 'f' then c.toLower.toNat - 'a'.toNat + 10 else 16
      if d < base then some (n * base + d) else none) (some 0)
    match value? with
    | some value =>
      if value < 256 then return Char.ofNat value
      Work.fail ("Invalid escape sequence " ++ text ++ " in input delimiter specification; " ++
        "character values must not exceed " ++ (if base = 16 then "ff" else "377") ++ ".")
    | none => Work.fail ("Invalid escape sequence " ++ text ++
        " in input delimiter specification; trailing characters " ++ String.ofList
        (digits.dropWhile fun c => c.isDigit) ++ " not recognised.")
  match text.toList with
  | [c] => return c
  | ['\\', c] =>
    match c with
    | 'a' => return '\x07'
    | 'b' => return '\x08'
    | 'f' => return '\x0c'
    | 'n' => return '\n'
    | 'r' => return '\r'
    | 't' => return '\t'
    | 'v' => return '\x0b'
    | '\\' => return '\\'
    | _ =>
      if c.isDigit then numbered 8 [c]
      else Work.fail ("Invalid escape sequence " ++ text ++ " in input delimiter specification.")
  | '\\' :: 'x' :: digits => numbered 16 digits
  | '\\' :: digits => numbered 8 digits
  | _ => invalid

/-- A number given with an option; one that is out of bounds is a mistake, or is brought
into bounds where `adapts` holds. -/
def optionNumber (letter : Char) (text : String) (least : Nat) (most : Option Nat)
    (adapts : Bool) : Work Nat := do
  let name := "-" ++ String.singleton letter ++ " option"
  let wrong (bound : String) (value : Nat) : Work Nat := do
    Work.warn ("value " ++ text ++ " for " ++ name ++ " should be " ++ bound)
    if adapts then return value
    Work.hint
  match integer? text with
  | none =>
    Work.warn ("invalid number \"" ++ text ++ "\" for " ++ name)
    Work.hint
  | some value =>
    if value < (least : Int) then wrong (">= " ++ toString least) least
    else match most with
      | some most =>
        if (most : Int) < value then wrong ("<= " ++ toString most) most
        else return value.toNat
      | none => return value.toNat

/-- The most characters of a call, where no other number is given. -/
def usualCallSize : Nat := 131072

/-- The most characters that may be asked for. -/
def greatestCallSize : Nat := 2092983

/-- What the options of the tool ask for. -/
structure CallOptions where
  rules : CallRules
  mark : Option Char
  stopWord : Option String
  file : Option String

namespace CallOptions

def usual : CallOptions :=
  ⟨⟨[], none, none, usualCallSize, none, false, false, true, some 1, false⟩, none, none, none⟩

/-- Warns that one option takes the place of another. -/
def supersede (older newer kept : String) : Work Unit :=
  Work.warn ("warning: options --" ++ older ++ " and " ++ newer ++
    " are mutually exclusive, ignoring previous --" ++ kept ++ " value")

def take (options : CallOptions) (letter : Char) (value : String) : Work CallOptions := do
  let rules := options.rules
  let withRules (rules : CallRules) : CallOptions := { options with rules }
  let slotted (slot : String) : Work CallOptions := do
    if rules.maxWords.isSome then
      supersede "max-args" "--replace/-I/-i" "max-args"
    if rules.maxLines.isSome then
      supersede "max-lines" "--replace/-I/-i" "max-lines"
    return withRules { rules with slot := some slot, maxWords := none, maxLines := none }
  let lined (name text : String) : Work CallOptions := do
    let most ← optionNumber letter text 1 none false
    if rules.maxWords.isSome then supersede "max-args" name "max-args"
    if rules.slot.isSome then supersede "replace" name "replace"
    return withRules { rules with maxLines := some most, maxWords := none, slot := none }
  match letter with
  | '0' => return { options with mark := some '\x00' }
  | 'd' => return { options with mark := some (← wordMark value) }
  | 'a' => return { options with file := some value, rules := { rules with sharesInput := true } }
  | 'E' => return { options with stopWord := if value.isEmpty then none else some value }
  | 'e' => return { options with stopWord := if value.isEmpty then none else some value }
  | 'I' => slotted value
  | 'i' => slotted (if value.isEmpty then "\x7b\x7d" else value)
  | 'L' => lined "-L" value
  | 'l' => lined "--max-lines/-l" (if value.isEmpty then "1" else value)
  | 'n' =>
    let most ← optionNumber letter value 1 none false
    if rules.maxLines.isSome then
      supersede "max-lines" "--max-args/-n" "max-lines"
    if rules.slot.isSome then
      if most = 1 then return options
      supersede "replace" "--max-args/-n" "replace"
    return withRules { rules with maxWords := some most, maxLines := none, slot := none }
  | 's' =>
    let most ← optionNumber letter value 1 (some greatestCallSize) true
    return withRules { rules with maxSize := most }
  | 'P' =>
    let most ← optionNumber letter value 0 none false
    return withRules { rules with atOnce := if most = 0 then none else some most }
  | 'r' => return withRules { rules with runsEmpty := false }
  | 't' => return withRules { rules with isVerbose := true }
  | 'x' => return withRules { rules with isStrict := true }
  | _ => return options

end CallOptions

/-- The letters and names of the options. -/
def callRulesOfWords : Rules :=
  ⟨['0', 'r', 't', 'x', 'p', 'o'], ['a', 'd', 'E', 'I', 'L', 'n', 'P', 's'], ['e', 'i', 'l'],
    [("null", '0'), ("arg-file", 'a'), ("delimiter", 'd'), ("eof", 'e'), ("replace", 'i'),
      ("max-lines", 'l'), ("max-args", 'n'), ("max-procs", 'P'), ("interactive", 'p'),
      ("no-run-if-empty", 'r'), ("max-chars", 's'), ("verbose", 't'), ("exit", 'x'),
      ("open-tty", 'o')], false⟩

/-- Runs the command on everything in the input. -/
def runCalls (rules : CallRules) (options : CallOptions) (descriptor : Nat) : CallWork Unit := do
  match options.mark with
  | some mark =>
    takeMarked rules Stream.pieceBound (Stream.ofDescriptor descriptor (UInt8.ofNat mark.toNat))
  | none =>
    takeWords rules ⟨rules.slot.isSome, options.stopWord⟩ Stream.pieceBound
      (Stream.ofDescriptor descriptor 10) .start false
  let calls ← get
  if rules.slot.isNone && (0 < calls.count || (rules.runsEmpty && !calls.hasRun)) then
    runGathered rules
  awaitRoom rules 1 1000000
  match (← get).failure with
  | some status => (Work.setStatus status : Work Unit)
  | none => pure ()

/-- Builds command lines from an input and runs them. -/
def xargs : Utility := fun words => do
  let (given, operands, mistake) := callRulesOfWords.readFrom (words.length + 1) [] [] words
  let mut options := CallOptions.usual
  for (letter, value) in given.reverse do
    options ← options.take letter value
  match mistake with
  | some text => Work.misuse text
  | none => pure ()
  let command := if operands.isEmpty then ["echo"] else operands.reverse
  let rules := { options.rules with command }
  let descriptor ← (do
    match options.file with
    | none => return 0
    | some path =>
      match ← Activity.openFile path .input with
      | .ok descriptor => return descriptor
      | .error fault =>
        Work.fail ("Cannot open input file " ++ quoted path ++ ": " ++ fault.text) : Work Nat)
  if rules.maxSize < rules.initialSize then
    Work.fail "cannot fit single argument within argument list size limit"
  match ← Activity.attempt ((runCalls rules options descriptor).run .start) with
  | .ok _ => pure ()
  | .error status =>
    awaitAll 1000000
    throw status

end Conformance.Tool
