import Conformance.Tool.Find.Expression
import Conformance.Tool.Launch
import Conformance.Tool.Listing

/-!
# Looking for files

`find` walks through directories and asks an expression about every file it meets.  A
directory comes before what is inside it, or behind it where that is asked for.
-/

namespace Conformance.Tool

open Machine Shell Find

/-- A file that is met on a walk. -/
structure FoundFile where
  path : String
  /-- The operand at which the walk began. -/
  start : String
  depth : Nat
  info : Info

/-- What a walk has come to. -/
structure FindState where
  /-- Whether the current directory is left out. -/
  prunes : Bool
  isOver : Bool
  /-- Paths that wait for a command, by the command, latest first. -/
  waiting : List (Nat × List String)
  commands : List (Nat × List String)

abbrev FindWork := StateT FindState Work

namespace FoundFile

def name (file : FoundFile) : String := lastName file.path

/-- The path behind the operand. -/
def below (file : FoundFile) : String :=
  let rest := file.path.toList.drop file.start.length
  String.ofList (rest.dropWhile (· = '/'))

/-- The path of the directory that holds the file. -/
def above (file : FoundFile) : String :=
  let reversed := file.path.toList.reverse.dropWhile (· = '/')
  match reversed.dropWhile (· ≠ '/') with
  | [] => "."
  | '/' :: [] => "/"
  | _ :: rest => String.ofList rest.reverse

def letterOf (kind : Kind) : Char :=
  match kind with
  | .regular => 'f'
  | .directory => 'd'
  | .link => 'l'
  | .queue => 'p'
  | .device => 'c'

/-- What a file leads to, or what it is itself if it was followed already. -/
def otherInfo (following : Following) (file : FoundFile) : Work Info := do
  let other ← if following = .all then Activity.examineItself file.path
    else Activity.examine file.path
  match other with
  | .ok info => return info
  | .error _ => return file.info

def isEmpty (file : FoundFile) : Work Bool := do
  match file.info.kind with
  | .regular => return file.info.size = 0
  | .directory =>
    match ← Activity.list file.path with
    | .ok names => return names.isEmpty
    | .error fault =>
      Work.complain (quoted file.path ++ ": " ++ fault.text)
      return false
  | _ => return false

def satisfies (following : Following) (file : FoundFile) : Test → Work Bool
  | .name pattern folds =>
    return fits pattern (if folds then file.name.toLower else file.name).toList
  | .path pattern folds =>
    return fits pattern (if folds then file.path.toLower else file.path).toList
  | .regex body => return body.matchesWhole file.path.toList
  | .linkName pattern folds => do
    if file.info.kind ≠ .link then return false
    match ← Activity.readLink file.path with
    | .ok text => return fits pattern (if folds then text.toLower else text).toList
    | .error _ => return false
  | .kinds letters turns => do
    let info ← if turns then file.otherInfo following else pure file.info
    return letters.contains (letterOf info.kind)
  | .isEmpty => file.isEmpty
  | .size bound count unit => return bound.holds ((file.info.size + unit - 1) / unit) count
  | .changed bound instant window =>
    let time := Int.ofNat file.info.modified
    return match bound with
      | .more => time < instant
      | .less => instant < time
      | .exactly => instant < time && time ≤ instant + Int.ofNat window
  | .mode bits how =>
    let shared := Nat.land file.info.mode bits
    return match how with
      | .exactly => file.info.mode = bits
      | .all => shared = bits
      | .any => bits = 0 || shared ≠ 0
  | .links bound count => return bound.holds file.info.links count
  | .node bound number => return bound.holds file.info.node number
  | .mayRead => return file.info.canRead
  | .mayWrite => return file.info.canWrite
  | .mayRun => return file.info.canRun
  | .owned isOwn => return isOwn
  | .constant value => return value

/-! ## Formats -/

/-- The time of the last change with its fraction, as a letter shows it. -/
def timeField (moment : Moment) (letter : Char) : String :=
  let fraction := "." ++ Moment.padded 9 moment.nanos ++ "0"
  let plain (text : String) : String := String.ofList (moment.format text.toList)
  match letter with
  | '@' => plain "%s" ++ fraction
  | 'S' => plain "%S" ++ fraction
  | 'T' => plain "%T" ++ fraction
  | 'X' => plain "%T" ++ fraction
  | '+' => plain "%F+%T" ++ fraction
  | c => (moment.field c).getD ""

def field (file : FoundFile) (target : String) (followed : Char) (letter : Char) :
    Option String :=
  let info := file.info
  match letter with
  | 'p' => some file.path
  | 'f' => some file.name
  | 'h' => some file.above
  | 'P' => some file.below
  | 'H' => some file.start
  | 'd' => some (toString file.depth)
  | 's' => some (toString info.size)
  | 'm' => some (octalText 1 info.mode)
  | 'M' => some (modeText info)
  | 'y' => some (String.singleton (letterOf info.kind))
  | 'Y' => some (String.singleton followed)
  | 'l' => some target
  | 'u' => some userName
  | 'g' => some userName
  | 'U' => some userNumber
  | 'G' => some userNumber
  | 'n' => some (toString info.links)
  | 'i' => some (toString info.node)
  | 'k' => some (toString (blocksOf info))
  | 'b' => some (toString (2 * blocksOf info))
  | 'D' => some "65024"
  | 'F' => some "ext4"
  | 'S' => some "1"
  | _ =>
    if "tac".toList.contains letter then
      let moment := Moment.ofNanos info.modified
      some (String.ofList (moment.format "%a %b %e ".toList) ++ timeField moment 'T' ++ " " ++
        String.ofList (moment.format "%Y".toList))
    else none

/-- The character that an escape of a format stands for, and how many letters it has. -/
def escape? (text : List Char) : Option (List Char × Nat) :=
  match text with
  | 'n' :: _ => some (['\n'], 1)
  | 't' :: _ => some (['\t'], 1)
  | 'a' :: _ => some (['\x07'], 1)
  | 'b' :: _ => some (['\x08'], 1)
  | 'f' :: _ => some (['\x0c'], 1)
  | 'r' :: _ => some (['\r'], 1)
  | 'v' :: _ => some (['\x0b'], 1)
  | '\\' :: _ => some (['\\'], 1)
  | _ =>
    let digits := (text.take 3).takeWhile fun c => '0' ≤ c && c ≤ '7'
    if digits.isEmpty then none
    else some ([Char.ofNat (digits.foldl (fun n c => n * 8 + (c.toNat - '0'.toNat)) 0 % 256)],
      digits.length)

/-- A format with everything filled in; `fuel` bounds the characters. -/
def layout (field : Char → Option String) (time : Char → String) :
    (fuel : Nat) → List Char → List Char
  | 0, _ => []
  | _ + 1, [] => []
  | _ + 1, '\\' :: 'c' :: _ => []
  | fuel + 1, '\\' :: rest =>
    match escape? rest with
    | some (text, count) => text ++ layout field time fuel (rest.drop count)
    | none => '\\' :: layout field time fuel rest
  | fuel + 1, '%' :: rest =>
    let flags := rest.takeWhile isLayoutFlag
    let digits := (rest.drop flags.length).takeWhile Char.isDigit
    let width := (natural? digits).getD 0
    let fill (text : String) : List Char :=
      if flags.contains '-' then (padRight width text).toList
      else if flags.contains '0' && text.toList.all Char.isDigit then
        List.replicate (width - text.length) '0' ++ text.toList
      else (padLeft width text).toList
    match rest.drop (flags.length + digits.length) with
    | [] => []
    | '%' :: more => '%' :: layout field time fuel more
    | c :: more =>
      if "TACB".toList.contains c then
        match more with
        | letter :: after => fill (time letter) ++ layout field time fuel after
        | [] => []
      else match field c with
        | some text => fill text ++ layout field time fuel more
        | none => '%' :: c :: layout field time fuel more
  | fuel + 1, c :: rest => c :: layout field time fuel rest

/-- Writes a text where an act wants it. -/
def send (descriptor : Option Nat) (text : List Char) : Work Unit := do
  match descriptor with
  | none => Work.putChars text
  | some number =>
    let _ ← Activity.write number (dataOfChars text)

def putLayout (following : Following) (descriptor : Option Nat) (file : FoundFile)
    (text : List Char) : Work Unit := do
  let target ← if file.info.kind = .link then do
      match ← Activity.readLink file.path with
      | .ok target => pure target
      | .error _ => pure ""
    else pure ""
  let followed ← if file.info.kind = .link && following ≠ .all then do
      match ← Activity.examine file.path with
      | .ok info => pure (letterOf info.kind)
      | .error .linkLoop => pure 'L'
      | .error _ => pure 'N'
    else pure (letterOf file.info.kind)
  send descriptor (layout (file.field target followed)
    (timeField (Moment.ofNanos file.info.modified)) (text.length + 1) text)

/-- Shows everything about a file in one line. -/
def putDetails (now : Nat) (descriptor : Option Nat) (file : FoundFile) : Work Unit := do
  let info := file.info
  let moment := Moment.ofNanos info.modified
  let isRecent := info.modified ≤ now && now < info.modified + 15778476 * 1000000000
  let time := moment.format (if isRecent then "%b %e %H:%M" else "%b %e  %Y").toList
  let target ← if info.kind = .link then do
      match ← Activity.readLink file.path with
      | .ok target => pure (" -> " ++ target)
      | .error _ => pure ""
    else pure ""
  send descriptor (padLeft 9 (toString info.node) ++ " " ++ padLeft 6 (toString (blocksOf info)) ++
    " " ++ modeText info ++ " " ++ padLeft 3 (toString info.links) ++ " " ++
    padRight 8 userName ++ " " ++ padRight 8 userName ++ " " ++ padLeft 8 (toString info.size) ++
    " " ++ String.ofList time ++ " " ++ file.path ++ target ++ "\n").toList

end FoundFile

/-! ## Acts -/

/-- A text with every pair of braces in it replaced. -/
def fillBraces (value : List Char) : List Char → List Char
  | '\x7b' :: '\x7d' :: rest => value ++ fillBraces value rest
  | c :: rest => c :: fillBraces value rest
  | [] => []

/-- Runs a command and tells whether it has succeeded. -/
def runFound (directory : Option String) (words : List String) : Work Bool := do
  let prepare : Work Unit := match directory with
    | some path => do
      let _ ← Activity.ask (.changeDirectory path)
    | none => return
  let environment := (← get).environment
  let process ← Work.spawn prepare quoted words environment
  return (← Work.await process 1000) = .status 0

/-- How many characters the paths of one command may have. -/
def gatherLimit : Nat := 100000

def runWaiting (index : Nat) : FindWork Unit := do
  let state ← get
  let paths := (state.waiting.lookup index).getD []
  let words := (state.commands.lookup index).getD []
  if !paths.isEmpty then
    set { state with waiting := state.waiting.filter (·.1 ≠ index) }
    let succeeds ← (runFound none (words ++ paths.reverse) : Work Bool)
    if !succeeds then (Work.setStatus 1 : Work Unit)

/-- Does what an expression says with a file, and tells whether it worked out. -/
def performAct (settings : Walk) (file : FoundFile) : Act → FindWork Bool
  | .print descriptor mark => do
    (FoundFile.send descriptor (file.path.toList ++ [mark]) : Work Unit)
    return true
  | .layout descriptor text => do
    (FoundFile.putLayout settings.following descriptor file text : Work Unit)
    return true
  | .list descriptor => do
    (FoundFile.putDetails settings.now descriptor file : Work Unit)
    return true
  | .run words inside asks => do
    let value := if inside then "./" ++ file.name else file.path
    let filled := words.map fun word => String.ofList (fillBraces value.toList word.toList)
    let agrees ← if asks then (do
        Work.flush
        let question := "< " ++ (words.headD "") ++ " ... " ++ file.path ++ " > ? "
        let _ ← Activity.write 2 (dataOfRaw question)
        match ← Activity.ask (.readTo 0 10) with
        | .data bytes => return bytes.size ≠ 0 && (bytes.get! 0 = 121 || bytes.get! 0 = 89)
        | _ => return false : Work Bool)
      else pure true
    if !agrees then return false
    (runFound (if inside then some file.above else none) filled : Work Bool)
  | .gather index words => do
    let state ← get
    let paths := file.path :: (state.waiting.lookup index).getD []
    set { state with
      waiting := (index, paths) :: state.waiting.filter (·.1 ≠ index)
      commands := (index, words) :: state.commands.filter (·.1 ≠ index) }
    if gatherLimit < paths.foldl (fun n path => n + path.length + 1) 0 then runWaiting index
    return true
  | .delete => do
    if file.path = "." then return true
    let request : Request := if file.info.kind = .directory then .removeDirectory file.path
      else .remove file.path
    match ← (Activity.attemptTo request : Work (Option Fault)) with
    | none => return true
    | some fault =>
      (Work.complain ("cannot delete " ++ quoted file.path ++ ": " ++ fault.text) : Work Unit)
      return false
  | .prune => do
    modify fun state => { state with prunes := true }
    return true
  | .quit => do
    modify fun state => { state with isOver := true }
    return true

def evaluate (settings : Walk) (file : FoundFile) : Expression → FindWork Bool
  | .test body => (file.satisfies settings.following body : Work Bool)
  | .act body => performAct settings file body
  | .not body => do
    let holds ← evaluate settings file body
    return !holds
  | .both first second => do
    let holds ← evaluate settings file first
    if !holds || (← get).isOver then return false
    evaluate settings file second
  | .either first second => do
    let holds ← evaluate settings file first
    if holds || (← get).isOver then return true
    evaluate settings file second
  | .inTurn first second => do
    let _ ← evaluate settings file first
    if (← get).isOver then return false
    evaluate settings file second

/-- Asks about a file that is deep enough. -/
def meet (settings : Walk) (expression : Expression) (file : FoundFile) : FindWork Unit := do
  modify fun state => { state with prunes := false }
  if settings.least ≤ file.depth && !(← get).isOver then
    let _ ← evaluate settings file expression

mutual

/-- Walks through a file and what is inside; `fuel` bounds the depth. -/
def walkThrough (settings : Walk) (expression : Expression) (fuel : Nat)
    (path start : String) (depth : Nat) : FindWork Unit := do
  match fuel with
  | 0 => return
  | fuel + 1 =>
    let follows := settings.following = .all || (settings.following = .operands && depth = 0)
    let info? ← (do
      let itself ← Activity.examineItself path
      if !follows then return itself
      match ← Activity.examine path with
      | .ok info => return .ok info
      | .error .notFound => return itself
      | .error fault => return .error fault : Work (Except Fault Info))
    match info? with
    | .error fault => (Work.complain (quoted path ++ ": " ++ fault.text) : Work Unit)
    | .ok info =>
      let file : FoundFile := ⟨path, start, depth, info⟩
      let goesOn := info.kind = .directory && settings.most.all (depth < ·)
      if !settings.depthFirst then meet settings expression file
      let state ← get
      if goesOn && !state.isOver && (settings.depthFirst || !state.prunes) then
        match ← (Activity.list path : Work (Except Fault (List String))) with
        | .ok names => walkInside settings expression fuel path start (depth + 1) names
        | .error fault => (Work.complain (quoted path ++ ": " ++ fault.text) : Work Unit)
      if settings.depthFirst then meet settings expression file
termination_by (fuel, 0)

def walkInside (settings : Walk) (expression : Expression) (fuel : Nat)
    (directory start : String) (depth : Nat) (names : List String) : FindWork Unit := do
  match names with
  | [] => return
  | name :: rest =>
    if (← get).isOver then return
    walkThrough settings expression fuel (joinPath directory name) start depth
    walkInside settings expression fuel directory start depth rest
termination_by (fuel, names.length + 1)

end

def walkAll (settings : Walk) (expression : Expression) : List String → FindWork Unit
  | [] => return
  | path :: rest => do
    if (← get).isOver then return
    walkThrough settings expression depthLimit path path 0
    walkAll settings expression rest

def findOptions : (following : Following) → List String → Following × List String
  | _, "-L" :: rest => findOptions .all rest
  | _, "-H" :: rest => findOptions .operands rest
  | _, "-P" :: rest => findOptions .nothing rest
  | following, words => (following, words)

def layoutFaults (text : List Char) : Work Unit := do
  let rec go : List Char → Work Unit
    | '\\' :: c :: rest => do
      if c ≠ 'c' && (FoundFile.escape? (c :: rest)).isNone then
        Work.warn ("warning: unrecognized escape \x60\\" ++ String.singleton c ++ "'")
      go rest
    | ['%'] => Work.fail "error: % at end of format string"
    | '%' :: rest => go rest
    | _ :: rest => go rest
    | [] => return
  go text

def checkLayouts : Expression → Work Unit
  | .act (.layout _ text) => layoutFaults text
  | .not body => checkLayouts body
  | .both first second => do
    checkLayouts first
    checkLayouts second
  | .either first second => do
    checkLayouts first
    checkLayouts second
  | .inTurn first second => do
    checkLayouts first
    checkLayouts second
  | _ => return

def find : Utility := fun words => do
  let (following, rest) := findOptions .nothing words
  let operands := rest.takeWhile (!beginsExpression ·)
  let now ← Activity.now
  let (settings, items) ← itemsOf (rest.length + 1)
    ⟨following, 0, none, false, none, now, 0⟩ (rest.drop operands.length)
  match expressionOf items with
  | .error message => Work.fail message
  | .ok expression =>
    checkLayouts expression
    let paths := if operands.isEmpty then ["."] else operands
    let start : FindState := ⟨false, false, [], []⟩
    let ((), state) ← (walkAll settings expression paths).run start
    let indices := state.waiting.reverse.map (·.1)
    let rec finish : List Nat → FindWork Unit
      | [] => return
      | index :: rest => do
        runWaiting index
        finish rest
    let _ ← (finish indices).run state

end Conformance.Tool
