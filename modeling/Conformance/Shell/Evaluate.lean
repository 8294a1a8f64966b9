import Conformance.Shell.Redirect

/-!
# Running commands

How every kind of command runs and what its status is.  A command that is the last one
of its process is started in place of the shell.  The commands of the shell itself are
given as a table.
-/

namespace Conformance.Shell

open Machine

/-- A command of the shell itself. -/
structure Builtin where
  run : Runner → Manner → List String → Sh Nat
  /-- Whether a mistake in it ends the script, and assignments in front of it stay. -/
  isSpecial : Bool
  /-- Whether its arguments may be assignments. -/
  takesAssignments : Bool

/-- The commands of the shell itself, by name. -/
abbrev BuiltinTable := Dialect → String → Option Builtin

/-- Where a command is found. -/
inductive Located where
  | function (name : String) (line : Nat) (body : Option Command)
  | builtin (name : String) (command : Builtin)
  /-- A program at one of some paths. -/
  | program (paths : List String)
  | missing (fault : Fault)

namespace Sh

/-- Puts a text in place of the script, runs what reads it, and brings the script
back. -/
def withSource {α : Type} (source : Source) (body : Sh α) : Sh α := do
  let before := (← get).source
  modify fun session => { session with source }
  let result ← Activity.attempt body
  modify fun session => { session with source := before }
  match result with
  | .ok a => return a
  | .error stop => throw stop

def sourceOf (text : String) : Sh Source := do
  let session ← get
  return ⟨.ofText session.dialect text.toList true, none⟩

/-- Complains about a script that cannot be read. -/
def failReading {α : Type} (line : Nat) (reason : String) : Sh α := do
  modify fun session => { session with line }
  match (← get).dialect with
  | .standard => fail ("Syntax error: " ++ reason)
  | .extended =>
    modify fun session => { session with command := none }
    warn ("syntax error" ++ (if reason.startsWith "near" then " " else ": ") ++ reason)
    setStatus 2
    throw .mistake

/-- The next complete command of the script; nothing at its end.  `fuel` bounds how
often more of the script has to be read. -/
def nextCommand : (fuel : Nat) → Sh (Option (Option Command))
  | 0 => return none
  | fuel + 1 => do
    let session ← get
    let scan := { session.source.scan with
      aliases := session.aliases, nextDocument := session.nextDocument, documents := [] }
    match Read.completeCommand.run scan with
    | .ok (command, after) =>
      set { session with
        source := { session.source with scan := after }
        documents := after.documents ++ session.documents
        nextDocument := after.nextDocument }
      return command
    | .error (.wrong line reason) => failReading line reason
    | .error .more =>
      match session.source.descriptor with
      | none =>
        set { session with source := { session.source with
          scan := { session.source.scan with isWhole := true } } }
        nextCommand fuel
      | some descriptor =>
        match ← Activity.read descriptor 8192 with
        | .ok data =>
          let text := (charsOfData data).filter (· ≠ '\x00')
          set { session with source := { session.source with
            scan := { session.source.scan with
              rest := session.source.scan.rest ++ text
              isWhole := data.isEmpty } } }
          nextCommand fuel
        | .error .interrupted => nextCommand fuel
        | .error _ =>
          set { session with source := { session.source with
            scan := { session.source.scan with isWhole := true } } }
          nextCommand fuel

/-- More than a script has commands or pieces. -/
def scriptBound : Nat := 1000000000

/-- Runs the commands of the script up to its end.  With `manner.exits`, the last one
ends the process. -/
def runScript (tree : Eval) (manner : Manner) : (fuel : Nat) → (status : Nat) → Sh Nat
  | 0, status => return status
  | fuel + 1, status => do
    match ← nextCommand scriptBound with
    | none => return status
    | some command =>
      let scan := (← get).source.scan
      let isLast := scan.isPushedBack && scan.last = .finish
      let result ← tree { manner with exits := manner.exits && isLast } command
      let status := if command.isSome then result else status
      if (← get).skip ≠ .nothing then return status
      else runScript tree manner fuel status

def runText (tree : Eval) (manner : Manner) (text : String) : Sh Nat := do
  withSource (← sourceOf text) (runScript tree manner scriptBound 0)

/-- Runs the actions for signals that have come. -/
def handleSignals (runner : Runner) : Sh Unit := do
  let session ← get
  if session.traps.any fun (signal, action) => signal ≠ 0 && !action.isEmpty then
    let taken ← match ← Activity.ask .takeSignals with
      | .signals numbers => pure numbers
      | _ => pure []
    let waiting := (session.pending ++ taken).mergeSort (· ≤ ·)
    if !waiting.isEmpty then
      modify fun session => { session with pending := waiting }
      if session.skip = .nothing then
        for signal in waiting do
          let now ← get
          if now.skip = .nothing then
            modify fun session => { session with pending := session.pending.erase signal }
            match now.traps.lookup signal with
            | some action =>
              if !action.isEmpty then
                let status := now.status
                modify fun session => { session with saved := some (now.saved.getD status) }
                runner.text action
                modify fun session => { session with saved := now.saved }
                if (← get).skip ≠ .function true then setStatus status
            | none => pure ()

end Sh

section

variable (builtins : BuiltinTable)

/-- The paths at which a program with a plain name may be, in the order in which the
directories are searched; an empty one is the working directory. -/
def searchPaths (directories : String) (name : String) : List String :=
  (cut directories.toList).map fun directory =>
    if directory.isEmpty then name
    else if directory.getLast? = some '/' then String.ofList directory ++ name
    else String.ofList directory ++ "/" ++ name
where
  /-- The pieces between colons. -/
  cut : List Char → List (List Char)
    | [] => [[]]
    | ':' :: rest => [] :: cut rest
    | c :: rest =>
      match cut rest with
      | [] => [[c]]
      | piece :: more => (c :: piece) :: more

/-- The directories that are searched if nothing else is said. -/
def usualPath : String := "/usr/local/sbin:/usr/local/bin:/usr/sbin:/usr/bin:/sbin:/bin"

namespace Sh

/-- Looks for a program at some paths. -/
def searchFor : List String → (fault : Fault) → Sh Located
  | [], fault => return .missing fault
  | path :: rest, fault => do
    match ← Activity.examine path with
    | .error other =>
      searchFor rest (if other = .notFound || other = .notDirectory then fault else other)
    | .ok info =>
      if info.kind = .regular && info.canRun then return .program (path :: rest)
      else searchFor rest .permissionDenied

/-- Finds a command.  `directories` are searched for programs, if there are any. -/
def locate (withFunctions : Bool) (directories : Option String) (name : String) :
    Sh Located := do
  let session ← get
  if name.toList.contains '/' then return .program [name]
  else
    let function? := if withFunctions then session.functions.lookup name else none
    let own := builtins session.dialect name
    let isSpecial := (own.map (·.isSpecial)).getD false
    match function?, own with
    | some (line, body), _ =>
      if isSpecial && session.dialect = .standard then
        match own with
        | some command => return .builtin name command
        | none => return .function name line body
      else return .function name line body
    | none, some command => return .builtin name command
    | none, none =>
      match directories with
      | some path => searchFor (searchPaths path name) .notFound
      | none => return .missing .notFound

def searchPath : Sh String := do return ((← get).text? "PATH").getD ""

/-- Why a program cannot be started, in the words of a shell. -/
def executeReason (dialect : Dialect) (name : String) (fault : Fault) : String :=
  match dialect with
  | .standard => if fault = .notFound || fault = .notDirectory then "not found" else fault.text
  | .extended =>
    if fault = .notFound && !name.toList.contains '/' then "command not found" else fault.text

/-- The status of a program that cannot be started. -/
def executeStatus (fault : Fault) : Nat :=
  if [Fault.linkLoop, .nameTooLong, .notFound, .notDirectory].contains fault then 127 else 126

/-- Starts a program at the first of some paths in place of the shell. -/
def executeAt (arguments environment : List String) :
    List String → (fault : Fault) → Sh Fault
  | [], fault => return fault
  | path :: rest, fault => do
    match ← Activity.attemptTo (.execute path arguments environment) with
    | some .badFormat =>
      match ← Activity.attemptTo
          (.execute "/bin/sh" ("/bin/sh" :: path :: arguments.drop 1) environment) with
      | some _ => return .badFormat
      | none => return .badFormat
    | some other =>
      executeAt arguments environment rest
        (if other = .notFound || other = .notDirectory then fault else other)
    | none => return fault

/-- Starts a program in place of the shell; comes back only to break off. -/
def execute (paths arguments : List String) : Sh Nat := do
  let session ← get
  let name := arguments.headD ""
  let fault ← executeAt arguments session.environment paths .notFound
  let isDirectory : Bool ← if session.dialect = .extended && fault = .permissionDenied then do
      match ← Activity.examine name with
      | .ok info => pure (info.kind = .directory)
      | .error _ => pure false
    else pure false
  warn (name ++ ": " ++
    (if isDirectory then "Is a directory" else executeReason session.dialect name fault))
  setStatus (executeStatus fault)
  throw .leave

/-- Whether some signal has an action. -/
def hasTraps : Sh Bool := do
  return (← get).traps.any fun (_, action) => !action.isEmpty

/-- Runs a program as a process of its own, or in place of the shell. -/
def runProgram (runner : Runner) (manner : Manner) (paths arguments : List String) : Sh Nat := do
  if manner.exits && !(← hasTraps) then execute paths arguments
  else
    let job ← addJob
    let session ← get
    let process ← Activity.fork fun _ =>
      (execute paths arguments) session fun _ after => .exit after.status
    addMember job process
    let _ := runner
    waitForJob job

/-- Runs a command of the shell itself.  Yields how it was broken off, if it was. -/
def runBuiltin (runner : Runner) (manner : Manner) (command : Builtin) (name : String)
    (arguments : List String) : Sh (Option Stop) := do
  let saved := (← get).command
  Activity.spend builtinCost
  modify fun session => { session with command := some name }
  let result ← Activity.attempt (command.run runner manner arguments)
  match result with
  | .ok status =>
    let failed ← flush
    if failed then
      match (← get).dialect with
      | .standard => warn (name ++ ": I/O error")
      | .extended => warn "write error: Bad file descriptor"
    setStatus (if failed then Nat.lor status 1 else status)
    modify fun session => { session with command := saved }
    return none
  | .error stop =>
    modify fun session => { session with command := saved, output := [] }
    return some stop

def runFunction (runner : Runner) (manner : Manner) (name : String) (body : Option Command)
    (arguments : List String) : Sh (Option Stop) := do
  let before ← get
  set { before with
    arguments
    loops := 0
    depth := before.depth + 1
    optionIndex := 1
    optionPlace := none
    callers := name :: before.callers
    frames := [] :: before.frames }
  let result ← Activity.attempt (runner.tree ⟨false, manner.tested⟩ body)
  modify fun session =>
    let left := session.popFrame
    { left with
      arguments := before.arguments
      loops := before.loops
      depth := before.depth
      optionIndex := before.optionIndex
      optionPlace := before.optionPlace
      callers := before.callers
      skip := match left.skip with
        | .function _ => .nothing
        | other => other }
  match result with
  | .ok _ => return none
  | .error stop => return some stop

def arrayItems (runner : Runner) (isKeyed : Bool) (start : Nat)
    (items : List (Option Word × Word)) : Sh (List (String × String)) := do
  let mut place := start
  let mut found : List (String × String) := []
  for (key, word) in items do
    match key with
    | some index =>
      let text ← Expand.text runner index
      let value ← Expand.assignedText runner word
      if isKeyed then found := (text, value) :: found
      else
        let number ← Expand.evaluate text.toList
        found := (toString number.toNat, value) :: found
        place := number.toNat + 1
    | none =>
      for value in ← Expand.fieldsOf runner word do
        found := (toString place, value) :: found
        place := place + 1
  return found.reverse

def assignItems (runner : Runner) (name : String) (appends : Bool)
    (items : List (Option Word × Word)) : Sh Unit := do
  let known := ((← get).lookup? name).getD .none
  if known.isFixed then
    warn (name ++ ": readonly variable")
    setStatus 1
    throw .mistake
  let old : List (Nat × String) := if !appends then [] else match known.value with
    | some (.indexed items) => items
    | some (.scalar text) => [(0, text)]
    | _ => []
  match known.value with
  | some (.keyed keyed) =>
    let found ← arrayItems runner true 0 items
    let kept := if appends then keyed else []
    let all := found.foldl (fun all (key, value) =>
      if all.any (·.1 = key) then all.map fun item => if item.1 = key then (key, value) else item
      else all ++ [(key, value)]) kept
    modify fun session => session.setVariable name { known with value := some (.keyed all) }
  | _ =>
    let start := (old.getLast?.map (·.1 + 1)).getD 0
    let found ← arrayItems runner false start items
    let all := found.foldl (fun all (key, value) =>
      let place := ((digitsAt 10 key.toList).1).getD 0
      (place, value) :: all.filter (·.1 ≠ place)) old
    modify fun session => session.setVariable name { known with
      value := some (.indexed (all.mergeSort fun a b => a.1 ≤ b.1)) }

def assignedValue (runner : Runner) (name : String) (appends : Bool) (word : Word) :
    Sh String := do
  let text ← Expand.assignedText runner word
  let known := ((← get).lookup? name).getD .none
  let old := ((← get).text? name).getD ""
  if known.isNumber then
    let value ← Expand.evaluate text.toList
    let base ← if appends then Expand.evaluate old.toList else pure 0
    return toString (base + value)
  else return if appends then old ++ text else text

/-- Carries out an assignment and yields it as it is shown.  With `isLocal`, the variable
is exported and gets its value back later. -/
def assignOne (runner : Runner) (isLocal : Bool) (exports : Bool) : Assignment → Sh String
  | .mk name index appends value => do
    if isLocal then modify (·.remember name)
    let shown ← match value with
      | .items items => do
        assignItems runner name appends items
        pure (name ++ "=(...)")
      | .word word => do
        match index with
        | some place =>
          let text ← Expand.assignedText runner word
          let old ← match ← Expand.find (Expand.pieces runner Expand.nesting) name index with
            | .one text => pure text
            | _ => pure ""
          let all := if appends then old ++ text else text
          Expand.store (Expand.pieces runner Expand.nesting) name (some place) all
          pure (name ++ "[...]=" ++ all)
        | none =>
          let text ← assignedValue runner name appends word
          assign name text
          pure (name ++ "=" ++ text)
    if isLocal || exports then
      modify fun session => match session.lookup? name with
        | some item => session.setVariable name { item with isExported := true }
        | none => session
    return shown

/-- Shows a command that is about to run, if that is asked for. -/
def trace (runner : Runner) (descriptor : Nat) (words : List String) : Sh Unit := do
  let session ← get
  if session.has 'x' && !session.settings.contains "tracing" then
    set { session with settings := "tracing" :: session.settings }
    let sign ← match Read.quotedText session.dialect ((session.text? "PS4").getD "").toList with
      | .ok word => Expand.quotedText runner word
      | .error _ => pure ""
    modify fun after => { after with
      settings := after.settings.erase "tracing", status := session.status }
    let _ ← writeTo descriptor (sign ++ String.intercalate " " words ++ "\n")

/-- Takes the options of `command` off a list of arguments.  Yields whether the usual
directories are searched; nothing if the command is only asked about. -/
def commandOptions : List String → Bool → Option (Bool × List String)
  | [], usual => some (usual, [])
  | word :: rest, usual =>
    match word.toList with
    | ['-', '-'] => some (usual, rest)
    | '-' :: letter :: more =>
      if (letter :: more).all (· = 'p') then commandOptions rest true else none
    | _ => some (usual, word :: rest)

/-- Finds the command behind any number of `command`; `fuel` bounds them. -/
def locateCommand (directories : Option String) :
    (fuel : Nat) → (withFunctions : Bool) → (arguments : List String) →
      Sh (Located × List String × Bool)
  | 0, _, arguments => return (.missing .notFound, arguments, false)
  | fuel + 1, withFunctions, arguments => do
    let name := arguments.headD ""
    match ← locate builtins withFunctions directories name with
    | .builtin "command" own =>
      match commandOptions (arguments.drop 1) false with
      | some (usual, first :: rest) =>
        let path := if usual then directories.map fun _ => usualPath else directories
        let (found, words, _) ← locateCommand path fuel false (first :: rest)
        return (found, words, true)
      | _ => return (.builtin "command" own, arguments, false)
    | .builtin "builtin" own =>
      match arguments.drop 1 with
      | [] => return (.builtin "builtin" own, arguments, false)
      | rest =>
        let session ← get
        match builtins session.dialect (rest.headD "") with
        | some inner => return (.builtin (rest.headD "") inner, rest, true)
        | none => return (.builtin "builtin" own, arguments, false)
    | found => return (found, arguments, false)

/-- The arguments of a simple command.  Those of a command that takes assignments are
not cut if they are some. -/
def commandWords (runner : Runner) (words : List Word) : Sh (List String × List String) := do
  let rec first : List Word → Sh (List String × List Word)
    | [] => return ([], [])
    | word :: rest => do
      match ← Expand.fieldsOf runner word with
      | [] => first rest
      | found => return (found, rest)
  let (front, rest) ← first words
  if front.isEmpty then return ([], [])
  let session ← get
  let takes := match builtins session.dialect (front.headD "") with
    | some own => own.takesAssignments && (session.functions.lookup (front.headD "")).isNone
    | none => false
  let viaCommand := front.headD "" = "command" || front.headD "" = "builtin"
  let mut found : List (List String) := []
  let mut declares := takes
  let mut isPlain := viaCommand
  for word in rest do
    let assignment := if declares then Read.assignment? (session.dialect = .extended) word else none
    match assignment with
    | some (name, none, false, value) =>
      found := [← Expand.declaredText runner name value] :: found
    | some (name, none, true, value) =>
      found := [name ++ "+=" ++ (← Expand.assignedText runner value)] :: found
    | _ =>
      let fields ← Expand.fieldsOf runner word
      if isPlain then
        match fields with
        | name :: _ =>
          if !name.startsWith "-" then
            declares := ((builtins session.dialect name).map (·.takesAssignments)).getD false
            isPlain := name = "command"
        | [] => pure ()
      found := fields :: found
  return (front ++ found.reverse.flatten, front)

/-- Whether a mistake in a command ends the script. -/
def isFatal (found : Located) (viaCommand : Bool) (hasWords : Bool) : Bool :=
  match found with
  | .builtin _ own => own.isSpecial && !viaCommand
  | _ => !hasWords && false

def trackProgram (name : String) (paths : List String) : Sh Unit := do
  match paths with
  | path :: _ => if path ≠ name then modify (·.track name path 1)
  | [] => pure ()

def runSimple (runner : Runner) (manner : Manner) (line : Nat) (assignments : List Assignment)
    (words : List Word) (redirections : List Redirection) : Sh Nat := do
  modify fun session => { session with line, substituted := 0 }
  let level := (← get).replaced.length
  let frames := (← get).frames.length
  let before ← get
  let extended := before.dialect = .extended
  let (arguments, _) ← commandWords builtins runner words
  let (found, chosen, viaCommand) ← if arguments.isEmpty then
      pure (Located.missing .notFound, [], false)
    else match (← locate builtins true none (arguments.headD "")) with
      | .missing _ => pure (Located.missing .notFound, arguments, false)
      | .program _ => pure (Located.missing .notFound, arguments, false)
      | _ => locateCommand builtins none 100 true arguments
  let isSpecial := isFatal found viaCommand (!arguments.isEmpty)
  let isExec := match found with
    | .builtin "exec" _ => true
    | _ => false
  let declares := match found with
    | .builtin _ own => own.takesAssignments
    | _ => false
  let keepsValues := arguments.isEmpty || (isSpecial && !extended) || (extended && declares)
  let prepared ← redirections.mapM (prepare runner)
  pushReplaced
  let saved := (← get).replaced.length
  let leave (status : Nat) (drops : Bool) : Sh Nat := do
    if saved ≤ (← get).replaced.length then
      unwindReplaced saved scriptBound
      popReplaced drops
    unwindReplaced level scriptBound
    modify fun session =>
      (List.range (session.frames.length - frames)).foldl (fun session _ => session.popFrame)
        session
    setStatus status
    return status
  let bail (status : Nat) : Sh Nat := do
    setStatus status
    if isSpecial && !extended then throw .mistake
    leave status false
  if ← redirectSafely true prepared then bail (← get).status
  else
    let errors := match (← get).replaced with
      | frame :: _ => match frame.lookup 2 with
        | some (some aside) => aside
        | _ => 2
      | [] => 2
    if !keepsValues then modify (·.pushFrame)
    let mut shown : List String := []
    if extended && declares then
      if !before.callers.isEmpty && (chosen.headD "" = "local" || chosen.headD "" = "declare" ||
          chosen.headD "" = "typeset") then
        for item in assignments do
          let .mk name _ _ _ := item
          modify (·.remember name)
          modify (·.removeVariable name)
      if (arguments.any fun word => word.startsWith "-" && word.toList.contains 'A') then
        for item in assignments do
          let .mk name _ _ _ := item
          modify fun session => session.setVariable name
            { ((session.lookup? name).getD .none) with value := some (.keyed []) }
    for item in assignments do
      shown := (← assignOne runner (!keepsValues) (isExec && 1 < arguments.length) item) :: shown
    if (← get).has 'x' then trace runner errors (shown.reverse ++ arguments)
    let finish (stopped : Option Stop) : Sh Nat := do
      match stopped with
      | none => leave (← get).status isExec
      | some .mistake =>
        if isSpecial && !extended then throw .mistake else leave (← get).status false
      | some other => throw other
    if arguments.isEmpty then
      let status := (← get).substituted
      Activity.spend builtinCost
      leave status false
    else
      let directories ← searchPath
      let (found, chosen, viaCommand) ← match found with
        | .missing _ => locateCommand builtins (some directories) 100 true arguments
        | _ => pure (found, chosen, viaCommand)
      let _ := viaCommand
      match found with
      | .missing fault =>
        let session ← get
        warn (chosen.headD "" ++ ": " ++ executeReason session.dialect (chosen.headD "") fault)
        bail 127
      | .builtin name own =>
        finish (← runBuiltin runner manner own name (chosen.drop 1))
      | .function name _ body =>
        match ← runFunction runner manner name body (chosen.drop 1) with
        | none => leave (← get).status false
        | some stop => throw stop
      | .program paths =>
        trackProgram (chosen.headD "") paths
        let status ← runProgram runner manner paths chosen
        leave status false

/-- Looks for the program of a stage ahead, if it has a plain name. -/
def trackStage (stage : Option Command) : Sh Unit := do
  match stage with
  | some (.simple _ _ (word :: _) _) =>
    let session ← get
    match bare? word with
    | some name =>
      if session.dialect = .standard && isName name then
        match ← locate builtins true (some (← searchPath)) name with
        | .program paths => trackProgram name paths
        | _ => pure ()
    | none => pure ()
  | _ => pure ()

/-- Runs the commands of a pipe, each as a process of its own.  `source` is where the
first of them reads. -/
def startStages (runner : Runner) (manner : Manner) (job : Nat) (inBackground : Bool) :
    (source : Option Nat) → (isFirst : Bool) → List (Option Command) → Sh Unit
  | source, _, [] => do
    match source with
    | some descriptor => Activity.close descriptor
    | none => pure ()
  | source, isFirst, stage :: rest => do
    let ends ← if rest.isEmpty then pure none
      else match ← Activity.makePipe with
        | .ok ends => pure (some ends)
        | .error _ => fail "Pipe call failed"
    trackStage builtins stage
    let role : Role := if inBackground then .background isFirst else .foreground
    let process ← start runner.text job role do
      match ends with
      | some (reader, _) => Activity.close reader
      | none => pure ()
      match source with
      | some descriptor =>
        let _ ← Activity.ask (.redirect descriptor 0)
        Activity.close descriptor
      | none => pure ()
      match ends with
      | some (_, writer) =>
        let _ ← Activity.ask (.redirect writer 1)
        Activity.close writer
      | none => pure ()
      let status ← runner.tree { manner with exits := true } stage
      setStatus status
    if inBackground then modify fun session => { session with lastJob := some process }
    match source with
    | some descriptor => Activity.close descriptor
    | none => pure ()
    match ends with
    | some (reader, writer) =>
      Activity.close writer
      startStages runner manner job inBackground (some reader) false rest
    | none => pure ()

/-- Remembers how the stages of the last pipe ended. -/
def recordStatuses (statuses : List Nat) : Sh Unit := do
  if (← get).dialect = .extended then
    modify fun session => session.setVariable "PIPESTATUS"
      { Variable.none with value := some (.indexed (statuses.zipIdx.map fun (status, place) =>
          (place, toString status))) }

def runPipe (runner : Runner) (manner : Manner) (stages : List (Option Command))
    (inBackground : Bool) : Sh Nat := do
  let job ← addJob
  startStages builtins runner manner job inBackground none true stages
  if inBackground then return 0
  else
    awaitJob job reapBound
    let members : List Member := match ← job? job with
      | some item => item.members
      | none => []
    let statuses := members.map fun member => statusOf (member.ending.getD (.status 127))
    let last ← waitForJob job
    recordStatuses statuses
    if (← get).settings.contains "pipefail" then
      return (statuses.reverse.find? (· ≠ 0)).getD 0
    else return last

def runSubshell (runner : Runner) (manner : Manner) (line : Nat) (body : Option Command)
    (redirections : List Redirection) (inBackground : Bool) : Sh Nat := do
  modify fun session => { session with line }
  let prepared ← redirections.mapM (prepare runner)
  let whole (manner : Manner) : Sh Unit := do
    redirectAll false prepared
    let status ← runner.tree { manner with exits := true } body
    setStatus status
  if !inBackground && manner.exits && !(← hasTraps) then
    whole manner
    return (← get).status
  else
    let job ← addJob
    let process ← start runner.text job (if inBackground then .background true else .foreground)
      (whole (if inBackground then .last else manner))
    if inBackground then
      modify fun session => { session with lastJob := some process }
      return 0
    else waitForJob job

/-- One loop less is left or repeated. -/
def takeSkip : Sh Skip := do
  let session ← get
  match session.skip with
  | .breaks levels =>
    if levels ≤ 1 then
      set { session with skip := .nothing }
      return .breaks 0
    else
      set { session with skip := .breaks (levels - 1) }
      return .breaks levels
  | .continues levels =>
    if levels ≤ 1 then
      set { session with skip := .nothing }
      return .continues 0
    else
      set { session with skip := .continues (levels - 1) }
      return .breaks levels
  | other => return other

/-- Repeats a command; `fuel` bounds the rounds. -/
def runLoop (runner : Runner) (manner : Manner) (inverted : Bool) (test body : Option Command) :
    (fuel : Nat) → (status : Nat) → Sh Nat
  | 0, status => return status
  | fuel + 1, status => do
    Activity.spend 200
    let result ← runner.tree .test test
    let skip ← takeSkip
    let held := match skip with
      | .function _ => result
      | _ => status
    if skip.leavesLoop then return held
    else if skip ≠ .nothing then runLoop runner manner inverted test body fuel held
    else if (result = 0) = inverted then return status
    else
      let done ← runner.tree { manner with exits := false } body
      if (← takeSkip).leavesLoop then return done
      else runLoop runner manner inverted test body fuel done

def runItems (runner : Runner) (manner : Manner) (name : String) (body : Option Command) :
    List String → (status : Nat) → Sh Nat
  | [], status => return status
  | item :: rest, _ => do
    Activity.spend 200
    assign name item
    let done ← runner.tree { manner with exits := false } body
    if (← takeSkip).leavesLoop then return done
    else runItems runner manner name body rest done

/-- The first branch that fits, and those behind it that run too. -/
def runBranches (runner : Runner) (manner : Manner) (text : String) :
    (isOn : Bool) → List Branch → Sh Nat
  | _, [] => return 0
  | isOn, .mk patterns body goesOn tries :: rest => do
    let fitsOne ← if isOn then pure true
      else
        let rec anyFits : List Word → Sh Bool
          | [] => return false
          | word :: more => do
            let items ← Expand.pattern runner word
            if fits items text.toList then return true else anyFits more
        anyFits patterns
    if !fitsOne then runBranches runner manner text false rest
    else
      let status ← match body with
        | some _ => runner.tree (if goesOn || tries then { manner with exits := false } else manner) body
        | none => pure 0
      if goesOn then
        if rest.isEmpty || (← get).skip ≠ .nothing then return status
        else runBranches runner manner text true rest
      else if tries then
        if rest.isEmpty || (← get).skip ≠ .nothing then return status
        else runBranches runner manner text false rest
      else return status

/-- Counts the loops that surround what runs. -/
def inLoop (body : Sh Nat) : Sh Nat := do
  modify fun session => { session with loops := session.loops + 1 }
  let status ← body
  modify fun session => { session with loops := session.loops - 1 }
  return status

/-- Repeats a command that counts; `fuel` bounds the rounds. -/
def runCount (runner : Runner) (manner : Manner) (test step : String) (body : Option Command) :
    (fuel : Nat) → (status : Nat) → Sh Nat
  | 0, status => return status
  | fuel + 1, status => do
    Activity.spend 200
    let goesOn ← if test.toList.all isSpaceChar then pure 1 else Expand.evaluate test.toList
    if goesOn = 0 then return status
    else
      let done ← runner.tree { manner with exits := false } body
      if (← takeSkip).leavesLoop then return done
      else
        let _ ← if step.toList.all isSpaceChar then pure 0 else Expand.evaluate step.toList
        runCount runner manner test step body fuel done

/-- Whether a condition of the larger language holds. -/
abbrev ConditionEval := Runner → Condition → Sh Nat

/-- How a command of some kind runs, and whether its failure can end the script. -/
def runKind (conditions : ConditionEval) (runner : Runner) (manner : Manner) :
    Command → Sh (Nat × Bool)
  | .simple line assignments words redirections => do
    return (← runSimple builtins runner manner line assignments words redirections, true)
  | .pipe stages inBackground => do
    return (← runPipe builtins runner manner stages inBackground, true)
  | .negate body => do
    let status ← runner.tree .test body
    return (if status = 0 then 1 else 0, false)
  | .both first second => do
    let status ← runner.tree .test first
    if status ≠ 0 || (← get).skip ≠ .nothing then return (status, false)
    else return (← runner.tree manner second, false)
  | .either first second => do
    let status ← runner.tree .test first
    if status = 0 || (← get).skip ≠ .nothing then return (status, false)
    else return (← runner.tree manner second, false)
  | .sequence first second => do
    let status ← runner.tree { manner with exits := false } first
    if (← get).skip ≠ .nothing then return (status, false)
    else return (← runner.tree manner second, false)
  | .background line body redirections => do
    return (← runSubshell runner manner line body redirections true, true)
  | .subshell line body redirections => do
    return (← runSubshell runner manner line body redirections false, true)
  | .redirected line body redirections => do
    modify fun session => { session with line := if line = 0 then session.line else line }
    let prepared ← redirections.mapM (prepare runner)
    pushReplaced
    let level := (← get).replaced.length
    let status ← if ← redirectSafely true prepared then pure (← get).status
      else runner.tree { manner with exits := false } body
    unwindReplaced level scriptBound
    popReplaced false
    return (status, false)
  | .branch test body otherwise => do
    let status ← runner.tree .test test
    if (← get).skip ≠ .nothing then return (status, false)
    else if status = 0 then return (← runner.tree manner body, false)
    else match otherwise with
      | some _ => return (← runner.tree manner otherwise, false)
      | none => return (0, false)
  | .repeated inverted test body => do
    return (← inLoop (runLoop runner manner inverted test body scriptBound 0), false)
  | .forEach line name items body => do
    modify fun session => { session with line }
    let words ← Expand.arguments runner items
    return (← inLoop (runItems runner manner name body words 0), false)
  | .choose line subject branches => do
    modify fun session => { session with line }
    let text ← Expand.text runner subject
    return (← runBranches runner manner text false branches, false)
  | .define line name body => do
    modify fun session => { session with
      functions := (name, line, body) :: session.functions.filter (·.1 ≠ name) }
    return (0, false)
  | .evaluate line expression => do
    modify fun session => { session with line, command := none }
    let text ← Expand.quotedText runner expression
    let result ← Activity.attempt (do
      modify fun session => { session with command := some "((" }
      Expand.evaluate text.toList)
    modify fun session => { session with command := none }
    match result with
    | .ok value => return (if value = 0 then 1 else 0, true)
    | .error _ => return (1, true)
  | .condition line content => do
    modify fun session => { session with line }
    return (← conditions runner content, true)
  | .count line first test step body => do
    modify fun session => { session with line }
    let start ← Expand.quotedText runner first
    let goesOn ← Expand.quotedText runner test
    let next ← Expand.quotedText runner step
    let _ ← if start.toList.all isSpaceChar then pure 0 else Expand.evaluate start.toList
    return (← inLoop (runCount runner manner goesOn next body scriptBound 0), false)

def runTree (conditions : ConditionEval) (runner : Runner) (manner : Manner)
    (command : Option Command) : Sh Nat := do
  let session ← get
  let finish (status : Nat) (canFail : Bool) : Sh Nat := do
    handleSignals runner
    if (← get).has 'e' && canFail && !manner.tested && status ≠ 0 then
      throw .leave
    if manner.exits then throw .leave
    return status
  if session.has 'n' then finish 0 false
  else match command with
    | none => finish 0 false
    | some item =>
      handleSignals runner
      let (status, canFail) ← runKind builtins conditions runner manner item
      let isJoined := match item with
        | .both _ _ => true
        | .either _ _ => true
        | _ => false
      if !isJoined || (← get).skip = .nothing then setStatus status
      if item.isSingle then recordStatuses [status]
      finish status canFail

end Sh

/-- The evaluation of commands that are nested at most so deep. -/
def runners (conditions : Sh.ConditionEval) : (depth : Nat) → Runner
  | 0 => ⟨fun _ _ => Sh.fail "nested too deeply", fun _ => return⟩
  | depth + 1 =>
    { tree := fun manner command =>
        Sh.runTree builtins conditions (runners conditions depth) manner command
      text := fun text => do
        let _ ← Sh.runText (runners conditions depth).tree .plain text }

end

def evalNesting : Nat := 1000000

end Conformance.Shell
