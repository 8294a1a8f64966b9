import Conformance.Shell.Signal
import Conformance.Tool.Input

/-!
# Programs that start programs

Programs that prepare something and then run what they are told to, in their own place
or as a process of its own.
-/

namespace Conformance.Tool

open Machine Shell

/-- The directories that are searched where the environment names none. -/
def plainPath : String := "/bin:/usr/bin"

def valueIn? (environment : List String) (name : String) : Option String :=
  let start := name ++ "="
  (environment.find? (·.startsWith start)).map fun entry =>
    String.ofList (entry.toList.drop start.length)

def candidatePaths (environment : List String) (name : String) : List String :=
  if name.toList.contains '/' then [name]
  else
    let directories := (valueIn? environment "PATH").getD plainPath
    (splitAtMark ':' directories.toList).map fun directory =>
      if directory.isEmpty then name else String.ofList directory ++ "/" ++ name

/-- Starts a program at the first of some paths; comes back only with a fault.  A file
without a known form is a script of the shell. -/
def executeAt (arguments environment : List String) :
    List String → (fault : Fault) → Work Fault
  | [], fault => return fault
  | path :: rest, fault => do
    match ← Activity.attemptTo (.execute path arguments environment) with
    | some .badFormat =>
      match ← Activity.attemptTo
          (.execute "/bin/sh" ("/bin/sh" :: path :: arguments.drop 1) environment) with
      | some other => return other
      | none => return fault
    | some .notFound => executeAt arguments environment rest fault
    | some .notDirectory => executeAt arguments environment rest fault
    | some .permissionDenied => executeAt arguments environment rest .permissionDenied
    | some other => return other
    | none => return fault

/-- Starts a program in place of the tool; comes back only with a fault. -/
def Work.execute (arguments environment : List String) : Work Fault := do
  Work.flush
  let name := arguments.headD ""
  if name.isEmpty then return .notFound
  else executeAt arguments environment (candidatePaths environment name) .notFound

/-- The status of a tool that could not start its program. -/
def startFailure (fault : Fault) : Nat := if fault = .notFound then 127 else 126

/-- Starts a program in place of the tool; `title` words the complaint about it. -/
def Work.become {α : Type} (title : String → String) (arguments environment : List String) :
    Work α := do
  let fault ← Work.execute arguments environment
  Work.warn (title (arguments.headD "") ++ ": " ++ fault.text)
  throw (startFailure fault)

/-- Runs a program as a process of its own.  In it, `prepare` comes first, and
`complain` words a failure to start. -/
def Work.spawn (prepare : Work Unit) (title : String → String)
    (arguments environment : List String) : Work Nat := do
  Work.flush
  Activity.fork fun bench =>
    (do prepare; Work.become title arguments environment : Work Unit) bench fun result _ =>
      match result with
      | .ok _ => .exit 0
      | .error status => .exit status

/-- How a process has ended; `fuel` bounds the interruptions. -/
def Work.await (process : Nat) : (fuel : Nat) → Work Exit
  | 0 => return .status 0
  | fuel + 1 => do
    match ← Activity.wait (some process) .full with
    | .ok (_, how) => return how
    | .error .interrupted => Work.await process fuel
    | .error _ => return .status 127

/-- The status by which a shell knows how a process has ended. -/
def Exit.code : Exit → Nat
  | .status code => code
  | .signal number => 128 + number

/-! ## Commands of the shell -/

/-- Starts a command of the shell, connected by a pipe: `gives` tells whether the pipe
leads from the command to the tool.  The result is the process and the end that the tool
has.  Ends that other commands have are closed in this one. -/
def Work.openCommand (shell : String) (gives : Bool) (others : List Nat) (command : String) :
    Work (Option (Nat × Nat)) := do
  match ← Activity.makePipe with
  | .error _ => return none
  | .ok (input, output) =>
    let (own, far, standard) := if gives then (input, output, 1) else (output, input, 0)
    let prepare : Work Unit := do
      for descriptor in others do
        Activity.close descriptor
      let _ ← Activity.ask (.redirect far standard)
      Activity.close own
      if far ≠ standard then Activity.close far
    let environment := (← get).environment
    let process ← Work.spawn prepare id [shell, "-c", command] environment
    Activity.close far
    return some (process, own)

def Work.outputOf (command : String) : Work ByteArray := do
  match ← Work.openCommand "sh" true [] command with
  | none => return .empty
  | some (process, descriptor) =>
    let (data, _) ← Work.readRest descriptor Stream.pieceBound []
    Activity.close descriptor
    let _ ← Work.await process 1000
    return data

def Work.runCommand (shell : String) (prepare : Work Unit) (command : String) : Work Exit := do
  let environment := (← get).environment
  let process ← Work.spawn prepare id [shell, "-c", command] environment
  Work.await process 1000

/-! ## Time -/

/-- A duration such as `2`, `0.15` or `3m`, in nanoseconds. -/
def duration? (text : String) : Option Nat :=
  let chars := text.toList
  let whole := chars.takeWhile Char.isDigit
  let rest := chars.dropWhile Char.isDigit
  let (fraction, unit) := match rest with
    | '.' :: more => (more.takeWhile Char.isDigit, more.dropWhile Char.isDigit)
    | _ => ([], rest)
  let scale : Option Nat := match unit with
    | [] => some 1
    | ['s'] => some 1
    | ['m'] => some 60
    | ['h'] => some 3600
    | ['d'] => some 86400
    | _ => none
  if text = "infinity" || text = "inf" then some (Nat.pow 10 24)
  else if whole.isEmpty && fraction.isEmpty then none
  else scale.map fun seconds =>
    ((natural? (whole ++ fraction)).getD 0) * seconds * 1000000000 / Nat.pow 10 fraction.length

def sleep : Utility := fun words => do
  let options ← plainOptions ⟨[], [], [], [], true⟩ words
  if options.operands.isEmpty then Work.misuse "missing operand"
  let bad := options.operands.filter fun text => (duration? text).isNone
  for text in bad do
    Work.warn ("invalid time interval " ++ plainQuoted text)
  if !bad.isEmpty then Work.hint
  let total := (options.operands.filterMap duration?).foldl (· + ·) 0
  let _ ← Activity.ask (.sleep total)

/-- What `timeout` is asked to do. -/
structure TimeLimit where
  signal : Nat
  /-- When a process that goes on is killed. -/
  killAfter : Option Nat
  keepsStatus : Bool
  staysInGroup : Bool
  isVerbose : Bool

def Work.timer (duration : Nat) : Work Nat :=
  Activity.fork fun _ => .ask (.sleep duration) fun _ => .exit 0

/-- Stops a process that has used up its time.  The signal goes to the whole group. -/
def stopProcess (limit : TimeLimit) (signal process : Nat) (command : String) : Work Unit := do
  if limit.isVerbose then
    Work.warn ("sending signal " ++ signalName signal ++ " to command " ++ plainQuoted command)
  let _ ← Activity.ask (.send (Int.ofNat process) signal)
  if !limit.staysInGroup then
    let _ ← Activity.ask (.react signal .ignores)
    let _ ← Activity.ask (.send 0 signal)
    if signal ≠ 9 && signal ≠ 18 then
      let _ ← Activity.ask (.send (Int.ofNat process) 18)
      let _ ← Activity.ask (.send 0 18)

/-- Waits for a process and a timer; `fuel` bounds the processes that end.  The status
of the process, and whether its time was used up. -/
def awaitLimited (limit : TimeLimit) (process : Nat) (command : String) :
    (fuel : Nat) → (timer : Option Nat) → (isLate : Bool) → Work (Exit × Bool)
  | 0, _, isLate => return (.status 0, isLate)
  | fuel + 1, timer, isLate => do
    match ← Activity.wait none .full with
    | .error .interrupted => awaitLimited limit process command fuel timer isLate
    | .error _ => return (.status 0, isLate)
    | .ok (id, how) =>
      if id = process then return (how, isLate)
      else if some id = timer then
        let signal := if isLate then 9 else limit.signal
        let next ← match limit.killAfter with
          | some duration => if isLate then pure none else do pure (some (← Work.timer duration))
          | none => pure none
        stopProcess limit signal process command
        awaitLimited limit process command fuel next true
      else awaitLimited limit process command fuel timer isLate

def timeout : Utility := fun words => do
  modify fun bench => { bench with failure := 125 }
  let rules : Rules := ⟨['v', 'f', 'p'], ['s', 'k'], [], [("signal", 's'), ("kill-after", 'k'),
    ("verbose", 'v'), ("foreground", 'f'), ("preserve-status", 'p')], false⟩
  let interval (text : String) : Work Nat := do
    match duration? text with
    | some duration => return duration
    | none => Work.misuse ("invalid time interval " ++ plainQuoted text)
  let plain (name : String) : String :=
    if name.startsWith "SIG" then String.ofList (name.toList.drop 3) else name
  let options ← readOptions rules (fun letter value => do
    if letter = 's' && (signal? (plain value)).isNone then
      Work.misuse (plainQuoted value ++ ": invalid signal")
    if letter = 'k' then
      let _ ← interval value) words
  match options.operands with
  | text :: program =>
    if program.isEmpty then Work.hint
    let duration ← interval text
    let limit : TimeLimit :=
      { signal := ((options.value? 's').bind fun name => signal? (plain name)).getD 15
        killAfter := (options.value? 'k').bind duration?
        keepsStatus := options.has 'p'
        staysInGroup := options.has 'f'
        isVerbose := options.has 'v' }
    if !limit.staysInGroup then
      let _ ← Activity.ask .leaveGroup
    let bench ← get
    let process ← Work.spawn (pure ())
      (fun name => "failed to run command " ++ quoted name) program bench.environment
    let timer ← if duration = 0 then pure none else do pure (some (← Work.timer duration))
    let (how, isLate) ← awaitLimited limit process (program.headD "") 1000000 timer false
    match timer with
    | some id => if !isLate then
        let _ ← Activity.ask (.send (Int.ofNat id) 9)
    | none => pure ()
    match how with
    | .signal number =>
      if !isLate then
        let (own, _) ← Activity.identify
        let _ ← Activity.ask (.send (Int.ofNat own) number)
      throw (if isLate && !limit.keepsStatus && number ≠ 9 then 124 else 128 + number)
    | .status code => throw (if isLate && !limit.keepsStatus then 124 else code)
  | [] => Work.hint

/-! ## Environments -/

/-- Adds an entry to an environment, in place of the one with its name. -/
def withEntry (environment : List String) (entry : String) : List String :=
  let name := entry.toList.takeWhile (· ≠ '=')
  let start := String.ofList (name ++ ['='])
  if environment.any (·.startsWith start) then
    environment.map fun other => if other.startsWith start then entry else other
  else environment ++ [entry]

def withoutEntry (environment : List String) (name : String) : List String :=
  environment.filter fun entry => !entry.startsWith (name ++ "=")

def env : Utility := fun words => do
  modify fun bench => { bench with failure := 125 }
  let rules : Rules := ⟨['i', '0', 'v'], ['u', 'C', 'S'], [], [("ignore-environment", 'i'),
    ("null", '0'), ("unset", 'u'), ("chdir", 'C'), ("split-string", 'S'), ("debug", 'v')], false⟩
  let options ← plainOptions rules words
  let bench ← get
  let (isEmptied, operands) := match options.operands with
    | "-" :: rest => (true, rest)
    | rest => (options.has 'i', rest)
  let start := if isEmptied then [] else (options.values 'u').foldl withoutEntry bench.environment
  let split := (options.values 'S').flatMap fun text =>
    ((splitAtMark ' ' text.toList).filter (!·.isEmpty)).map String.ofList
  let all := split ++ operands
  let isEntry (word : String) : Bool := word.toList.contains '='
  let environment := (all.takeWhile isEntry).foldl withEntry start
  match options.value? 'C' with
  | some path =>
    match ← Activity.attemptTo (.changeDirectory path) with
    | some fault => Work.fail ("cannot change directory to " ++ quoted path ++ ": " ++ fault.text)
    | none => pure ()
  | none => pure ()
  match all.dropWhile isEntry with
  | [] =>
    for entry in environment do
      Work.put (entry ++ (if options.has '0' then "\x00" else "\n"))
  | program => Work.become plainQuoted program environment

def printenv : Utility := fun words => do
  modify fun bench => { bench with failure := 2 }
  let options ← plainOptions ⟨['0'], [], [], [("null", '0')], false⟩ words
  let bench ← get
  let ending := if options.has '0' then "\x00" else "\n"
  if options.operands.isEmpty then
    for entry in bench.environment do
      Work.put (entry ++ ending)
  else
    for name in options.operands do
      match valueIn? bench.environment name with
      | some value => Work.put (value ++ ending)
      | none => Work.setStatus 1

/-- Shows where programs are found. -/
def which : Utility := fun words => do
  let options ← plainOptions (.plain "as" "") words
  let bench ← get
  if options.operands.isEmpty then Work.setStatus 1
  for name in options.operands do
    let mut isFound := false
    for path in candidatePaths bench.environment name do
      if !isFound || options.has 'a' then
        match ← Activity.examine path with
        | .ok info =>
          if info.kind = .regular && info.canRun then
            Work.putLine path
            isFound := true
        | .error _ => pure ()
    if !isFound then Work.setStatus 1

/-! ## Other surroundings -/

def nice : Utility := fun words => do
  modify fun bench => { bench with failure := 125 }
  let words := words.map fun word => match word.toList with
    | '-' :: d :: rest => if (d :: rest).all Char.isDigit then "-n" ++ String.ofList (d :: rest)
        else word
    | _ => word
  let isInteger (text : String) : Bool := match text.toList with
    | '-' :: digits => (natural? digits).isSome
    | '+' :: digits => (natural? digits).isSome
    | digits => (natural? digits).isSome
  let options ← plainOptions ⟨[], ['n'], [], [("adjustment", 'n')], false⟩ words
  match (options.values 'n').find? (!isInteger ·) with
  | some text => Work.fail ("invalid adjustment " ++ plainQuoted text)
  | none => pure ()
  match options.operands with
  | [] =>
    if options.has 'n' then Work.misuse "a command must be given with an adjustment"
    else Work.putLine "0"
  | program => Work.become plainQuoted program (← get).environment

def nohup : Utility := fun words => do
  modify fun bench => { bench with failure := 125 }
  let options ← plainOptions ⟨[], [], [], [], false⟩ words
  match options.operands with
  | [] => Work.misuse "missing operand"
  | program =>
    let _ ← Activity.ask (.react 1 .ignores)
    Work.become (fun name => "failed to run command " ++ quoted name) program
      (← get).environment

def setsid : Utility := fun words => do
  let options ← plainOptions ⟨['c', 'f', 'w'], [], [], [("ctty", 'c'), ("fork", 'f'), ("wait", 'w')],
    false⟩ words
  match options.operands with
  | [] => Work.misuse "no command specified"
  | program =>
    let _ ← Activity.ask .leaveGroup
    Work.become ("failed to execute " ++ ·) program (← get).environment

def kill : Utility := fun words => do
  let plain (name : String) : String :=
    if name.startsWith "SIG" then String.ofList (name.toList.drop 3) else name
  let (signal, targets) : Nat × List String := match words with
    | "-s" :: name :: rest => ((signal? (plain name)).getD 15, rest)
    | word :: rest => match word.toList with
      | '-' :: c :: name =>
        match signal? (plain (String.ofList (c :: name))) with
        | some signal => (signal, rest)
        | none => (15, words)
      | _ => (15, words)
    | [] => (15, [])
  for word in targets do
    match integer? word with
    | some target =>
      match ← Activity.attemptTo (.send target signal) with
      | some fault => Work.complain ("(" ++ word ++ "): " ++ fault.text)
      | none => pure ()
    | none => Work.complain ("failed to parse argument: " ++ plainQuoted word)

end Conformance.Tool
