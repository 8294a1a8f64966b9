import Conformance.Shell.Builtin.Basic

/-!
# Commands for processes

Commands that wait for processes, send them signals and prepare for signals.
-/

namespace Conformance.Shell.Builtin

open Machine

/-- Prepares for a signal.  One that was ignored when the shell was started stays so. -/
def prepareFor (signal : Nat) (action : Option String) : Sh Unit := do
  let session ← get
  let known := session.traps.lookup signal
  let reaction : Reaction := match action with
    | none => .usual
    | some "" => .ignores
    | some _ => .catches
  if signal ≠ 0 then
    match ← Activity.ask (.react signal reaction) with
    | .number 1 =>
      if known ≠ some "" then
        let _ ← Activity.ask (.react signal .ignores)
    | _ => pure ()
  let others := session.traps.filter (·.1 ≠ signal)
  set { session with traps := match action with
    | some text => (signal, text) :: others
    | none => others }

/-- Sets, clears or shows the actions for signals. -/
def trap : Builtin := special fun _ _ arguments => do
  let session ← get
  let extended := session.dialect = .extended
  let (_, words) ← options (if extended then ['l', 'p'] else []) arguments
  match words with
  | [] =>
    for (signal, action) in session.traps.mergeSort fun a b => a.1 ≤ b.1 do
      let name := if extended && signal ≠ 0 then "SIG" ++ signalName signal else signalName signal
      let shown := if extended then Expand.requoted action else quoted action
      Sh.put ("trap -- " ++ shown ++ " " ++ name ++ "\n")
    return 0
  | first :: rest =>
    let isNumber := !first.isEmpty && first.toList.all Char.isDigit && (signal? first).isSome
    let (action, signals) := if rest.isEmpty || isNumber then (none, words) else (some first, rest)
    let action := if action = some "-" then none else action
    setAll extended action signals
where
  /-- Sets the action for signals up to the first that is none. -/
  setAll (extended : Bool) (action : Option String) : List String → Sh Nat
    | [] => return 0
    | name :: rest => do
      let plain := if extended && name.startsWith "SIG" then String.ofList (name.toList.drop 3)
        else name
      match signal? plain with
      | some signal =>
        prepareFor signal action
        setAll extended action rest
      | none =>
        if extended then Sh.warn (name ++ ": invalid signal specification")
        else
          let _ ← Sh.writeTo 2 ("trap: " ++ name ++ ": bad trap\n")
        return 1

/-- Takes note of signals that have come, and yields the status that tells of the last
one. -/
def interruptedStatus : Sh Nat := do
  match ← Activity.ask .takeSignals with
  | .signals numbers =>
    modify fun session => { session with pending := session.pending ++ numbers }
    return 128 + numbers.getLastD 0
  | _ => return 128

/-- Waits until a condition on the jobs holds.  Yields a status if a signal comes
first; `fuel` bounds the processes that end meanwhile. -/
def awaitUntil (awaited : Option Nat) (isDone : Session → Bool) : (fuel : Nat) → Sh (Option Nat)
  | 0 => return none
  | fuel + 1 => do
    if isDone (← get) then return none
    else match ← Sh.reap awaited .untilSignal with
      | none => awaitUntil awaited isDone fuel
      | some .interrupted => return some (← interruptedStatus)
      | some _ => return none

def jobNamed (word : String) : Sh (Option Job) := do
  let jobs := (← get).jobs
  match word.toList with
  | '%' :: rest =>
    match (digitsAt 10 rest).1 with
    | some n => match jobs.find? fun job => job.number + 1 = n with
      | some job => return some job
      | none => Sh.fail ("No such job: " ++ word)
    | none => match jobs.getLast? with
      | some job => return some job
      | none => Sh.fail "No current job"
  | _ =>
    let process ← number word
    return jobs.find? fun job => (job.members.getLast?.map (·.process)) = some process

def markAwaited (chosen : Job → Bool) : Sh Unit :=
  modify fun session => { session with
    jobs := session.jobs.map fun job => if chosen job then { job with isAwaited := true } else job }

def wait : Builtin := regular fun _ _ arguments => do
  let (given, words) ← options (if (← get).dialect = .extended then ['n', 'f', 'p', ':'] else [])
    arguments
  if given.any (·.1 = 'n') then
    let before := (← get).jobs.filter (!·.isDone)
    if before.isEmpty then return 127
    else
      let isEnded (session : Session) : Bool := session.jobs.any fun job =>
        job.isDone && before.any (·.number = job.number)
      match ← awaitUntil none isEnded Sh.reapBound with
      | some status => return status
      | none =>
        match (← get).jobs.find? fun job => job.isDone && before.any (·.number = job.number) with
        | some job =>
          markAwaited (·.number = job.number)
          return Sh.statusOf (Sh.endingOf job)
        | none => return 127
  else if words.isEmpty then
    match ← awaitUntil none (·.jobs.all Job.isDone) Sh.reapBound with
    | some status => return status
    | none =>
      markAwaited fun _ => true
      return 0
  else awaitEach 127 words
where
  /-- Waits for one process after the other; the status is that of the last one. -/
  awaitEach (status : Nat) : List String → Sh Nat
    | [] => return status
    | word :: rest => do
      match ← jobNamed word with
      | none =>
        if (← get).dialect = .extended then
          Sh.warn ("pid " ++ word ++ " is not a child of this shell")
        awaitEach 127 rest
      | some job =>
        let isEnded (session : Session) : Bool :=
          (session.jobs.find? (·.number = job.number)).all Job.isDone
        match ← awaitUntil (some job.number) isEnded Sh.reapBound with
        | some interrupted => return interrupted
        | none =>
          markAwaited (·.number = job.number)
          match ← Sh.job? job.number with
          | some ended => awaitEach (Sh.statusOf (Sh.endingOf ended)) rest
          | none => awaitEach 127 rest

def jobState (job : Job) : String :=
  if !job.isDone then "Running"
  else match Sh.endingOf job with
    | .status 0 => "Done"
    | .status code => "Done(" ++ toString code ++ ")"
    | .signal signal => (signalWords.lookup signal).getD "Unknown signal"

/-- Takes note of processes that have ended already; `fuel` bounds them. -/
def reapEnded : (fuel : Nat) → Sh Unit
  | 0 => return
  | fuel + 1 => do
    match ← Activity.wait none .none with
    | .ok (process, ending) =>
      Sh.note process ending
      reapEnded fuel
    | .error _ => return

def jobs : Builtin := regular fun _ _ arguments => do
  let (given, _) ← options ['l', 'p'] arguments
  reapEnded Sh.reapBound
  let all := (← get).jobs.reverse
  for (job, place) in all.zipIdx do
    let process := (job.members.head?.map (·.process)).getD 0
    if given.any (·.1 = 'p') then Sh.put (toString process ++ "\n")
    else
      let mark := if place = 0 then "+" else if place = 1 then "-" else " "
      let front := "[" ++ toString (job.number + 1) ++ "] " ++ mark ++ " "
      let middle := if given.any (·.1 = 'l') then toString process ++ " " else ""
      Sh.put (padded 33 (front ++ middle ++ jobState job) ++ "\n")
  modify fun session => { session with jobs := session.jobs.filter (!·.isDone) }
  return 0

/-- Brings a job to the front; there is nothing to bring without a terminal. -/
def resume : Builtin := regular fun _ _ _ => do
  if (← get).jobs.isEmpty then Sh.fail "No current job"
  else Sh.fail "job 1 not created under job control"

def killUsage : String :=
  "Usage: kill [-s sigspec | -signum | -sigspec] [pid | job]... or\nkill -l [exitstatus]"

def listSignals : List String → Sh Nat
  | [] => do
    Sh.put "0\n"
    for name in signalNames.drop 1 do
      Sh.put (name ++ "\n")
    return 0
  | text :: _ => do
    let given ← number text
    let signal := if 128 < given then given - 128 else given
    if 0 < signal && signal ≤ lastSignal then
      Sh.put (signalName signal ++ "\n")
      return 0
    else Sh.fail ("invalid signal number or exit status: " ++ text)

def sendEach (signal : Nat) : List String → Sh Nat
  | [] => return 0
  | word :: rest => do
    let target : Int ← match word.toList with
      | '%' :: _ => do
        match ← jobNamed word with
        | some job => pure (Int.ofNat ((job.members.head?.map (·.process)).getD 0))
        | none => pure 0
      | '-' :: digits => do pure (-Int.ofNat (← number (String.ofList digits)))
      | _ => do pure (Int.ofNat (← number word))
    let failed ← match ← Activity.attemptTo (.send target signal) with
      | some fault => do
        if (← get).dialect = .extended then
          Sh.warn ("(" ++ word ++ ") - " ++ fault.text)
        else Sh.warn (fault.text ++ "\n")
        pure 1
      | none => pure 0
    return Nat.lor failed (← sendEach signal rest)

def kill : Builtin := regular fun _ _ arguments => do
  let plain (name : String) : String :=
    if name.startsWith "SIG" then String.ofList (name.toList.drop 3) else name
  let extended := (← get).dialect = .extended
  match arguments with
  | [] => Sh.fail killUsage
  | first :: rest =>
    let direct := match first.toList with
      | '-' :: name => signal? (if extended then plain (String.ofList name) else String.ofList name)
      | _ => none
    match direct with
    | some signal => if rest.isEmpty then Sh.fail killUsage else sendEach signal (unmarked rest)
    | none =>
      if first.startsWith "-" then
        let (given, words) ← options ['l', 's', ':'] arguments
        if given.any (·.1 = 'l') then listSignals words
        else
          let signal ← match given.lookup 's' with
            | some name =>
              match signal? (if extended then plain name else name) with
              | some signal => pure signal
              | none => Sh.fail ("invalid signal number or name: " ++ name)
            | none => pure 15
          if words.isEmpty then Sh.fail killUsage else sendEach signal words
      else sendEach 15 arguments
where
  /-- The words behind a mark that ends options. -/
  unmarked : List String → List String
    | "--" :: rest => rest
    | words => words

/-- The time that the shell and its children have used. -/
def times : Builtin := special fun _ _ _ => do
  Sh.put "0m0.000000s 0m0.000000s\n0m0.000000s 0m0.000000s\n"
  return 0

end Conformance.Shell.Builtin
