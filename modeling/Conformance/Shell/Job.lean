import Conformance.Shell.Session

/-!
# Jobs

Processes that a shell starts, and waiting for their end.  A job that somebody has
asked for is forgotten when its number is needed again.
-/

namespace Conformance.Shell

open Machine

/-- What becomes of a shell in a new process. -/
inductive Role where
  | foreground
  /-- `isFirst` tells whether it is the first process of its job. -/
  | background (isFirst : Bool)
  /-- The output of the process goes into a word. -/
  | substitution
deriving DecidableEq, Repr

/-- Which parts of a command are special: `exits` tells that the process ends with it,
`tested` that its status is asked for, so that a failure does not end the script. -/
structure Manner where
  exits : Bool
  tested : Bool
deriving DecidableEq, Repr

namespace Manner

def plain : Manner := ⟨false, false⟩
def test : Manner := ⟨false, true⟩
def last : Manner := ⟨true, false⟩

end Manner

/-- How a command runs; the result is its status. -/
abbrev Eval := Manner → Option Command → Sh Nat

def signalWords : List (Nat × String) :=
  [(1, "Hangup"), (2, "Interrupt"), (3, "Quit"), (4, "Illegal instruction"),
    (5, "Trace/breakpoint trap"), (6, "Aborted"), (7, "Bus error"),
    (8, "Floating point exception"), (9, "Killed"), (10, "User defined signal 1"),
    (11, "Segmentation fault"), (12, "User defined signal 2"), (13, "Broken pipe"),
    (14, "Alarm clock"), (15, "Terminated"), (16, "Stack fault"), (17, "Child exited"),
    (18, "Continued"), (19, "Stopped (signal)"), (20, "Stopped"), (21, "Stopped (tty input)"),
    (22, "Stopped (tty output)"), (23, "Urgent I/O condition"), (24, "CPU time limit exceeded"),
    (25, "File size limit exceeded"), (26, "Virtual timer expired"),
    (27, "Profiling timer expired"), (28, "Window changed"), (29, "I/O possible"),
    (30, "Power failure"), (31, "Bad system call")]

namespace Sh

def addJob : Sh Nat := do
  let session ← get
  let jobs : List Job := session.jobs
  let (kept, number) : List Job × Nat :=
    match jobs.find? fun job => job.isDone && job.isAwaited with
    | some old => (jobs.filter fun job => job.number ≠ old.number, old.number)
    | none =>
      (jobs, ((List.range (jobs.length + 1)).find? fun n =>
        !jobs.any fun job => job.number = n).getD 0)
  let added : Job := ⟨number, [], false⟩
  set { session with
    jobs := (added :: kept).mergeSort fun a b => a.number ≤ b.number }
  return number

def addMember (number process : Nat) : Sh Unit :=
  modify fun session => { session with
    jobs := session.jobs.map fun job =>
      if job.number = number then { job with members := job.members ++ [⟨process, none⟩] }
      else job }

/-- Shows the signal that has ended a process of a job that is awaited. -/
def showSignal : Exit → Sh Unit
  | .status _ => return
  | .signal number => do
    if number ≠ 2 && number ≠ 13 && (← get).dialect = .standard then
      let _ ← writeTo 2 ((signalWords.lookup number).getD "Unknown signal" ++ "\n")

def note (process : Nat) (ending : Exit) : Sh Unit :=
  modify fun session => { session with
    jobs := session.jobs.map fun job => { job with
      members := job.members.map fun member =>
        if member.process = process then { member with ending := some ending } else member } }

/-- Waits until some process has ended; `awaited` is the job that is waited for. -/
def reap (awaited : Option Nat) (patience : Patience) : Sh (Option Fault) := do
  match ← Activity.wait none patience with
  | .ok (process, ending) =>
    note process ending
    let isShown := (← get).jobs.any fun job =>
      some job.number = awaited && job.members.any (·.process = process)
    if isShown then showSignal ending
    return none
  | .error fault => return some fault

def job? (number : Nat) : Sh (Option Job) := do
  return (← get).jobs.find? (·.number = number)

def endingOf (job : Job) : Exit :=
  (job.members.getLast?.bind (·.ending)).getD (.status 127)

/-- Waits for all processes of a job; `fuel` bounds the processes that end meanwhile. -/
def awaitJob (number : Nat) : (fuel : Nat) → Sh Unit
  | 0 => return
  | fuel + 1 => do
    match ← job? number with
    | some job =>
      if !job.isDone then
        match ← reap (some number) .full with
        | none => awaitJob number fuel
        | some .interrupted => awaitJob number fuel
        | some _ => return
    | none => return

/-- More than the processes that ever end. -/
def reapBound : Nat := 1000000

/-- Waits for a job that is not in the background and yields its status. -/
def waitForJob (number : Nat) : Sh Nat := do
  awaitJob number reapBound
  match ← job? number with
  | none => return 127
  | some job =>
    modify fun session => { session with jobs := session.jobs.filter (·.number ≠ number) }
    return statusOf (endingOf job)

/-- Gives up what a subshell does not inherit. -/
def enterSubshell (role : Role) : Sh Unit := do
  let session ← get
  for (signal, action) in session.traps do
    if !action.isEmpty && signal ≠ 0 then
      let _ ← Activity.ask (.react signal .usual)
  set { session with
    traps := session.traps.filter fun (_, action) => action.isEmpty
    jobs := []
    isOutermost := false
    output := []
    loops := session.loops }
  match role with
  | .background isFirst =>
    let _ ← Activity.ask (.react 2 .ignores)
    let _ ← Activity.ask (.react 3 .ignores)
    if isFirst then
      Activity.close 0
      let _ ← Activity.openFile "/dev/null" .input
  | _ => pure ()

/-- Ends the shell: the action for that runs if there is one.  `run` runs a text. -/
def closing (run : String → Sh Unit) : Sh Nat := do
  let session ← get
  match session.traps.lookup 0 with
  | none =>
    let _ ← flush
    return session.status
  | some action =>
    set { session with
      traps := session.traps.filter (·.1 ≠ 0)
      skip := .nothing
      command := none
      saved := some session.status }
    let _ ← Activity.attempt (run action)
    let _ ← flush
    return (← get).saved.getD session.status

def toProcess (run : String → Sh Unit) (body : Sh Unit) (session : Session) : Process :=
  body session fun _ session =>
    closing run session fun status _ =>
      match status with
      | .ok code => .exit (code % 256)
      | .error _ => .exit 2

/-- Starts a process of a job that runs `body` to its end. -/
def start (run : String → Sh Unit) (job : Nat) (role : Role) (body : Sh Unit) : Sh Nat := do
  let process ← Activity.fork (toProcess run (do enterSubshell role; body))
  addMember job process
  return process

end Sh

end Conformance.Shell
