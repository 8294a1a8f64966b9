import Conformance.Capture
import Conformance.Deadline
import Conformance.Machine.Programs
import Conformance.Program

/-!
# A closed host

A machine that runs children by itself: its programs are the shells and tools, and its
disk holds a file tree.  A child runs until it ends or until its time is used up; its
output is captured as it would be from a pipe.  Processes that a child leaves behind
go on while later children run.

A session on this host cannot go on once the deadline of a child is an instant
that no clock can show.  The host then keeps the files as they are at that moment.
-/

namespace Conformance

open Machine

/-- The moment at which a session could not go on: how many children had been
invoked before, and the files. -/
structure Crash where
  earlier : Nat
  files : FileTree
deriving DecidableEq, Repr

def crashMessage : String := "overflow when adding duration to instant"

structure Host where
  /-- How many children have been invoked. -/
  calls : Nat
  crash : Option Crash
  /-- The machine, and the tree that its disk holds. -/
  machine : Kernel
  files : FileTree

/-- The first number that a process gets. -/
def firstProcess : Nat := 1000

/-- When the machine begins, in nanoseconds since the start of 1970. -/
def firstInstant : Nat := 1700000000 * nanosPerSecond

/-- A machine on which nothing runs. -/
def idleMachine : Kernel := ⟨systemDisk, [], [], [], firstProcess, 0, 0, firstInstant, []⟩

/-- The directory in which children start. -/
def homeDirectory : Location := ["work"]

/-- Directories that belong to the system. -/
def systemDirectories : List Location :=
  [["bin"], ["dev"], ["etc"], ["home"], ["root"], ["usr"], ["var"]]

/-- A machine with an empty working directory. -/
def FileTree.fresh : FileTree :=
  { home := homeDirectory
    entries := (systemDirectories ++ [["tmp"], homeDirectory]).map (·, Node.directory)
    closed := [] :: systemDirectories }

/-- A host whose disk holds nothing but its programs. -/
def Host.idle : Host := ⟨0, none, idleMachine, { home := homeDirectory, entries := [] }⟩

/-- The instant at which children are started. -/
def hostInstant : Nat := 100000 * nanosPerSecond

/-- The environment in which children start. -/
def childEnvironment : List String := ["PATH=/usr/local/sbin:/usr/local/bin:/usr/sbin:/usr/bin:/sbin:/bin"]

/-- More requests than any child makes. -/
def requestBound : Nat := 1000000000

/-- What became of a child. -/
structure ChildRun where
  ending : Ending
  /-- Until when its output is collected; none if that cannot be told. -/
  drain : Option (Option Nat)
  timeline : Timeline
  machine : Kernel

/-- The machine with a process gone, and how it ended: it is stopped at a time if it has
not ended by itself. -/
def settle (machine : Kernel) (id start : Nat) (stop : Option Nat) : Ending × Kernel :=
  let without (machine : Kernel) : Kernel :=
    { machine with tasks := machine.tasks.filter (·.id ≠ id) }
  match machine.task? id with
  | none => (.exited (machine.clock - start) none, machine)
  | some task =>
    match task.stage with
    | .ended (.status code) => (.exited (task.time - start) (some (Int.ofNat code)), without machine)
    | .ended (.signal _) => (.exited (task.time - start) none, without machine)
    | _ =>
      let time := stop.getD (machine.clock - start)
      (.stopped time, without (machine.deliver task 9 (start + time)))

/-- Runs a child that has been launched, with a limit to its time. -/
def runChild (machine : Kernel) (image : Image) (here : Nat) (limit : Option Nat) : ChildRun :=
  let start := machine.clock
  let (pipe, piped) := machine.addPipe true
  let (id, started) := piped.start load image childEnvironment here pipe
  let stop := limit.map nextPoll
  let hasEnded (machine : Kernel) : Bool := (machine.task? id).all (·.hasEnded)
  let ran := started.run load (stop.map (start + ·)) hasEnded requestBound
  let (ending, settled) := settle ran id start stop
  let ended := match ending with
    | .exited time _ => time
    | .stopped time => time
  let drain := drainDeadline? hostInstant limit ending
  let isClosed (machine : Kernel) : Bool := !machine.hasEnd pipe (·.writes)
  let horizon : Option Nat := match drain with
    | some (some deadline) => some (start + deadline)
    | some none => none
    | none => some (start + ended)
  let drained := if isClosed settled then settled else settled.run load horizon isClosed requestBound
  let closing := if isClosed settled then ended
    else if isClosed drained then max ended (drained.clock - start)
    else match horizon with
      | some last => last - start + 1
      | none => drained.clock - start
  let own := drained.log.reverse.filter fun (index, _, _) => index = pipe
  let writes := own.map fun (_, time, data) => (time - start, data.toList)
  let past := match horizon with
    | some last => min last (start + max (nextPoll ended) closing)
    | none => start + max (nextPoll ended) closing
  ⟨ending, drain, ⟨writes, closing⟩, { drained with clock := max drained.clock past, log := [] }⟩

def hasNul (text : String) : Bool := text.toList.contains '\x00'

/-- Invokes children on the closed host. -/
def Invoker.host (limit : Option Nat) : Invoker Host where
  invoke invocation world :=
    let host := world.children
    let machine := { host.machine with
      disk := host.machine.disk.update host.machine.clock host.files world.files }
    let counted : Host := { host with calls := host.calls + 1, machine, files := world.files }
    let refuse (cause : LaunchCause) : Reply × World Host :=
      (.error (.launch invocation.program.text cause), { world with children := counted })
    if hasNul invocation.program.text || invocation.arguments.any hasNul then refuse .nulByte
    else
      let path := toRaw invocation.program.launchPath.text
      let arguments := path :: invocation.arguments.map toRaw
      let here := (machine.disk.locate (Disk.rawPlace world.files.home)).getD Disk.root
      match machine.disk.image ⟨here, 18, machine.clock⟩ path arguments childEnvironment with
      | .error fault => refuse (.machine fault)
      | .ok image =>
        let child := runChild machine image here limit
        let files := child.machine.disk.exported world.files world.files.home
        let after : Host := { counted with machine := child.machine, files }
        let outcome (drain : Option Nat) : Outcome :=
          let lines := child.timeline.capture drain
          match child.ending with
          | .exited _ code => ⟨code, lines, false⟩
          | .stopped _ => ⟨none, lines, true⟩
        match child.drain with
        | some drain => (.ok (outcome drain), ⟨files, after⟩)
        | none =>
          (.ok (outcome none),
            ⟨files, { after with crash := after.crash <|> some ⟨host.calls, files⟩ }⟩)

/-- A trace up to and with an invocation, after `earlier` others. -/
def eventsThrough : (earlier : Nat) → List Event → List Event
  | _, [] => []
  | 0, .invoke invocation :: _ => [.invoke invocation]
  | earlier + 1, .invoke invocation :: rest => .invoke invocation :: eventsThrough earlier rest
  | earlier, event :: rest => event :: eventsThrough earlier rest

/-- What the program does on the closed host. -/
structure HostedRun where
  /-- None if the session could not go on. -/
  result : Option (Except ProgramError Summary)
  stdout : Bytes
  files : FileTree

def runHosted (arguments : Arguments) (files : FileTree) : HostedRun :=
  let done := runProgram (.host arguments.settings.timeout) arguments ⟨files, .idle⟩
  match done.world.children.crash with
  | none => ⟨some done.result, consoleOutput done.events, done.world.files⟩
  | some crash => ⟨none, consoleOutput (eventsThrough crash.earlier done.events), crash.files⟩

/-- The status of a program whose session could not go on. -/
def crashStatus : Nat := 101

/-- What running the program with given words leaves behind. -/
structure Execution where
  status : Nat
  stdout : Bytes
  stderr : String
  files : FileTree

/-- The program as it is run from a command line. -/
def execute (words : List String) (files : FileTree) : Execution :=
  match Arguments.parse words with
  | .error error =>
    if error.isRequest then ⟨error.exitCode, bytesOfText error.message, "", files⟩
    else ⟨error.exitCode, [], error.message ++ "\n", files⟩
  | .ok arguments =>
    let done := runHosted arguments files
    match done.result with
    | none => ⟨crashStatus, done.stdout, crashMessage ++ "\n", done.files⟩
    | some result =>
      let complaint := match result with
        | .ok _ => ""
        | .error error => error.diagnostic.text
      ⟨exitStatus result, done.stdout, complaint, done.files⟩

end Conformance
