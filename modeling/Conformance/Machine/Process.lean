import Conformance.Machine.Disk

/-!
# Processes as sequences of requests

A process computes by itself and asks the machine for everything else.  `Process` is
what a process will do from some point on: it ends, or it asks for something and goes
on with the reply, or it splits in two.  An `Activity` is a piece of a process that
works on a state of its own and either yields a value or is broken off.
-/

namespace Conformance.Machine

/-- How a process has ended. -/
inductive Exit where
  | status (code : Nat)
  | signal (number : Nat)
deriving DecidableEq, Repr, Inhabited

/-- What a process does about a signal. -/
inductive Reaction where
  | usual
  | ignores
  /-- The signal is kept until the process asks for it. -/
  | catches
deriving DecidableEq, Repr

/-- How a file is opened. -/
structure Opening where
  reads : Bool
  writes : Bool
  appends : Bool
  creates : Bool
  /-- Whether the file must be a new one. -/
  isNew : Bool
  truncates : Bool
  follows : Bool
deriving DecidableEq, Repr

namespace Opening

def input : Opening := ⟨true, false, false, false, false, false, true⟩

def output : Opening := ⟨false, true, false, true, false, true, true⟩

def append : Opening := ⟨false, true, true, true, false, false, true⟩

end Opening

/-- How long a process waits for a child. -/
inductive Patience where
  | none
  | untilSignal
  | full
deriving DecidableEq, Repr

inductive Origin where
  | start
  | current
  | finish
deriving DecidableEq, Repr

inductive Request where
  | openFile (path : String) (how : Opening) (mode : Nat)
  | close (descriptor : Nat)
  /-- A copy of a descriptor at the first free number from `least` on; `kept` tells
  whether it stays open when another program is started. -/
  | copy (descriptor least : Nat) (kept : Bool)
  /-- Makes one descriptor lead to where another one leads. -/
  | redirect (source target : Nat)
  | makePipe
  | read (descriptor count : Nat)
  /-- Reads up to and with the first byte of a value, as far as there is something. -/
  | readTo (descriptor : Nat) (last : UInt8)
  | write (descriptor : Nat) (data : ByteArray)
  | seek (descriptor : Nat) (offset : Int) (origin : Origin)
  | resize (descriptor size : Nat)
  | examineOpen (descriptor : Nat)
  | examine (path : String) (follow : Bool)
  | list (path : String)
  | readLink (path : String)
  | makeDirectory (path : String) (mode : Nat)
  | makeLink (target path : String)
  | makeQueue (path : String) (mode : Nat)
  | addName (source target : String)
  | remove (path : String)
  | removeDirectory (path : String)
  | rename (source target : String)
  | setMode (path : String) (mode : Nat)
  | setTime (path : String) (time : Option Nat)
  | changeDirectory (path : String)
  | workingDirectory
  | setMask (mask : Nat)
  /-- Starts a program in place of the one that runs.  `environment` has entries of
  the form name, equals sign, value. -/
  | execute (path : String) (arguments environment : List String)
  /-- Waits for a child, or for any. -/
  | wait (process : Option Nat) (patience : Patience)
  | send (process : Int) (signal : Nat)
  | react (signal : Nat) (reaction : Reaction)
  | takeSignals
  | sleep (duration : Nat)
  | spend (duration : Nat)
  | now
  | identify
  /-- Moves a process into a group of its own. -/
  | leaveGroup
  /-- Waits until somebody has opened the other end of a pipe with a name. -/
  | awaitPartner (descriptor : Nat)

inductive Reply where
  | done
  | failed (fault : Fault)
  | number (value : Nat)
  | pair (first second : Nat)
  | data (bytes : ByteArray)
  | text (value : String)
  | texts (values : List String)
  | ended (process : Nat) (how : Exit)
  | info (value : Info)
  | signals (numbers : List Nat)
deriving Inhabited

inductive Process where
  | exit (status : Nat)
  | ask (request : Request) (next : Reply → Process)
  /-- The child gets going with `child`; the parent is told its number. -/
  | fork (child : Unit → Process) (next : Reply → Process)

instance : Inhabited Process := ⟨.exit 0⟩

/-- A piece of a process with a state `σ`, broken off by an `ε`. -/
def Activity (σ ε α : Type) : Type := σ → (Except ε α → σ → Process) → Process

namespace Activity

variable {σ ε α β : Type}

@[inline] def pure (a : α) : Activity σ ε α := fun s k => k (.ok a) s

@[inline] def bind (m : Activity σ ε α) (f : α → Activity σ ε β) : Activity σ ε β :=
  fun s k => m s fun result s' =>
    match result with
    | .ok a => f a s' k
    | .error e => k (.error e) s'

instance : Monad (Activity σ ε) where
  pure := Activity.pure
  bind := Activity.bind

instance : MonadStateOf σ (Activity σ ε) where
  get := fun s k => k (.ok s) s
  set s := fun _ k => k (.ok ()) s
  modifyGet f := fun s k => let (a, s') := f s; k (.ok a) s'

instance : MonadExceptOf ε (Activity σ ε) where
  throw e := fun s k => k (.error e) s
  tryCatch m handle := fun s k => m s fun result s' =>
    match result with
    | .ok a => k (.ok a) s'
    | .error e => handle e s' k

instance [Inhabited ε] : Inhabited (Activity σ ε α) := ⟨fun s k => k (.error default) s⟩

/-- Asks the machine for something. -/
def ask (request : Request) : Activity σ ε Reply :=
  fun s k => .ask request fun reply => k (.ok reply) s

/-- Ends the process at once. -/
def exit (status : Nat) : Activity σ ε α := fun _ _ => .exit status

/-- Splits the process.  The child is made from a copy of the state; the parent gets
the child's number. -/
def fork (child : σ → Process) : Activity σ ε Nat :=
  fun s k => .fork (fun _ => child s) fun reply =>
    match reply with
    | .number id => k (.ok id) s
    | _ => k (.ok 0) s

/-- The result of an activity, broken off or not. -/
def attempt (m : Activity σ ε α) : Activity σ ε (Except ε α) :=
  fun s k => m s fun result s' => k (.ok result) s'

/-- An activity as a whole process. -/
def run (m : Activity σ ε α) (s : σ) (last : Except ε α → σ → Process) : Process := m s last

/-! The requests as activities. -/

/-- The fault of a reply, if it has one. -/
def fault? : Reply → Option Fault
  | .failed fault => some fault
  | _ => none

/-- Asks for something that only succeeds or fails. -/
def attemptTo (request : Request) : Activity σ ε (Option Fault) := do
  return fault? (← ask request)

/-- Asks for something and takes the part of the reply that is wanted. -/
def askFor (request : Request) (part : Reply → Option α) : Activity σ ε (Except Fault α) := do
  match ← ask request with
  | .failed fault => return .error fault
  | reply =>
    match part reply with
    | some a => return .ok a
    | none => return .error .invalid

def openFile (path : String) (how : Opening) : Activity σ ε (Except Fault Nat) :=
  askFor (.openFile path how 438) fun reply => match reply with
    | .number n => some n
    | _ => none

def close (descriptor : Nat) : Activity σ ε Unit := do
  let _ ← ask (.close descriptor)

def read (descriptor count : Nat) : Activity σ ε (Except Fault ByteArray) :=
  askFor (.read descriptor count) fun reply => match reply with
    | .data bytes => some bytes
    | _ => none

def write (descriptor : Nat) (data : ByteArray) : Activity σ ε (Option Fault) :=
  if data.isEmpty then Activity.pure none else attemptTo (.write descriptor data)

/-- What a path leads to. -/
def examine (path : String) : Activity σ ε (Except Fault Info) :=
  askFor (.examine path true) fun reply => match reply with
    | .info value => some value
    | _ => none

/-- What a path leads to if a link at its end is not followed. -/
def examineItself (path : String) : Activity σ ε (Except Fault Info) :=
  askFor (.examine path false) fun reply => match reply with
    | .info value => some value
    | _ => none

def examineOpen (descriptor : Nat) : Activity σ ε (Except Fault Info) :=
  askFor (.examineOpen descriptor) fun reply => match reply with
    | .info value => some value
    | _ => none

def list (path : String) : Activity σ ε (Except Fault (List String)) :=
  askFor (.list path) fun reply => match reply with
    | .texts values => some values
    | _ => none

def readLink (path : String) : Activity σ ε (Except Fault String) :=
  askFor (.readLink path) fun reply => match reply with
    | .text value => some value
    | _ => none

def workingDirectory : Activity σ ε (Except Fault String) :=
  askFor .workingDirectory fun reply => match reply with
    | .text value => some value
    | _ => none

/-- The two ends of a new pipe. -/
def makePipe : Activity σ ε (Except Fault (Nat × Nat)) :=
  askFor .makePipe fun reply => match reply with
    | .pair a b => some (a, b)
    | _ => none

/-- The numbers of the process and of its parent. -/
def identify : Activity σ ε (Nat × Nat) := do
  match ← ask .identify with
  | .pair own above => return (own, above)
  | _ => return (0, 0)

def now : Activity σ ε Nat := do
  match ← ask .now with
  | .number time => return time
  | _ => return 0

def spend (duration : Nat) : Activity σ ε Unit := do
  let _ ← ask (.spend duration)

def wait (process : Option Nat) (patience : Patience) :
    Activity σ ε (Except Fault (Nat × Exit)) :=
  askFor (.wait process patience) fun reply => match reply with
    | .ended id how => some (id, how)
    | _ => none

end Activity

end Conformance.Machine
