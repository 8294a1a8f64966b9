import Conformance.Machine.Launch
import Conformance.Machine.Process

/-!
# The kernel

A kernel holds the processes of a machine, their open files and the pipes between
them, and answers their requests.  Every process has a time of its own, up to which
it has come; the one that is furthest behind goes on next, so that what happens on
the machine happens in the order of time.  A request that cannot be answered yet
blocks the process until something changes.

Pipes can be observed: whatever is written to such a pipe is taken out at once and
kept with the time at which it was written.
-/

namespace Conformance.Machine

/-- Where an open file leads. -/
inductive Target where
  | file (node : Nat)
  | directory (node : Nat)
  | pipe (index : Nat)
  | device (kind : Device)
deriving DecidableEq, Repr, Inhabited

structure Description where
  target : Target
  offset : Nat
  reads : Bool
  writes : Bool
  appends : Bool
deriving Repr, Inhabited

structure Pipe where
  /-- What can be read, oldest first, and what was written since, latest first. -/
  front : List ByteArray
  back : List ByteArray
  size : Nat
  isObserved : Bool
deriving Inhabited

/-- A descriptor of a process. -/
structure Slot where
  number : Nat
  description : Nat
  /-- Whether it stays open when another program is started. -/
  kept : Bool
deriving Repr

/-- What a blocked process waits for. -/
inductive Cause where
  | readable (pipe : Nat)
  | writable (pipe : Nat)
  | partner (pipe descriptor : Nat)
  | child
deriving DecidableEq, Repr

inductive Stage where
  | ready (code : Process)
  | asleep (next : Reply → Process)
  | blocked (cause : Cause) (request : Request) (next : Reply → Process)
  | ended (how : Exit)

structure Task where
  id : Nat
  parent : Nat
  group : Nat
  time : Nat
  stage : Stage
  isStopped : Bool
  slots : List Slot
  here : Nat
  mask : Nat
  /-- Signals for which there is something unusual to do. -/
  reactions : List (Nat × Reaction)
  /-- Signals that were caught and not yet taken. -/
  pending : List Nat

structure Kernel where
  disk : Disk
  tasks : List Task
  descriptions : List (Nat × Description)
  pipes : List (Nat × Pipe)
  nextTask : Nat
  nextDescription : Nat
  nextPipe : Nat
  clock : Nat
  /-- What was written to observed pipes: the pipe, the time and the data, latest
  first. -/
  log : List (Nat × Nat × ByteArray)

/-- How much a pipe holds. -/
def pipeCapacity : Nat := 65536

/-- Writes up to this size are not divided. -/
def atomicSize : Nat := 4096

/-- The times that things take, in nanoseconds. -/
def requestCost : Nat := 1000
def forkCost : Nat := 80000
def forkDelay : Nat := 150000
def executeCost : Nat := 500000
def wakeCost : Nat := 20000
def exitCost : Nat := 30000

/-- The parent of processes whose parent has ended. -/
def orphanage : Nat := 1

inductive SignalEffect where
  | nothing
  | suspends
  | resumes
  | kills
deriving DecidableEq, Repr

/-- What a signal does by itself. -/
def signalEffect (signal : Nat) : SignalEffect :=
  if [0, 17, 23, 28].contains signal then .nothing
  else if signal = 18 then .resumes
  else if [19, 20, 21, 22].contains signal then .suspends
  else .kills

/-- Signals that nobody can prepare for. -/
def isUnstoppable (signal : Nat) : Bool := signal = 9 || signal = 19

/-- The place behind the first byte of a value, from a place on; `fuel` is how many
bytes there are. -/
def placeAfter (data : ByteArray) (value : UInt8) : (fuel place : Nat) → Nat
  | 0, place => place
  | fuel + 1, place =>
    if data.get! place = value then place + 1 else placeAfter data value fuel (place + 1)

namespace Pipe

/-- Adds data at the end. -/
def push (pipe : Pipe) (data : ByteArray) : Pipe :=
  { pipe with back := data :: pipe.back, size := pipe.size + data.size }

/-- Takes at most `count` bytes from a list of chunks. -/
def takeChunks (count : Nat) : List ByteArray → ByteArray × List ByteArray
  | [] => (.empty, [])
  | chunk :: rest =>
    if chunk.size ≤ count then
      let (more, left) := takeChunks (count - chunk.size) rest
      (chunk ++ more, left)
    else if count = 0 then (.empty, chunk :: rest)
    else (chunk.extract 0 count, chunk.extract count chunk.size :: rest)

/-- Takes bytes up to and with the first one of a value. -/
def takeChunksTo (last : UInt8) : List ByteArray → ByteArray × List ByteArray
  | [] => (.empty, [])
  | chunk :: rest =>
    let place := placeAfter chunk last chunk.size 0
    if place < chunk.size then (chunk.extract 0 place, chunk.extract place chunk.size :: rest)
    else if chunk.size = 0 || chunk.get! (chunk.size - 1) = last then (chunk, rest)
    else
      let (more, left) := takeChunksTo last rest
      (chunk ++ more, left)

/-- Takes some of what can be read. -/
def takeBy (pipe : Pipe) (part : List ByteArray → ByteArray × List ByteArray) :
    ByteArray × Pipe :=
  let (data, left) := part (pipe.front ++ pipe.back.reverse)
  (data, { pipe with front := left, back := [], size := pipe.size - data.size })

end Pipe

namespace Task

def slot? (task : Task) (number : Nat) : Option Slot := task.slots.find? (·.number = number)

/-- The first free number from `least` on; `fuel` bounds the search. -/
def freeNumber (task : Task) : (fuel least : Nat) → Nat
  | 0, least => least
  | fuel + 1, least =>
    if task.slots.any (·.number = least) then freeNumber task fuel (least + 1) else least

def withSlot (task : Task) (slot : Slot) : Task :=
  { task with slots := slot :: task.slots.filter (·.number ≠ slot.number) }

def withoutSlot (task : Task) (number : Nat) : Task :=
  { task with slots := task.slots.filter (·.number ≠ number) }

def reaction (task : Task) (signal : Nat) : Reaction :=
  if isUnstoppable signal then .usual else (task.reactions.lookup signal).getD .usual

def hasEnded (task : Task) : Bool :=
  match task.stage with
  | .ended _ => true
  | _ => false

/-- Whether the task can go on by itself. -/
def isReady (task : Task) : Bool :=
  !task.isStopped && match task.stage with
    | .ready _ => true
    | .asleep _ => true
    | _ => false

end Task

namespace Kernel

def task? (kernel : Kernel) (id : Nat) : Option Task := kernel.tasks.find? (·.id = id)

/-- Replaces the task with the number of another one by it. -/
def putTask (kernel : Kernel) (task : Task) : Kernel :=
  { kernel with tasks := kernel.tasks.map fun other => if other.id = task.id then task else other }

def description (kernel : Kernel) (index : Nat) : Description :=
  (kernel.descriptions.lookup index).getD default

def putDescription (kernel : Kernel) (index : Nat) (description : Description) : Kernel :=
  { kernel with descriptions := kernel.descriptions.map fun entry =>
      if entry.1 = index then (index, description) else entry }

def pipe (kernel : Kernel) (index : Nat) : Pipe := (kernel.pipes.lookup index).getD default

def putPipe (kernel : Kernel) (index : Nat) (pipe : Pipe) : Kernel :=
  { kernel with pipes := kernel.pipes.map fun entry =>
      if entry.1 = index then (index, pipe) else entry }

def addPipe (kernel : Kernel) (isObserved : Bool) : Nat × Kernel :=
  (kernel.nextPipe,
    { kernel with
      pipes := (kernel.nextPipe, ⟨[], [], 0, isObserved⟩) :: kernel.pipes
      nextPipe := kernel.nextPipe + 1 })

/-- Adds an open file. -/
def addDescription (kernel : Kernel) (description : Description) : Nat × Kernel :=
  (kernel.nextDescription,
    { kernel with
      descriptions := (kernel.nextDescription, description) :: kernel.descriptions
      nextDescription := kernel.nextDescription + 1 })

/-- The open file behind a descriptor. -/
def opened? (kernel : Kernel) (task : Task) (number : Nat) : Option (Nat × Description) :=
  (task.slot? number).map fun slot => (slot.description, kernel.description slot.description)

/-- Whether somebody holds an end of a pipe. -/
def hasEnd (kernel : Kernel) (pipe : Nat) (isEnd : Description → Bool) : Bool :=
  kernel.descriptions.any fun (_, description) =>
    description.target = .pipe pipe && isEnd description

/-- Lets the tasks that wait for something try again. -/
def wake (kernel : Kernel) (time : Nat) (concerns : Cause → Bool) : Kernel :=
  { kernel with tasks := kernel.tasks.map fun task =>
      match task.stage with
      | .blocked (.partner pipe descriptor) _ next =>
        if concerns (.partner pipe descriptor) then
          { task with
            stage := .ready (next (.number descriptor)), time := max task.time (time + wakeCost) }
        else task
      | .blocked cause request next =>
        if concerns cause then
          { task with stage := .ready (.ask request next), time := max task.time (time + wakeCost) }
        else task
      | _ => task }

def wakePipe (kernel : Kernel) (time pipe : Nat) : Kernel :=
  kernel.wake time fun cause => cause = .readable pipe || cause = .writable pipe

/-- Drops open files that no descriptor leads to any more. -/
def release (kernel : Kernel) (time : Nat) (candidates : List Nat) : Kernel :=
  let isUsed (index : Nat) : Bool :=
    kernel.tasks.any fun task => task.slots.any (·.description = index)
  candidates.foldl (fun kernel index =>
    if isUsed index then kernel
    else
      let left := { kernel with descriptions := kernel.descriptions.filter (·.1 ≠ index) }
      match (kernel.description index).target with
      | .pipe pipe => left.wakePipe time pipe
      | _ => left) kernel

/-- Ends a task. -/
def finish (kernel : Kernel) (task : Task) (how : Exit) (time : Nat) : Kernel :=
  let ended := { task with stage := .ended how, slots := [], time }
  let adopted := (kernel.putTask ended).tasks.filterMap fun other =>
    if other.parent = task.id then
      if other.hasEnded then none else some { other with parent := orphanage }
    else if other.id = task.id && task.parent = orphanage then none
    else some other
  let closed : Kernel := { kernel with tasks := adopted }
  let left : Kernel := closed.release time (task.slots.map (·.description))
  let told : Kernel := match left.task? task.parent with
    | some parent =>
      if parent.reaction 17 = .catches && !parent.hasEnded then
        left.putTask { parent with pending := parent.pending.filter (· ≠ 17) ++ [17] }
      else left
    | none => left
  { told with tasks := told.tasks.map fun other =>
      if other.id ≠ task.parent then other
      else match other.stage with
        | .blocked .child request next =>
          { other with stage := .ready (.ask request next), time := max other.time (time + wakeCost) }
        | _ => other }

/-- Gives a task a signal. -/
def deliver (kernel : Kernel) (task : Task) (signal time : Nat) : Kernel :=
  if task.hasEnded then kernel
  else
    let revived := if signal = 18 && task.isStopped then
        { task with isStopped := false, time := max task.time time }
      else task
    match revived.reaction signal with
    | .ignores => kernel.putTask revived
    | .catches =>
      let told := if revived.pending.contains signal then revived
        else { revived with pending := revived.pending ++ [signal] }
      let roused (next : Reply → Process) : Task :=
        { told with stage := .ready (next (.failed .interrupted)), time := time + wakeCost }
      match told.stage with
      | .asleep next => kernel.putTask (roused next)
      | .blocked .child request next =>
        match request with
        | .wait _ .untilSignal => kernel.putTask (roused next)
        | _ => kernel.putTask told
      | .blocked _ _ next => kernel.putTask (roused next)
      | _ => kernel.putTask told
    | .usual =>
      match signalEffect signal with
      | .nothing => kernel.putTask revived
      | .resumes => kernel.putTask revived
      | .suspends => kernel.putTask { revived with isStopped := true }
      | .kills => kernel.finish revived (.signal signal) time

/-- The tasks a number stands for. -/
def addressees (kernel : Kernel) (task : Task) (number : Int) : List Nat :=
  let chosen := kernel.tasks.filter fun other =>
    if 0 < number then Int.ofNat other.id = number
    else if number = 0 then other.group = task.group && !other.hasEnded
    else if number = -1 then other.id ≠ task.id && !other.hasEnded
    else Int.ofNat other.group = -number && !other.hasEnded
  chosen.map (·.id)

/-- From where a task sees the disk. -/
def view (task : Task) : Standpoint := ⟨task.here, task.mask, task.time⟩

/-- Goes on with a task after a reply. -/
def answer (kernel : Kernel) (task : Task) (cost : Nat) (next : Reply → Process) (reply : Reply) :
    Kernel :=
  kernel.putTask { task with stage := .ready (next reply), time := task.time + cost }

/-- Adds a descriptor for a new open file. -/
def addOpen (kernel : Kernel) (task : Task) (description : Description) :
    Nat × Task × Kernel :=
  let (index, grown) := kernel.addDescription description
  let number := task.freeNumber task.slots.length 0
  (number, task.withSlot ⟨number, index, true⟩, grown)

/-- Opens an end of a pipe with a name.  Whoever opens a single end waits for the
other one. -/
def openQueue (kernel : Kernel) (task : Task) (node : Nat) (how : Opening)
    (next : Reply → Process) : Kernel :=
  let (pipe, ready) := match (kernel.disk.node node).content with
    | .queue (some pipe) => (pipe, kernel)
    | _ =>
      let (pipe, grown) := kernel.addPipe false
      (pipe, { grown with disk := grown.disk.alter node fun inode =>
        { inode with content := .queue (some pipe) } })
  let (number, holder, grown) :=
    ready.addOpen task ⟨.pipe pipe, 0, how.reads, how.writes, how.appends⟩
  let roused := (grown.putTask holder).wake task.time fun cause => match cause with
    | .partner other _ => other = pipe
    | _ => false
  let isMet := (how.reads && how.writes) ||
    (how.reads && roused.hasEnd pipe (·.writes)) || (how.writes && roused.hasEnd pipe (·.reads))
  if isMet then roused.answer holder requestCost next (.number number)
  else roused.putTask
    { holder with stage := .blocked (.partner pipe number) (.awaitPartner number) next }

/-- Opens a file. -/
def openPath (kernel : Kernel) (task : Task) (path : String) (how : Opening) (mode : Nat)
    (next : Reply → Process) : Kernel :=
  let refuse (fault : Fault) : Kernel := kernel.answer task requestCost next (.failed fault)
  let view := view task
  let isDenied (node : Nat) : Bool :=
    (how.reads && !kernel.disk.permits node 4) || (how.writes && !kernel.disk.permits node 2)
  let hand (kernel : Kernel) (target : Target) : Kernel :=
    let (number, holder, grown) :=
      kernel.addOpen task ⟨target, 0, how.reads, how.writes, how.appends⟩
    grown.answer holder (2 * requestCost) next (.number number)
  match kernel.disk.spot view (how.follows && !(how.creates && how.isNew)) path with
  | .error fault => refuse fault
  | .ok spot =>
    match spot.node with
    | none =>
      if !how.creates then refuse .notFound
      else if spot.slashed then refuse .isDirectory
      else match kernel.disk.create view spot (.regular .empty) mode with
        | .error fault => refuse fault
        | .ok (node, disk) => hand { kernel with disk } (.file node)
    | some node =>
      if how.creates && how.isNew then refuse .exists
      else match (kernel.disk.node node).content with
        | .directory _ _ =>
          if how.writes || how.creates then refuse .isDirectory
          else if isDenied node then refuse .permissionDenied
          else hand kernel (.directory node)
        | .device (.descriptor number) =>
          match kernel.opened? task number with
          | none => refuse .notFound
          | some (_, there) =>
            match there.target with
            | .file node =>
              if isDenied node then refuse .permissionDenied
              else if how.truncates && how.writes then
                hand { kernel with disk := kernel.disk.setData node task.time .empty } there.target
              else hand kernel there.target
            | target => hand kernel target
        | .device kind => hand kernel (.device kind)
        | .queue _ =>
          if isDenied node then refuse .permissionDenied
          else kernel.openQueue task node how next
        | .link _ => refuse .linkLoop
        | .program _ =>
          if how.writes then refuse (if isDenied node then .permissionDenied else .textBusy)
          else hand kernel (.file node)
        | .regular _ =>
          if isDenied node then refuse .permissionDenied
          else if how.truncates && how.writes then
            hand { kernel with disk := kernel.disk.setData node task.time .empty } (.file node)
          else hand kernel (.file node)

/-- Reads from an open file: a number of bytes, or up to a byte of a value. -/
def readFrom (kernel : Kernel) (task : Task) (request : Request) (number count : Nat)
    (last : Option UInt8) (next : Reply → Process) : Kernel :=
  let reply (kernel : Kernel) (reply : Reply) : Kernel :=
    kernel.answer task requestCost next reply
  match kernel.opened? task number with
  | none => reply kernel (.failed .badDescriptor)
  | some (index, description) =>
    if !description.reads then reply kernel (.failed .badDescriptor)
    else match description.target with
      | .directory _ => reply kernel (.failed .isDirectory)
      | .device .zero => reply kernel (.data (Disk.zeros count))
      | .device .full => reply kernel (.data (Disk.zeros count))
      | .device _ => reply kernel (.data .empty)
      | .file node =>
        let data := kernel.disk.data node
        let begin := description.offset
        let taken := match last with
          | none => data.extract begin (begin + count)
          | some value =>
            data.extract begin (placeAfter data value (data.size - begin) begin)
        reply (kernel.putDescription index { description with offset := begin + taken.size })
          (.data taken)
      | .pipe pipe =>
        let content := kernel.pipe pipe
        if content.size = 0 then
          if kernel.hasEnd pipe (·.writes) then
            kernel.putTask { task with stage := .blocked (.readable pipe) request next }
          else reply kernel (.data .empty)
        else
          let (data, left) := content.takeBy fun chunks => match last with
            | none => Pipe.takeChunks count chunks
            | some value => Pipe.takeChunksTo value chunks
          let drained := (kernel.putPipe pipe left).wake task.time (· = .writable pipe)
          reply drained (.data data)
/-- Writes to an open file. -/
def writeTo (kernel : Kernel) (task : Task) (number : Nat) (data : ByteArray)
    (next : Reply → Process) : Kernel :=
  let reply (kernel : Kernel) (reply : Reply) : Kernel :=
    kernel.answer task requestCost next reply
  match kernel.opened? task number with
  | none => reply kernel (.failed .badDescriptor)
  | some (index, description) =>
    if !description.writes then reply kernel (.failed .badDescriptor)
    else match description.target with
      | .directory _ => reply kernel (.failed .badDescriptor)
      | .device .full => reply kernel (.failed .noSpace)
      | .device _ => reply kernel .done
      | .file node =>
        let offset := if description.appends then (kernel.disk.data node).size
          else description.offset
        let moved := kernel.putDescription index { description with offset := offset + data.size }
        reply { moved with disk := moved.disk.writeData node offset task.time data } .done
      | .pipe pipe =>
        let content := kernel.pipe pipe
        if content.isObserved then
          reply { kernel with log := (pipe, task.time, data) :: kernel.log } .done
        else if !kernel.hasEnd pipe (·.reads) then
          match task.reaction 13 with
          | .usual => kernel.finish task (.signal 13) task.time
          | .catches => (kernel.deliver task 13 task.time).answer
              { task with pending := task.pending.filter (· ≠ 13) ++ [13] } requestCost next
              (.failed .brokenPipe)
          | .ignores => reply kernel (.failed .brokenPipe)
        else
          let space := pipeCapacity - content.size
          if data.size ≤ space then
            reply ((kernel.putPipe pipe (content.push data)).wake task.time (· = .readable pipe))
              .done
          else if data.size ≤ atomicSize || space = 0 then
            kernel.putTask { task with stage := .blocked (.writable pipe) (.write number data) next }
          else
            let filled := (kernel.putPipe pipe (content.push (data.extract 0 space))).wake
              task.time (· = .readable pipe)
            let rest := data.extract space data.size
            filled.putTask
              { task with stage := .blocked (.writable pipe) (.write number rest) next }

/-- Moves in an open file. -/
def seekIn (kernel : Kernel) (task : Task) (number : Nat) (offset : Int) (origin : Origin) :
    Reply × Kernel :=
  match kernel.opened? task number with
  | none => (.failed .badDescriptor, kernel)
  | some (index, description) =>
    match description.target with
    | .pipe _ => (.failed .illegalSeek, kernel)
    | .file node =>
      let base : Nat := match origin with
        | .start => 0
        | .current => description.offset
        | .finish => (kernel.disk.data node).size
      let place := Int.ofNat base + offset
      if place < 0 then (.failed .invalid, kernel)
      else (.number place.toNat,
        kernel.putDescription index { description with offset := place.toNat })
    | _ => (.number 0, kernel)

/-- What can be known about an open file. -/
def infoOf (kernel : Kernel) (description : Description) : Info :=
  match description.target with
  | .file node => kernel.disk.info node
  | .directory node => kernel.disk.info node
  | .pipe pipe => { (default : Info) with kind := .queue, node := 1000000 + pipe, mode := 384 }
  | .device _ => { (default : Info) with kind := .device, node := 999999, mode := 438 }

/-- Waits for a child. -/
def awaitChild (kernel : Kernel) (task : Task) (request : Request) (process : Option Nat)
    (patience : Patience) (next : Reply → Process) : Kernel :=
  let children := kernel.tasks.filter fun other =>
    other.parent = task.id && match process with
      | some id => other.id = id
      | none => true
  let ended := children.filter (·.hasEnded)
  let first := ended.foldl (fun (best : Option Task) other => match best with
    | some known => if other.time < known.time then some other else best
    | none => some other) none
  match first with
  | some child =>
    match child.stage with
    | .ended how =>
      let left : Kernel := { kernel with tasks := kernel.tasks.filter (·.id ≠ child.id) }
      left.answer task requestCost next (.ended child.id how)
    | _ => kernel
  | none =>
    if children.isEmpty then kernel.answer task requestCost next (.failed .noChild)
    else match patience with
      | .none => kernel.answer task requestCost next .done
      | .untilSignal =>
        if task.pending.isEmpty then
          kernel.putTask { task with stage := .blocked .child request next }
        else kernel.answer task requestCost next (.failed .interrupted)
      | .full => kernel.putTask { task with stage := .blocked .child request next }

/-- Sends a signal. -/
def sendSignal (kernel : Kernel) (task : Task) (number : Int) (signal : Nat)
    (next : Reply → Process) : Kernel :=
  if 64 < signal then kernel.answer task requestCost next (.failed .invalid)
  else if number = Int.ofNat orphanage then
    kernel.answer task requestCost next (.failed .notPermitted)
  else
    let targets := kernel.addressees task number
    if targets.isEmpty then kernel.answer task requestCost next (.failed .noProcess)
    else
      let answered := kernel.answer task requestCost next .done
      if signal = 0 then answered
      else targets.foldl (fun kernel id =>
        match kernel.task? id with
        | some target => kernel.deliver target signal task.time
        | none => kernel) answered

/-- Starts another program in place of the one that runs. -/
def execute (load : Image → List String → Process) (kernel : Kernel) (task : Task)
    (path : String) (arguments environment : List String) (next : Reply → Process) : Kernel :=
  match kernel.disk.image (view task) path arguments environment with
  | .error fault => kernel.answer task requestCost next (.failed fault)
  | .ok image =>
    let (staying, closing) := task.slots.partition (·.kept)
    let started := { task with
      stage := .ready (load image environment)
      time := task.time + executeCost
      slots := staying
      reactions := task.reactions.filter (·.2 = .ignores)
      pending := [] }
    (kernel.putTask started).release task.time (closing.map (·.description))

/-- Answers a request that changes or examines the disk only. -/
def useDisk (kernel : Kernel) (task : Task) (next : Reply → Process)
    (use : Disk → Standpoint → Except Fault (Reply × Disk)) : Kernel :=
  match use kernel.disk (view task) with
  | .error fault => kernel.answer task (2 * requestCost) next (.failed fault)
  | .ok (reply, disk) =>
    let changed : Kernel := { kernel with disk }
    changed.answer task (2 * requestCost) next reply

/-- Answers a request that changes the disk. -/
def change (kernel : Kernel) (task : Task) (next : Reply → Process)
    (action : Disk → Standpoint → Except Fault Disk) : Kernel :=
  kernel.useDisk task next fun disk view => (action disk view).map (Reply.done, ·)

/-- Answers a request that examines the disk. -/
def look (kernel : Kernel) (task : Task) (next : Reply → Process)
    (action : Disk → Standpoint → Except Fault Reply) : Kernel :=
  kernel.useDisk task next fun disk view => (action disk view).map (·, disk)

/-- Answers a request about descriptors. -/
def answerSlots (kernel : Kernel) (task : Task) (next : Reply → Process) : Request → Kernel
  | .close number =>
    match task.slot? number with
    | none => kernel.answer task requestCost next (.failed .badDescriptor)
    | some slot =>
      (kernel.answer (task.withoutSlot number) requestCost next .done).release task.time
        [slot.description]
  | .copy number least kept =>
    match task.slot? number with
    | none => kernel.answer task requestCost next (.failed .badDescriptor)
    | some slot =>
      let free := task.freeNumber task.slots.length least
      kernel.answer (task.withSlot ⟨free, slot.description, kept⟩) requestCost next (.number free)
  | .redirect source target =>
    match task.slot? source with
    | none => kernel.answer task requestCost next (.failed .badDescriptor)
    | some slot =>
      if source = target then kernel.answer task requestCost next .done
      else
        let closed := ((task.slot? target).map (·.description)).toList
        (kernel.answer (task.withSlot ⟨target, slot.description, true⟩) requestCost next
          .done).release task.time closed
  | .makePipe =>
    let (pipe, grown) := kernel.addPipe false
    let (first, reader, opened) := grown.addOpen task ⟨.pipe pipe, 0, true, false, false⟩
    let (second, both, ready) := opened.addOpen reader ⟨.pipe pipe, 0, false, true, false⟩
    ready.answer both requestCost next (.pair first second)
  | .resize number size =>
    match kernel.opened? task number with
    | some (_, description) =>
      match description.target with
      | .file node =>
        let resized := Disk.resized (kernel.disk.data node) size
        let changed : Kernel := { kernel with disk := kernel.disk.setData node task.time resized }
        changed.answer task requestCost next .done
      | _ => kernel.answer task requestCost next (.failed .invalid)
    | none => kernel.answer task requestCost next (.failed .badDescriptor)
  | .examineOpen number =>
    match kernel.opened? task number with
    | some (_, description) =>
      kernel.answer task requestCost next (.info (kernel.infoOf description))
    | none => kernel.answer task requestCost next (.failed .badDescriptor)
  | _ => kernel.answer task requestCost next (.failed .invalid)

/-- Answers a request about the names and inodes of the disk. -/
def answerDisk (kernel : Kernel) (task : Task) (next : Reply → Process) : Request → Kernel
  | .examine path follow => kernel.look task next fun disk view =>
      (disk.find view follow path).map fun node => .info (disk.info node)
  | .list path => kernel.look task next fun disk view => (disk.list view path).map .texts
  | .readLink path => kernel.look task next fun disk view => (disk.readLink view path).map .text
  | .makeDirectory path mode => kernel.change task next (·.makeDirectory · path mode)
  | .makeLink target path => kernel.change task next (·.makeLink · target path)
  | .makeQueue path mode => kernel.change task next (·.makeQueue · path mode)
  | .addName source target => kernel.change task next (·.addName · source target)
  | .remove path => kernel.change task next (·.remove · path)
  | .removeDirectory path => kernel.change task next (·.removeDirectory · path)
  | .rename source target => kernel.change task next (·.rename · source target)
  | .setMode path mode => kernel.change task next (·.setMode · path mode)
  | .setTime path time => kernel.change task next (·.setTime · path (time.getD task.time))
  | .workingDirectory =>
    match kernel.disk.pathOf kernel.disk.inodes.size task.here with
    | some path => kernel.answer task requestCost next (.text path)
    | none => kernel.answer task requestCost next (.failed .notFound)
  | _ => kernel.answer task requestCost next (.failed .invalid)

/-- Answers a request. -/
def perform (load : Image → List String → Process) (kernel : Kernel) (task : Task)
    (request : Request) (next : Reply → Process) : Kernel :=
  match request with
  | .openFile path how mode => kernel.openPath task path how mode next
  | .read number count => kernel.readFrom task request number count none next
  | .readTo number last => kernel.readFrom task request number 0 (some last) next
  | .write number data => kernel.writeTo task number data next
  | .seek number offset origin =>
    let (reply, moved) := kernel.seekIn task number offset origin
    moved.answer task requestCost next reply
  | .changeDirectory path =>
    match kernel.disk.enter (view task) path with
    | .error fault => kernel.answer task requestCost next (.failed fault)
    | .ok here => kernel.answer { task with here } requestCost next .done
  | .setMask mask => kernel.answer { task with mask } requestCost next (.number task.mask)
  | .execute path arguments environment =>
    execute load kernel task path arguments environment next
  | .wait process patience => kernel.awaitChild task request process patience next
  | .send number signal => kernel.sendSignal task number signal next
  | .react signal reaction =>
    let others := task.reactions.filter (·.1 ≠ signal)
    let reactions := if reaction = .usual then others else (signal, reaction) :: others
    kernel.answer { task with reactions } 0 next
      (.number (match task.reaction signal with | .usual => 0 | .ignores => 1 | .catches => 2))
  | .takeSignals => kernel.answer { task with pending := [] } 0 next (.signals task.pending)
  | .sleep duration =>
    kernel.putTask { task with stage := .asleep next, time := task.time + duration }
  | .spend duration => kernel.answer task duration next .done
  | .now => kernel.answer task 0 next (.number task.time)
  | .identify => kernel.answer task 0 next (.pair task.id task.parent)
  | .leaveGroup => kernel.answer { task with group := task.id } requestCost next .done
  | .awaitPartner number => kernel.answer task requestCost next (.number number)
  | .close _ => kernel.answerSlots task next request
  | .copy _ _ _ => kernel.answerSlots task next request
  | .redirect _ _ => kernel.answerSlots task next request
  | .makePipe => kernel.answerSlots task next request
  | .resize _ _ => kernel.answerSlots task next request
  | .examineOpen _ => kernel.answerSlots task next request
  | _ => kernel.answerDisk task next request

/-- Splits a task. -/
def split (kernel : Kernel) (task : Task) (child : Unit → Process) (next : Reply → Process) :
    Kernel :=
  let id := kernel.nextTask
  let born := { task with
    id
    parent := task.id
    time := task.time + forkDelay
    stage := .ready (child ())
    pending := [] }
  let grown : Kernel := { kernel with tasks := kernel.tasks ++ [born], nextTask := id + 1 }
  grown.answer task forkCost next (.number id)

/-- The task that goes on next. -/
def nextTask? (kernel : Kernel) : Option Task :=
  kernel.tasks.foldl (fun best task =>
    if !task.isReady then best
    else match best with
      | none => some task
      | some other => if task.time < other.time then some task else best) none

/-- Lets a task go on to its next request. -/
def advance (load : Image → List String → Process) (kernel : Kernel) (task : Task) : Kernel :=
  let kernel := { kernel with clock := max kernel.clock task.time }
  match task.stage with
  | .asleep next => kernel.answer task 0 next .done
  | .ready (.exit status) => kernel.finish task (.status (status % 256)) (task.time + exitCost)
  | .ready (.fork child next) => kernel.split task child next
  | .ready (.ask request next) => kernel.perform load task request next
  | _ => kernel

/-- Lets tasks go on, in the order of time, until `isOver` holds or there is nothing to
do up to a horizon; `fuel` bounds the number of requests. -/
def run (load : Image → List String → Process) (horizon : Option Nat)
    (isOver : Kernel → Bool) : (fuel : Nat) → Kernel → Kernel
  | 0, kernel => kernel
  | fuel + 1, kernel =>
    if isOver kernel then kernel
    else match kernel.nextTask? with
      | none => kernel
      | some task =>
        let isLate : Bool := match horizon with
          | some last => last < task.time
          | none => false
        if isLate then kernel else run load horizon isOver fuel (kernel.advance load task)

/-- A task of the machine's owner that starts an image, with its standard descriptors. -/
def start (load : Image → List String → Process) (kernel : Kernel) (image : Image)
    (environment : List String) (here : Nat) (observed : Nat) : Nat × Kernel :=
  let id := kernel.nextTask
  let (input, withInput) := kernel.addDescription ⟨.device .null, 0, true, false, false⟩
  let (output, withOutput) := withInput.addDescription ⟨.pipe observed, 0, false, true, false⟩
  let (errors, ready) := withOutput.addDescription ⟨.device .null, 0, false, true, false⟩
  let task : Task :=
    { id
      parent := 0
      group := id
      time := kernel.clock + forkDelay + executeCost
      stage := .ready (load image environment)
      isStopped := false
      slots := [⟨0, input, true⟩, ⟨1, output, true⟩, ⟨2, errors, true⟩]
      here
      mask := 18
      reactions := []
      pending := [] }
  (id, { ready with tasks := ready.tasks ++ [task], nextTask := id + 1 })

end Kernel

end Conformance.Machine
