import Conformance.Text.Lines

/-!
# Capture of a child's output

A reader and a collector share the work.  The reader cuts the bytes that arrive
into lines and queues a line as soon as it ends; when the pipe closes it queues
what is left, and when reading fails it drops it.  The collector takes lines from
the queue, in order, until the queue is empty behind a closed pipe or until its
deadline passes.  The steps of the two may be interleaved in any way.
-/

namespace Conformance

structure Capture where
  /-- What was read since the last newline. -/
  pending : Bytes
  /-- Lines that nobody has taken yet. -/
  queue : List Bytes
  /-- Whether the reader is done. -/
  closed : Bool
  /-- Lines that the collector has got, latest first. -/
  taken : List Bytes
  /-- Whether the collector is done. -/
  finished : Bool
deriving DecidableEq, Repr

namespace Capture

inductive Step where
  | arrive (chunk : Bytes)
  | close
  | fail
  | take
  | expire
deriving DecidableEq, Repr

def start : Capture := ⟨[], [], false, [], false⟩

/-- A line as it is queued. -/
def queued (line : Bytes) : Bytes := dropTrailing (13 : UInt8) line

/-- The reader gets a piece of output. -/
def arrive (state : Capture) (chunk : Bytes) : Capture :=
  if state.closed then state
  else
    let (lines, tail) := cutLines (10 : UInt8) (state.pending ++ chunk)
    { state with pending := tail, queue := state.queue ++ lines.map queued }

/-- The reader meets the end of the pipe. -/
def close (state : Capture) : Capture :=
  if state.closed then state
  else
    { state with
      pending := []
      queue := state.queue ++ (if state.pending.isEmpty then [] else [queued state.pending])
      closed := true }

/-- The reader gives up. -/
def fail (state : Capture) : Capture :=
  if state.closed then state else { state with pending := [], closed := true }

/-- The collector takes a line, or sees that there will be none. -/
def take (state : Capture) : Capture :=
  if state.finished then state
  else match state.queue with
    | line :: rest => { state with queue := rest, taken := line :: state.taken }
    | [] => { state with finished := state.closed }

def perform (state : Capture) : Step → Capture
  | .arrive chunk => state.arrive chunk
  | .close => state.close
  | .fail => state.fail
  | .take => state.take
  | .expire => { state with finished := true }

def run (state : Capture) (steps : List Step) : Capture := steps.foldl perform state

/-- The collector takes all there is to take. -/
def drain (state : Capture) : Capture :=
  state.run (List.replicate (state.queue.length + 1) .take)

/-- What the collector has got. -/
def lines (state : Capture) : List String := state.taken.reverse.map lenientText

end Capture

/-- Output with the time each piece was written at, earliest first, and the time
at which nobody holds the pipe any more. -/
structure Timeline where
  writes : List (Nat × Bytes)
  closing : Nat
deriving DecidableEq, Repr

namespace Timeline

/-- What happens up to a deadline if the collector keeps pace with the reader. -/
def steps (timeline : Timeline) (deadline : Option Nat) : List Capture.Step :=
  let inTime (time : Nat) : Bool := match deadline with
    | none => true
    | some limit => time ≤ limit
  ((timeline.writes.filter fun write => inTime write.1).flatMap fun write =>
      .arrive write.2 :: List.replicate (write.2.count 10) .take) ++
    (if inTime timeline.closing then [.close] else [])

/-- The lines captured from a timeline. -/
def capture (timeline : Timeline) (deadline : Option Nat) : List String :=
  ((Capture.start.run (timeline.steps deadline)).drain.perform .expire).lines

end Timeline

end Conformance
