import Conformance.Tool.Basic

/-!
# What tools read

Input comes from operands, or from the standard input, in pieces or line by line.  A
tool that reads line by line does not wait for more than the line it needs.
-/

namespace Conformance.Tool

open Machine

/-- A line and whether its end was there. -/
structure TextLine where
  content : List Char
  isEnded : Bool
deriving DecidableEq, Repr

/-- Cuts data at marks; the line under way goes on from `start`, which is backwards like
the one that is left over. -/
def cutData (mark : UInt8) (start : List Char) (data : ByteArray) : List (List Char) × List Char :=
  let (done, current) := data.foldl (fun (done, current) b =>
    if b = mark then (current.reverse :: done, ([] : List Char))
    else (done, Char.ofNat b.toNat :: current)) (([] : List (List Char)), start)
  (done.reverse, current)

def linesOfData (mark : UInt8) (data : ByteArray) : List TextLine :=
  let (lines, rest) := cutData mark [] data
  lines.map (⟨·, true⟩) ++ (if rest.isEmpty then [] else [⟨rest.reverse, false⟩])

/-- Input that is read line by line. -/
structure Stream where
  descriptor : Nat
  /-- How much is read at once; zero stands for a line. -/
  chunk : Nat
  mark : UInt8
  /-- Lines that were read. -/
  ready : List (List Char)
  /-- The line under way, backwards. -/
  rest : List Char
  isOver : Bool
  /-- Why reading failed. -/
  fault : Option Fault

namespace Stream

def ofDescriptor (descriptor : Nat) (mark : UInt8) : Stream :=
  ⟨descriptor, 4096, mark, [], [], false, none⟩

/-- Some more data; where nothing may be read in advance, no more than a line. -/
def readMore (stream : Stream) : Work (Except Fault ByteArray) :=
  if stream.chunk = 0 then
    Activity.askFor (.readTo stream.descriptor stream.mark) fun reply => match reply with
      | .data bytes => some bytes
      | _ => none
  else Activity.read stream.descriptor stream.chunk

/-- The next line; `fuel` bounds the pieces in which it comes. -/
def nextFrom : (fuel : Nat) → Stream → Work (Option TextLine × Stream)
  | 0, stream => return (none, stream)
  | fuel + 1, stream => do
    match stream.ready with
    | line :: more => return (some ⟨line, true⟩, { stream with ready := more })
    | [] =>
      if stream.isOver then
        if stream.rest.isEmpty then return (none, stream)
        else return (some ⟨stream.rest.reverse, false⟩, { stream with rest := [] })
      else match ← stream.readMore with
        | .ok data =>
          if data.isEmpty then nextFrom fuel { stream with isOver := true }
          else
            let (lines, rest) := cutData stream.mark stream.rest data
            nextFrom fuel { stream with ready := lines, rest }
        | .error fault => nextFrom fuel { stream with isOver := true, fault := some fault }

def pieceBound : Nat := 100000000

def next (stream : Stream) : Work (Option TextLine × Stream) := stream.nextFrom pieceBound

/-- How many bytes were read and not used. -/
def unused (stream : Stream) : Nat :=
  stream.ready.foldl (fun n line => n + line.length + 1) stream.rest.length

/-- Gives back what was read and not used, where that is possible. -/
def giveBack (stream : Stream) : Work Unit := do
  if 0 < stream.unused then
    let _ ← Activity.ask (.seek stream.descriptor (-Int.ofNat stream.unused) .current)

end Stream

namespace Work

/-- Everything that is left to read from a descriptor; `fuel` bounds the pieces. -/
def readRest (descriptor : Nat) : (fuel : Nat) → List ByteArray → Work (ByteArray × Option Fault)
  | 0, taken => return (taken.reverse.foldl (· ++ ·) .empty, none)
  | fuel + 1, taken => do
    match ← Activity.read descriptor 65536 with
    | .ok data =>
      if data.isEmpty then return (taken.reverse.foldl (· ++ ·) .empty, none)
      else readRest descriptor fuel (data :: taken)
    | .error fault => return (taken.reverse.foldl (· ++ ·) .empty, some fault)

def openOperand (operand : String) : Work (Except Fault Nat) :=
  if operand = "-" then return .ok 0 else Activity.openFile operand .input

def closeOperand (descriptor : Nat) : Work Unit :=
  if descriptor = 0 then return else Activity.close descriptor

def readOperand (operand : String) : Work (Except Fault ByteArray) := do
  match ← openOperand operand with
  | .error fault => return .error fault
  | .ok descriptor =>
    let (data, fault) ← readRest descriptor Stream.pieceBound []
    closeOperand descriptor
    match fault with
    | some fault => return .error fault
    | none => return .ok data

def orInput (operands : List String) : List String :=
  if operands.isEmpty then ["-"] else operands

/-- What the operands of a tool hold.  What cannot be read is complained about. -/
def readAll (operands : List String) : Work (List (String × ByteArray)) := do
  let mut found : List (String × ByteArray) := []
  for operand in orInput operands do
    match ← readOperand operand with
    | .ok data => found := (operand, data) :: found
    | .error fault => complain (shownName operand ++ ": " ++ fault.text)
  return found.reverse

end Work

namespace Stream

/-- Goes through the lines of a stream as long as `step` wants more of them; `fuel`
bounds their number. -/
def foldFrom {σ : Type} (step : σ → TextLine → Work (σ × Bool)) :
    (fuel : Nat) → Stream → σ → Work (σ × Stream)
  | 0, stream, state => return (state, stream)
  | fuel + 1, stream, state => do
    match ← stream.next with
    | (none, rest) => return (state, rest)
    | (some line, rest) =>
      match ← step state line with
      | (state, true) => foldFrom step fuel rest state
      | (state, false) => return (state, rest)

def fold {σ : Type} (step : σ → TextLine → Work (σ × Bool)) (stream : Stream) (state : σ) :
    Work (σ × Stream) :=
  foldFrom step pieceBound stream state

end Stream

/-- How a tool words that an operand cannot be opened or read. -/
structure Complaints where
  opening : String → Fault → String
  reading : String → Fault → String

namespace Complaints

/-- The name of an operand and the reason. -/
def plain : Complaints :=
  ⟨fun operand fault => shownName operand ++ ": " ++ fault.text,
    fun operand fault => shownName operand ++ ": " ++ fault.text⟩

/-- The same words around the name in both cases. -/
def around (front behind : String) : Complaints :=
  let words (operand : String) (fault : Fault) : String :=
    front ++ quoted operand ++ behind ++ ": " ++ fault.text
  ⟨words, words⟩

end Complaints

namespace Work

/-- Opens one operand after the other and lets `body` read them.  What cannot be opened
or read is complained about. -/
def overOperands {σ : Type} (complaints : Complaints)
    (body : String → Nat → σ → Work (σ × Option Fault)) : List String → σ → Work σ
  | [], state => return state
  | operand :: rest, state => do
    match ← openOperand operand with
    | .error fault =>
      complain (complaints.opening operand fault)
      overOperands complaints body rest state
    | .ok descriptor =>
      let (state, fault) ← body operand descriptor state
      closeOperand descriptor
      match fault with
      | some fault => complain (complaints.reading operand fault)
      | none => pure ()
      overOperands complaints body rest state

/-- Goes through the lines of operands, or of the input if there are none. -/
def overLines {σ : Type} (complaints : Complaints) (mark : UInt8)
    (step : σ → TextLine → Work σ) (operands : List String) (state : σ) : Work σ :=
  let body (_ : String) (descriptor : Nat) (state : σ) : Work (σ × Option Fault) := do
    let (state, stream) ← (Stream.ofDescriptor descriptor mark).fold
      (fun state line => do return (← step state line, true)) state
    return (state, stream.fault)
  overOperands complaints body (orInput operands) state

def putTextLine (mark : UInt8) (line : TextLine) : Work Unit :=
  let data := dataOfChars line.content
  putData (if line.isEnded then data.push mark else data)

def convertLines (operands : List String) (change : List Char → List Char) : Work Unit :=
  overLines Complaints.plain 10
    (fun _ line => putTextLine 10 { line with content := change line.content }) operands ()

/-- Takes data from a descriptor piece by piece until it is over; `fuel` bounds the
pieces. -/
def overPieces {σ : Type} (size : Nat) (step : σ → ByteArray → Work σ) (descriptor : Nat) :
    (fuel : Nat) → σ → Work (σ × Option Fault)
  | 0, state => return (state, none)
  | fuel + 1, state => do
    match ← Activity.read descriptor size with
    | .error fault => return (state, some fault)
    | .ok data =>
      if data.isEmpty then return (state, none)
      else
        let state ← step state data
        overPieces size step descriptor fuel state

end Work

end Conformance.Tool
