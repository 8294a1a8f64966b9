import Conformance.Tool.Launch

/-!
# Input cut into files

`split` writes an input in pieces, each to a file of its own.  The names of the files
count in letters or digits, and grow when they are used up.
-/

namespace Conformance.Tool

open Machine

/-! ## Names -/

/-- How the files of pieces are named. -/
structure PieceNames where
  start : String
  ending : String
  digits : List Char
  width : Nat
  /-- Whether names become longer once they are used up. -/
  grows : Bool
  /-- The number of the first name. -/
  first : Nat

namespace PieceNames

/-- A number in the digits, as wide as is asked for. -/
def numeral (names : PieceNames) : (width : Nat) → Nat → List Char
  | 0, _ => []
  | width + 1, n =>
    numeral names width (n / names.digits.length) ++
      [names.digits.getD (n % names.digits.length) ' ']

/-- The growing numeral of a number.  One that begins with the last digit is longer;
`fuel` bounds its length. -/
def grown (names : PieceNames) : (fuel width : Nat) → Nat → List Char
  | 0, _, _ => []
  | fuel + 1, width, n =>
    let base := names.digits.length
    let count := (base - 1) * Nat.pow base (width - 1)
    if n < count then names.numeral width n
    else names.digits.getD (base - 1) ' ' :: grown names fuel (width + 1) (n - count)

def name? (names : PieceNames) (place : Nat) : Option String :=
  let n := names.first + place
  if names.grows then
    some (names.start ++ String.ofList (names.grown 64 names.width n) ++ names.ending)
  else if n < Nat.pow names.digits.length names.width then
    some (names.start ++ String.ofList (names.numeral names.width n) ++ names.ending)
  else none

end PieceNames

/-! ## Pieces -/

/-- How a number of pieces is made. -/
inductive Share where
  | bytes
  | lines
  /-- Line after line goes to the next piece. -/
  | rounds
deriving DecidableEq, Repr

/-- What the pieces are. -/
inductive Portion where
  | lines (count : Nat)
  | bytes (count : Nat)
  /-- Whole lines, as many as there is room for. -/
  | lineBytes (count : Nat)
  /-- So many pieces, of which perhaps only one is wanted. -/
  | shares (kind : Share) (wanted : Option Nat) (count : Nat)

def evenPieces (size : Nat) (data : ByteArray) : List ByteArray :=
  (List.range ((data.size + size - 1) / size)).map fun k =>
    data.extract (k * size) ((k + 1) * size)

/-- Lists of one length, and what is left; `fuel` bounds them. -/
def evenGroups {α : Type} (size : Nat) : (fuel : Nat) → List α → List (List α)
  | 0, _ => []
  | fuel + 1, items =>
    if items.isEmpty then [] else items.take size :: evenGroups size fuel (items.drop size)

def dataOfLines (mark : UInt8) (lines : List TextLine) : ByteArray :=
  lines.foldl (fun data line =>
    let text := data ++ dataOfChars line.content
    if line.isEnded then text.push mark else text) .empty

def lastMark? (mark : UInt8) (data : ByteArray) (start : Nat) : (count : Nat) → Option Nat
  | 0 => none
  | count + 1 =>
    if data.get! (start + count) = mark then some (start + count)
    else lastMark? mark data start count

/-- Pieces of at most one size that end behind a line, if there is one in them; `fuel`
bounds their number. -/
def linePieces (mark : UInt8) (size : Nat) (data : ByteArray) :
    (fuel : Nat) → (start : Nat) → List ByteArray
  | 0, _ => []
  | fuel + 1, start =>
    if data.size ≤ start then []
    else if data.size - start < size then [data.extract start data.size]
    else
      let finish := match lastMark? mark data start size with
        | some place => place + 1
        | none => start + size
      data.extract start finish :: linePieces mark size data fuel finish

def placedLines : (place : Nat) → List TextLine → List (Nat × TextLine)
  | _, [] => []
  | place, line :: rest =>
    (place, line) ::
      placedLines (place + line.content.length + (if line.isEnded then 1 else 0)) rest

def sharedPieces (mark : UInt8) (kind : Share) (count : Nat) (data : ByteArray) :
    List ByteArray :=
  let size := max data.size count / count
  let lines := linesOfData mark data
  (List.range count).map fun k =>
    match kind with
    | .bytes => data.extract (k * size) (if k + 1 = count then data.size else (k + 1) * size)
    | .lines => dataOfLines mark (((placedLines 0 lines).filter fun (place, _) =>
        min (place / size) (count - 1) = k).map (·.2))
    | .rounds => dataOfLines mark ((lines.zipIdx.filter fun (_, place) =>
        place % count = k).map (·.1))

namespace Portion

def pieces (portion : Portion) (mark : UInt8) (data : ByteArray) : List ByteArray :=
  match portion with
  | .lines count =>
    let lines := linesOfData mark data
    (evenGroups count lines.length lines).map (dataOfLines mark)
  | .bytes count => evenPieces count data
  | .lineBytes count => linePieces mark count data (data.size + 1) 0
  | .shares kind wanted count =>
    let all := sharedPieces mark kind count data
    match wanted with
    | some number => (all.drop (number - 1)).take 1
    | none => all

/-- How many pieces there will be, where that is fixed. -/
def count? : Portion → Option Nat
  | .shares _ _ count => some count
  | _ => none

def goesToOutput : Portion → Bool
  | .shares _ (some _) _ => true
  | _ => false

end Portion

/-! ## The tool -/

/-- What the options ask for. -/
structure PieceRules where
  portion : Option Portion
  width : Nat
  ending : String
  digits : List Char
  first : Option String
  mark : Option UInt8
  skipsEmpty : Bool
  isVerbose : Bool
  filter : Option String

/-- A number given with an option, with a unit where `scaled`; zero is no such number. -/
def pieceNumber (what : String) (scaled : Bool) (text : String) : Work Nat := do
  let number := if scaled then sizeCount? text.toList else natural? text.toList
  match number with
  | some n =>
    if n ≠ 0 then return n
    Work.fail ("invalid " ++ what ++ ": " ++ quoted text ++ ": Numerical result out of range")
  | none => Work.fail ("invalid " ++ what ++ ": " ++ quoted text)

/-- What is asked for by a number of pieces. -/
def sharesOf (text : String) : Work Portion := do
  let chars := text.toList.dropWhile (· = ' ')
  let (kind, rest) : Share × List Char := match chars with
    | 'r' :: '/' :: rest => (.rounds, rest)
    | 'l' :: '/' :: rest => (.lines, rest)
    | _ => (.bytes, chars)
  let front := rest.takeWhile (· ≠ '/')
  if front.length = rest.length then
    return .shares kind none (← pieceNumber "number of chunks" false (String.ofList rest))
  else
    let count ← pieceNumber "number of chunks" false (String.ofList (rest.drop (front.length + 1)))
    let wanted := String.ofList front
    let number ← pieceNumber "chunk number" false wanted
    if count < number then
      Work.fail ("invalid chunk number: " ++ quoted wanted ++ ": Numerical result out of range")
    return .shares kind (some number) count

def lineMark (text : String) : Work UInt8 :=
  match text.toList with
  | [] => Work.fail "empty record separator"
  | [c] => return c.toNat.toUInt8
  | ['\\', '0'] => return 0
  | _ => Work.fail ("multi-character separator " ++ quoted text)

namespace PieceRules

def usual : PieceRules :=
  ⟨none, 0, "", (List.range 26).map fun k => Char.ofNat (97 + k), none, none, false, false, none⟩

def take (rules : PieceRules) (letter : Char) (value : String) : Work PieceRules := do
  let chosen (portion : Portion) : Work PieceRules := do
    if rules.portion.isSome then Work.misuse "cannot split in more than one way"
    return { rules with portion := some portion }
  let numbered (digits : String) : PieceRules :=
    { rules with digits := digits.toList, first := if value.isEmpty then rules.first else some value }
  match letter with
  | 'a' =>
    match natural? value.toList with
    | some width => return { rules with width }
    | none => Work.fail ("invalid suffix length: " ++ quoted value)
  | 'A' =>
    if value.toList.contains '/' then
      Work.misuse ("invalid suffix " ++ quoted value ++ ", contains directory separator")
    return { rules with ending := value }
  | 'l' => chosen (.lines (← pieceNumber "number of lines" false value))
  | 'b' => chosen (.bytes (← pieceNumber "number of bytes" true value))
  | 'C' => chosen (.lineBytes (← pieceNumber "number of bytes" true value))
  | 'n' =>
    if rules.portion.isSome then Work.misuse "cannot split in more than one way"
    chosen (← sharesOf value)
  | 't' =>
    let mark ← lineMark value
    if rules.mark.isSome && rules.mark ≠ some mark then
      Work.fail "multiple separator characters specified"
    return { rules with mark := some mark }
  | 'd' => return numbered "0123456789"
  | 'D' => return numbered "0123456789"
  | 'x' => return numbered "0123456789abcdef"
  | 'H' => return numbered "0123456789abcdef"
  | 'e' => return { rules with skipsEmpty := true }
  | 'V' => return { rules with isVerbose := true }
  | 'F' => return { rules with filter := some value }
  | _ => return rules

def names (rules : PieceRules) (start : String) : Work PieceNames := do
  let base := rules.digits.length
  let first := (rules.first.bind fun text => text.toList.foldl (fun n c => do
    some ((← n) * base + (← rules.digits.idxOf? c))) (some 0)).getD 0
  let needed : Nat := match rules.portion.bind Portion.count? with
    | some count =>
      let last := count - 1 + (if first < count then first else 0)
      (Nat.toDigits base last).length
    | none => 0
  if 0 < rules.width && rules.width < needed then
    Work.fail ("the suffix length needs to be at least " ++ toString needed)
  let width := if rules.width = 0 then max 2 needed else rules.width
  match rules.first with
  | some text =>
    if width < text.length then
      Work.misuse "numerical suffix start value is too large for the suffix length"
  | none => pure ()
  return ⟨start, rules.ending, rules.digits, width,
    rules.width = 0 && needed = 0 && rules.first.isNone, first⟩

end PieceRules

/-- Writes a piece to its file, or to a command that is told the name of the file. -/
def writePiece (rules : PieceRules) (source : Option Nat) (name : String) (data : ByteArray) :
    Work Unit := do
  match rules.filter with
  | some command =>
    if rules.isVerbose then Work.putLine ("executing with FILE=" ++ quoted name)
    let before ← get
    let shell := (valueIn? before.environment "SHELL").getD "/bin/sh"
    let others := before.environment.filter fun entry : String => !entry.startsWith "FILE="
    set { before with environment := others ++ ["FILE=" ++ name] }
    let opened ← Work.openCommand shell false [] command
    modify fun bench => { bench with environment := before.environment }
    match opened with
    | some (process, descriptor) =>
      let _ ← Activity.write descriptor data
      Activity.close descriptor
      match Exit.code (← Work.await process 1000) with
      | 0 => pure ()
      | code =>
        Work.warn ("with FILE=" ++ name ++ ", exit " ++ toString code ++ " from command: " ++ command)
        throw code
    | none => pure ()
  | none =>
    if rules.isVerbose then
      Work.putLine ("creating file " ++ quoted name)
      Work.flush
    match ← Activity.examine name with
    | .ok info =>
      if some info.node = source then
        Work.fail (quoted name ++ " would overwrite input; aborting")
    | .error _ => pure ()
    match ← Activity.openFile name .output with
    | .error fault => Work.fail (shownName name ++ ": " ++ fault.text)
    | .ok descriptor =>
      match ← Activity.write descriptor data with
      | some fault => Work.fail (shownName name ++ ": " ++ fault.text)
      | none => Activity.close descriptor

def writePieces (rules : PieceRules) (names : PieceNames) (source : Option Nat) :
    (place : Nat) → List ByteArray → Work Unit
  | _, [] => return
  | place, data :: rest => do
    match names.name? place with
    | none => Work.fail "output file suffixes exhausted"
    | some name =>
      writePiece rules source name data
      writePieces rules names source (place + 1) rest

def splitOptions : Rules :=
  ⟨"dexu0123456789".toList, "abClnt".toList, ['D', 'H'], [("bytes", 'b'), ("lines", 'l'),
    ("line-bytes", 'C'), ("number", 'n'), ("elide-empty-files", 'e'), ("unbuffered", 'u'),
    ("suffix-length", 'a'), ("additional-suffix", 'A'), ("numeric-suffixes", 'D'),
    ("hex-suffixes", 'H'), ("filter", 'F'), ("verbose", 'V'), ("separator", 't')], true⟩

/-- The number of lines that a word such as `-20` asks for. -/
def lineWord? (word : String) : Option Nat :=
  match word.toList with
  | '-' :: digits => natural? digits
  | _ => none

def split : Utility := fun words => do
  let base := splitOptions
  let (given, operands, mistake) := { base with valued := 'A' :: 'F' :: base.valued }.readFrom
    (words.length + 1) [] [] words
  let mut rules := PieceRules.usual
  for (letter, value) in given.reverse do
    rules ← rules.take letter value
  match mistake with
  | some text => Work.misuse text
  | none => pure ()
  match (words.filterMap lineWord?).getLast?, rules.portion with
  | some _, some _ => Work.misuse "cannot split in more than one way"
  | some 0, none => Work.fail "invalid number of lines: '0'"
  | some count, none => rules := { rules with portion := some (.lines count) }
  | none, _ => pure ()
  let portion := rules.portion.getD (.lines 1000)
  let operands := operands.reverse
  match operands.drop 2 with
  | extra :: _ => Work.misuse ("extra operand " ++ quoted extra)
  | [] => pure ()
  let names ← rules.names (operands.getD 1 "x")
  if rules.filter.isSome && portion.goesToOutput then
    Work.misuse "--filter does not process a chunk extracted to stdout"
  let operand := operands.headD "-"
  match ← Work.openOperand operand with
  | .error fault => Work.fail ("cannot open " ++ quoted operand ++ " for reading: " ++ fault.text)
  | .ok descriptor =>
    match portion with
    | .shares .rounds _ _ => pure ()
    | .shares _ _ _ =>
      match ← Activity.attemptTo (.seek descriptor 0 .current) with
      | some _ => Work.fail (shownName operand ++ ": cannot determine file size")
      | none => pure ()
    | _ => pure ()
    let (data, fault) ← Work.readRest descriptor Stream.pieceBound []
    match fault with
    | some fault => Work.fail (shownName operand ++ ": " ++ fault.text)
    | none => pure ()
    let pieces := portion.pieces (rules.mark.getD 10) data
    if portion.goesToOutput then
      for piece in pieces do
        Work.putData piece
    else
      let source := match ← Activity.examineOpen descriptor with
        | .ok info => some info.node
        | .error _ => none
      writePieces rules names source 0
        (if rules.skipsEmpty || (data.isEmpty && portion.count?.isNone)
          then pieces.filter (!·.isEmpty) else pieces)

end Conformance.Tool
