import Conformance.Tool.Input

/-!
# Parts of lines

Tools that take lines apart and put them together: by fields, by columns, or line by
line from several files.
-/

namespace Conformance.Tool

open Machine

/-! ## Positions -/

/-- Positions counted from one; a range without an end goes on forever. -/
abbrev Positions := List (Nat × Option Nat)

/-- What positions count. -/
structure PositionWords where
  zero : String
  bad : String
  range : String
  large : String → String

def fieldWords : PositionWords :=
  ⟨"fields are numbered from 1", "invalid field value ", "invalid field range",
    fun digits => "field number " ++ quoted digits ++ " is too large"⟩

def byteWords : PositionWords :=
  ⟨"byte/character positions are numbered from 1", "invalid byte/character position ",
    "invalid byte or character range",
    fun digits => "byte/character offset " ++ quoted digits ++ " is too large"⟩

/-- A range under way: its first position, if a hyphen has come, and what was read of
the number behind it. -/
structure RangeState where
  low : Option (Option Nat)
  digits : List Char

namespace RangeState

def fresh : RangeState := ⟨none, []⟩

def number (state : RangeState) : Option Nat := natural? state.digits.reverse

def close (words : PositionWords) (state : RangeState) : Except String (Nat × Option Nat) :=
  match state.low with
  | some low =>
    match low, state.number with
    | none, none => .error "invalid range with no endpoint: -"
    | some first, none => .ok (first, none)
    | low, some last =>
      if last < low.getD 1 then .error "invalid decreasing range" else .ok (low.getD 1, some last)
  | none =>
    match state.number with
    | some n => if n = 0 then .error words.zero else .ok (n, some n)
    | none => .error words.zero

end RangeState

def readPositions (words : PositionWords) (state : RangeState) (found : Positions) :
    List Char → Except String Positions
  | [] => do
    let range ← state.close words
    return (range :: found).reverse
  | c :: rest =>
    if c = '-' then
      if state.low.isSome then .error words.range
      else if state.number = some 0 then .error words.zero
      else readPositions words ⟨some state.number, []⟩ found rest
    else if c = ',' || c = ' ' || c = '\t' then do
      let range ← state.close words
      readPositions words .fresh (range :: found) rest
    else if c.isDigit then
      let digits := c :: state.digits
      if Nat.pow 2 64 - 1 ≤ ((natural? digits.reverse).getD 0) then
        .error (words.large (String.ofList (digits.reverse ++ rest.takeWhile Char.isDigit)))
      else readPositions words { state with digits } found rest
    else .error (words.bad ++ quoted (String.ofList (c :: rest)))

/-- Ranges in order, none of them leading into another. -/
def mergeRanges (positions : Positions) : Positions :=
  let sorted := positions.mergeSort fun a b => a.1 ≤ b.1
  (sorted.foldl (fun done (low, high) =>
    match done with
    | (first, last) :: others =>
      match last with
      | none => done
      | some stop =>
        if low ≤ stop then (first, high.map (max stop)) :: others else (low, high) :: done
    | [] => [(low, high)]) []).reverse

def otherRanges : (low : Nat) → Positions → Positions
  | low, [] => [(low, none)]
  | low, (first, last) :: rest =>
    let before := if low < first then [(low, some (first - 1))] else []
    match last with
    | none => before
    | some stop => before ++ otherRanges (stop + 1) rest

def holds (positions : Positions) (n : Nat) : Bool :=
  positions.any fun (low, high) => low ≤ n && high.all (n ≤ ·)

/-- What `cut` keeps of a line. -/
structure CutRules where
  /-- Ranges in order. -/
  positions : Positions
  /-- The mark between fields; none if characters are counted. -/
  delimiter : Option Char
  onlyDelimited : Bool
  glue : Option (List Char)

namespace CutRules

/-- The kept characters; `before` tells whether any was kept already. -/
def columns (rules : CutRules) : (n : Nat) → (before : Bool) → List Char → List Char
  | _, _, [] => []
  | n, before, c :: rest =>
    if holds rules.positions n then
      let mark := match rules.glue with
        | some text => if before && rules.positions.any (·.1 = n) then text else []
        | none => []
      mark ++ c :: rules.columns (n + 1) true rest
    else rules.columns (n + 1) before rest

/-- A line with its kept parts, unless it is dropped. -/
def line? (rules : CutRules) (line : List Char) : Option (List Char) :=
  match rules.delimiter with
  | none => some (rules.columns 1 false line)
  | some mark =>
    if !line.contains mark then if rules.onlyDelimited then none else some line
    else
      let fields := splitAtMark mark line
      let kept := (fields.zipIdx 1).filter fun (_, n) => holds rules.positions n
      some ((rules.glue.getD [mark]).intercalate (kept.map (·.1)))

end CutRules

def cut : Utility := fun words => do
  let rules : Rules := ⟨"snCz".toList, "bcfdO".toList, [], [("fields", 'f'), ("delimiter", 'd'),
    ("characters", 'c'), ("bytes", 'b'), ("only-delimited", 's'), ("complement", 'C'),
    ("output-delimiter", 'O'), ("zero-terminated", 'z')], true⟩
  let options ← readOptions rules (fun letter value => do
    if letter = 'd' && 1 < value.length then
      Work.misuse "the delimiter must be a single character") words
  match options.given.filter fun (letter, _) => ['b', 'c', 'f'].contains letter with
  | [] => Work.misuse "you must specify a list of bytes, characters, or fields"
  | [(letter, text)] =>
    if letter ≠ 'f' && options.has 'd' then
      Work.misuse "an input delimiter may be specified only when operating on fields"
    if letter ≠ 'f' && options.has 's' then
      Work.misuse ("suppressing non-delimited lines makes sense\n" ++
        "\tonly when operating on fields")
    match readPositions (if letter = 'f' then fieldWords else byteWords) .fresh [] text.toList with
    | .error message => Work.misuse message
    | .ok ranges =>
      let merged := mergeRanges ranges
      let mark := match options.value? 'd' with
        | some text => text.toList.headD '\x00'
        | none => '\t'
      let rules : CutRules := ⟨if options.has 'C' then otherRanges 1 merged else merged,
        if letter = 'f' then some mark else none, options.has 's',
        (options.value? 'O').map String.toList⟩
      let lineEnd : UInt8 := if options.has 'z' then 0 else 10
      Work.overLines Complaints.plain lineEnd (fun _ line => do
        match rules.line? line.content with
        | some kept => Work.putTextLine lineEnd ⟨kept, true⟩
        | none => pure ()) options.operands ()
  | _ => Work.misuse "only one list may be specified"

/-! ## Side by side -/

/-- The marks that `paste` puts between lines, each possibly empty. -/
def pasteMarks : List Char → List (List Char)
  | '\\' :: '0' :: rest => [] :: pasteMarks rest
  | '\\' :: 'n' :: rest => ['\n'] :: pasteMarks rest
  | '\\' :: 't' :: rest => ['\t'] :: pasteMarks rest
  | '\\' :: 'b' :: rest => ['\x08'] :: pasteMarks rest
  | '\\' :: 'f' :: rest => ['\x0c'] :: pasteMarks rest
  | '\\' :: 'r' :: rest => ['\r'] :: pasteMarks rest
  | '\\' :: 'v' :: rest => ['\x0b'] :: pasteMarks rest
  | '\\' :: c :: rest => [c] :: pasteMarks rest
  | c :: rest => [c] :: pasteMarks rest
  | [] => []

/-- Whether a text ends with a backslash that escapes nothing. -/
def endsOpen : List Char → Bool
  | ['\\'] => true
  | '\\' :: _ :: rest => endsOpen rest
  | _ :: rest => endsOpen rest
  | [] => false

def joinInTurn (marks : List (List Char)) (lines : List (List Char)) : List Char :=
  match lines with
  | [] => []
  | first :: rest =>
    let count := max marks.length 1
    first ++ (rest.zipIdx.flatMap fun (line, i) => marks.getD (i % count) [] ++ line)

/-- A column of `paste`; those that read the standard input share a stream. -/
structure Column where
  operand : String
  stream : Stream

def takeRow : List Column → (done : List Column) → (input : Stream) →
    (row : List (Option (List Char))) → Work (List (Option (List Char)) × List Column × Stream)
  | [], done, input, row => return (row.reverse, done.reverse, input)
  | column :: rest, done, input, row => do
    let isInput := column.operand = "-"
    let (line, left) ← (if isInput then input else column.stream).next
    let content := line.map (·.content)
    if isInput then takeRow rest (column :: done) left (content :: row)
    else
      match left.fault, column.stream.fault with
      | some fault, none => Work.complain (shownName column.operand ++ ": " ++ fault.text)
      | _, _ => pure ()
      takeRow rest ({ column with stream := left } :: done) input (content :: row)

/-- Rows as long as there are lines; `fuel` bounds them. -/
def putRows (mark : UInt8) (marks : List (List Char)) :
    (fuel : Nat) → List Column → (input : Stream) → Work Unit
  | 0, _, _ => return
  | fuel + 1, columns, input => do
    let (row, columns, input) ← takeRow columns [] input []
    if row.any Option.isSome then
      Work.putTextLine mark ⟨joinInTurn marks (row.map (·.getD [])), true⟩
      putRows mark marks fuel columns input

def openColumns (mark : UInt8) : List String → Work (List Column)
  | [] => return []
  | operand :: rest => do
    match ← Work.openOperand operand with
    | .error fault => Work.fail (shownName operand ++ ": " ++ fault.text)
    | .ok descriptor =>
      return ⟨operand, Stream.ofDescriptor descriptor mark⟩ :: (← openColumns mark rest)

def paste : Utility := fun words => do
  let options ← plainOptions ⟨"sz".toList, ['d'], [], [("serial", 's'), ("delimiters", 'd'),
    ("zero-terminated", 'z')], true⟩ words
  let mark : UInt8 := if options.has 'z' then 0 else 10
  let spelled := ((options.value? 'd').getD "\t").toList
  if endsOpen spelled then
    Work.fail ("delimiter list ends with an unescaped backslash: " ++ String.ofList spelled)
  let marks := if spelled.isEmpty then [[]] else pasteMarks spelled
  let operands := Work.orInput options.operands
  if options.has 's' then
    let body (_ : String) (descriptor : Nat) (_ : Unit) : Work (Unit × Option Fault) := do
      let (_, stream) ← (Stream.ofDescriptor descriptor mark).fold (fun count line => do
        if count ≠ 0 then Work.putChars (marks.getD ((count - 1) % marks.length) [])
        Work.putChars line.content
        return (count + 1, true)) 0
      Work.putData (ByteArray.empty.push mark)
      return ((), stream.fault)
    Work.overOperands Complaints.plain body operands ()
  else
    let columns ← openColumns mark operands
    putRows mark marks Stream.pieceBound columns (Stream.ofDescriptor 0 mark)

/-! ## Widths -/

def columnAfter (inBytes : Bool) (column : Nat) (c : Char) : Nat :=
  if inBytes then column + 1
  else match c with
    | '\x08' => column - 1
    | '\r' => 0
    | '\t' => column + 8 - column % 8
    | _ => column + 1

/-- How `fold` breaks lines. -/
structure FoldRules where
  inBytes : Bool
  atBlanks : Bool
  width : Nat

namespace FoldRules

def columnOf (rules : FoldRules) (text : List Char) : Nat :=
  text.foldl (columnAfter rules.inBytes) 0

/-- Adds a character to a line, which is backwards; a line that got too wide is broken.
`fuel` bounds the breaks. -/
def add (rules : FoldRules) : (fuel : Nat) → (output line : List Char) → (column : Nat) →
    Char → List Char × List Char × Nat
  | 0, output, line, column, c => (output, c :: line, column)
  | fuel + 1, output, line, column, c =>
    let after := columnAfter rules.inBytes column c
    if after ≤ rules.width then (output, c :: line, after)
    else
      let tailPart := line.takeWhile fun c => c ≠ ' ' && c ≠ '\t'
      if rules.atBlanks && tailPart.length < line.length then
        let kept := line.drop tailPart.length
        rules.add fuel ('\n' :: (kept ++ output)) tailPart (rules.columnOf tailPart.reverse) c
      else if line.isEmpty then (output, [c], after)
      else rules.add fuel ('\n' :: (line ++ output)) [] 0 c

def apply (rules : FoldRules) (text : List Char) : List Char :=
  let (output, line, _) := text.foldl (fun (output, line, column) c =>
    rules.add (line.length + 2) output line column c) (([] : List Char), ([] : List Char), 0)
  (line ++ output).reverse

end FoldRules

/-- Words such as `-5` spelled out as an option with a value. -/
def spellOutNumber (letter : String) (words : List String) : List String :=
  words.flatMap fun word =>
    match word.toList with
    | '-' :: c :: more =>
      if c.isDigit && more.all Char.isDigit then [letter, String.ofList (c :: more)] else [word]
    | _ => [word]

def fold : Utility := fun words => do
  let check (letter : Char) (value : String) : Work Unit := do
    if letter = 'w' then
      match natural? value.toList with
      | none => Work.fail ("invalid number of columns: " ++ quoted value)
      | some n => if n = 0 then
          Work.fail ("invalid number of columns: " ++ quoted value ++ ": " ++
            Fault.outOfRange.text)
  let options ← readOptions ⟨"bs".toList, ['w'], [], [("width", 'w'), ("spaces", 's'),
    ("bytes", 'b')], true⟩ check (spellOutNumber "-w" words)
  let width := ((options.value? 'w').bind fun text => natural? text.toList).getD 80
  Work.convertLines options.operands (FoldRules.mk (options.has 'b') (options.has 's') width).apply

/-! ## Tab stops -/

/-- Where tabs lead: to listed columns, and behind them to the multiples of a number,
counted from the start or from the last listed column. -/
structure TabStops where
  listed : List Nat
  multiples : Option Nat
  steps : Option Nat

namespace TabStops

def every (size : Nat) : TabStops := ⟨[], some size, none⟩

def next? (stops : TabStops) (column : Nat) : Option Nat :=
  match stops.listed.find? (column < ·) with
  | some stop => some stop
  | none =>
    match stops.multiples, stops.steps with
    | some size, _ => some (column + size - column % size)
    | none, some size =>
      let last := stops.listed.getLastD 0
      some (column + size - (column - last) % size)
    | none, none => none

def ofPieces (stops : TabStops) : List (List Char) → Except String TabStops
  | [] => .ok stops
  | piece :: rest =>
    let (mark, digits) : Option Char × List Char := match piece with
      | '/' :: more => (some '/', more)
      | '+' :: more => (some '+', more)
      | _ => (none, piece)
    match natural? digits with
    | none =>
      if piece.isEmpty then ofPieces stops rest
      else .error ("tab size contains invalid character(s): " ++
        quoted (String.ofList (digits.dropWhile Char.isDigit)))
    | some n =>
      match mark with
      | some '/' => if rest.all List.isEmpty then .ok { stops with multiples := some n }
          else .error "'/' specifier only allowed with the last value"
      | some _ => if rest.all List.isEmpty then .ok { stops with steps := some n }
          else .error "'+' specifier only allowed with the last value"
      | none => ofPieces { stops with listed := stops.listed ++ [n] } rest

def isAscending : List Nat → Bool
  | a :: b :: rest => a < b && isAscending (b :: rest)
  | _ => true

def read (text : String) : Except String TabStops := do
  let stops ← ofPieces ⟨[], none, none⟩
    (splitAtMark ',' (text.toList.map fun c => if c = ' ' || c = '\t' then ',' else c))
  if stops.listed.contains 0 then .error "tab size cannot be 0"
  else if !isAscending stops.listed then .error "tab sizes must be ascending"
  else match stops.listed, stops.multiples, stops.steps with
    | [], none, none => .ok (every 8)
    | [], some n, _ => .ok (every (max n 1))
    | [], none, some n => .ok (every (max n 1))
    | [single], none, none => .ok (every single)
    | _, _, _ => .ok stops

def ofOptions (options : Options) : Except String TabStops :=
  match options.values 't' with
  | [] => .ok (every 8)
  | values => read (String.intercalate "," values)

/-- A line with blanks in place of tabs; only in front of the text if `onlyFirst`. -/
def expand (stops : TabStops) (onlyFirst : Bool) : (column : Nat) → List Char → List Char
  | _, [] => []
  | column, c :: rest =>
    if c = '\t' then
      let target := (stops.next? column).getD (column + 1)
      List.replicate (target - column) ' ' ++ stops.expand onlyFirst target rest
    else if onlyFirst && c ≠ ' ' then c :: rest
    else if c = '\x08' then c :: stops.expand onlyFirst (column - 1) rest
    else c :: stops.expand onlyFirst (column + 1) rest

end TabStops

/-- A line under way in which blanks become tabs. -/
structure Unexpanding where
  /-- What was put out, backwards. -/
  output : List Char
  column : Nat
  isActive : Bool
  /-- Whether a single blank stands in front of a stop. -/
  isAtStop : Bool
  isAfterBlank : Bool
  /-- Blanks that may yet become a tab. -/
  pending : List Char

namespace Unexpanding

/-- Puts out the blanks that wait. -/
def release (state : Unexpanding) : List Char × Bool :=
  match state.pending with
  | [] => ([], state.isAtStop)
  | first :: rest =>
    ((if !rest.isEmpty && state.isAtStop then '\t' else first) :: rest, false)

def putChar (all : Bool) (state : Unexpanding) (isBlank : Bool) (c : Char) : Unexpanding :=
  let (released, isAtStop) := state.release
  { state with
    output := c :: (released.reverse ++ state.output), pending := [], isAtStop,
    isAfterBlank := isBlank, isActive := state.isActive && (all || isBlank) }

def add (stops : TabStops) (all : Bool) (state : Unexpanding) (c : Char) : Unexpanding :=
  if !state.isActive then { state with output := c :: state.output }
  else if c = ' ' || c = '\t' then
    match stops.next? state.column with
    | none => { putChar all state true c with isActive := false }
    | some stop =>
      let keep (state : Unexpanding) : Unexpanding := { state with
        pending := if state.isAtStop then state.pending.take 1 else [] }
      if c = '\t' then
        let marked := { state with column := stop, pending := match state.pending with
          | [] => []
          | _ :: rest => '\t' :: rest }
        putChar all (keep marked) true '\t'
      else
        let column := state.column + 1
        if state.isAfterBlank && column = stop then
          let marked := { state with column, pending := match state.pending with
            | [] => ['\t']
            | _ :: rest => '\t' :: rest }
          putChar all (keep marked) true '\t'
        else { state with
          column, isAtStop := state.isAtStop || column = stop, isAfterBlank := true,
          pending := state.pending ++ [c] }
  else if c = '\x08' then putChar all { state with column := state.column - 1 } false c
  else putChar all { state with column := state.column + 1 } false c

def apply (stops : TabStops) (all : Bool) (text : List Char) : List Char :=
  let state := text.foldl (add stops all) ⟨[], 0, true, false, true, []⟩
  (state.release.1.reverse ++ state.output).reverse

end Unexpanding

def expand : Utility := fun words => do
  let options ← plainOptions ⟨['i'], ['t'], [], [("tabs", 't'), ("initial", 'i')], true⟩
    (spellOutNumber "-t" words)
  match TabStops.ofOptions options with
  | .error message => Work.fail message
  | .ok stops => Work.convertLines options.operands (stops.expand (options.has 'i') 0)

def unexpand : Utility := fun words => do
  let options ← plainOptions ⟨"af".toList, ['t'], [], [("tabs", 't'), ("all", 'a'),
    ("first-only", 'f')], true⟩ (spellOutNumber "-t" words)
  match TabStops.ofOptions options with
  | .error message => Work.fail message
  | .ok stops =>
    let all := (options.has 'a' || options.has 't') && !options.has 'f'
    Work.convertLines options.operands (Unexpanding.apply stops all)

end Conformance.Tool
