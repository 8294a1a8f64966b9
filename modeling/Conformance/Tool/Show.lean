import Conformance.Shell.RegexText
import Conformance.Tool.Input

/-!
# Showing lines

Tools that pass on what they read: whole, from one end, in reverse, with numbers, or to
several places at once.
-/

namespace Conformance.Tool

open Machine Shell

/-! ## Everything -/

/-- A character as it is shown where only visible ones may stand. -/
def visibleChar (tabs : Bool) (c : Char) : List Char :=
  let high := 128 ≤ c.toNat
  let low := Char.ofNat (c.toNat % 128)
  let mark := if high then ['M', '-'] else []
  if c = '\t' && !tabs then [c]
  else if low.toNat < 32 then mark ++ ['^', Char.ofNat (low.toNat + 64)]
  else if low.toNat = 127 then mark ++ ['^', '?']
  else mark ++ [low]

/-- How `cat` changes lines. -/
structure Display where
  numbersAll : Bool
  numbersFull : Bool
  squeezes : Bool
  ends : Bool
  tabs : Bool
  hidden : Bool

/-- What `cat` has seen: the number of the next line, whether a line is under way, and
how many blank lines there were in a row. -/
structure DisplayState where
  number : Nat
  isInside : Bool
  blanks : Nat

namespace Display

def ofOptions (options : Options) : Display :=
  let all := options.has 'A'
  { numbersAll := options.has 'n' && !options.has 'b'
    numbersFull := options.has 'b'
    squeezes := options.has 's'
    ends := all || options.has 'E' || options.has 'e'
    tabs := all || options.has 'T' || options.has 't'
    hidden := all || options.has 'v' || options.has 'e' || options.has 't' }

def content (display : Display) (line : TextLine) : List Char :=
  let shown := if display.hidden then line.content.flatMap (visibleChar display.tabs)
    else if display.tabs then line.content.flatMap fun c => if c = '\t' then ['^', 'I'] else [c]
    else line.content
  let marked := if display.ends && !display.hidden && line.isEnded &&
      shown.getLast? = some '\r' then shown.dropLast ++ ['^', 'M'] else shown
  marked ++ (if line.isEnded then (if display.ends then ['$', '\n'] else ['\n']) else [])

def line (display : Display) (state : DisplayState) (line : TextLine) :
    DisplayState × List Char :=
  let isBlank := !state.isInside && line.content.isEmpty && line.isEnded
  let blanks := if isBlank then state.blanks + 1 else 0
  let isNumbered := !state.isInside &&
    (display.numbersAll || (display.numbersFull && !isBlank))
  if display.squeezes && 1 < blanks then ({ state with blanks }, [])
  else
    let front := if isNumbered then (padLeft 6 (toString state.number) ++ "\t").toList else []
    (⟨if isNumbered then state.number + 1 else state.number, !line.isEnded, blanks⟩,
      front ++ display.content line)

def piece (display : Display) (state : DisplayState) (data : ByteArray) :
    DisplayState × ByteArray :=
  (linesOfData 10 data).foldl (fun (state, shown) item =>
    let (state, text) := display.line state item
    (state, shown ++ dataOfChars text)) (state, ByteArray.empty)

end Display

/-- Whether reading a descriptor and writing the output would go on for ever: both lead
to one file, and there is something to read. -/
def feedsItself (descriptor : Nat) : Work Bool := do
  match ← Activity.examineOpen 1, ← Activity.examineOpen descriptor with
  | .ok output, .ok input =>
    if output.kind = .regular && output.node = input.node then
      match ← Activity.ask (.seek descriptor 0 .current) with
      | .number place => return place < input.size
      | _ => return false
    else return false
  | _, _ => return false

def cat : Utility := fun words => do
  let options ← plainOptions ⟨"nbsEATvetu".toList, [], [], [("number", 'n'),
    ("number-nonblank", 'b'), ("squeeze-blank", 's'), ("show-ends", 'E'), ("show-all", 'A'),
    ("show-tabs", 'T'), ("show-nonprinting", 'v')], true⟩ words
  let display := Display.ofOptions options
  let isPlain := options.given.all (·.1 = 'u')
  match ← Activity.examineOpen 1 with
  | .error fault => Work.fail ("standard output: " ++ fault.text)
  | .ok _ => pure ()
  let pass (state : DisplayState) (data : ByteArray) : Work DisplayState := do
    let (state, shown) := if isPlain then (state, data) else display.piece state data
    Work.putData shown
    Work.flush
    if (← get).broken.isSome then throw 1
    return state
  let body (operand : String) (descriptor : Nat) (state : DisplayState) :
      Work (DisplayState × Option Fault) := do
    if ← feedsItself descriptor then
      Work.complain (shownName operand ++ ": input file is output file")
      return (state, none)
    else Work.overPieces 131072 pass descriptor Stream.pieceBound state
  let _ ← Work.overOperands Complaints.plain body (Work.orInput options.operands)
    ⟨1, false, 0⟩
  if (Work.orInput options.operands).contains "-" then
    match ← Activity.examineOpen 0 with
    | .error fault => Work.fail ("closing standard input: " ++ fault.text)
    | .ok _ => pure ()

/-! ## Reversed -/

/-- Cuts a text into records that end with a separator, or begin with one, at the places
where separators begin and end. -/
def recordsAt (isBefore : Bool) (text : List Char) (marks : List (Nat × Nat)) :
    List (List Char) :=
  let cuts := marks.map fun (start, finish) => if isBefore then start else finish
  let (last, done) := cuts.foldl (fun ((place, rest), done) cut =>
    ((cut, rest.drop (cut - place)), rest.take (cut - place) :: done))
    ((0, text), ([] : List (List Char)))
  (last.2 :: done).reverse

/-- The places of a separator in a text, found from the end. -/
def separatorsBack (find : (start finish : Nat) → Option Nat) :
    (fuel place finish : Nat) → List (Nat × Nat) → List (Nat × Nat)
  | 0, _, _, found => found
  | fuel + 1, place, finish, found =>
    match find place finish with
    | some length =>
      if length = 0 then
        if place = 0 then found else separatorsBack find fuel (place - 1) finish found
      else if place = 0 then (place, place + length) :: found
      else separatorsBack find fuel (place - 1) place ((place, place + length) :: found)
    | none => if place = 0 then found else separatorsBack find fuel (place - 1) finish found

def tac : Utility := fun words => do
  let options ← plainOptions ⟨"br".toList, ['s'], [], [("before", 'b'), ("regex", 'r'),
    ("separator", 's')], true⟩ words
  let separator := ((options.value? 's').getD "\n").toList
  let separator := if separator.isEmpty then ['\x00'] else separator
  let regex : Option Regex := if options.has 'r' then RegexStyle.basic.read? separator
    else none
  let body (_ : String) (descriptor : Nat) (_ : Unit) : Work (Unit × Option Fault) := do
    let (data, fault) ← Work.readRest descriptor Stream.pieceBound []
    let text := (linesOfData 10 data).flatMap fun line =>
      line.content ++ (if line.isEnded then ['\n'] else [])
    let records : List (List Char) := if separator = ['\n'] && !options.has 'b' then
        (linesOfData 10 data).map fun line =>
          line.content ++ (if line.isEnded then ['\n'] else [])
      else
        let fits (start finish : Nat) : Option Nat := match regex with
          | some regex =>
            (Regex.seq (.edge .start) regex).find? ((text.drop start).take (finish - start)) 0
              |>.map (·.finish)
          | none =>
            if separator.isPrefixOf ((text.drop start).take (finish - start)) then
              some separator.length
            else none
        recordsAt (options.has 'b') text
          (separatorsBack fits (text.length + 1) text.length text.length [])
    for record in records.reverse do
      Work.putChars record
    return ((), fault)
  let complaints : Complaints := ⟨fun operand fault =>
    "failed to open " ++ quoted operand ++ " for reading: " ++ fault.text,
    fun operand fault => shownName operand ++ ": read error: " ++
      (if fault = .isDirectory then Fault.invalid else fault).text⟩
  Work.overOperands complaints body (Work.orInput options.operands) ()

def rev : Utility := fun words => do
  let options ← plainOptions ⟨[], [], [], [], true⟩ words
  let complaints : Complaints := ⟨fun operand fault =>
    "cannot open " ++ operand ++ ": " ++ fault.text,
    fun operand fault => operand ++ ": " ++ fault.text⟩
  Work.overLines complaints 10
    (fun _ line => Work.putTextLine 10 { line with content := line.content.reverse })
    options.operands ()

/-! ## From one end -/

/-- The amount that `head` or `tail` shows. -/
structure Amount where
  inBytes : Bool
  count : Nat
  /-- A sign in front of the count. -/
  sign : Option Char

def amount? (inBytes : Bool) (text : String) : Option Amount :=
  match text.toList with
  | '-' :: digits => (sizeCount? digits).map fun n => ⟨inBytes, n, some '-'⟩
  | '+' :: digits => (sizeCount? digits).map fun n => ⟨inBytes, n, some '+'⟩
  | digits => (sizeCount? digits).map fun n => ⟨inBytes, n, none⟩

/-- The letters behind the number of a word such as `-5qc`: units and flags. -/
def amountLetters : List Char → Option (List String)
  | [] => some []
  | c :: rest =>
    if "qvz".toList.contains c then (amountLetters rest).map (("-" ++ String.singleton c) :: ·)
    else if "clbkm".toList.contains c then amountLetters rest
    else none

/-- A first word such as `-3` counts lines, and `-3c` bytes.  A letter that makes no
sense there is given back. -/
def spellOutCount (words : List String) : Except Char (List String) :=
  match words with
  | word :: rest =>
    match word.toList with
    | '-' :: c :: more =>
      if c.isDigit then
        let digits := (c :: more).takeWhile Char.isDigit
        let letters := (c :: more).dropWhile Char.isDigit
        match amountLetters letters with
        | none => .error ((letters.find? fun c => (amountLetters [c]).isNone).getD c)
        | some flags =>
          let unit := (letters.filter fun c => "bkm".toList.contains c).map fun c =>
            if c = 'b' then 'b' else c.toUpper
          let letter := if letters.any fun c => "cbkm".toList.contains c then "-c" else "-n"
          .ok (letter :: String.ofList (digits ++ unit) :: flags ++ rest)
      else .ok words
    | _ => .ok words
  | [] => .ok []

/-- The options that `head` and `tail` share. -/
def endRules : Rules :=
  ⟨"qvzfF".toList, "ncs".toList, [], [("lines", 'n'), ("bytes", 'c'), ("quiet", 'q'),
    ("silent", 'q'), ("verbose", 'v'), ("zero-terminated", 'z'), ("follow", 'f'),
    ("retry", 'F'), ("sleep-interval", 's')], true⟩

def checkAmount (letter : Char) (value : String) : Work Unit := do
  if (letter = 'n' || letter = 'c') && (amount? false value).isNone then
    Work.fail ("invalid number of " ++ (if letter = 'c' then "bytes" else "lines") ++ ": " ++
      quoted value)

def amountOf (options : Options) : Amount :=
  match options.given.reverse.find? fun (letter, _) => letter = 'n' || letter = 'c' with
  | some (letter, value) => (amount? (letter = 'c') value).getD ⟨false, 10, none⟩
  | none => ⟨false, 10, none⟩

/-- Shows an end of every operand, each under its name if there are several. -/
def showEnds (options : Options) (select : Nat → Work (Option Fault)) : Work Unit := do
  let operands := Work.orInput options.operands
  let isTitled := match options.last? ['q', 'v'] with
    | some 'q' => false
    | some _ => true
    | none => 1 < operands.length
  let body (operand : String) (descriptor : Nat) (isFirst : Bool) :
      Work (Bool × Option Fault) := do
    if isTitled then
      Work.put ((if isFirst then "" else "\n") ++ "==> " ++
        (if operand = "-" then "standard input" else operand) ++ " <==\n")
    return (false, ← select descriptor)
  let nameOf (operand : String) : String :=
    quoted (if operand = "-" then "standard input" else operand)
  let complaints : Complaints := ⟨fun operand fault =>
    "cannot open " ++ nameOf operand ++ " for reading: " ++ fault.text,
    fun operand fault => "error reading " ++ nameOf operand ++ ": " ++ fault.text⟩
  let _ ← Work.overOperands complaints body operands true

/-- Passes on a number of bytes; `fuel` bounds the pieces. -/
def passBytes (descriptor : Nat) : (fuel count : Nat) → Work (Option Fault)
  | 0, _ => return none
  | fuel + 1, count => do
    if count = 0 then return none
    else match ← Activity.read descriptor (min count 8192) with
      | .error fault => return some fault
      | .ok data =>
        if data.isEmpty then return none
        else
          Work.putData data
          passBytes descriptor fuel (count - data.size)

/-- Passes on a number of lines and gives back what was read too much. -/
def passLines (mark : UInt8) (descriptor count : Nat) : Work (Option Fault) := do
  if count = 0 then return none
  else
    let stream := { Stream.ofDescriptor descriptor mark with chunk := 8192 }
    let (_, rest) ← stream.fold (fun left line => do
      Work.putTextLine mark line
      return (left - 1, 1 < left)) count
    rest.giveBack
    return rest.fault

def withoutLast {α : Type} (count : Nat) (items : List α) : List α :=
  items.take (items.length - count)

def lastItems {α : Type} (count : Nat) (items : List α) : List α :=
  items.drop (items.length - count)

def putLines (mark : UInt8) : List TextLine → Work Unit
  | [] => return
  | line :: rest => do
    Work.putTextLine mark line
    putLines mark rest

def head : Utility := fun words => do
  match spellOutCount words with
  | .error letter => Work.misuse ("invalid trailing option -- " ++ String.singleton letter)
  | .ok words =>
    let options ← readOptions { endRules with flags := "qvz".toList, valued := "nc".toList }
      checkAmount words
    let amount := amountOf options
    let mark : UInt8 := if options.has 'z' then 0 else 10
    showEnds options fun descriptor => do
      if amount.sign = some '-' then
        let (data, fault) ← Work.readRest descriptor Stream.pieceBound []
        if amount.inBytes then Work.putData (data.extract 0 (data.size - amount.count))
        else putLines mark (withoutLast amount.count (linesOfData mark data))
        return fault
      else if amount.inBytes then passBytes descriptor Stream.pieceBound amount.count
      else passLines mark descriptor amount.count

/-- Passes on everything; `fuel` bounds the pieces. -/
def passAll (descriptor : Nat) : (fuel : Nat) → Work (Option Fault)
  | 0 => return none
  | fuel + 1 => do
    match ← Activity.read descriptor 8192 with
    | .error fault => return some fault
    | .ok data =>
      if data.isEmpty then return none
      else
        Work.putData data
        Work.flush
        passAll descriptor fuel

/-- Waits for more and passes it on; `fuel` bounds the looks. -/
def follow (descriptor : Nat) : (fuel : Nat) → Work Unit
  | 0 => return
  | fuel + 1 => do
    Work.flush
    let _ ← Activity.ask (.sleep 1000000000)
    let _ ← passAll descriptor Stream.pieceBound
    follow descriptor fuel

def skipLines (mark : UInt8) (descriptor count : Nat) : Work (Option Fault) := do
  let (_, rest) ← (Stream.ofDescriptor descriptor mark).fold (fun left line => do
    if left = 0 then Work.putTextLine mark line
    return (left - 1, true)) count
  return rest.fault

def keepLast (mark : UInt8) (descriptor count : Nat) : Work (Option Fault) := do
  let (data, fault) ← Work.readRest descriptor Stream.pieceBound []
  putLines mark (lastItems count (linesOfData mark data))
  return fault

def tail : Utility := fun words => do
  let isOld := match words with
    | word :: rest => "+".toList.isPrefixOf word.toList && rest.length ≤ 1 &&
        (natural? (word.toList.drop 1)).isSome
    | [] => false
  let spelled := if isOld then .ok ("-n" :: words) else spellOutCount words
  match spelled with
  | .error letter =>
    Work.misuse ("option used in invalid context -- " ++ String.singleton letter)
  | .ok words =>
    let options ← readOptions endRules checkAmount words
    let amount := amountOf options
    let mark : UInt8 := if options.has 'z' then 0 else 10
    showEnds options fun descriptor => do
      let fault ← if amount.sign = some '+' then
          if amount.inBytes then
            let (data, fault) ← Work.readRest descriptor Stream.pieceBound []
            Work.putData (data.extract (amount.count - 1) data.size)
            pure fault
          else skipLines mark descriptor (amount.count - 1)
        else if amount.inBytes then
          let (data, fault) ← Work.readRest descriptor Stream.pieceBound []
          Work.putData (data.extract (data.size - amount.count) data.size)
          pure fault
        else keepLast mark descriptor amount.count
      if fault.isNone && (options.has 'f' || options.has 'F') then
        follow descriptor Stream.pieceBound
      return fault

/-! ## Numbered -/

/-- Which lines get a number. -/
inductive Numbering where
  | all
  | full
  | none
  | fitting (regex : Regex)

/-- How `nl` writes numbers. -/
structure NumberRules where
  header : Numbering
  body : Numbering
  footer : Numbering
  width : Nat
  separator : List Char
  start : Int
  step : Int
  /-- How many blank lines count as one. -/
  joined : Nat
  style : String
  /-- What a line of nothing but this, once to three times, begins a part with. -/
  mark : List Char
  /-- Whether numbers go on from one part to the next. -/
  goesOn : Bool

/-- The next number, the kind of numbering in force, and the blank lines so far. -/
structure NumberState where
  next : Int
  current : Numbering
  blanks : Nat

namespace NumberRules

def shown (rules : NumberRules) (number : Int) : String :=
  let digits := toString number
  if rules.style = "ln" then padRight rules.width digits
  else if rules.style = "rz" then
    let body := toString number.natAbs
    let sign := if number < 0 then "-" else ""
    sign ++ String.ofList (List.replicate (rules.width - body.length - sign.length) '0') ++ body
  else padLeft rules.width digits

def part? (rules : NumberRules) (line : List Char) : Option Numbering :=
  let mark := rules.mark
  if mark.isEmpty then none
  else if line = mark ++ mark ++ mark then some rules.header
  else if line = mark ++ mark then some rules.body
  else if line = mark then some rules.footer
  else none

def blank (rules : NumberRules) : List Char :=
  List.replicate (rules.width + rules.separator.length) ' '

def apply (rules : NumberRules) (state : NumberState) (line : List Char) :
    NumberState × List Char :=
  match rules.part? line with
  | some part =>
    ({ state with current := part, next := if rules.goesOn then state.next else rules.start }, [])
  | none =>
    let isBlank := line.isEmpty
    let blanks := if isBlank then state.blanks + 1 else 0
    let (isNumbered, blanks) : Bool × Nat := match state.current with
      | .all => if 1 < rules.joined && isBlank then
          (blanks = rules.joined, if blanks = rules.joined then 0 else blanks)
        else (true, 0)
      | .full => (!isBlank, 0)
      | .none => (false, 0)
      | .fitting regex => (regex.isFoundIn line, 0)
    if isNumbered then
      ({ state with next := state.next + rules.step, blanks },
        (rules.shown state.next).toList ++ rules.separator ++ line)
    else ({ state with blanks }, rules.blank ++ line)

end NumberRules

def integerOf? (text : String) : Option Int :=
  match text.toList with
  | '-' :: digits => (natural? digits).map fun n => -(n : Int)
  | '+' :: digits => (natural? digits).map fun n => (n : Int)
  | digits => (natural? digits).map fun n => (n : Int)

def numbering (text : String) : Except String Numbering :=
  match text.toList with
  | ['a'] => .ok .all
  | ['t'] => .ok .full
  | ['n'] => .ok .none
  | 'p' :: pattern =>
    match RegexStyle.basic.read? pattern with
    | some regex => .ok (.fitting regex)
    | none => .error "Invalid regular expression"
  | _ => .error ""

/-- Refuses what `nl` cannot do. -/
def checkNumberOption (letter : Char) (value : String) : Work Unit := do
  let style (name : String) : Work Unit := do
    match numbering value with
    | .ok _ => pure ()
    | .error message =>
      if message.isEmpty then
        Work.complain ("invalid " ++ name ++ " numbering style: " ++ quoted value)
      else Work.fail message
  let positive (name : String) : Work Unit := do
    match integerOf? value with
    | none => Work.fail ("invalid " ++ name ++ ": " ++ quoted value)
    | some n =>
      if n < 1 then
        Work.fail ("invalid " ++ name ++ ": " ++ quoted value ++ ": " ++ Fault.outOfRange.text)
  match letter with
  | 'b' => style "body"
  | 'h' => style "header"
  | 'f' => style "footer"
  | 'w' => positive "line number field width"
  | 'l' => positive "line number of blank lines"
  | 'v' =>
    if (integerOf? value).isNone then
      Work.fail ("invalid starting line number: " ++ quoted value)
  | 'i' =>
    if (integerOf? value).isNone then
      Work.fail ("invalid line number increment: " ++ quoted value)
  | 'n' =>
    if ! ["ln", "rn", "rz"].contains value then
      Work.complain ("invalid line numbering format: " ++ quoted value)
  | _ => pure ()

def nl : Utility := fun words => do
  let options ← readOptions ⟨['p'], "bwsvinhfld".toList, [], [("body-numbering", 'b'),
    ("number-width", 'w'), ("number-separator", 's'), ("starting-line-number", 'v'),
    ("line-increment", 'i'), ("number-format", 'n'), ("header-numbering", 'h'),
    ("footer-numbering", 'f'), ("join-blank-lines", 'l'), ("section-delimiter", 'd'),
    ("no-renumber", 'p')], true⟩ checkNumberOption words
  if (← get).status ≠ 0 then Work.hint
  let number (letter : Char) (usual : Int) : Int :=
    ((options.value? letter).bind integerOf?).getD usual
  let style (letter : Char) (usual : String) : Numbering :=
    ((numbering ((options.value? letter).getD usual)).toOption).getD .none
  let mark := match (options.value? 'd').map (·.toList) with
    | some [c] => [c, ':']
    | some text => text
    | none => ['\\', ':']
  let rules : NumberRules :=
    { header := style 'h' "n", body := style 'b' "t", footer := style 'f' "n"
      width := (number 'w' 6).toNat
      separator := ((options.value? 's').getD "\t").toList
      start := number 'v' 1, step := number 'i' 1, joined := (number 'l' 1).toNat
      style := (options.value? 'n').getD "rn", mark, goesOn := options.has 'p' }
  let _ ← Work.overLines Complaints.plain 10 (fun state line => do
    let (state, shown) := rules.apply state line.content
    Work.putTextLine 10 ⟨shown, true⟩
    return state) options.operands (⟨rules.start, rules.body, 0⟩ : NumberState)

/-! ## To several places -/

def openCopies (how : Opening) : List String → Work (List (String × Nat))
  | [] => return []
  | operand :: rest => do
    match ← Activity.openFile operand how with
    | .ok descriptor => return (operand, descriptor) :: (← openCopies how rest)
    | .error fault =>
      Work.complain (shownName operand ++ ": " ++ fault.text)
      openCopies how rest

/-- Writes data to every open copy; those that fail are given up. -/
def writeCopies (data : ByteArray) : List (String × Nat) → Work (List (String × Nat))
  | [] => return []
  | (operand, descriptor) :: rest => do
    match ← Activity.write descriptor data with
    | none => return (operand, descriptor) :: (← writeCopies data rest)
    | some fault =>
      Work.complain ((if descriptor = 1 then quoted operand else shownName operand) ++ ": " ++
        fault.text)
      writeCopies data rest

/-- Copies the input to files as well. -/
def tee : Utility := fun words => do
  let options ← plainOptions ⟨"aip".toList, [], [], [("append", 'a'),
    ("ignore-interrupts", 'i')], true⟩ words
  if options.has 'i' then
    let _ ← Activity.ask (.react 2 .ignores)
  let how : Opening := if options.has 'a' then .append else .output
  let copies ← openCopies how options.operands
  let (_, fault) ← Work.overPieces 65536 (fun copies data => writeCopies data copies) 0
    Stream.pieceBound (("standard output", 1) :: copies)
  match fault with
  | some fault => Work.complain ("read error: " ++ fault.text)
  | none => pure ()

/-! ## Counted -/

/-- What `wc` counts. -/
structure Counts where
  lines : Nat
  words : Nat
  bytes : Nat
  /-- The width of the widest line. -/
  widest : Nat
  /-- The width of the line under way. -/
  width : Nat
  isInWord : Bool

namespace Counts

def zero : Counts := ⟨0, 0, 0, 0, 0, false⟩

def addByte (counts : Counts) (byte : UInt8) : Counts :=
  let c := Char.ofNat byte.toNat
  let isWord := !isSpaceChar c
  let width := match c with
    | '\n' => 0
    | '\r' => 0
    | '\x0c' => 0
    | '\t' => counts.width + 8 - counts.width % 8
    | _ => if 32 ≤ byte.toNat && byte.toNat < 127 then counts.width + 1 else counts.width
  { lines := if c = '\n' then counts.lines + 1 else counts.lines
    words := if isWord && !counts.isInWord then counts.words + 1 else counts.words
    bytes := counts.bytes + 1
    widest := max counts.widest width
    width
    isInWord := isWord }

def addData (counts : Counts) (data : ByteArray) : Counts := data.foldl addByte counts

def total (a b : Counts) : Counts :=
  ⟨a.lines + b.lines, a.words + b.words, a.bytes + b.bytes, max a.widest b.widest, 0, false⟩

end Counts

/-- How wide the numbers of `wc` are: enough for the sizes of all files together, and
seven where the size of one cannot be known. -/
def countWidth (operands : List String) (isSingle : Bool) : Work Nat := do
  if operands.length ≤ 1 && isSingle then return 1
  else
    let mut sum := 0
    let mut least := 1
    for operand in Work.orInput operands do
      let found ← if operand = "-" then Activity.examineOpen 0 else Activity.examine operand
      match found with
      | .ok info => if info.kind = .regular then sum := sum + info.size else least := 7
      | .error _ => pure ()
    return max least (toString sum).length

def wc : Utility := fun words => do
  let options ← plainOptions ⟨"clmwL".toList, ['t', 'F'], [], [("bytes", 'c'), ("chars", 'm'),
    ("lines", 'l'), ("words", 'w'), ("max-line-length", 'L'), ("total", 't'),
    ("files0-from", 'F')], true⟩ words
  let asked := "lwmcL".toList.filter options.has
  let columns := if asked.isEmpty then "lwc".toList else asked
  let totals := (options.value? 't').getD "auto"
  let width ← countWidth options.operands (columns.length = 1)
  let width := if totals = "only" then 1 else width
  let column (counts : Counts) (letter : Char) : String :=
    let n := match letter with
      | 'l' => counts.lines
      | 'w' => counts.words
      | 'L' => counts.widest
      | _ => counts.bytes
    padLeft width (toString n)
  let putCounts (counts : Counts) (name : String) : Work Unit :=
    Work.putLine (String.intercalate " " (columns.map (column counts)) ++ name)
  let body (operand : String) (descriptor : Nat) (sum : Counts) :
      Work (Counts × Option Fault) := do
    let (counts, fault) ← Work.overPieces 65536 (fun counts data => return counts.addData data)
      descriptor Stream.pieceBound Counts.zero
    match fault with
    | some fault => Work.complain (shownName operand ++ ": " ++ fault.text)
    | none => pure ()
    if totals ≠ "only" then
      putCounts counts (if options.operands.isEmpty then "" else " " ++ operand)
    return (Counts.total sum counts, none)
  let sum ← Work.overOperands Complaints.plain body (Work.orInput options.operands) Counts.zero
  if totals = "only" then putCounts sum ""
  else if totals = "always" || (totals = "auto" && 1 < options.operands.length) then
    putCounts sum " total"

end Conformance.Tool
