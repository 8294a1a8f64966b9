import Conformance.Tool.Show
import Conformance.Tool.Translate

/-!
# Bytes one by one

Data written with letters only, compared byte by byte, and copied in blocks.
-/

namespace Conformance.Tool

open Machine Shell

/-! ## Letters for bytes -/

/-- A code that writes bytes with letters, every one of which stands for some bits. -/
structure LetterCode where
  letters : List Char
  bits : Nat
  /-- How many bytes are written together. -/
  bytes : Nat
  /-- Whether bytes that are left at the end are read without the marks that fill up. -/
  isLenient : Bool

namespace LetterCode

def base64 : LetterCode :=
  ⟨charsBetween 'A' 'Z' ++ charsBetween 'a' 'z' ++ charsBetween '0' '9' ++ ['+', '/'], 6, 3, true⟩

def base64url : LetterCode :=
  { base64 with letters := base64.letters.take 62 ++ ['-', '_'] }

def base32 : LetterCode := ⟨charsBetween 'A' 'Z' ++ charsBetween '2' '7', 5, 5, false⟩

def base32hex : LetterCode := ⟨charsBetween '0' '9' ++ charsBetween 'A' 'V', 5, 5, false⟩

def base16 : LetterCode := ⟨charsBetween '0' '9' ++ charsBetween 'A' 'F', 4, 1, true⟩

def base2 : LetterCode := ⟨['0', '1'], 1, 1, true⟩

/-- How many letters stand for the bytes that are written together. -/
def groupSize (code : LetterCode) : Nat := code.bytes * 8 / code.bits

def numeral (code : LetterCode) : (count : Nat) → Nat → List Char
  | 0, _ => []
  | count + 1, n =>
    numeral code count (n / Nat.pow 2 code.bits) ++
      [code.letters.getD (n % Nat.pow 2 code.bits) '=']

/-- The letters for bytes that are written together; marks fill up a last group. -/
def encodeGroup (code : LetterCode) (bytes : List UInt8) : List Char :=
  let n := bytes.foldl (fun n b => n * 256 + b.toNat) 0
  let count := (bytes.length * 8 + code.bits - 1) / code.bits
  code.numeral count (n * Nat.pow 2 (count * code.bits - bytes.length * 8)) ++
    List.replicate (code.groupSize - count) '='

/-- Bytes as letters; `fuel` bounds the groups. -/
def encode (code : LetterCode) : (fuel : Nat) → List UInt8 → List Char
  | 0, _ => []
  | fuel + 1, bytes =>
    if bytes.isEmpty then []
    else code.encodeGroup (bytes.take code.bytes) ++ encode code fuel (bytes.drop code.bytes)

/-- The bytes that letters stand for; bits that are left do not count. -/
def decodeGroup (code : LetterCode) (letters : List Char) : List UInt8 :=
  let n := letters.foldl (fun n c =>
    n * Nat.pow 2 code.bits + (code.letters.idxOf? c).getD 0) 0
  let size := letters.length * code.bits
  let count := size / 8
  let whole := n / Nat.pow 2 (size - count * 8)
  (List.range count).map fun k => (whole / Nat.pow 256 (count - 1 - k) % 256).toUInt8

/-- Whether so many letters can stand in front of marks that fill up a group. -/
def canFill (code : LetterCode) (count : Nat) : Bool :=
  (List.range code.bytes).any fun k =>
    0 < k && (k * 8 + code.bits - 1) / code.bits = count

/-- Reads one group after the other; also tells whether all were sound.  `fuel` bounds
the groups. -/
def decode (code : LetterCode) : (fuel : Nat) → (done : List UInt8) → List Char →
    List UInt8 × Bool
  | 0, done, _ => (done.reverse, true)
  | _ + 1, done, [] => (done.reverse, true)
  | fuel + 1, done, text =>
    let group := text.take code.groupSize
    let letters := group.takeWhile code.letters.contains
    let now := (code.decodeGroup letters).reverse ++ done
    let filler := group.drop letters.length
    if group.length = code.groupSize &&
        (filler = [] || (filler.all (· = '=') && code.canFill letters.length)) then
      decode code fuel now (text.drop code.groupSize)
    else ((if code.isLenient then now else done).reverse, false)

end LetterCode

/-- Lines of a width; `fuel` bounds them. -/
def wrapLines (width : Nat) : (fuel : Nat) → List Char → List (List Char)
  | 0, _ => []
  | fuel + 1, text =>
    if text.isEmpty then [] else text.take width :: wrapLines width fuel (text.drop width)

def codeRules : Rules :=
  ⟨"di".toList, ['w'], [], [("decode", 'd'), ("wrap", 'w'), ("ignore-garbage", 'i')], true⟩

def checkCodeOption (letter : Char) (value : String) : Work Unit := do
  if letter = 'w' && (natural? value.toList).isNone then
    Work.fail ("invalid wrap size: " ++ quoted value)

/-- Writes an operand with letters, or reads it.  `arranged` is how the bits of a byte are
written. -/
def runCode (code : LetterCode) (arranged : UInt8 → UInt8) (options : Options) : Work Unit := do
  match options.operands with
  | _ :: extra :: _ => Work.misuse ("extra operand " ++ quoted extra)
  | _ => pure ()
  let operand := options.operands.headD "-"
  match ← Work.openOperand operand with
  | .error fault => Work.fail (shownName operand ++ ": " ++ fault.text)
  | .ok descriptor =>
    let (data, fault) ← Work.readRest descriptor Stream.pieceBound []
    match fault with
    | some fault => Work.fail ("read error: " ++ fault.text)
    | none => pure ()
    if options.has 'd' then
      let text := (data.data.toList.map fun b => Char.ofNat b.toNat).filter (· ≠ '\n')
      let letters := if options.has 'i' then
          text.filter fun c => code.letters.contains c || c = '='
        else text
      let (bytes, isSound) := code.decode (letters.length + 1) [] letters
      Work.putData ⟨(bytes.map arranged).toArray⟩
      if !isSound then Work.fail "invalid input"
    else
      let width := ((options.value? 'w').bind fun text => natural? text.toList).getD 76
      let bytes := data.data.toList.map arranged
      let text := code.encode (bytes.length + 1) bytes
      if width = 0 then Work.putChars text
      else putLines 10 ((wrapLines width text.length text).map (⟨·, true⟩))

def codeTool (code : LetterCode) : Utility := fun words => do
  runCode code id (← readOptions codeRules checkCodeOption words)

/-- A byte with its bits in the opposite order. -/
def turnedBits (b : UInt8) : UInt8 :=
  ((List.range 8).foldl (fun n k => n * 2 + b.toNat / Nat.pow 2 k % 2) 0).toUInt8

def namedCodes : List (String × Char × LetterCode × (UInt8 → UInt8)) :=
  [("base64", 'A', .base64, id), ("base64url", 'B', .base64url, id),
    ("base32", 'C', .base32, id), ("base32hex", 'D', .base32hex, id),
    ("base16", 'E', .base16, id), ("base2msbf", 'F', .base2, id),
    ("base2lsbf", 'G', .base2, turnedBits)]

def basenc : Utility := fun words => do
  let letters := namedCodes.map fun (name, letter, _) => (name, letter)
  let options ← readOptions { codeRules with names := codeRules.names ++ letters }
    checkCodeOption words
  match (options.last? (letters.map (·.2))).bind fun letter =>
      namedCodes.find? fun (_, other, _) => other = letter with
  | some (_, _, code, arranged) => runCode code arranged options
  | none => Work.misuse "missing encoding type"

/-! ## Comparison -/

/-- Complains about how `cmp` was called. -/
def cmpMisuse {α : Type} (text : String) : Work α := do
  Work.warn text
  Work.warn "Try 'cmp --help' for more information."
  throw 2

/-- A byte as `cmp` shows it. -/
def cmpByte (b : UInt8) : String := padLeft 3 (String.ofList (Nat.toDigits 8 b.toNat))

def cmpText (b : UInt8) : String := String.ofList (visibleChar true (Char.ofNat b.toNat))

def differences : (place : Nat) → List UInt8 → List UInt8 → List (Nat × UInt8 × UInt8)
  | place, a :: left, b :: right =>
    if a = b then differences (place + 1) left right
    else (place, a, b) :: differences (place + 1) left right
  | _, _, _ => []

/-- The numbers of bytes to skip, such as `3` or `3:1`. -/
def skips? (text : String) : Option (Nat × Nat) :=
  match splitAtMark ':' text.toList with
  | [single] => (sizeCount? single).map fun n => (n, n)
  | [first, second] => do return (← sizeCount? first, ← sizeCount? second)
  | _ => none

def checkCmpOption (letter : Char) (value : String) : Work Unit := do
  if letter = 'n' && (sizeCount? value.toList).isNone then
    cmpMisuse ("invalid --bytes value " ++ quoted value)
  if letter = 'i' && (skips? value).isNone then
    cmpMisuse ("invalid --ignore-initial value " ++ quoted value)

/-- Reads an operand of `cmp`. -/
def cmpInput (isSilent : Bool) (operand : String) : Work ByteArray := do
  match ← Work.readOperand operand with
  | .ok data => return data
  | .error fault =>
    if !isSilent || fault ≠ .notFound then Work.warn (operand ++ ": " ++ fault.text)
    throw 2

def cmp : Utility := fun words => do
  modify fun bench => { bench with failure := 2 }
  let rules : Rules := ⟨"slb".toList, "ni".toList, [], [("silent", 's'), ("quiet", 's'),
    ("verbose", 'l'), ("print-bytes", 'b'), ("bytes", 'n'), ("ignore-initial", 'i')], true⟩
  let (given, operands, mistake) := rules.readFrom (words.length + 1) [] [] words
  let options : Options := ⟨given.reverse, operands.reverse⟩
  for (letter, value) in options.given do
    checkCmpOption letter value
  match mistake with
  | some message => cmpMisuse message
  | none => pure ()
  if options.has 'l' && options.has 's' then cmpMisuse "options -l and -s are incompatible"
  match options.operands with
  | [] => cmpMisuse "missing operand after 'cmp'"
  | first :: others =>
    let second := others.headD "-"
    match others.drop 3 with
    | extra :: _ => cmpMisuse ("extra operand " ++ quoted extra)
    | [] => pure ()
    let isSilent := options.has 's'
    let left ← cmpInput isSilent first
    let right ← if second = first then pure left else cmpInput isSilent second
    let listed := others.drop 1
    let (skipLeft, skipRight) := match listed with
      | [] => ((options.value? 'i').bind skips?).getD (0, 0)
      | [one] => ((sizeCount? one.toList).getD 0, 0)
      | one :: two :: _ => ((sizeCount? one.toList).getD 0, (sizeCount? two.toList).getD 0)
    let limit (data : ByteArray) : ByteArray :=
      match (options.value? 'n').bind fun text => sizeCount? text.toList with
      | some n => data.extract 0 n
      | none => data
    let left := limit (left.extract skipLeft left.size)
    let right := limit (right.extract skipRight right.size)
    let found := differences 1 left.data.toList right.data.toList
    let lineAt (place : Nat) : Nat :=
      1 + (left.extract 0 place).foldl (fun n b => if b = 10 then n + 1 else n) 0
    let shorter := min left.size right.size
    let atEnd : Work Unit := do
      if left.size ≠ right.size then
        if !isSilent then
          let short := if left.size < right.size then first else second
          if shorter = 0 then Work.warn ("EOF on " ++ short ++ " which is empty")
          else if options.has 'l' then
            Work.warn ("EOF on " ++ short ++ " after byte " ++ toString shorter)
          else
            let endsLine := left.get! (shorter - 1) = 10
            Work.warn ("EOF on " ++ short ++ " after byte " ++ toString shorter ++
              (if endsLine then ", line " ++ toString (lineAt shorter - 1)
                else ", in line " ++ toString (lineAt shorter)))
        throw 1
    if options.has 'l' then
      let width := (toString (max left.size right.size)).length
      putTexts (found.map fun (place, a, b) =>
        padLeft width (toString place) ++ " " ++ cmpByte a ++
          (if options.has 'b' then " " ++ padRight 4 (cmpText a) ++ " " ++ cmpByte b ++ " " ++
            cmpText b else " " ++ cmpByte b))
      atEnd
      if !found.isEmpty then Work.setStatus 1
    else
      match found with
      | (place, a, b) :: _ =>
        if !isSilent then
          Work.putLine (first ++ " " ++ second ++ " differ: " ++
            (if options.has 'b' then "byte " else "char ") ++ toString place ++ ", line " ++
            toString (lineAt (place - 1)) ++
            (if options.has 'b' then " is " ++ cmpByte a ++ " " ++ cmpText a ++ " " ++
              cmpByte b ++ " " ++ cmpText b else ""))
        Work.setStatus 1
      | [] => atEnd
where
  putTexts : List String → Work Unit
    | [] => return
    | line :: rest => do
      Work.putLine line
      putTexts rest

/-! ## Blocks -/

/-- A number of `dd`, which may be a product. -/
def blockCount? (text : String) : Option Nat :=
  (splitAtMark 'x' text.toList).foldl (fun product factor => do
    some ((← product) * (← sizeCount? factor))) (some 1)

/-- How many blocks were whole, how many were not, and how many bytes there were. -/
structure BlockCount where
  whole : Nat
  partly : Nat

def BlockCount.add (count : BlockCount) (size full : Nat) : BlockCount :=
  if size = full then { count with whole := count.whole + 1 }
  else { count with partly := count.partly + 1 }

def BlockCount.text (count : BlockCount) : String :=
  toString count.whole ++ "+" ++ toString count.partly

def swapBytes : List UInt8 → List UInt8
  | a :: b :: rest => b :: a :: swapBytes rest
  | rest => rest

def convertBlock (names : List String) (full : Nat) (data : ByteArray) : ByteArray :=
  let mapped (change : Char → Char) (data : ByteArray) : ByteArray :=
    data.foldl (fun done b => done.push (change (Char.ofNat b.toNat)).toNat.toUInt8) .empty
  let cased := if names.contains "ucase" then mapped Char.toUpper data
    else if names.contains "lcase" then mapped Char.toLower data else data
  let swapped := if names.contains "swab" then ⟨(swapBytes cased.data.toList).toArray⟩ else cased
  if names.contains "sync" then
    swapped ++ ⟨Array.replicate (full - swapped.size) 0⟩
  else swapped

/-- Reads a whole block, if there is as much; `fuel` bounds the pieces. -/
def readBlock (descriptor size : Nat) : (fuel : Nat) → ByteArray → Work (Except Fault ByteArray)
  | 0, taken => return .ok taken
  | fuel + 1, taken => do
    match ← Activity.read descriptor (size - taken.size) with
    | .error fault => return .error fault
    | .ok data =>
      if data.isEmpty || taken.size + data.size = size then return .ok (taken ++ data)
      else readBlock descriptor size fuel (taken ++ data)

/-- What a copy in blocks is to do. -/
structure BlockCopy where
  input : Nat
  output : Nat
  inputSize : Nat
  outputSize : Nat
  /-- How many blocks, or bytes, are copied at most. -/
  count : Option Nat
  inBytes : Bool
  /-- Whether blocks are filled up before they count. -/
  fills : Bool
  conversions : List String
  /-- Whether blocks are written as they come. -/
  isDirect : Bool

/-- The state of a copy: blocks read and written, bytes that wait, and their total. -/
structure BlockState where
  read : BlockCount
  written : BlockCount
  waiting : ByteArray
  total : Nat

namespace BlockCopy

/-- Writes the blocks that are full; `fuel` bounds them. -/
def drain (copy : BlockCopy) : (fuel : Nat) → BlockState → Work BlockState
  | 0, state => return state
  | fuel + 1, state => do
    if state.waiting.size < copy.outputSize then return state
    else
      let block := state.waiting.extract 0 copy.outputSize
      match ← Activity.write copy.output block with
      | some fault => Work.fail ("error writing 'standard output': " ++ fault.text)
      | none => drain copy fuel { state with
          waiting := state.waiting.extract copy.outputSize state.waiting.size
          written := state.written.add copy.outputSize copy.outputSize
          total := state.total + copy.outputSize }

def flushRest (copy : BlockCopy) (state : BlockState) : Work BlockState := do
  if state.waiting.isEmpty then return state
  else match ← Activity.write copy.output state.waiting with
    | some fault => Work.fail ("error writing 'standard output': " ++ fault.text)
    | none => return { state with
        written := state.written.add state.waiting.size copy.outputSize
        total := state.total + state.waiting.size, waiting := .empty }

/-- Copies block by block; `fuel` bounds the blocks. -/
def run (copy : BlockCopy) : (fuel done : Nat) → BlockState →
    Work (BlockState × Option Fault)
  | 0, _, state => return (state, none)
  | fuel + 1, done, state => do
    if copy.count.any (· ≤ done) then return (← copy.flushRest state, none)
    else
      let size := if copy.inBytes then match copy.count with
          | some limit => min copy.inputSize (limit - done)
          | none => copy.inputSize
        else copy.inputSize
      let result ← if copy.fills then readBlock copy.input size Stream.pieceBound .empty
        else Activity.read copy.input size
      match result with
      | .error fault => return (← copy.flushRest state, some fault)
      | .ok data =>
        if data.isEmpty then return (← copy.flushRest state, none)
        else
          let next := { state with
            read := state.read.add data.size copy.inputSize
            waiting := state.waiting ++ convertBlock copy.conversions copy.inputSize data }
          let drained ← copy.drain (next.waiting.size + 1) next
          let settled ← if copy.isDirect then copy.flushRest drained else pure drained
          run copy fuel (done + (if copy.inBytes then data.size else 1)) settled

end BlockCopy

/-- The value of an operand of the form `name=value`. -/
def namedValue? (words : List String) (name : String) : Option String :=
  words.reverse.findSome? fun word =>
    let start := name.toList ++ ['=']
    if start.isPrefixOf word.toList then some (String.ofList (word.toList.drop start.length))
    else none

def conversionNames : List String :=
  ["ascii", "ebcdic", "ibm", "block", "unblock", "lcase", "ucase", "sparse", "swab", "sync",
    "excl", "nocreat", "notrunc", "noerror", "fdatasync", "fsync"]

/-- Refuses operands that `dd` does not know. -/
def checkBlockOperands : List String → Work Unit
  | [] => return
  | word :: rest => do
    let name := String.ofList (word.toList.takeWhile (· ≠ '='))
    let value := String.ofList (word.toList.drop (name.length + 1))
    let numbers := ["bs", "ibs", "obs", "cbs", "count", "skip", "seek"]
    if !word.toList.contains '=' || !(numbers ++ ["if", "of", "conv", "status", "iflag",
        "oflag"]).contains name then
      Work.misuse ("unrecognized operand " ++ quoted word)
    if numbers.contains name then
      match blockCount? value with
      | none => Work.fail ("invalid number: " ++ quoted value)
      | some n =>
        if n = 0 && ["bs", "ibs", "obs", "cbs"].contains name then
          Work.fail ("invalid number: " ++ quoted value)
    if name = "conv" then
      for part in splitAtMark ',' value.toList do
        if !conversionNames.contains (String.ofList part) then
          Work.misuse ("invalid conversion: " ++ quoted (String.ofList part))
    if name = "status" && ! ["none", "noxfer", "progress"].contains value then
      Work.misuse ("invalid status level: " ++ quoted value)
    checkBlockOperands rest

def skipInput (descriptor count : Nat) (name : String) : Work Unit := do
  if 0 < count then
    match ← Activity.examineOpen descriptor with
    | .ok info =>
      if info.kind = .regular then
        if info.size < count then
          Work.warn (shownName name ++ ": cannot skip to specified offset")
        let _ ← Activity.ask (.seek descriptor (Int.ofNat count) .current)
      else
        let _ ← readBlock descriptor count Stream.pieceBound .empty
    | .error _ => pure ()

/-- Copies bytes in blocks; operands have the form `name=value`. -/
def dd : Utility := fun words => do
  let options ← plainOptions ⟨[], [], [], [], true⟩ words
  let words := options.operands
  checkBlockOperands words
  let number? (name : String) : Option Nat := (namedValue? words name).bind blockCount?
  let list (name : String) : List String :=
    ((namedValue? words name).map fun value =>
      (splitAtMark ',' value.toList).map String.ofList).getD []
  let conversions := list "conv"
  let inputSize := (number? "bs" <|> number? "ibs").getD 512
  let outputSize := (number? "bs" <|> number? "obs").getD 512
  let source := namedValue? words "if"
  let input ← match source with
    | none => pure 0
    | some name =>
      match ← Activity.openFile name .input with
      | .ok descriptor => pure descriptor
      | .error fault => Work.fail ("failed to open " ++ quoted name ++ ": " ++ fault.text)
  let seek := (number? "seek").getD 0 * outputSize
  let output ← match namedValue? words "of" with
    | none => pure 1
    | some name =>
      let how : Opening :=
        { reads := false, writes := true, appends := (list "oflag").contains "append",
          creates := !conversions.contains "nocreat", isNew := conversions.contains "excl",
          truncates := seek = 0 && !conversions.contains "notrunc", follows := true }
      match ← Activity.openFile name how with
      | .ok descriptor =>
        if 0 < seek then
          if !conversions.contains "notrunc" then
            let _ ← Activity.ask (.resize descriptor seek)
          let _ ← Activity.ask (.seek descriptor (Int.ofNat seek) .start)
        pure descriptor
      | .error fault => Work.fail ("failed to open " ++ quoted name ++ ": " ++ fault.text)
  let skipUnit := if (list "iflag").contains "skip_bytes" then 1 else inputSize
  skipInput input ((number? "skip").getD 0 * skipUnit) (source.getD "standard input")
  let copy : BlockCopy :=
    { input, output, inputSize, outputSize, count := number? "count"
      inBytes := (list "iflag").contains "count_bytes"
      fills := (list "iflag").contains "fullblock"
      conversions, isDirect := (number? "bs").isSome }
  let (state, fault) ← copy.run Stream.pieceBound 0 ⟨⟨0, 0⟩, ⟨0, 0⟩, .empty, 0⟩
  match fault with
  | some fault =>
    Work.complain ("error reading " ++ quoted (source.getD "standard input") ++ ": " ++ fault.text)
  | none => pure ()
  let level := (namedValue? words "status").getD ""
  if level ≠ "none" then
    Work.writeError (state.read.text ++ " records in\n" ++ state.written.text ++
      " records out\n")
    if level ≠ "noxfer" then
      Work.writeError (toString state.total ++ (if state.total = 1 then " byte" else " bytes") ++
        " copied, 0.0001 s, " ++ toString (state.total / 100) ++ " kB/s\n")

end Conformance.Tool
