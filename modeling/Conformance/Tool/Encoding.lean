import Conformance.Tool.Input

/-!
# Encodings

`iconv` reads a text in one encoding and writes it in another.  Characters that cannot be
read or written end it, or are left out.
-/

namespace Conformance.Tool

open Machine

/-- An encoding of characters. -/
inductive Encoding where
  | ascii
  | utf8
  /-- One byte for each of the first characters, apart from some. -/
  | latin (others : List (Nat × Nat))
  /-- Words of two or four bytes, the first byte most or last; `marked` texts begin with a
  mark that tells which. -/
  | wide (size : Nat) (isBig marked pairs : Bool)

namespace Encoding

/-- The characters in which the ninth Latin encoding differs from the first. -/
def ninth : List (Nat × Nat) :=
  [(0xa4, 0x20ac), (0xa6, 0x160), (0xa8, 0x161), (0xb4, 0x17d), (0xb8, 0x17e), (0xbc, 0x152),
    (0xbd, 0x153), (0xbe, 0x178)]

/-- The characters of a Latin encoding that fills the places for controls. -/
def filledLatin : List (Nat × Nat) :=
  [(0x80, 0x20ac), (0x82, 0x201a), (0x83, 0x192), (0x84, 0x201e), (0x85, 0x2026), (0x86, 0x2020),
    (0x87, 0x2021), (0x88, 0x2c6), (0x89, 0x2030), (0x8a, 0x160), (0x8b, 0x2039), (0x8c, 0x152),
    (0x8e, 0x17d), (0x91, 0x2018), (0x92, 0x2019), (0x93, 0x201c), (0x94, 0x201d),
    (0x95, 0x2022), (0x96, 0x2013), (0x97, 0x2014), (0x98, 0x2dc), (0x99, 0x2122),
    (0x9a, 0x161), (0x9b, 0x203a), (0x9c, 0x153), (0x9e, 0x17e), (0x9f, 0x178)]

def ofName? (name : String) : Option Encoding :=
  match String.ofList (name.toList.map Char.toUpper) with
  | "UTF-8" | "UTF8" => some .utf8
  | "" | "ASCII" | "US-ASCII" | "ANSI_X3.4-1968" | "US" | "646" | "CP367" => some .ascii
  | "ISO-8859-1" | "ISO8859-1" | "ISO_8859-1" | "LATIN1" | "L1" | "8859_1" | "CP819" =>
    some (.latin [])
  | "ISO-8859-15" | "ISO8859-15" | "ISO_8859-15" | "LATIN-9" => some (.latin ninth)
  | "CP1252" | "WINDOWS-1252" => some (.latin filledLatin)
  | "UTF-16" | "UTF16" => some (.wide 2 false true true)
  | "UTF-16LE" | "UTF16LE" => some (.wide 2 false false true)
  | "UTF-16BE" | "UTF16BE" => some (.wide 2 true false true)
  | "UCS-2" | "UCS2" => some (.wide 2 false false false)
  | "UTF-32" | "UTF32" => some (.wide 4 false true false)
  | "UTF-32LE" | "UTF32LE" => some (.wide 4 false false false)
  | "UTF-32BE" | "UTF32BE" => some (.wide 4 true false false)
  | "UCS-4" | "UCS4" => some (.wide 4 true false false)
  | _ => none

/-- The number of bytes with the first or the last counting most. -/
def number (isBig : Bool) (bytes : List UInt8) : Nat :=
  (if isBig then bytes else bytes.reverse).foldl (fun n b => n * 256 + b.toNat) 0

def bytesOf (isBig : Bool) (size n : Nat) : List UInt8 :=
  let most := (List.range size).map fun k => (n / Nat.pow 256 (size - 1 - k) % 256).toUInt8
  if isBig then most else most.reverse

/-- Why bytes are no character. -/
inductive Flaw where
  | illegal
  | unfinished
deriving DecidableEq

/-- How many bytes follow the first byte of a character, and the bits it has of it. -/
def lead? (b : UInt8) : Option (Nat × Nat) :=
  let n := b.toNat
  if n < 0x80 then some (0, n)
  else if 0xc2 ≤ n && n < 0xe0 then some (1, n - 0xc0)
  else if 0xe0 ≤ n && n < 0xf0 then some (2, n - 0xe0)
  else if 0xf0 ≤ n && n < 0xf5 then some (3, n - 0xf0)
  else none

/-- The first character of some bytes, and how many bytes it has. -/
def readOne (encoding : Encoding) (isBig : Bool) (bytes : List UInt8) : Except Flaw (Nat × Nat) :=
  match encoding, bytes with
  | _, [] => .error .unfinished
  | .ascii, b :: _ => if b < 128 then .ok (b.toNat, 1) else .error .illegal
  | .latin others, b :: _ => .ok ((others.lookup b.toNat).getD b.toNat, 1)
  | .utf8, b :: rest =>
    match lead? b with
    | none => .error .illegal
    | some (count, start) =>
      let more := (rest.take count).takeWhile fun c => 0x80 ≤ c && c < 0xc0
      if more.length < count then
        .error (if rest.length = more.length then .unfinished else .illegal)
      else
        let code := more.foldl (fun n c => n * 64 + (c.toNat - 0x80)) start
        let least := match count with
          | 0 => 0
          | 1 => 0x80
          | 2 => 0x800
          | _ => 0x10000
        if code < least || 0x10ffff < code || (0xd800 ≤ code && code < 0xe000) then .error .illegal
        else .ok (code, count + 1)
  | .wide size _ _ pairs, _ =>
    if bytes.length < size then .error .unfinished
    else
      let code := number isBig (bytes.take size)
      if 0xd800 ≤ code && code < 0xdc00 && pairs then
        if bytes.length < 2 * size then .error .unfinished
        else
          let low := number isBig ((bytes.drop size).take size)
          if 0xdc00 ≤ low && low < 0xe000 then
            .ok (0x10000 + (code - 0xd800) * 1024 + (low - 0xdc00), 2 * size)
          else .error .illegal
      else if 0x10ffff < code || (0xd800 ≤ code && code < 0xe000) then .error .illegal
      else .ok (code, size)

def writeOne (encoding : Encoding) (code : Nat) : Option (List UInt8) :=
  match encoding with
  | .ascii => if code < 128 then some [code.toUInt8] else none
  | .latin others =>
    match others.find? (·.2 = code) with
    | some (byte, _) => some [byte.toUInt8]
    | none => if code < 256 && (others.lookup code).isNone then some [code.toUInt8] else none
  | .utf8 => some (String.singleton (Char.ofNat code)).toUTF8.data.toList
  | .wide size isBig _ pairs =>
    if size = 2 && 0xffff < code then
      if pairs then
        let rest := code - 0x10000
        some (bytesOf isBig 2 (0xd800 + rest / 1024) ++ bytesOf isBig 2 (0xdc00 + rest % 1024))
      else none
    else some (bytesOf isBig size code)

/-- The characters that are written for one that an encoding does not have. -/
def substitute (code : Nat) : String :=
  match code with
  | 0x2018 | 0x2019 => "'"
  | 0x201c | 0x201d => "\""
  | 0x2013 | 0x2014 | 0x2010 => "-"
  | 0x2026 => "..."
  | 0x20ac => "EUR"
  | 0xa9 => "(C)"
  | 0xae => "(R)"
  | 0xab => "<<"
  | 0xbb => ">>"
  | 0xa0 => " "
  | _ => "?"

def mark : Encoding → List UInt8
  | .wide size isBig true _ => bytesOf isBig size 0xfeff
  | _ => []

end Encoding

/-- How a text is converted. -/
structure Conversion where
  source : Encoding
  target : Encoding
  /-- Whether what cannot be converted is left out. -/
  skips : Bool
  /-- Whether other characters take its place. -/
  substitutes : Bool

/-- Converts bytes from a place on; stops at a flaw.  `fuel` bounds the characters. -/
def Conversion.convert (rules : Conversion) (isBig : Bool) :
    (fuel place : Nat) → (done : List UInt8) → List UInt8 →
    List UInt8 × Option (Encoding.Flaw × Nat)
  | 0, _, done, _ => (done.reverse, none)
  | fuel + 1, place, done, bytes =>
    if bytes.isEmpty then (done.reverse, none)
    else match rules.source.readOne isBig bytes with
      | .error .unfinished => (done.reverse, some (.unfinished, place))
      | .error .illegal =>
        if rules.skips then convert rules isBig fuel (place + 1) done (bytes.drop 1)
        else (done.reverse, some (.illegal, place))
      | .ok (code, count) =>
        let rest := bytes.drop count
        match rules.target.writeOne code with
        | some written => convert rules isBig fuel (place + count) (written.reverse ++ done) rest
        | none =>
          if rules.substitutes then
            let written := (Encoding.substitute code).toUTF8.data.toList
            convert rules isBig fuel (place + count) (written.reverse ++ done) rest
          else if rules.skips then convert rules isBig fuel (place + count) done rest
          else (done.reverse, some (.illegal, place))

/-- The byte order that a mark at the beginning tells, and what follows the mark. -/
def orderOf (encoding : Encoding) (bytes : List UInt8) : Bool × List UInt8 :=
  match encoding with
  | .wide size isBig true _ =>
    if bytes.take size = Encoding.bytesOf true size 0xfeff then (true, bytes.drop size)
    else if bytes.take size = Encoding.bytesOf false size 0xfeff then (false, bytes.drop size)
    else (isBig, bytes)
  | .wide _ isBig _ _ => (isBig, bytes)
  | _ => (false, bytes)

/-- Complains about how the tool was called, and ends with a status. -/
def encodingMisuse {α : Type} (status : Nat) (text : String) : Work α := do
  Work.warn text
  let name := (← get).name
  Work.writeError ("Try \x60" ++ name ++ " --help' or \x60" ++ name ++
    " --usage' for more information.\n")
  throw status

/-- Converts operands one after the other; a mark stands in front of the first text that
is not empty. -/
def convertAll (rules : Conversion) : (isFirst : Bool) → List String → Work Unit
  | _, [] => return
  | isFirst, operand :: rest => do
    match ← Work.readOperand operand with
    | .error fault =>
      Work.complain ("cannot open input file \x60" ++ operand ++ "': " ++ fault.text)
      convertAll rules isFirst rest
    | .ok data =>
      let (isBig, bytes) := orderOf rules.source data.data.toList
      let (written, flaw) := rules.convert isBig (bytes.length + 1) 0 [] bytes
      if isFirst && !written.isEmpty then Work.putData ⟨rules.target.mark.toArray⟩
      Work.putData ⟨written.toArray⟩
      match flaw with
      | some (.illegal, place) =>
        Work.fail ("illegal input sequence at position " ++ toString place)
      | some (.unfinished, _) =>
        Work.fail "incomplete character or shift sequence at end of buffer"
      | none => convertAll rules (isFirst && written.isEmpty) rest

def iconv : Utility := fun words => do
  let rules : Rules := ⟨"cls".toList, "fto".toList, [], [("from-code", 'f'), ("to-code", 't'),
    ("list", 'l'), ("output", 'o'), ("silent", 's'), ("verbose", 'V')], true⟩
  let (given, operands, mistake) := rules.readFrom (words.length + 1) [] [] words
  match mistake with
  | some text => encodingMisuse 64 text
  | none => pure ()
  let options : Options := ⟨given.reverse, operands.reverse⟩
  let source := (options.value? 'f').getD ""
  let (target, endings) : String × List String :=
    match ((options.value? 't').getD "").splitOn "//" with
    | name :: endings => (name, endings)
    | [] => ("", [])
  let known := (Encoding.ofName? source, Encoding.ofName? target)
  match known with
  | (some source, some target) =>
    let rules : Conversion := ⟨source, target, options.has 'c' || endings.contains "IGNORE",
      endings.contains "TRANSLIT"⟩
    match options.value? 'o' with
    | some path =>
      match ← Activity.openFile path .output with
      | .ok descriptor =>
        let _ ← Activity.ask (.redirect descriptor 1)
      | .error fault => Work.fail ("cannot open output file: " ++ fault.text)
    | none => pure ()
    convertAll rules true (Work.orInput options.operands)
  | (none, none) =>
    encodingMisuse 1 ("conversions from \x60" ++ source ++ "' and to \x60" ++
      (options.value? 't').getD "" ++ "' are not supported")
  | (none, some _) => encodingMisuse 1 ("conversion from \x60" ++ source ++ "' is not supported")
  | (some _, none) =>
    encodingMisuse 1 ("conversion to \x60" ++ (options.value? 't').getD "" ++ "' is not supported")

end Conformance.Tool
