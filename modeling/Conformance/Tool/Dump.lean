import Conformance.Tool.Input
import Conformance.Tool.Floating

/-!
# Dumps

Data shown as numbers and characters, a fixed number of bytes to a line, with the
offset of each line in front.
-/

namespace Conformance.Tool

open Machine

/-- How groups of bytes are shown. -/
structure DumpStyle where
  letter : Char
  size : Nat
  /-- Whether the characters follow at the end of the line. -/
  showsText : Bool

namespace DumpStyle

def width (style : DumpStyle) : Nat :=
  match style.letter, style.size with
  | 'o', 1 => 3
  | 'o', 2 => 6
  | 'o', 4 => 11
  | 'o', _ => 22
  | 'x', n => 2 * n
  | 'd', 1 => 4
  | 'd', 2 => 6
  | 'd', 4 => 11
  | 'd', _ => 20
  | 'u', 1 => 3
  | 'u', 2 => 5
  | 'u', 4 => 10
  | 'u', _ => 20
  | 'f', n => (FloatLayout.ofSize n).width
  | _, _ => 3

def value (bytes : List UInt8) : Nat := bytes.foldr (fun b n => n * 256 + b.toNat) 0

def octalDigits (n : Nat) : String :=
  let digits := Nat.toDigits 8 n
  String.ofList (List.replicate (3 - digits.length) '0' ++ digits)

def charText (b : UInt8) : String :=
  match b.toNat with
  | 0 => "\\0"
  | 7 => "\\a"
  | 8 => "\\b"
  | 9 => "\\t"
  | 10 => "\\n"
  | 11 => "\\v"
  | 12 => "\\f"
  | 13 => "\\r"
  | n => if 32 ≤ n && n < 127 then String.singleton (Char.ofNat n) else octalDigits n

def controlNames : List String :=
  ["nul", "soh", "stx", "etx", "eot", "enq", "ack", "bel", "bs", "ht", "nl", "vt", "ff", "cr",
    "so", "si", "dle", "dc1", "dc2", "dc3", "dc4", "nak", "syn", "etb", "can", "em", "sub", "esc",
    "fs", "gs", "rs", "us", "sp"]

def nameText (b : UInt8) : String :=
  let code := b.toNat % 128
  if code = 127 then "del" else (controlNames[code]?).getD (String.singleton (Char.ofNat code))

def groupText (style : DumpStyle) (bytes : List UInt8) : String :=
  let n := value bytes
  let zeros (radix : Nat) : String :=
    let digits := Nat.toDigits radix n
    String.ofList (List.replicate (style.width - digits.length) '0' ++ digits)
  match style.letter with
  | 'o' => zeros 8
  | 'x' => zeros 16
  | 'u' => toString n
  | 'd' => toString (Int.bmod n (Nat.pow 2 (8 * style.size)))
  | 'f' => (FloatLayout.ofSize style.size).text n
  | 'c' => charText (bytes.headD 0)
  | _ => nameText (bytes.headD 0)

/-- Items in groups of a size; `fuel` bounds the groups. -/
def groups {α : Type} (size : Nat) : (fuel : Nat) → List α → List (List α)
  | 0, _ => []
  | fuel + 1, items =>
    if items.isEmpty then [] else items.take size :: groups size fuel (items.drop size)

/-- A line in one style.  A full line has `perLine` bytes, and `total` columns are to be
filled by its groups; the columns left over are spread among them. -/
def line (style : DumpStyle) (perLine total : Nat) (isReversed : Bool) (bytes : List UInt8) :
    String :=
  let fields := perLine / style.size
  let pad := total - style.width * fields
  let shown := groups style.size bytes.length bytes
  let texts := shown.zipIdx.map fun (group, index) =>
    let after := fields - index
    let extra := pad * after / fields - pad * (after - 1) / fields
    let filled := group ++ List.replicate (style.size - group.length) 0
    padLeft (style.width + extra) (style.groupText (if isReversed then filled.reverse else filled))
  let missing := fields - shown.length
  let blank := missing * style.width + pad * missing / fields
  let text := bytes.map fun b =>
    if 32 ≤ b.toNat && b.toNat < 127 then Char.ofNat b.toNat else '.'
  String.join texts ++ (if style.showsText then
      String.ofList (List.replicate blank ' ') ++ "  >" ++ String.ofList text ++ "<"
    else "")

/-- The styles of a text such as `x1z` or `cx2`; `fuel` bounds them. -/
def readAll (whole : String) : (fuel : Nat) → List Char → Except String (List DumpStyle)
  | 0, _ => .ok []
  | _ + 1, [] => .ok []
  | fuel + 1, letter :: rest =>
    let trailer (rest : List Char) : Bool × List Char := match rest with
      | 'z' :: more => (true, more)
      | _ => (false, rest)
    if letter = 'c' || letter = 'a' then do
      let (showsText, rest) := trailer rest
      return ⟨letter, 1, showsText⟩ :: (← readAll whole fuel rest)
    else if ['o', 'x', 'd', 'u'].contains letter then do
      let digits := rest.takeWhile Char.isDigit
      let (size, rest) : Nat × List Char := match natural? digits with
        | some n => (n, rest.drop digits.length)
        | none => match rest with
          | 'C' :: more => (1, more)
          | 'S' :: more => (2, more)
          | 'I' :: more => (4, more)
          | 'L' :: more => (8, more)
          | _ => (4, rest)
      if ! [1, 2, 4, 8].contains size then
        .error ("invalid type string " ++ quoted whole ++ ";\nthis system doesn't provide a " ++
          toString size ++ "-byte integral type")
      let (showsText, rest) := trailer rest
      return ⟨letter, size, showsText⟩ :: (← readAll whole fuel rest)
    else if letter = 'f' then do
      let digits := rest.takeWhile Char.isDigit
      let (size, rest) : Nat × List Char := match natural? digits with
        | some n => (n, rest.drop digits.length)
        | none => match rest with
          | 'F' :: more => (4, more)
          | 'D' :: more => (8, more)
          | 'L' :: more => (16, more)
          | _ => (8, rest)
      if ! [4, 8, 16].contains size then
        .error ("invalid type string " ++ quoted whole ++ ";\nthis system doesn't provide a " ++
          toString size ++ "-byte floating point type")
      let (showsText, rest) := trailer rest
      return ⟨letter, size, showsText⟩ :: (← readAll whole fuel rest)
    else .error ("invalid character '" ++ String.singleton letter ++ "' in type string " ++
      quoted whole)

end DumpStyle

/-- How a whole dump looks. -/
structure DumpRules where
  styles : List DumpStyle
  radix : Char
  /-- Whether lines like the one before are shown. -/
  all : Bool
  perLine : Nat
  isReversed : Bool

namespace DumpRules

def address (rules : DumpRules) (offset : Nat) : String :=
  let digits (base width : Nat) : String :=
    let text := Nat.toDigits base offset
    String.ofList (List.replicate (width - text.length) '0' ++ text)
  match rules.radix with
  | 'n' => ""
  | 'd' => digits 10 7
  | 'x' => digits 16 6
  | _ => digits 8 7

/-- The columns of a full line without its offset. -/
def total (rules : DumpRules) : Nat :=
  rules.styles.foldl (fun n style => max n ((style.width + 1) * (rules.perLine / style.size))) 0

def block (rules : DumpRules) (offset : Nat) (bytes : List UInt8) : List String :=
  let front := rules.address offset
  rules.styles.zipIdx.map fun (style, index) =>
    (if index = 0 then front else String.ofList (List.replicate front.length ' ')) ++
      style.line rules.perLine rules.total rules.isReversed bytes

def lines (rules : DumpRules) : (offset : Nat) → (before : Option (List UInt8)) →
    (starred : Bool) → List (List UInt8) → List String
  | _, _, _, [] => []
  | offset, before, starred, chunk :: rest =>
    let next := offset + chunk.length
    if !rules.all && before = some chunk && chunk.length = rules.perLine then
      (if starred then [] else ["*"]) ++ rules.lines next before true rest
    else rules.block offset chunk ++ rules.lines next (some chunk) false rest

end DumpRules

def putTexts : List String → Work Unit
  | [] => return
  | line :: rest => do
    Work.putLine line
    putTexts rest

/-- A count that may be octal or hexadecimal. -/
def offsetCount? (text : String) : Option Nat :=
  match text.toList with
  | '0' :: 'x' :: digits =>
    if digits.isEmpty then none
    else digits.foldl (fun n c => do some ((← n) * 16 + (← Shell.digitIn? 16 c))) (some 0)
  | '0' :: digits =>
    if digits.isEmpty then some 0
    else if digits.all (fun c => '0' ≤ c && c ≤ '7') then
      some (digits.foldl (fun n c => n * 8 + (c.toNat - '0'.toNat)) 0)
    else sizeCount? ('0' :: digits)
  | chars => sizeCount? chars

/-- Refuses what `od` cannot do. -/
def checkDumpOption (letter : Char) (value : String) : Work Unit := do
  match letter with
  | 'A' =>
    if !(value.toList.head?.any "doxn".toList.contains) then
      Work.fail ("invalid output address radix '" ++
        String.ofList (value.toList.take 1) ++ "'; it must be one character from [doxn]")
  | 't' =>
    match DumpStyle.readAll value (value.length + 1) value.toList with
    | .error message => Work.fail message
    | .ok _ => pure ()
  | 'E' =>
    let _ ← choice "--endian" value [["little"], ["big"]]
  | _ =>
    if ['N', 'j', 'w', 'S'].contains letter && !value.isEmpty && (offsetCount? value).isNone then
      Work.fail ("invalid -" ++ String.singleton letter ++ " argument " ++ quoted value)

/-- Texts of visible characters that end with a zero byte and have a least length, each
with its offset. -/
def stringsIn (least : Nat) (data : ByteArray) : List (Nat × List Char) :=
  let (_, _, found) := data.foldl (fun (place, current, found) b =>
    if b = 0 then
      (place + 1, ([] : List Char),
        if least ≤ current.length then (place - current.length, current.reverse) :: found
        else found)
    else if 32 ≤ b.toNat && b.toNat < 127 then (place + 1, Char.ofNat b.toNat :: current, found)
    else (place + 1, [], found)) (0, ([] : List Char), ([] : List (Nat × List Char)))
  found.reverse

def od : Utility := fun words => do
  let options ← readOptions ⟨"aBbcDdeFfHhIiLlOosXxv".toList, "AtNjE".toList, ['w', 'S'],
    [("address-radix", 'A'), ("format", 't'), ("read-bytes", 'N'), ("skip-bytes", 'j'),
      ("endian", 'E'), ("width", 'w'), ("strings", 'S'), ("output-duplicates", 'v')], true⟩
    checkDumpOption words
  let styles := options.given.flatMap fun (letter, value) =>
    match letter with
    | 'a' => [⟨'a', 1, false⟩]
    | 'b' => [⟨'o', 1, false⟩]
    | 'c' => [⟨'c', 1, false⟩]
    | 'D' => [⟨'u', 4, false⟩]
    | 'd' => [⟨'u', 2, false⟩]
    | 'e' | 'F' => [⟨'f', 8, false⟩]
    | 'f' => [⟨'f', 4, false⟩]
    | 'H' | 'X' => [⟨'x', 4, false⟩]
    | 'h' | 'x' => [⟨'x', 2, false⟩]
    | 'i' => [⟨'d', 4, false⟩]
    | 'I' | 'L' | 'l' => [⟨'d', 8, false⟩]
    | 'O' => [⟨'o', 4, false⟩]
    | 'B' | 'o' => [⟨'o', 2, false⟩]
    | 's' => [⟨'d', 2, false⟩]
    | 't' => (DumpStyle.readAll value (value.length + 1) value.toList).toOption.getD []
    | _ => ([] : List DumpStyle)
  let shown := if styles.isEmpty then [⟨'o', 2, false⟩] else styles
  let largest := shown.foldl (fun n style => max n style.size) 1
  let number (letter : Char) : Option Nat := (options.value? letter).bind offsetCount?
  let perLine ← match options.value? 'w' with
    | none => pure 16
    | some value =>
      let wanted := if value.isEmpty then 32 else (offsetCount? value).getD 16
      if wanted = 0 || wanted % largest ≠ 0 then
        Work.warn ("warning: invalid width " ++ toString wanted ++ "; using " ++
          toString largest ++ " instead")
        pure largest
      else pure wanted
  let rules : DumpRules := ⟨shown, ((options.value? 'A').bind (·.toList.head?)).getD 'o',
    options.has 'v', perLine, options.value? 'E' = some "big"⟩
  let before := (← get).status
  let contents ← Work.readAll options.operands
  let data := contents.foldl (fun data (_, more) => data ++ more) ByteArray.empty
  let skipped := (number 'j').getD 0
  let isMissing := contents.isEmpty && before ≠ (← get).status
  if data.size < skipped then Work.fail "cannot skip past end of combined input"
  let rest := data.extract skipped data.size
  let body := match number 'N' with
    | some n => rest.extract 0 n
    | none => rest
  if options.has 'S' then
    let least := match options.value? 'S' with
      | some value => if value.isEmpty then 3 else (offsetCount? value).getD 3
      | none => 3
    putTexts ((stringsIn least body).map fun (place, text) =>
      let front := rules.address (skipped + place)
      (if front.isEmpty then "" else front ++ " ") ++ String.ofList text)
  else
    putTexts (rules.lines skipped none false (DumpStyle.groups perLine body.size body.data.toList))
    let couldOpen ← if isMissing then do
        let mut isFound := false
        for operand in options.operands do
          match ← Activity.examine operand with
          | .ok _ => isFound := true
          | .error _ => pure ()
        pure isFound
      else pure true
    if rules.radix ≠ 'n' && couldOpen then Work.putLine (rules.address (skipped + body.size))

end Conformance.Tool
