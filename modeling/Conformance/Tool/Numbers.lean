import Conformance.Shell.Layout
import Conformance.Shell.RegexText
import Conformance.Tool.Input

/-!
# Numbers

Tools that count and calculate.
-/

namespace Conformance.Tool

open Machine Shell

/-! ## Sequences -/

/-- A decimal number: a whole number of units in the last place, and how wide its text
is. -/
structure FixedPoint where
  value : Int
  places : Nat
  width : Nat

def splitSign (text : List Char) : Bool × List Char :=
  match text with
  | '-' :: rest => (true, rest)
  | '+' :: rest => (false, rest)
  | _ => (false, text)

/-- The exponent at the end of a number; none where there is something else. -/
def exponentOf? (text : List Char) : Option Int :=
  match text with
  | [] => some 0
  | c :: rest =>
    if c = 'e' || c = 'E' then
      let (negative, digits) := splitSign rest
      (natural? digits).map fun n => if negative then -Int.ofNat n else Int.ofNat n
    else none

/-- A number as it is written, with its exponent taken into account. -/
def fixedPoint? (text : String) : Option FixedPoint := do
  let chars := text.toList.dropWhile isSpaceChar
  let (negative, body) := splitSign chars
  let width := chars.length - (if chars.head? = some '+' then 1 else 0)
  match body with
  | '0' :: 'x' :: digits =>
    if digits.isEmpty then none
    else
      let n ← digits.foldl (fun n c => do some ((← n) * 16 + (← digitIn? 16 c))) (some 0)
      let value := if negative then -Int.ofNat n else Int.ofNat n
      some ⟨value, 0, (toString value).length⟩
  | _ =>
    let whole := body.takeWhile Char.isDigit
    let (fraction, rest, hasPoint) : List Char × List Char × Bool :=
      match body.drop whole.length with
      | '.' :: more => (more.takeWhile Char.isDigit, more.dropWhile Char.isDigit, true)
      | other => ([], other, false)
    let exponent ← exponentOf? rest
    let n ← natural? (whole ++ fraction)
    let signed := if negative then -Int.ofNat n else Int.ofNat n
    let places := Int.ofNat fraction.length - exponent
    let value := if places < 0 then signed * Int.ofNat (Nat.pow 10 places.natAbs) else signed
    let width := if rest.isEmpty then
        (if hasPoint && whole.isEmpty then width + 1
          else if hasPoint && fraction.isEmpty then width - 1 else width)
      else (toString value).length + (if 0 < places then 1 else 0)
    some ⟨value, places.toNat, width⟩

def FixedPoint.scaledTo (n : FixedPoint) (places : Nat) : Int :=
  n.value * Int.ofNat (Nat.pow 10 (places - n.places))

def placedText (places : Nat) (value : Int) : String :=
  let digits := Nat.toDigits 10 value.natAbs
  let full := List.replicate (places + 1 - digits.length) '0' ++ digits
  (if value < 0 then "-" else "") ++ String.ofList (full.take (full.length - places)) ++
    (if places = 0 then "" else "." ++ String.ofList (full.drop (full.length - places)))

def zeroFilled (width : Nat) (text : String) : String :=
  let zeros := List.replicate (width - text.length) '0'
  match text.toList with
  | '-' :: digits => String.ofList ('-' :: (zeros ++ digits))
  | digits => String.ofList (zeros ++ digits)

/-- Whether a word is a number although it begins like an option. -/
def isNegativeNumber (word : String) : Bool :=
  match word.toList with
  | '-' :: c :: _ => c.isDigit || c = '.'
  | _ => false

/-- A format with one conversion: what stands around it, and how it lays out a value. -/
structure NumberFormat where
  front : List Char
  letter : Char
  layout : Layout
  behind : List Char

namespace NumberFormat

/-- Text up to the first conversion, with doubled signs read as one. -/
def plainText : List Char → List Char × List Char
  | '%' :: '%' :: rest =>
    let (text, left) := plainText rest
    ('%' :: text, left)
  | '%' :: rest => ([], '%' :: rest)
  | c :: rest =>
    let (text, left) := plainText rest
    (c :: text, left)
  | [] => ([], [])

def read (text : String) : Except String NumberFormat :=
  let (front, rest) := plainText text.toList
  let name := "format " ++ quoted text
  match rest with
  | [] => .error (name ++ " has no % directive")
  | _ :: rest =>
    let flags := rest.takeWhile fun c => isLayoutFlag c || c = '\''
    let rest := rest.drop flags.length
    let digits := rest.takeWhile Char.isDigit
    let rest := rest.drop digits.length
    let (precision, rest) : Option Int × List Char := match rest with
      | '.' :: more =>
        let places := more.takeWhile Char.isDigit
        (some (Int.ofNat ((natural? places).getD 0)), more.drop places.length)
      | _ => (none, rest)
    let rest := if rest.head? = some 'L' then rest.drop 1 else rest
    match rest with
    | [] => .error (name ++ " ends in %")
    | letter :: rest =>
      if !"efgaEFGA".toList.contains letter then
        .error (name ++ " has unknown %" ++ String.singleton letter ++ " directive")
      else
        let (behind, more) := plainText rest
        if !more.isEmpty then .error (name ++ " has too many % directives")
        else .ok ⟨front, letter,
          layoutOf flags (Int.ofNat ((natural? digits).getD 0)) precision, behind⟩

def apply (format : NumberFormat) (value : Binary64) : String :=
  String.ofList (format.front ++ format.layout.float format.letter value ++ format.behind)

end NumberFormat

/-- Puts out numbers from `value` by `step` up to `last`, which may be missing, with a
mark between them; `fuel` bounds their count. -/
def putSequence (text : Int → String) (glue : String) (step : Int) (last : Option Int) :
    (fuel : Nat) → (isFirst : Bool) → (value : Int) → Work Unit
  | 0, isFirst, _ => if isFirst then return else Work.put "\n"
  | fuel + 1, isFirst, value => do
    if last.any fun last => (0 < step && last < value) || (step < 0 && value < last) then
      if !isFirst then Work.put "\n"
    else
      Work.put ((if isFirst then "" else glue) ++ text value)
      putSequence text glue step last fuel false (value + step)

/-- Marks where the operands of `seq` begin, so that no negative number reads as an
option; `fuel` bounds the words. -/
def markOperands : (fuel : Nat) → List String → List String
  | 0, words => words
  | _ + 1, [] => []
  | fuel + 1, word :: rest =>
    if isNegativeNumber word || !"-".toList.isPrefixOf word.toList || word = "-" then
      "--" :: word :: rest
    else if ["-s", "-f", "--separator", "--format"].contains word then
      match rest with
      | value :: more => word :: value :: markOperands fuel more
      | [] => [word]
    else if word = "--" then word :: rest
    else word :: markOperands fuel rest

/-- An operand of `seq`; none is infinity. -/
def sequenceBound (word : String) : Work (Option FixedPoint) := do
  let lower := word.map Char.toLower
  if ["inf", "+inf", "infinity", "+infinity"].contains lower then return none
  else if ["nan", "-nan", "+nan"].contains lower then
    Work.misuse ("invalid 'not-a-number' argument: " ++ quoted word)
  else match fixedPoint? word with
    | some n => return some n
    | none => Work.misuse ("invalid floating point argument: " ++ quoted word)

def seq : Utility := fun words => do
  let options ← plainOptions ⟨['w'], "sf".toList, [], [("separator", 's'), ("equal-width", 'w'),
    ("format", 'f')], false⟩ (markOperands (words.length + 1) words)
  let operands := options.operands
  if operands.isEmpty then Work.misuse "missing operand"
  match operands.drop 3 with
  | extra :: _ => Work.misuse ("extra operand " ++ quoted extra)
  | [] => pure ()
  let format ← match options.value? 'f' with
    | none => pure none
    | some text =>
      match NumberFormat.read text with
      | .ok format => pure (some format)
      | .error message => Work.fail message
  if format.isSome && options.has 'w' then
    Work.misuse "format string may not be specified when printing equal width strings"
  let one : FixedPoint := ⟨1, 0, 1⟩
  let last ← sequenceBound (operands.getLastD "")
  let first ← if operands.length = 1 then pure (some one) else sequenceBound (operands.headD "")
  let step ← if operands.length = 3 then sequenceBound (operands.getD 1 "") else pure (some one)
  match first, step with
  | some first, some step =>
    if step.value = 0 then
      Work.misuse ("invalid Zero increment value: " ++ quoted (operands.getD 1 ""))
    let limit := last.getD one
    let grid := max first.places (max step.places limit.places)
    let shownPlaces := max first.places step.places
    let scale := Int.ofNat (Nat.pow 10 (grid - shownPlaces))
    let plain (value : Int) : String := placedText shownPlaces (value.tdiv scale)
    let widthOf (n : FixedPoint) : Nat :=
      let points := (if n.places = 0 && 0 < shownPlaces then 1 else 0)
      let drops := (if 0 < n.places && shownPlaces = 0 then 1 else 0)
      n.width + shownPlaces + points - n.places - drops
    let width := max (widthOf first) (widthOf limit)
    let text (value : Int) : String := match format with
      | some format =>
        format.apply (Binary64.ofRatio (value < 0) value.natAbs (Nat.pow 10 grid))
      | none => if options.has 'w' then zeroFilled width (plain value) else plain value
    putSequence text ((options.value? 's').getD "\n") (step.scaledTo grid)
      (last.map fun last => last.scaledTo grid) 1000000000000 true (first.scaledTo grid)
  | _, _ => pure ()

/-! ## Expressions -/

def wordNumber? (word : String) : Option Int :=
  match word.toList with
  | '-' :: digits => (natural? digits).map fun n => -Int.ofNat n
  | digits => (natural? digits).map Int.ofNat

/-- Whether `expr` counts a value as false. -/
def isNull (word : String) : Bool :=
  match word.toList with
  | [] => true
  | '-' :: digits => !digits.isEmpty && digits.all (· = '0')
  | digits => digits.all (· = '0')

/-- The words that are left, and the one before them. -/
structure ExprState where
  words : List String
  previous : String

abbrev Expr := StateT ExprState (Except String)

namespace Expr

/-- What a text and a pattern have in common: the group, or how long it is. -/
def matchedPart (text pattern : String) : Expr String :=
  match ({ RegexStyle.basic with lenient := true }).read pattern.toList with
  | .error fault => throw (if fault = .openBracket && pattern.toList.getLast? = some '['
      then RegexFault.badPattern.message else fault.message)
  | .ok regex =>
    let anchored := Regex.seq (.edge .start) regex
    let hasGroup := (pattern.toList.zip (pattern.toList.drop 1)).contains ('\\', '(')
    match anchored.find? text.toList 0 with
    | some found => return (if hasGroup then String.ofList (found.part text.toList 1)
        else toString (found.finish - found.start))
    | none => return (if hasGroup then "" else "0")

def apply (operator left right : String) : Expr String :=
  let numbers (f : Int → Int → Expr Int) : Expr String :=
    match wordNumber? left, wordNumber? right with
    | some a, some b => do return toString (← f a b)
    | _, _ => throw "non-integer argument"
  let compare (f : Ordering → Bool) : Expr String :=
    let order := match wordNumber? left, wordNumber? right with
      | some a, some b => Ord.compare a b
      | _, _ => if left = right then .eq else if left < right then .lt else .gt
    return if f order then "1" else "0"
  let divide (f : Int → Int → Int) : Expr String :=
    numbers fun a b => if b = 0 then throw "division by zero" else return f a b
  match operator with
  | "|" => return if isNull left then (if isNull right then "0" else right) else left
  | "&" => return if isNull left || isNull right then "0" else left
  | "=" => compare (· = .eq)
  | "==" => compare (· = .eq)
  | "!=" => compare (· ≠ .eq)
  | "<" => compare (· = .lt)
  | "<=" => compare (· ≠ .gt)
  | ">" => compare (· = .gt)
  | ">=" => compare (· ≠ .lt)
  | "+" => numbers fun a b => return a + b
  | "-" => numbers fun a b => return a - b
  | "*" => numbers fun a b => return a * b
  | "/" => divide Int.tdiv
  | "%" => divide Int.tmod
  | _ => matchedPart left right

/-- The operators of each level, those that bind loosest first. -/
def levels : List (List String) :=
  [["|"], ["&"], ["<", "<=", "=", "==", "!=", ">=", ">"], ["+", "-"], ["*", "/", "%"], [":"]]

/-- Complains that there is nothing more. -/
def missing {α : Type} : Expr α := do
  throw ("syntax error: missing argument after " ++ quoted (← get).previous)

def take : Expr String := do
  match (← get).words with
  | [] => missing
  | word :: rest =>
    set (⟨rest, word⟩ : ExprState)
    return word

def needsRight (operator left : String) : Bool :=
  if operator = "|" then isNull left else if operator = "&" then !isNull left else true

mutual

/-- Operands of a level, joined from the left; where `counts` fails nothing is
calculated. -/
def others (operators : List String) (inner : List (List String)) (counts : Bool) :
    (fuel : Nat) → String → Expr String
  | 0, _ => throw "syntax error"
  | fuel + 1, left => do
    match (← get).words with
    | operator :: _ =>
      if operators.contains operator then
        let _ ← take
        let right ← level inner (counts && needsRight operator left) fuel
        let value ← if counts then apply operator left right else pure left
        others operators inner counts fuel value
      else return left
    | [] => return left

def level : List (List String) → (counts : Bool) → (fuel : Nat) → Expr String
  | _, _, 0 => throw "syntax error"
  | operators :: inner, counts, fuel + 1 => do
    let first ← level inner counts fuel
    others operators inner counts fuel first
  | [], counts, fuel + 1 => do
    match ← take with
    | "(" =>
      let value ← level levels counts fuel
      match (← get).words with
      | ")" :: _ =>
        let _ ← take
        return value
      | [] => throw ("syntax error: expecting ')' after " ++ quoted (← get).previous)
      | other :: _ => throw ("syntax error: expecting ')' instead of " ++ quoted other)
    | ")" => throw "syntax error: unexpected ')'"
    | "+" => take
    | "length" => return toString (← level [] counts fuel).length
    | "match" =>
      let text ← level [] counts fuel
      let pattern ← level [] counts fuel
      if counts then matchedPart text pattern else return text
    | "index" =>
      let text ← level [] counts fuel
      let marks ← level [] counts fuel
      return toString (((text.toList.findIdx? marks.toList.contains).map (· + 1)).getD 0)
    | "substr" =>
      let text ← level [] counts fuel
      let start ← level [] counts fuel
      let size ← level [] counts fuel
      match wordNumber? start, wordNumber? size with
      | some a, some b =>
        if a ≤ 0 || b ≤ 0 then return ""
        else return String.ofList ((text.toList.drop (a.toNat - 1)).take b.toNat)
      | _, _ => return ""
    | word => return word

end

def whole (words : List String) : Except String String := do
  let (value, state) ← (level levels true (16 * words.length + 16)).run ⟨words, ""⟩
  match state.words with
  | extra :: _ => .error ("syntax error: unexpected argument " ++ quoted extra)
  | [] => .ok value

end Expr

def expr : Utility := fun words => do
  modify fun bench => { bench with failure := 2 }
  let words := if words.head? = some "--" then words.drop 1 else words
  if words.isEmpty then Work.misuse "missing operand"
  match Expr.whole words with
  | .ok value =>
    Work.putLine value
    Work.setStatus (if isNull value then 1 else 0)
  | .error message => Work.fail message

/-! ## Factors -/

/-- The prime factors of a number from `divisor` on; `fuel` bounds the trials. -/
def primeFactors : (fuel : Nat) → (divisor : Nat) → Nat → List Nat
  | 0, _, n => [n]
  | fuel + 1, divisor, n =>
    if n ≤ 1 then []
    else if n < divisor * divisor then [n]
    else if n % divisor = 0 then divisor :: primeFactors fuel divisor (n / divisor)
    else primeFactors fuel (divisor + 1) n

def powers (factors : List Nat) : List String :=
  (factors.splitBy (· = ·)).map fun group =>
    toString (group.headD 0) ++
      (if 1 < group.length then "^" ++ toString group.length else "")

def putFactors (exponents : Bool) (word : String) : Work Unit := do
  let digits := match word.toList with
    | '+' :: rest => rest
    | chars => chars
  match natural? digits with
  | some n =>
    let factors := primeFactors 2000000 2 n
    let shown := if exponents then powers factors else factors.map toString
    Work.putLine (toString n ++ ":" ++ String.join (shown.map (" " ++ ·)))
  | none => Work.complain (quoted word ++ " is not a valid positive integer")

def factor : Utility := fun words => do
  let options ← plainOptions ⟨['h'], [], [], [("exponents", 'h')], true⟩ words
  if options.operands.isEmpty then
    let (_, _) ← (Stream.ofDescriptor 0 10).fold (fun _ line => do
      for piece in splitAtMark ' ' (line.content.map fun c => if c = '\t' then ' ' else c) do
        if !piece.isEmpty then putFactors (options.has 'h') (String.ofList piece)
      return ((), true)) ()
  else
    for word in options.operands do
      putFactors (options.has 'h') word

end Conformance.Tool
