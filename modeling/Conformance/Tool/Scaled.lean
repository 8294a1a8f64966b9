import Conformance.Tool.Fields
import Conformance.Tool.Numbers

/-!
# Scaled numbers

`numfmt` reads and writes numbers with a letter behind them for a power of 1000 or 1024.
It calculates exactly; a number is rounded when it is written.
-/

namespace Conformance.Tool

open Machine Shell

/-! ## Scales -/

/-- What the letters behind numbers stand for. -/
inductive Scale where
  | plain
  /-- Powers of 1024 if an `i` follows, and of 1000 otherwise. -/
  | auto
  | decimal
  | binary
  /-- Powers of 1024, always with an `i`. -/
  | binaryMarked
deriving DecidableEq, Repr

namespace Scale

def base : Scale → Nat
  | .binary => 1024
  | .binaryMarked => 1024
  | _ => 1000

def ofName (name : String) : Scale :=
  match name with
  | "auto" => .auto
  | "si" => .decimal
  | "iec" => .binary
  | "iec-i" => .binaryMarked
  | _ => .plain

def letters : List Char := "KMGTPEZY".toList

end Scale

inductive Rounding where
  | up
  | down
  | fromZero
  | towardsZero
  | nearest
deriving DecidableEq, Repr

namespace Rounding

def ofName (name : String) : Rounding :=
  match name with
  | "up" => .up
  | "down" => .down
  | "towards-zero" => .towardsZero
  | "nearest" => .nearest
  | _ => .fromZero

/-- The whole number for a number. -/
def round (rounding : Rounding) (value : Rat) : Int :=
  match rounding with
  | .up => value.ceil
  | .down => value.floor
  | .fromZero => if value < 0 then value.floor else value.ceil
  | .towardsZero => if value < 0 then value.ceil else value.floor
  | .nearest => if value < 0 then -((-value + 1 / 2).floor) else (value + 1 / 2).floor

def roundTo (rounding : Rounding) (places : Nat) (value : Rat) : Rat :=
  let scale : Rat := (Nat.pow 10 places : Nat)
  (rounding.round (value * scale) : Rat) / scale

end Rounding

/-- A number with so many places; of two that are equally near the even one is written. -/
def placesText (places : Nat) (value : Rat) : String :=
  let scaled := value.abs * (Nat.pow 10 places : Nat)
  let low := scaled.floor.toNat
  let rest := scaled - (low : Rat)
  let digits := if 1 / 2 < rest || (rest = 1 / 2 && low % 2 = 1) then low + 1 else low
  (if value < 0 then "-" else "") ++ placedText places (Int.ofNat digits)

/-- A number divided by a base until it is less; also tells how often.  `fuel` bounds
that. -/
def reducedBy (base : Nat) : (fuel : Nat) → Rat → Rat × Nat
  | 0, value => (value, 0)
  | fuel + 1, value =>
    if (base : Rat) ≤ value.abs then
      let (small, power) := reducedBy base fuel (value / base)
      (small, power + 1)
    else (value, 0)

/-! ## Reading -/

/-- Why a text is no number. -/
inductive ScaleFault where
  | tooLarge
  | noNumber
  | unwantedLetter
  | badLetter
  | missingMark
  | moreBehind (rest : String)

def ScaleFault.message (text : String) : ScaleFault → String
  | .tooLarge => "value too large to be converted: " ++ quoted text
  | .noNumber => "invalid number: " ++ quoted text
  | .unwantedLetter => "rejecting suffix in input: " ++ quoted text ++ " (consider using --from)"
  | .badLetter => "invalid suffix in input: " ++ quoted text
  | .missingMark => "missing 'i' suffix in input: " ++ quoted text ++ " (e.g Ki/Mi/Gi)"
  | .moreBehind rest => "invalid suffix in input " ++ quoted text ++ ": " ++ quoted rest

/-- A number as it was read, and how many places it was written with. -/
structure ScaledNumber where
  value : Rat
  places : Nat

def digitLimit : Nat := 27

/-- Reads digits with perhaps a sign and a point. -/
def decimalText (text : List Char) : Except ScaleFault (ScaledNumber × List Char) := do
  let isNegative := text.head? = some '-'
  let text := if isNegative then text.drop 1 else text
  let whole := text.takeWhile Char.isDigit
  let rest := text.drop whole.length
  if whole.isEmpty && rest.head? ≠ some '.' then throw .noNumber
  if digitLimit < (whole.dropWhile (· = '0')).length then throw .tooLarge
  let front : Rat := ((natural? whole).getD 0 : Nat)
  let (value, places, rest) : Rat × Nat × List Char ← match rest with
    | '.' :: more => do
      let digits := more.takeWhile Char.isDigit
      let behind := more.drop digits.length
      if digits.isEmpty && behind.head? ≠ some '.' then throw .noNumber
      if digitLimit < (digits.dropWhile (· = '0')).length then throw .tooLarge
      let part : Rat := ((natural? digits).getD 0 : Nat)
      pure (front + part / (Nat.pow 10 digits.length : Nat), digits.length, behind)
    | _ => pure (front, 0, rest)
  return (⟨if isNegative then -value else value, places⟩, rest)

def scaledText (scale : Scale) (text : List Char) : Except ScaleFault ScaledNumber := do
  let (number, rest) ← decimalText text
  let (base, power, places, rest) : Nat × Nat × Nat × List Char ←
    if rest.isEmpty then pure (scale.base, 0, number.places, rest)
    else
      match rest.dropWhile fun c => c = ' ' || c = '\t' with
      | [] => throw .badLetter
      | letter :: more =>
        if !Scale.letters.contains letter then throw .badLetter
        if scale = .plain then throw .unwantedLetter
        let power := Scale.letters.findIdx (· = letter) + 1
        if scale = .auto && more.head? = some 'i' then pure (1024, power, 0, more.drop 1)
        else pure (scale.base, power, 0, more)
  let rest ← if scale = .binaryMarked then
      (if rest.head? = some 'i' then pure (rest.drop 1) else throw .missingMark)
    else pure rest
  if !rest.isEmpty then throw (.moreBehind (String.ofList rest))
  return ⟨number.value * (Nat.pow base power : Nat), places⟩

/-! ## Writing -/

/-- How numbers are written. -/
structure NumberStyleRules where
  source : Scale
  target : Scale
  sourceUnit : Nat
  targetUnit : Nat
  rounding : Rounding
  places : Option Nat
  ending : String
  /-- The least width; numbers stand on its left side if `isLeft`. -/
  width : Nat
  isLeft : Bool
  zeroWidth : Nat
  front : String
  behind : String
  mark : Option Char
  fields : Positions

def scaledForm (rules : NumberStyleRules) (places : Nat) (value : Rat) : String :=
  let filled (text : String) : String := zeroFilled rules.zeroWidth text
  if rules.target = .plain then
    filled (placesText places (rules.rounding.roundTo places value))
  else
    let base := rules.target.base
    let (small, power) := reducedBy base 100 value
    let adjust := match rules.places with
      | some wanted => min (power * 3) wanted
      | none => if small.abs < 10 then 1 else 0
    let rounded := rules.rounding.roundTo adjust small
    let (small, power) : Rat × Nat :=
      if (base : Rat) ≤ rounded.abs then (rounded / base, power + 1) else (rounded, power)
    let shown := match rules.places with
      | some wanted => wanted
      | none => if small ≠ 0 && small.abs < 10 && 0 < power then 1 else 0
    let letter : String := if power = 0 then ""
      else match Scale.letters[power - 1]? with
        | some c => String.singleton c
        | none => "(error)"
    filled (placesText shown small) ++ letter ++
      (if rules.target = .binaryMarked && 0 < power then "i" else "")

/-- A number as a message shows it. -/
def roughText (value : Rat) : String :=
  String.ofList (Layout.float ⟨false, false, false, false, false, 0, none⟩ 'g'
    (Binary64.ofRatio (value < 0) value.num.natAbs value.den))

/-- The new text of a field, or why there is none; a text has `auto` as its width if no
other one is given. -/
def rewritten (rules : NumberStyleRules) (field : Nat) (text : String) :
    Except String String := do
  let chars := text.toList
  let ending := rules.ending.toList
  let chars := if !ending.isEmpty && ending.length < chars.length && ending.isSuffixOf chars then
      chars.take (chars.length - ending.length)
    else chars
  let body := chars.dropWhile fun c => c = ' ' || c = '\t'
  let width := if rules.width = 0 && rules.mark.isNone then
      (if body.length < chars.length || 1 < field then chars.length else 0)
    else rules.width
  match scaledText rules.source body with
  | .error fault => throw (fault.message (String.ofList body))
  | .ok number =>
    let value := number.value * rules.sourceUnit / rules.targetUnit
    let places := rules.places.getD number.places
    let size := (reducedBy 10 200 value).2
    if rules.target = .plain && 18 < size + places then
      throw (if places = 0 then
          "value too large to be printed: '" ++ roughText value ++ "' (consider using --to)"
        else "value/precision too large to be printed: '" ++ roughText value ++ "/" ++
          toString places ++ "' (consider using --to)")
    if digitLimit - 1 < size then
      throw ("value too large to be printed: '" ++ roughText value ++
        "' (cannot handle values > 999Y)")
    let shown := scaledForm rules places value ++ rules.ending
    return rules.front ++ (if rules.isLeft then padRight width shown else padLeft width shown) ++
      rules.behind

/-! ## Formats -/

/-- Takes in a format such as `%8.2f`. -/
def withFormat (rules : NumberStyleRules) (text : String) : Except String NumberStyleRules := do
  let chars := text.toList
  let (front, rest) := NumberFormat.plainText chars
  if rest.isEmpty then throw ("format " ++ quoted text ++ " has no % directive")
  let rest := rest.drop 1
  let flags := rest.takeWhile fun c => c = ' ' || c = '\'' || c = '0'
  let rest := rest.drop flags.length
  let isLeft := rest.head? = some '-'
  let signed := if isLeft || rest.head? = some '+' then rest.drop 1 else rest
  let digits := signed.takeWhile Char.isDigit
  let width := (natural? digits).getD 0
  let rest := if digits.isEmpty then rest else signed.drop digits.length
  let rules := if width = 0 then rules
    else if isLeft then { rules with width, isLeft := true }
    else if flags.contains '0' then { rules with zeroWidth := width }
    else { rules with width, isLeft := false }
  if rest.isEmpty then throw ("format " ++ quoted text ++ " ends in %")
  let (rules, rest) ← match rest with
    | '.' :: more => do
      if more.head?.any fun c => "-+ \t".toList.contains c then
        throw ("invalid precision in format " ++ quoted text)
      let places := more.takeWhile Char.isDigit
      pure ({ rules with places := some ((natural? places).getD 0) }, more.drop places.length)
    | _ => pure (rules, rest)
  match rest with
  | 'f' :: behind =>
    if !(NumberFormat.plainText behind).2.isEmpty then
      throw ("format " ++ quoted text ++ " has too many % directives")
    return { rules with
      front := String.ofList (chars.take front.length), behind := String.ofList behind }
  | _ => throw ("invalid format " ++ quoted text ++ ", directive must be %[0]['][-][N][.][N]f")

/-! ## Lines -/

/-- What is done about a text that is no number. -/
inductive BadNumber where
  | ends
  | fails
  | warns
  | passes
deriving DecidableEq, Repr

/-- The fields of a line, and the blanks in front of them.  A field begins with every
blank but the one behind the field before. -/
def lineFields (mark : Option Char) : (fuel : Nat) → List Char → List (List Char)
  | 0, _ => []
  | fuel + 1, text =>
    let isGap (c : Char) : Bool := c = ' ' || c = '\t' || c = '\n'
    let field := match mark with
      | some mark => text.takeWhile (· ≠ mark)
      | none =>
        let gap := text.takeWhile isGap
        gap ++ (text.drop gap.length).takeWhile fun c => !isGap c
    match text.drop field.length with
    | [] => [field]
    | _ :: rest => field :: lineFields mark fuel rest

/-- Writes a line with its numbers in their new form; tells whether all were numbers. -/
def putNumbers (rules : NumberStyleRules) (manner : BadNumber) (text : List Char) : Work Bool := do
  let mut isSound := true
  for (field, place) in (lineFields rules.mark (text.length + 1) text).zipIdx do
    if place ≠ 0 then Work.putChars [rules.mark.getD ' ']
    let word := String.ofList field
    if holds rules.fields (place + 1) then
      match rewritten rules (place + 1) word with
      | .ok shown => Work.put shown
      | .error message =>
        match manner with
        | .ends =>
          Work.warn message
          throw 2
        | .passes => pure ()
        | _ => Work.warn message
        Work.put word
        isSound := false
    else Work.put word
  return isSound

def unitOf (text : String) : Work Nat := do
  let chars := text.toList
  let digits := chars.takeWhile Char.isDigit
  let count : Option Nat := if digits.isEmpty then some 1 else natural? digits
  let invalid : Work Nat := Work.fail ("invalid unit size: " ++ quoted text)
  let scale : Option Nat := match chars.drop digits.length with
    | [] => if digits.isEmpty then none else some 1
    | letter :: rest =>
      if Scale.letters.contains letter then
        let power := Scale.letters.findIdx (· = letter) + 1
        if rest.isEmpty then some (Nat.pow 1000 power)
        else if rest = ['i'] then some (Nat.pow 1024 power)
        else none
      else none
  match count, scale with
  | some n, some factor => if n = 0 then invalid else return n * factor
  | _, _ => invalid

def numberRules : Rules :=
  ⟨['z'], ['d'], ['H'], [("from", 'f'), ("from-unit", 'U'), ("to", 't'),
    ("to-unit", 'u'), ("round", 'r'), ("padding", 'p'), ("suffix", 's'), ("grouping", 'G'),
    ("delimiter", 'd'), ("field", 'F'), ("debug", 'D'), ("header", 'H'), ("format", 'O'),
    ("invalid", 'I'), ("zero-terminated", 'z')], true⟩

/-- What the options ask for. -/
structure NumberOptions where
  rules : NumberStyleRules
  manner : BadNumber
  header : Nat
  format : Option String
  isGrouped : Bool
  tells : Bool
  endsInZero : Bool

namespace NumberOptions

def usual : NumberOptions :=
  ⟨⟨.plain, .plain, 1, 1, .fromZero, none, "", 0, false, 0, "", "", none, [(1, some 1)]⟩,
    .ends, 0, none, false, false, false⟩

def take (options : NumberOptions) (letter : Char) (value : String) : Work NumberOptions := do
  let rules := options.rules
  let set (rules : NumberStyleRules) : NumberOptions := { options with rules }
  let named (name : String) (choices : List String) : Work String :=
    choice ("--" ++ name) value (choices.map fun text => [text])
  match letter with
  | 'f' => return set { rules with
      source := .ofName (← named "from" ["none", "auto", "si", "iec", "iec-i"]) }
  | 't' => return set { rules with
      target := .ofName (← named "to" ["none", "si", "iec", "iec-i"]) }
  | 'U' => return set { rules with sourceUnit := ← unitOf value }
  | 'u' => return set { rules with targetUnit := ← unitOf value }
  | 'r' => return set { rules with
      rounding := .ofName (← named "round" ["up", "down", "from-zero", "towards-zero", "nearest"]) }
  | 'G' => return { options with isGrouped := true }
  | 'p' =>
    match integer? value with
    | some width =>
      if width = 0 then Work.fail ("invalid padding value " ++ quoted value)
      return set { rules with width := width.natAbs, isLeft := width < 0 }
    | none => Work.fail ("invalid padding value " ++ quoted value)
  | 'F' =>
    if value = "-" then return set { rules with fields := [(1, none)] }
    match readPositions fieldWords .fresh [] value.toList with
    | .ok fields => return set { rules with fields }
    | .error message => Work.misuse message
  | 'd' =>
    match value.toList with
    | [] => return set { rules with mark := some '\x00' }
    | [c] => return set { rules with mark := some c }
    | _ => Work.fail "the delimiter must be a single character"
  | 's' => return set { rules with ending := value }
  | 'D' => return { options with tells := true }
  | 'H' =>
    if value.isEmpty then return { options with header := 1 }
    match natural? value.toList with
    | some 0 => Work.fail ("invalid header value " ++ quoted value)
    | some n => return { options with header := n }
    | none => Work.fail ("invalid header value " ++ quoted value)
  | 'O' => return { options with format := some value }
  | 'I' =>
    let name ← named "invalid" ["abort", "fail", "warn", "ignore"]
    return { options with manner := match name with
      | "fail" => .fails
      | "warn" => .warns
      | "ignore" => .passes
      | _ => .ends }
  | 'z' => return { options with endsInZero := true }
  | _ => return options

end NumberOptions

def numfmt : Utility := fun words => do
  let base := numberRules
  let (given, operands, mistake) :=
    { base with valued := base.valued ++ "FOfUIprstu".toList }.readFrom (words.length + 1) [] []
      words
  let mut options := NumberOptions.usual
  for (letter, value) in given.reverse do
    options ← options.take letter value
  match mistake with
  | some text => Work.misuse text
  | none => pure ()
  if options.format.isSome && options.isGrouped then
    Work.fail "--grouping cannot be combined with --format"
  let plain := options.rules
  if options.tells && plain.source = .plain && plain.target = .plain && !options.isGrouped &&
      plain.width = 0 && options.format.isNone then
    Work.warn "no conversion option specified"
  let rules : NumberStyleRules ← match options.format with
    | some text => match withFormat plain text with
      | .ok rules => pure rules
      | .error message => Work.fail message
    | none => pure plain
  if options.isGrouped && rules.target ≠ .plain then
    Work.fail "grouping cannot be combined with --to"
  let mark := if options.endsInZero then '\x00' else '\n'
  let mut isSound := true
  if operands.isEmpty then
    match ← Work.readOperand "-" with
    | .error fault => Work.fail ("error reading input: " ++ fault.text)
    | .ok data =>
      for (line, place) in (linesOfData mark.toNat.toUInt8 data).zipIdx do
        if place < options.header then Work.putChars line.content
        else
          let isFine ← putNumbers rules options.manner line.content
          isSound := isSound && isFine
        if line.isEnded then Work.putChars [mark]
  else
    for operand in operands.reverse do
      let isFine ← putNumbers rules options.manner operand.toList
      isSound := isSound && isFine
      Work.putChars [mark]
  if !isSound && options.manner = .fails then Work.setStatus 2

end Conformance.Tool
