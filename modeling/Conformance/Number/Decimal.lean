import Conformance.Number.Binary64

/-!
# Decimal text of binary64 numbers

Writing: `shortestDecimal` finds the fewest decimal digits that read back as the
same number, and of those the nearest.  A `NumberStyle` says how such digits are
laid out; `fixedPlaces` rounds the exact value to a fixed number of places.

Reading: `Binary64.ofText` accepts a sign, digits with an optional point, an
optional exponent, and the names of infinity and of the undefined number.
-/

namespace Conformance

/-- Decimal digits `digits`, scaled by a power of ten. -/
structure Decimal where
  digits : Nat
  exponent : Int
deriving DecidableEq, Repr

/-- Decimal digits of a natural number, most significant first. -/
def decimalDigits (n : Nat) : List Char := Nat.toDigits 10 n

/-- Compares `d * 10 ^ p` with `x` quarter units. -/
def scaleToGrid (p : Int) (d x : Nat) : Nat × Nat :=
  if 0 ≤ p then (d * Nat.pow 10 p.toNat * (4 * Binary64.unitsPerOne), x)
  else (d * (4 * Binary64.unitsPerOne), x * Nat.pow 10 (-p).toNat)

/-- The quarter units that round to `units`: lower end, upper end, and whether
the ends belong to the interval. -/
structure RoundingInterval where
  lower : Nat
  upper : Nat
  closed : Bool

def roundingInterval (units : Nat) : RoundingInterval :=
  let shift := units.log2 - 52
  let gap := Nat.pow 2 shift
  let below := if 0 < shift && units = Nat.pow 2 (shift + 52) then gap else 2 * gap
  { lower := 4 * units - below
    upper := 4 * units + 2 * gap
    closed := units / gap % 2 = 0 }

/-- Whether `d * 10 ^ p` rounds to the number the interval belongs to. -/
def RoundingInterval.contains (r : RoundingInterval) (p : Int) (d : Nat) : Bool :=
  let (low, l) := scaleToGrid p d r.lower
  let (high, u) := scaleToGrid p d r.upper
  if r.closed then l ≤ low && high ≤ u else l < low && high < u

/-- The decimal exponent of the first digit of a number below one: the least
`k` such that `units * 10 ^ k` reaches one, counted down from `start`. -/
def leadingZeros (units : Nat) : Nat → Nat → Nat
  | 0, k => k
  | fuel + 1, k =>
    if Binary64.unitsPerOne ≤ units * Nat.pow 10 k then k else leadingZeros units fuel (k + 1)

/-- The decimal exponent of the first digit. -/
def leadingExponent (units : Nat) : Int :=
  if Binary64.unitsPerOne ≤ units then
    ((decimalDigits (units / Binary64.unitsPerOne)).length : Int) - 1
  else -(leadingZeros units 330 1 : Int)

/-- The nearest point of the grid `10 ^ p` that rounds to the number, if the
value's neighbours on that grid do. -/
def gridPoint? (units : Nat) (r : RoundingInterval) (p : Int) : Option Nat :=
  let (grid, value) := scaleToGrid p 1 (4 * units)
  let below := value / grid
  let remainder := value % grid
  match r.contains p below, r.contains p (below + 1) with
  | true, true =>
    if 2 * remainder < grid then some below
    else if grid < 2 * remainder then some (below + 1)
    else some (below + below % 2)
  | true, false => some below
  | false, true => some (below + 1)
  | false, false => none

/-- Tries grids with one digit more each time. -/
def shortestFrom (units : Nat) (r : RoundingInterval) (lead : Int) : Nat → Nat → Decimal
  | 0, count =>
    let p := lead - count + 1
    let (grid, value) := scaleToGrid p 1 (4 * units)
    ⟨value / grid, p⟩
  | fuel + 1, count =>
    let p := lead - count + 1
    match gridPoint? units r p with
    | some d => ⟨d, p⟩
    | none => shortestFrom units r lead fuel (count + 1)

/-- Moves trailing zeros of the digits into the exponent. -/
def stripZeros : Nat → Decimal → Decimal
  | 0, d => d
  | fuel + 1, d =>
    if d.digits ≠ 0 ∧ d.digits % 10 = 0 then stripZeros fuel ⟨d.digits / 10, d.exponent + 1⟩
    else d

/-- The fewest digits that read back as `units`, and of those the nearest. -/
def shortestDecimal (units : Nat) : Decimal :=
  if units = 0 then ⟨0, 0⟩
  else stripZeros 20 (shortestFrom units (roundingInterval units) (leadingExponent units) 17 1)

/-- How the shortest digits of a number are laid out. -/
structure NumberStyle where
  /-- Decimal exponents of the first digit that are written without an exponent. -/
  positional : Int → Bool
  /-- What follows the digits of a positional number without a point. -/
  wholeSuffix : String
  nanText : String
  infinityText : String

/-- Digits with the decimal point at its place. -/
def positionalText (style : NumberStyle) (d : Decimal) : String :=
  let digits := decimalDigits d.digits
  if 0 ≤ d.exponent then
    String.ofList (digits ++ List.replicate d.exponent.toNat '0') ++ style.wholeSuffix
  else
    let places := (-d.exponent).toNat
    if places < digits.length then
      String.ofList (digits.take (digits.length - places) ++ '.' ::
        digits.drop (digits.length - places))
    else
      String.ofList ('0' :: '.' :: (List.replicate (places - digits.length) '0' ++ digits))

/-- One digit, a point before any others, and an exponent. -/
def exponentText (d : Decimal) : String :=
  let digits := decimalDigits d.digits
  let lead := d.exponent + digits.length - 1
  let mantissa := match digits with
    | first :: second :: more => first :: '.' :: second :: more
    | short => short
  String.ofList mantissa ++ "e" ++
    (if lead < 0 then "-" else "") ++ String.ofList (decimalDigits lead.natAbs)

/-- The text of a number in the given style. -/
def NumberStyle.render (style : NumberStyle) : Binary64 → String
  | .nan => style.nanText
  | .infinite negative => (if negative then "-" else "") ++ style.infinityText
  | .finite negative units =>
    let d := shortestDecimal units
    let lead := d.exponent + (decimalDigits d.digits).length - 1
    (if negative then "-" else "") ++
      (if style.positional lead then positionalText style d else exponentText d)

/-- Shortest digits, never an exponent, whole numbers without a point. -/
def NumberStyle.plain : NumberStyle := ⟨fun _ => true, "", "NaN", "inf"⟩

/-- Shortest digits, never an exponent, whole numbers with a point and a zero. -/
def NumberStyle.pointed : NumberStyle := ⟨fun _ => true, ".0", "NaN", "inf"⟩

/-- The spelling of numbers in specification documents: an exponent below
`10 ^ (-5)` and from `10 ^ 16` on. -/
def NumberStyle.document : NumberStyle :=
  ⟨fun lead => -5 ≤ lead && lead < 16, ".0", ".nan", ".inf"⟩

/-- The exact value rounded to `places` decimals, a half going to the even
neighbour. -/
def fixedPlaces (places : Nat) : Binary64 → String
  | .nan => "NaN"
  | .infinite negative => (if negative then "-" else "") ++ "inf"
  | .finite negative units =>
    let scaled := roundHalfEven (units * Nat.pow 10 places) Binary64.unitsPerOne
    let fraction := decimalDigits (scaled % Nat.pow 10 places)
    (if negative then "-" else "") ++
      String.ofList (decimalDigits (scaled / Nat.pow 10 places) ++ '.' ::
        (List.replicate (places - fraction.length) '0' ++ fraction))

/-- The value of digits in a base. -/
def digitsValue (base : Nat) (digits : List Nat) : Nat :=
  digits.foldl (fun value d => value * base + d) 0

/-- The digit a character stands for, letters counting from ten. -/
def digitValue? (c : Char) : Option Nat :=
  if '0' ≤ c ∧ c ≤ '9' then some (c.toNat - '0'.toNat)
  else if 'a' ≤ c ∧ c ≤ 'z' then some (c.toNat - 'a'.toNat + 10)
  else if 'A' ≤ c ∧ c ≤ 'Z' then some (c.toNat - 'A'.toNat + 10)
  else none

/-- A nonempty run of digits of the base, and nothing else. -/
def naturalOfText? (base : Nat) (text : List Char) : Option Nat :=
  if text.isEmpty then none
  else do
    let digits ← text.mapM digitValue?
    if digits.all (· < base) then some (digitsValue base digits) else none

/-- Splits a leading sign off; `true` means minus. -/
def splitSign : List Char → Bool × List Char
  | '+' :: rest => (false, rest)
  | '-' :: rest => (true, rest)
  | text => (false, text)

/-- The exponent part of a decimal number, `0` if there is none. -/
def exponentOfText? : List Char → Option Int
  | [] => some 0
  | c :: rest =>
    if c = 'e' ∨ c = 'E' then
      let (negative, digits) := splitSign rest
      (naturalOfText? 10 digits).map fun n => if negative then -(n : Int) else n
    else none

/-- The number nearest to `digits * 10 ^ exponent`.  Exponents that leave the
range of the format for any digits are decided without the power. -/
def Binary64.ofDecimal (negative : Bool) (digits : Nat) (exponent : Int) : Binary64 :=
  let size : Int := (decimalDigits digits).length
  if digits = 0 then .finite negative 0
  else if 400 < exponent + size then .infinite negative
  else if exponent + size < -400 then .finite negative 0
  else if 0 ≤ exponent then ofRatio negative (digits * Nat.pow 10 exponent.toNat) 1
  else ofRatio negative digits (Nat.pow 10 (-exponent).toNat)

/-- Reads an unsigned decimal number with optional point and exponent. -/
def decimalOfText? (negative : Bool) (text : List Char) : Option Binary64 :=
  let whole := text.takeWhile Char.isDigit
  let rest := text.dropWhile Char.isDigit
  let (fraction, rest) := match rest with
    | '.' :: more => (more.takeWhile Char.isDigit, more.dropWhile Char.isDigit)
    | _ => ([], rest)
  if whole.isEmpty && fraction.isEmpty then none
  else do
    let exponent ← exponentOfText? rest
    let digits ← naturalOfText? 10 (whole ++ fraction)
    some (Binary64.ofDecimal negative digits (exponent - fraction.length))

/-- Reads a number: a sign, then digits or one of the names `inf`, `infinity`
and `nan` in any case. -/
def Binary64.ofText? (text : String) : Option Binary64 :=
  let (negative, body) := splitSign text.toList
  let name := String.ofList (body.map Char.toLower)
  if name = "inf" ∨ name = "infinity" then some (.infinite negative)
  else if name = "nan" then some .nan
  else decimalOfText? negative body

end Conformance
