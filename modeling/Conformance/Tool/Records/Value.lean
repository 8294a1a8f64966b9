import Conformance.Shell.Integer
import Conformance.Shell.Layout

/-!
# Values in scripts for records

A value is a number or a text.  Texts that come from outside count as numbers where
they look like one.
-/

namespace Conformance.Tool.Records

open Shell

inductive Value where
  | unset
  | number (value : Float)
  /-- What is no number and has the sign of one. -/
  | noNumber
  | text (content : List Char)
  /-- A text from outside. -/
  | outside (content : List Char)

instance : Inhabited Value := ⟨.unset⟩

/-- The machine number nearest to an exact one. -/
def floatOf (value : Binary64) : Float := Float.ofBits value.toBits.toUInt64

def exactOf (value : Float) : Binary64 := .ofBits value.toBits.toNat

def leadingNumber (text : List Char) : Float :=
  let body := text.dropWhile isSpaceChar
  let digits := body.takeWhile Char.isDigit
  let goesOn := match body.drop digits.length with
    | c :: _ => ".eExX".toList.contains c
    | [] => false
  if !digits.isEmpty && digits.length < 16 && !goesOn then
    Float.ofNat (digits.foldl (fun n c => n * 10 + (c.toNat - '0'.toNat)) 0)
  else match numeralAt? body with
    | some (value, _) => floatOf value
    | none => 0

def wholeNumber? (text : List Char) : Option Float :=
  let body := ((text.dropWhile isSpaceChar).reverse.dropWhile isSpaceChar).reverse
  let starts := body.head?.any fun c => c.isDigit || c = '+' || c = '-' || c = '.'
  let ends := body.getLast?.any fun c => c.isDigit || c = '.'
  if !starts || !ends then none
  else match numeralAt? body with
    | some (.infinite _, _) => none
    | some (value, []) => some (floatOf value)
    | _ => none

/-- The bounds of whole numbers that are shown in full. -/
def wholeLimit : Int := 2147483647

/-- Whole numbers that are put out in full reach further. -/
def shownLimit : Int := 4294967295

/-- The whole number that a number is, if it is not too large. -/
def wholeOf? (most : Int) (value : Float) : Option Int :=
  let n := value.toInt64.toInt
  if -wholeLimit ≤ n && n ≤ most && Float.ofInt n == value then some n else none

/-- A number without its fraction, in 64 bits. -/
def integerOf (value : Float) : Int :=
  if value.isNaN then -greatest else max (-greatest) value.toInt64.toInt

/-- A number without its fraction and sign, in 64 bits. -/
def naturalOf (value : Float) : Nat :=
  if value.isNaN then 0
  else if value < 0 then (integerOf value).emod (Int.ofNat (Nat.pow 2 64)) |>.toNat
  else value.toUInt64.toNat

/-- A number laid out by a letter; what is no number has a sign unless `plain`. -/
def laidOut (layout : Layout) (letter : Char) (value : Float) : List Char :=
  if value.isNaN then
    let shown := "-nan".toList
    layout.pad (if letter.isUpper then shown.map Char.toUpper else shown)
  else layout.float letter (exactOf value)

def formatted (format : List Char) (value : Float) : List Char :=
  let front := format.takeWhile (· ≠ '%')
  match format.drop front.length with
  | '%' :: rest =>
    let flags := rest.takeWhile isLayoutFlag
    let behind := rest.drop flags.length
    let width := behind.takeWhile Char.isDigit
    let behind := behind.drop width.length
    let (precision, behind) : Option Int × List Char := match behind with
      | '.' :: more =>
        let digits := more.takeWhile Char.isDigit
        (some (Int.ofNat (((digitsAt 10 digits).1).getD 0)), more.drop digits.length)
      | _ => (none, behind)
    let layout := layoutOf flags (Int.ofNat (((digitsAt 10 width).1).getD 0)) precision
    match behind with
    | letter :: left =>
      let body := if letter = 'd' || letter = 'i' then layout.integer (integerOf value)
        else laidOut layout letter value
      front ++ body ++ left
    | [] => format
  | _ => format

def numberText (most : Int) (format : List Char) (value : Float) : List Char :=
  match wholeOf? most value with
  | some n => (toString n).toList
  | none => formatted format value

namespace Value

def toNumber : Value → Float
  | .unset => 0
  | .number value => value
  | .noNumber => 0 / 0
  | .text content => leadingNumber content
  | .outside content => leadingNumber content

def toTextWithin (most : Int) (format : List Char) : Value → List Char
  | .unset => []
  | .number value => numberText most format value
  | .noNumber => "nan".toList
  | .text content => content
  | .outside content => content

def toText (format : List Char) : Value → List Char := toTextWithin wholeLimit format

/-- The number that a value counts as in a comparison, if it does. -/
def numeric? : Value → Option Float
  | .unset => some 0
  | .number value => some value
  | .noNumber => some (0 / 0)
  | .text _ => none
  | .outside content => wholeNumber? content

def isTrue : Value → Bool
  | .unset => false
  | .number value => !(value == 0)
  | .noNumber => true
  | .text content => !content.isEmpty
  | .outside content =>
    match wholeNumber? content with
    | some value => !(value == 0)
    | none => !content.isEmpty

def isUnset : Value → Bool
  | .unset => true
  | _ => false

def ofBool (truth : Bool) : Value := .number (if truth then 1 else 0)

def ofNat (n : Nat) : Value := .number (Float.ofNat n)

def ofInt (n : Int) : Value := .number (Float.ofInt n)

def textLess : List Char → List Char → Bool
  | [], [] => false
  | [], _ :: _ => true
  | _ :: _, [] => false
  | a :: first, b :: second => if a = b then textLess first second else a < b

/-- Compares two values, as numbers if both count as such.  What is no number is
neither less nor greater than another one. -/
def compare (format : List Char) (operator : String) (left right : Value) : Bool :=
  let judge (less greater : Bool) : Bool :=
    match operator with
    | "<" => less
    | "<=" => !greater
    | "==" => !less && !greater
    | "!=" => less || greater
    | ">" => greater
    | _ => !less
  match left.numeric?, right.numeric? with
  | some a, some b => judge (a < b) (b < a)
  | _, _ =>
    let a := left.toText format
    let b := right.toText format
    judge (textLess a b) (textLess b a)

end Value

/-- What is left of a division towards zero. -/
def remainder (a b : Float) : Float :=
  match exactOf a, exactOf b with
  | .finite negative n, .finite _ m =>
    if m = 0 then 0 / 0 else floatOf (.finite negative (n % m))
  | .finite _ _, .infinite _ => a
  | _, _ => 0 / 0

def calculate (operator : Char) (a b : Float) : Float :=
  match operator with
  | '+' => a + b
  | '-' => a - b
  | '*' => a * b
  | '/' => a / b
  | '%' => remainder a b
  | _ => Float.pow a b

end Conformance.Tool.Records
