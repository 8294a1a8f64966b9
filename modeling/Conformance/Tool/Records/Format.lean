import Conformance.Shell.Escape
import Conformance.Tool.Records.Value

/-!
# Values in formats

What the conversions of a format make of values.  A conversion needs a value, and the
letter that ends it must be known.
-/

namespace Conformance.Tool.Records

open Shell

/-- Why a format is broken off. -/
inductive FormatFault where
  | missing
  /-- A conversion that is not known, by its place. -/
  | improper (place : Nat)

def FormatFault.message : FormatFault → String
  | .missing => "not enough arguments passed to "
  | .improper place => "improper conversion(number " ++ toString place ++ ") in "

/-- A width or precision: digits, or an asterisk that stands for the next value. -/
def fieldNumber (text : List Char) (values : List Value) :
    Except FormatFault (Option Int × List Char × List Value) :=
  match text with
  | '*' :: rest =>
    match values with
    | value :: others => .ok (some (integerOf value.toNumber), rest, others)
    | [] => .error .missing
  | _ =>
    let digits := text.takeWhile Char.isDigit
    .ok ((digitsAt 10 digits).1.map Int.ofNat, text.drop digits.length, values)

def characterOf : Value → Char
  | .unset => '\x00'
  | .text content => content.headD '\x00'
  | .outside content =>
    match wholeNumber? content with
    | some value => ofNumber value
    | none => content.headD '\x00'
  | .number value => ofNumber value
  | .noNumber => '\x00'
where
  /-- The character with a code, of which only the last byte counts. -/
  ofNumber (value : Float) : Char := byteChar ((integerOf value).emod 256).toNat

/-- One conversion behind its mark: its text, what follows it and the values left. -/
def conversion (format : List Char) (place : Nat) (text : List Char) (values : List Value) :
    Except FormatFault (List Char × List Char × List Value) := do
  let flags := text.takeWhile isLayoutFlag
  let (width, behind, values) ← fieldNumber (text.drop flags.length) values
  let (precision, behind, values) ← match behind with
    | '.' :: more => do
      let (found, rest, values) ← fieldNumber more values
      pure (some (found.getD 0), rest, values)
    | _ => pure (none, behind, values)
  let layout := layoutOf flags (width.getD 0) precision
  match values with
  | [] => .error .missing
  | value :: others =>
    match behind.dropWhile fun c => c = 'h' || c = 'l' with
    | [] => .error (.improper place)
    | letter :: rest =>
      let put (shown : List Char) : Except FormatFault (List Char × List Char × List Value) :=
        .ok (shown, rest, others)
      if letter = 'c' then put (layout.pad [characterOf value])
      else if letter = 's' then put (layout.text (value.toText format))
      else if letter = 'd' || letter = 'i' then put (layout.integer (integerOf value.toNumber))
      else if ['u', 'x', 'X', 'o'].contains letter then
        put (layout.unsigned letter (naturalOf value.toNumber))
      else if ['e', 'E', 'f', 'g', 'G'].contains letter then
        put (laidOut layout letter value.toNumber)
      else .error (.improper place)

/-- What a format makes of values, as far as it gets, in reverse pieces; `fuel` bounds
the length of the format. -/
def formatFrom (format : List Char) : (fuel : Nat) → (place : Nat) → List (List Char) →
    List Char → List Value → List (List Char) × Option FormatFault
  | 0, _, done, _, _ => (done, none)
  | _ + 1, _, done, [], _ => (done, none)
  | fuel + 1, place, done, '%' :: '%' :: rest, values =>
    formatFrom format fuel place (['%'] :: done) rest values
  | fuel + 1, place, done, '%' :: rest, values =>
    match conversion format place rest values with
    | .error fault => (done, some fault)
    | .ok (shown, after, others) =>
      formatFrom format fuel (place + 1) (shown :: done) after others
  | fuel + 1, place, done, c :: rest, values =>
    formatFrom format fuel place ([c] :: done) rest values

/-- What a format makes of values, and why it is broken off; `format` is for numbers
that become texts. -/
def formatValues (format : List Char) (pattern : List Char) (values : List Value) :
    List Char × Option FormatFault :=
  let (pieces, fault) := formatFrom format (pattern.length + 1) 1 [] pattern values
  (pieces.reverse.flatten, fault)

end Conformance.Tool.Records
