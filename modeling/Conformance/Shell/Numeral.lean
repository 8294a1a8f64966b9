import Conformance.Number.Decimal

/-!
# Numerals

Numbers as scripts and their tools read and write them.  A numeral may stand at the
beginning of any text; what is left of the text is handed back.  Writing follows a
letter: `f` for a fixed number of places, `e` for one digit and an exponent, `g` for
whichever of the two is shorter.
-/

namespace Conformance.Shell

/-- An exponent at the start of a text; without digits there is none. -/
def exponentAt (marks : List Char) (text : List Char) : Int × List Char :=
  match text with
  | c :: rest =>
    if marks.contains c then
      let (negative, more) := splitSign rest
      let digits := more.takeWhile Char.isDigit
      match naturalOfText? 10 digits with
      | some n => (if negative then -(n : Int) else n, more.drop digits.length)
      | none => (0, text)
    else (0, text)
  | [] => (0, [])

def decimalAt? (negative : Bool) (text : List Char) : Option (Binary64 × List Char) :=
  let whole := text.takeWhile Char.isDigit
  let rest := text.drop whole.length
  let fraction := match rest with
    | '.' :: more => more.takeWhile Char.isDigit
    | _ => []
  let behind := match rest with
    | '.' :: more => more.drop fraction.length
    | _ => rest
  match naturalOfText? 10 (whole ++ fraction) with
  | none => none
  | some digits =>
    let (exponent, left) := exponentAt ['e', 'E'] behind
    some (.ofDecimal negative digits (exponent - fraction.length), left)

def isHexDigit (c : Char) : Bool := (digitValue? c).any (· < 16)

/-- A hexadecimal numeral at the start of a text, behind its mark. -/
def hexAt? (negative : Bool) (text : List Char) : Option (Binary64 × List Char) :=
  let whole := text.takeWhile isHexDigit
  let rest := text.drop whole.length
  let fraction := match rest with
    | '.' :: more => more.takeWhile isHexDigit
    | _ => []
  let behind := match rest with
    | '.' :: more => more.drop fraction.length
    | _ => rest
  match naturalOfText? 16 (whole ++ fraction) with
  | none => none
  | some digits =>
    let (exponent, left) := exponentAt ['p', 'P'] behind
    let scale := exponent - 4 * fraction.length
    let value := if 2000 < scale then .infinite negative
      else if scale < -3000 then .finite negative 0
      else if 0 ≤ scale then Binary64.ofRatio negative (digits * Nat.pow 2 scale.toNat) 1
      else Binary64.ofRatio negative digits (Nat.pow 2 (-scale).toNat)
    some (value, left)

/-- What follows a word at the start of a text, in any case of letters. -/
def afterWord? (word : String) (text : List Char) : Option (List Char) :=
  if (text.take word.length).map Char.toLower = word.toList then some (text.drop word.length)
  else none

def numeralAt? (text : List Char) : Option (Binary64 × List Char) :=
  let isSpace (c : Char) : Bool := c = ' ' || ('\t' ≤ c && c ≤ '\r')
  let (negative, body) := splitSign (text.dropWhile isSpace)
  match afterWord? "infinity" body <|> afterWord? "inf" body with
  | some rest => some (.infinite negative, rest)
  | none =>
    match afterWord? "nan" body with
    | some rest => some (.nan, rest)
    | none =>
      match afterWord? "0x" body with
      | some rest => hexAt? negative rest <|> decimalAt? negative body
      | none => decimalAt? negative body

/-- One digit and `places` more, and the exponent of the first, for a number of
units. -/
def roundedDigits (places : Nat) (units : Nat) : List Char × Int :=
  if units = 0 then (List.replicate (places + 1) '0', 0)
  else
    let lead := leadingExponent units
    let shift := (places : Int) - lead
    let scaled := if 0 ≤ shift then
        roundHalfEven (units * Nat.pow 10 shift.toNat) Binary64.unitsPerOne
      else roundHalfEven units (Binary64.unitsPerOne * Nat.pow 10 (-shift).toNat)
    let digits := decimalDigits scaled
    if places + 1 < digits.length then (digits.take (places + 1), lead + 1) else (digits, lead)

/-- An exponent with a sign and two digits at least. -/
def exponentPart (exponent : Int) : List Char :=
  let digits := decimalDigits exponent.natAbs
  ['e', if exponent < 0 then '-' else '+'] ++ List.replicate (2 - digits.length) '0' ++ digits

/-- Digits with a point behind the first `whole` of them. -/
def pointed (keepPoint : Bool) (whole : Nat) (digits : List Char) : List Char :=
  if digits.length ≤ whole && !keepPoint then digits
  else digits.take whole ++ '.' :: digits.drop whole

/-- One digit before the point, and an exponent. -/
def scientificText (keepPoint : Bool) (places : Nat) (units : Nat) : List Char :=
  let (digits, exponent) := roundedDigits places units
  pointed keepPoint 1 digits ++ exponentPart exponent

def fixedText (keepPoint : Bool) (places : Nat) (units : Nat) : List Char :=
  let scaled := decimalDigits (roundHalfEven (units * Nat.pow 10 places) Binary64.unitsPerOne)
  let digits := List.replicate (places + 1 - scaled.length) '0' ++ scaled
  pointed keepPoint (digits.length - places) digits

/-- Zeros at the end of a fraction, and a bare point, dropped. -/
def trimFraction (text : List Char) : List Char :=
  if text.contains '.' then
    let short := (text.reverse.dropWhile (· = '0')).reverse
    dropLastPoint short
  else text
where
  /-- Drops a point at the end. -/
  dropLastPoint (text : List Char) : List Char :=
    if text.getLast? = some '.' then text.dropLast else text

/-- So many significant digits, with an exponent if it is below -4 or too large. -/
def generalText (alternate : Bool) (precision : Nat) (units : Nat) : List Char :=
  let count := max precision 1
  let (digits, exponent) := roundedDigits (count - 1) units
  let trim (text : List Char) : List Char := if alternate then text else trimFraction text
  if exponent < -4 || (count : Int) ≤ exponent then
    trim (pointed alternate 1 digits) ++ exponentPart exponent
  else trim (fixedText alternate ((count : Int) - 1 - exponent).toNat units)

/-- The text of a number without its sign, and whether it is negative. -/
def floatText (letter : Char) (alternate : Bool) (precision : Nat) (value : Binary64) :
    Bool × List Char :=
  let cased (text : List Char) : List Char :=
    if letter.isUpper then text.map Char.toUpper else text
  match value with
  | .nan => (false, cased "nan".toList)
  | .infinite negative => (negative, cased "inf".toList)
  | .finite negative units =>
    (negative, cased (match letter.toLower with
      | 'e' => scientificText alternate precision units
      | 'g' => generalText alternate precision units
      | _ => fixedText alternate precision units))

end Conformance.Shell
