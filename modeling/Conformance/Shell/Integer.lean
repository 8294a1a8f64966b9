import Conformance.Number.Decimal

/-!
# Whole numbers of scripts

Scripts compute with whole numbers of 64 bits that wrap around.  Numbers are written
in decimal, octal or hexadecimal digits; one that is too large stands for the largest.
-/

namespace Conformance.Shell

def wrap64 (n : Int) : Int := n.bmod (Nat.pow 2 64)

def greatest : Int := Int.ofNat (Nat.pow 2 63 - 1)

def least : Int := -Int.ofNat (Nat.pow 2 63)

def digitIn? (radix : Nat) (c : Char) : Option Nat :=
  let value :=
    if c.isDigit then c.toNat - '0'.toNat
    else if 'a' ≤ c && c ≤ 'z' then c.toNat - 'a'.toNat + 10
    else if 'A' ≤ c && c ≤ 'Z' then c.toNat - 'A'.toNat + 10
    else 36
  if value < radix then some value else none

def digitsAt (radix : Nat) (text : List Char) : Option Nat × List Char :=
  let digits := text.takeWhile fun c => (digitIn? radix c).isSome
  if digits.isEmpty then (none, text)
  else (some (digits.foldl (fun n c => n * radix + (digitIn? radix c).getD 0) 0),
    text.drop digits.length)

def isSpaceChar (c : Char) : Bool := c = ' ' || ('\t' ≤ c && c ≤ '\r')

/-- What was read of a number. -/
structure IntegerAt where
  value : Int
  rest : List Char
  /-- Whether there were any digits. -/
  isFound : Bool
  /-- Whether the number was too large. -/
  isClamped : Bool

/-- A number at the start of a text, behind blanks and a sign.  Without a radix, its
digits tell. -/
def integerAt (radix : Option Nat) (text : List Char) : IntegerAt :=
  let behind := text.dropWhile isSpaceChar
  let (negative, body) := match behind with
    | '-' :: rest => (true, rest)
    | '+' :: rest => (false, rest)
    | _ => (false, behind)
  let (value, rest) := match radix, body with
    | none, '0' :: 'x' :: more =>
      match digitsAt 16 more with
      | (some value, rest) => (some value, rest)
      | (none, _) => (some 0, 'x' :: more)
    | none, '0' :: 'X' :: more =>
      match digitsAt 16 more with
      | (some value, rest) => (some value, rest)
      | (none, _) => (some 0, 'X' :: more)
    | none, '0' :: _ => digitsAt 8 body
    | none, _ => digitsAt 10 body
    | some radix, _ => digitsAt radix body
  match value with
  | none => ⟨0, text, false, false⟩
  | some magnitude =>
    let number := if negative then -Int.ofNat magnitude else Int.ofNat magnitude
    if number < least then ⟨least, rest, true, true⟩
    else if greatest < number then ⟨greatest, rest, true, true⟩
    else ⟨number, rest, true, false⟩

/-- The number that a whole text denotes, with blanks around it. -/
def integer? (text : String) : Option Int :=
  let read := integerAt (some 10) text.toList
  if read.isFound && !read.isClamped && read.rest.all isSpaceChar then some read.value else none

/-- The number that a variable stands for in an expression: none is zero. -/
def variableNumber? (text : String) : Option Int :=
  let read := integerAt none text.toList
  if read.isClamped then none
  else if read.isFound then if read.rest.all isSpaceChar then some read.value else none
  else if text.toList.all isSpaceChar then some 0
  else none

/-- A number without a sign that a shell takes as a count or a status. -/
def count? (text : String) : Option Nat :=
  match integer? text with
  | some n => if 0 ≤ n && n ≤ Int.ofNat (Nat.pow 2 31 - 1) then some n.toNat else none
  | none => none

end Conformance.Shell
