/-!
# Binary64 numbers by exact arithmetic

A finite binary64 number is a sign and a natural multiple of `2 ^ (-1074)`, the
smallest positive number of the format.  Measured in that unit every operation
is an operation on natural numbers followed by one rounding, and the order of
numbers is the order of their units.

Main definitions: `nearestUnits` rounds a quotient to the 53 significant bits of
the format, halves going to the even neighbour; `Binary64.add`, `sub`, `mul` and
`div` are the exact results rounded that way; `Binary64.ofBits` and
`Binary64.toBits` read and write the interchange encoding.
-/

namespace Conformance

/-- A binary64 number.  `units` counts multiples of `2 ^ (-1074)`. -/
inductive Binary64 where
  | finite (negative : Bool) (units : Nat)
  | infinite (negative : Bool)
  | nan
deriving DecidableEq, Repr

/-- The quotient `num / den` rounded to a natural number, a half going to the
even neighbour. -/
def roundHalfEven (num den : Nat) : Nat :=
  let quotient := num / den
  let twice := 2 * (num % den)
  if twice < den then quotient
  else if den < twice then quotient + 1
  else quotient + quotient % 2

/-- The number of units nearest to `num / den` units that has at most 53
significant bits. -/
def nearestUnits (num den : Nat) : Nat :=
  let shift := (num / den).log2 - 52
  roundHalfEven num (den * Nat.pow 2 shift) * Nat.pow 2 shift

namespace Binary64

/-- How many units make one. -/
def unitsPerOne : Nat := Nat.pow 2 1074

/-- The first number of units that the format cannot hold: `2 ^ 1024`. -/
def unitsLimit : Nat := Nat.pow 2 2098

/-- The number nearest to `num / den` units, infinite when it is out of range. -/
def ofUnits (negative : Bool) (num den : Nat) : Binary64 :=
  let units := nearestUnits num den
  if units < unitsLimit then .finite negative units else .infinite negative

/-- The number nearest to the fraction `num / den`. -/
def ofRatio (negative : Bool) (num den : Nat) : Binary64 :=
  ofUnits negative (num * unitsPerOne) den

/-- The number nearest to a natural number. -/
def ofNat (n : Nat) : Binary64 := ofRatio false n 1

/-- The number nearest to an integer. -/
def ofInt (n : Int) : Binary64 := ofRatio (n < 0) n.natAbs 1

def zero : Binary64 := .finite false 0

def one : Binary64 := .finite false unitsPerOne

def hundred : Binary64 := .finite false (100 * unitsPerOne)

/-- A signed number of units. -/
def signedUnits (negative : Bool) (units : Nat) : Int :=
  if negative then -(units : Int) else units

def neg : Binary64 → Binary64
  | .finite negative units => .finite (!negative) units
  | .infinite negative => .infinite (!negative)
  | .nan => .nan

/-- A sum that is exactly zero is negative only if both summands are. -/
def add : Binary64 → Binary64 → Binary64
  | .nan, _ => .nan
  | _, .nan => .nan
  | .infinite s, .infinite t => if s = t then .infinite s else .nan
  | .infinite s, .finite _ _ => .infinite s
  | .finite _ _, .infinite t => .infinite t
  | .finite s a, .finite t b =>
    let total := signedUnits s a + signedUnits t b
    if total = 0 then .finite (s && t) 0 else ofUnits (total < 0) total.natAbs 1

def sub (x y : Binary64) : Binary64 := add x (neg y)

def mul : Binary64 → Binary64 → Binary64
  | .nan, _ => .nan
  | _, .nan => .nan
  | .infinite s, .infinite t => .infinite (s != t)
  | .infinite s, .finite t b => if b = 0 then .nan else .infinite (s != t)
  | .finite s a, .infinite t => if a = 0 then .nan else .infinite (s != t)
  | .finite s a, .finite t b => ofUnits (s != t) (a * b) unitsPerOne

def div : Binary64 → Binary64 → Binary64
  | .nan, _ => .nan
  | _, .nan => .nan
  | .infinite _, .infinite _ => .nan
  | .infinite s, .finite t _ => .infinite (s != t)
  | .finite s _, .infinite t => .finite (s != t) 0
  | .finite s a, .finite t b =>
    if b = 0 then
      if a = 0 then .nan else .infinite (s != t)
    else ofUnits (s != t) (a * unitsPerOne) b

/-- Strict order; every comparison with a number that is not one fails. -/
def lt : Binary64 → Binary64 → Bool
  | .nan, _ => false
  | _, .nan => false
  | .infinite s, .infinite t => s && !t
  | .infinite s, .finite _ _ => s
  | .finite _ _, .infinite t => !t
  | .finite s a, .finite t b => signedUnits s a < signedUnits t b

/-- Order; both zeros are equal, and every comparison with a number that is not
one fails. -/
def le : Binary64 → Binary64 → Bool
  | .nan, _ => false
  | _, .nan => false
  | .infinite s, .infinite t => s || !t
  | .infinite s, .finite _ _ => s
  | .finite _ _, .infinite t => !t
  | .finite s a, .finite t b => signedUnits s a ≤ signedUnits t b

/-- Equality of values: the two zeros are equal, `nan` equals nothing. -/
def eq (x y : Binary64) : Bool := le x y && le y x

/-- Whether the number lies between zero and one, both included. -/
def inUnitInterval (x : Binary64) : Bool := le zero x && le x one

/-- Decodes the interchange encoding. -/
def ofBits (bits : Nat) : Binary64 :=
  let negative := bits / Nat.pow 2 63 % 2 = 1
  let exponent := bits / Nat.pow 2 52 % Nat.pow 2 11
  let fraction := bits % Nat.pow 2 52
  if exponent = 2047 then
    if fraction = 0 then .infinite negative else .nan
  else if exponent = 0 then .finite negative fraction
  else .finite negative ((Nat.pow 2 52 + fraction) * Nat.pow 2 (exponent - 1))

/-- Encodes for interchange. -/
def toBits : Binary64 → Nat
  | .finite negative units =>
    let sign := if negative then Nat.pow 2 63 else 0
    if units < Nat.pow 2 52 then sign + units
    else
      let shift := units.log2 - 52
      sign + (shift + 1) * Nat.pow 2 52 + (units / Nat.pow 2 shift - Nat.pow 2 52)
  | .infinite negative => (if negative then Nat.pow 2 63 else 0) + 2047 * Nat.pow 2 52
  | .nan => 2047 * Nat.pow 2 52 + Nat.pow 2 51

end Binary64

end Conformance
