import Conformance.Shell.Numeral

/-!
# Floating numbers in bytes

The three layouts of a floating number in memory, and its text with the fewest digits
that read back.  A number is kept exactly, as a whole number times a power of two, so one
rule serves all layouts: a decimal reads back if it lies between the midpoints to the
number's neighbours, or on one of them when the significand is even.
-/

namespace Conformance.Tool

open Shell

/-- A number with a sign: `significand * 2 ^ exponent`, or something beyond numbers. -/
inductive Floating where
  | nan (negative : Bool)
  | infinite (negative : Bool)
  | finite (negative : Bool) (significand : Nat) (exponent : Int)

/-- How a floating number lies in bytes. -/
structure FloatLayout where
  /-- The bits behind the leading one. -/
  fraction : Nat
  /-- The bits of the exponent. -/
  exponent : Nat
  /-- Whether the leading bit is stored too. -/
  isLeadStored : Bool
  /-- The decimal digits that every number keeps. -/
  digits : Nat
  width : Nat

namespace FloatLayout

def ofSize : (size : Nat) → FloatLayout
  | 4 => ⟨23, 8, false, 6, 15⟩
  | 16 => ⟨63, 15, true, 18, 29⟩
  | _ => ⟨52, 11, false, 15, 24⟩

/-- The exponent of the smallest numbers. -/
def least (layout : FloatLayout) : Int :=
  2 - Nat.pow 2 (layout.exponent - 1) - layout.fraction

/-- The number that a pattern of bits stands for. -/
def read (layout : FloatLayout) (bits : Nat) : Floating :=
  let stored := layout.fraction + (if layout.isLeadStored then 1 else 0)
  let whole := bits % Nat.pow 2 stored
  let raised := bits / Nat.pow 2 stored % Nat.pow 2 layout.exponent
  let negative := bits / Nat.pow 2 (stored + layout.exponent) % 2 = 1
  let lead := Nat.pow 2 layout.fraction
  let isWhole := whole / lead = 1
  if raised = Nat.pow 2 layout.exponent - 1 then
    if whole % lead = 0 && (isWhole || !layout.isLeadStored) then .infinite negative
    else .nan negative
  else if raised = 0 then .finite negative whole layout.least
  else if layout.isLeadStored && !isWhole then .nan negative
  else .finite negative (if isWhole then whole else lead + whole) (layout.least + raised - 1)

def ratio (significand : Nat) (exponent : Int) : Nat × Nat :=
  if 0 ≤ exponent then (significand * Nat.pow 2 exponent.toNat, 1)
  else (significand, Nat.pow 2 (-exponent).toNat)

def moved (places : Int) : Nat × Nat → Nat × Nat
  | (num, den) =>
    if 0 ≤ places then (num * Nat.pow 10 places.toNat, den)
    else (num, den * Nat.pow 10 (-places).toNat)

/-- The place of the first digit of a ratio above zero. -/
def leadPlace : Nat × Nat → Int
  | (num, den) =>
    let guess : Int := (decimalDigits num).length - (decimalDigits den).length
    let (num, den) := moved (-guess) (num, den)
    if den ≤ num then guess else guess - 1

/-- Whether a decimal, `whole * 10 ^ place`, reads back as a number. -/
def readsBack (layout : FloatLayout) (significand : Nat) (exponent : Int) (whole : Nat)
    (place : Int) : Bool :=
  let (num, den) := moved place (whole, 1)
  let isFirst := significand = Nat.pow 2 layout.fraction && layout.least < exponent
  let compareTo (quarters : Nat) : Ordering :=
    let (high, low) := ratio quarters (exponent - 2)
    compare (num * low) (high * den)
  let below := compareTo (4 * significand - (if isFirst then 1 else 2))
  let above := compareTo (4 * significand + 2)
  (below = .gt && above = .lt) ||
    (significand % 2 = 0 && (below = .eq || above = .eq))

/-- The text of digits of which the first stands at a place, with an exponent if that is
below -4 or beyond the digits. -/
def layOut (digits : List Char) (place : Int) : List Char :=
  if place < -4 || (digits.length : Int) ≤ place then
    trimFraction (pointed false 1 digits) ++ exponentPart place
  else if place < 0 then
    trimFraction ('0' :: '.' :: List.replicate ((-place).toNat - 1) '0' ++ digits)
  else trimFraction (pointed false (place.toNat + 1) digits)

/-- The text with the fewest digits that reads back, from `count` digits on; `fuel` bounds
the digits added. -/
def shortest (layout : FloatLayout) (significand : Nat) (exponent : Int) :
    (fuel : Nat) → (count : Nat) → List Char
  | fuel, count =>
    let value := ratio significand exponent
    let lead := leadPlace value
    let place := lead - count + 1
    let (num, den) := moved (-place) value
    let whole := roundHalfEven num den
    let digits := decimalDigits whole
    let text := if count < digits.length then layOut (digits.take count) (lead + 1)
      else layOut digits lead
    match fuel with
    | 0 => text
    | fuel + 1 =>
      if layout.readsBack significand exponent whole place then text
      else layout.shortest significand exponent fuel (count + 1)

/-- The text of a pattern of bits.  Numbers below the normal ones may do with one digit. -/
def text (layout : FloatLayout) (bits : Nat) : String :=
  let signed (negative : Bool) (text : List Char) : String :=
    String.ofList (if negative then '-' :: text else text)
  match layout.read bits with
  | .nan negative => signed negative "nan".toList
  | .infinite negative => signed negative "inf".toList
  | .finite negative 0 _ => signed negative ['0']
  | .finite negative significand exponent =>
    let isSmall := significand < Nat.pow 2 layout.fraction
    signed negative (layout.shortest significand exponent (layout.digits + 3)
      (if isSmall then 1 else layout.digits))

end FloatLayout

end Conformance.Tool
