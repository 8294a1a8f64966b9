import Conformance.Shell.Numeral

/-!
# Layout of values

How a number or a text is laid out in a field: its width and precision, its sign and
what fills the field.
-/

namespace Conformance.Shell

/-- How a value is laid out. -/
structure Layout where
  leftAligned : Bool
  zeroPadded : Bool
  signed : Bool
  spaced : Bool
  alternate : Bool
  width : Nat
  precision : Option Nat

namespace Layout

def pad (layout : Layout) (content : List Char) : List Char :=
  let missing := layout.width - content.length
  if layout.leftAligned then content ++ List.replicate missing ' '
  else List.replicate missing ' ' ++ content

def sign (layout : Layout) (negative : Bool) : List Char :=
  if negative then ['-'] else if layout.signed then ['+'] else if layout.spaced then [' '] else []

def filled (layout : Layout) (zeros : Bool) (front digits : List Char) : List Char :=
  let missing := if zeros && !layout.leftAligned then layout.width - front.length - digits.length
    else 0
  layout.pad (front ++ List.replicate missing '0' ++ digits)

/-- A whole number with at least as many digits as the precision says. -/
def whole (layout : Layout) (front digits : List Char) : List Char :=
  match layout.precision with
  | some places =>
    let shown := if places = 0 && digits = ['0'] then [] else digits
    layout.filled false front (List.replicate (places - shown.length) '0' ++ shown)
  | none => layout.filled layout.zeroPadded front digits

def integer (layout : Layout) (value : Int) : List Char :=
  layout.whole (layout.sign (value < 0)) (Nat.toDigits 10 value.natAbs)

/-- A number without a sign, in the radix of a letter. -/
def unsigned (layout : Layout) (letter : Char) (value : Nat) : List Char :=
  let digits := Nat.toDigits (match letter with
    | 'x' => 16
    | 'X' => 16
    | 'o' => 8
    | _ => 10) value
  let shown := if letter = 'X' then digits.map Char.toUpper else digits
  let front := if layout.alternate && value ≠ 0 then
      match letter with
      | 'x' => ['0', 'x']
      | 'X' => ['0', 'X']
      | _ => []
    else []
  if layout.alternate && letter = 'o' && value ≠ 0 then layout.whole [] ('0' :: shown)
  else layout.whole front shown

def float (layout : Layout) (letter : Char) (value : Binary64) : List Char :=
  let (negative, text) := floatText letter layout.alternate (layout.precision.getD 6) value
  let isNumber := match value with
    | .finite _ _ => true
    | _ => false
  layout.filled (layout.zeroPadded && isNumber) (layout.sign negative) text

def text (layout : Layout) (content : List Char) : List Char :=
  layout.pad (match layout.precision with
    | some places => content.take places
    | none => content)

end Layout

def isLayoutFlag (c : Char) : Bool := c = '-' || c = '+' || c = ' ' || c = '0' || c = '#'

/-- The layout with some flags, a width and a precision; a negative width aligns to the
left, a negative precision is none. -/
def layoutOf (flags : List Char) (width : Int) (precision : Option Int) : Layout :=
  { leftAligned := flags.contains '-' || width < 0
    zeroPadded := flags.contains '0'
    signed := flags.contains '+'
    spaced := flags.contains ' '
    alternate := flags.contains '#'
    width := width.natAbs
    precision := precision.bind fun n => if n < 0 then none else some n.toNat }

end Conformance.Shell
