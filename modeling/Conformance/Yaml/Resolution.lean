import Conformance.Text.Utf8
import Conformance.Yaml.Value

/-!
# The kind of a scalar

A plain scalar is empty, a truth value, an integer, a floating-point number or
else a text, by its spelling.  A core tag fixes the kind instead.
-/

namespace Conformance.Yaml

/-- Why a scalar has no value. -/
inductive ScalarProblem where
  /-- An integer beyond the range of values but within twice as many bits. -/
  | wideInteger (value : Int)
  /-- A text that does not spell the kind its tag asks for. -/
  | misspelled (text wanted : String)
deriving DecidableEq, Repr

def ScalarProblem.message : ScalarProblem → String
  | .wideInteger value =>
    "invalid type: integer `" ++ toString value ++ "` as " ++
      (if value < 0 then "i128" else "u128") ++ ", expected any YAML value"
  | .misspelled text wanted =>
    "invalid value: string " ++ quoted text ++ ", expected " ++ wanted

def isNullText (text : String) : Bool :=
  text = "null" || text = "Null" || text = "NULL" || text = "~"

def boolOfText? (text : String) : Option Bool :=
  if text = "true" || text = "True" || text = "TRUE" then some true
  else if text = "false" || text = "False" || text = "FALSE" then some false
  else none

/-- Digits behind a leading zero, which are no number. -/
def isZeroPadded (text : List Char) : Bool :=
  match (splitSign text).2 with
  | '0' :: c :: rest => (c :: rest).all Char.isDigit
  | _ => false

/-- Digits of the base that a two-character mark announces. -/
def markedNatural? (text : List Char) : Option Nat :=
  match text with
  | '0' :: 'x' :: digits => naturalOfText? 16 digits
  | '0' :: 'o' :: digits => naturalOfText? 8 digits
  | '0' :: 'b' :: digits => naturalOfText? 2 digits
  | _ => none

/-- The integer that a text spells, of any size. -/
def integerOfText? (text : List Char) : Option Int :=
  let (negative, digits) := splitSign text
  let sign : Nat → Int := fun n => if negative then -(n : Int) else n
  match markedNatural? digits with
  | some n => some (sign n)
  | none => if isZeroPadded text then none else (naturalOfText? 10 digits).map sign

/-- Integers of the range of values, then those of the wide range, which are
refused, then anything larger, which is no integer. -/
def resolveInteger (text : List Char) : Option (Except ScalarProblem Value) :=
  match integerOfText? text with
  | none => none
  | some n =>
    if -Int.ofNat (Nat.pow 2 63) ≤ n && n < Int.ofNat (Nat.pow 2 64) then
      some (.ok (.number (.integer n)))
    else if -Int.ofNat (Nat.pow 2 127) ≤ n && n < Int.ofNat (Nat.pow 2 128) then
      some (.error (.wideInteger n))
    else none

/-- The floating-point number that a text spells. -/
def floatOfText? (text : List Char) : Option Binary64 :=
  let unsigned := match text with
    | '+' :: rest => rest
    | _ => text
  let name := String.ofList unsigned
  let whole := String.ofList text
  if text.head? = some '+' && (unsigned.head?.any fun c => c = '+' || c = '-') then none
  else if name = ".inf" || name = ".Inf" || name = ".INF" then some (.infinite false)
  else if whole = "-.inf" || whole = "-.Inf" || whole = "-.INF" then some (.infinite true)
  else if whole = ".nan" || whole = ".NaN" || whole = ".NAN" then some .nan
  else
    match Binary64.ofText? name with
    | some (.finite negative units) => some (.finite negative units)
    | _ => none

/-- The value of a plain scalar. -/
def resolvePlain (text : String) : Except ScalarProblem Value :=
  if text.isEmpty || isNullText text then .ok .null
  else
    match boolOfText? text with
    | some b => .ok (.bool b)
    | none =>
      match resolveInteger text.toList with
      | some result => result
      | none =>
        match (if isZeroPadded text.toList then none else floatOfText? text.toList) with
        | some x => .ok (.number (.float x))
        | none => .ok (.string text)

/-- What the core tags begin with. -/
def coreTag (name : String) : Bytes := bytesOfText ("tag:yaml.org,2002:" ++ name)

/-- The value of a scalar with a tag that does not make it a tagged value. -/
def resolveTagged (tag : Bytes) (text : String) : Except ScalarProblem Value :=
  if tag = coreTag "bool" then
    match boolOfText? text with
    | some b => .ok (.bool b)
    | none => .error (.misspelled text "a boolean")
  else if tag = coreTag "int" then
    match resolveInteger text.toList with
    | some result => result
    | none => .error (.misspelled text "an integer")
  else if tag = coreTag "float" then
    match floatOfText? text.toList with
    | some x => .ok (.number (.float x))
    | none => .error (.misspelled text "a float")
  else if tag = coreTag "null" then
    if isNullText text then .ok .null else .error (.misspelled text "null")
  else .ok (.string text)

/-- The value of a scalar. -/
def resolveScalar (tag : Option Bytes) (text : String) (plain : Bool) :
    Except ScalarProblem Value :=
  match tag with
  | some tag => resolveTagged tag text
  | none => if plain then resolvePlain text else .ok (.string text)

/-- Whether a tag is one of the document's own. -/
def isOwnTag (tag : Bytes) : Bool := tag.head? = some 33

/-- The tag of a tagged value: one of the document's own that is a text. -/
def ownTag? (tag : Option Bytes) : Option String := do
  let bytes ← tag
  if isOwnTag bytes then (textOfBytes? bytes).map bareTag else none

end Conformance.Yaml
