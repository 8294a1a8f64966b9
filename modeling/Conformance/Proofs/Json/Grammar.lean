import Mathlib.Tactic

/-!
# The grammar of JSON

What a text of the format stands for.  Blanks may stand around every structural character,
strings may be escaped in several ways and numbers written in several ways, so a value has many
spellings.
-/

namespace Conformance

namespace Json

/-- What a document stands for.  The members of an object are in the order of the text. -/
inductive Value where
  | null
  | bool (value : Bool)
  | number (value : ℚ)
  | string (value : String)
  | array (items : List Value)
  | object (members : List (String × Value))

/-- Every character of the text is of the kind. -/
def AllOf (kind : Char → Bool) (text : List Char) : Prop := ∀ c ∈ text, kind c = true

section

variable {kind : Char → Bool} {first rest : List Char}

@[simp]
theorem allOf_nil : AllOf kind [] := by simp [AllOf]

theorem AllOf.cons {c : Char} (hc : kind c = true) (hrest : AllOf kind rest) :
    AllOf kind (c :: rest) :=
  List.forall_mem_cons.mpr ⟨hc, hrest⟩

theorem AllOf.append (hfirst : AllOf kind first) (hrest : AllOf kind rest) :
    AllOf kind (first ++ rest) :=
  List.forall_mem_append.mpr ⟨hfirst, hrest⟩

end

def isBlank (c : Char) : Bool := c = ' ' || c = '\t' || c = '\n' || c = '\r'

/-! ## Numbers -/

/-- Decimal digits, read as a natural number. -/
def digitsValue (digits : List Char) : Nat := Nat.ofDigitChars 10 digits 0

/-- Digits that do not begin with a zero, or a zero alone. -/
structure IsWhole (text : List Char) : Prop where
  digits : AllOf Char.isDigit text
  nonempty : text ≠ []
  leading : text.head? = some '0' → text = ['0']

/-- Nothing, or a point and digits. -/
inductive IsFraction : List Char → ℚ → Prop where
  | absent : IsFraction [] 0
  | digits {digits : List Char} : AllOf Char.isDigit digits → digits ≠ [] →
      IsFraction ('.' :: digits) (digitsValue digits / 10 ^ digits.length)

/-- What may stand between the mark of an exponent and its digits. -/
inductive IsSign : List Char → Int → Prop where
  | absent : IsSign [] 1
  | plus : IsSign ['+'] 1
  | minus : IsSign ['-'] (-1)

/-- Nothing, or a mark, a sign and digits. -/
inductive IsExponent : List Char → Int → Prop where
  | absent : IsExponent [] 0
  | digits {mark : Char} {sign digits : List Char} {unit : Int} : mark ∈ ['e', 'E'] →
      IsSign sign unit → AllOf Char.isDigit digits → digits ≠ [] →
      IsExponent (mark :: (sign ++ digits)) (unit * digitsValue digits)

inductive IsUnsigned : List Char → ℚ → Prop where
  | parts {whole fraction exponent : List Char} {part : ℚ} {power : Int} : IsWhole whole →
      IsFraction fraction part → IsExponent exponent power →
      IsUnsigned (whole ++ (fraction ++ exponent)) ((digitsValue whole + part) * 10 ^ power)

inductive IsNumber : List Char → ℚ → Prop where
  | positive {text : List Char} {value : ℚ} : IsUnsigned text value → IsNumber text value
  | negative {text : List Char} {value : ℚ} : IsUnsigned text value →
      IsNumber ('-' :: text) (-value)

/-! ## Strings -/

def hexDigit? (c : Char) : Option Nat :=
  if c.isDigit then some (c.toNat - '0'.toNat)
  else if 'a' ≤ c ∧ c ≤ 'f' then some (c.toNat - 'a'.toNat + 10)
  else if 'A' ≤ c ∧ c ≤ 'F' then some (c.toNat - 'A'.toNat + 10)
  else none

/-- Four hexadecimal digits. -/
def unit? : List Char → Option Nat
  | [a, b, c, d] => do
    return (((← hexDigit? a) * 16 + (← hexDigit? b)) * 16 + (← hexDigit? c)) * 16 + (← hexDigit? d)
  | _ => none

/-- The escapes of one character behind a backslash, and what they stand for. -/
def shortEscapes : List (Char × Char) :=
  [('"', '"'), ('\\', '\\'), ('/', '/'), ('b', '\x08'), ('f', '\x0c'), ('n', '\n'), ('r', '\r'),
    ('t', '\t')]

/-- The spellings of a single character.  A character beyond the first `2 ^ 16` may be escaped as
a pair of units, of which neither stands for a character. -/
inductive IsChar : List Char → Char → Prop where
  | plain {c : Char} : 0x20 ≤ c.toNat → c ≠ '"' → c ≠ '\\' → IsChar [c] c
  | short {mark c : Char} : (mark, c) ∈ shortEscapes → IsChar ['\\', mark] c
  | unit {digits : List Char} {c : Char} : unit? digits = some c.toNat →
      IsChar ('\\' :: 'u' :: digits) c
  | pair {first second : List Char} {high low : Nat} {c : Char} : unit? first = some (0xD800 + high) →
      unit? second = some (0xDC00 + low) → high < 0x400 → low < 0x400 →
      c.toNat = 0x10000 + high * 0x400 + low →
      IsChar ('\\' :: 'u' :: (first ++ '\\' :: 'u' :: second)) c

inductive IsBody : List Char → List Char → Prop where
  | nil : IsBody [] []
  | cons {text rest : List Char} {c : Char} {chars : List Char} : IsChar text c →
      IsBody rest chars → IsBody (text ++ rest) (c :: chars)

inductive IsString : List Char → String → Prop where
  | quoted {body : List Char} {value : String} : IsBody body value.toList →
      IsString ('"' :: (body ++ ['"'])) value

/-! ## Documents -/

/-- What stands between the commas of an array or an object. -/
inductive Entry where
  | item (value : Value)
  | member (name : String) (value : Value)

inductive Phrase where
  | value (value : Value)
  | entry (entry : Entry)
  /-- All that stands between two brackets. -/
  | entries (entries : List Entry)

/-- The values that are written as words. -/
inductive IsWord : List Char → Value → Prop where
  | null : IsWord ['n', 'u', 'l', 'l'] .null
  | true : IsWord ['t', 'r', 'u', 'e'] (.bool true)
  | false : IsWord ['f', 'a', 'l', 's', 'e'] (.bool false)

def Entry.ofMember (field : String × Value) : Entry := .member field.1 field.2

/-- The text is a spelling of the phrase. -/
inductive Spells : List Char → Phrase → Prop where
  | word {text : List Char} {value : Value} : IsWord text value → Spells text (.value value)
  | number {text : List Char} {value : ℚ} : IsNumber text value →
      Spells text (.value (.number value))
  | string {text : List Char} {value : String} : IsString text value →
      Spells text (.value (.string value))
  | array {body : List Char} {items : List Value} :
      Spells body (.entries (items.map .item)) →
      Spells ('[' :: (body ++ [']'])) (.value (.array items))
  | object {body : List Char} {members : List (String × Value)} :
      Spells body (.entries (members.map .ofMember)) →
      Spells ('\x7b' :: (body ++ ['\x7d'])) (.value (.object members))
  | item {before text after : List Char} {value : Value} : AllOf isBlank before →
      Spells text (.value value) → AllOf isBlank after →
      Spells (before ++ (text ++ after)) (.entry (.item value))
  | member {before key after text : List Char} {name : String} {value : Value} :
      AllOf isBlank before → IsString key name → AllOf isBlank after →
      Spells text (.entry (.item value)) →
      Spells (before ++ (key ++ (after ++ ':' :: text))) (.entry (.member name value))
  | none {blanks : List Char} : AllOf isBlank blanks → Spells blanks (.entries [])
  | last {text : List Char} {entry : Entry} : Spells text (.entry entry) →
      Spells text (.entries [entry])
  | more {text rest : List Char} {entry next : Entry} {later : List Entry} :
      Spells text (.entry entry) → Spells rest (.entries (next :: later)) →
      Spells (text ++ ',' :: rest) (.entries (entry :: next :: later))

/-- The text is a document with this value: nothing but blanks stands around it. -/
def IsDocument (text : String) (value : Value) : Prop :=
  Spells text.toList (.entry (.item value))

end Json

end Conformance
