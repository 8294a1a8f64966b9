import Conformance.Number.Decimal
import Conformance.Text.Quoted

/-!
# Values of documents

Integers, floating-point numbers and texts are different kinds of scalars, also
when they are spelled alike.  Two mappings are the same if they have the same
entries in any order.
-/

namespace Conformance.Yaml

inductive Number where
  | integer (value : Int)
  | float (value : Binary64)
deriving DecidableEq, Repr

namespace Number

def text : Number → String
  | .integer value => toString value
  | .float value => NumberStyle.document.render value

/-- Equality of keys: an undefined number equals itself, an integer never equals
a floating-point number. -/
def same : Number → Number → Bool
  | .integer a, .integer b => a = b
  | .float .nan, .float .nan => true
  | .float a, .float b => Binary64.eq a b
  | _, _ => false

def toBinary64 : Number → Binary64
  | .integer value => .ofInt value
  | .float value => value

end Number

inductive Value where
  | null
  | bool (value : Bool)
  | number (value : Number)
  | string (value : String)
  | sequence (items : List Value)
  | mapping (entries : List (Value × Value))
  | tagged (tag : String) (value : Value)

/-- The name of a tag without a leading `!`, unless there is nothing else: the tag
that is a mark alone is its own name. -/
def bareTag (tag : String) : String :=
  match tag.toList with
  | '!' :: c :: rest => String.ofList (c :: rest)
  | _ => tag

namespace Value

mutual

/-- Equality of keys. -/
def same : Value → Value → Bool
  | .null, .null => true
  | .bool a, .bool b => a = b
  | .number a, .number b => a.same b
  | .string a, .string b => a = b
  | .sequence a, .sequence b => sameItems a b
  | .mapping a, .mapping b => a.length = b.length && entriesWithin a b
  | .tagged s a, .tagged t b => bareTag s = bareTag t && same a b
  | _, _ => false

def sameItems : List Value → List Value → Bool
  | [], [] => true
  | a :: as, b :: bs => same a b && sameItems as bs
  | _, _ => false

/-- Whether every entry of the first mapping is in the second. -/
def entriesWithin : List (Value × Value) → List (Value × Value) → Bool
  | [], _ => true
  | (key, value) :: rest, other =>
    other.any (fun entry => same key entry.1 && same value entry.2) && entriesWithin rest other

end

/-- A value without its tags. -/
def untagged : Value → Value
  | .tagged _ value => untagged value
  | value => value

mutual

/-- A value as messages describe it. -/
def describe : Value → String
  | .null => "Null"
  | .bool b => "Bool(" ++ toString b ++ ")"
  | .number n => "Number(" ++ n.text ++ ")"
  | .string s => "String(" ++ quoted s ++ ")"
  | .sequence items => "Sequence [" ++ String.intercalate ", " (describeItems items) ++ "]"
  | .mapping entries =>
    "Mapping \x7b" ++ String.intercalate ", " (describeEntries entries) ++ "\x7d"
  | .tagged tag value =>
    "TaggedValue \x7b tag: !" ++ bareTag tag ++ ", value: " ++ describe value ++ " \x7d"

def describeItems : List Value → List String
  | [] => []
  | item :: rest => describe item :: describeItems rest

def describeEntries : List (Value × Value) → List String
  | [] => []
  | (key, value) :: rest =>
    (describeKey key ++ ": " ++ describe value) :: describeEntries rest

/-- Keys that are texts, numbers or truth values are shown without their kind. -/
def describeKey : Value → String
  | .bool b => toString b
  | .number n => n.text
  | .string s => quoted s
  | value => describe value

end

/-- What is said of a key that occurs twice. -/
def duplicateMessage : Value → String
  | .null => "duplicate entry with null key"
  | .bool b => "duplicate entry with key `" ++ toString b ++ "`"
  | .number n => "duplicate entry with key " ++ n.text
  | .string s => "duplicate entry with key " ++ quoted s
  | _ => "duplicate entry in YAML map"

mutual

/-- A value as it is read again from another value: every tag loses a mark, which may
make two keys of a mapping the same.  The key that was there first is then the error. -/
def reread : Value → Except Value Value
  | .sequence items => do .ok (.sequence (← rereadItems items))
  | .mapping entries => do .ok (.mapping (← rereadEntries [] entries))
  | .tagged tag value => do .ok (.tagged (bareTag tag) (← reread value))
  | value => .ok value

def rereadItems : List Value → Except Value (List Value)
  | [] => .ok []
  | item :: rest => do
    let first ← reread item
    .ok (first :: (← rereadItems rest))

/-- `found` are the entries read before, the last one in front. -/
def rereadEntries (found : List (Value × Value)) :
    List (Value × Value) → Except Value (List (Value × Value))
  | [] => .ok found.reverse
  | (key, value) :: rest => do
    let again ← reread key
    match found.find? (·.1.same again) with
    | some (earlier, _) => .error earlier
    | none =>
      let content ← reread value
      rereadEntries ((again, content) :: found) rest

end

end Value

end Conformance.Yaml
