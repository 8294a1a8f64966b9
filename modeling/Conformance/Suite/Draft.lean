import Conformance.Suite
import Conformance.Yaml.Value

/-!
# Group drafts

A draft is a group as it is written: what is missing is missing.  Reading a draft
from a value checks the kinds of the fields, in the order in which they are
written, and nothing else; keys that name no field are passed over.
-/

namespace Conformance

open Yaml (Value Number)

structure CaseDraft where
  arguments : List String
  returnCode : Option Int
  output : Option Path
  fail : Bool
deriving DecidableEq, Repr

structure CompilationDraft where
  files : List Path
  arguments : List String
  fail : Bool
  assembly : Option Path
deriving DecidableEq, Repr

structure RunDraft where
  executable : String
  compilation : Option CompilationDraft
  tests : List CaseDraft
deriving DecidableEq, Repr

structure GroupDraft where
  tags : List String
  description : Option String
  panic : Option Binary64
  runs : Option (List RunDraft)
deriving DecidableEq, Repr

/-- Why a value is no draft. -/
inductive ShapeError where
  | wrongType (found expected : String)
  | outOfRange (value : Int) (expected : String)
  | missingField (name : String)
  | duplicateField (name : String)
  | notScalar (found : String)
  /-- Two keys of a mapping are the same once it is read. -/
  | sameKeys (description : String)
deriving DecidableEq, Repr

def ShapeError.message : ShapeError → String
  | .wrongType found expected => "invalid type: " ++ found ++ ", expected " ++ expected
  | .outOfRange value expected =>
    "invalid value: integer `" ++ toString value ++ "`, expected " ++ expected
  | .missingField name => "missing field `" ++ name ++ "`"
  | .duplicateField name => "duplicate field `" ++ name ++ "`"
  | .notScalar found => "expected a scalar argument, found " ++ found
  | .sameKeys description => description

/-- The kind of a value in a message. -/
def kindText : Value → String
  | .null => "unit value"
  | .bool b => "boolean `" ++ toString b ++ "`"
  | .number (.integer n) => "integer `" ++ toString n ++ "`"
  | .number (.float x) => "floating point `" ++ NumberStyle.pointed.render x ++ "`"
  | .string s => "string " ++ quoted s
  | .sequence _ => "sequence"
  | .mapping _ => "map"
  | .tagged _ _ => "enum"

abbrev Reading (α : Type) := Value → Except ShapeError α

namespace Reading

def refuse {α : Type} (value : Value) (expected : String) : Except ShapeError α :=
  .error (.wrongType (kindText value) expected)

def text (expected : String) : Reading String := fun value =>
  match value.untagged with
  | .string s => .ok s
  | other => refuse other expected

def string : Reading String := text "a string"

def path : Reading Path := fun value => (text "path string" value).map Path.mk

def flag : Reading Bool := fun value =>
  match value.untagged with
  | .bool b => .ok b
  | other => refuse other "a boolean"

def float : Reading Binary64 := fun value =>
  match value.untagged with
  | .number n => .ok n.toBinary64
  | other => refuse other "f64"

/-- An exit code has 32 bits. -/
def exitCode : Reading Int := fun value =>
  match value.untagged with
  | .number (.integer n) =>
    if -Int.ofNat (Nat.pow 2 31) ≤ n ∧ n < Int.ofNat (Nat.pow 2 31) then .ok n
    else .error (.outOfRange n "i32")
  | other => refuse other "i32"

/-- Nothing written counts as nothing there. -/
def optional {α : Type} (reading : Reading α) : Reading (Option α) := fun value =>
  match value with
  | .null => .ok none
  | value => (reading value).map some

def items {α : Type} (reading : Reading α) : Reading (List α) := fun value =>
  match value.untagged with
  | .sequence values => values.mapM reading
  | .null => .ok []
  | other => refuse other "a sequence"

/-- A text, a number or a truth value, as text. -/
def scalar : Reading String := fun value =>
  match value with
  | .string s => .ok s
  | .number n => .ok n.text
  | .bool b => .ok (toString b)
  | other => .error (.notScalar other.describe)

def scalars : Reading (List String) := fun value => do
  let values ← items (fun v => v.reread.mapError fun key => .sameKeys key.duplicateMessage) value
  values.mapM scalar

/-- The entries of a structure; nothing written is a structure without entries. -/
def entries (expected : String) : Reading (List (Value × Value)) := fun value =>
  match value.untagged with
  | .mapping entries => .ok entries
  | .null => .ok []
  | other => refuse other expected

/-- The name of a field. -/
def fieldName : Reading String := text "field identifier"

/-- Fills a field that must not have been filled before. -/
def fill {α : Type} (name : String) (slot : Option α) (reading : Reading α) (value : Value) :
    Except ShapeError (Option α) :=
  match slot with
  | some _ => .error (.duplicateField name)
  | none => (reading value).map some

end Reading

open Reading

/-- Reads the fields of a structure one after another. -/
def readFields {α : Type} (step : α → String → Value → Except ShapeError α) (start : α)
    (entries : List (Value × Value)) : Except ShapeError α :=
  entries.foldlM (fun fields (key, value) => do
    let name ← fieldName key
    step fields name value) start

structure CaseFields where
  arguments : Option (List String) := none
  returnCode : Option (Option Int) := none
  output : Option (Option Path) := none
  fail : Option Bool := none

def CaseDraft.read : Reading CaseDraft := fun value => do
  let fields ← readFields (fun (f : CaseFields) name v =>
    match name with
    | "args" => do .ok { f with arguments := ← fill name f.arguments scalars v }
    | "return" => do .ok { f with returnCode := ← fill name f.returnCode (optional exitCode) v }
    | "output" => do .ok { f with output := ← fill name f.output (optional path) v }
    | "fail" => do .ok { f with fail := ← fill name f.fail flag v }
    | _ => .ok f) {} (← entries "struct RawCase" value)
  .ok ⟨fields.arguments.getD [], fields.returnCode.join, fields.output.join,
    fields.fail.getD false⟩

structure CompilationFields where
  files : Option (List Path) := none
  arguments : Option (List String) := none
  fail : Option Bool := none
  assembly : Option (Option Path) := none

def CompilationDraft.read : Reading CompilationDraft := fun value => do
  let fields ← readFields (fun (f : CompilationFields) name v =>
    match name with
    | "files" => do .ok { f with files := ← fill name f.files (items path) v }
    | "args" => do .ok { f with arguments := ← fill name f.arguments scalars v }
    | "fail" => do .ok { f with fail := ← fill name f.fail flag v }
    | "asm" => do .ok { f with assembly := ← fill name f.assembly (optional path) v }
    | _ => .ok f) {} (← entries "struct RawCompile" value)
  .ok ⟨fields.files.getD [], fields.arguments.getD [], fields.fail.getD false,
    fields.assembly.join⟩

structure RunFields where
  executable : Option String := none
  compilation : Option (Option CompilationDraft) := none
  tests : Option (List CaseDraft) := none

def RunDraft.read : Reading RunDraft := fun value => do
  let fields ← readFields (fun (f : RunFields) name v =>
    match name with
    | "exec" => do .ok { f with executable := ← fill name f.executable string v }
    | "compile" => do
      .ok { f with compilation := ← fill name f.compilation (optional CompilationDraft.read) v }
    | "tests" => do .ok { f with tests := ← fill name f.tests (items CaseDraft.read) v }
    | _ => .ok f) {} (← entries "struct RawRun" value)
  match fields.executable with
  | some executable => .ok ⟨executable, fields.compilation.join, fields.tests.getD []⟩
  | none => .error (.missingField "exec")

structure GroupFields where
  tags : Option (List String) := none
  description : Option (Option String) := none
  panic : Option (Option Binary64) := none
  runs : Option (Option (List RunDraft)) := none

def GroupDraft.read : Reading GroupDraft := fun value => do
  let fields ← readFields (fun (f : GroupFields) name v =>
    match name with
    | "tags" => do .ok { f with tags := ← fill name f.tags scalars v }
    | "desc" => do .ok { f with description := ← fill name f.description (optional string) v }
    | "panic" => do .ok { f with panic := ← fill name f.panic (optional float) v }
    | "runs" => do .ok { f with runs := ← fill name f.runs (optional (items RunDraft.read)) v }
    | _ => .ok f) {} (← entries "struct RawGroup" value)
  .ok ⟨fields.tags.getD [], fields.description.join, fields.panic.join, fields.runs.join⟩

end Conformance
