import Conformance.Shell.Evaluate
import Conformance.Shell.RegexText
import Conformance.Shell.Test

/-!
# Conditions of the larger language

Conditions between double brackets: words are not cut, patterns are matched, and
numbers may be expressions.
-/

namespace Conformance.Shell

open Machine

namespace Conditional

/-- Runs a test of a single word on its own state. -/
def ofTest (test : Test Bool) : Sh (Except String Bool) :=
  fun s k => test [] fun result _ => k (.ok result) s

/-- A pattern as an expression: quoted characters stand for themselves. -/
def expressionText (glyphs : List Glyph) : List Char :=
  glyphs.flatMap fun (c, quoted) => if quoted && !c.isAlphanum then ['\\', c] else [c]

def keepMatch (text : List Char) (found : Match) (groups : Nat) : Sh Unit := do
  let items := (List.range (groups + 1)).map fun index =>
    (index, String.ofList (found.part text index))
  modify fun session => session.setVariable "BASH_REMATCH"
    { Variable.none with value := some (.indexed items) }

def groupCount (text : List Char) : Nat := text.count '('

def binary (runner : Runner) (operator : String) (left right : Word) : Sh Bool := do
  let text ← Expand.text runner left
  let numbers (compare : Int → Int → Bool) : Sh Bool := do
    let a ← Expand.evaluate text.toList
    let b ← Expand.evaluate (← Expand.text runner right).toList
    return compare a b
  match operator with
  | "=~" =>
    let pattern := expressionText (← Expand.glyphs runner right)
    match RegexStyle.extendedStyle.read? pattern with
    | none =>
      Sh.setStatus 2
      throw .mistake
    | some regex =>
      match regex.find? text.toList 0 with
      | some found =>
        keepMatch text.toList found (groupCount pattern)
        return true
      | none => return false
  | "=" => return fits (← Expand.pattern runner right) text.toList
  | "==" => return fits (← Expand.pattern runner right) text.toList
  | "!=" => return !fits (← Expand.pattern runner right) text.toList
  | "-eq" => numbers (· = ·)
  | "-ne" => numbers (· ≠ ·)
  | "-lt" => numbers (· < ·)
  | "-le" => numbers (· ≤ ·)
  | "-gt" => numbers (· > ·)
  | "-ge" => numbers (· ≥ ·)
  | _ =>
    let other ← Expand.text runner right
    match ← ofTest (Test.binary operator text other) with
    | .ok truth => return truth
    | .error _ => return false

def unary (runner : Runner) (operator : String) (operand : Word) : Sh Bool := do
  let text ← Expand.text runner operand
  match operator with
  | "-v" => return ((← get).text? text).isSome
  | "-o" => return (← get).settings.contains text
  | "-a" => return (← Activity.examine text).toBool
  | _ =>
    match ← ofTest (Test.unary operator text) with
    | .ok truth => return truth
    | .error _ => return false

def holds (runner : Runner) : Condition → Sh Bool
  | .word content => do return !(← Expand.text runner content).isEmpty
  | .unary operator operand => unary runner operator operand
  | .binary operator left right => binary runner operator left right
  | .negate body => do return !(← holds runner body)
  | .both left right => do
    if ← holds runner left then holds runner right else return false
  | .either left right => do
    if ← holds runner left then return true else holds runner right

end Conditional

def conditionStatus : Sh.ConditionEval := fun runner condition => do
  match ← Activity.attempt (Conditional.holds runner condition) with
  | .ok truth => return if truth then 0 else 1
  | .error .mistake => return 2
  | .error other => throw other

end Conformance.Shell
