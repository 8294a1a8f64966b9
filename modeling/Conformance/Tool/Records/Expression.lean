import Conformance.Shell.Escape
import Conformance.Shell.Regex

/-!
# Regular expressions in scripts for records

Every sign works without a backslash, and both edges count wherever they stand.
Bounds of repetitions are not known: braces stand for themselves.
-/

namespace Conformance.Tool.Records

open Shell

/-- What is wrong with an expression. -/
inductive ExpressionFault where
  | missingOperand
  | openGroup
  | badClass
  | repeatedEdge

def ExpressionFault.message : ExpressionFault → String
  | .missingOperand => "missing operand"
  | .openGroup => "missing ')'"
  | .badClass => "bad class -- [], [^] or ["
  | .repeatedEdge => "syntax error ^* or ^+"

/-- A part of the reading of an expression: it takes characters from the front. -/
abbrev ReadExpression := StateT (List Char) (Except ExpressionFault)

namespace ReadExpression

def escaped : ReadExpression Char := do
  match ← get with
  | [] => return '\\'
  | c :: rest =>
    match letterEscape? c with
    | some shown =>
      set rest
      return shown
    | none =>
      let digits := (c :: rest).take 3 |>.takeWhile isOctal
      if digits.isEmpty then
        set rest
        return c
      else
        set ((c :: rest).drop digits.length)
        return byteChar (octalValue digits)

def member : ReadExpression Char := do
  match ← get with
  | [] => throw .badClass
  | '\\' :: rest =>
    set rest
    escaped
  | c :: rest =>
    set rest
    return c

/-- The inside of brackets up to the closing one, which counts as a member in the first
place; `fuel` bounds the members. -/
def members : (fuel : Nat) → (isFirst : Bool) → ReadExpression (List (Char × Char))
  | 0, _ => throw .badClass
  | fuel + 1, isFirst => do
    let text ← get
    match text with
    | '[' :: ':' :: rest =>
      let name := rest.takeWhile (· ≠ ':')
      match rest.drop name.length, CharSet.classRanges? (String.ofList name) with
      | ':' :: ']' :: after, some ranges =>
        set after
        return ranges ++ (← members fuel false)
      | ':' :: ']' :: _, none => throw .badClass
      | _, _ =>
        set (':' :: rest)
        return ('[', '[') :: (← members fuel false)
    | c :: rest =>
      if c = ']' && !isFirst then
        set rest
        return []
      let low ← member
      match ← get with
      | '-' :: d :: more =>
        if d = ']' then return (low, low) :: (← members fuel false)
        set (d :: more)
        let high ← member
        return (low, high) :: (← members fuel false)
      | _ => return (low, low) :: (← members fuel false)
    | [] => throw .badClass

/-- The set between brackets, behind the opening one. -/
def bracket : ReadExpression Regex := do
  let text ← get
  let outside := text.head? = some '^'
  if outside then set (text.drop 1)
  let ranges ← members (text.length + 1) true
  return .one ⟨outside, ranges⟩

def isRepetition (c : Char) : Bool := c = '*' || c = '+' || c = '?'

/-- Repetitions behind an item; `fuel` bounds them. -/
def repetitions : (fuel : Nat) → Regex → ReadExpression Regex
  | 0, item => return item
  | fuel + 1, item => do
    let goOn (rest : List Char) (repeated : Regex) : ReadExpression Regex := do
      if item = .edge .start then throw .repeatedEdge
      set rest
      repetitions fuel repeated
    match ← get with
    | '*' :: rest => goOn rest (.times item 0 none)
    | '+' :: rest => goOn rest (.times item 1 none)
    | '?' :: rest => goOn rest (.times item 0 (some 1))
    | _ => return item

mutual

/-- Alternatives up to the end of the text or of the group. -/
def alternatives : (fuel : Nat) → (depth : Nat) → ReadExpression Regex
  | 0, _ => throw .missingOperand
  | fuel + 1, depth => do
    match ← get with
    | [] => throw .missingOperand
    | c :: _ =>
      if c = '|' || isRepetition c then throw .missingOperand
      let first ← branch fuel depth
      match ← get with
      | '|' :: rest =>
        set rest
        return .either first (← alternatives fuel depth)
      | _ => return first

def branch : (fuel : Nat) → (depth : Nat) → ReadExpression Regex
  | 0, _ => throw .missingOperand
  | fuel + 1, depth => do
    match ← get with
    | [] => return .empty
    | c :: _ =>
      if c = '|' || (c = ')' && 0 < depth) then return .empty
      let first ← item fuel depth
      let whole ← repetitions (fuel + 1) first
      match ← branch fuel depth with
      | .empty => return whole
      | others => return .seq whole others

def item : (fuel : Nat) → (depth : Nat) → ReadExpression Regex
  | 0, _ => throw .missingOperand
  | fuel + 1, depth => do
    match ← get with
    | [] => throw .missingOperand
    | '(' :: ')' :: rest =>
      set rest
      return .empty
    | c :: rest =>
      set rest
      match c with
      | '(' =>
        let body ← alternatives fuel (depth + 1)
        match ← get with
        | ')' :: after =>
          set after
          return body
        | _ => throw .openGroup
      | '.' => return .one .any
      | '^' => return .edge .start
      | '$' => return .edge .stop
      | '[' => bracket
      | '\\' => return .one (.only (← escaped))
      | _ => return .one (.only c)

end

end ReadExpression

def expressionOf (text : List Char) : Except ExpressionFault Regex :=
  if text.isEmpty then .ok .empty
  else match (ReadExpression.alternatives (4 * text.length + 4) 0).run text with
    | .ok (regex, _) => .ok regex
    | .error fault => .error fault

end Conformance.Tool.Records
