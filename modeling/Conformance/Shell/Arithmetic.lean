import Conformance.Shell.Integer
import Conformance.Shell.Session

/-!
# Arithmetic of scripts

Expressions are evaluated as they are read.  Names stand for the numbers their values
denote, and assignments change them; in parts that do not count, nothing is changed.
-/

namespace Conformance.Shell

inductive MathToken where
  | number (value : Int)
  | name (text : String)
  | symbol (text : String)
  | bad
  | finish
deriving DecidableEq, Repr, Inhabited

def mathSymbols : List String :=
  ["<<=", ">>=", "&&", "||", "==", "!=", "<=", ">=", "<<", ">>", "+=", "-=", "*=", "/=", "%=",
    "&=", "|=", "^=", "+", "-", "*", "/", "%", "(", ")", "<", ">", "=", "!", "~", "&", "|", "^",
    "?", ":"]

structure MathState where
  rest : List Char
  /-- The whole expression, for messages. -/
  whole : String
  last : MathToken
  session : Session

/-- An evaluation, which fails with a message. -/
abbrev Math := StateT MathState (Except String)

/-- How tightly a binary operator binds; smaller is tighter. -/
def bindingOf? (symbol : String) : Option Nat :=
  match symbol with
  | "*" | "/" | "%" => some 0
  | "+" | "-" => some 1
  | "<<" | ">>" => some 2
  | "<" | "<=" | ">" | ">=" => some 3
  | "==" | "!=" => some 4
  | "&" => some 5
  | "^" => some 6
  | "|" => some 7
  | _ => none

def looseBinding : Nat := 8

def truth (b : Bool) : Int := if b then 1 else 0

/-- The value of a binary operation; nothing for a division by zero. -/
def applyBinary (symbol : String) (a b : Int) : Option Int :=
  match symbol with
  | "*" => some (wrap64 (a * b))
  | "/" => if b = 0 then none else some (wrap64 (a.tdiv b))
  | "%" => if b = 0 then none else some (wrap64 (a.tmod b))
  | "+" => some (wrap64 (a + b))
  | "-" => some (wrap64 (a - b))
  | "<<" => some (wrap64 (a * Int.ofNat (Nat.pow 2 (b % 64).toNat)))
  | ">>" => some (a.fdiv (Int.ofNat (Nat.pow 2 (b % 64).toNat)))
  | "<" => some (truth (a < b))
  | "<=" => some (truth (a ≤ b))
  | ">" => some (truth (a > b))
  | ">=" => some (truth (a ≥ b))
  | "==" => some (truth (a = b))
  | "!=" => some (truth (a ≠ b))
  | "&" => some (BitVec.toInt (BitVec.ofInt 64 a &&& BitVec.ofInt 64 b))
  | "^" => some (BitVec.toInt (BitVec.ofInt 64 a ^^^ BitVec.ofInt 64 b))
  | "|" => some (BitVec.toInt (BitVec.ofInt 64 a ||| BitVec.ofInt 64 b))
  | _ => none

namespace Math

def fail {α : Type} (reason : String) : Math α := do
  throw ("arithmetic expression: " ++ reason ++ ": \"" ++ (← get).whole ++ "\"")

def token : Math MathToken := do
  let state ← get
  let text := state.rest.dropWhile fun c => c = ' ' || c = '\t' || c = '\n'
  match text with
  | [] =>
    set { state with rest := [] }
    return .finish
  | c :: rest =>
    if c.isDigit then
      let read := integerAt none text
      set { state with rest := read.rest }
      return .number read.value
    else if isNameStart c then
      set { state with rest := text.dropWhile isNameChar }
      return .name (String.ofList (text.takeWhile isNameChar))
    else
      match mathSymbols.find? fun symbol => symbol.toList.isPrefixOf text with
      | some symbol =>
        set { state with rest := text.drop symbol.length }
        return .symbol symbol
      | none =>
        set { state with rest }
        return .bad

def setLast (token : MathToken) : Math Unit := modify fun state => { state with last := token }

def numberOf (name : String) : Math Int := do
  let text := ((← get).session.text? name).getD ""
  match variableNumber? text with
  | some value => return value
  | none => throw ("Illegal number: " ++ text)

def apply (symbol : String) (a b : Int) : Math Int :=
  match applyBinary symbol a b with
  | some value => return value
  | none => fail "division by zero"

def assign (name : String) (value : Int) : Math Int := do
  let state ← get
  if ((state.session.lookup? name).map (·.isFixed)).getD false then
    throw (name ++ ": is read only")
  set { state with session := state.session.assign name (toString value) }
  return value

/-- The operation of an assignment that computes; a plain one has none. -/
def assignmentOf? (token : MathToken) : Option (Option String) :=
  match token with
  | .symbol "=" => some none
  | .symbol text =>
    if ["<<=", ">>=", "+=", "-=", "*=", "/=", "%=", "&=", "|=", "^="].contains text then
      some (some (String.ofList text.toList.dropLast))
    else none
  | _ => none

def binaryOf? (token : MathToken) : Option (String × Nat) :=
  match token with
  | .symbol text => (bindingOf? text).map (text, ·)
  | _ => none

mutual

/-- A value that no binary operator divides.  `following` is the token behind it.
With `idle` set, names are not looked up and nothing is assigned. -/
def primary : (fuel : Nat) → (first following : MathToken) → (idle : Bool) → Math Int
  | 0, _, _, _ => fail "expecting primary"
  | fuel + 1, first, following, idle => do
    match first with
    | .symbol "(" =>
      let value ← assignment fuel following idle
      if (← get).last ≠ .symbol ")" then fail "expecting ')'"
      setLast (← token)
      return value
    | .number value =>
      setLast following
      return value
    | .name name =>
      setLast following
      if idle then return 0 else numberOf name
    | .symbol "+" => primary fuel following (← token) idle
    | .symbol "-" => return wrap64 (-(← primary fuel following (← token) idle))
    | .symbol "!" => return truth ((← primary fuel following (← token) idle) = 0)
    | .symbol "~" => return -(← primary fuel following (← token) idle) - 1
    | _ => fail "expecting primary"

/-- Applies binary operators to a value as long as they bind more tightly than
`binding`. -/
def operations :
    (fuel : Nat) → (a : Int) → (symbol : String) → (binding : Nat) → (idle : Bool) → Math Int
  | 0, a, _, _, _ => return a
  | fuel + 1, a, symbol, binding, idle => do
    let first ← token
    let b ← primary fuel first (← token) idle
    let own := (bindingOf? symbol).getD 0
    let b ← match binaryOf? (← get).last with
      | some (next, tighter) => if tighter < own then operations fuel b next own idle else pure b
      | none => pure b
    let value ← if idle then pure b else apply symbol a b
    match binaryOf? (← get).last with
    | some (next, looser) =>
      if binding ≤ looser then return value else operations fuel value next binding idle
    | none => return value

def binary : (fuel : Nat) → (first following : MathToken) → (idle : Bool) → Math Int
  | 0, _, _, _ => fail "expecting primary"
  | fuel + 1, first, following, idle => do
    let a ← primary fuel first following idle
    match binaryOf? (← get).last with
    | some (symbol, _) => operations fuel a symbol looseBinding idle
    | none => return a

def conjunction : (fuel : Nat) → (first following : MathToken) → (idle : Bool) → Math Int
  | 0, _, _, _ => fail "expecting primary"
  | fuel + 1, first, following, idle => do
    let a ← binary fuel first following idle
    if (← get).last ≠ .symbol "&&" then return a
    else
      let next ← token
      let b ← conjunction fuel next (← token) (idle || a = 0)
      return truth (a ≠ 0 && b ≠ 0)

def disjunction : (fuel : Nat) → (first following : MathToken) → (idle : Bool) → Math Int
  | 0, _, _, _ => fail "expecting primary"
  | fuel + 1, first, following, idle => do
    let a ← conjunction fuel first following idle
    if (← get).last ≠ .symbol "||" then return a
    else
      let next ← token
      let b ← disjunction fuel next (← token) (idle || a ≠ 0)
      return truth (a ≠ 0 || b ≠ 0)

def conditional : (fuel : Nat) → (first following : MathToken) → (idle : Bool) → Math Int
  | 0, _, _, _ => fail "expecting primary"
  | fuel + 1, first, following, idle => do
    let a ← disjunction fuel first following idle
    if (← get).last ≠ .symbol "?" then return a
    else
      let b ← assignment fuel (← token) (idle || a = 0)
      if (← get).last ≠ .symbol ":" then fail "expecting ':'"
      let next ← token
      let c ← conditional fuel next (← token) (idle || a ≠ 0)
      return if a ≠ 0 then b else c

def assignment : (fuel : Nat) → (first : MathToken) → (idle : Bool) → Math Int
  | 0, _, _ => fail "expecting primary"
  | fuel + 1, first, idle => do
    let following ← token
    match first, assignmentOf? following with
    | .name name, some operation =>
      let value ← assignment fuel (← token) idle
      if idle then return value
      else match operation with
        | none => assign name value
        | some symbol => assign name (← apply symbol (← numberOf name) value)
    | _, _ => conditional fuel first following idle

end

def expression (fuel : Nat) : Math Int := do
  let value ← assignment fuel (← token) false
  if (← get).last ≠ .finish then fail "expecting EOF"
  return value

end Math

/-- The value of an expression and the session afterwards, or what is wrong. -/
def evaluateMath (session : Session) (text : List Char) : Except String (Int × Session) :=
  let start : MathState := ⟨text, String.ofList text, .finish, session⟩
  match (Math.expression (8 * text.length + 16)).run start with
  | .ok (value, state) => .ok (value, state.session)
  | .error message => .error message

end Conformance.Shell
