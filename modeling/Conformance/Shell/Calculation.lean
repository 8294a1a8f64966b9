import Conformance.Shell.Arithmetic

/-!
# Arithmetic of the larger language

Here expressions also have powers, counting up and down, sequences, other radices and
items of arrays, and the value of a variable may itself be an expression.
-/

namespace Conformance.Shell

inductive CalcToken where
  | number (value : Int)
  | name (text : String)
  | symbol (text : String)
  | bad (text : String)
  | finish
deriving DecidableEq, Repr, Inhabited

def calcSymbols : List String :=
  ["<<=", ">>=", "**", "++", "--", "&&", "||", "==", "!=", "<=", ">=", "<<", ">>", "+=", "-=",
    "*=", "/=", "%=", "&=", "|=", "^=", "+", "-", "*", "/", "%", "(", ")", "<", ">", "=", "!",
    "~", "&", "|", "^", "?", ":", ",", "[", "]"]

structure CalcState where
  rest : List Char
  whole : String
  session : Session
  /-- Whether nothing is looked up or assigned. -/
  isIdle : Bool

abbrev Calc := StateT CalcState (Except String)

namespace Calc

def fail {α : Type} (reason : String) (rest : List Char) : Calc α := do
  let whole := (← get).whole
  throw (whole ++ ": " ++ reason ++ " (error token is \"" ++
    String.ofList (rest.dropWhile isSpaceChar) ++ "\")")

/-- The next token and what follows it, without taking it. -/
def peek : Calc (CalcToken × List Char) := do
  let text := (← get).rest.dropWhile isSpaceChar
  match text with
  | [] => return (.finish, [])
  | c :: rest =>
    if c.isDigit then
      let read := integerAt none text
      match read.rest with
      | '#' :: digits =>
        match digitsAt (if 2 ≤ read.value && read.value ≤ 36 then read.value.toNat else 10) digits with
        | (some value, after) => return (.number value, after)
        | (none, after) => return (.number 0, after)
      | after => return (.number read.value, after)
    else if isNameStart c then
      return (.name (String.ofList (text.takeWhile isNameChar)), text.dropWhile isNameChar)
    else match calcSymbols.find? fun symbol => symbol.toList.isPrefixOf text with
      | some symbol => return (.symbol symbol, text.drop symbol.length)
      | none => return (.bad (String.singleton c), rest)

def take : Calc CalcToken := do
  let (token, rest) ← peek
  modify fun state => { state with rest }
  return token

def accept (symbol : String) : Calc Bool := do
  let (token, rest) ← peek
  if token = .symbol symbol then
    modify fun state => { state with rest }
    return true
  else return false

/-- How tightly a binary operator binds; greater is tighter. -/
def bindingOf? (token : CalcToken) : Option Nat :=
  match token with
  | .symbol "**" => some 12
  | .symbol "*" | .symbol "/" | .symbol "%" => some 11
  | .symbol "+" | .symbol "-" => some 10
  | .symbol "<<" | .symbol ">>" => some 9
  | .symbol "<" | .symbol "<=" | .symbol ">" | .symbol ">=" => some 8
  | .symbol "==" | .symbol "!=" => some 7
  | .symbol "&" => some 6
  | .symbol "^" => some 5
  | .symbol "|" => some 4
  | .symbol "&&" => some 3
  | .symbol "||" => some 2
  | _ => none

/-- Something that has a value and can be given one. -/
structure Place where
  name : String
  index : Option Int

def textAt (session : Session) (place : Place) : String :=
  match place.index with
  | none => (session.text? place.name).getD ""
  | some index =>
    match (session.lookup? place.name).bind (·.value) with
    | some (.indexed items) => (items.lookup index.toNat).getD ""
    | some (.keyed items) => (items.lookup (toString index)).getD ""
    | some (.scalar text) => if index = 0 then text else ""
    | none => ""

def assignAt (place : Place) (value : Int) : Calc Unit := do
  let state ← get
  if state.isIdle then return
  let session := state.session
  if ((session.lookup? place.name).map (·.isFixed)).getD false then
    throw (place.name ++ ": readonly variable")
  let changed := match place.index with
    | none => session.assign place.name (toString value)
    | some index =>
      let known := (session.lookup? place.name).getD .none
      let items := match known.value with
        | some (.indexed items) => items
        | some (.scalar text) => [(0, text)]
        | _ => []
      let others := items.filter (·.1 ≠ index.toNat)
      session.setVariable place.name { known with
        value := some (.indexed (((index.toNat, toString value) :: others).mergeSort
          fun a b => a.1 ≤ b.1)) }
  set { state with session := changed }

/-- The operation of an assignment that computes; a plain one has none. -/
def assignmentOf? (token : CalcToken) : Option (Option String) :=
  match token with
  | .symbol "=" => some none
  | .symbol text =>
    if ["<<=", ">>=", "+=", "-=", "*=", "/=", "%=", "&=", "|=", "^="].contains text then
      some (some (String.ofList text.toList.dropLast))
    else none
  | _ => none

/-- A power, computed from the powers of the square. -/
def powerWithin : (fuel : Nat) → Int → Nat → Int
  | 0, _, _ => 1
  | fuel + 1, a, n =>
    if n = 0 then 1
    else
      let half := powerWithin fuel (wrap64 (a * a)) (n / 2)
      if n % 2 = 1 then wrap64 (a * half) else half

/-- A power in 64 bits; an exponent has no more bits than that. -/
def power (a b : Int) : Int := powerWithin 64 a b.toNat

def apply (symbol : String) (a b : Int) (operand : List Char) : Calc Int := do
  if (← get).isIdle then return 0
  match symbol with
  | "**" => if b < 0 then fail "exponent less than 0" operand else return power a b
  | "&&" => return truth (a ≠ 0 && b ≠ 0)
  | "||" => return truth (a ≠ 0 || b ≠ 0)
  | _ =>
    match applyBinary symbol a b with
    | some value => return value
    | none => fail "division by 0" operand

/-- Evaluates in parts that may not count. -/
def idly (idle : Bool) (m : Calc Int) : Calc Int := do
  let before := (← get).isIdle
  modify fun state => { state with isIdle := before || idle }
  let value ← m
  modify fun state => { state with isIdle := before }
  return value

mutual

/-- The number that a text denotes as an expression of its own. -/
def valueOf : (fuel : Nat) → (text : String) → Calc Int
  | 0, _ => return 0
  | fuel + 1, text => do
    if text.toList.all isSpaceChar then return 0
    else
      let state ← get
      set { state with rest := text.toList, whole := text }
      let value ← sequence fuel
      let (token, rest) ← peek
      if token ≠ .finish then fail "syntax error in expression" (rest)
      modify fun inner => { inner with rest := state.rest, whole := state.whole }
      return value

def numberAt : (fuel : Nat) → Place → Calc Int
  | 0, _ => return 0
  | fuel + 1, place => do
    let state ← get
    if state.isIdle then return 0 else valueOf fuel (textAt state.session place)

def place : (fuel : Nat) → (name : String) → Calc Place
  | 0, name => return ⟨name, none⟩
  | fuel + 1, name => do
    if ← accept "[" then
      let index ← sequence fuel
      let _ ← accept "]"
      return ⟨name, some index⟩
    else return ⟨name, none⟩

def unary : (fuel : Nat) → Calc Int
  | 0 => return 0
  | fuel + 1 => do
    let before := (← get).rest
    match ← take with
    | .number value => return value
    | .name name =>
      let there ← place fuel name
      if ← accept "++" then
        let value ← numberAt fuel there
        assignAt there (wrap64 (value + 1))
        return value
      else if ← accept "--" then
        let value ← numberAt fuel there
        assignAt there (wrap64 (value - 1))
        return value
      else numberAt fuel there
    | .symbol "(" =>
      let value ← sequence fuel
      if !(← accept ")") then fail "missing \x60)'" (← get).rest
      return value
    | .symbol "+" => unary fuel
    | .symbol "-" => return wrap64 (-(← unary fuel))
    | .symbol "!" => return truth ((← unary fuel) = 0)
    | .symbol "~" => return -(← unary fuel) - 1
    | .symbol "++" => step fuel 1
    | .symbol "--" => step fuel (-1)
    | _ => fail "syntax error: operand expected" before

/-- Counts a place up or down, behind the sign. -/
def step : (fuel : Nat) → (change : Int) → Calc Int
  | 0, _ => return 0
  | fuel + 1, change => do
    let before := (← get).rest
    match ← peek with
    | (.name name, rest) =>
      modify fun state => { state with rest }
      let there ← place fuel name
      let value := wrap64 ((← numberAt fuel there) + change)
      assignAt there value
      return value
    | (.number _, _) => unary fuel
    | _ => fail "syntax error: operand expected" before

/-- Binary operators that bind at least as tightly as `least`. -/
def binary : (fuel : Nat) → (least : Nat) → Calc Int
  | 0, _ => return 0
  | fuel + 1, least => do
    let first ← unary fuel
    operations fuel first least

def operations : (fuel : Nat) → (first : Int) → (least : Nat) → Calc Int
  | 0, first, _ => return first
  | fuel + 1, first, least => do
    let (token, rest) ← peek
    match token, bindingOf? token with
    | .symbol symbol, some binding =>
      if binding < least then return first
      else
        modify fun state => { state with rest }
        let tighter := if symbol = "**" then binding else binding + 1
        let idle := (symbol = "&&" && first = 0) || (symbol = "||" && first ≠ 0)
        let second ← idly idle (binary fuel tighter)
        let value ← apply symbol first second rest
        operations fuel value least
    | _, _ => return first

def conditional : (fuel : Nat) → Calc Int
  | 0 => return 0
  | fuel + 1 => do
    let test ← binary fuel 2
    if ← accept "?" then
      let yes ← idly (test = 0) (sequence fuel)
      if !(← accept ":") then fail "\x60:' expected for conditional expression" (← get).rest
      let no ← idly (test ≠ 0) (conditional fuel)
      return if test ≠ 0 then yes else no
    else return test

def assignment : (fuel : Nat) → Calc Int
  | 0 => return 0
  | fuel + 1 => do
    let start ← get
    match ← peek with
    | (.name name, rest) =>
      set { start with rest }
      let there ← place fuel name
      let (token, behind) ← peek
      match assignmentOf? token with
      | some operation =>
        modify fun state => { state with rest := behind }
        let value ← assignment fuel
        let result ← match operation with
          | none => pure value
          | some symbol => apply symbol (← numberAt fuel there) value behind
        assignAt there result
        return result
      | none =>
        modify fun state => { state with rest := start.rest }
        conditional fuel
    | _ => conditional fuel

def sequence : (fuel : Nat) → Calc Int
  | 0 => return 0
  | fuel + 1 => do
    let first ← assignment fuel
    if ← accept "," then sequence fuel else return first

end

end Calc

/-- The value of an expression and the session afterwards, or what is wrong. -/
def calculate (session : Session) (text : List Char) : Except String (Int × Session) :=
  let start : CalcState := ⟨text, String.ofList text, session, false⟩
  match (Calc.valueOf (20 * text.length + 2000) (String.ofList text)).run start with
  | .ok (value, state) => .ok (value, state.session)
  | .error message => .error message

end Conformance.Shell
