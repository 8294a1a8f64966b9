import Conformance.Tool.Records.Expression
import Conformance.Tool.Records.Script
import Conformance.Tool.Records.Token
import Conformance.Tool.Records.Value

/-!
# Scripts for records from tokens

Operators in the order of their strength; operands side by side are joined.  Where
the output of `print` may go elsewhere, a bare `>` does not compare.  A name stands for
a value or for an array, never for both.
-/

namespace Conformance.Tool.Records

open Shell

/-- What is known while a script is read. -/
structure Reading where
  rest : List Lexeme
  /-- The line of the last token. -/
  line : Nat
  /-- How many loops are around. -/
  loops : Nat
  /-- The parameters of the function that is read. -/
  parameters : Option (List String)
  /-- Whether the rule that is read has records. -/
  hasRecords : Bool
  /-- Names that have a value. -/
  scalars : List String
  arrays : List String
  /-- Calls of functions: their names, how many arguments they have and their lines. -/
  calls : List (String × Nat × Nat)
  /-- Names of the functions in the script. -/
  functions : List String

/-- A part of the grammar: it takes tokens from the front. -/
abbrev Parse := StateT Reading (Except ScriptFault)

/-- Which operators have another meaning at the moment. -/
structure Context where
  /-- Whether `>` names a file. -/
  inPrint : Bool
  /-- Whether an operand at the start may be given a value. -/
  mayAssign : Bool

namespace Context

def free : Context := ⟨false, true⟩

def printing : Context := ⟨true, true⟩

def alone : Context := ⟨false, false⟩

/-- The context of an operand that cannot be given a value. -/
def inner (context : Context) : Context := { context with mayAssign := false }

def outer (context : Context) : Context := { context with mayAssign := true }

end Context

namespace Parse

def peek : Parse (Option Token) := do return (← get).rest.head?.map (·.token)

def ahead (count : Nat) : Parse (List Token) := do
  return ((← get).rest.take count).map (·.token)

def advance : Parse Unit :=
  modify fun reading => match reading.rest with
    | first :: rest => { reading with rest, line := first.line }
    | [] => reading

/-- The next token does not fit. -/
def fail {α : Type} : Parse α := do
  let reading ← get
  match reading.rest with
  | [] => throw (.wrong (reading.line + 1) "missing \x7d near end of file")
  | ⟨.bad fault, _, _⟩ :: _ => throw fault
  | first :: _ => throw (.near first.line first.shown)

def wrong {α : Type} (message : String) : Parse α := do throw (.wrong (← get).line message)

def accept (symbol : String) : Parse Bool := do
  if (← peek) = some (.symbol symbol) then
    advance
    return true
  else return false

def expect (symbol : String) : Parse Unit := do
  if ← accept symbol then return () else fail

def acceptKeyword (word : String) : Parse Bool := do
  if (← peek) = some (.keyword word) then
    advance
    return true
  else return false

def skipNewlines : Parse Unit :=
  modify fun reading => { reading with rest := reading.rest.dropWhile (·.token = .newline) }

def anyName : Parse String := do
  match ← peek with
  | some (.name text) => advance; return text
  | some (.callee text) => advance; return text
  | _ => fail

/-- Notes that a name has a value, unless it is a parameter. -/
def noteScalar (name : String) : Parse Unit := do
  let reading ← get
  if (reading.parameters.getD []).contains name then return
  if reading.arrays.contains name then wrong ("illegal reference to array " ++ name)
  if !reading.scalars.contains name then
    set { reading with scalars := name :: reading.scalars }

def noteArray (name : String) : Parse Unit := do
  let reading ← get
  if (reading.parameters.getD []).contains name then return
  if reading.scalars.contains name then wrong ("illegal reference to variable " ++ name)
  if !reading.arrays.contains name then
    set { reading with arrays := name :: reading.arrays }

/-- How deep expressions may be nested: as deep as there are tokens, at every level. -/
def room : Parse Nat := do return 16 * (← get).rest.length + 16

end Parse

open Parse

def isTarget : Expr → Bool
  | .variable _ => true
  | .field _ => true
  | .element _ _ => true
  | _ => false

def assigning? (symbol : String) : Option (Option Char) :=
  match symbol with
  | "=" => some none
  | "+=" => some (some '+')
  | "-=" => some (some '-')
  | "*=" => some (some '*')
  | "/=" => some (some '/')
  | "%=" => some (some '%')
  | "^=" => some (some '^')
  | _ => none

/-- Whether a token begins an operand behind another one; signs would be binary. -/
def continuesText : Option Token → Bool
  | some (.number _) => true
  | some (.text _) => true
  | some (.regex _) => true
  | some (.name _) => true
  | some (.callee _) => true
  | some (.builtin _) => true
  | some (.symbol symbol) => ["$", "(", "++", "--", "!"].contains symbol
  | _ => false

/-- How many arguments a function that every script has may be given. -/
def argumentRange (name : String) : Nat × Nat :=
  match name with
  | "length" => (0, 1)
  | "substr" => (2, 3)
  | "index" => (2, 2)
  | "split" => (2, 3)
  | "sub" => (2, 3)
  | "gsub" => (2, 3)
  | "match" => (2, 2)
  | "sprintf" => (1, 1000000)
  | "atan2" => (2, 2)
  | "rand" => (0, 0)
  | "srand" => (0, 1)
  | "fflush" => (0, 1)
  | _ => (1, 1)

def levelOperators (level : Nat) : List String :=
  match level with
  | 8 => ["+", "-"]
  | 9 => ["*", "/", "%"]
  | _ => []

mutual

/-- An expression at a level: choices at level 1, `||` at 2, `&&` at 3, `in` at 4,
matches at 5, comparisons at 6, joined operands at 7, sums at 8, products at 9, signs and
lines from commands at 10, powers at 11, single operands at 12. -/
def expression (context : Context) : (fuel : Nat) → (level : Nat) → Parse Expr
  | 0, _ => fail
  | fuel + 1, level =>
    match level with
    | 0 => expression context fuel 1
    | 1 => do
      let test ← expression context fuel 2
      if ← accept "?" then
        let yes ← expression context.outer fuel 1
        expect ":"
        let no ← expression context.outer fuel 1
        return .conditional test yes no
      else return test
    | 2 => do
      let left ← expression context fuel 3
      if ← accept "||" then
        skipNewlines
        return .oneOf left (← expression context.outer fuel 2)
      else return left
    | 3 => do
      let left ← expression context fuel 4
      if ← accept "&&" then
        skipNewlines
        return .both left (← expression context.outer fuel 3)
      else return left
    | 4 => do
      let left ← expression context fuel 5
      memberships fuel left
    | 5 => do
      let left ← expression context fuel 6
      matchings context fuel left
    | 6 => do
      let left ← expression context fuel 7
      comparisons context fuel left
    | 7 => do
      let left ← expression context fuel 8
      joinedOperands context fuel left
    | 8 => do
      let left ← expression context fuel 9
      operatorRest context fuel 8 left
    | 9 => do
      let left ← expression context fuel 10
      operatorRest context fuel 9 left
    | 10 => do
      if ← accept "!" then return .negated (← expression context.inner fuel 10)
      else if ← accept "-" then return .signed true (← expression context.inner fuel 10)
      else if ← accept "+" then return .signed false (← expression context.inner fuel 10)
      else
        let left ← expression context fuel 11
        commandLines fuel left
    | 11 => do
      let base ← expression context fuel 12
      if ← accept "^" then
        return .computed '^' base (← powerSide context.inner fuel)
      else return base
    | _ => postfixed context fuel

/-- The exponent of a power, which may have a sign. -/
def powerSide (context : Context) : (fuel : Nat) → Parse Expr
  | 0 => fail
  | fuel + 1 => do
    if ← accept "-" then return .signed true (← powerSide context fuel)
    else if ← accept "+" then return .signed false (← powerSide context fuel)
    else if ← accept "!" then return .negated (← powerSide context fuel)
    else expression context fuel 11

def memberships : (fuel : Nat) → Expr → Parse Expr
  | 0, _ => fail
  | fuel + 1, left => do
    if ← acceptKeyword "in" then
      let name ← anyName
      noteArray name
      memberships fuel (.isIn [left] name)
    else return left

def matchings (context : Context) : (fuel : Nat) → Expr → Parse Expr
  | 0, _ => fail
  | fuel + 1, left => do
    let negated? : Option Bool := match ← peek with
      | some (.symbol "~") => some false
      | some (.symbol "!~") => some true
      | _ => none
    match negated? with
    | some negated =>
      advance
      let right ← expression context.outer fuel 6
      matchings context fuel (.matching negated left right)
    | none => return left

def comparisons (context : Context) : (fuel : Nat) → Expr → Parse Expr
  | 0, _ => fail
  | fuel + 1, left => do
    match ← peek with
    | some (.symbol symbol) =>
      if ["<", "<=", "==", "!=", ">="].contains symbol || (symbol = ">" && !context.inPrint) then
        advance
        let right ← expression context.outer fuel 7
        comparisons context fuel (.compared symbol left right)
      else return left
    | _ => return left

/-- Lines read from the command that the operand before names. -/
def commandLines : (fuel : Nat) → Expr → Parse Expr
  | 0, _ => fail
  | fuel + 1, left => do
    match ← ahead 2 with
    | [.symbol "|", .keyword "getline"] =>
      advance
      advance
      let target ← lineTarget fuel
      commandLines fuel (.getline .command (some left) target)
    | _ => return left

/-- The variable that a line is read into, if one is named. -/
def lineTarget : (fuel : Nat) → Parse (Option Expr)
  | 0 => fail
  | fuel + 1 => do
    match ← peek with
    | some (.name _) => return some (← operand .alone fuel)
    | some (.symbol "$") => return some (← operand .alone fuel)
    | _ => return none

def joinedOperands (context : Context) : (fuel : Nat) → Expr → Parse Expr
  | 0, _ => fail
  | fuel + 1, left => do
    if continuesText (← peek) then
      let right ← expression context.inner fuel 8
      joinedOperands context fuel (.joined left right)
    else return left

def operatorRest (context : Context) : (fuel : Nat) → (level : Nat) → Expr → Parse Expr
  | 0, _, _ => fail
  | fuel + 1, level, left => do
    match ← peek with
    | some (.symbol symbol) =>
      if (levelOperators level).contains symbol then
        advance
        let right ← expression context.inner fuel (level + 1)
        operatorRest context fuel level (.computed (symbol.toList.headD '+') left right)
      else return left
    | _ => return left

/-- An operand with an increment behind it, or with a value that it is given. -/
def postfixed (context : Context) : (fuel : Nat) → Parse Expr
  | 0 => fail
  | fuel + 1 => do
    let target ← operand context fuel
    if !isTarget target then return target
    match ← peek with
    | some (.symbol "++") =>
      advance
      return .increment target true true
    | some (.symbol "--") =>
      advance
      return .increment target true false
    | some (.symbol symbol) =>
      match assigning? symbol, context.mayAssign with
      | some operator, true =>
        advance
        return .assign target operator (← expression context fuel 1)
      | _, _ => return target
    | _ => return target

def incremented (isUp : Bool) : (fuel : Nat) → Parse Expr
  | 0 => fail
  | fuel + 1 => do
    let target ← operand .alone fuel
    if isTarget target then return .increment target false isUp else fail

/-- The operand whose value is the place of a field. -/
def fieldIndex : (fuel : Nat) → Parse Expr
  | 0 => fail
  | fuel + 1 => do
    if ← accept "++" then incremented true fuel
    else if ← accept "--" then incremented false fuel
    else if ← accept "-" then return .signed true (← fieldIndex fuel)
    else if ← accept "+" then return .signed false (← fieldIndex fuel)
    else if ← accept "!" then return .negated (← fieldIndex fuel)
    else operand .alone fuel

def operand (context : Context) : (fuel : Nat) → Parse Expr
  | 0 => fail
  | fuel + 1 => do
    match ← peek with
    | some (.number value) => advance; return .number (floatOf value)
    | some (.text content) => advance; return .text content
    | some (.regex source) =>
      match expressionOf source with
      | .ok pattern =>
        advance
        return .regex pattern
      | .error fault => wrong ("regular expression compile failed (" ++ fault.message ++ ")\n" ++
          String.ofList source)
    | some (.symbol "$") =>
      advance
      return .field (← fieldIndex fuel)
    | some (.symbol "++") =>
      advance
      incremented true fuel
    | some (.symbol "--") =>
      advance
      incremented false fuel
    | some (.symbol "-") =>
      advance
      return .signed true (← expression context.inner fuel 10)
    | some (.symbol "+") =>
      advance
      return .signed false (← expression context.inner fuel 10)
    | some (.symbol "!") =>
      advance
      return .negated (← expression context.inner fuel 10)
    | some (.symbol "(") =>
      advance
      let items ← expressions fuel
      expect ")"
      match items with
      | [single] =>
        return if isTarget single then .grouped single else single
      | _ =>
        if ← acceptKeyword "in" then
          let name ← anyName
          noteArray name
          return .isIn items name
        else fail
    | some (.keyword "getline") =>
      advance
      let target ← lineTarget fuel
      if ← accept "<" then
        return .getline .file (some (← expression .alone fuel 11)) target
      else return .getline .input none target
    | some (.builtin name) =>
      advance
      builtinCall fuel name
    | some (.callee name) =>
      advance
      functionCall fuel name
    | some (.name name) =>
      advance
      if ← accept "[" then
        noteArray name
        let indices ← expressions fuel
        expect "]"
        return .element name indices
      else if (← get).functions.contains name && (← peek) = some (.symbol "(") then
        functionCall fuel name
      else
        noteScalar name
        return .variable name
    | _ => fail

def functionCall : (fuel : Nat) → String → Parse Expr
  | 0, _ => fail
  | fuel + 1, name => do
    expect "("
    let line := (← get).line
    let given ← if ← accept ")" then pure [] else do
      let given ← callArguments fuel
      expect ")"
      pure given
    modify fun reading => { reading with calls := (name, given.length, line) :: reading.calls }
    return .call name given

/-- The arguments of a call; a bare name may be an array. -/
def callArguments : (fuel : Nat) → Parse (List Expr)
  | 0 => fail
  | fuel + 1 => do
    let bare? : Option String := match ← ahead 2 with
      | [.name name, .symbol sign] => if sign = "," || sign = ")" then some name else none
      | _ => none
    let first ← match bare? with
      | some name => do
        advance
        pure (Expr.variable name)
      | none => expression .free fuel 1
    if ← accept "," then
      skipNewlines
      return first :: (← callArguments fuel)
    else return [first]

/-- A call of a function that every script has, behind its name. -/
def builtinCall : (fuel : Nat) → String → Parse Expr
  | 0, _ => fail
  | fuel + 1, name => do
    if name = "length" && (← peek) ≠ some (.symbol "(") then return .builtin name []
    expect "("
    let (least, most) := argumentRange name
    let given ← if ← accept ")" then pure [] else do
      let given ← builtinArguments fuel name 0
      expect ")"
      pure given
    if given.length < least || most < given.length then
      wrong ("wrong number of arguments in call to " ++ name)
    let isSubstitution := name = "sub" || name = "gsub"
    if isSubstitution && given.length = 3 && !(given.getLast?.map isTarget).getD false then fail
    return .builtin name given

def builtinArguments : (fuel : Nat) → String → (place : Nat) → Parse (List Expr)
  | 0, _, _ => fail
  | fuel + 1, name, place => do
    let bare? : Option String := match ← ahead 2 with
      | [.name name, .symbol sign] => if sign = "," || sign = ")" then some name else none
      | _ => none
    let first ← match name, place, bare? with
      | "split", 1, some array => do
        advance
        noteArray array
        pure (Expr.variable array)
      | "split", 1, none => fail
      | "length", 0, some item => do
        advance
        pure (Expr.variable item)
      | _, _, _ => expression .free fuel 1
    if ← accept "," then
      skipNewlines
      return first :: (← builtinArguments fuel name (place + 1))
    else return [first]

/-- Expressions with commas between them, inside parentheses or brackets. -/
def expressions : (fuel : Nat) → Parse (List Expr)
  | 0 => fail
  | fuel + 1 => do
    let first ← expression .free fuel 1
    if ← accept "," then
      skipNewlines
      return first :: (← expressions fuel)
    else return [first]

/-- Expressions with commas between them where the output may go elsewhere. -/
def printed : (fuel : Nat) → Parse (List Expr)
  | 0 => fail
  | fuel + 1 => do
    let first ← expression .printing fuel 1
    if ← accept "," then
      skipNewlines
      return first :: (← printed fuel)
    else return [first]

end

def wholeExpression : Parse Expr := do expression .free (← room) 1

def atEnd : Parse Bool := do
  match ← peek with
  | none => return true
  | some .newline => return true
  | some (.symbol symbol) => return [";", "\x7d"].contains symbol
  | _ => return false

/-- Whether the arguments of `print` end here. -/
def atPrintEnd : Parse Bool := do
  match ← peek with
  | some (.symbol symbol) => return [";", "\x7d", ">", ">>", "|"].contains symbol
  | _ => atEnd

/-- The arguments of `print`, with or without parentheses around them. -/
def printArguments : Parse (List Expr) := do
  if ← atPrintEnd then return []
  let fuel ← room
  let reading ← get
  let grouped : Parse (List Expr) := do
    expect "("
    let items ← expressions fuel
    expect ")"
    if ← atPrintEnd then return items else fail
  match grouped.run reading with
  | .ok (items, after) =>
    set after
    return items
  | .error _ => printed fuel

/-- Where the output of `print` goes, if it goes elsewhere. -/
def printTarget : Parse (Option (Destination × Expr)) := do
  let fuel ← room
  if ← accept ">" then return some (.file false, ← expression .printing fuel 1)
  else if ← accept ">>" then return some (.file true, ← expression .printing fuel 1)
  else if ← accept "|" then return some (.command, ← expression .printing fuel 1)
  else return none

def simpleStatement : Parse Statement := do
  if ← acceptKeyword "print" then
    let arguments ← printArguments
    return .print arguments (← printTarget)
  else if ← acceptKeyword "printf" then
    let next ← ahead 2
    if (← atEnd) || next = [.symbol "(", .symbol ")"] then wrong "no arguments in call to printf"
    let arguments ← printArguments
    return .printf arguments (← printTarget)
  else if ← acceptKeyword "delete" then
    let name ← match ← peek with
      | some (.name text) => do
        advance
        pure text
      | _ => fail
    noteArray name
    if ← accept "[" then
      let indices ← expressions (← room)
      expect "]"
      return .delete name (some indices)
    else return .delete name none
  else return .evaluate (← wholeExpression)

def statementEnd : Parse Unit := do
  if ← accept ";" then skipNewlines
  else if (← peek) = some .newline then skipNewlines
  else if (← peek) = some (.symbol "\x7d") then return ()
  else fail

def insideLoop (body : Parse Statement) : Parse Statement := do
  modify fun reading => { reading with loops := reading.loops + 1 }
  let found ← body
  modify fun reading => { reading with loops := reading.loops - 1 }
  return found

/-- A value behind a keyword, unless the statement ends there. -/
def optionalValue : Parse (Option Expr) := do
  if ← atEnd then return none else return some (← wholeExpression)

def heldTest : Parse Expr := do
  expect "("
  let test ← wholeExpression
  expect ")"
  return test

mutual

def statement : (fuel : Nat) → Parse Statement
  | 0 => fail
  | fuel + 1 => do
    match ← peek with
    | some (.symbol "\x7b") =>
      let body ← block fuel
      skipNewlines
      return body
    | some (.symbol "\x7d") => return .sequence []
    | some (.symbol ";") =>
      advance
      skipNewlines
      return .sequence []
    | some (.keyword "if") =>
      advance
      let test ← heldTest
      skipNewlines
      let yes ← statement fuel
      if ← acceptKeyword "else" then
        skipNewlines
        return .branch test yes (some (← statement fuel))
      else return .branch test yes none
    | some (.keyword "while") =>
      advance
      let test ← heldTest
      if (← peek) ≠ some (.symbol ";") then skipNewlines
      return .whileLoop test (← insideLoop (statement fuel))
    | some (.keyword "do") =>
      advance
      skipNewlines
      let body ← insideLoop (statement fuel)
      if ← acceptKeyword "while" then
        let test ← heldTest
        statementEnd
        return .untilDone body test
      else fail
    | some (.keyword "for") =>
      advance
      forStatement fuel
    | some (.keyword "next") =>
      advance
      if !(← get).hasRecords then wrong "improper use of next"
      statementEnd
      return .nextRecord
    | some (.keyword "nextfile") =>
      advance
      if !(← get).hasRecords then wrong "improper use of nextfile"
      statementEnd
      return .nextFile
    | some (.keyword "break") =>
      advance
      if (← get).loops = 0 then wrong "break statement outside of loop"
      statementEnd
      return .breakLoop
    | some (.keyword "continue") =>
      advance
      if (← get).loops = 0 then wrong "continue statement outside of loop"
      statementEnd
      return .continueLoop
    | some (.keyword "exit") =>
      advance
      let status ← optionalValue
      statementEnd
      return .exit status
    | some (.keyword "return") =>
      advance
      if (← get).parameters.isNone then wrong "return outside function body"
      let value ← optionalValue
      statementEnd
      return .returned value
    | _ =>
      let simple ← simpleStatement
      statementEnd
      return simple

/-- What follows `for`. -/
def forStatement : (fuel : Nat) → Parse Statement
  | 0 => fail
  | fuel + 1 => do
    expect "("
    match ← ahead 4 with
    | [.name item, .keyword "in", .name array, .symbol ")"] =>
      advance
      advance
      advance
      advance
      noteScalar item
      noteArray array
      if (← peek) ≠ some (.symbol ";") then skipNewlines
      return .forEach item array (← insideLoop (statement fuel))
    | _ =>
      let start ← if (← peek) = some (.symbol ";") then pure (Statement.sequence [])
        else do pure (Statement.evaluate (← wholeExpression))
      expect ";"
      skipNewlines
      let test ← if (← peek) = some (.symbol ";") then pure none
        else do pure (some (← wholeExpression))
      expect ";"
      skipNewlines
      let step ← if (← peek) = some (.symbol ")") then pure (Statement.sequence [])
        else do pure (Statement.evaluate (← wholeExpression))
      expect ")"
      if (← peek) ≠ some (.symbol ";") then skipNewlines
      return .forLoop start test step (← insideLoop (statement fuel))

def block : (fuel : Nat) → Parse Statement
  | 0 => fail
  | fuel + 1 => do
    expect "\x7b"
    skipNewlines
    let body ← statements fuel
    expect "\x7d"
    return .sequence body

def statements : (fuel : Nat) → Parse (List Statement)
  | 0 => fail
  | fuel + 1 => do
    skipNewlines
    match ← peek with
    | none => fail
    | some (.symbol "\x7d") => return []
    | _ =>
      let first ← statement fuel
      return first :: (← statements fuel)

end

def parameterNames : (fuel : Nat) → (taken : List String) → Parse (List String)
  | 0, _ => fail
  | fuel + 1, taken => do
    if ← accept ")" then return taken.reverse
    let name ← anyName
    if taken.contains name then wrong (name ++ " is duplicated in argument list")
    if ← accept "," then
      skipNewlines
      parameterNames fuel (name :: taken)
    else
      expect ")"
      return (name :: taken).reverse

def function (known : List Function) : Parse Function := do
  let name ← anyName
  if known.any (·.name = name) then wrong ("redefinition of " ++ name)
  expect "("
  let names ← parameterNames (← room) []
  if names.contains name then wrong "function parameter cannot be the function"
  skipNewlines
  modify fun reading => { reading with parameters := some names, hasRecords := true, loops := 0 }
  let body ← block (← room)
  modify fun reading => { reading with parameters := none }
  return ⟨name, names, body⟩

def rule : Parse Rule := do
  let action (hasRecords : Bool) : Parse Statement := do
    modify fun reading => { reading with hasRecords, loops := 0 }
    block (← room)
  if ← acceptKeyword "BEGIN" then return ⟨.atStart, some (← action false)⟩
  else if ← acceptKeyword "END" then return ⟨.atEnd, some (← action false)⟩
  else if (← peek) = some (.symbol "\x7b") then return ⟨.always, some (← action true)⟩
  else
    let first ← wholeExpression
    let pattern ← if ← accept "," then do
        skipNewlines
        pure (Pattern.between first (← wholeExpression))
      else pure (Pattern.when first)
    if (← peek) = some (.symbol "\x7b") then return ⟨pattern, some (← action true)⟩
    if !(← get).rest.isEmpty && (!(← atEnd) || (← peek) = some (.symbol "\x7d")) then fail
    return ⟨pattern, none⟩

/-- Rules and functions; `fuel` bounds them. -/
def items : (fuel : Nat) → Script → Parse Script
  | 0, _ => fail
  | fuel + 1, script => do
    skipNewlines
    if (← peek).isNone then return script
    let longer ← if ← acceptKeyword "function" then do
        let found ← function script.functions
        pure { script with functions := script.functions ++ [found] }
      else do
        let found ← rule
        pure { script with rules := script.rules ++ [found] }
    let _ ← accept ";"
    items fuel longer

def functionNames : List Token → List String
  | .keyword "function" :: .name name :: rest => name :: functionNames rest
  | .keyword "function" :: .callee name :: rest => name :: functionNames rest
  | _ :: rest => functionNames rest
  | [] => []

def givenArrays : List String := ["ENVIRON", "ARGV"]

def checkCalls (script : Script) (reading : Reading) : Except ScriptFault Unit :=
  reading.calls.reverse.forM fun (name, count, line) =>
    match script.functions.find? (·.name = name) with
    | none => .error (.wrong (reading.line + 1) ("function " ++ name ++ " never defined"))
    | some found =>
      if found.parameters.length < count then
        .error (.wrong line ("too many arguments in call to " ++ name))
      else .ok ()

def scriptOf (text : List Char) : Except ScriptFault Script := do
  let lexemes := lexemesOf text
  let start : Reading :=
    ⟨lexemes, 1, 0, none, true, [], givenArrays, [], functionNames (lexemes.map (·.token))⟩
  let (found, reading) ← (items (lexemes.length + 1) ⟨[], []⟩).run start
  checkCalls found reading
  return found

end Conformance.Tool.Records
