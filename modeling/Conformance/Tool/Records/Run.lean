import Conformance.Tool.Records.Format
import Conformance.Tool.Records.State
import Conformance.Tool.Records.Token

/-!
# Running scripts for records

Expressions and statements are run with a bound on the steps; the rules of a script
run on one record after the other.
-/

namespace Conformance.Tool.Records

open Machine Shell

/-- The text that takes the place of a match: an ampersand stands for the match. -/
def replacement (part : List Char) : List Char → List Char
  | '\\' :: '&' :: rest => '&' :: replacement part rest
  | '\\' :: '\\' :: rest => '\\' :: replacement part rest
  | '&' :: rest => part ++ replacement part rest
  | c :: rest => c :: replacement part rest
  | [] => []

def replaceFound (given text : List Char) : (start : Nat) → List Match → List Char
  | start, [] => text.drop start
  | start, found :: rest =>
    (text.drop start).take (found.start - start) ++ replacement (found.part text 0) given ++
      replaceFound given text found.finish rest

/-- Where a text stands in another one, from one; zero if it does not. -/
def placeIn (part : List Char) : (place : Nat) → List Char → Nat
  | place, [] => if part.isEmpty then place else 0
  | place, c :: rest =>
    if part.isPrefixOf (c :: rest) then place else placeIn part (place + 1) rest

/-- A part of a text by place and length.  A place before the text makes the part
longer. -/
def partOf (text : List Char) (start : Int) (size : Option Int) : List Char :=
  let first := max start 1
  let count := match size with
    | none => text.length
    | some n => (if start ≤ 0 then n - start else n).toNat
  (text.drop (first - 1).toNat).take count

def angle (y x : Float) : Float := Float.atan2 y x

def numberFunction? (name : String) (arguments : List Float) : Option Float :=
  match name, arguments with
  | "sin", x :: _ => some x.sin
  | "cos", x :: _ => some x.cos
  | "exp", x :: _ => some x.exp
  | "log", x :: _ => some x.log
  | "sqrt", x :: _ => some x.sqrt
  | "atan2", y :: x :: _ => some (angle y x)
  | "int", x :: _ => some (if x < 0 then x.ceil else x.floor)
  | _, _ => none

/-- A number that is hard to foresee, between zero and one, and the one behind it. -/
def chance (seed : Nat) : Float × Nat :=
  let next := (seed * 1103515245 + 12345) % 2147483648
  (Float.ofNat next / 2147483648, next)

namespace Run

def textOf (value : Value) : Run (List Char) := do return value.toText (← get).format

def nameOf (value : Value) : Run String := do return String.ofList (← textOf value)

def formatFault {α : Type} (name : String) (format : List Char) (wrong : FormatFault) : Run α :=
  fault (wrong.message ++ name ++ "(\"" ++ String.ofList format ++ "\")")

def sprintf (values : List Value) : Run (List Char) := do
  let format ← textOf (values.headD .unset)
  match formatValues (← get).format format (values.drop 1) with
  | (text, none) => return text
  | (_, some wrong) => formatFault "sprintf" format wrong

def keyOf (values : List Value) : Run Key := do
  match values with
  | [.number value] =>
    match wholeOf? wholeLimit value with
    | some n => return .number n
    | none => return .text (← nameOf (.number value))
  | [single] => return .text (← nameOf single)
  | _ =>
    let texts ← values.mapM textOf
    return .text (String.ofList (((← get).globalText "SUBSEP").intercalate texts))

def keysIn (array : String) : Run (List String) := do
  let index ← tableOf array
  let (keys, table) := (← getTable index).keys
  setTable index table
  return keys

section

variable (functions : List Function)

mutual

def evaluate : (fuel : Nat) → Expr → Run Value
  | 0, _ => fault "too many steps"
  | fuel + 1, expression =>
    match expression with
    | .number value => return .number value
    | .text content => return .text content
    | .regex pattern => do
      return .ofBool (pattern.isFoundIn (← textOf (← get).record))
    | .variable name => getVariable name
    | .field index => do
      let place := integerOf (← evaluate fuel index).toNumber
      let state ← get
      if place < 0 then fault ("negative field index $" ++ toString place)
      else if place = 0 then return state.record
      else return (state.fields[place.toNat - 1]?).getD .unset
    | .element array indices => do
      let key ← keyOf (← evaluateAll fuel indices)
      getElement (← tableOf array) key
    | .assign target operator value => do
      let given ← evaluate fuel value
      match operator with
      | none => assign fuel target given
      | some symbol =>
        let before ← evaluate fuel target
        assign fuel target (.number (calculate symbol before.toNumber given.toNumber))
    | .conditional test yes no => do
      if (← evaluate fuel test).isTrue then evaluate fuel yes else evaluate fuel no
    | .both left right => do
      if (← evaluate fuel left).isTrue then return .ofBool (← evaluate fuel right).isTrue
      else return .ofBool false
    | .oneOf left right => do
      if (← evaluate fuel left).isTrue then return .ofBool true
      else return .ofBool (← evaluate fuel right).isTrue
    | .joined left right => do
      let a ← evaluate fuel left
      let b ← evaluate fuel right
      return .text ((← textOf a) ++ (← textOf b))
    | .compared operator left right => do
      let a ← evaluate fuel left
      let b ← evaluate fuel right
      return .ofBool (Value.compare (← get).format operator a b)
    | .computed operator left right => do
      let a ← evaluate fuel left
      let b ← evaluate fuel right
      return .number (calculate operator a.toNumber b.toNumber)
    | .matching negated left right => do
      let text ← textOf (← evaluate fuel left)
      let regex ← regexFrom fuel right
      return .ofBool (regex.isFoundIn text != negated)
    | .isIn indices array => do
      let key ← keyOf (← evaluateAll fuel indices)
      let index ← tableOf array
      let table := (← getTable index).visit false key
      setTable index table
      return .ofBool (table.contains key)
    | .negated body => do return .ofBool !(← evaluate fuel body).isTrue
    | .signed isMinus body => do
      let value := (← evaluate fuel body).toNumber
      if !isMinus then return .number value
      else if value.isNaN then return .noNumber
      else return .number (-value)
    | .increment target before isUp => do
      let old := (← evaluate fuel target).toNumber
      let new := if isUp then old + 1 else old - 1
      let _ ← assign fuel target (.number new)
      return .number (if before then old else new)
    | .call name arguments => callFunction fuel name arguments
    | .builtin name arguments => callBuiltin fuel name arguments
    | .grouped body => evaluate fuel body
    | .getline source place target => readLine fuel source place target

def evaluateAll : (fuel : Nat) → List Expr → Run (List Value)
  | 0, _ => fault "too many steps"
  | _ + 1, [] => return []
  | fuel + 1, first :: rest => do
    let value ← evaluate fuel first
    return value :: (← evaluateAll fuel rest)

def regexFrom : (fuel : Nat) → Expr → Run Regex
  | 0, _ => fault "too many steps"
  | fuel + 1, operand =>
    match operand with
    | .regex pattern => return pattern
    | other => do regexOf (← textOf (← evaluate fuel other))

/-- Gives a target a value, which is the result as well. -/
def assign : (fuel : Nat) → Expr → Value → Run Value
  | 0, _, _ => fault "too many steps"
  | fuel + 1, target, value => do
    match target with
    | .variable name => setVariable name value
    | .field index =>
      let place := integerOf (← evaluate fuel index).toNumber
      if place < 0 then fault ("negative field index $" ++ toString place)
      else setField place.toNat value
    | .element array indices =>
      let key ← keyOf (← evaluateAll fuel indices)
      setElement (← tableOf array) key value
    | _ => fault "bad assignment"
    return value

/-- Calls a function of the script.  Its own arrays are gone afterwards. -/
def callFunction : (fuel : Nat) → String → List Expr → Run Value
  | 0, _, _ => fault "too many steps"
  | fuel + 1, name, arguments => do
    Work.breathe
    match functions.find? (·.name = name) with
    | none => fault ("function " ++ name ++ " never defined")
    | some function =>
      let (given, own) ← parametersFor fuel function.parameters arguments
      modify fun state => { state with frames := given :: state.frames }
      let result : Except Leap Unit ← Activity.attempt (execute fuel function.body)
      modify fun state => { state with
        frames := state.frames.drop 1
        tables := own.foldl (fun tables index => tables.erase index) state.tables }
      match result with
      | .ok _ => return .unset
      | .error (.returned value) => return value
      | .error leap => throw leap

/-- The parameters of a call, and the arrays that are made for it. -/
def parametersFor : (fuel : Nat) → List String → List Expr → Run (List Local × List Nat)
  | 0, _, _ => fault "too many steps"
  | _ + 1, [], _ => return ([], [])
  | fuel + 1, name :: names, arguments => do
    match arguments with
    | .variable given :: rest =>
      let value ← getVariable given
      let table ← tableOf given
      let (others, own) ← parametersFor fuel names rest
      return (⟨name, value, table⟩ :: others, own)
    | other :: rest =>
      let value ← evaluate fuel other
      let table ← newTable
      let (others, own) ← parametersFor fuel names rest
      return (⟨name, value, table⟩ :: others, table :: own)
    | [] =>
      let table ← newTable
      let (others, own) ← parametersFor fuel names []
      return (⟨name, .unset, table⟩ :: others, table :: own)

def callBuiltin : (fuel : Nat) → String → List Expr → Run Value
  | 0, _, _ => fault "too many steps"
  | fuel + 1, name, arguments => do
    match name, arguments with
    | "length", [] => return .ofNat (← textOf (← get).record).length
    | "length", [.variable item] =>
      let value ← getVariable item
      if value.isUnset then return .ofNat (← getTable (← tableOf item)).size
      else return .ofNat (← textOf value).length
    | "split", text :: .variable array :: rest => do
      let content ← textOf (← evaluate fuel text)
      let pieces ← match rest with
        | [] => do splitText ((← get).globalText "FS") content
        | .regex pattern :: _ => pure (splitAtMatches pattern content)
        | mark :: _ => do splitText (← textOf (← evaluate fuel mark)) content
      setTable (← tableOf array) (.ofRow (pieces.map .outside))
      return .ofNat pieces.length
    | "sub", pattern :: given :: rest => substitute fuel false pattern given rest
    | "gsub", pattern :: given :: rest => substitute fuel true pattern given rest
    | "match", text :: pattern :: _ => do
      let content ← textOf (← evaluate fuel text)
      let regex ← regexFrom fuel pattern
      let (start, size) : Int × Int := match regex.find? content 0 with
        | some found => (found.start + 1, (found.finish : Int) - found.start)
        | none => (0, -1)
      setVariable "RSTART" (.ofInt start)
      setVariable "RLENGTH" (.ofInt size)
      return .ofInt start
    | _, _ => do
      let values ← evaluateAll fuel arguments
      match name, values with
      | "length", value :: _ => return .ofNat (← textOf value).length
      | "substr", text :: start :: rest => do
        let content ← textOf text
        let size := rest.head?.map fun value => integerOf value.toNumber
        return .text (partOf content (integerOf start.toNumber) size)
      | "index", text :: part :: _ => do
        return .ofNat (placeIn (← textOf part) 1 (← textOf text))
      | "sprintf", all => do return .text (← sprintf all)
      | "tolower", value :: _ => do return .text ((← textOf value).map Char.toLower)
      | "toupper", value :: _ => do return .text ((← textOf value).map Char.toUpper)
      | "system", value :: _ => do runCommand (← nameOf value)
      | "close", value :: _ => do close (← nameOf value)
      | "fflush", _ =>
        flushAll
        return .ofNat 0
      | "rand", _ =>
        let (value, following) := chance (← get).chance
        modify fun state => { state with chance := following }
        return .number value
      | "srand", _ =>
        let before := (← get).seed
        let given ← match values with
          | value :: _ => pure value
          | [] => do pure (Value.ofNat ((← Activity.now) / 1000000000))
        modify fun state => { state with
          seed := given, chance := (integerOf given.toNumber).natAbs }
        return before
      | _, _ =>
        match numberFunction? name (values.map Value.toNumber) with
        | some result => return .number result
        | none => fault ("wrong number of arguments in call to " ++ name)

/-- Replaces the first match, or all of them, and tells how many. -/
def substitute : (fuel : Nat) → (all : Bool) → Expr → Expr → List Expr → Run Value
  | 0, _, _, _, _ => fault "too many steps"
  | fuel + 1, all, pattern, given, rest => do
    let regex ← regexFrom fuel pattern
    let shown ← textOf (← evaluate fuel given)
    let target := rest.headD (.field (.number 0))
    let content ← textOf (← evaluate fuel target)
    let found := if all then regex.findAll content else (regex.find? content 0).toList
    if found.isEmpty then return .ofNat 0
    else
      let _ ← assign fuel target (.text (replaceFound shown content 0 found))
      return .ofNat found.length

/-- Reads a line into the record or into a target. -/
def readLine : (fuel : Nat) → LineSource → Option Expr → Option Expr → Run Value
  | 0, _, _, _ => fault "too many steps"
  | fuel + 1, source, place, target => do
    let reply : Except Unit (Option (List Char)) ← match source, place with
      | .input, _ => do pure (.ok (← nextRecord unescaped inputBound))
      | kind, some expression => do readFrom kind (← nameOf (← evaluate fuel expression))
      | _, none => pure (.error ())
    match reply with
    | .error _ => return .ofInt (-1)
    | .ok none => return .ofNat 0
    | .ok (some line) =>
      match target with
      | some goal =>
        let _ ← assign fuel goal (.outside line)
      | none => setRecord (.outside line)
      return .ofNat 1

def execute : (fuel : Nat) → Statement → Run Unit
  | 0, _ => fault "too many steps"
  | fuel + 1, statement =>
    match statement with
    | .sequence statements => executeAll fuel statements
    | .branch test yes no => do
      if (← evaluate fuel test).isTrue then execute fuel yes
      else match no with
        | some body => execute fuel body
        | none => return
    | .whileLoop test body => loop fuel (some test) body (.sequence [])
    | .untilDone body test => do
      if ← executeRound fuel body then loop fuel (some test) body (.sequence [])
    | .forLoop start test step body => do
      execute fuel start
      loop fuel test body step
    | .forEach name array body => do loopOver fuel name (← keysIn array) body
    | .print arguments target => do
      let values ← if arguments.isEmpty then do pure [(← get).record]
        else evaluateAll fuel arguments
      let state ← get
      let format := state.globalText "OFMT"
      let texts := values.map (·.toTextWithin shownLimit format)
      send fuel ((state.globalText "OFS").intercalate texts ++ state.globalText "ORS") target
    | .printf arguments target => do
      let values ← evaluateAll fuel arguments
      let format ← textOf (values.headD .unset)
      let (text, wrong) := formatValues (← get).format format (values.drop 1)
      send fuel text target
      match wrong with
      | some wrong => formatFault "printf" format wrong
      | none => return
    | .delete array none => do setTable (← tableOf array) .empty
    | .delete array (some indices) => do
      let key ← keyOf (← evaluateAll fuel indices)
      let index ← tableOf array
      setTable index ((← getTable index).erase key)
    | .nextRecord => throw .nextRecord
    | .nextFile => throw .nextFile
    | .exit status => do
      match status with
      | some expression =>
        let value ← evaluate fuel expression
        modify fun state => { state with
          status := ((integerOf value.toNumber).emod 256).toNat }
      | none => pure ()
      throw .exit
    | .returned value => do
      match value with
      | some expression => throw (.returned (← evaluate fuel expression))
      | none => throw (.returned .unset)
    | .breakLoop => throw .broke
    | .continueLoop => throw .continued
    | .evaluate expression => do
      let _ ← evaluate fuel expression

def executeAll : (fuel : Nat) → List Statement → Run Unit
  | 0, _ => fault "too many steps"
  | _ + 1, [] => return
  | fuel + 1, first :: rest => do
    execute fuel first
    executeAll fuel rest

/-- Runs the body of a loop once; it tells whether the loop goes on. -/
def executeRound : (fuel : Nat) → Statement → Run Bool
  | 0, _ => fault "too many steps"
  | fuel + 1, body => do
    Work.breathe
    match ← Activity.attempt (execute fuel body) with
    | .ok _ => return true
    | .error .broke => return false
    | .error .continued => return true
    | .error other => throw other

/-- Repeats a body as long as a test holds. -/
def loop : (fuel : Nat) → Option Expr → Statement → Statement → Run Unit
  | 0, _, _, _ => fault "too many steps"
  | fuel + 1, test, body, step => do
    let holds ← match test with
      | some expression => do pure (← evaluate fuel expression).isTrue
      | none => pure true
    if holds then
      if ← executeRound fuel body then
        execute fuel step
        loop fuel test body step

def loopOver : (fuel : Nat) → String → List String → Statement → Run Unit
  | 0, _, _, _ => fault "too many steps"
  | _ + 1, _, [], _ => return
  | fuel + 1, name, key :: rest, body => do
    setVariable name (.text key.toList)
    if ← executeRound fuel body then loopOver fuel name rest body

/-- Puts out a text, or sends it elsewhere. -/
def send : (fuel : Nat) → List Char → Option (Destination × Expr) → Run Unit
  | 0, _, _ => fault "too many steps"
  | fuel + 1, text, target => do
    match target with
    | none => emit text
    | some (kind, expression) => sendTo kind (← nameOf (← evaluate fuel expression)) text

end

/-- How many steps a rule may take. -/
def stepBound : Nat := 1000000000000

def applies (index : Nat) (rule : Rule) : Run Bool := do
  let holds (test : Expr) : Run Bool := do
    return (← evaluate functions stepBound test).isTrue
  match rule.pattern with
  | .always => return true
  | .when test => holds test
  | .between first last =>
    let isOpen := (← get).ranges.contains index
    let begins ← if isOpen then pure true else holds first
    if !begins then return false
    else
      let ends ← holds last
      modify fun state => { state with ranges :=
        if ends then state.ranges.filter (· ≠ index)
        else if isOpen then state.ranges else index :: state.ranges }
      return true
  | _ => return false

def runAction (rule : Rule) : Run Unit :=
  match rule.action with
  | some body => execute functions stepBound body
  | none => execute functions stepBound (.print [] none)

def runRules : List (Rule × Nat) → Run Unit
  | [] => return
  | (rule, index) :: rest => do
    if ← applies functions index rule then runAction functions rule
    runRules rest

/-- Runs the rules on every record; `bound` bounds the records. -/
def runRecords (rules : List (Rule × Nat)) : (bound : Nat) → Run Unit
  | 0 => return
  | bound + 1 => do
    match ← nextRecord unescaped inputBound with
    | none => return
    | some line =>
      Work.breathe
      setRecord (.outside line)
      match ← Activity.attempt (runRules functions rules) with
      | .ok _ => pure ()
      | .error .nextRecord => pure ()
      | .error .nextFile => skipFile
      | .error other => throw other
      runRecords rules bound

/-- Runs actions until one of them ends the script; it tells whether one has. -/
def untilExit (body : Run Unit) : Run Bool := do
  match ← Activity.attempt body with
  | .ok _ => return false
  | .error .exit => return true
  | .error (.stop status) => throw (.stop status)
  | .error _ => return false

def runScript (script : Script) : Run Unit := do
  let starts := script.rules.filter fun rule => rule.pattern matches .atStart
  let ends := script.rules.filter fun rule => rule.pattern matches .atEnd
  let others := script.rules.zipIdx.filter fun (rule, _) =>
    !(rule.pattern matches .atStart) && !(rule.pattern matches .atEnd)
  let hasExited ← untilExit (starts.forM (runAction functions))
  let _ ← if hasExited || (others.isEmpty && ends.isEmpty) then pure hasExited
    else untilExit (runRecords functions others inputBound)
  let _ ← untilExit (ends.forM (runAction functions))

end

end Run

end Conformance.Tool.Records
