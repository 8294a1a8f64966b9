import Conformance.Machine.Process
import Conformance.Shell.Integer

/-!
# Tests

Conditions on texts, numbers and files, given as a list of words.  What a word means
depends on the words around it; with few words the number of them decides.
-/

namespace Conformance.Shell

open Machine

/-- What kind of operator a word is. -/
inductive TestOperator where
  | unary
  | binary
  | negation
  | both
  | either
  | opening
  | closing
deriving DecidableEq, Repr

def unaryTests : List String :=
  ["-r", "-w", "-x", "-e", "-f", "-d", "-c", "-b", "-p", "-u", "-g", "-k", "-s", "-t", "-z", "-n",
    "-h", "-L", "-O", "-G", "-S"]

def binaryTests : List String :=
  ["=", "==", "!=", "<", ">", "-eq", "-ne", "-ge", "-gt", "-le", "-lt", "-nt", "-ot", "-ef"]

def testOperator? (word : String) : Option TestOperator :=
  if unaryTests.contains word then some .unary
  else if binaryTests.contains word then some .binary
  else match word with
    | "!" => some .negation
    | "-a" => some .both
    | "-o" => some .either
    | "(" => some .opening
    | ")" => some .closing
    | _ => none

/-- The words that are left, the current one first.  Mistakes are told by a message. -/
abbrev Test := Activity (List String) String

namespace Test

/-- What the first of some words is: nothing at their end, else an operator, if it is
one there. -/
def lexeme : List String → Option (Option TestOperator)
  | [] => none
  | word :: rest =>
    match testOperator? word with
    | some .unary => if isOperand rest then some none else some (some .unary)
    | some .opening => if rest.isEmpty then some none else some (some .opening)
    | other => some other
where
  /-- Whether what follows makes an operator of one operand an operand itself. -/
  isOperand : List String → Bool
    | [] => true
    | [_] => false
    | next :: _ => testOperator? next = some .binary

/-- The word under way, and the ones from it on. -/
def words : Test (List String) := get

def advance : Test Unit := modify (List.drop 1)

def number (text : String) : Test Int := do
  match integer? text with
  | some n => return n
  | none => throw ("Illegal number: " ++ text)

def ofFile (found : Except Fault Info) (property : Info → Bool) : Bool :=
  match found with
  | .ok info => property info
  | .error _ => false

def hasMode (bits : Nat) (info : Info) : Bool := Nat.land info.mode bits ≠ 0

def unary (operator operand : String) : Test Bool := do
  match operator with
  | "-z" => return operand.isEmpty
  | "-n" => return !operand.isEmpty
  | "-t" =>
    let _ ← number operand
    return false
  | "-h" => return ofFile (← Activity.examineItself operand) (·.kind = .link)
  | "-L" => return ofFile (← Activity.examineItself operand) (·.kind = .link)
  | _ =>
    let found ← Activity.examine operand
    return ofFile found (match operator with
      | "-r" => (·.canRead)
      | "-w" => (·.canWrite)
      | "-x" => (·.canRun)
      | "-e" => fun _ => true
      | "-f" => (·.kind = .regular)
      | "-d" => (·.kind = .directory)
      | "-c" => (·.kind = .device)
      | "-p" => (·.kind = .queue)
      | "-s" => (0 < ·.size)
      | "-O" => (·.isOwn)
      | "-G" => (·.isOwn)
      | "-u" => hasMode 2048
      | "-g" => hasMode 1024
      | "-k" => hasMode 512
      | _ => fun _ => false)

def binary (operator left right : String) : Test Bool := do
  let numbers (compare : Int → Int → Bool) : Test Bool := do
    let a ← number left
    let b ← number right
    return compare a b
  let files (compare : Info → Info → Bool) : Test Bool := do
    match ← Activity.examine left, ← Activity.examine right with
    | .ok a, .ok b => return compare a b
    | _, _ => return false
  match operator with
  | "!=" => return left ≠ right
  | "<" => return left < right
  | ">" => return right < left
  | "-eq" => numbers (· = ·)
  | "-ne" => numbers (· ≠ ·)
  | "-lt" => numbers (· < ·)
  | "-le" => numbers (· ≤ ·)
  | "-gt" => numbers (· > ·)
  | "-ge" => numbers (· ≥ ·)
  | "-nt" => files fun a b => b.modified < a.modified
  | "-ot" => files fun a b => a.modified < b.modified
  | "-ef" => files fun a b => a.node = b.node
  | _ => return left = right

/-- A comparison whose first operand is the word under way. -/
def comparison : Test Bool := do
  match ← words with
  | left :: operator :: right :: rest =>
    set (right :: rest)
    binary operator left right
  | _ :: operator :: _ => throw (operator ++ ": argument expected")
  | _ => return false

/-- The levels of a condition, from loose to tight. -/
inductive Level where
  | disjunction
  | conjunction
  | negation
deriving DecidableEq

/-- The truth of what begins at the word under way, which is left at its last word;
`fuel` bounds the nesting. -/
def truth : (fuel : Nat) → Level → (first : Option (Option TestOperator)) → Test Bool
  | 0, _, _ => return false
  | fuel + 1, .disjunction, first => do
    let here ← truth fuel .conjunction first
    if lexeme ((← words).drop 1) = some (some .either) then
      modify (List.drop 2)
      let rest ← truth fuel .disjunction (lexeme (← words))
      return here || rest
    else return here
  | fuel + 1, .conjunction, first => do
    let here ← truth fuel .negation first
    if lexeme ((← words).drop 1) = some (some .both) then
      modify (List.drop 2)
      let rest ← truth fuel .conjunction (lexeme (← words))
      return here && rest
    else return here
  | fuel + 1, .negation, first => do
    match first with
    | none => return false
    | some (some .negation) =>
      let next := lexeme ((← words).drop 1)
      if next.isSome then advance
      return !(← truth fuel .negation next)
    | some (some .opening) =>
      advance
      let next := lexeme (← words)
      if next = some (some .closing) then return false
      else
        let inner ← truth fuel .disjunction next
        advance
        if lexeme (← words) ≠ some (some .closing) then throw "closing paren expected"
        return inner
    | some (some .unary) =>
      match ← words with
      | operator :: operand :: rest =>
        set (operand :: rest)
        unary operator operand
      | operator :: _ => throw (operator ++ ": argument expected")
      | [] => return false
    | _ =>
      let all ← words
      if lexeme (all.drop 1) = some (some .binary) then comparison
      else return !(all.headD "").isEmpty

def condition : List String → (fuel : Nat) → Test Bool
  | [], _ => return false
  | _, 0 => return false
  | all, fuel + 1 => do
    let general (all : List String) (first : Option (Option TestOperator)) : Test Bool := do
      set all
      let result ← truth (4 * all.length + 8) .disjunction first
      match ← words with
      | word :: _ :: _ =>
        throw (if word.isEmpty then "unexpected operator" else word ++ ": unexpected operator")
      | _ => return result
    let isBinary : Bool := match all with
      | [_, operator, _] => testOperator? operator = some .binary
      | _ => false
    if isBinary then general all (some none)
    else if all.length = 3 || all.length = 4 then
      if all.head? = some "(" && all.getLast? = some ")" then
        let inner := (all.drop 1).dropLast
        general inner (lexeme inner)
      else if all.head? = some "!" then return !(← condition (all.drop 1) fuel)
      else general all (lexeme all)
    else general all (lexeme all)

/-- The truth of a condition, or what is wrong with it. -/
def evaluate {σ ε : Type} (all : List String) : Activity σ ε (Except String Bool) :=
  fun s k => condition all (all.length + 1) all fun result _ => k (.ok result) s

end Test

end Conformance.Shell
