import Conformance.Shell.Escape
import Conformance.Shell.Layout

/-!
# Formats

A format is repeated until the arguments are used up.  What it puts out and what it
complains about come in one sequence, so that whoever shows them can choose the order.
-/

namespace Conformance.Shell

/-- Something that a format puts out or complains about. -/
inductive Printed where
  | text (content : List Char)
  | warning (message : String)

/-- Why a format is broken off; what came out before is kept. -/
inductive PrintStop where
  /-- The rest is left out. -/
  | quiet
  | failed (message : String)

structure Printing where
  /-- What came out, latest first. -/
  printed : List Printed
  /-- Arguments that no conversion has used yet. -/
  rest : List String
  status : Nat

abbrev Print := ExceptT PrintStop (StateM Printing)

namespace Print

def emit (text : List Char) : Print Unit :=
  modify fun state => { state with printed := .text text :: state.printed }

def warn (message : String) : Print Unit :=
  modify fun state => { state with printed := .warning message :: state.printed, status := 1 }

def take? : Print (Option String) := do
  let state ← get
  set { state with rest := state.rest.drop 1 }
  return state.rest.head?

/-- Complains about an argument that is no number as a whole. -/
def judge (argument : String) (rest : List Char) (isFound isClamped : Bool) : Print Unit := do
  if !isFound && !argument.isEmpty then warn (argument ++ ": expected numeric value")
  else if !rest.isEmpty then warn (argument ++ ": not completely converted")
  else if isClamped then warn (argument ++ ": Numerical result out of range")

def quotedCode? : List Char → Option Nat
  | '\'' :: c :: _ => some c.toNat
  | '"' :: c :: _ => some c.toNat
  | ['\''] => some 0
  | ['"'] => some 0
  | _ => none

/-- The next argument as a whole number with a sign. -/
def integer : Print Int := do
  match ← take? with
  | none => return 0
  | some argument =>
    match quotedCode? argument.toList with
    | some code => return Int.ofNat code
    | none =>
      let read := integerAt none argument.toList
      judge argument read.rest read.isFound read.isClamped
      return read.value

/-- The next argument as a whole number without a sign; a negative one wraps around. -/
def natural : Print Nat := do
  match ← take? with
  | none => return 0
  | some argument =>
    match quotedCode? argument.toList with
    | some code => return code
    | none =>
      let text := argument.toList.dropWhile isSpaceChar
      let (negative, body) := match text with
        | '-' :: rest => (true, rest)
        | '+' :: rest => (false, rest)
        | _ => (false, text)
      let read := integerAt none body
      let all := if read.isClamped then wide body else read.value.toNat
      let bound := Nat.pow 2 64
      let isLarge := bound ≤ all
      judge argument (if read.isFound then read.rest else argument.toList) read.isFound isLarge
      return if isLarge then bound - 1 else if negative then (bound - all) % bound else all
where
  /-- The value of digits that a signed number does not hold. -/
  wide (body : List Char) : Nat :=
    match body with
    | '0' :: 'x' :: more => (digitsAt 16 more).1.getD 0
    | '0' :: 'X' :: more => (digitsAt 16 more).1.getD 0
    | '0' :: more => (digitsAt 8 more).1.getD 0
    | _ => (digitsAt 10 body).1.getD 0

/-- The next argument as any number. -/
def real : Print Binary64 := do
  match ← take? with
  | none => return .zero
  | some argument =>
    match quotedCode? argument.toList with
    | some code => return .ofDecimal false code 0
    | none =>
      match numeralAt? argument.toList with
      | some (value, rest) =>
        judge argument rest true false
        return value
      | none =>
        judge argument argument.toList false false
        return .zero

/-- A width or precision: digits, or an asterisk that stands for the next argument. -/
def fieldNumber (text : List Char) : Print (Option Int × List Char) := do
  match text with
  | '*' :: rest => return (some (← integer), rest)
  | _ =>
    let digits := text.takeWhile Char.isDigit
    return ((digitsAt 10 digits).1.map Int.ofNat, text.drop digits.length)

/-- One conversion behind its mark; yields what follows it. -/
def conversion (text : List Char) : Print (List Char) := do
  let flags := text.takeWhile isLayoutFlag
  let (width, behind) ← fieldNumber (text.drop flags.length)
  let (precision, rest) ← match behind with
    | '.' :: more => do
      let (found, rest) ← fieldNumber more
      pure (some (found.getD 0), rest)
    | _ => pure (none, behind)
  let layout := layoutOf flags (width.getD 0) precision
  match rest with
  | [] => throw (.failed "missing format character")
  | letter :: after =>
    match letter with
    | 's' => emit (layout.text ((← take?).getD "").toList)
    | 'b' =>
      let (shown, stopped) := unescapeText ((← take?).getD "")
      emit (layout.text shown)
      if stopped then throw .quiet
    | 'c' => emit (layout.pad [((← take?).getD "").toList.headD '\x00'])
    | _ =>
      if letter = 'd' || letter = 'i' then emit (layout.integer (← integer))
      else if ['u', 'x', 'X', 'o'].contains letter then
        emit (layout.unsigned letter (← natural))
      else if ['f', 'F', 'e', 'E', 'g', 'G'].contains letter then
        emit (layout.float letter (← real))
      else
        let shown := text.take (text.length - after.length)
        throw (.failed ("%" ++ String.ofList shown ++ ": invalid directive"))
    return after

/-- One pass over a format; `fuel` bounds its length. -/
def pass : (fuel : Nat) → List Char → Print Unit
  | 0, _ => return
  | _ + 1, [] => return
  | fuel + 1, '\\' :: rest => do
    let (shown, after) := escapeAt rest
    emit [shown]
    pass fuel after
  | fuel + 1, '%' :: '%' :: rest => do
    emit ['%']
    pass fuel rest
  | fuel + 1, '%' :: rest => do
    let after ← conversion rest
    pass fuel after
  | fuel + 1, c :: rest => do
    emit [c]
    pass fuel rest

/-- Passes over a format as long as they use up arguments. -/
def passes (format : List Char) : (fuel : Nat) → Print Unit
  | 0 => return
  | fuel + 1 => do
    let before := (← get).rest.length
    pass (format.length + 1) format
    let after := (← get).rest.length
    if after ≠ 0 && after ≠ before then passes format fuel

end Print

/-- What a format makes of arguments. -/
structure Formatted where
  printed : List Printed
  status : Nat
  /-- Why it was broken off. -/
  failure : Option String

def format (text : String) (arguments : List String) : Formatted :=
  let (result, state) :=
    ((Print.passes text.toList (arguments.length + 1)).run).run ⟨[], arguments, 0⟩
  let failure := match result with
    | .error (.failed message) => some message
    | _ => none
  ⟨state.printed.reverse, state.status, failure⟩

end Conformance.Shell
