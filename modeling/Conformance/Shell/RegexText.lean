import Conformance.Shell.Regex

/-!
# Regular expressions as texts

Reading an expression.  There are two styles: in the basic one, brackets and most signs
work behind a backslash only, in the extended one without.  What makes no sense is a
fault, or stands for itself where the reader is lenient.
-/

namespace Conformance.Shell

/-- What is wrong with an expression. -/
inductive RegexFault where
  | badPattern
  | badCollation
  | badClass
  | bareClass
  | trailingBackslash
  | badReference
  | openBracket
  | openGroup
  | closedGroup
  | openInterval
  | badInterval
  | badRange
  | badRepetition
  | tooBig
deriving DecidableEq, Repr

def RegexFault.message : RegexFault → String
  | .badPattern => "Invalid regular expression"
  | .badCollation => "Invalid collation character"
  | .badClass => "Invalid character class name"
  | .bareClass => "character class syntax is [[:space:]], not [:space:]"
  | .trailingBackslash => "Trailing backslash"
  | .badReference => "Invalid back reference"
  | .openBracket => "Unmatched [, [^, [:, [., or [="
  | .openGroup => "Unmatched ( or \\("
  | .closedGroup => "Unmatched ) or \\)"
  | .openInterval => "Unmatched \\\x7b"
  | .badInterval => "Invalid content of \\\x7b\\\x7d"
  | .badRange => "Invalid range end"
  | .badRepetition => "Invalid preceding regular expression"
  | .tooBig => "Regular expression too big"

/-- How an expression is written. -/
structure RegexStyle where
  /-- Whether brackets and signs work without a backslash. -/
  extended : Bool
  foldCase : Bool
  /-- Whether signs that make no sense stand for themselves or for nothing. -/
  lenient : Bool
  /-- Whether the starts and ends of lines inside the text count. -/
  byLines : Bool
  /-- Whether letters behind a backslash, also inside brackets, stand for control
  characters; then there are no references to groups. -/
  escapes : Bool
  /-- Whether there are repetitions with bounds. -/
  intervals : Bool

namespace RegexStyle

def basic : RegexStyle := ⟨false, false, false, false, false, true⟩

def extendedStyle : RegexStyle := ⟨true, false, false, false, false, true⟩

end RegexStyle

/-! ## Brackets -/

namespace CharSet

/-- A member inside brackets: a class, or one character that may begin a range. -/
def regexMember (escapes : Bool) (text : List Char) : Except RegexFault (Member × List Char) :=
  let marked (mark : Char) (rest : List Char) : Option (List Char × List Char) :=
    let rec go : List Char → Option (List Char × List Char)
      | [] => none
      | c :: more =>
        if c = mark then
          match more with
          | ']' :: after => some ([], after)
          | _ => (go more).map fun (name, after) => (c :: name, after)
        else (go more).map fun (name, after) => (c :: name, after)
    go rest
  match text with
  | [] => .error .openBracket
  | '[' :: ':' :: rest =>
    match marked ':' rest with
    | some (name, after) =>
      match classRanges? (String.ofList name) with
      | some ranges => .ok (.ranges ranges, after)
      | none => .error .badClass
    | none => .ok (.char '[', ':' :: rest)
  | '[' :: '=' :: rest =>
    match marked '=' rest with
    | some ([c], after) => .ok (.char c, after)
    | some _ => .error .badCollation
    | none => .error .openBracket
  | '[' :: '.' :: rest =>
    match marked '.' rest with
    | some ([c], after) => .ok (.char c, after)
    | some _ => .error .badCollation
    | none => .error .openBracket
  | '\\' :: c :: rest =>
    if escapes then
      .ok (.char (match c with
        | 'n' => '\n'
        | 't' => '\t'
        | 'r' => '\r'
        | 'f' => '\x0c'
        | 'v' => '\x0b'
        | 'a' => '\x07'
        | 'b' => '\x08'
        | _ => c), rest)
    else .ok (.char '\\', c :: rest)
  | c :: rest => .ok (.char c, rest)

/-- The inside of brackets up to the closing one, which counts as a member in the first
place; `fuel` bounds the members. -/
def regexMembers (escapes : Bool) : (fuel : Nat) → (isFirst : Bool) → List Char →
    Except RegexFault (List (Char × Char) × List Char)
  | 0, _, _ => .error .openBracket
  | fuel + 1, isFirst, text =>
    match text with
    | [] => .error .openBracket
    | c :: behind =>
      if c = ']' && !isFirst then .ok ([], behind)
      else do
        let (first, rest) ← regexMember escapes text
        match rest with
        | '-' :: d :: more =>
          if d = ']' then
            let (others, left) ← regexMembers escapes fuel false rest
            match first with
            | .ranges found => return (found ++ others, left)
            | .char low => return ((low, low) :: others, left)
          else
            let (last, after) ← regexMember escapes (d :: more)
            match first with
            | .ranges _ => .error .badRange
            | .char low =>
              match last with
              | .ranges _ => .error .badRange
              | .char high =>
                if high < low then .error .badRange
                else
                  let (others, left) ← regexMembers escapes fuel false after
                  return ((low, high) :: others, left)
        | _ =>
          let (others, left) ← regexMembers escapes fuel false rest
          match first with
          | .ranges found => return (found ++ others, left)
          | .char c => return ((c, c) :: others, left)

/-- The set that brackets hold, read behind the opening one. -/
def readRegex (escapes : Bool) (text : List Char) : Except RegexFault (CharSet × List Char) := do
  if text.isEmpty then .error .badPattern
  let (outside, inside) := match text with
    | '^' :: rest => (true, rest)
    | _ => (false, text)
  let (ranges, rest) ← regexMembers escapes (inside.length + 1) true inside
  return (⟨outside, ranges⟩, rest)

end CharSet

/-! ## Expressions -/

/-- What is left of an expression while it is read. -/
structure RegexState where
  rest : List Char
  /-- How many groups have begun. -/
  groups : Nat
  /-- Which groups have ended. -/
  closed : List Nat
  /-- Signs of repetition that had nothing to repeat, latest first. -/
  stray : List Char

abbrev RegexReader := StateT RegexState (Except RegexFault)

def roundLimit : Nat := 32767

/-- What the bounds of a repetition look like. -/
inductive Interval where
  | bounds (least : Nat) (most : Option Nat) (rest : List Char)
  | fault (fault : RegexFault)

namespace RegexStyle

/-- Whether a text begins with a sign, which in the basic style needs a backslash. -/
def after? (style : RegexStyle) (sign : Char) (text : List Char) : Option (List Char) :=
  match style.extended, text with
  | true, c :: rest => if c = sign then some rest else none
  | false, '\\' :: c :: rest => if c = sign then some rest else none
  | _, _ => none

def numberAt (text : List Char) : Option Nat × List Char :=
  let digits := text.takeWhile Char.isDigit
  (if digits.isEmpty then none
    else some (digits.foldl (fun n c => n * 10 + (c.toNat - '0'.toNat)) 0),
    text.drop digits.length)

/-- The bounds of a repetition, behind the opening brace. -/
def interval (style : RegexStyle) (text : List Char) : Interval :=
  let finish (low : Nat) (high : Option Nat) (rest : List Char) : Interval :=
    match style.after? '\x7d' rest with
    | some after =>
      if roundLimit < high.getD low || roundLimit < low then .fault .tooBig
      else if high.any (· < low) then .fault .badInterval
      else .bounds low high after
    | none => .fault (if rest.isEmpty then .openInterval else .badInterval)
  let (low, rest) := numberAt text
  match rest with
  | ',' :: more =>
    let (high, rest) := numberAt more
    finish (low.getD 0) high rest
  | _ =>
    match low with
    | some n => finish n (some n) rest
    | none => .fault (if rest.isEmpty then .openInterval else .badInterval)

def endsBranch (style : RegexStyle) (depth : Nat) (text : List Char) : Bool :=
  text.isEmpty || (style.after? '|' text).isSome || (0 < depth && (style.after? ')' text).isSome)

def literal (style : RegexStyle) (c : Char) : Regex :=
  .one (if style.foldCase then (CharSet.only c).foldCase else CharSet.only c)

/-- The kind of repetition at the start of a text, and what follows: its bounds, or a
fault. -/
def repetition? (style : RegexStyle) (text : List Char) : Option Interval :=
  match text with
  | '*' :: rest => some (.bounds 0 none rest)
  | _ =>
    match style.after? '+' text with
    | some rest => some (.bounds 1 none rest)
    | none =>
      match style.after? '?' text with
      | some rest => some (.bounds 0 (some 1) rest)
      | none =>
        if style.intervals then (style.after? '\x7b' text).map style.interval else none

/-- Repetitions behind an item; `fuel` bounds them. -/
def repetitions (style : RegexStyle) : (fuel : Nat) → (isFirst : Bool) → Regex →
    RegexReader Regex
  | 0, _, item => return item
  | fuel + 1, isFirst, item => do
    let state ← get
    match style.repetition? state.rest with
    | none => return item
    | some (.bounds low high rest) =>
      if !style.extended && !style.lenient && !isFirst then throw .badRepetition
      set { state with rest }
      repetitions style fuel false (.times item low high)
    | some (.fault fault) =>
      if style.extended && style.lenient && fault ≠ .tooBig &&
          !isReversed (state.rest.drop 1) then return item
      else throw fault
where
  /-- Whether the bounds are there but in the wrong order. -/
  isReversed (text : List Char) : Bool :=
    let (low, rest) := numberAt text
    match low, rest with
    | some low, ',' :: more =>
      match numberAt more with
      | (some high, '\x7d' :: _) => high < low
      | _ => false
    | _, _ => false

def escaped (style : RegexStyle) (c : Char) : RegexReader Regex := do
  let control? : Option Char := match c with
    | 'n' => some '\n'
    | 't' => some '\t'
    | 'r' => some '\r'
    | 'f' => some '\x0c'
    | 'v' => some '\x0b'
    | 'a' => some '\x07'
    | _ => none
  match style.escapes, control? with
  | true, some control => return style.literal control
  | _, _ =>
    match c with
    | 'w' => return .one wordSet
    | 'W' => return .one { wordSet with outside := true }
    | 's' => return .one ⟨false, [('\t', '\r'), (' ', ' ')]⟩
    | 'S' => return .one ⟨true, [('\t', '\r'), (' ', ' ')]⟩
    | 'b' => return .edge .wordEdge
    | 'B' => return .edge .noWordEdge
    | '<' => return .edge .wordStart
    | '>' => return .edge .wordStop
    | '\x60' => return .edge .start
    | '\'' => return .edge .stop
    | _ =>
      if '1' ≤ c && c ≤ '9' && !style.escapes then
        let index := c.toNat - '0'.toNat
        if (← get).closed.contains index then return .again index
        else throw .badReference
      else return style.literal c

def startEdge (style : RegexStyle) : Regex := .edge (if style.byLines then .lineStart else .start)

def stopEdge (style : RegexStyle) : Regex := .edge (if style.byLines then .lineStop else .stop)

/-- Skips signs of repetition that have nothing to repeat; `fuel` bounds them. -/
def skipStray (style : RegexStyle) : (fuel : Nat) → RegexReader Unit
  | 0 => return
  | fuel + 1 => do
    let state ← get
    match style.repetition? state.rest with
    | some (.bounds _ _ rest) =>
      set { state with rest }
      skipStray style fuel
    | _ => return

/-- Whether brackets with this inside look like the name of a class without its own
brackets. -/
def isBareClass (inside : List Char) : Bool :=
  let names := if inside.head? = some '^' then inside.drop 1 else inside
  match names, names.reverse with
  | ':' :: _ :: _, ']' :: ':' :: _ =>
    3 < names.length && !names.contains '-' && !names.contains '['
  | _, _ => false

mutual

/-- Alternatives up to the end of the text or of the group. -/
def alternatives (style : RegexStyle) : (fuel : Nat) → (depth : Nat) → RegexReader Regex
  | 0, _ => throw .tooBig
  | fuel + 1, depth => do
    let first ← branch style fuel depth true
    let state ← get
    match style.after? '|' state.rest with
    | some rest =>
      set { state with rest }
      return .either first (← alternatives style fuel depth)
    | none => return first

/-- Items one after the other; `atStart` tells that none has been read but an edge. -/
def branch (style : RegexStyle) : (fuel : Nat) → (depth : Nat) → (atStart : Bool) →
    RegexReader Regex
  | 0, _, _ => throw .tooBig
  | fuel + 1, depth, atStart => do
    if atStart && style.extended then
      match style.repetition? (← get).rest with
      | some (.bounds _ _ _) =>
        if !style.lenient then throw .badRepetition
        modify fun state => { state with stray := state.rest.take 1 ++ state.stray }
        style.skipStray fuel
      | some (.fault _) => if !style.lenient then throw .badRepetition
      | none => pure ()
    if style.endsBranch depth (← get).rest then return .empty
    else
      let first ← item style fuel depth atStart
      let isStart := atStart && first = style.startEdge
      let isEdge := first = style.startEdge || first = style.stopEdge
      let whole ← if isEdge then do
          if style.extended && !style.lenient &&
              (style.repetition? (← get).rest).isSome then throw .badRepetition
          pure first
        else style.repetitions (fuel + 1) true first
      let others ← branch style fuel depth isStart
      return if others = .empty then whole else .seq whole others

def item (style : RegexStyle) : (fuel : Nat) → (depth : Nat) → (atStart : Bool) →
    RegexReader Regex
  | 0, _, _ => throw .tooBig
  | fuel + 1, depth, atStart => do
    let state ← get
    match style.after? '(' state.rest with
    | some inside =>
      let index := state.groups + 1
      set { state with rest := inside, groups := index }
      let body ← alternatives style fuel (depth + 1)
      let state ← get
      match style.after? ')' state.rest with
      | some rest =>
        set { state with rest, closed := index :: state.closed }
        return .group index body
      | none => throw .openGroup
    | none =>
      match style.after? ')' state.rest with
      | some rest =>
        if style.extended && style.lenient then
          set { state with rest }
          return style.literal ')'
        else throw .closedGroup
      | none =>
        let put (rest : List Char) (found : Regex) : RegexReader Regex := do
          set { state with rest }
          return found
        match state.rest with
        | [] => throw .badPattern
        | '.' :: rest => put rest (.one .any)
        | '^' :: rest =>
          if style.extended || atStart then put rest style.startEdge
          else put rest (style.literal '^')
        | '$' :: rest =>
          if style.extended || style.endsBranch depth rest then put rest style.stopEdge
          else put rest (style.literal '$')
        | '[' :: rest =>
          match CharSet.readRegex style.escapes rest with
          | .ok (members, after) =>
            if style.lenient && isBareClass (rest.take (rest.length - after.length)) then
              throw .bareClass
            put after (.one (if style.foldCase then members.foldCase else members))
          | .error fault => throw fault
        | '\\' :: c :: rest =>
          if !style.extended && atStart && c = '\x7b' && !style.lenient then throw .badRepetition
          set { state with rest }
          style.escaped c
        | ['\\'] => throw .trailingBackslash
        | c :: rest => put rest (style.literal c)

end

/-- The expression that a text spells, and the signs in it that had nothing to repeat. -/
def readNoting (style : RegexStyle) (text : List Char) : Except RegexFault (Regex × List Char) :=
  match (style.alternatives (4 * text.length + 4) 0).run ⟨text, 0, [], []⟩ with
  | .ok (regex, state) => .ok (regex, state.stray.reverse)
  | .error fault => .error fault

def read (style : RegexStyle) (text : List Char) : Except RegexFault Regex :=
  (style.readNoting text).map (·.1)

def read? (style : RegexStyle) (text : List Char) : Option Regex := (style.read text).toOption

end RegexStyle

end Conformance.Shell
