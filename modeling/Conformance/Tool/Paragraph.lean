import Conformance.Tool.Input
import Conformance.Shell.Integer

/-!
# Filled paragraphs

`fmt` breaks paragraphs into lines of a width that is aimed at.  Where a line ends is
chosen so that the costs of all lines together are least: lines should be of one length,
and breaks should stand behind sentences and away from single words.
-/

namespace Conformance.Tool

open Machine Shell

/-! ## Words -/

/-- A word of a paragraph and what counts for breaks around it. -/
structure FillWord where
  text : List Char
  /-- How many blanks stand behind it. -/
  space : Nat
  opens : Bool
  isMarked : Bool
  /-- Whether it may end a sentence. -/
  isPeriod : Bool
  /-- Whether it ends a sentence. -/
  isFinal : Bool
deriving Inhabited

/-- A mark that is neither a letter nor a digit. -/
def isMark (c : Char) : Bool :=
  33 ≤ c.toNat && c.toNat < 127 && !c.isAlphanum

namespace FillWord

def ofText (text : List Char) : FillWord :=
  let inner := (text.drop 1).reverse.dropWhile ")]'\"".toList.contains
  let last := inner.head?.or text.head?
  { text, space := 0
    opens := (text.head?.map "([\x60'\"".toList.contains).getD false
    isMarked := (text.getLast?.map isMark).getD false
    isPeriod := (last.map ".?!".toList.contains).getD false, isFinal := false }

end FillWord

/-! ## Breaks -/

/-- The widths of lines. -/
structure FillWidths where
  /-- No line is to reach it. -/
  most : Nat
  /-- The width that is aimed at. -/
  goal : Nat

/-- The best way from a word to the end. -/
structure FillBreak where
  cost : Int
  /-- The word with which the next line begins. -/
  next : Nat
  /-- How long the line becomes. -/
  length : Int
deriving Inhabited

namespace FillBreak

def square (n : Int) : Int := n * n

def shortCost (n : Int) : Int := square (n * 10)

def raggedCost (n : Int) : Int := shortCost n / 2

def baseCost (words : Array FillWord) (place : Nat) : Int :=
  let word (k : Nat) : FillWord := words.getD k default
  let start : Int := 4900
  let behind : Int :=
    if place = 0 then 0
    else
      let before := word (place - 1)
      if before.isPeriod then (if before.isFinal then -2500 else 360000)
      else if before.isMarked then -1600
      else if 1 < place && (word (place - 2)).isFinal then
        Int.tdiv 40000 (Int.ofNat before.text.length + 2)
      else 0
  let current := word place
  let own : Int := if current.opens then -1600
    else if current.isFinal then Int.tdiv 22500 (Int.ofNat current.text.length + 2)
    else 0
  start + behind + own

def lineCost (goal : Nat) (breaks : Array FillBreak) (count next : Nat) (length : Int) : Int :=
  if next = count then 0
  else
    let follows := breaks.getD next default
    shortCost (Int.ofNat goal - length) +
      (if follows.next ≠ count then raggedCost (length - follows.length) else 0)

/-- Tries every end of a line that begins with a word; `fuel` bounds them. -/
def bestFrom (widths : FillWidths) (words : Array FillWord) (breaks : Array FillBreak)
    (place : Nat) (last : Option Int) : (fuel next : Nat) → (length : Int) → (best : Option FillBreak) →
    Option FillBreak
  | 0, _, _, best => best
  | fuel + 1, next, length, best =>
    let count := words.size
    let after := (breaks.getD next default).cost
    let cost := lineCost widths.goal breaks count next length + after +
      (match last with
        | some other => if place = 0 then raggedCost (length - other) else 0
        | none => 0)
    let best := match best with
      | some found => if cost < found.cost then some ⟨cost, next, length⟩ else best
      | none => some ⟨cost, next, length⟩
    if next = count then best
    else
      let word := words.getD next default
      let longer := length + Int.ofNat (words.getD (next - 1) default).space +
        Int.ofNat word.text.length
      if longer < Int.ofNat widths.most then
        bestFrom widths words breaks place last fuel (next + 1) longer best
      else best

/-- The best breaks of all words, from the last one to the first.  `indents` are those of
the first line and the others, and `last` is the length of the line before. -/
def ofWords (widths : FillWidths) (words : Array FillWord) (indents : Nat × Nat)
    (last : Option Int) : Array FillBreak :=
  let count := words.size
  let start : Array FillBreak := Array.replicate (count + 1) ⟨0, count, 0⟩
  (List.range count).foldl (fun breaks k =>
    let place := count - 1 - k
    let indent := if place = 0 then indents.1 else indents.2
    let length := Int.ofNat (indent + (words.getD place default).text.length)
    match bestFrom widths words breaks place last (count + 1) (place + 1) length none with
    | some found =>
      breaks.setIfInBounds place { found with cost := found.cost + baseCost words place }
    | none => breaks) start

end FillBreak

/-! ## Paragraphs -/

/-- How paragraphs are told apart. -/
inductive FillManner where
  | plain
  /-- The second line sets the indent of the others. -/
  | crown
  /-- The second line has to have an indent of its own. -/
  | tagged
  /-- Every line is a paragraph. -/
  | single
deriving DecidableEq, Repr

structure FillRules where
  widths : FillWidths
  manner : FillManner
  /-- Whether there is one blank between words and two between sentences. -/
  isUniform : Bool
  /-- The text with which lines begin, without blanks around it. -/
  front : List Char
  frontIndent : Nat
  /-- The length of the front with the blanks behind it. -/
  frontLength : Nat

/-- A text that is being filled. -/
structure Filling where
  rest : List Char
  /-- The character that was read last; nothing at the end. -/
  current : Option Char
  column : Nat
  hasTabs : Bool
  indent : Nat
  nextIndent : Nat
  firstIndent : Nat
  otherIndent : Nat
  words : Array FillWord
  /-- The length of all words of the paragraph together. -/
  size : Nat
  lastLength : Nat
  /-- What has been put out, backwards. -/
  output : List Char
  /-- The column up to which the line under way is filled. -/
  outColumn : Nat

abbrev Fill := StateM Filling

namespace Fill

def advance : Fill Unit := modify fun s =>
  match s.rest with
  | c :: rest => { s with current := some c, rest }
  | [] => { s with current := none }

def putChar (c : Char) : Fill Unit := modify fun s => { s with output := c :: s.output }

def putText (text : List Char) : Fill Unit := modify fun s =>
  { s with output := text.reverse ++ s.output, outColumn := s.outColumn + text.length }

/-- Tabs up to a column; `fuel` bounds them. -/
def putTabs (target : Nat) : (fuel : Nat) → Fill Unit
  | 0 => return
  | fuel + 1 => do
    let s ← get
    if s.outColumn < target then
      set { s with output := '\t' :: s.output, outColumn := (s.outColumn / 8 + 1) * 8 }
      putTabs target fuel

/-- Puts out blanks, or tabs if there are any in the text. -/
def putSpace (count : Int) : Fill Unit := do
  let s ← get
  let target := (Int.ofNat s.outColumn + count).toNat
  let tabTarget := target / 8 * 8
  if s.hasTabs && s.outColumn + 1 < tabTarget then putTabs tabTarget (target + 1)
  let s ← get
  let blanks := target - s.outColumn
  set { s with
    output := List.replicate blanks ' ' ++ s.output
    outColumn := s.outColumn + blanks }

/-- Passes over blanks and tabs; `fuel` bounds them. -/
def skipSpace : (fuel : Nat) → Fill Unit
  | 0 => return
  | fuel + 1 => do
    let s ← get
    match s.current with
    | some ' ' =>
      set { s with column := s.column + 1 }
      advance
      skipSpace fuel
    | some '\t' =>
      set { s with column := (s.column / 8 + 1) * 8, hasTabs := true }
      advance
      skipSpace fuel
    | _ => return

def skipAllSpace : Fill Unit := do skipSpace ((← get).rest.length + 1)

/-- Passes over the front of a line as far as it is there; tells whether it is whole. -/
def skipFront : List Char → Fill Bool
  | [] => return true
  | c :: rest => do
    let s ← get
    if s.current = some c then
      set { s with column := s.column + 1 }
      advance
      skipFront rest
    else return false

/-- Reads the beginning of a line. -/
def readFront (rules : FillRules) : Fill Unit := do
  advance
  modify fun s => { s with column := 0 }
  skipAllSpace
  let column := (← get).column
  if rules.front.isEmpty then
    modify fun s => { s with nextIndent := min rules.frontIndent column }
  else
    modify fun s => { s with nextIndent := column }
    if ← skipFront rules.front then skipAllSpace

def isAtEnd (s : Filling) : Bool := s.current = none || s.current = some '\n'

/-- Whether the line that begins belongs to the paragraph. -/
def isSame (rules : FillRules) (s : Filling) : Bool :=
  s.nextIndent = s.indent && s.nextIndent + rules.frontLength ≤ s.column && !isAtEnd s

/-- Passes on what is left of a line; `fuel` bounds it. -/
def copyLine : (fuel : Nat) → Fill Unit
  | 0 => return
  | fuel + 1 => do
    match (← get).current with
    | none => return
    | some '\n' => return
    | some c =>
      putChar c
      advance
      copyLine fuel

/-- Passes on a line that belongs to no paragraph. -/
def copyRest (rules : FillRules) : Fill Unit := do
  modify fun s => { s with outColumn := 0 }
  let s ← get
  if s.nextIndent < s.column || !isAtEnd s then
    putSpace (Int.ofNat s.nextIndent)
    let room := s.column - (← get).outColumn
    putText (rules.front.take room)
    if !isAtEnd s then putSpace (Int.ofNat s.column - Int.ofNat (← get).outColumn)
    if s.current = none && s.nextIndent + rules.front.length ≤ s.column then putChar '\n'
  copyLine (s.rest.length + 1)

def setOtherIndent (rules : FillRules) (isSame : Bool) : Fill Unit := modify fun s =>
  { s with otherIndent := match rules.manner with
      | .single => s.firstIndent
      | .crown => if isSame then s.column else s.firstIndent
      | .tagged =>
        if isSame && s.column ≠ s.firstIndent then s.column
        else if s.otherIndent = s.firstIndent then (if s.firstIndent = 0 then 3 else 0)
        else s.otherIndent
      | .plain => s.firstIndent }

def putLine (rules : FillRules) (words : List FillWord) (indent : Nat) : Fill Unit := do
  modify fun s => { s with outColumn := 0 }
  putSpace (Int.ofNat (← get).indent)
  putText rules.front
  putSpace (Int.ofNat indent - Int.ofNat (← get).outColumn)
  for (word, place) in words.zipIdx do
    putText word.text
    if place + 1 ≠ words.length then putSpace (Int.ofNat word.space)
  modify fun s => { s with lastLength := s.outColumn }
  putChar '\n'

/-- Puts out the lines from one word up to another; `fuel` bounds the lines. -/
def putLines (rules : FillRules) (words : Array FillWord) (breaks : Array FillBreak)
    (finish : Nat) : (fuel place : Nat) → (indent : Nat) → Fill Unit
  | 0, _, _ => return
  | fuel + 1, place, indent => do
    if finish ≤ place then return
    let next := (breaks.getD place default).next
    putLine rules (words.extract place next).toList indent
    putLines rules words breaks finish fuel next (← get).otherIndent

def currentBreaks (rules : FillRules) (words : Array FillWord) : Fill (Array FillBreak) := do
  let s ← get
  return FillBreak.ofWords rules.widths words (s.firstIndent, s.otherIndent)
    (if s.lastLength = 0 then none else some (Int.ofNat s.lastLength))

/-- The words at which lines begin, from one on; `fuel` bounds them. -/
def lineStarts (breaks : Array FillBreak) (count : Nat) : (fuel place : Nat) → List Nat
  | 0, _ => []
  | fuel + 1, place =>
    if count ≤ place then []
    else place :: lineStarts breaks count fuel (breaks.getD place default).next

/-- The best place at which a paragraph that is too long is cut. -/
def cutPlace (breaks : Array FillBreak) (count : Nat) : Nat :=
  let starts := (lineStarts breaks count count 0).drop 1
  (starts.foldl (fun (state : Option Int × Nat) place =>
    let here := breaks.getD place default
    let step := here.cost - (breaks.getD here.next default).cost
    let isBetter := match state.1 with
      | some best => decide (step < best)
      | none => true
    let (best, found) := if isBetter then (step, place) else (state.1.getD 0, state.2)
    (some (best + 9), found)) (none, count)).2

/-- Puts out most of a paragraph that is too long; `more` is the word behind those that
may be put out. -/
def flush (rules : FillRules) (more : Array FillWord) : Fill Unit := do
  setOtherIndent rules true
  let s ← get
  let breaks ← currentBreaks rules s.words
  let cut := cutPlace breaks s.words.size
  putLines rules s.words breaks cut s.words.size 0 s.firstIndent
  modify fun s =>
    let words := s.words.extract cut s.words.size ++ more
    { s with words, size := words.foldl (fun n word => n + word.text.length) 0 }

/-- How many characters a paragraph may have. -/
def mostChars : Nat := 5000

/-- The number of words at which a paragraph is too long. -/
def mostWords : Nat := 998

/-- Reads the characters of a word, backwards; `fuel` bounds them. -/
def readWord (rules : FillRules) : (fuel : Nat) → (text : List Char) → Fill (List Char)
  | 0, text => return text
  | fuel + 1, text => do
    match (← get).current with
    | none => return text
    | some c =>
      if !text.isEmpty && isSpaceChar c then return text
      if (← get).size + text.length = mostChars then
        if (← get).words.isEmpty then
          modify fun s => { s with output := text ++ s.output }
          advance
          readWord rules fuel [c]
        else
          flush rules #[]
          advance
          readWord rules fuel (c :: text)
      else
        advance
        readWord rules fuel (c :: text)

/-- Reads the words of a line; `fuel` bounds them. -/
def readWords (rules : FillRules) : (fuel : Nat) → Fill Unit
  | 0 => return
  | fuel + 1 => do
    let text := (← readWord rules ((← get).rest.length + 2) []).reverse
    modify fun s => { s with column := s.column + text.length }
    let start := (← get).column
    skipAllSpace
    let s ← get
    let word := FillWord.ofText text
    let space := s.column - start
    let isFinal := s.current = none || (word.isPeriod && (s.current = some '\n' || 1 < space))
    let word := { word with
      isFinal
      space := if isAtEnd s || rules.isUniform then (if isFinal then 2 else 1) else space }
    if s.words.size = mostWords then flush rules #[word]
    else set { s with words := s.words.push word, size := s.size + text.length }
    if !isAtEnd (← get) then readWords rules fuel

/-- Reads a line of a paragraph and the beginning of the next one. -/
def readLine (rules : FillRules) : Fill Unit := do
  readWords rules ((← get).rest.length + 2)
  readFront rules

/-- Reads lines as long as they belong to the paragraph; `fuel` bounds them. -/
def readLines (rules : FillRules) : (fuel : Nat) → Fill Unit
  | 0 => return
  | fuel + 1 => do
    let s ← get
    if isSame rules s && s.column = s.otherIndent then
      readLine rules
      readLines rules fuel

/-- Passes on lines up to the next paragraph; tells whether there is one.  `fuel` bounds
the lines. -/
def findParagraph (rules : FillRules) : (fuel : Nat) → Fill Bool
  | 0 => return false
  | fuel + 1 => do
    let s ← get
    if isAtEnd s || s.nextIndent < rules.frontIndent ||
        s.column < s.nextIndent + rules.frontLength then
      copyRest rules
      if (← get).current = none then return false
      putChar '\n'
      readFront rules
      findParagraph rules fuel
    else return true

/-- Reads and fills one paragraph after the other; `fuel` bounds them. -/
def fillAll (rules : FillRules) : (fuel : Nat) → Fill Unit
  | 0 => return
  | fuel + 1 => do
    modify fun s => { s with lastLength := 0 }
    let bound := (← get).rest.length + 2
    if ← findParagraph rules bound then
      modify fun s => { s with
        indent := s.nextIndent, firstIndent := s.column, words := #[], size := 0 }
      readLine rules
      let s ← get
      let same := isSame rules s
      setOtherIndent rules same
      match rules.manner with
      | .single => pure ()
      | .crown =>
        if same then
          readLine rules
          readLines rules bound
      | .tagged =>
        if same && s.column ≠ s.firstIndent then
          readLine rules
          readLines rules bound
      | .plain => readLines rules bound
      modify fun s => { s with words := s.words.modify (s.words.size - 1) fun word =>
        { word with isPeriod := true, isFinal := true } }
      let s ← get
      let breaks ← currentBreaks rules s.words
      putLines rules s.words breaks s.words.size s.words.size 0 s.firstIndent
      fillAll rules fuel

end Fill

def filled (rules : FillRules) (text : List Char) : List Char :=
  let start : Filling :=
    ⟨text, none, 0, false, 0, 0, 0, 0, #[], 0, 0, [], 0⟩
  let work : Fill Unit := do
    Fill.readFront rules
    Fill.fillAll rules (text.length + 2)
  (work.run start).2.output.reverse

/-! ## The tool -/

/-- The width that a first word such as `-20` asks for. -/
def widthWord? (word : String) : Option String :=
  match word.toList with
  | '-' :: c :: rest => if c.isDigit then some (String.ofList (c :: rest)) else none
  | _ => none

def fillWidth (most : Nat) (text : String) : Work Nat :=
  match natural? text.toList with
  | some n =>
    if n ≤ most then return n
    else Work.fail ("invalid width: " ++ quoted text ++ ": Numerical result out of range")
  | none => Work.fail ("invalid width: " ++ quoted text)

def fmt : Utility := fun words => do
  let (first, words) := match words with
    | word :: rest => match widthWord? word with
      | some width => (some width, rest)
      | none => (none, words)
    | [] => (none, [])
  let options ← readOptions ⟨"cstu0123456789".toList, "wpg".toList, [], [("crown-margin", 'c'),
    ("tagged-paragraph", 't'), ("split-only", 's'), ("uniform-spacing", 'u'), ("width", 'w'),
    ("goal", 'g'), ("prefix", 'p')], true⟩ (fun letter _ => do
      if letter.isDigit then
        Work.misuse ("invalid option -- " ++ String.singleton letter ++
          "; -WIDTH is recognized only when it is the first\noption; use -w N instead")) words
  let given := (options.value? 'w').or first
  let most ← match given with
    | some text => fillWidth 2500 text
    | none => pure 75
  let widths : FillWidths ← match options.value? 'g' with
    | some text => do
      let goal ← fillWidth most text
      pure ⟨if given.isSome then most else goal + 10, goal⟩
    | none => pure ⟨most, most * 187 / 200⟩
  let front := ((options.value? 'p').getD "").toList
  let full := front.dropWhile (· = ' ')
  let manner : FillManner := if options.has 's' then .single
    else if options.has 'c' then .crown
    else if options.has 't' then .tagged else .plain
  let rules : FillRules := ⟨widths, manner, options.has 'u',
    (full.reverse.dropWhile (· = ' ')).reverse, front.length - full.length, full.length⟩
  for operand in Work.orInput options.operands do
    match ← Work.openOperand operand with
    | .error fault =>
      Work.complain ("cannot open " ++ quoted operand ++ " for reading: " ++ fault.text)
    | .ok descriptor =>
      let (data, fault) ← Work.readRest descriptor Stream.pieceBound []
      Work.closeOperand descriptor
      Work.putChars (filled rules (data.data.toList.map fun b => Char.ofNat b.toNat))
      if fault.isSome then Work.complain "read error"

end Conformance.Tool
