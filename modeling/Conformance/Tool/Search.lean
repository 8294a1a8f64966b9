import Conformance.Shell.Lookaround
import Conformance.Shell.Pattern
import Conformance.Tool.Input
import Conformance.Tool.Mode

/-!
# Searching lines

`grep` selects the lines in which one of several expressions matches, and shows them,
parts of them, lines around them, or only where they are.  Lines are taken one by one:
a search that has found enough does not wait for the rest.
-/

namespace Conformance.Tool

open Machine Shell

/-- An expression that is looked for. -/
inductive Sought where
  | regex (body : Regex)
  | trial (body : Trial)

/-- What is searched for, and which lines count. -/
structure Search where
  sought : List Sought
  /-- Matches must be whole lines. -/
  wholeLines : Bool
  /-- Matches must be whole words. -/
  wholeWords : Bool
  inverted : Bool

namespace Search

def isWordAt (text : List Char) (place : Nat) : Bool := (text[place]?).any wordSet.accepts

/-- Whether a match begins and ends where a word does. -/
def isWord (line : List Char) (start finish : Nat) : Bool :=
  !(0 < start && isWordAt line (start - 1)) && !isWordAt line finish

/-- The first match of an expression from a place on that is a whole word: shorter
ones are tried before later ones.  `fuel` bounds the places. -/
def wordFrom? (regex : Regex) (line : List Char) : (fuel : Nat) → (low : Nat) → Option Match
  | 0, _ => none
  | fuel + 1, low =>
    match regex.find? line low with
    | none => none
    | some found =>
      if isWord line found.start found.finish then some found
      else
        let shorter := ((List.range (found.finish - found.start)).reverse.map
          (found.start + ·)).find? fun finish =>
            isWord line found.start finish &&
              (regex.reach line (Places.single found.start)).testBit finish
        match shorter with
        | some finish => some { found with finish }
        | none => wordFrom? regex line fuel (found.start + 1)

/-- An expression that has to match a whole line or a whole word. -/
def boundTrial (search : Search) (body : Trial) : Trial :=
  if search.wholeLines then .seq (.edge .start) (.seq body (.edge .stop))
  else if search.wholeWords then
    .seq (.behind false (.one wordSet)) (.seq body (.ahead false (.one wordSet)))
  else body

/-- The first match of one expression in a line from a place on. -/
def findOne? (search : Search) (line : List Char) (low : Nat) : Sought → Option Match
  | .trial body => (search.boundTrial body).find? line low
  | .regex body =>
    if search.wholeLines then
      if low = 0 && body.matchesWhole line then some ⟨0, line.length, []⟩ else none
    else if search.wholeWords then wordFrom? body line (line.length + 1) low
    else body.find? line low

/-- The first match in a line from a place on, the longest of those that begin
there. -/
def find? (search : Search) (line : List Char) (low : Nat) : Option Match :=
  match search.sought.filterMap (search.findOne? line low) with
  | [] => none
  | first :: rest => some (rest.foldl (fun best other =>
      if other.start < best.start || (other.start = best.start && best.finish < other.finish) then
        other else best) first)

def selects (search : Search) (line : List Char) : Bool :=
  (search.find? line 0).isSome != search.inverted

/-- Every match in a line that is not empty; `fuel` bounds them. -/
def findAll (search : Search) (line : List Char) : (fuel : Nat) → (low : Nat) → List Match
  | 0, _ => []
  | fuel + 1, low =>
    match search.find? line low with
    | none => []
    | some found =>
      if found.finish = found.start then search.findAll line fuel (found.start + 1)
      else found :: search.findAll line fuel found.finish

end Search

/-! ## Showing -/

/-- What is shown of the files that are searched. -/
inductive SearchReport where
  | lines
  | matches
  | count
  /-- Names of files with selected lines. -/
  | names
  /-- Names of files without selected lines. -/
  | otherNames
  | nothing
deriving DecidableEq, Repr

/-- What is done about data that is no text. -/
inductive BinaryData where
  | hidden
  | text
  | noMatch
deriving DecidableEq, Repr

/-- What is done about directories. -/
inductive DirectorySearch where
  | reading
  | skipping
  | descending
deriving DecidableEq, Repr

structure SearchRules where
  search : Search
  report : SearchReport
  /-- Whether names stand in front of lines; if this was not asked for, they do inside
  directories that are searched. -/
  names : Option Bool
  numbers : Bool
  offsets : Bool
  /-- Whether a tab aligns the lines. -/
  aligned : Bool
  coloured : Bool
  /-- Whether a null byte ends names. -/
  nullNames : Bool
  before : Option Nat
  after : Option Nat
  separator : Option String
  /-- How many lines are selected at most. -/
  most : Option Nat
  binary : BinaryData
  directories : DirectorySearch
  followsLinks : Bool
  skipsDevices : Bool
  isSilent : Bool
  mark : UInt8
  /-- What the input is called. -/
  label : String
  /-- Which files inside directories count, by their names. -/
  included : List (List PatternItem)
  excluded : List (List PatternItem)
  excludedDirectories : List (List PatternItem)

/-- How far a search through one file has come. -/
structure SearchState where
  /-- How many lines and bytes have been seen. -/
  number : Nat
  offset : Nat
  /-- How many lines were selected, and where the last of them ended. -/
  count : Nat
  selectedEnd : Nat
  /-- How many more lines are shown because of those before them. -/
  owed : Nat
  /-- Lines that may have to be shown before the next one, latest first. -/
  held : List (Nat × Nat × TextLine)
  /-- The number of the last line that was shown. -/
  lastShown : Nat
  isBinary : Bool
  /-- Whether anything was shown before, in this file or in another. -/
  hasShown : Bool

/-- What a search through several files has come to. -/
structure SearchTotal where
  found : Bool
  failed : Bool
  hasShown : Bool

namespace SearchRules

def paint (rules : SearchRules) (colour text : String) : String :=
  if rules.coloured then "\x1b[" ++ colour ++ "m\x1b[K" ++ text ++ "\x1b[m\x1b[K" else text

def paintMark (rules : SearchRules) (mark : String) : String := rules.paint "36" mark

/-- What stands in front of a line: `mark` tells lines apart from their context. -/
def head (rules : SearchRules) (name : Option String) (number offset : Nat) (mark : String) :
    String :=
  let figure (n : Nat) : String :=
    rules.paint "32" (if rules.aligned then padLeft 2 (toString n) else toString n) ++
      rules.paintMark mark
  let front := match name with
    | some name =>
      rules.paint "35" name ++ (if rules.nullNames then "\x00" else rules.paintMark mark)
    | none => ""
  front ++ (if rules.numbers then figure number else "") ++
    (if rules.offsets then figure offset else "") ++
    (if rules.aligned && (name.isSome || rules.numbers || rules.offsets) then "\t" else "")

def painted (rules : SearchRules) (line : List Char) : (place : Nat) → List Match → List Char
  | place, [] => line.drop place
  | place, found :: rest =>
    (line.drop place).take (found.start - place) ++
      (rules.paint "01;31" (String.ofList (found.part line 0))).toList ++
      painted rules line found.finish rest

def showLine (rules : SearchRules) (name : Option String) (isSelected : Bool) (number offset : Nat)
    (line : TextLine) : Work Unit := do
  let mark := if isSelected then ":" else "-"
  let isMatching := isSelected != rules.search.inverted
  let matched (_ : Unit) : List Match :=
    rules.search.findAll line.content (line.content.length + 1) 0
  if rules.report = .matches then
    if isMatching then
      for found in matched () do
        Work.put (rules.head name number (offset + found.start) mark ++
          rules.paint "01;31" (String.ofList (found.part line.content 0)))
        Work.putData ⟨#[rules.mark]⟩
  else
    Work.put (rules.head name number offset mark)
    Work.putChars (if rules.coloured && isMatching then rules.painted line.content 0 (matched ())
      else line.content)
    Work.putData ⟨#[rules.mark]⟩

def showSelected (rules : SearchRules) (name : Option String) (state : SearchState)
    (line : TextLine) : Work Unit := do
  let number := state.number + 1
  let first := (state.held.getLast?.map (·.1)).getD number
  let hasContext := rules.before.isSome || rules.after.isSome
  if hasContext && state.hasShown && state.lastShown + 1 ≠ first || hasContext && state.hasShown &&
      state.lastShown = 0 then
    match rules.separator with
    | some text => Work.putLine (rules.paintMark text)
    | none => pure ()
  for (number, offset, line) in state.held.reverse do
    rules.showLine name false number offset line
  rules.showLine name true number state.offset line

/-- Looks at one line.  The search goes on unless it has found enough. -/
def step (rules : SearchRules) (name : Option String) (state : SearchState) (line : TextLine) :
    Work (SearchState × Bool) := do
  let number := state.number + 1
  let offset := state.offset + line.content.length + 1
  let isBinary := state.isBinary ||
    (rules.binary ≠ .text && rules.mark = 10 && line.content.contains '\x00')
  let shows := (rules.report = .lines || rules.report = .matches) && !isBinary
  let seen := { state with number, offset, isBinary }
  let isFull := rules.most.any (· ≤ state.count)
  if !isFull && rules.search.selects line.content then
    if rules.report = .nothing then throw 0
    if shows then rules.showSelected name state line
    let now := { seen with
      count := state.count + 1, selectedEnd := offset, owed := rules.after.getD 0, held := [],
      lastShown := number, hasShown := true }
    let isEnough := rules.report = .names || rules.report = .otherNames ||
      (isBinary && rules.binary = .noMatch)
    let isLast := rules.most.any (· ≤ now.count) && (now.owed = 0 || !shows)
    return (now, !isEnough && !isLast)
  else if 0 < state.owed then
    if shows then rules.showLine name false number state.offset line
    let now := { seen with owed := state.owed - 1, lastShown := number }
    return (now, !(isFull && now.owed = 0))
  else
    let held := (number, state.offset, line) :: state.held
    return ({ seen with held := held.take (rules.before.getD 0) }, !isFull)

/-- Reads until something of a stream is there, and tells whether it is no text. -/
def looksBinary (rules : SearchRules) (stream : Stream) : Work (Bool × Stream) := do
  if rules.binary = .text || rules.mark ≠ 10 then return (false, stream)
  match ← Activity.read stream.descriptor stream.chunk with
  | .ok data =>
    let (lines, rest) := cutData stream.mark [] data
    return (data.data.contains 0,
      { stream with ready := lines, rest, isOver := data.isEmpty })
  | .error fault => return (false, { stream with isOver := true, fault := some fault })

/-- Complains unless complaints are unwanted. -/
def trouble (rules : SearchRules) (text : String) (total : SearchTotal) : Work SearchTotal := do
  if !rules.isSilent then Work.warn text
  return { total with failed := true }

def searchOpen (rules : SearchRules) (name : String) (isNamed : Bool) (descriptor : Nat)
    (total : SearchTotal) : Work SearchTotal := do
  let shownFront := if isNamed then some name else none
  let (isBinary, stream) ← rules.looksBinary { Stream.ofDescriptor descriptor rules.mark with
    chunk := 32768 }
  if isBinary && rules.binary = .noMatch then
    return total
  let (state, stream) ← stream.fold (rules.step shownFront)
    ⟨0, 0, 0, 0, 0, [], 0, isBinary, total.hasShown⟩
  if rules.most.any (· ≤ state.count) && descriptor = 0 then
    let place := state.offset - state.selectedEnd + stream.unused
    if 0 < place then
      let _ ← Activity.ask (.seek 0 (-Int.ofNat place) .current)
  let total := { total with
    found := total.found || 0 < state.count, hasShown := state.hasShown }
  let putName (isEnd : Bool) : Work Unit :=
    Work.put (rules.paint "35" name ++ (if rules.nullNames then "\x00"
      else if isEnd then "\n" else rules.paintMark ":"))
  match rules.report with
  | .names => if 0 < state.count then putName true
  | .otherNames => if state.count = 0 then putName true
  | .count =>
    if isNamed then putName false
    Work.putLine (toString state.count)
  | .nothing => pure ()
  | _ =>
    if state.isBinary && 0 < state.count then Work.warn (name ++ ": binary file matches")
  match stream.fault with
  | some fault => rules.trouble (name ++ ": " ++ fault.text) total
  | none => return total

/-- Whether an open file is the one into which the output goes. -/
def feedsOutput (rules : SearchRules) (info : Info) : Work Bool := do
  let isShown := rules.report = .lines || rules.report = .matches || rules.report = .count
  match ← Activity.examineOpen 1 with
  | .ok output =>
    return isShown && output.kind = .regular && output.node = info.node &&
      rules.most.all (1 < ·)
  | .error _ => return false

/-- Whether a file inside a directory counts. -/
def admits (rules : SearchRules) (name : String) : Bool :=
  let fitsAny (patterns : List (List PatternItem)) : Bool :=
    patterns.any fun pattern => fits pattern name.toList
  !fitsAny rules.excluded && (rules.included.isEmpty || fitsAny rules.included)

def searchFile (rules : SearchRules) (path : String) (isNamed : Bool) (total : SearchTotal) :
    Work SearchTotal := do
  match ← Activity.openFile path .input with
  | .error fault => rules.trouble (path ++ ": " ++ fault.text) total
  | .ok descriptor =>
    let total ← match ← Activity.examineOpen descriptor with
      | .ok info => do
        match ← rules.feedsOutput info with
        | true => rules.trouble (path ++ ": input file is also the output") total
        | false => rules.searchOpen path isNamed descriptor total
      | .error _ => rules.searchOpen path isNamed descriptor total
    Activity.close descriptor
    return total

mutual

/-- Searches the files in a directory; `shown` names it.  `fuel` bounds the depth. -/
def searchInside (rules : SearchRules) (fuel : Nat) (path : String) (shown : String → String)
    (total : SearchTotal) : Work SearchTotal := do
  match fuel with
  | 0 => return total
  | fuel + 1 =>
    match ← Activity.list path with
    | .error fault => rules.trouble (path ++ ": " ++ fault.text) total
    | .ok names => searchEach rules fuel shown names total
termination_by (fuel, 0)

def searchEach (rules : SearchRules) (fuel : Nat) (shown : String → String)
    (names : List String) (total : SearchTotal) : Work SearchTotal := do
  match names with
  | [] => return total
  | name :: rest =>
    let path := shown name
    let info? ← if rules.followsLinks then Activity.examine path
      else Activity.examineItself path
    let total ← match info? with
      | .error fault => rules.trouble (path ++ ": " ++ fault.text) total
      | .ok info =>
        match info.kind with
        | .directory =>
          if rules.excludedDirectories.any fun pattern => fits pattern name.toList then pure total
          else searchInside rules fuel path (joinPath path) total
        | .regular =>
          if rules.admits name then
            rules.searchFile path (rules.names.getD true) total
          else pure total
        | _ => pure total
    searchEach rules fuel shown rest total
termination_by (fuel, names.length + 1)

end

def searchOperand (rules : SearchRules) (isAlone : Bool) (operand : String)
    (total : SearchTotal) : Work SearchTotal := do
  let isNamed := rules.names.getD (!isAlone)
  if operand = "-" then
    match ← Activity.examineOpen 0 with
    | .error fault => rules.trouble (rules.label ++ ": " ++ fault.text) total
    | .ok _ => rules.searchOpen rules.label isNamed 0 total
  else
    match ← Activity.examine operand with
    | .error fault => rules.trouble (operand ++ ": " ++ fault.text) total
    | .ok info =>
      let name := lastName operand
      if info.kind = .directory then
        match rules.directories with
        | .skipping => return total
        | .descending =>
          if rules.excludedDirectories.any fun pattern => fits pattern name.toList then return total
          else rules.searchInside depthLimit operand (joinPath operand) total
        | .reading => rules.searchFile operand isNamed total
      else if info.kind ≠ .regular && rules.skipsDevices then return total
      else if rules.admits name then rules.searchFile operand isNamed total
      else return total

/-- Searches every operand, or the input, or the directory where the search begins. -/
def searchAll (rules : SearchRules) (operands : List String) (total : SearchTotal) :
    Work SearchTotal := do
  if operands.isEmpty then
    if rules.directories = .descending then rules.searchInside depthLimit "." id total
    else rules.searchOperand true "-" total
  else
    let isAlone := operands.length = 1
    let rec go : List String → SearchTotal → Work SearchTotal
      | [], total => return total
      | operand :: rest, total => do go rest (← rules.searchOperand isAlone operand total)
    go operands total

end SearchRules

/-! ## Options -/

def grepRules : Rules :=
  ⟨"EFGPivcnlLqsowxhHbazrRyUTZI0123456789Xu".toList, "efmABCdDtgxjkp".toList, ['K'],
    [("extended-regexp", 'E'), ("fixed-strings", 'F'), ("fixed-regexp", 'F'),
      ("basic-regexp", 'G'), ("perl-regexp", 'P'), ("ignore-case", 'i'),
      ("no-ignore-case", 'N'), ("invert-match", 'v'), ("count", 'c'), ("line-number", 'n'),
      ("files-with-matches", 'l'), ("files-without-match", 'L'), ("quiet", 'q'), ("silent", 'q'),
      ("no-messages", 's'), ("only-matching", 'o'), ("word-regexp", 'w'), ("line-regexp", 'X'),
      ("no-filename", 'h'), ("with-filename", 'H'), ("regexp", 'e'), ("file", 'f'),
      ("max-count", 'm'), ("after-context", 'A'), ("before-context", 'B'), ("context", 'C'),
      ("text", 'a'), ("recursive", 'r'), ("dereference-recursive", 'R'), ("byte-offset", 'b'),
      ("color", 'K'), ("colour", 'K'), ("initial-tab", 'T'), ("null", 'Z'), ("null-data", 'z'),
      ("binary", 'U'), ("line-buffered", 'u'), ("directories", 'd'), ("devices", 'D'),
      ("binary-files", 't'), ("label", 'p'), ("group-separator", 'g'),
      ("no-group-separator", 'M'), ("include", 'j'), ("exclude", 'k'), ("exclude-dir", 'J')],
    true⟩

def grepUsage {α : Type} : Work α := do
  Work.writeError ("Usage: grep [OPTION]... PATTERNS [FILE]...\n" ++
    "Try 'grep --help' for more information.\n")
  throw 2

/-- Letters of options that can only be given by their names. -/
def grepHidden : List Char := "tgjkpJMNuK".toList

/-- Whether a word gives an option that has no letter by a letter. -/
def grepMisletter? (words : List String) : Option Char :=
  let before := words.takeWhile (· ≠ "--")
  before.findSome? fun word =>
    match word.toList with
    | '-' :: '-' :: _ => none
    | '-' :: letters =>
      let flags := letters.takeWhile fun c => grepRules.flags.contains c
      ((flags ++ (letters.drop flags.length).take 1).find? grepHidden.contains)
    | _ => none

def grepOptions (words : List String) : Work Options := do
  match grepMisletter? words with
  | some letter =>
    Work.warn ("invalid option -- '" ++ String.singleton letter ++ "'")
    grepUsage
  | none => pure ()
  let valued := { grepRules with
    valued := 'J' :: grepRules.valued.filter (· ≠ 'x'),
    flags := 'x' :: 'M' :: 'N' :: grepRules.flags }
  let (given, operands, mistake) := valued.readFrom (words.length + 1) [] [] words
  let check (matcher : Option Char) (letter : Char) (value : String) : Work (Option Char) := do
    match letter with
    | 'm' =>
      let digits := if value.startsWith "-" then value.toList.drop 1 else value.toList
      if (natural? digits).isNone then Work.fail "invalid max count"
      return matcher
    | 'd' =>
      if ! ["read", "recurse", "skip"].contains value then
        Work.warn ("invalid argument " ++ quoted value ++ " for " ++ quoted "--directories")
        Work.writeError "Valid arguments are:\n  - 'read'\n  - 'recurse'\n  - 'skip'\n"
        let _ ← Activity.attempt (grepUsage (α := Unit))
        throw 1
      return matcher
    | 'D' =>
      if ! ["read", "skip"].contains value then Work.fail "unknown devices method"
      return matcher
    | 't' =>
      if ! ["binary", "text", "without-match"].contains value then
        Work.fail "unknown binary-files type"
      return matcher
    | _ =>
      if "ABC".toList.contains letter then
        if (natural? value.toList).isNone then
          Work.fail (value ++ ": invalid context length argument")
        return matcher
      else if "EFGP".toList.contains letter then
        if matcher.any (· ≠ letter) then Work.fail "conflicting matchers specified"
        return some letter
      else return matcher
  let mut matcher : Option Char := none
  for (letter, value) in given.reverse do
    matcher ← check matcher letter value
  match mistake with
  | some message =>
    Work.warn message
    grepUsage
  | none => return ⟨given.reverse, operands.reverse⟩

/-- The lines of the files with expressions. -/
def storedPatterns (names : List String) : Work (List (List Char)) := do
  let mut found : List (List Char) := []
  for name in names do
    match ← Work.readOperand name with
    | .ok data => found := found ++ (linesOfData 10 data).map (·.content)
    | .error fault => Work.fail (name ++ ": " ++ fault.text)
  return found

def soughtOf (matcher : Char) (folds : Bool) (texts : List (List Char)) : Work (List Sought) := do
  if matcher = 'P' then
    match texts with
    | [text] =>
      match Trial.read folds text with
      | .ok trial => return [.trial trial]
      | .error message => Work.fail message
    | [] => return []
    | _ => Work.fail "the -P option only supports a single pattern"
  else
    let mut found : List Sought := []
    for text in texts do
      if matcher = 'F' then found := .regex (Regex.ofText folds text) :: found
      else
        let style : RegexStyle := ⟨matcher = 'E', folds, true, false, false, true⟩
        match style.readNoting text with
        | .ok (regex, stray) =>
          for sign in stray do
            Work.warn ("warning: " ++ (if sign = '\x7b' then "\x7b...\x7d" else String.singleton sign) ++
              " at start of expression")
          found := .regex regex :: found
        | .error fault => Work.fail fault.message
    return found.reverse

/-- The number that digits among the options spell, if there are any. -/
def contextDigits? (options : Options) : Option Nat :=
  natural? ((options.given.map (·.1)).filter Char.isDigit)

def grepReport (options : Options) : SearchReport :=
  if options.has 'q' then .nothing
  else match options.last? ['l', 'L'] with
    | some 'l' => .names
    | some _ => .otherNames
    | none => if options.has 'c' then .count else if options.has 'o' then .matches else .lines

def grepRulesOf (options : Options) (search : Search) (isAlone : Bool) : SearchRules :=
  let number? (letter : Char) : Option Nat :=
    (options.value? letter).bind fun text => natural? text.toList
  let context := match number? 'C' with
    | some n => some n
    | none => contextDigits? options
  let directories : DirectorySearch := match options.last? ['r', 'R', 'd'] with
    | none => .reading
    | some 'd' => match options.value? 'd' with
      | some "recurse" => .descending
      | some "skip" => .skipping
      | _ => .reading
    | some _ => .descending
  let binary : BinaryData := match options.last? ['a', 'I', 't'] with
    | some 'a' => .text
    | some 'I' => .noMatch
    | some _ => match options.value? 't' with
      | some "text" => .text
      | some "without-match" => .noMatch
      | _ => .hidden
    | none => .hidden
  let names : Option Bool := match options.last? ['h', 'H'] with
    | some 'h' => some false
    | some _ => some true
    | none => if isAlone then none else some true
  let patterns (letter : Char) : List (List PatternItem) :=
    (options.values letter).map fun text => patternOf (text.toList.map fun c => (c, false))
  { search, report := grepReport options, names,
    numbers := options.has 'n', offsets := options.has 'b', aligned := options.has 'T',
    coloured := (options.value? 'K').any fun text => text = "always" || text = "yes" ||
      text = "force",
    nullNames := options.has 'Z',
    before := match number? 'B' with
      | some n => some n
      | none => context,
    after := match number? 'A' with
      | some n => some n
      | none => context,
    separator := match options.last? ['g', 'M'] with
      | some 'g' => options.value? 'g'
      | some _ => none
      | none => some "--",
    most := number? 'm',
    binary, directories,
    followsLinks := options.last? ['r', 'R'] = some 'R',
    skipsDevices := options.value? 'D' = some "skip",
    isSilent := options.has 's',
    mark := if options.has 'z' then 0 else 10,
    label := (options.value? 'p').getD "(standard input)",
    included := patterns 'j', excluded := patterns 'k', excludedDirectories := patterns 'J' }

/-- Searches with a matcher that is given by a letter. -/
def grepWith (matcher? : Option Char) : Utility := fun words => do
  modify fun bench => { bench with name := "grep", failure := 2 }
  let options ← grepOptions (match matcher? with
    | some letter => String.ofList ['-', letter] :: words
    | none => words)
  let given := options.values 'e'
  let stored ← storedPatterns (options.values 'f')
  let isGiven := options.has 'e' || options.has 'f'
  let (texts, operands) : List (List Char) × List String ←
    if isGiven then
      pure (given.flatMap (fun text => splitAtMark '\n' text.toList) ++ stored, options.operands)
    else match options.operands with
      | [] => grepUsage
      | pattern :: rest => pure (splitAtMark '\n' pattern.toList, rest)
  let folds := match options.last? ['i', 'y', 'N'] with
    | some 'N' => false
    | some _ => true
    | none => false
  let sought ← soughtOf ((options.last? "EFGP".toList).getD 'G') folds texts
  let search : Search := ⟨sought, options.has 'x' || options.has 'X', options.has 'w',
    options.has 'v'⟩
  let rules := grepRulesOf options search (operands.length ≤ 1)
  let isHopeless := if texts.isEmpty then !options.has 'v'
    else texts.all (·.isEmpty) && options.has 'v' && !options.has 'x' && !options.has 'X' &&
      !options.has 'w'
  if (rules.most = some 0 || isHopeless) && !options.has 'L' then throw 1
  let total ← rules.searchAll operands ⟨false, false, false⟩
  Work.setStatus (if total.failed then 2 else if total.found then 0 else 1)

def grep : Utility := grepWith none

def egrep : Utility := grepWith (some 'E')

def fgrep : Utility := grepWith (some 'F')

end Conformance.Tool
