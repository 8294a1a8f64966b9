import Conformance.Shell.Pattern
import Conformance.Tool.Calendar
import Conformance.Tool.Difference
import Conformance.Tool.Input
import Conformance.Tool.Mode
import Std.Data.HashMap

/-!
# Differences between files

`diff` tells how one file becomes another, in one of several forms, and how one directory
becomes another.  Lines are compared as options say; what is shown is always the lines
themselves.
-/

namespace Conformance.Tool

open Machine Shell

/-- The form in which differences are shown. -/
inductive DiffForm where
  | plain
  | unified (reach : Nat)
  | context (reach : Nat)
  /-- Instructions to a line editor, from the last line on. -/
  | editor
  /-- Instructions from the first line on. -/
  | forward
  | numbered
  | sideBySide
  | brief
deriving DecidableEq, Repr

structure DiffRules where
  form : DiffForm
  foldCase : Bool
  /-- Blanks do not count at all. -/
  skipsBlanks : Bool
  /-- Runs of blanks count as one. -/
  joinsBlanks : Bool
  /-- Blanks at the end do not count. -/
  trimsEnds : Bool
  skipsEmptyLines : Bool
  reportsSame : Bool
  isText : Bool
  isDeep : Bool
  /-- Whether a file that is missing counts as an empty one. -/
  fillsIn : Bool
  expandsTabs : Bool
  aligns : Bool
  width : Nat
  leftColumn : Bool
  hidesCommon : Bool
  labels : List String
  excluded : List (List PatternItem)
  /-- The options as they were given, for headlines. -/
  shownOptions : String

namespace DiffRules

def isGap (c : Char) : Bool := c = ' ' || ('\t' ≤ c && c ≤ '\r')

/-- A text in which every run of blanks is one blank, without those at its end. -/
def joined (text : List Char) : List Char :=
  let parts := text.splitBy fun a b => isGap a = isGap b
  let merged := parts.flatMap fun part => if part.any isGap then [' '] else part
  if merged.getLast? = some ' ' then merged.dropLast else merged

/-- A line as it is compared; an end of it that counts is a part of it. -/
def key (rules : DiffRules) (line : TextLine) : String :=
  let folded := if rules.foldCase then line.content.map Char.toLower else line.content
  let text := if rules.skipsBlanks then folded.filter (!isGap ·)
    else if rules.joinsBlanks then joined folded
    else if rules.trimsEnds then (folded.reverse.dropWhile isGap).reverse
    else folded
  let closes := line.isEnded || rules.skipsBlanks || rules.joinsBlanks || rules.trimsEnds
  String.ofList (if closes then text ++ ['\n'] else text)

/-- How many lines around changes a form shows. -/
def reach (rules : DiffRules) : Nat :=
  match rules.form with
  | .unified n => n
  | .context n => n
  | _ => 0

end DiffRules

/-- The classes of the lines of two files: lines are in one class if they are compared
in the same way. -/
def classesOf (first second : List String) : ClassPair :=
  let number (state : Std.HashMap String Nat × List Nat) (key : String) :
      Std.HashMap String Nat × List Nat :=
    match state.1[key]? with
    | some n => (state.1, n :: state.2)
    | none =>
      let n := state.1.size + 1
      (state.1.insert key n, n :: state.2)
  let (known, left) := first.foldl number (∅, [])
  let (_, right) := second.foldl number (known, [])
  ⟨left.reverse.toArray, right.reverse.toArray⟩

def commonStart {α : Type} [DecidableEq α] : List α → List α → Nat
  | a :: first, b :: second => if a = b then commonStart first second + 1 else 0
  | _, _ => 0

namespace DiffRules

/-- The changes between two files.  What both begin and end with is left aside, but for
the lines that may be shown around changes. -/
def changes (rules : DiffRules) (first second : List TextLine) : List Change :=
  let start := commonStart first second
  let front := start - rules.reach
  let left := first.drop start
  let right := second.drop start
  let finish := commonStart left.reverse right.reverse
  let back := finish - rules.reach
  let body (lines : List TextLine) : List TextLine :=
    (lines.drop front).take (lines.length - front - back)
  let pair := classesOf ((body first).map rules.key) ((body second).map rules.key)
  (changesBetween pair).map fun change =>
    { change with first := change.first + front, second := change.second + front }

end DiffRules

/-- Two files and the changes between them. -/
structure Comparison where
  names : String × String
  /-- What stands for the files in headlines. -/
  heads : String × String
  first : Array TextLine
  second : Array TextLine
  changes : List Change

def linesAt (lines : Array TextLine) (before count : Nat) : List TextLine :=
  (lines.extract before (before + count)).toList

namespace DiffRules

/-- Whether a change concerns empty lines only, where those do not count. -/
def ignores (rules : DiffRules) (both : Comparison) (change : Change) : Bool :=
  let isEmptyLine (line : TextLine) : Bool :=
    if rules.joinsBlanks || rules.skipsBlanks then line.content.all isGap
    else line.content.isEmpty
  rules.skipsEmptyLines &&
    (linesAt both.first change.first change.removed).all isEmptyLine &&
    (linesAt both.second change.second change.added).all isEmptyLine

/-- A line with its tabs as blanks, from a column on. -/
def spread : (column : Nat) → List Char → List Char
  | _, [] => []
  | column, '\t' :: rest =>
    let count := 8 - column % 8
    List.replicate count ' ' ++ spread (column + count) rest
  | column, c :: rest => c :: spread (column + 1) rest

def marked (rules : DiffRules) (mark : String) (line : TextLine) : Work Unit := do
  Work.put mark
  let blank := match rules.form with
    | .unified _ => ""
    | _ => " "
  Work.put (if rules.aligns then "\t" else blank)
  Work.putChars (if rules.expandsTabs then spread 0 line.content else line.content)
  Work.put "\n"
  if !line.isEnded then Work.put "\\ No newline at end of file\n"

/-- The numbers of `count` lines behind `before` others. -/
def lineRange (separator : String) (before count : Nat) : String :=
  if count ≤ 1 then toString (before + count)
  else toString (before + 1) ++ separator ++ toString (before + count)

def letterOf (change : Change) : String :=
  if change.removed = 0 then "a" else if change.added = 0 then "d" else "c"

/-- A change as an instruction with the lines it is about. -/
def putPlain (rules : DiffRules) (both : Comparison) (change : Change) : Work Unit := do
  Work.put (lineRange "," change.first change.removed ++ letterOf change ++
    lineRange "," change.second change.added ++ "\n")
  for line in linesAt both.first change.first change.removed do
    rules.marked "<" line
  if 0 < change.removed && 0 < change.added then Work.put "---\n"
  for line in linesAt both.second change.second change.added do
    rules.marked ">" line

/-- Lines that are put in by an editor.  A dot alone would end the lines. -/
def putInserted : (isInserting : Bool) → List TextLine → Work Unit
  | isInserting, [] => if isInserting then Work.put ".\n" else return
  | isInserting, line :: rest => do
    if !isInserting then Work.put "a\n"
    if line.content = ['.'] then
      Work.put "..\n.\ns/.//\n"
      putInserted false rest
    else
      Work.putChars line.content
      Work.put "\n"
      putInserted true rest

def putEditor (both : Comparison) (change : Change) : Work Unit := do
  Work.put (lineRange "," change.first change.removed ++ letterOf change ++ "\n")
  if 0 < change.added then putInserted true (linesAt both.second change.second change.added)

def putForward (both : Comparison) (change : Change) : Work Unit := do
  Work.put (letterOf change ++ lineRange " " change.first change.removed ++ "\n")
  if 0 < change.added then
    for line in linesAt both.second change.second change.added do
      Work.putChars line.content
      Work.put "\n"
    Work.put ".\n"

def putNumbered (both : Comparison) (change : Change) : Work Unit := do
  if 0 < change.removed then
    Work.put ("d" ++ toString (change.first + 1) ++ " " ++ toString change.removed ++ "\n")
  if 0 < change.added then
    Work.put ("a" ++ toString (change.first + change.removed) ++ " " ++ toString change.added ++
      "\n")
    for line in linesAt both.second change.second change.added do
      Work.putChars line.content
      if line.isEnded then Work.put "\n"

/-! ## Groups of changes -/

/-- Changes that are shown together, because few lines lie between them. -/
def groups (rules : DiffRules) (both : Comparison) : List Change → List (List Change)
  | [] => []
  | change :: rest =>
    match groups rules both rest with
    | (next :: same) :: more =>
      let gap := next.first - (change.first + change.removed)
      let limit := if rules.ignores both change || rules.ignores both next then rules.reach
        else 2 * rules.reach + 1
      if gap < limit then (change :: next :: same) :: more
      else [change] :: (next :: same) :: more
    | others => [change] :: others

/-- A part of both files that is shown: where it begins and how many lines it has. -/
structure Extent where
  first : Nat
  firstCount : Nat
  second : Nat
  secondCount : Nat

/-- The lines of a group of changes with those around it. -/
def extent (rules : DiffRules) (both : Comparison) (group : List Change) : Extent :=
  match group, group.getLast? with
  | head :: _, some last =>
    let before := min rules.reach head.first
    let after := min rules.reach (both.first.size - (last.first + last.removed))
    let first := head.first - before
    let second := head.second - before
    ⟨first, last.first + last.removed + after - first, second,
      last.second + last.added + after - second⟩
  | _, _ => ⟨0, 0, 0, 0⟩

def unifiedRange (before count : Nat) : String :=
  if count = 1 then toString (before + 1)
  else toString (if count = 0 then before else before + 1) ++ "," ++ toString count

/-- The lines of a group as one text, from places in both files on. -/
def putUnifiedLines (rules : DiffRules) (both : Comparison) (stop : Nat) :
    (place : Nat) → List Change → Work Unit
  | place, [] => do
    for line in linesAt both.first place (stop - place) do
      rules.marked " " line
  | place, change :: rest => do
    for line in linesAt both.first place (change.first - place) do
      rules.marked " " line
    for line in linesAt both.first change.first change.removed do
      rules.marked "-" line
    for line in linesAt both.second change.second change.added do
      rules.marked "+" line
    putUnifiedLines rules both stop (change.first + change.removed) rest

def putUnified (rules : DiffRules) (both : Comparison) (group : List Change) : Work Unit := do
  let part := rules.extent both group
  Work.put ("@@ -" ++ unifiedRange part.first part.firstCount ++ " +" ++
    unifiedRange part.second part.secondCount ++ " @@\n")
  rules.putUnifiedLines both (part.first + part.firstCount) part.first group

def contextRange (before count : Nat) : String :=
  if count ≤ 1 then toString (before + count)
  else toString (before + 1) ++ "," ++ toString (before + count)

/-- The lines of one file in a group: `pick` tells where a change stands in it, and the
mark of its lines. -/
def putContextLines (rules : DiffRules) (lines : Array TextLine)
    (pick : Change → Nat × Nat × String) (stop : Nat) : (place : Nat) → List Change → Work Unit
  | place, [] => do
    for line in linesAt lines place (stop - place) do
      rules.marked " " line
  | place, change :: rest => do
    let (start, count, mark) := pick change
    for line in linesAt lines place (start - place) do
      rules.marked " " line
    for line in linesAt lines start count do
      rules.marked mark line
    putContextLines rules lines pick stop (start + count) rest

def putContext (rules : DiffRules) (both : Comparison) (group : List Change) : Work Unit := do
  let part := rules.extent both group
  let mark (change : Change) (alone : String) : String :=
    if 0 < change.removed && 0 < change.added then "!" else alone
  Work.put ("***************\n*** " ++ contextRange part.first part.firstCount ++ " ****\n")
  if group.any fun change => 0 < change.removed then
    rules.putContextLines both.first
      (fun change => (change.first, change.removed, mark change "-"))
      (part.first + part.firstCount) part.first group
  Work.put ("--- " ++ contextRange part.second part.secondCount ++ " ----\n")
  if group.any fun change => 0 < change.added then
    rules.putContextLines both.second
      (fun change => (change.second, change.added, mark change "+"))
      (part.second + part.secondCount) part.second group

/-! ## Side by side -/

/-- The width of a column and the place of the second one. -/
def columns (rules : DiffRules) : Nat × Nat :=
  let unit := if rules.expandsTabs then 1 else 8
  let gutter := 3
  let sum := unit + gutter
  let middle := rules.width / 2 + sum / 2 + (rules.width % 2) * (sum % 2)
  let place := middle - middle % unit
  let half := if place ≤ gutter || rules.width ≤ place then 0
    else min (place - gutter) (rules.width - place)
  (half, if half = 0 then rules.width else place)

/-- What leads from one column to another. -/
def gapTo (rules : DiffRules) (start finish : Nat) : List Char :=
  if rules.expandsTabs then List.replicate (finish - start) ' '
  else
    let tabs := finish / 8 - start / 8
    if tabs = 0 then List.replicate (finish - start) ' '
    else List.replicate tabs '\t' ++ List.replicate (finish % 8) ' '

/-- As much of a line as fits into a column, and how far it reaches. -/
def halfLine (rules : DiffRules) (bound : Nat) : (reached shown : Nat) → List Char →
    List Char × Nat
  | _, shown, [] => ([], shown)
  | reached, shown, c :: rest =>
    if c = '\t' then
      let count := 8 - reached % 8
      let stop := shown + count
      if reached ≠ shown then halfLine rules bound (reached + count) shown rest
      else if rules.expandsTabs then
        let stop := min bound stop
        let (text, last) := halfLine rules bound (reached + count) (max shown stop) rest
        (List.replicate (stop - shown) ' ' ++ text, last)
      else if stop < bound then
        let (text, last) := halfLine rules bound (reached + count) stop rest
        ('\t' :: text, last)
      else halfLine rules bound (reached + count) shown rest
    else if reached < bound then
      let (text, last) := halfLine rules bound (reached + 1) (reached + 1) rest
      (c :: text, last)
    else halfLine rules bound (reached + 1) shown rest

def putSides (rules : DiffRules) (left : Option TextLine) (mark : Char)
    (right : Option TextLine) : Work Unit := do
  let (half, place) := rules.columns
  let (shown, column) := match left with
    | some line => rules.halfLine half 0 0 line.content
    | none => ([], 0)
  Work.putChars shown
  let leftEnds := left.any (·.isEnded)
  let rightEnds := right.any (·.isEnded)
  let column ← if mark = ' ' then pure column else do
      let gutter := (half + place - 1) / 2
      Work.putChars (rules.gapTo column gutter)
      let sign := if mark = '|' && leftEnds ≠ rightEnds then (if leftEnds then '/' else '\\')
        else mark
      Work.putChars [sign]
      pure (max column gutter + 1)
  match right with
  | some line =>
    if !line.content.isEmpty then
      Work.putChars (rules.gapTo column place)
      Work.putChars (rules.halfLine half 0 0 line.content).1
  | none => pure ()
  if leftEnds || rightEnds then Work.put "\n"

def putCommon (rules : DiffRules) (left right : List TextLine) : Work Unit := do
  if rules.hidesCommon then return
  for (line, other) in left.zip right do
    if rules.leftColumn then rules.putSides (some line) '(' none
    else rules.putSides (some line) ' ' (some other)

def putSideBySide (rules : DiffRules) (both : Comparison) :
    (first second : Nat) → List Change → Work Unit
  | first, second, [] =>
    rules.putCommon (linesAt both.first first (both.first.size - first))
      (linesAt both.second second (both.second.size - second))
  | first, second, change :: rest => do
    rules.putCommon (linesAt both.first first (change.first - first))
      (linesAt both.second second (change.second - second))
    let removed := linesAt both.first change.first change.removed
    let added := linesAt both.second change.second change.added
    for (line, other) in removed.zip added do
      rules.putSides (some line) '|' (some other)
    for line in added.drop removed.length do
      rules.putSides none '>' (some line)
    for line in removed.drop added.length do
      rules.putSides (some line) '<' none
    putSideBySide rules both (change.first + change.removed) (change.second + change.added) rest

/-! ## Files -/

/-- The headline of a file: its name and when it was changed. -/
def headOf (rules : DiffRules) (name : String) (info : Option Info) : String :=
  match info with
  | none => name
  | some info =>
    let moment := Moment.ofNanos info.modified
    let layout := match rules.form with
      | .context _ => "%a %b %e %H:%M:%S %Y"
      | _ => "%Y-%m-%d %H:%M:%S.%N %z"
    name ++ "\t" ++ String.ofList (moment.format layout.toList)

/-- Shows the changes between two files; `headline` comes before anything else. -/
def putChanges (rules : DiffRules) (headline : String) (both : Comparison) : Work Nat := do
  let counting := both.changes.filter fun change => !rules.ignores both change
  let isDifferent := !counting.isEmpty
  if !isDifferent && rules.form ≠ .sideBySide then
    if rules.reportsSame then
      Work.put ("Files " ++ both.names.1 ++ " and " ++ both.names.2 ++ " are identical\n")
    return 0
  let status := if isDifferent then 1 else 0
  if rules.form = .brief then
    Work.put ("Files " ++ both.names.1 ++ " and " ++ both.names.2 ++ " differ\n")
    return status
  Work.put headline
  match rules.form with
  | .plain =>
    for change in counting do
      rules.putPlain both change
  | .editor =>
    for change in counting.reverse do
      putEditor both change
  | .forward =>
    for change in counting do
      putForward both change
  | .numbered =>
    for change in counting do
      putNumbered both change
  | .unified _ =>
    Work.put ("--- " ++ both.heads.1 ++ "\n+++ " ++ both.heads.2 ++ "\n")
    for group in rules.groups both both.changes do
      if group.any fun change => !rules.ignores both change then rules.putUnified both group
  | .context _ =>
    Work.put ("*** " ++ both.heads.1 ++ "\n--- " ++ both.heads.2 ++ "\n")
    for group in rules.groups both both.changes do
      if group.any fun change => !rules.ignores both change then rules.putContext both group
  | .sideBySide => rules.putSideBySide both 0 0 counting
  | .brief => pure ()
  return status

/-- One side of a comparison: what it is called, and what is known of it. -/
structure Side where
  path : String
  /-- Nothing if there is no such file and an empty one stands for it. -/
  info : Option Info

def Side.read (side : Side) : Work (Except Fault ByteArray) :=
  if side.info.isNone then return .ok .empty else Work.readOperand side.path

def compareFiles (rules : DiffRules) (headline : String) (left right : Side) : Work Nat := do
  let isSame := match left.info, right.info with
    | some a, some b => a.node = b.node && a.kind = .regular && b.kind = .regular
    | _, _ => false
  if isSame && rules.form ≠ .sideBySide then
    if rules.reportsSame then
      Work.put ("Files " ++ left.path ++ " and " ++ right.path ++ " are identical\n")
    return 0
  let old ← left.read
  let new ← if left.path = right.path then pure old else right.read
  match old, new with
  | .ok old, .ok new =>
    let isBinary (data : ByteArray) : Bool := (data.extract 0 4096).data.contains 0
    if !rules.isText && (isBinary old || isBinary new) then
      if old.data = new.data then
        if rules.reportsSame then
          Work.put ("Files " ++ left.path ++ " and " ++ right.path ++ " are identical\n")
        return 0
      Work.put ((if rules.form = .brief then "Files " else "Binary files ") ++ left.path ++
        " and " ++ right.path ++ " differ\n")
      return 1
    let first := linesOfData 10 old
    let second := linesOfData 10 new
    let head (index : Nat) (side : Side) : String :=
      (rules.labels[index]?).getD (rules.headOf side.path side.info)
    rules.putChanges headline ⟨(left.path, right.path), (head 0 left, head 1 right),
      first.toArray, second.toArray, rules.changes first second⟩
  | _, _ =>
    let tell (side : Side) (result : Except Fault ByteArray) : Work Unit :=
      match result with
      | .error fault => Work.warn (side.path ++ ": " ++ fault.text)
      | .ok _ => return
    tell left old
    tell right new
    return 2

/-- What a file is called by its kind. -/
def describe (info : Info) : String :=
  match info.kind with
  | .regular => if info.size = 0 then "regular empty file" else "regular file"
  | .directory => "directory"
  | .link => "symbolic link"
  | .queue => "fifo"
  | .device => "character special file"

def isDirectory (side : Side) : Bool := side.info.any (·.kind = .directory)

mutual

/-- Compares what has one name in two directories. -/
def compareInside (rules : DiffRules) (fuel : Nat) (left right : Side) : Work Nat := do
  match fuel with
  | 0 => return 0
  | fuel + 1 =>
    match left.info, right.info with
    | some a, some b =>
      if a.kind = .directory && b.kind = .directory then
        if rules.isDeep then compareDirectories rules fuel left right
        else
          Work.put ("Common subdirectories: " ++ left.path ++ " and " ++ right.path ++ "\n")
          return 0
      else if a.kind = .directory || b.kind = .directory || (a.kind ≠ .regular || b.kind ≠ .regular) then
        Work.put ("File " ++ left.path ++ " is a " ++ describe a ++ " while file " ++
          right.path ++ " is a " ++ describe b ++ "\n")
        return 1
      else
        rules.compareFiles ("diff" ++ rules.shownOptions ++ " " ++ shownName left.path ++ " " ++
          shownName right.path ++ "\n") left right
    | _, _ =>
      if isDirectory left || isDirectory right then
        if rules.isDeep then compareDirectories rules fuel left right else return 0
      else
        rules.compareFiles ("diff" ++ rules.shownOptions ++ " " ++ shownName left.path ++ " " ++
          shownName right.path ++ "\n") left right
termination_by (2 * fuel, 0)

/-- Compares two directories; `fuel` bounds the depth. -/
def compareDirectories (rules : DiffRules) (fuel : Nat) (left right : Side) : Work Nat := do
  match fuel with
  | 0 => return 0
  | fuel + 1 =>
    let names (side : Side) : Work (Option (List String)) := do
      if side.info.isNone then return some []
      match ← Activity.list side.path with
      | .ok names => return some (sortedNames names)
      | .error fault =>
        Work.warn (side.path ++ ": " ++ fault.text)
        return none
    match ← names left, ← names right with
    | some first, some second =>
      let all := sortedNames (first ++ second).eraseDups
      let counting := all.filter fun name =>
        !rules.excluded.any fun pattern => fits pattern name.toList
      compareEach rules fuel left right first second counting 0
    | _, _ => return 2
termination_by (2 * fuel, 0)

def compareEach (rules : DiffRules) (fuel : Nat) (left right : Side) (first second : List String)
    (names : List String) (status : Nat) : Work Nat := do
  match names with
  | [] => return status
  | name :: rest =>
    let side (above : Side) (isThere : Bool) : Work Side := do
      let path := joinPath above.path name
      if !isThere then return ⟨path, none⟩
      match ← Activity.examine path with
      | .ok info => return ⟨path, some info⟩
      | .error _ => return ⟨path, none⟩
    let inFirst := first.contains name
    let inSecond := second.contains name
    let found ← if inFirst && inSecond || rules.fillsIn then do
        compareInside rules fuel (← side left inFirst) (← side right inSecond)
      else do
        Work.put ("Only in " ++ (if inFirst then left.path else right.path) ++ ": " ++ name ++ "\n")
        pure 1
    compareEach rules fuel left right first second rest (max status found)
termination_by (2 * fuel + 1, names.length)

end

def compareOperands (rules : DiffRules) (left right : String) : Work Nat := do
  let look (name : String) : Work (Except Fault Info) :=
    if name = "-" then Activity.examineOpen 0 else Activity.examine name
  let first ← look left
  let second ← look right
  let isIn (found : Except Fault Info) : Bool := match found with
    | .ok info => info.kind = .directory
    | .error _ => false
  let (left, first) ← if isIn first && !isIn second && right ≠ "-" then do
      let path := joinPath left (lastName right)
      pure (path, ← look path)
    else pure (left, first)
  let (right, second) ← if isIn second && !isIn first && left ≠ "-" then do
      let path := joinPath right (lastName left)
      pure (path, ← look path)
    else pure (right, second)
  match first, second with
  | .ok a, .ok b =>
    if a.kind = .directory && b.kind = .directory then
      rules.compareDirectories depthLimit ⟨left, some a⟩ ⟨right, some b⟩
    else rules.compareFiles "" ⟨left, some a⟩ ⟨right, some b⟩
  | .ok a, .error fault =>
    if rules.fillsIn && fault = .notFound then rules.compareFiles "" ⟨left, some a⟩ ⟨right, none⟩
    else
      Work.warn (right ++ ": " ++ fault.text)
      return 2
  | .error fault, .ok b =>
    if rules.fillsIn && fault = .notFound then rules.compareFiles "" ⟨left, none⟩ ⟨right, some b⟩
    else
      Work.warn (left ++ ": " ++ fault.text)
      return 2
  | .error one, .error other =>
    Work.warn (left ++ ": " ++ one.text)
    Work.warn (right ++ ": " ++ other.text)
    return 2

end DiffRules

/-! ## Options -/

def diffRules : Rules :=
  ⟨"abBcdeEfHilnNpPqrstTuvwyZ0123456789hOK".toList, "CUWLxXISDFMG".toList, [],
    [("brief", 'q'), ("unified", 'V'), ("context", 'Q'), ("report-identical-files", 's'),
      ("ignore-case", 'i'), ("ignore-all-space", 'w'), ("ignore-space-change", 'b'),
      ("ignore-trailing-space", 'Z'), ("ignore-blank-lines", 'B'), ("text", 'a'),
      ("recursive", 'r'), ("new-file", 'N'), ("normal", 'O'), ("ed", 'e'), ("rcs", 'n'),
      ("forward-ed", 'f'), ("side-by-side", 'y'), ("width", 'W'), ("label", 'L'),
      ("left-column", 'h'), ("suppress-common-lines", 'K'), ("expand-tabs", 't'),
      ("initial-tab", 'T'), ("minimal", 'd'), ("speed-large-files", 'H'), ("exclude", 'x'),
      ("ignore-matching-lines", 'I'), ("show-c-function", 'p'), ("from-file", 'F'),
      ("to-file", 'G'), ("color", 'R'), ("strip-trailing-cr", 'J'), ("tabsize", 'M'),
      ("no-dereference", 'Y')], true⟩

def diffHint {α : Type} (text : String) : Work α := do
  Work.warn text
  Work.warn "Try 'diff --help' for more information."
  throw 2

def diffForm (options : Options) : Work DiffForm := do
  let digits := (options.given.map (·.1)).filter Char.isDigit
  let wanted := options.given.filterMap fun (letter, value) =>
    let count := (natural? value.toList).getD 3
    match letter with
    | 'u' => some (DiffForm.unified 3)
    | 'U' => some (.unified count)
    | 'V' => some (.unified count)
    | 'c' => some (.context 3)
    | 'C' => some (.context count)
    | 'Q' => some (.context count)
    | 'e' => some .editor
    | 'f' => some .forward
    | 'n' => some .numbered
    | 'y' => some .sideBySide
    | 'O' => some .plain
    | _ => none
  let kind (form : DiffForm) : Nat := match form with
    | .unified _ => 1
    | .context _ => 2
    | .editor => 3
    | .forward => 4
    | .numbered => 5
    | .sideBySide => 6
    | _ => 0
  match wanted with
  | [] => return if options.has 'q' then .brief else if options.has 'p' then .context 3 else .plain
  | first :: rest =>
    if rest.any fun form => kind form ≠ kind first then diffHint "conflicting output style options"
    let widest := wanted.foldl (fun (reach : Nat) form => match form with
      | .unified n => max reach n
      | .context n => max reach n
      | _ => reach) 0
    let reach := if digits.isEmpty then widest else (natural? digits).getD 3
    let given := options.given.filterMap fun (letter, value) =>
      if "UVCQ".toList.contains letter then natural? value.toList else none
    let count := match given.getLast? with
      | some n => if digits.isEmpty then n else reach
      | none => reach
    if options.has 'q' then return .brief
    match first with
    | .unified _ => return .unified count
    | .context _ => return .context count
    | other => return other

/-- The options of a command as a headline repeats them. -/
def optionWords (words operands : List String) : String :=
  let isOption (word : String) : Bool := !operands.contains word && word ≠ "--"
  String.join ((words.filter isOption).map fun word => " " ++ shownName word)

def diff : Utility := fun words => do
  modify fun bench => { bench with failure := 2 }
  let (given, operands, mistake) :=
    { diffRules with flags := 'J' :: 'Y' :: diffRules.flags, optional := ['V', 'Q', 'R'] }.readFrom
      (words.length + 1) [] [] words
  let options : Options := ⟨given.reverse, operands.reverse⟩
  for (letter, value) in options.given do
    if "UC".toList.contains letter || ("VQ".toList.contains letter && !value.isEmpty) then
      if (natural? value.toList).isNone then
        diffHint ("invalid context length '" ++ value ++ "'")
    if letter = 'W' then
      if ((natural? value.toList).getD 0) = 0 then diffHint ("invalid width '" ++ value ++ "'")
  match mistake with
  | some text => diffHint text
  | none => pure ()
  let form ← diffForm options
  let labels := options.values 'L'
  if 2 < labels.length then
    Work.warn "too many file label options"
    throw 2
  let rules : DiffRules :=
    { form, foldCase := options.has 'i', skipsBlanks := options.has 'w',
      joinsBlanks := options.has 'b', trimsEnds := options.has 'Z' || options.has 'E',
      skipsEmptyLines := options.has 'B', reportsSame := options.has 's',
      isText := options.has 'a', isDeep := options.has 'r', fillsIn := options.has 'N',
      expandsTabs := options.has 't', aligns := options.has 'T',
      width := ((options.value? 'W').bind fun text => natural? text.toList).getD 130,
      leftColumn := options.has 'h', hidesCommon := options.has 'K', labels,
      excluded := (options.values 'x').map fun text => patternOf (text.toList.map fun c => (c, false)),
      shownOptions := optionWords words options.operands }
  let pairs : List (String × String) ←
    match options.value? 'F', options.value? 'G' with
    | some from_, _ => pure (options.operands.map fun operand => (from_, operand))
    | none, some to_ => pure (options.operands.map fun operand => (operand, to_))
    | none, none =>
      match options.operands with
      | [left, right] => pure [(left, right)]
      | [] => diffHint ("missing operand after '" ++ (words.getLast?.getD "diff") ++ "'")
      | [_] => diffHint ("missing operand after '" ++ (words.getLast?.getD "diff") ++ "'")
      | _ :: _ :: extra :: _ => diffHint ("extra operand '" ++ extra ++ "'")
  let mut status := 0
  for (left, right) in pairs do
    let found ← rules.compareOperands left right
    status := max status found
  Work.setStatus status

end Conformance.Tool
