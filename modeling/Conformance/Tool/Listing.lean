import Conformance.Shell.Escape
import Conformance.Shell.Layout
import Conformance.Shell.Pattern
import Conformance.Tool.Calendar
import Conformance.Tool.Mode
import Conformance.Tool.Names
import Conformance.Tool.Plain
import Conformance.Tool.Sort

/-!
# Listings

What there is to know about files: the names in directories, and the properties of
single files by a format.
-/

namespace Conformance.Tool

open Machine Shell

/-- The space that a file takes on the disk, in units of 1024 bytes. -/
def blocksOf (info : Info) : Nat :=
  match info.kind with
  | .regular => (info.size + 4095) / 4096 * 4
  | .directory => 4
  | _ => 0

/-- A size with a unit, rounded up, such as `4.9K`. -/
def humanSize (size : Nat) : String :=
  let rec go : (fuel : Nat) → (units : List Char) → (unit : Nat) → String
    | 0, _, _ => toString size
    | _ + 1, [], _ => toString size
    | fuel + 1, letter :: rest, unit =>
      let tenths := (size * 10 + unit - 1) / unit
      if tenths < 100 then
        toString (tenths / 10) ++ "." ++ toString (tenths % 10) ++ String.singleton letter
      else
        let whole := (size + unit - 1) / unit
        if whole < 1024 then toString whole ++ String.singleton letter
        else go fuel rest (unit * 1024)
  if size < 1024 then toString size else go 8 "KMGTPE".toList 1024

/-! ## Names in directories -/

/-- A name with what is known about it. -/
structure ListEntry where
  name : String
  path : String
  info : Option Info
deriving Inhabited

/-- How names follow each other. -/
inductive ListFormat where
  | single
  | long
  | commas
  /-- Columns from top to bottom, or rows from left to right. -/
  | columns (isAcross : Bool)
deriving DecidableEq

structure ListRules where
  options : Options
  format : ListFormat
  /-- By what names are sorted. -/
  sorting : Char
  now : Nat
  /-- Whether all links are followed. -/
  follows : Bool

namespace ListRules

def shows (rules : ListRules) (name : String) : Bool :=
  let options := rules.options
  let isHidden := name.toList.head? = some '.'
  let fitsAny (letter : Char) : Bool := (options.values letter).any fun pattern =>
    fits (patternOf (pattern.toList.map fun c => (c, false))) name.toList
  let all := options.has 'a' || options.has 'f'
  (all || options.has 'A' || !isHidden) && !fitsAny 'I' &&
    (all || options.has 'A' || !fitsAny 'K') &&
    !(options.has 'B' && name.toList.getLast? = some '~')

def sort (rules : ListRules) (entries : List ListEntry) : List ListEntry :=
  let byName (a b : ListEntry) : Ordering :=
    if a.name = b.name then .eq else if a.name < b.name then .lt else .gt
  let number (f : Info → Nat) (entry : ListEntry) : Nat := (entry.info.map f).getD 0
  let ending (name : String) : List Char :=
    let back := name.toList.reverse
    if back.contains '.' then (back.takeWhile (· ≠ '.')).reverse else []
  let order (a b : ListEntry) : Ordering :=
    match rules.sorting with
    | 't' => (compare (number (·.modified) b) (number (·.modified) a)).then (byName a b)
    | 'S' => (compare (number (·.size) b) (number (·.size) a)).then (byName a b)
    | 'X' => (compareChars (ending a.name) (ending b.name)).then (byName a b)
    | 'v' => (compareVersions a.name.toList b.name.toList).then (byName a b)
    | _ => byName a b
  let isFolder (entry : ListEntry) : Bool := entry.info.any (·.kind = .directory)
  if rules.sorting = 'U' then (if rules.options.has 'r' then entries.reverse else entries)
  else
    let sorted := entries.mergeSort fun a b =>
      let result := order a b
      (if rules.options.has 'r' then result.swap else result) ≠ .gt
    if rules.options.has 'D' then sorted.filter isFolder ++ sorted.filter (!isFolder ·)
    else sorted

/-- What stands behind a name to tell its kind. -/
def mark (rules : ListRules) (info : Option Info) : String :=
  let options := rules.options
  let style := options.last? ['F', 'p', 'Y']
  let full := style = some 'F'
  let types := full || style = some 'Y'
  match info with
  | none => ""
  | some info =>
    match info.kind with
    | .directory => if style.isSome then "/" else ""
    | .link => if types then "@" else ""
    | .queue => if types then "|" else ""
    | .regular => if full && Nat.land info.mode 73 ≠ 0 then "*" else ""
    | .device => ""

def shownAs (rules : ListRules) (name : String) : String :=
  let options := rules.options
  match options.last? ['Q', 'b', 'N'] with
  | some 'Q' => "\"" ++ String.join (name.toList.map fun c =>
      if c = '"' then "\\\"" else if c = '\\' then "\\\\"
      else if c.toNat < 32 || 127 ≤ c.toNat then hiddenEscape c else String.singleton c) ++ "\""
  | some 'b' => String.join (name.toList.map fun c =>
      if c = ' ' then "\\ " else if c = '\\' then "\\\\"
      else if c.toNat < 32 || 127 ≤ c.toNat then hiddenEscape c else String.singleton c)
  | _ =>
    if options.has 'q' then
      String.ofList (name.toList.map fun c => if c.toNat < 32 || 127 ≤ c.toNat then '?' else c)
    else name

/-- The space an entry takes, as it is shown. -/
def space (rules : ListRules) (kilobytes : Nat) : String :=
  if rules.options.has 'h' then (if kilobytes = 0 then "0" else humanSize (kilobytes * 1024))
  else toString kilobytes

/-- The number and the space of an entry, where they are wanted. -/
def numbers (rules : ListRules) (entry : ListEntry) : List String :=
  (if rules.options.has 'i' then [(entry.info.map fun info => toString info.node).getD "?"]
    else []) ++
  (if rules.options.has 's' then [(entry.info.map fun info => rules.space (blocksOf info)).getD "?"]
    else [])

def timeText (rules : ListRules) (info : Info) : String :=
  let moment := Moment.ofNanos info.modified
  let isRecent := info.modified ≤ rules.now &&
    rules.now < info.modified + 15778476 * 1000000000
  let style := if rules.options.has 'W' then "full-iso" else (rules.options.value? 'E').getD "locale"
  let format := match style.toList with
    | '+' :: format => format
    | _ => (match style with
      | "full-iso" => "%F %T.%N %z"
      | "long-iso" => "%F %R"
      | "iso" => if isRecent then "%m-%d %R" else "%F "
      | _ => if isRecent then "%b %e %H:%M" else "%b %e  %Y").toList
  String.ofList (moment.format format)

/-- The columns of a long line in front of the name. -/
def columnsOf (rules : ListRules) (entry : ListEntry) : List String :=
  let options := rules.options
  let numeric := options.has 'n'
  let owner := if numeric then userNumber else userName
  rules.numbers entry ++
    (match entry.info with
    | none => ["??????????", "?"] ++ (if options.has 'g' then [] else ["?"]) ++
        (if options.has 'o' || options.has 'G' then [] else ["?"]) ++ ["?", "?"]
    | some info =>
      [modeText info, toString info.links] ++ (if options.has 'g' then [] else [owner]) ++
        (if options.has 'o' || options.has 'G' then [] else [owner]) ++
        [if options.has 'h' then humanSize info.size else toString info.size,
          rules.timeText info])

/-- Which columns of a long line are aligned to the left. -/
def isLeftColumn (rules : ListRules) (place count : Nat) : Bool :=
  let front := (if rules.options.has 'i' then 1 else 0) + (if rules.options.has 's' then 1 else 0)
  place = front || (front + 1 < place && place + 2 < count) || place + 1 = count

end ListRules

def alignColumns (isLeft : (place count : Nat) → Bool) (rows : List (List String)) :
    List (List String) :=
  let count := rows.foldl (fun n row => max n row.length) 0
  let widths := (List.range count).map fun place =>
    rows.foldl (fun n row => max n (row.getD place "").length) 0
  rows.map fun row => row.zipIdx.map fun (text, place) =>
    let width := widths.getD place 0
    if isLeft place count then padRight width text else padLeft width text

def lineWidth : Nat := 80

def columnWidths (isAcross : Bool) (count : Nat) (lengths : List Nat) : List Nat :=
  let rows := (lengths.length + count - 1) / count
  let columnOf (place : Nat) : Nat := if isAcross then place % count else place / rows
  (List.range count).map fun column =>
    lengths.zipIdx.foldl (fun n (length, place) =>
      if columnOf place = column then max n (length + (if column + 1 = count then 0 else 2)) else n) 3

/-- Blanks from one column to another, as tabs where they fit; `fuel` bounds them. -/
def blanksBetween : (fuel start stop : Nat) → List Char
  | 0, _, _ => []
  | fuel + 1, start, stop =>
    if stop ≤ start then []
    else if (start + 1) / 8 < stop / 8 then
      '\t' :: blanksBetween fuel (start + 8 - start % 8) stop
    else ' ' :: blanksBetween fuel (start + 1) stop

def columnLine (widths : List Nat) (texts : List String) : List Char :=
  let (_, _, done) := texts.zipIdx.foldl (fun (place, start, done) (text, column) =>
    let filled := done ++ blanksBetween (start + 1) place start ++ text.toList
    (start + text.length, start + widths.getD column 0, filled))
    ((0, 0, []) : Nat × Nat × List Char)
  done

def columnLines (isAcross : Bool) (width : Nat) (texts : List String) : List (List Char) :=
  let lengths := texts.map String.length
  let most := min texts.length (max 1 (width / 3))
  let candidates := (List.range most).reverse.map (· + 1)
  let fitting := candidates.find? fun count =>
    count = 1 || (columnWidths isAcross count lengths).foldl (· + ·) 0 < width
  let count := fitting.getD 1
  let widths := columnWidths isAcross count lengths
  let rows := (texts.length + count - 1) / count
  (List.range rows).map fun row =>
    let places := if isAcross then (List.range count).map fun column => row * count + column
      else (List.range count).map fun column => column * rows + row
    columnLine widths (places.filterMap fun place => texts[place]?)

def commaLines (width : Nat) (texts : List String) : List Char :=
  let last := texts.length - 1
  let (_, done) := texts.zipIdx.foldl (fun (column, done) (text, place) =>
    let size := text.length + (if place = last then 0 else 2)
    if place = 0 then (text.length, done ++ text.toList)
    else if column + 2 + text.length < width then
      (column + 2 + text.length, done ++ ", ".toList ++ text.toList)
    else (size, done ++ ",\n".toList ++ text.toList)) ((0, []) : Nat × List Char)
  done

def linkArrow (rules : ListRules) (entry : ListEntry) : Work String := do
  match entry.info with
  | some info =>
    if info.kind = .link then
      match ← Activity.readLink entry.path with
      | .ok target =>
        let there ← Activity.examine entry.path
        return " -> " ++ rules.shownAs target ++ rules.mark there.toOption
      | .error _ => return ""
    else return ""
  | none => return ""

def linkArrows (rules : ListRules) : List ListEntry → Work (List String)
  | [] => return []
  | entry :: rest => do
    let arrow ← linkArrow rules entry
    return arrow :: (← linkArrows rules rest)

def putEntries (rules : ListRules) (entries : List ListEntry) : Work Unit := do
  let lineEnd := if rules.options.has 'Z' then '\x00' else '\n'
  let label (entry : ListEntry) (isLong : Bool) : String :=
    let isLink := isLong && entry.info.any (·.kind = .link)
    rules.shownAs entry.name ++ (if isLink then "" else rules.mark entry.info)
  match rules.format with
  | .long =>
    let arrows ← linkArrows rules entries
    let rows := alignColumns rules.isLeftColumn (entries.map rules.columnsOf)
    let lines := (rows.zip (entries.zip arrows)).map fun (row, entry, arrow) =>
      (String.intercalate " " (row ++ [label entry true ++ arrow])).toList ++ [lineEnd]
    Work.putChars lines.flatten
  | format =>
    let fronts := alignColumns (fun _ _ => false) (entries.map rules.numbers)
    let texts := (fronts.zip entries).map fun (front, entry) =>
      String.intercalate " " (front ++ [label entry false])
    let width := ((rules.options.value? 'w').bind fun text => natural? text.toList).getD lineWidth
    match format with
    | .columns isAcross =>
      Work.putChars ((columnLines isAcross width texts).flatMap (· ++ [lineEnd]))
    | .commas => if !texts.isEmpty then Work.putChars (commaLines width texts ++ [lineEnd])
    | _ => Work.putChars (texts.flatMap fun text => text.toList ++ [lineEnd])

def entriesOf (rules : ListRules) (directory : String) : List String → Work (List ListEntry)
  | [] => return []
  | name :: rest => do
    let path := joinPath directory name
    let found ← if rules.follows then Activity.examine path else Activity.examineItself path
    let info ← match found with
      | .ok info => pure (some info)
      | .error fault =>
        Work.warn ("cannot access " ++ quoted path ++ ": " ++ fault.text)
        modify fun bench => { bench with status := max bench.status 1 }
        pure none
    return ⟨name, path, info⟩ :: (← entriesOf rules directory rest)

/-- Lists directories one after the other, and those in them if that is wanted; `fuel`
bounds their number. -/
def listDirectories (rules : ListRules) (titled : Bool) :
    (fuel : Nat) → (isFirst : Bool) → (directories : List (String × Bool)) → Work Unit
  | 0, _, _ => return
  | _ + 1, _, [] => return
  | fuel + 1, isFirst, (path, isOperand) :: rest => do
    match ← Activity.list path with
    | .error fault =>
      Work.warn ("cannot open directory " ++ quoted path ++ ": " ++ fault.text)
      modify fun bench => { bench with status := max bench.status (if isOperand then 2 else 1) }
      listDirectories rules titled fuel isFirst rest
    | .ok names =>
      let dots := if rules.options.has 'a' || rules.options.has 'f' then [".", ".."] else []
      let entries ← entriesOf rules path ((dots ++ names).filter rules.shows)
      let sorted := rules.sort entries
      if titled then
        Work.put ((if isFirst then "" else "\n") ++ rules.shownAs path ++ ":\n")
      if rules.format = .long || rules.options.has 's' then
        let total := entries.foldl (fun n entry => n + (entry.info.map blocksOf).getD 0) 0
        Work.putLine ("total " ++ rules.space total)
      putEntries rules sorted
      let inner := if rules.options.has 'R' then
          sorted.filterMap fun entry =>
            if entry.name ≠ "." && entry.name ≠ ".." && entry.info.any (·.kind = .directory) then
              some (entry.path, false)
            else none
        else []
      listDirectories rules titled fuel false (inner ++ rest)

/-- Looks up the operands of `ls`. -/
def listOperands (rules : ListRules) (followsFolders : Bool) : List String →
    Work (List ListEntry)
  | [] => return []
  | path :: rest => do
    let found ← if rules.follows then Activity.examine path
      else if followsFolders then
        match ← Activity.examine path with
        | .ok info =>
          if info.kind = .directory then pure (.ok info) else Activity.examineItself path
        | .error _ => Activity.examineItself path
      else Activity.examineItself path
    match found with
    | .ok info => return ⟨path, path, some info⟩ :: (← listOperands rules followsFolders rest)
    | .error fault =>
      Work.warn ("cannot access " ++ quoted path ++ ": " ++ fault.text)
      modify fun bench => { bench with status := 2 }
      listOperands rules followsFolders rest

def ls : Utility := fun words => do
  modify fun bench => { bench with failure := 2 }
  let options ← plainOptions ⟨"aAbBcCdDfFgGhHiklLmnNopqQrRsStuUvxX1WYZ".toList, "IwTEJMK".toList,
    ['V', 'e'], [("all", 'a'), ("almost-all", 'A'), ("escape", 'b'), ("ignore-backups", 'B'),
      ("directory", 'd'), ("classify", 'F'), ("human-readable", 'h'), ("inode", 'i'),
      ("dereference", 'L'), ("numeric-uid-gid", 'n'), ("literal", 'N'), ("hide-control-chars", 'q'),
      ("quote-name", 'Q'), ("reverse", 'r'), ("recursive", 'R'), ("size", 's'), ("no-group", 'G'),
      ("group-directories-first", 'D'), ("ignore", 'I'), ("hide", 'K'), ("width", 'w'),
      ("full-time", 'W'), ("time-style", 'E'), ("zero", 'Z'), ("file-type", 'Y'), ("sort", 'J'),
      ("format", 'M'), ("color", 'V'), ("indicator-style", 'e'), ("time", 'e')], true⟩ words
  let spelled : List Char := options.given.filterMap fun (letter, value) =>
    match letter, value with
    | 'J', "size" => some 'S'
    | 'J', "time" => some 't'
    | 'J', "extension" => some 'X'
    | 'J', "version" => some 'v'
    | 'J', _ => some 'U'
    | 'M', "commas" => some 'm'
    | 'M', "long" => some 'l'
    | 'M', "verbose" => some 'l'
    | 'M', "across" => some 'x'
    | 'M', "horizontal" => some 'x'
    | 'M', "vertical" => some 'C'
    | 'M', _ => some '1'
    | 'e', "slash" => some 'p'
    | 'e', "classify" => some 'F'
    | 'e', "file-type" => some 'Y'
    | other, _ => some other
  let lastOf (letters : List Char) : Option Char := spelled.reverse.find? letters.contains
  let format : ListFormat :=
    match lastOf ['1', 'l', 'n', 'g', 'o', 'C', 'x', 'm', 'W'] with
    | some 'C' => .columns false
    | some 'x' => .columns true
    | some 'm' => .commas
    | some '1' => if spelled.any ['l', 'n', 'g', 'o', 'W'].contains then .long else .single
    | some _ => .long
    | none => .single
  let sorting := (lastOf ['t', 'S', 'X', 'v', 'U', 'f']).getD 'n'
  let rules : ListRules :=
    { options := { options with given := options.given ++ spelled.map (·, "") }, format
      sorting := if sorting = 'f' then 'U' else sorting, now := ← Activity.now
      follows := options.has 'L' }
  let followsFolders := !(options.has 'd' || options.has 'F' || format = .long) || options.has 'H'
  let operands := if options.operands.isEmpty then ["."] else options.operands
  let entries ← listOperands rules followsFolders operands
  let isListed (entry : ListEntry) : Bool :=
    entry.info.any (·.kind = .directory) && !options.has 'd'
  let files := rules.sort (entries.filter (!isListed ·))
  let folders := rules.sort (entries.filter isListed)
  putEntries rules files
  listDirectories rules (1 < operands.length || options.has 'R') 1000000 files.isEmpty
    (folders.map fun entry => (entry.path, true))

/-- Lists in columns, with escapes. -/
def dir : Utility := fun words => ls ("-C" :: "-b" :: words)

/-- Lists with all details, with escapes. -/
def vdir : Utility := fun words => ls ("-l" :: "-b" :: words)

/-! ## Properties by a format -/

def statField (path : String) (info : Info) (target : Option String) (letter : Char) :
    Option String :=
  let bits := match info.kind with
    | .regular => 32768
    | .directory => 16384
    | .link => 40960
    | .queue => 4096
    | .device => 8192
  let raw := bits + info.mode
  let time := String.ofList ((Moment.ofNanos info.modified).format "%F %T.%N %z".toList)
  match letter with
  | 'n' => some path
  | 'N' => some (quoted path ++ (target.map fun text => " -> " ++ quoted text).getD "")
  | 's' => some (toString info.size)
  | 'F' => some (kindName info)
  | 'a' => some (octalText 1 info.mode)
  | 'A' => some (modeText info)
  | 'h' => some (toString info.links)
  | 'U' => some userName
  | 'G' => some userName
  | 'u' => some userNumber
  | 'g' => some userNumber
  | 'f' => some (String.ofList (Nat.toDigits 16 raw))
  | 'i' => some (toString info.node)
  | 'b' => some (toString (2 * blocksOf info))
  | 'B' => some "512"
  | 'o' => some "4096"
  | 't' => some "0"
  | 'T' => some "0"
  | 'd' => some "2049"
  | 'D' => some "801"
  | 'm' => some "/"
  | 'x' => some time
  | 'y' => some time
  | 'z' => some time
  | 'w' => some "-"
  | 'X' => some (toString (info.modified / 1000000000))
  | 'Y' => some (toString (info.modified / 1000000000))
  | 'Z' => some (toString (info.modified / 1000000000))
  | 'W' => some "0"
  | _ => none

/-- A format with its properties filled in; `fuel` bounds them. -/
def statText (field : Char → Option String) : (fuel : Nat) → List Char → List Char
  | 0, _ => []
  | _ + 1, [] => []
  | fuel + 1, '%' :: rest =>
    let flags := rest.takeWhile isLayoutFlag
    let digits := (rest.drop flags.length).takeWhile Char.isDigit
    match rest.drop (flags.length + digits.length) with
    | [] => '%' :: rest
    | '%' :: more => '%' :: statText field fuel more
    | c :: more =>
      let width := (natural? digits).getD 0
      let text := (field c).getD "?"
      let filled := if flags.contains '-' then padRight width text
        else if flags.contains '0' && text.toList.all Char.isDigit then
          String.ofList (List.replicate (width - text.length) '0') ++ text
        else padLeft width text
      filled.toList ++ statText field fuel more
  | fuel + 1, c :: rest => c :: statText field fuel rest

/-- What is shown of a file without a format. -/
def fullFormat : String :=
  "  File: %N\n  Size: %-10s\tBlocks: %-10b IO Block: %-6o %F\nDevice: 8,1\tInode: %-11i Links: %h\nAccess: (%04a/%10.10A)  Uid: (%5u/%8U)   Gid: (%5g/%8G)\nAccess: %x\nModify: %y\nChange: %z\n Birth: %w"

def stat : Utility := fun words => do
  let options ← plainOptions ⟨"Lft".toList, ['c', 'P'], [], [("format", 'c'), ("printf", 'P'),
    ("dereference", 'L'), ("terse", 't'), ("file-system", 'f')], true⟩ words
  if options.operands.isEmpty then Work.misuse "missing operand"
  let kind := options.last? ['c', 'P']
  let spelled := match kind with
    | some letter => (options.value? letter).getD ""
    | none => if options.has 't' then "%n %s %b %f %u %g %D %i %h %t %T %X %Y %Z %W %o"
      else fullFormat
  let format := if kind = some 'P' then (unescapeText spelled).1 else spelled.toList
  for path in options.operands do
    let found ← if path = "-" then Activity.examineOpen 0
      else if options.has 'L' then Activity.examine path else Activity.examineItself path
    match found with
    | .error fault => Work.complain ("cannot statx " ++ quoted path ++ ": " ++ fault.text)
    | .ok info =>
      let target ← if info.kind = .link then
          match ← Activity.readLink path with
          | .ok text => pure (some text)
          | .error _ => pure none
        else pure none
      Work.putChars (statText (statField path info target) (format.length + 1) format ++
        (if kind = some 'P' then [] else ['\n']))

end Conformance.Tool
