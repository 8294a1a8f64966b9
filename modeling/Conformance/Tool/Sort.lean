import Conformance.Shell.Numeral
import Conformance.Tool.Input

/-!
# Order of lines

Lines are compared by keys, and by all their bytes if the keys leave it open.  The
order is total, and sorting is stable.
-/

namespace Conformance.Tool

open Machine Shell

/-- How the texts of a key are compared. -/
inductive KeyOrder where
  | bytes
  /-- By the number at the start. -/
  | numeric
  /-- By the number at the start, which may have an exponent. -/
  | general
  /-- By a number and the unit behind it. -/
  | units
  /-- By the name of a month at the start. -/
  | months
  /-- By texts and numbers in turn. -/
  | version
deriving DecidableEq, Repr

structure KeyRules where
  order : KeyOrder
  reversed : Bool
  foldCase : Bool
  /-- Blanks in front do not count. -/
  skipBlanks : Bool
  /-- Only blanks, letters and digits count. -/
  onlyWords : Bool
  onlyVisible : Bool
deriving DecidableEq, Repr

def KeyRules.usual : KeyRules := ⟨.bytes, false, false, false, false, false⟩

/-- A place in a line: a field and a character in it, both from one; the character
zero stands for the end of the field. -/
structure FieldPlace where
  field : Nat
  char : Nat
  skipBlanks : Bool

/-- A part of a line and how it is compared. -/
structure SortKey where
  start : FieldPlace
  stop : Option FieldPlace
  rules : KeyRules

def isSpaceOrTab (c : Char) : Bool := c = ' ' || c = '\t' || c = '\n'

/-- What is left of a line behind one field and the mark after it. -/
def skipField (mark : Option Char) (text : List Char) : List Char :=
  match mark with
  | some c => (text.dropWhile (· ≠ c)).drop 1
  | none => (text.dropWhile isSpaceOrTab).dropWhile (!isSpaceOrTab ·)

/-- What is left of a line behind one field, without the mark after it. -/
def skipToFieldEnd (mark : Option Char) (text : List Char) : List Char :=
  match mark with
  | some c => text.dropWhile (· ≠ c)
  | none => (text.dropWhile isSpaceOrTab).dropWhile (!isSpaceOrTab ·)

/-- What is left of a line behind a number of fields. -/
def skipFields (mark : Option Char) : (count : Nat) → List Char → List Char
  | 0, text => text
  | count + 1, text =>
    if text.isEmpty then [] else skipFields mark count (skipField mark text)

namespace SortKey

def part (key : SortKey) (mark : Option Char) (line : List Char) : List Char :=
  let place (spot : FieldPlace) : List Char :=
    let field := skipFields mark (spot.field - 1) line
    if spot.skipBlanks then field.dropWhile isSpaceOrTab else field
  let rest := (place key.start).drop (key.start.char - 1)
  match key.stop with
  | none => rest
  | some stop =>
    let after := if stop.char = 0 then
        skipToFieldEnd mark (skipFields mark (stop.field - 1) line)
      else (place stop).drop stop.char
    rest.take (rest.length - after.length)

end SortKey

/-! ## Comparisons -/

/-- A decimal number at the start of a text, as a numerator over a power of ten. -/
def decimalFraction (text : List Char) : Int × Nat :=
  let body := text.dropWhile isSpaceOrTab
  let (negative, rest) := match body with
    | '-' :: more => (true, more)
    | _ => (false, body)
  let whole := rest.takeWhile Char.isDigit
  let places := match rest.drop whole.length with
    | '.' :: more => more.takeWhile Char.isDigit
    | _ => []
  let value : Int := Int.ofNat ((natural? (whole ++ places)).getD 0)
  (if negative then -value else value, places.length)

def compareFractions (a b : Int × Nat) : Ordering :=
  compare (a.1 * Int.ofNat (Nat.pow 10 b.2)) (b.1 * Int.ofNat (Nat.pow 10 a.2))

def compareChars (a b : List Char) : Ordering :=
  if a = b then .eq else if a < b then .lt else .gt

/-- Numbers in order; what is no number comes first, and then what is not a number by
its name. -/
def compareGeneral (a b : List Char) : Ordering :=
  let rank (number : Option (Binary64 × List Char)) : Nat := match number with
    | none => 0
    | some (.nan, _) => 1
    | some _ => 2
  let x := numeralAt? a
  let y := numeralAt? b
  (compare (rank x) (rank y)).then <| match x, y with
    | some (x, _), some (y, _) => if x.lt y then .lt else if y.lt x then .gt else .eq
    | _, _ => .eq

def unitRank (text : List Char) : Nat :=
  let body := text.dropWhile fun c => isSpaceOrTab c || c = '-'
  match body.dropWhile (fun c => c.isDigit || c = '.') with
  | c :: _ => match "KMGTPEZYRQ".toList.idxOf? (if c = 'k' then 'K' else c) with
    | some i => i + 1
    | none => 0
  | [] => 0

def compareUnits (a b : List Char) : Ordering :=
  let x := decimalFraction a
  let y := decimalFraction b
  let sign (v : Int × Nat) : Int := v.1.sign
  let rank (v : Int × Nat) (text : List Char) : Int := sign v * unitRank text
  ((compare (sign x) (sign y)).then (compare (rank x a) (rank y b))).then (compareFractions x y)

def monthNumber (text : List Char) : Nat :=
  let name := ((text.dropWhile isSpaceOrTab).take 3).map Char.toUpper
  let names := ["JAN", "FEB", "MAR", "APR", "MAY", "JUN", "JUL", "AUG", "SEP", "OCT", "NOV",
    "DEC"]
  (names.findIdx? (·.toList = name)).elim 0 (· + 1)

/-- The rank of the first character of a text where texts and numbers are compared in
turn: a tilde, the end, digits, letters, the others. -/
def versionRank : List Char → Int
  | [] => -1
  | c :: _ =>
    if c.isDigit then 0 else if c.isAlpha then Int.ofNat c.toNat
    else if c = '~' then -2 else Int.ofNat (c.toNat + 256)

/-- Compares up to the next digits of both texts; `fuel` bounds the characters. -/
def compareToDigits : (fuel : Nat) → List Char → List Char → Ordering × List Char × List Char
  | 0, a, b => (.eq, a, b)
  | fuel + 1, a, b =>
    let isText (text : List Char) : Bool := text.head?.any fun c => !c.isDigit
    if isText a || isText b then
      match compare (versionRank a) (versionRank b) with
      | .eq => compareToDigits fuel (a.drop 1) (b.drop 1)
      | other => (other, a, b)
    else (.eq, a, b)

/-- Texts with numbers in them: runs of digits are compared by value.  `fuel` bounds
the runs. -/
def compareRuns : (fuel : Nat) → List Char → List Char → Ordering
  | 0, _, _ => .eq
  | fuel + 1, a, b =>
    if a.isEmpty && b.isEmpty then .eq
    else
      match compareToDigits (a.length + b.length + 1) a b with
      | (.eq, restA, restB) =>
        let digitsA := restA.takeWhile Char.isDigit
        let digitsB := restB.takeWhile Char.isDigit
        let value (digits : List Char) : Nat := (natural? digits).getD 0
        (compare (value digitsA) (value digitsB)).then
          (compareRuns fuel (restA.drop digitsA.length) (restB.drop digitsB.length))
      | (other, _, _) => other

/-- Whether a text is made of nothing but endings such as `.tar` or `.gz`; `fuel` bounds
them. -/
def isEndings : (fuel : Nat) → List Char → Bool
  | 0, _ => false
  | _ + 1, [] => true
  | fuel + 1, '.' :: c :: rest =>
    (c.isAlpha || c = '~') && isEndings fuel (rest.dropWhile fun c => c.isAlphanum || c = '~')
  | _ + 1, _ => false

def withoutEndings : List Char → List Char
  | [] => []
  | c :: rest => c :: (if isEndings (rest.length + 1) rest then [] else withoutEndings rest)

def compareVersions (a b : List Char) : Ordering :=
  let rank (name : List Char) : Nat := match name with
    | [] => 0
    | ['.'] => 1
    | ['.', '.'] => 2
    | '.' :: _ => 3
    | _ => 4
  let fuel := a.length + b.length + 1
  ((compare (rank a) (rank b)).then (compareRuns fuel (withoutEndings a) (withoutEndings b))).then
    (compareRuns fuel a b)

namespace KeyRules

def relevant (rules : KeyRules) (text : List Char) : List Char :=
  let body := if rules.skipBlanks then text.dropWhile isSpaceOrTab else text
  let kept := if rules.onlyWords then body.filter fun c => c.isAlphanum || isSpaceOrTab c
    else if rules.onlyVisible then body.filter fun c => ' ' ≤ c && c ≤ '~' else body
  if rules.foldCase then kept.map Char.toUpper else kept

def compareTexts (rules : KeyRules) (a b : List Char) : Ordering :=
  let result := match rules.order with
    | .bytes => compareChars (rules.relevant a) (rules.relevant b)
    | .numeric => compareFractions (decimalFraction a) (decimalFraction b)
    | .general => compareGeneral a b
    | .units => compareUnits a b
    | .months => compare (monthNumber a) (monthNumber b)
    | .version => compareVersions (rules.relevant a) (rules.relevant b)
  if rules.reversed then result.swap else result

def withLetter (rules : KeyRules) (letter : Char) : KeyRules :=
  match letter with
  | 'n' => { rules with order := .numeric }
  | 'g' => { rules with order := .general }
  | 'h' => { rules with order := .units }
  | 'M' => { rules with order := .months }
  | 'V' => { rules with order := .version }
  | 'r' => { rules with reversed := true }
  | 'f' => { rules with foldCase := true }
  | 'b' => { rules with skipBlanks := true }
  | 'd' => { rules with onlyWords := true }
  | 'i' => { rules with onlyVisible := true }
  | _ => rules

end KeyRules

/-- Letters that cannot be asked for together, if there are such. -/
def clashingLetters? (letters : List Char) : Option (List Char) :=
  let kinds := ["n", "g", "h", "M", "VRdi"].filter fun kind =>
    kind.toList.any letters.contains
  if 1 < kinds.length then some ("dfghiMnRV".toList.filter letters.contains) else none

/-- How whole lines are compared. -/
structure LineOrder where
  keys : List SortKey
  mark : Option Char
  rules : KeyRules
  /-- Whether equal keys make lines equal. -/
  byKeysOnly : Bool

/-- A line and the parts of it that its keys name. -/
structure KeyedLine where
  line : List Char
  parts : List (List Char)

namespace LineOrder

def keyed (order : LineOrder) (line : List Char) : KeyedLine :=
  ⟨line, order.keys.map fun key => key.part order.mark line⟩

def compareParts : List SortKey → List (List Char) → List (List Char) → Ordering
  | key :: keys, a :: restA, b :: restB =>
    match key.rules.compareTexts a b with
    | .eq => compareParts keys restA restB
    | other => other
  | _, _, _ => .eq

def compareKeys (order : LineOrder) (a b : KeyedLine) : Ordering :=
  if order.keys.isEmpty then order.rules.compareTexts a.line b.line
  else compareParts order.keys a.parts b.parts

def compareLines (order : LineOrder) (a b : KeyedLine) : Ordering :=
  match order.compareKeys a b with
  | .eq =>
    if order.byKeysOnly then .eq
    else if order.rules.reversed then compareChars b.line a.line
    else compareChars a.line b.line
  | other => other

def sort (order : LineOrder) (lines : List KeyedLine) : List KeyedLine :=
  lines.mergeSort fun a b => order.compareLines a b ≠ .gt

/-- Lines that are taken from the fronts of lists, the least first; of equal ones the
one of the earlier list.  `fuel` bounds the lines. -/
def merge (order : LineOrder) : (fuel : Nat) → List (List KeyedLine) → List KeyedLine
  | 0, _ => []
  | fuel + 1, lists =>
    let fronts := lists.zipIdx.filterMap fun (lines, index) => lines.head?.map (·, index)
    match fronts with
    | [] => []
    | first :: others =>
      let (line, index) := others.foldl (fun best next =>
        if order.compareLines next.1 best.1 = .lt then next else best) first
      line :: order.merge fuel (lists.modify index (·.drop 1))

/-- Of lines that follow each other and compare as equal, the first. -/
def firsts (order : LineOrder) (lines : List KeyedLine) : List KeyedLine :=
  (lines.foldl (fun done line => match done with
    | last :: _ => if order.compareKeys last line = .eq then done else line :: done
    | [] => [line]) []).reverse

/-- Where lines are out of order first: the number of the later line, and the line. -/
def disorder? (order : LineOrder) (strictly : Bool) :
    (number : Nat) → List KeyedLine → Option (Nat × List Char)
  | number, a :: b :: rest =>
    let result := order.compareLines a b
    if result = .gt || (strictly && result = .eq) then some (number + 1, b.line)
    else order.disorder? strictly (number + 1) (b :: rest)
  | _, _ => none

end LineOrder

/-! ## Keys -/

def keyNumber (title : String) (text : List Char) : Except String (Nat × List Char) :=
  let digits := text.takeWhile Char.isDigit
  match natural? digits with
  | some n => .ok (n, text.drop digits.length)
  | none => .error (title ++ ": invalid count at start of " ++ quoted (String.ofList text))

def keyLetters (text : List Char) : List Char × List Char :=
  let letters := text.takeWhile "nghVrfbdiMR".toList.contains
  (letters, text.drop letters.length)

/-- A key such as `2,3nr`.  Without letters of its own it takes the general rules. -/
def sortKey (general : KeyRules) (spec : String) : Except String SortKey := do
  let bad (title : String) : String := title ++ ": invalid field specification " ++ quoted spec
  let (field, rest) ← keyNumber "invalid number at field start" spec.toList
  if field = 0 then .error (bad "field number is zero")
  let (char, rest) ← match rest with
    | '.' :: more => do
      let (char, rest) ← keyNumber "invalid number after '.'" more
      if char = 0 then .error (bad "character offset is zero")
      pure (char, rest)
    | _ => pure (1, rest)
  let (letters, rest) := keyLetters rest
  let (stop, rest) ← match rest with
    | ',' :: more => do
      let (stopField, rest) ← keyNumber "invalid number after ','" more
      if stopField = 0 then .error (bad "field number is zero")
      match rest with
      | '.' :: more => do
        let (stopChar, rest) ← keyNumber "invalid number after '.'" more
        pure (some (stopField, stopChar), rest)
      | _ => pure (some (stopField, 0), rest)
    | _ => pure (none, rest)
  let (stopLetters, rest) := if stop.isSome then keyLetters rest else ([], rest)
  if !rest.isEmpty then .error (bad "stray character in field spec")
  let own := letters ++ stopLetters
  match clashingLetters? own with
  | some clash => .error ("options '-" ++ String.ofList clash ++ "' are incompatible")
  | none => pure ()
  let rules := if own.isEmpty then general else own.foldl KeyRules.withLetter .usual
  let inherits := own.isEmpty && general.skipBlanks
  return ⟨⟨field, char, inherits || letters.contains 'b'⟩,
    stop.map fun (stopField, stopChar) =>
      ⟨stopField, stopChar, inherits || stopLetters.contains 'b'⟩,
    { rules with skipBlanks := false }⟩

/-- Refuses what `sort` cannot do. -/
def checkSortOption (letter : Char) (value : String) : Work Unit := do
  match letter with
  | 'k' =>
    match sortKey .usual value with
    | .error message => if !message.startsWith "options" then Work.fail message
    | .ok _ => pure ()
  | 't' =>
    if value.isEmpty then Work.fail "empty tab"
    if 1 < value.length && value ≠ "\\0" then Work.fail ("multi-character tab " ++ quoted value)
  | 'S' => if (value.toList.takeWhile Char.isDigit).isEmpty then
      Work.fail ("invalid -S argument " ++ quoted value)
  | 'P' => if natural? value.toList = some 0 then Work.fail "number in parallel must be nonzero"
  | 'W' =>
    let _ ← choice "--sort" value [["general-numeric"], ["human-numeric"], ["month"],
      ["numeric"], ["random"], ["version"]]
  | 'Q' =>
    if !value.isEmpty then
      let _ ← choice "--check" value [["quiet", "silent"], ["diagnose-first"]]
  | _ => pure ()

def isReadable (operand : String) : Work (Option Fault) := do
  if operand = "-" then return none
  else match ← Activity.examine operand with
    | .ok info => return if info.canRead then none else some .permissionDenied
    | .error fault => return some fault

/-- A first word such as `+1` spelled out as a key. -/
def spellOutKey (words : List String) : List String :=
  words.flatMap fun word =>
    match word.toList with
    | '+' :: digits =>
      match natural? digits with
      | some n => ["-k", toString (n + 1)]
      | none => [word]
    | _ => [word]

def writeResult (target : String) (data : ByteArray) : Work Unit := do
  match ← Activity.openFile target .output with
  | .error fault => Work.fail ("open failed: " ++ shownName target ++ ": " ++ fault.text)
  | .ok descriptor =>
    match ← Activity.write descriptor data with
    | some fault => Work.fail ("write failed: " ++ shownName target ++ ": " ++ fault.text)
    | none => Activity.close descriptor

/-- The lines of the operands of `sort`. -/
def sortInput (mark : UInt8) : List String → Work (List (List (List Char)))
  | [] => return []
  | operand :: rest => do
    match ← Work.readOperand operand with
    | .ok data => return (linesOfData mark data).map (·.content) :: (← sortInput mark rest)
    | .error fault =>
      Work.fail ((if fault = .notFound || fault = .permissionDenied then "cannot read: "
        else "read failed: ") ++ shownName operand ++ ": " ++ fault.text)

def sort : Utility := fun words => do
  modify fun bench => { bench with failure := 2 }
  let options ← readOptions ⟨"nghVrfbdiMRucCsmz".toList, "ktoSTPWAX".toList, ['Q'],
    [("reverse", 'r'), ("numeric-sort", 'n'), ("unique", 'u'), ("key", 'k'),
      ("field-separator", 't'), ("ignore-case", 'f'), ("stable", 's'), ("output", 'o'),
      ("check", 'Q'), ("version-sort", 'V'), ("human-numeric-sort", 'h'), ("month-sort", 'M'),
      ("general-numeric-sort", 'g'), ("ignore-leading-blanks", 'b'), ("random-sort", 'R'),
      ("dictionary-order", 'd'), ("ignore-nonprinting", 'i'), ("merge", 'm'),
      ("zero-terminated", 'z'), ("buffer-size", 'S'), ("temporary-directory", 'T'),
      ("parallel", 'P'), ("sort", 'W'), ("batch-size", 'A'), ("random-source", 'X')], true⟩
    checkSortOption (spellOutKey words)
  let tabs := (options.values 't').eraseDups
  if 1 < tabs.length then Work.fail "incompatible tabs"
  if 1 < (options.values 'o').eraseDups.length then Work.fail "multiple output files specified"
  let named : List Char := (options.values 'W').filterMap fun name =>
    [("general-numeric", 'g'), ("human-numeric", 'h'), ("month", 'M'), ("numeric", 'n'),
      ("version", 'V')].lookup name
  let letters := options.given.map (·.1) ++ named
  match clashingLetters? letters with
  | some clash => Work.fail ("options '-" ++ String.ofList clash ++ "' are incompatible")
  | none => pure ()
  let general := letters.foldl KeyRules.withLetter .usual
  let mark := match tabs with
    | "\\0" :: _ => some '\x00'
    | text :: _ => text.toList.head?
    | [] => none
  let keys ← match (options.values 'k').mapM (sortKey general) with
    | .ok keys => pure keys
    | .error message => Work.fail message
  let quiet := options.has 'C' || (options.values 'Q').any fun value =>
    "quiet".startsWith value && !value.isEmpty || "silent".startsWith value && !value.isEmpty
  let checks := options.has 'c' || options.has 'C' || options.has 'Q'
  if checks && options.has 'o' then
    Work.fail ("options '-" ++ (if quiet then "C" else "c") ++ "o' are incompatible")
  if options.has 'c' && options.has 'C' then Work.fail "options '-cC' are incompatible"
  let operands := Work.orInput options.operands
  if checks then
    match operands with
    | _ :: extra :: _ =>
      Work.fail ("extra operand " ++ quoted extra ++ " not allowed with -" ++
        (if quiet then "C" else "c"))
    | _ => pure ()
  for operand in operands do
    match ← isReadable operand with
    | some fault => Work.fail ("cannot read: " ++ shownName operand ++ ": " ++ fault.text)
    | none => pure ()
  let order : LineOrder := ⟨keys, mark, general, options.has 's' || options.has 'u'⟩
  let lineEnd : UInt8 := if options.has 'z' then 0 else 10
  let files ← sortInput lineEnd operands
  if checks then
    match order.disorder? (options.has 'u') 1 (files.flatten.map order.keyed) with
    | none => pure ()
    | some (number, line) =>
      if !quiet then
        Work.warn (shownName (operands.headD "-") ++ ":" ++ toString number ++ ": disorder: " ++
          String.ofList line)
      throw 1
  else
    let sorted := if options.has 'm' then
        order.merge (files.flatten.length) (files.map (·.map order.keyed))
      else order.sort (files.flatten.map order.keyed)
    let kept := if options.has 'u' then order.firsts sorted else sorted
    let data := kept.foldl (fun data line => (data ++ dataOfChars line.line).push lineEnd)
      ByteArray.empty
    match options.value? 'o' with
    | none => Work.putData data
    | some target => writeResult target data

/-! ## Equal neighbours -/

/-- Which part of a line `uniq` looks at. -/
structure UniqRules where
  fields : Nat
  chars : Nat
  width : Option Nat
  foldCase : Bool

def UniqRules.part (rules : UniqRules) (line : List Char) : List Char :=
  let rest := (skipFields none rules.fields line).drop rules.chars
  let cut := match rules.width with
    | some n => rest.take n
    | none => rest
  if rules.foldCase then cut.map Char.toLower else cut

/-- Where blank lines stand between groups. -/
inductive Spacing where
  | none
  | before
  | between
  | behind
  | around
deriving DecidableEq

/-- What `uniq` puts out of a group. -/
structure UniqOutput where
  counts : Bool
  repeated : Bool
  single : Bool
  /-- Every line of a group, and of which groups. -/
  every : Bool
  groups : Bool
  spacing : Spacing

/-- The group under way: its first line, its size, and how many groups were shown. -/
structure UniqState where
  first : Option (List Char)
  count : Nat
  shown : Nat

namespace UniqOutput

/-- A blank line in front of a group, where there is one. -/
def openGroup (output : UniqOutput) (mark : UInt8) (shown : Nat) : Work Unit := do
  let isWanted := match output.spacing with
    | .before => true
    | .around => true
    | .between => 0 < shown
    | _ => false
  if isWanted then Work.putTextLine mark ⟨[], true⟩

def closeGroup (output : UniqOutput) (mark : UInt8) (state : UniqState) : Work UniqState := do
  match state.first with
  | none => return state
  | some line =>
    if output.groups || output.every then
      if output.groups && output.spacing = .behind then Work.putTextLine mark ⟨[], true⟩
      return state
    else
      let isWanted := (!output.repeated || 1 < state.count) &&
        (!output.single || state.count = 1)
      if isWanted then
        let front := if output.counts then (padLeft 7 (toString state.count) ++ " ").toList
          else []
        Work.putTextLine mark ⟨front ++ line, true⟩
      return state

def add (output : UniqOutput) (rules : UniqRules) (mark : UInt8) (state : UniqState)
    (line : List Char) : Work UniqState := do
  let isSame := state.first.any fun first => rules.part first = rules.part line
  if isSame then
    if output.every then
      if state.count = 1 then
        output.openGroup mark state.shown
        Work.putTextLine mark ⟨state.first.getD [], true⟩
      Work.putTextLine mark ⟨line, true⟩
      return { state with
        count := state.count + 1
        shown := if state.count = 1 then state.shown + 1 else state.shown }
    else
      if output.groups then Work.putTextLine mark ⟨line, true⟩
      return { state with count := state.count + 1 }
  else
    let state ← output.closeGroup mark state
    if output.groups then
      output.openGroup mark state.shown
      Work.putTextLine mark ⟨line, true⟩
      return ⟨some line, 1, state.shown + 1⟩
    else return ⟨some line, 1, state.shown⟩

end UniqOutput

def checkUniqOption (letter : Char) (value : String) : Work Unit := do
  let number (what : String) : Work Unit := do
    if (natural? value.toList).isNone then
      Work.fail (value ++ ": invalid number of " ++ what)
  match letter with
  | 'f' => number "fields to skip"
  | 's' => number "bytes to skip"
  | 'w' => number "bytes to compare"
  | 'G' =>
    if !value.isEmpty then
      let _ ← choice "--group" value [["prepend"], ["append"], ["separate"], ["both"]]
  | 'A' =>
    if !value.isEmpty then
      let _ ← choice "--all-repeated" value [["none"], ["prepend"], ["separate"]]
  | _ => pure ()

def spacingOf (word : String) : Spacing :=
  match word.toList.head? with
  | some 'p' => .before
  | some 'a' => .behind
  | some 'b' => .around
  | some 's' => .between
  | _ => .none

def uniq : Utility := fun words => do
  let spelled := words.flatMap fun word =>
    match word.toList with
    | '+' :: digits => if (natural? digits).isSome then ["-s", String.ofList digits] else [word]
    | _ => spellNumber word
  let options ← readOptions ⟨"cduiDz".toList, "fsw".toList, ['G', 'A'], [("count", 'c'),
    ("repeated", 'd'), ("unique", 'u'), ("ignore-case", 'i'), ("skip-fields", 'f'),
    ("skip-chars", 's'), ("check-chars", 'w'), ("group", 'G'), ("all-repeated", 'A'),
    ("zero-terminated", 'z')], true⟩ checkUniqOption spelled
  match options.operands with
  | _ :: _ :: extra :: _ => Work.misuse ("extra operand " ++ quoted extra)
  | _ => pure ()
  let every := options.has 'D' || options.has 'A'
  if options.has 'G' && (options.has 'c' || options.has 'd' || options.has 'u' || every) then
    Work.misuse "--group is mutually exclusive with -c/-d/-D/-u"
  if every && options.has 'c' then
    Work.misuse "printing all duplicated lines and repeat counts is meaningless"
  let number? (letter : Char) : Option Nat :=
    (options.value? letter).bind fun text => natural? text.toList
  let rules : UniqRules := ⟨(number? 'f').getD 0, (number? 's').getD 0, number? 'w',
    options.has 'i'⟩
  let spacing : Spacing := match options.value? 'G', options.value? 'A' with
    | some word, _ => if word.isEmpty then .between else spacingOf word
    | none, some word => if word = "none" then .none else spacingOf word
    | none, none => .none
  let output : UniqOutput := ⟨options.has 'c', options.has 'd', options.has 'u', every,
    options.has 'G', spacing⟩
  let mark : UInt8 := if options.has 'z' then 0 else 10
  let source := options.operands.headD "-"
  match ← Work.openOperand source with
  | .error fault => Work.fail (shownName source ++ ": " ++ fault.text)
  | .ok descriptor =>
    match options.operands[1]? with
    | some target =>
      if target ≠ "-" then
        match ← Activity.openFile target .output with
        | .error fault => Work.fail (shownName target ++ ": " ++ fault.text)
        | .ok file =>
          let _ ← Activity.ask (.redirect file 1)
          Activity.close file
    | none => pure ()
    let (state, stream) ← (Stream.ofDescriptor descriptor mark).fold
      (fun state line => do return (← output.add rules mark state line.content, true))
      (⟨none, 0, 0⟩ : UniqState)
    let state ← output.closeGroup mark state
    if spacing = .around && output.groups && state.first.isSome then
      Work.putTextLine mark ⟨[], true⟩
    match stream.fault with
    | some fault => Work.fail ("error reading " ++ quoted source ++ ": " ++ fault.text)
    | none => pure ()
where
  /-- A word such as `-1` spelled out as an option. -/
  spellNumber (word : String) : List String :=
    match word.toList with
    | '-' :: digits => if (natural? digits).isSome then ["-f", String.ofList digits] else [word]
    | _ => [word]

end Conformance.Tool
