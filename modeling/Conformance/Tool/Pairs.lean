import Conformance.Tool.Fields

/-!
# Two sorted files

Tools that go through two sorted files side by side.  That a file is not sorted shows
only where two lines in a row are compared, and it matters only once a line has had no
partner, unless the order is to be checked in any case.
-/

namespace Conformance.Tool

open Machine

/-- How closely the order of the input is watched. -/
inductive OrderCheck where
  | never
  | afterMismatch
  | always
deriving DecidableEq

/-- One of two files: the item before the first, and the items that are left, with their
numbers. -/
structure Side (α : Type) where
  past : Option (α × Nat)
  left : List (α × Nat)

namespace Side

variable {α : Type}

def ofList (items : List α) : Side α := ⟨none, items.zipIdx 1⟩

/-- Goes on by one item; also gives the two items whose order is looked at. -/
def advance (side : Side α) : Side α × Option ((α × Nat) × (α × Nat)) :=
  match side.left with
  | [] => (side, none)
  | consumed :: rest =>
    let pair := match rest with
      | next :: _ => some (consumed, next)
      | [] => side.past.map fun past => (past, consumed)
    (⟨some consumed, rest⟩, pair)

end Side

/-- What going through two files brings up. -/
inductive Finding (α : Type) where
  | first (item : α)
  | second (item : α)
  | both (items : List α) (partners : List α)
  /-- A line of one of the files is out of order. -/
  | disorder (isSecond : Bool) (item : α) (place : Nat)

/-- Which files have been found out of order. -/
structure Disorder where
  mismatch : Bool
  first : Bool
  second : Bool

namespace Disorder

def look {α : Type} (check : OrderCheck) (before : α → α → Bool) (isSecond : Bool)
    (pair : Option ((α × Nat) × (α × Nat))) (state : Disorder) :
    Disorder × List (Finding α) :=
  let watched := check = .always || (check = .afterMismatch && state.mismatch)
  let known := if isSecond then state.second else state.first
  match pair with
  | some ((a, _), (b, place)) =>
    if watched && !known && before b a then
      (if isSecond then { state with second := true } else { state with first := true },
        [.disorder isSecond b place])
    else (state, [])
  | none => (state, [])

end Disorder

/-! ## Common lines -/

/-- The lines of two files by where they are; `fuel` bounds them. -/
def commonLines (check : OrderCheck) : (fuel : Nat) → Disorder → Side (List Char) →
    Side (List Char) → List (Finding (List Char))
  | 0, _, _, _ => []
  | fuel + 1, state, left, right =>
    let before (a b : List Char) : Bool := a < b
    let goLeft (state : Disorder) (finding : Finding (List Char)) : List (Finding (List Char)) :=
      let (next, pair) := left.advance
      let (state, found) := state.look check before false pair
      finding :: (found ++ commonLines check fuel state next right)
    let goRight (state : Disorder) (finding : Finding (List Char)) :
        List (Finding (List Char)) :=
      let (next, pair) := right.advance
      let (state, found) := state.look check before true pair
      finding :: (found ++ commonLines check fuel state left next)
    match left.left with
    | [] =>
      match right.left with
      | [] => []
      | (b, _) :: _ => goRight { state with mismatch := true } (.second b)
    | (a, _) :: _ =>
      match right.left with
      | [] => goLeft { state with mismatch := true } (.first a)
      | (b, _) :: _ =>
        if a = b then
          let (nextLeft, leftPair) := left.advance
          let (state, foundLeft) := state.look check before false leftPair
          let (nextRight, rightPair) := right.advance
          let (state, foundRight) := state.look check before true rightPair
          .both [a] [b] :: (foundLeft ++ foundRight ++
            commonLines check fuel state nextLeft nextRight)
        else if a < b then goLeft { state with mismatch := true } (.first a)
        else goRight { state with mismatch := true } (.second b)

def twoOperands (options : Options) : Work (String × String) := do
  match options.operands with
  | [] => Work.misuse "missing operand"
  | [only] => Work.misuse ("missing operand after " ++ quoted only)
  | [first, second] => return (first, second)
  | _ :: _ :: extra :: _ => Work.misuse ("extra operand " ++ quoted extra)

def operandLines (mark : UInt8) (operand : String) : Work (List (List Char)) := do
  match ← Work.readOperand operand with
  | .ok data => return (linesOfData mark data).map (·.content)
  | .error fault => Work.fail (shownName operand ++ ": " ++ fault.text)

/-- Puts out what `comm` found. -/
def putFindings (check : OrderCheck) (mark : UInt8) (put : Nat → List Char → Work Unit) :
    List (Finding (List Char)) → Work Bool
  | [] => return false
  | finding :: rest => do
    match finding with
    | .first line =>
      put 1 line
      putFindings check mark put rest
    | .second line =>
      put 2 line
      putFindings check mark put rest
    | .both lines _ =>
      put 3 (lines.headD [])
      putFindings check mark put rest
    | .disorder isSecond _ _ =>
      Work.warn ("file " ++ (if isSecond then "2" else "1") ++ " is not in sorted order")
      if check = .always then throw 1
      let _ ← putFindings check mark put rest
      return true

def comm : Utility := fun words => do
  let options ← plainOptions ⟨"123zcnt".toList, ['O'], [], [("check-order", 'c'),
    ("nocheck-order", 'n'), ("output-delimiter", 'O'), ("total", 't'),
    ("zero-terminated", 'z')], true⟩ words
  let (first, second) ← twoOperands options
  let mark : UInt8 := if options.has 'z' then 0 else 10
  let left ← operandLines mark first
  let right ← operandLines mark second
  let check : OrderCheck := match options.last? ['c', 'n'] with
    | some 'c' => .always
    | some _ => .never
    | none => .afterMismatch
  let glue := ((options.value? 'O').getD "\t").toList
  let hides (column : Nat) : Bool := options.has (Char.ofNat ('0'.toNat + column))
  let indent (column : Nat) : List Char :=
    ((List.range column).filter fun n => 0 < n && !hides n).flatMap fun _ => glue
  let put (column : Nat) (line : List Char) : Work Unit := do
    if !hides column then Work.putTextLine mark ⟨indent column ++ line, true⟩
  let findings := commonLines check (left.length + right.length + 1) ⟨false, false, false⟩
    (.ofList left) (.ofList right)
  let unsorted ← putFindings check mark put findings
  if options.has 't' then
    let count (test : Finding (List Char) → Bool) : List Char :=
      (toString (findings.filter test).length).toList
    let counts := [count fun finding => match finding with | .first _ => true | _ => false,
      count fun finding => match finding with | .second _ => true | _ => false,
      count fun finding => match finding with | .both _ _ => true | _ => false]
    Work.putTextLine mark ⟨glue.intercalate (counts ++ ["total".toList]), true⟩
  if unsorted then Work.fail "input is not in sorted order"

/-! ## Joined lines -/

def fieldsBy (mark : Option Char) (line : List Char) : List (List Char) :=
  match mark with
  | some c => splitAtMark c line
  | none => (splitAtMark ' ' (line.map fun c => if c = '\t' then ' ' else c)).filter (!·.isEmpty)

/-- A line with its fields and the one that counts. -/
structure Record where
  line : List Char
  fields : List (List Char)
  key : List Char

/-- The records at the start of a side that have a key. -/
def sameKey (same : List Char → List Char → Bool) (key : List Char) : (fuel : Nat) →
    Side Record → (taken : List Record) → (pairs : List ((Record × Nat) × (Record × Nat))) →
    List Record × Side Record × List ((Record × Nat) × (Record × Nat))
  | 0, side, taken, pairs => (taken.reverse, side, pairs.reverse)
  | fuel + 1, side, taken, pairs =>
    match side.left with
    | (record, _) :: _ =>
      if same record.key key then
        let (next, pair) := side.advance
        sameKey same key fuel next (record :: taken) (pair.toList ++ pairs)
      else (taken.reverse, side, pairs.reverse)
    | [] => (taken.reverse, side, pairs.reverse)

/-- The records of two files by their keys; `fuel` bounds them. -/
def joinedRecords (check : OrderCheck) (before : List Char → List Char → Bool) :
    (fuel : Nat) → Disorder → Side Record → Side Record → List (Finding Record)
  | 0, _, _, _ => []
  | fuel + 1, state, left, right =>
    let order (a b : Record) : Bool := before a.key b.key
    let lookAll (isSecond : Bool) (pairs : List ((Record × Nat) × (Record × Nat)))
        (state : Disorder) : Disorder × List (Finding Record) :=
      pairs.foldl (fun (state, found) pair =>
        let (state, more) := state.look check order isSecond (some pair)
        (state, found ++ more)) (state, [])
    let goLeft (record : Record) : List (Finding Record) :=
      let (next, pair) := left.advance
      let (state, found) := lookAll false pair.toList { state with mismatch := true }
      .first record :: (found ++ joinedRecords check before fuel state next right)
    let goRight (record : Record) : List (Finding Record) :=
      let (next, pair) := right.advance
      let (state, found) := lookAll true pair.toList { state with mismatch := true }
      .second record :: (found ++ joinedRecords check before fuel state left next)
    match left.left with
    | [] =>
      match right.left with
      | [] => []
      | (b, _) :: _ => goRight b
    | (a, _) :: _ =>
      match right.left with
      | [] => goLeft a
      | (b, _) :: _ =>
        if before a.key b.key then goLeft a
        else if before b.key a.key then goRight b
        else
          let same (x y : List Char) : Bool := !before x y && !before y x
          let (lefts, nextLeft, leftPairs) :=
            sameKey same a.key (left.left.length + 1) left [] []
          let (rights, nextRight, rightPairs) :=
            sameKey same a.key (right.left.length + 1) right [] []
          let (state, foundLeft) := lookAll false leftPairs state
          let (state, foundRight) := lookAll true rightPairs state
          foundLeft ++ foundRight ++
            .both lefts rights :: joinedRecords check before fuel state nextLeft nextRight

/-- A field that a format asks for: the key, or one of a file. -/
inductive FieldSpec where
  | key
  | field (isSecond : Bool) (index : Nat)

def fieldSpec (text : List Char) : Except String FieldSpec :=
  match text with
  | ['0'] => .ok .key
  | side :: '.' :: digits =>
    if side ≠ '1' && side ≠ '2' then
      .error ("invalid file number in field spec: " ++ quoted (String.ofList text))
    else match natural? digits with
      | some n =>
        if n = 0 then .error ("invalid field number: " ++ quoted (String.ofList digits))
        else .ok (.field (side = '2') (n - 1))
      | none => .error ("invalid field number: " ++ quoted (String.ofList digits))
  | _ => .error ("invalid field specifier: " ++ quoted (String.ofList text))

/-- How `join` puts lines together. -/
structure JoinRules where
  glue : Char
  filler : List Char
  keys : Nat × Nat
  format : Option (List FieldSpec)

namespace JoinRules

def line (rules : JoinRules) (left right : Option Record) : List Char :=
  let key := ((left <|> right).map (·.key)).getD []
  let orFiller (text : Option (List Char)) : List Char :=
    match text with
    | some content => if content.isEmpty then rules.filler else content
    | none => rules.filler
  let fields := match rules.format with
    | some specs => specs.map fun spec =>
        match spec with
        | .key => orFiller (some key)
        | .field isSecond index =>
          orFiller ((if isSecond then right else left).bind fun record => record.fields[index]?)
    | none =>
      let others (record : Option Record) (index : Nat) : List (List Char) :=
        match record with
        | some record => (record.fields.eraseIdx index).map fun field => orFiller (some field)
        | none => []
      orFiller (some key) :: (others left rules.keys.1 ++ others right rules.keys.2)
  [rules.glue].intercalate fields

end JoinRules

/-- The fields of a format in which every line has those of the first ones. -/
def automaticFormat (keys : Nat × Nat) (left right : List Record) : List FieldSpec :=
  let fieldsOf (isSecond : Bool) (key : Nat) (records : List Record) : List FieldSpec :=
    let count := (records.head?.map (·.fields.length)).getD 0
    ((List.range count).filter (· ≠ key)).map (.field isSecond)
  .key :: (fieldsOf false keys.1 left ++ fieldsOf true keys.2 right)

/-- Puts out what `join` found. -/
def putJoined (rules : JoinRules) (names : String × String) (check : OrderCheck)
    (alone : Bool → Bool) (pairs : Bool) : List (Finding Record) → Work Bool
  | [] => return false
  | finding :: rest => do
    let put (left right : Option Record) : Work Unit :=
      Work.putTextLine 10 ⟨rules.line left right, true⟩
    match finding with
    | .first record =>
      if alone false then put (some record) none
      putJoined rules names check alone pairs rest
    | .second record =>
      if alone true then put none (some record)
      putJoined rules names check alone pairs rest
    | .both lefts rights =>
      if pairs then
        for left in lefts do
          for right in rights do
            put (some left) (some right)
      putJoined rules names check alone pairs rest
    | .disorder isSecond record place =>
      Work.warn ((if isSecond then names.2 else names.1) ++ ":" ++ toString place ++
        ": is not sorted: " ++ String.ofList record.line)
      if check = .always then throw 1
      let _ ← putJoined rules names check alone pairs rest
      return true

/-- Refuses field numbers that make no sense. -/
def checkJoinOption (letter : Char) (value : String) : Work Unit := do
  let number : Option Nat := natural? value.toList
  match letter with
  | 't' =>
    if 1 < value.length && value ≠ "\\0" then
      Work.fail ("multi-character tab " ++ quoted value)
  | 'a' =>
    if number ≠ some 1 && number ≠ some 2 then
      Work.fail ("invalid field number: " ++ quoted value)
  | 'v' =>
    if number ≠ some 1 && number ≠ some 2 then
      Work.fail ("invalid field number: " ++ quoted value)
  | 'o' =>
    if value ≠ "auto" then
      for piece in splitAtMark ',' (value.toList.map fun c => if c = ' ' then ',' else c) do
        match fieldSpec piece with
        | .error message => Work.fail message
        | .ok _ => pure ()
  | _ =>
    if ['1', '2', 'j'].contains letter && (number.getD 0) = 0 then
      Work.fail ("invalid field number: " ++ quoted value)

/-- Lines of two files that agree in one field, joined. -/
def join : Utility := fun words => do
  let options ← readOptions ⟨"icnHz".toList, "a12jeotv".toList, [], [("check-order", 'c'),
    ("nocheck-order", 'n'), ("ignore-case", 'i'), ("header", 'H'), ("zero-terminated", 'z')],
    true⟩ checkJoinOption words
  let (first, second) ← twoOperands options
  if first = "-" && second = "-" then Work.fail "both files cannot be standard input"
  let left ← operandLines 10 first
  let right ← operandLines 10 second
  let isWhole := options.value? 't' = some ""
  let mark : Option Char := match options.value? 't' with
    | some "\\0" => some '\x00'
    | some text => text.toList.head?
    | none => none
  let place (letter : Char) : Nat :=
    ((options.value? letter <|> options.value? 'j').bind fun text => natural? text.toList).getD 1 - 1
  let folded (text : List Char) : List Char :=
    if options.has 'i' then text.map Char.toLower else text
  let record (index : Nat) (line : List Char) : Record :=
    let fields := if isWhole then [line] else fieldsBy mark line
    ⟨line, fields, fields.getD index []⟩
  let keys := (place '1', place '2')
  let lefts := left.map (record keys.1)
  let rights := right.map (record keys.2)
  let specs := (options.values 'o').flatMap fun text =>
    (splitAtMark ',' (text.toList.map fun c => if c = ' ' then ',' else c)).filterMap fun piece =>
      (fieldSpec piece).toOption
  let format : Option (List FieldSpec) := match options.value? 'o' with
    | none => none
    | some "auto" => some (automaticFormat keys lefts rights)
    | some _ => some specs
  let rules : JoinRules := ⟨mark.getD ' ', ((options.value? 'e').getD "").toList, keys, format⟩
  let check : OrderCheck := match options.last? ['c', 'n'] with
    | some 'c' => .always
    | some _ => .never
    | none => .afterMismatch
  let sides := options.values 'a' ++ options.values 'v'
  let alone (isSecond : Bool) : Bool := sides.contains (if isSecond then "2" else "1")
  let before (a b : List Char) : Bool := folded a < folded b
  let skip := if options.has 'H' then 1 else 0
  if options.has 'H' then
    match lefts.head?, rights.head? with
    | none, none => pure ()
    | head, other => Work.putTextLine 10 ⟨rules.line head other, true⟩
  let findings := joinedRecords check before (lefts.length + rights.length + 1)
    ⟨false, false, false⟩ (.ofList (lefts.drop skip)) (.ofList (rights.drop skip))
  let unsorted ← putJoined rules (first, second) check alone (!options.has 'v') findings
  if unsorted then Work.fail "input is not in sorted order"

end Conformance.Tool
