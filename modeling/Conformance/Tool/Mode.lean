import Conformance.Tool.Input

/-!
# Modes

The permission bits of files: how a change of them is written, what it does, and how
they are shown.
-/

namespace Conformance.Tool

open Machine

def modeBits : Nat := 4095

def without (bits other : Nat) : Nat := Nat.land bits (Nat.xor modeBits (Nat.land other modeBits))

/-- What the letters of a clause stand for. -/
inductive ModeValue where
  | bits (value : Nat) (runsIfAny : Bool)
  /-- The bits that a class of users has already. -/
  | copied (mask : Nat)

/-- One change of a mode. -/
structure ModeChange where
  /-- The bits of the users it is about; zero stands for everybody, less the mask. -/
  affected : Nat
  operator : Char
  value : ModeValue
  /-- The bits that are mentioned, which counts for directories. -/
  mentioned : Nat

namespace ModeChange

def forAll (bits : Nat) : Nat := 64 * bits + 8 * bits + bits

def apply (change : ModeChange) (isDirectory : Bool) (mask mode : Nat) : Nat :=
  let spared := if isDirectory then without 3072 change.mentioned else 0
  let value := match change.value with
    | .bits value runsIfAny =>
      if runsIfAny && (isDirectory || Nat.land mode (forAll 1) ≠ 0) then
        Nat.lor value (forAll 1)
      else value
    | .copied users =>
      let present := Nat.land mode users
      let spread (bit : Nat) : Nat := if Nat.land present (forAll bit) ≠ 0 then forAll bit else 0
      Nat.lor (spread 4) (Nat.lor (spread 2) (spread 1))
  let limited := without (if change.affected = 0 then without value mask
    else Nat.land value change.affected) spared
  match change.operator with
  | '+' => Nat.lor mode limited
  | '-' => without mode limited
  | _ =>
    let kept := Nat.lor (if change.affected = 0 then 0 else without modeBits change.affected) spared
    Nat.lor (Nat.land mode kept) limited

def users : List Char → Nat × List Char
  | 'u' :: rest => let (bits, left) := users rest; (Nat.lor 2496 bits, left)
  | 'g' :: rest => let (bits, left) := users rest; (Nat.lor 1080 bits, left)
  | 'o' :: rest => let (bits, left) := users rest; (Nat.lor 519 bits, left)
  | 'a' :: rest => let (bits, left) := users rest; (Nat.lor modeBits bits, left)
  | rest => (0, rest)

def letters (value : Nat) (runsIfAny : Bool) : List Char → ModeValue × List Char
  | 'r' :: rest => letters (Nat.lor value (forAll 4)) runsIfAny rest
  | 'w' :: rest => letters (Nat.lor value (forAll 2)) runsIfAny rest
  | 'x' :: rest => letters (Nat.lor value (forAll 1)) runsIfAny rest
  | 'X' :: rest => letters value true rest
  | 's' :: rest => letters (Nat.lor value 3072) runsIfAny rest
  | 't' :: rest => letters (Nat.lor value 512) runsIfAny rest
  | rest => (.bits value runsIfAny, rest)

/-- What stands behind an operator. -/
def valueAt (text : List Char) : ModeValue × List Char :=
  match text with
  | 'u' :: rest => (.copied 448, rest)
  | 'g' :: rest => (.copied 56, rest)
  | 'o' :: rest => (.copied 7, rest)
  | _ => letters 0 false text

def isOperator (c : Char) : Bool := c = '+' || c = '-' || c = '='

/-- The changes that a text spells; `fuel` bounds them, and `affected` are the users of
the clause under way. -/
def readFrom : (fuel : Nat) → (affected : Option Nat) → List Char → Option (List ModeChange)
  | 0, _, _ => none
  | fuel + 1, none, text =>
    let (affected, rest) := users text
    if rest.head?.any isOperator then readFrom fuel (some affected) rest else none
  | fuel + 1, some affected, text =>
    match text with
    | [] => some []
    | c :: rest =>
      if isOperator c then do
        let (value, left) := valueAt rest
        let bits := match value with
          | .bits bits _ => bits
          | .copied users => users
        let mentioned := if affected = 0 then bits else Nat.land affected bits
        let others ← readFrom fuel (some affected) left
        return ⟨affected, c, value, mentioned⟩ :: others
      else if c = ',' then readFrom fuel none rest
      else none

/-- The changes that a text spells: an octal number, or clauses between commas. -/
def read? (text : String) : Option (List ModeChange) :=
  let chars := text.toList
  if !chars.isEmpty && chars.all (fun c => '0' ≤ c && c ≤ '7') then
    let value := chars.foldl (fun n c => n * 8 + (c.toNat - '0'.toNat)) 0
    if modeBits < value then none
    else
      let mentioned := if chars.length < 5 then Nat.lor (Nat.land value 3072) 1023 else modeBits
      some [⟨modeBits, '=', .bits value false, mentioned⟩]
  else readFrom (2 * chars.length + 2) none chars

def applyAll (changes : List ModeChange) (isDirectory : Bool) (mask mode : Nat) : Nat :=
  changes.foldl (fun mode change => change.apply isDirectory mask mode) mode

end ModeChange

/-- The permissions that new files do not get. -/
def currentMask : Work Nat := do
  match ← Activity.ask (.setMask 0) with
  | .number mask =>
    let _ ← Activity.ask (.setMask mask)
    return mask
  | _ => return 0

def modeLetters (mode : Nat) : List Char :=
  let bit (value : Nat) (c : Char) : Char := if Nat.land mode value ≠ 0 then c else '-'
  let run (value special : Nat) (both alone : Char) : Char :=
    if Nat.land mode special ≠ 0 then (if Nat.land mode value ≠ 0 then both else alone)
    else bit value 'x'
  [bit 256 'r', bit 128 'w', run 64 2048 's' 'S', bit 32 'r', bit 16 'w', run 8 1024 's' 'S',
    bit 4 'r', bit 2 'w', run 1 512 't' 'T']

def kindLetter (kind : Kind) : Char :=
  match kind with
  | .regular => '-'
  | .directory => 'd'
  | .link => 'l'
  | .queue => 'p'
  | .device => 'c'

/-- The kind and the mode of a file, as `ls` shows them. -/
def modeText (info : Info) : String := String.ofList (kindLetter info.kind :: modeLetters info.mode)

/-- A number in octal digits, with zeros in front up to a width. -/
def octalText (width n : Nat) : String :=
  let digits := Nat.toDigits 8 n
  String.ofList (List.replicate (width - digits.length) '0' ++ digits)

def kindName (info : Info) : String :=
  match info.kind with
  | .regular => if info.size = 0 then "regular empty file" else "regular file"
  | .directory => "directory"
  | .link => "symbolic link"
  | .queue => "fifo"
  | .device => "character special file"

/-- The names in a directory in the order of their bytes. -/
def sortedNames (names : List String) : List String := names.mergeSort fun a b => a ≤ b

def joinPath (directory name : String) : String :=
  if directory.toList.getLast? = some '/' then directory ++ name else directory ++ "/" ++ name

def lastName (path : String) : String :=
  let trimmed := path.toList.reverse.dropWhile (· = '/')
  if trimmed.isEmpty then (if path.isEmpty then "" else "/")
  else String.ofList (trimmed.takeWhile (· ≠ '/')).reverse

/-! ## Changing modes -/

/-- What `chmod` tells about. -/
structure ModeReport where
  all : Bool
  changed : Bool
  isQuiet : Bool

def changeMode (changes : List ModeChange) (mask : Nat) (report : ModeReport) (path : String) :
    Work (Option Info) := do
  match ← Activity.examine path with
  | .error fault =>
    if !report.isQuiet then
      match ← Activity.examineItself path with
      | .ok _ => Work.complain ("cannot operate on dangling symlink " ++ quoted path)
      | .error _ => Work.complain ("cannot access " ++ quoted path ++ ": " ++ fault.text)
    else Work.setStatus 1
    return none
  | .ok info =>
    let mode := ModeChange.applyAll changes (info.kind = .directory) mask info.mode
    match ← Activity.attemptTo (.setMode path mode) with
    | some fault =>
      if !report.isQuiet then
        Work.complain ("changing permissions of " ++ quoted path ++ ": " ++ fault.text)
      else Work.setStatus 1
      return none
    | none =>
      let shown (mode : Nat) : String :=
        octalText 4 mode ++ " (" ++ String.ofList (modeLetters mode) ++ ")"
      if mode ≠ info.mode then
        if report.all || report.changed then
          Work.putLine ("mode of " ++ quoted path ++ " changed from " ++ shown info.mode ++ " to " ++
            shown mode)
      else if report.all then
        Work.putLine ("mode of " ++ quoted path ++ " retained as " ++ shown mode)
      return some info

mutual

/-- Changes the modes of a file and of everything inside it; `fuel` bounds the depth. -/
def changeModes (change : String → Work (Option Info)) (fuel : Nat) (path : String) :
    Work Unit := do
  match fuel with
  | 0 => return
  | fuel + 1 =>
    match ← change path with
    | none => return
    | some info =>
      if info.kind = .directory then
        match ← Activity.list path with
        | .ok names => changeAll change fuel path (sortedNames names)
        | .error fault =>
          Work.complain ("cannot read directory " ++ quoted path ++ ": " ++ fault.text)
termination_by (fuel, 0)

/-- Changes the modes of the files with some names; links inside are left alone. -/
def changeAll (change : String → Work (Option Info)) (fuel : Nat) (directory : String)
    (names : List String) : Work Unit := do
  match names with
  | [] => return
  | name :: rest =>
    let path := joinPath directory name
    match ← Activity.examineItself path with
    | .ok info => if info.kind ≠ .link then changeModes change fuel path
    | .error _ => pure ()
    changeAll change fuel directory rest
termination_by (fuel, names.length + 1)

end

/-- More levels than any directory has. -/
def depthLimit : Nat := 10000

/-- A word such as `-x` or `-w` in front is a mode. -/
def isModeWord (word : String) : Bool :=
  match word.toList with
  | '-' :: c :: rest => (c :: rest).all "rwxXstugo,=+-".toList.contains && c ≠ '-'
  | _ => false

def chmod : Utility := fun words => do
  let modeWord := words.find? isModeWord
  let others := match modeWord with
    | some word => words.erase word
    | none => words
  let options ← plainOptions ⟨"Rfvc".toList, ['m'], [], [("recursive", 'R'), ("verbose", 'v'),
    ("changes", 'c'), ("silent", 'f'), ("quiet", 'f'), ("reference", 'm')], true⟩ others
  let (mode, operands) : Option String × List String :=
    match modeWord with
    | some word => (some word, options.operands)
    | none =>
      if options.has 'm' then (none, options.operands)
      else (options.operands.head?, options.operands.drop 1)
  if operands.isEmpty then
    match mode with
    | some word => Work.misuse ("missing operand after " ++ quoted word)
    | none => Work.misuse "missing operand"
  let changes ← match mode with
    | some text =>
      match ModeChange.read? text with
      | some changes => pure changes
      | none => Work.misuse ("invalid mode: " ++ quoted text)
    | none =>
      let model := (options.value? 'm').getD ""
      match ← Activity.examine model with
      | .ok info => pure [⟨modeBits, '=', .bits info.mode false, modeBits⟩]
      | .error fault =>
        Work.fail ("failed to get attributes of " ++ quoted model ++ ": " ++ fault.text)
  let mask ← currentMask
  let change := changeMode changes mask ⟨options.has 'v', options.has 'c', options.has 'f'⟩
  for operand in operands do
    if options.has 'R' then changeModes change depthLimit operand
    else
      let _ ← change operand

end Conformance.Tool
