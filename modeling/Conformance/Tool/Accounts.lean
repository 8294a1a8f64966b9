import Conformance.Tool.Launch
import Conformance.Tool.Names
import Conformance.Tool.Plain

/-!
# Accounts and surroundings

Who works on the machine, to whom files belong, and what else can be asked about the
place where a program runs.  Everything belongs to one user.
-/

namespace Conformance.Tool

open Machine

/-! ## Names of users -/

/-- The users of the machine with their numbers. -/
def accounts : List (String × Nat) :=
  [("root", 0), ("daemon", 1), ("bin", 2), ("sys", 3), ("sync", 4), ("games", 5), ("man", 6),
    ("lp", 7), ("mail", 8), ("news", 9), ("uucp", 10), ("proxy", 13), ("www-data", 33),
    ("backup", 34), ("list", 38), ("irc", 39), ("nobody", 65534)]

def accountGroups : List (String × Nat) :=
  [("root", 0), ("daemon", 1), ("bin", 2), ("sys", 3), ("adm", 4), ("tty", 5), ("disk", 6),
    ("lp", 7), ("mail", 8), ("news", 9), ("uucp", 10), ("man", 12), ("proxy", 13),
    ("kmem", 15), ("dialout", 20), ("fax", 21), ("voice", 22), ("cdrom", 24), ("floppy", 25),
    ("tape", 26), ("sudo", 27), ("audio", 29), ("dip", 30), ("www-data", 33), ("backup", 34),
    ("operator", 37), ("list", 38), ("irc", 39), ("src", 40), ("shadow", 42), ("utmp", 43),
    ("video", 44), ("sasl", 45), ("plugdev", 46), ("staff", 50), ("games", 60), ("users", 100),
    ("nogroup", 65534)]

def isAccount (known : List (String × Nat)) (text : String) : Bool :=
  (known.lookup text).isSome || (natural? text.toList).isSome

def groups : Utility := fun words => do
  let options ← plainOptions ⟨[], [], [], [], true⟩ words
  if options.operands.isEmpty then Work.putLine userName
  for name in options.operands do
    if name = userName then Work.putLine (name ++ " : " ++ name)
    else match accounts.lookup name with
      | some _ => Work.putLine (name ++ " : " ++ name)
      | none => Work.complain (quoted name ++ ": no such user")

def logname : Utility := fun words => do
  let options ← plainOptions ⟨[], [], [], [], true⟩ words
  match options.operands with
  | extra :: _ => Work.misuse ("extra operand " ++ quoted extra)
  | [] => Work.fail "no login name"

/-- A list of users that have logged in: there are none. -/
def noUsers : Utility := fun _ => return

/-! ## Owners -/

/-- The parts of a text that names a user and perhaps a group. -/
def ownerParts (text : String) : String × Option String :=
  let chars := text.toList
  let user := chars.takeWhile (· ≠ ':')
  (String.ofList user,
    if user.length = chars.length then none
    else some (String.ofList (chars.drop (user.length + 1))))

/-- Refuses owners that there are not. -/
def checkOwner (text : String) : Work Unit := do
  let (user, group) := ownerParts text
  if !user.isEmpty && !isAccount accounts user then
    Work.fail ("invalid user: " ++ quoted text)
  match group with
  | some name =>
    if name.isEmpty then
      if !user.isEmpty && (accounts.lookup user).isNone then
        Work.fail ("invalid spec: " ++ quoted text)
    else if !isAccount accountGroups name then
      Work.fail ("invalid group: " ++ quoted text)
  | none => pure ()

def ownerRules : Rules :=
  ⟨"cfhHLPRv".toList, ['F', 'E'], [], [("changes", 'c'), ("silent", 'f'), ("quiet", 'f'),
    ("dereference", 'D'), ("no-dereference", 'h'), ("from", 'F'), ("recursive", 'R'),
    ("reference", 'E'), ("verbose", 'v')], true⟩

/-- Gives files to an owner.  They all belong to the one user already. -/
def ownerTool (check : String → Work Unit) (title : String) : Utility := fun words => do
  let options ← plainOptions ownerRules words
  let files ← match options.value? 'E', options.operands with
    | some _, files => pure files
    | none, [] => Work.misuse "missing operand"
    | none, [owner] => Work.misuse ("missing operand after " ++ quoted owner)
    | none, owner :: files => do
      check owner
      pure files
  for path in files do
    match ← Activity.examineItself path with
    | .ok _ =>
      if options.has 'v' then
        Work.putLine (title ++ " of " ++ quoted path ++ " retained as " ++ userName)
    | .error fault =>
      if options.has 'f' then Work.setStatus 1
      else Work.complain ("cannot access " ++ quoted path ++ ": " ++ fault.text)

def chown : Utility := ownerTool checkOwner "ownership"

def chgrp : Utility :=
  ownerTool (fun text => do
    if !text.isEmpty && !isAccount accountGroups text then
      Work.fail ("invalid group: " ++ quoted text)) "group"

/-! ## Surroundings -/

/-- How many programs can run at the same time. -/
def nproc : Utility := fun words => do
  let options ← plainOptions ⟨[], ['I'], [], [("all", 'a'), ("ignore", 'I')], true⟩ words
  match options.operands with
  | extra :: _ => Work.misuse ("extra operand " ++ quoted extra)
  | [] => Work.putLine "1"

/-- The input is never a terminal. -/
def stty : Utility := fun _ =>
  Work.fail "'standard input': Inappropriate ioctl for device"

/-- Starts a program; how its output is gathered makes no difference. -/
def stdbuf : Utility := fun words => do
  modify fun bench => { bench with failure := 125 }
  let options ← readOptions ⟨[], ['i', 'o', 'e'], [], [("input", 'i'), ("output", 'o'),
    ("error", 'e')], false⟩ (fun letter value => do
      let text := String.ofList (value.toList.dropWhile (· = ' '))
      if letter = 'i' && text = "L" then Work.misuse "line buffering stdin is meaningless"
      if text ≠ "L" && (sizeCount? text.toList).isNone then
        Work.fail ("invalid mode " ++ quoted text)) words
  match options.operands with
  | [] => Work.misuse "missing operand"
  | program =>
    if options.given.isEmpty then Work.misuse "you must specify a buffering mode option"
    Work.become (fun name => "failed to run command " ++ quoted name) program
      (← get).environment

/-! ## Portable names -/

def isPortable (c : Char) : Bool := c.isAlphanum || c = '.' || c = '_' || c = '-' || c = '/'

/-- Complains about a name that not every machine could have. -/
def checkName (portable strict : Bool) (path : String) : Work Unit := do
  let names := namesOf path
  if strict && names.any (·.startsWith "-") then
    Work.complain ("leading '-' in a component of file name " ++ quoted path)
  else if (portable || strict) && path.isEmpty then Work.complain "empty file name"
  else match portable, path.toList.find? (!isPortable ·) with
    | true, some c =>
      Work.complain ("non-portable character " ++ quoted (String.singleton c) ++
        " in file name " ++ quoted path)
    | true, none =>
      match names.find? (14 < ·.length) with
      | some name =>
        Work.complain ("limit 14 exceeded by length " ++ toString name.length ++
          " of file name component " ++ quoted name)
      | none =>
        if 255 < path.length then
          Work.complain ("limit 255 exceeded by length " ++ toString path.length ++
            " of file name " ++ quoted path)
    | false, _ =>
      match ← Activity.examineItself path with
      | .ok _ => pure ()
      | .error fault =>
        if fault ≠ .notFound || path.isEmpty then
          Work.complain ((if path.isEmpty then "''" else shownName path) ++ ": " ++ fault.text)

def pathchk : Utility := fun words => do
  let options ← plainOptions ⟨['p', 'P'], [], [], [("portability", 'O')], true⟩ words
  if options.operands.isEmpty then Work.misuse "missing operand"
  for path in options.operands do
    checkName (options.has 'p' || options.has 'O') (options.has 'P' || options.has 'O') path

end Conformance.Tool
