import Conformance.Tool.Names

/-!
# Backup copies

A file that is about to be replaced can be kept under another name: with an ending of its
own, or with the next free number.
-/

namespace Conformance.Tool

open Machine

/-- How backup copies are named. -/
inductive BackupNaming where
  | simple
  | numbered
  /-- Numbered where there are numbered ones already. -/
  | existing
deriving DecidableEq

structure Backup where
  naming : BackupNaming
  ending : String

namespace Backup

/-- The words for kinds of backup copies; each kind has two. -/
def kinds : List (List String) :=
  [["none", "off"], ["simple", "never"], ["existing", "nil"], ["numbered", "t"]]

def ofOptions (options : Options) : Work (Option Backup) := do
  if !(options.has 'b' || options.has 'B' || options.has 'S') then return none
  else
    let given := ((options.value? 'B').filter (!·.isEmpty)).map fun kind => ("backup type", kind)
    let usual := ((← Work.environment? "VERSION_CONTROL").filter (!·.isEmpty)).map fun kind =>
      ("$VERSION_CONTROL", kind)
    let naming : Option BackupNaming ← match given <|> usual with
      | none => pure (some .existing)
      | some (origin, kind) =>
        match ← choice origin kind kinds with
        | "none" => pure none
        | "simple" => pure (some .simple)
        | "numbered" => pure (some .numbered)
        | _ => pure (some .existing)
    let usualEnding ← Work.environment? "SIMPLE_BACKUP_SUFFIX"
    let asked := options.value? 'S' <|> usualEnding
    let ending := (asked.filter fun text => !text.isEmpty && !text.toList.contains '/').getD "~"
    return naming.map fun naming => ⟨naming, ending⟩

def numberOf? (name copy : String) : Option Nat :=
  let front := (name ++ ".~").toList
  let chars := copy.toList
  if front.isPrefixOf chars && chars.getLast? = some '~' && front.length < chars.length then
    match natural? (chars.drop front.length).dropLast with
    | some number => if 0 < number then some number else none
    | none => none
  else none

def nameFor (backup : Backup) (path : String) : Work String := do
  if backup.naming = .simple then return path ++ backup.ending
  else
    let names : List String ← match ← Activity.list (pathAbove path) with
      | .ok names => pure names
      | .error _ => pure []
    let numbers := names.filterMap (numberOf? (lastName path))
    if backup.naming = .existing && numbers.isEmpty then return path ++ backup.ending
    else return path ++ ".~" ++ toString (numbers.foldl max 0 + 1) ++ "~"

/-- Keeps a file under another name. -/
def keep (backup : Backup) (path : String) : Work String := do
  let name ← backup.nameFor path
  let _ ← Activity.ask (.rename path name)
  return name

/-- What is said about a copy behind the names of files. -/
def note (kept : Option String) : String :=
  match kept with
  | some name => " (backup: " ++ quoted name ++ ")"
  | none => ""

end Backup

end Conformance.Tool
