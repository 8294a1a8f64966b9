import Conformance.Tool.Listing
import Conformance.Tool.Making

/-!
# The space that files take

`du` adds up what lies in directories.  A file with several names counts once.
-/

namespace Conformance.Tool

open Machine Shell

/-- How sizes are counted and shown. -/
structure UsageRules where
  showsFiles : Bool
  /-- How far below an operand directories are shown. -/
  depth : Option Nat
  isApparent : Bool
  /-- Whether the directories inside of one do not count for it. -/
  isSeparate : Bool
  countsLinks : Bool
  follows : Bool
  followsFirst : Bool
  shown : Nat → String
  excluded : List String
  ending : String

/-- Sizes found so far, and the files that were counted. -/
structure Usage where
  seen : List Nat
  /-- The size of what was looked at last. -/
  size : Nat
  /-- The part of it that lies in directories inside. -/
  inner : Nat

namespace UsageRules

def bytesOf (rules : UsageRules) (info : Info) : Nat :=
  if rules.isApparent then (if info.kind = .regular || info.kind = .link || info.kind = .directory
    then info.size else 0)
  else blocksOf info * 1024

def putSize (rules : UsageRules) (size : Nat) (path : String) : Work Unit :=
  Work.put (rules.shown size ++ "\t" ++ path ++ rules.ending)

def isShown (rules : UsageRules) (depth : Nat) : Bool := rules.depth.all (depth ≤ ·)

def leavesOut (rules : UsageRules) (path : String) : Bool :=
  rules.excluded.any fun pattern =>
    let items := patternOf (pattern.toList.map fun c => (c, false))
    fits items path.toList || fits items (lastName path).toList

end UsageRules

mutual

/-- Adds up a path; `fuel` bounds the depth of directories. -/
def measurePath (rules : UsageRules) (fuel depth : Nat) (seen : List Nat) (path : String) :
    Work Usage := do
  if rules.leavesOut path then return ⟨seen, 0, 0⟩
  let followed := rules.follows || (rules.followsFirst && depth = 0)
  match ← (if followed then Activity.examine path else Activity.examineItself path) with
  | .error fault =>
    Work.complain ("cannot access " ++ quoted path ++ ": " ++ fault.text)
    return ⟨seen, 0, 0⟩
  | .ok info =>
    let isFolder := info.kind = .directory
    if seen.contains info.node && !(rules.countsLinks && !isFolder) then return ⟨seen, 0, 0⟩
    let seen := info.node :: seen
    let own := rules.bytesOf info
    if isFolder then
      match fuel with
      | 0 => return ⟨seen, 0, 0⟩
      | fuel + 1 =>
        match ← Activity.list path with
        | .error fault =>
          Work.complain ("cannot read directory " ++ quoted path ++ ": " ++ fault.text)
          return ⟨seen, own, own⟩
        | .ok names =>
          let inside ← measureInside rules fuel (depth + 1) seen path names
          let size := own + inside.size
          let shown := if rules.isSeparate then size - inside.inner else size
          if rules.isShown depth then rules.putSize shown path
          return ⟨inside.seen, size, size⟩
    else
      if depth = 0 || (rules.showsFiles && rules.isShown depth) then rules.putSize own path
      return ⟨seen, own, 0⟩
termination_by (2 * fuel, 0)

def measureInside (rules : UsageRules) (fuel depth : Nat) (seen : List Nat) (directory : String)
    (names : List String) : Work Usage := do
  match names with
  | [] => return ⟨seen, 0, 0⟩
  | name :: rest =>
    let first ← measurePath rules fuel depth seen (joinPath directory name)
    let others ← measureInside rules fuel depth first.seen directory rest
    return ⟨others.seen, first.size + others.size, first.inner + others.inner⟩
termination_by (2 * fuel + 1, names.length)

end

/-- The size in so many bytes, as a number. -/
def sizeIn (unit : Nat) (ending : String) (size : Nat) : String :=
  toString ((size + unit - 1) / unit) ++ ending

def sizeShown (letter : Char) (value : String) : Work (Nat → String) := do
  match letter with
  | 'h' => return humanSize
  | 'b' => return sizeIn 1 ""
  | 'm' => return sizeIn 1048576 ""
  | 'B' =>
    let digits := value.toList.takeWhile Char.isDigit
    if digits.isEmpty then
      match unitScale? value with
      | some unit => return sizeIn unit value
      | none => Work.fail ("invalid --block-size argument " ++ quoted value)
    else match sizeCount? value.toList with
      | some unit =>
        if unit = 0 then Work.fail ("invalid --block-size argument " ++ quoted value)
        return sizeIn unit ""
      | none => Work.fail ("invalid suffix in --block-size argument " ++ quoted value)
  | _ => return sizeIn 1024 ""

def usageOptions : Rules :=
  ⟨"0abcDHhklLmPsSx".toList, "Bd".toList ++ ['E'], [], [("all", 'a'), ("apparent-size", 'A'),
    ("block-size", 'B'), ("bytes", 'b'), ("count-links", 'l'), ("dereference", 'L'),
    ("dereference-args", 'D'), ("exclude", 'E'), ("human-readable", 'h'), ("max-depth", 'd'),
    ("null", '0'), ("no-dereference", 'P'), ("one-file-system", 'x'), ("separate-dirs", 'S'),
    ("summarize", 's'), ("total", 'c')], true⟩

/-- Adds up operands one after the other; the result is the sum. -/
def measureAll (rules : UsageRules) : (seen : List Nat) → (total : Nat) → List String → Work Nat
  | _, total, [] => return total
  | seen, total, operand :: rest => do
    let found ← measurePath rules 1000 0 seen operand
    measureAll rules found.seen (total + found.size) rest

def du : Utility := fun words => do
  let options ← readOptions usageOptions (fun letter value => do
    if letter = 'd' && (natural? value.toList).isNone then
      Work.warn ("invalid maximum depth " ++ quoted value)
      Work.hint) words
  let limit := (options.value? 'd').bind fun text => natural? text.toList
  if options.has 's' && options.has 'a' then
    Work.misuse "cannot both summarize and show all entries"
  if options.has 's' then
    match limit with
    | some 0 => Work.warn "warning: summarizing is the same as using --max-depth=0"
    | some depth =>
      Work.misuse ("warning: summarizing conflicts with --max-depth=" ++ toString depth)
    | none => pure ()
  let last := options.last? ['h', 'b', 'k', 'm', 'B']
  let shown ← sizeShown (last.getD 'k') ((last.bind options.value?).getD "")
  let rules : UsageRules :=
    { showsFiles := options.has 'a', depth := if options.has 's' then some 0 else limit
      isApparent := options.has 'A' || options.has 'b', isSeparate := options.has 'S'
      countsLinks := options.has 'l', shown, excluded := options.values 'E'
      follows := options.last? ['L', 'P', 'D', 'H'] = some 'L'
      followsFirst := options.has 'D' || options.has 'H'
      ending := if options.has '0' then "\x00" else "\n" }
  let operands := if options.operands.isEmpty then ["."] else options.operands
  let total ← measureAll rules [] 0 operands
  if options.has 'c' then rules.putSize total "total"

end Conformance.Tool
