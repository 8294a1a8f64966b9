import Conformance.Tool.Making

/-!
# Copies, moves and removals

Files and directories are copied, given another name, or removed, one operand after the
other; what fails is complained about and does not keep the others from being done.
-/

namespace Conformance.Tool

open Machine

/-! ## Removal -/

/-- How `rm` removes. -/
structure RemovalRules where
  whole : Bool
  forces : Bool
  empty : Bool
  asks : Bool
  verbose : Bool

def RemovalRules.complain (rules : RemovalRules) (path : String) (fault : Fault) : Work Unit := do
  if !(rules.forces && (fault = .notFound || fault = .notDirectory)) then
    Work.complain ("cannot remove " ++ quoted path ++ ": " ++ fault.text)

/-- Asks whether something is to be done, if that is wanted. -/
def RemovalRules.allows (rules : RemovalRules) (question : String) : Work Bool :=
  if rules.asks then confirm (question ++ "? ") else return true

def removeFile (rules : RemovalRules) (path : String) (info : Info) : Work Unit := do
  if ← rules.allows ("remove " ++ kindName info ++ " " ++ quoted path) then
    match ← Activity.attemptTo (.remove path) with
    | some fault => rules.complain path fault
    | none => if rules.verbose then Work.putLine ("removed " ++ quoted path)

/-- Removes a directory that should be empty. -/
def removeFolder (rules : RemovalRules) (path : String) : Work Unit := do
  if ← rules.allows ("remove directory " ++ quoted path) then
    match ← Activity.attemptTo (.removeDirectory path) with
    | some fault => rules.complain path fault
    | none => if rules.verbose then Work.putLine ("removed directory " ++ quoted path)

mutual

/-- Removes what a path names; `fuel` bounds the depth. -/
def removePath (rules : RemovalRules) (fuel : Nat) (path : String) : Work Unit := do
  match fuel with
  | 0 => return
  | fuel + 1 =>
    match ← Activity.examineItself path with
    | .error fault => rules.complain path fault
    | .ok info =>
      if info.kind ≠ .directory then removeFile rules path info
      else if rules.whole then
        match ← Activity.list path with
        | .error fault =>
          if info.canWrite then
            match ← Activity.attemptTo (.removeDirectory path) with
            | some _ => rules.complain path fault
            | none => if rules.verbose then Work.putLine ("removed directory " ++ quoted path)
          else rules.complain path fault
        | .ok names =>
          if names.isEmpty then removeFolder rules path
          else if ← rules.allows ("descend into directory " ++ quoted path) then
            removeInside rules fuel path names
            removeFolder rules path
      else if rules.empty then removeFolder rules path
      else Work.complain ("cannot remove " ++ quoted path ++ ": " ++ Fault.isDirectory.text)
termination_by (fuel, 0)

def removeInside (rules : RemovalRules) (fuel : Nat) (directory : String)
    (names : List String) : Work Unit := do
  match names with
  | [] => return
  | name :: rest =>
    removePath rules fuel (joinPath directory name)
    removeInside rules fuel directory rest
termination_by (fuel, names.length + 1)

end

def removeOperand (rules : RemovalRules) (path : String) : Work Unit := do
  let name := lastName path
  if rules.whole && (name = "." || name = "..") then
    Work.complain ("refusing to remove '.' or '..' directory: skipping " ++ quoted path)
  else if rules.whole && name = "/" then
    Work.complain "it is dangerous to operate recursively on '/'"
    Work.warn "use --no-preserve-root to override this failsafe"
  else removePath rules depthLimit path

def rm : Utility := fun words => do
  let options ← plainOptions ⟨"rRfvidI".toList, [], [], [("recursive", 'r'), ("force", 'f'),
    ("dir", 'd'), ("verbose", 'v'), ("interactive", 'i'), ("one-file-system", 'x'),
    ("preserve-root", 'x'), ("no-preserve-root", 'x')], true⟩ words
  let manner := options.last? ['f', 'i', 'I']
  let forces := manner = some 'f'
  let count := options.operands.length
  if count = 0 then
    if forces then return
    Work.misuse "missing operand"
  let whole := options.has 'r' || options.has 'R'
  if manner = some 'I' && (whole || 3 < count) then
    let question := "remove " ++ toString count ++ (if count = 1 then " argument" else " arguments") ++
      (if whole then " recursively? " else "? ")
    if !(← confirm question) then return
  let rules : RemovalRules := ⟨whole, forces, options.has 'd', manner = some 'i', options.has 'v'⟩
  for path in options.operands do
    removeOperand rules path

/-! ## Copies -/

/-- Whether a copy replaces what is there. -/
inductive Replacing where
  | always
  | asking
  | never
  | older
deriving DecidableEq

structure CopyRules where
  whole : Bool
  forces : Bool
  replacing : Replacing
  verbose : Bool
  /-- Whether links among the operands, and those inside directories, are followed. -/
  followsFirst : Bool
  followsAll : Bool
  /-- Whether the mode and the time are kept. -/
  keepsMode : Bool
  keepsTime : Bool
  hard : Bool
  symbolic : Bool
  backup : Option Backup

def putArrow (verbose : Bool) (front source target : String) (kept : Option String) :
    Work Unit :=
  if verbose then
    Work.putLine (front ++ quoted source ++ " -> " ++ quoted target ++ Backup.note kept)
  else return

/-- Writes everything from one descriptor to another; `fuel` bounds the pieces. -/
def pump (input output : Nat) : (fuel : Nat) → Work (Option (Bool × Fault))
  | 0 => return none
  | fuel + 1 => do
    match ← Activity.read input 65536 with
    | .error fault => return some (true, fault)
    | .ok data =>
      if data.isEmpty then return none
      else match ← Activity.write output data with
        | some fault => return some (false, fault)
        | none => pump input output fuel

def openTarget (rules : CopyRules) (target : String) (mode : Nat) (isNew : Bool) :
    Work (Except String Nat) := do
  let title := "cannot create regular file " ++ quoted target ++ ": "
  if isNew then
    match ← Activity.ask (.openFile target ⟨false, true, false, true, true, false, true⟩ mode) with
    | .number descriptor => return .ok descriptor
    | .failed .exists => return .error ("not writing through dangling symlink " ++ quoted target)
    | .failed fault =>
      let slashed := target.toList.getLast? = some '/'
      return .error (title ++ (if slashed && fault ≠ .permissionDenied then Fault.notDirectory
        else fault).text)
    | _ => return .error title
  else
    match ← Activity.ask (.openFile target ⟨false, true, false, false, false, true, true⟩ mode) with
    | .number descriptor => return .ok descriptor
    | .failed fault =>
      if rules.forces then
        let _ ← Activity.ask (.remove target)
        match ← Activity.ask (.openFile target .output mode) with
        | .number descriptor => return .ok descriptor
        | .failed other => return .error (title ++ other.text)
        | _ => return .error title
      else return .error (title ++ fault.text)
    | _ => return .error title

/-- Copies what a file holds; what was there before is `kept` until that can begin. -/
def copyContent (rules : CopyRules) (source target : String) (info : Info) (isNew : Bool)
    (kept : Option String) : Work Unit := do
  match ← Activity.openFile source .input with
  | .error fault =>
    Work.complain ("cannot open " ++ quoted source ++ " for reading: " ++ fault.text)
    match kept with
    | some name =>
      let _ ← Activity.ask (.rename name target)
    | none => pure ()
  | .ok input =>
    match ← openTarget rules target info.mode isNew with
    | .error message =>
      Activity.close input
      Work.complain message
    | .ok output =>
      match ← pump input output Stream.pieceBound with
      | some (true, fault) =>
        Work.complain ("error reading " ++ quoted source ++ ": " ++ fault.text)
      | some (false, fault) =>
        Work.complain ("error writing " ++ quoted target ++ ": " ++ fault.text)
      | none => pure ()
      Activity.close input
      Activity.close output
      if rules.keepsMode then
        let _ ← Activity.ask (.setMode target info.mode)
      if rules.keepsTime then
        let _ ← Activity.ask (.setTime target (some info.modified))

/-- What one copy is about: the operand it began with, where that goes, and the
directories that were made on the way. -/
structure CopyTop where
  source : String
  target : String
  made : List Nat

/-- A target of a copy: whether it is there, and under which name the one before is kept. -/
structure Landing where
  isThere : Bool
  kept : Option String

/-- Whether keeping a file under another name would destroy the source. -/
def destroysSource (source target : String) (info : Info) : Backup → Work Bool
  | backup => do
    if backup.naming = .numbered then return false
    else if lastName source ≠ lastName target ++ backup.ending then return false
    else match ← Activity.examineItself (target ++ backup.ending) with
      | .ok other => return other.node = info.node
      | .error _ => return false

/-- Whether two paths are the same entry of a directory, as far as their texts show. -/
def isSamePath (first second : String) : Bool :=
  lastName first = lastName second && pathAbove first = pathAbove second

/-- What is done about a target that is there already, if the copy goes on. -/
def settleTarget (rules : CopyRules) (source target : String) (info there : Info) :
    Work (Option Landing) := do
  let isFolder := info.kind = .directory
  if isFolder && there.kind ≠ .directory then
    Work.complain ("cannot overwrite non-directory " ++ quoted target ++ " with directory " ++
      quoted source)
    return none
  else if !isFolder && there.kind = .directory then
    Work.complain ("cannot overwrite directory " ++ quoted target ++ " with non-directory")
    return none
  else if isFolder then return some ⟨true, none⟩
  else
    if rules.replacing = .never then return none
    if rules.replacing = .older && info.modified ≤ there.modified then return none
    if rules.replacing = .asking then
      if !(← confirm ("overwrite " ++ quoted target ++ "? ")) then
        Work.setStatus 1
        return none
    match rules.backup with
    | some backup =>
      if ← destroysSource source target info backup then
        Work.complain ("backing up " ++ quoted target ++ " might destroy source;  " ++
          quoted source ++ " not copied")
        return none
      return some ⟨false, some (← backup.keep target)⟩
    | none =>
      if (info.kind = .link || rules.hard || rules.symbolic) &&
          (info.kind = .link || rules.forces) then
        let _ ← Activity.ask (.remove target)
        return some ⟨false, none⟩
      else return some ⟨true, none⟩

mutual

/-- Copies one file or directory; `fuel` bounds the depth.  The result tells whether
the copy has run into itself. -/
def copyPath (rules : CopyRules) (fuel : Nat) (isTop : Bool) (top : CopyTop)
    (source target : String) : Work (Bool × CopyTop) := do
  match fuel with
  | 0 => return (false, top)
  | fuel + 1 =>
    let follows := rules.followsAll || (isTop && rules.followsFirst)
    let found ← if follows then Activity.examine source else Activity.examineItself source
    match found with
    | .error fault =>
      Work.complain ("cannot stat " ++ quoted source ++ ": " ++ fault.text)
      return (false, top)
    | .ok info =>
      if info.kind = .directory && !rules.whole then
        Work.complain ("-r not specified; omitting directory " ++ quoted source)
        return (false, top)
      if info.kind = .directory && top.made.contains info.node then
        Work.complain ("cannot copy a directory, " ++ quoted top.source ++ ", into itself, " ++
          quoted top.target)
        return (true, top)
      let plain := info.kind = .regular && !rules.hard && !rules.symbolic && rules.backup.isNone
      let there ← if plain then Activity.examine target else Activity.examineItself target
      match there with
      | .ok other =>
        let sameNode ← if info.node = other.node then pure true
          else match ← Activity.examine source, ← Activity.examine target with
            | .ok a, .ok b => pure (decide (a.node = b.node) && info.kind ≠ .directory &&
                rules.followsFirst)
            | _, _ => pure false
        if sameNode && rules.hard then return (false, top)
        let isBlocked := rules.backup.isNone || (source ≠ target && isSamePath source target) ||
          (info.node ≠ other.node && other.kind ≠ .link)
        if sameNode && info.kind ≠ .directory && isBlocked then
          Work.complain (quoted source ++ " and " ++ quoted target ++ " are the same file")
          return (false, top)
        match ← settleTarget rules source target info other with
        | none => return (false, top)
        | some landing => copyOnto rules fuel top source target info landing
      | .error .notFound => copyOnto rules fuel top source target info ⟨false, none⟩
      | .error fault =>
        Work.complain ("cannot stat " ++ quoted target ++ ": " ++ fault.text)
        return (false, top)
termination_by (2 * fuel, 0)

def copyOnto (rules : CopyRules) (fuel : Nat) (top : CopyTop) (source target : String)
    (info : Info) (landing : Landing) : Work (Bool × CopyTop) := do
  let isThere := landing.isThere
  match info.kind with
  | .directory =>
    let failed ← if isThere then pure none
      else Activity.attemptTo (.makeDirectory target (Nat.lor (Nat.land info.mode 511) 448))
    match failed with
    | some fault =>
      Work.complain ("cannot create directory " ++ quoted target ++ ": " ++ fault.text)
      return (false, top)
    | none =>
      if !isThere then putArrow rules.verbose "" source target landing.kept
      let node := match ← Activity.examine target with
        | .ok there => [there.node]
        | .error _ => []
      let top := if isThere then top else { top with made := node ++ top.made }
      match ← Activity.list source with
      | .error fault =>
        Work.complain ("cannot access " ++ quoted source ++ ": " ++ fault.text)
        return (false, top)
      | .ok names =>
        let (isLooped, top) ← copyInside rules fuel top source target names
        if !isThere && rules.keepsMode then
          let _ ← Activity.ask (.setMode target info.mode)
        if rules.keepsTime then
          let _ ← Activity.ask (.setTime target (some info.modified))
        return (isLooped, top)
  | _ =>
    putArrow rules.verbose "" source target landing.kept
    let attempt (request : Request) (what : String) : Work Unit := do
      match ← Activity.attemptTo request with
      | some fault => Work.complain ("cannot create " ++ what ++ " " ++ quoted target ++ ": " ++
          fault.text)
      | none => pure ()
    if rules.hard then
      match ← Activity.attemptTo (.addName source target) with
      | some fault => Work.complain ("cannot create hard link " ++ quoted target ++ " to " ++
          quoted source ++ ": " ++ fault.text)
      | none => pure ()
    else if rules.symbolic then
      match ← Activity.attemptTo (.makeLink source target) with
      | some fault => Work.complain ("cannot create symbolic link " ++ quoted target ++ " to " ++
          quoted source ++ ": " ++ fault.text)
      | none => pure ()
    else match info.kind with
      | .link =>
        match ← Activity.readLink source with
        | .ok text => attempt (.makeLink text target) "symbolic link"
        | .error fault =>
          Work.complain ("cannot read symbolic link " ++ quoted source ++ ": " ++ fault.text)
      | .queue =>
        if rules.whole then attempt (.makeQueue target info.mode) "fifo"
        else copyContent rules source target info (!isThere) landing.kept
      | _ => copyContent rules source target info (!isThere) landing.kept
    return (false, top)
termination_by (2 * fuel + 1, 0)

/-- Copies what a directory holds. -/
def copyInside (rules : CopyRules) (fuel : Nat) (top : CopyTop) (source target : String)
    (names : List String) : Work (Bool × CopyTop) := do
  match names with
  | [] => return (false, top)
  | name :: rest =>
    match ← copyPath rules fuel false top (joinPath source name) (joinPath target name) with
    | (true, top) => return (true, top)
    | (false, top) => copyInside rules fuel top source target rest
termination_by (2 * fuel, names.length + 1)

end

/-- Where operands go: into a directory, or one of them to a path. -/
inductive Destination where
  | inside (directory : String) (sources : List String)
  | exactly (source target : String)

def placeIn (directory source : String) : String :=
  let name := lastName source
  if name = ".." then directory ++ "/." else joinPath directory name

/-- Finds out where operands go. -/
def destination (options : Options) : Work Destination := do
  match options.value? 't', options.operands with
  | _, [] => Work.misuse "missing file operand"
  | some directory, sources =>
    if ← isDirectoryPath directory then return .inside directory sources
    else
      Work.fail ("target directory " ++ quoted directory ++ ": " ++ (← directoryFault directory).text)
  | none, [only] =>
    Work.misuse ("missing destination file operand after " ++ quoted only)
  | none, sources =>
    let target := sources.getLastD ""
    if options.has 'T' then
      match sources with
      | [source, _] => return .exactly source target
      | _ => Work.misuse ("extra operand " ++ quoted (sources.getD 2 ""))
    else if ← isDirectoryPath target then return .inside target sources.dropLast
    else
      match sources with
      | [source, _] => return .exactly source target
      | _ => Work.fail ("target " ++ quoted target ++ ": " ++ (← directoryFault target).text)

def copyOperands (rules : CopyRules) (parents : Bool) (directory : String)
    (done : List String) : List String → Work Unit
  | [] => return
  | source :: rest => do
    if done.contains source && !rules.whole then
      Work.warn ("warning: source file " ++ quoted source ++ " specified more than once")
    else
      let target := if parents then joinPath directory source
        else placeIn directory source
      if parents then
        makeParents directory (namesOf (pathAbove source))
      let _ ← copyPath rules depthLimit true ⟨source, target, []⟩ source target
    copyOperands rules parents directory (source :: done) rest
where
  /-- Makes the directories on the way to an operand. -/
  makeParents (directory : String) : List String → Work Unit
    | [] => return
    | name :: rest => do
      let path := joinPath directory name
      let _ ← Activity.ask (.makeDirectory path 511)
      makeParents path rest

def copyFlags : Rules :=
  ⟨"rRapfvniudLPHTblsxZ".toList, ['t', 'S'], ['B', 'E', 'U', 'F', 'W'], [("recursive", 'r'),
    ("archive", 'a'), ("force", 'f'), ("no-clobber", 'n'), ("interactive", 'i'), ("update", 'U'),
    ("verbose", 'v'), ("target-directory", 't'), ("no-target-directory", 'T'),
    ("dereference", 'L'), ("no-dereference", 'P'), ("link", 'l'), ("symbolic-link", 's'),
    ("backup", 'B'), ("suffix", 'S'), ("preserve", 'E'), ("parents", 'q'),
    ("attributes-only", 'x'), ("reflink", 'F'), ("sparse", 'W'), ("one-file-system", 'x'),
    ("strip-trailing-slashes", 'x')], true⟩

/-- What is done about targets that are there. -/
def replacingOf (options : Options) : Replacing :=
  let manner := options.last? ['i', 'n', 'f', 'u', 'U']
  match manner with
  | some 'i' => .asking
  | some 'n' => .never
  | some 'u' => .older
  | some 'U' =>
    match options.value? 'U' with
    | some "none" => .never
    | some "all" => .always
    | _ => .older
  | _ => if options.has 'i' && manner ≠ some 'f' then .asking else .always

def cp : Utility := fun words => do
  let options ← plainOptions copyFlags words
  let whole := options.has 'r' || options.has 'R' || options.has 'a'
  let manner := options.last? ['L', 'P', 'H', 'd', 'a']
  let follows := match manner with
    | some 'L' => (true, true)
    | some 'H' => (true, false)
    | some _ => (false, false)
    | none => (!whole, !whole)
  let rules : CopyRules :=
    { whole, forces := options.has 'f', replacing := replacingOf options
      verbose := options.has 'v', followsFirst := follows.1, followsAll := follows.2
      keepsMode := options.has 'p' || options.has 'a' || options.has 'E'
      keepsTime := options.has 'p' || options.has 'a' || options.has 'E'
      hard := options.has 'l', symbolic := options.has 's', backup := ← Backup.ofOptions options }
  match ← destination options with
  | .inside directory sources => copyOperands rules (options.has 'q') directory [] sources
  | .exactly source target =>
    let isRegular ← match ← Activity.examine source with
      | .ok info => pure (decide (info.kind = .regular))
      | .error _ => pure false
    match rules.backup with
    | some backup =>
      if rules.forces && source = target && isRegular then
        let name ← backup.nameFor target
        let _ ← copyPath { rules with backup := none } depthLimit true ⟨source, name, []⟩ source name
        return
    | none => pure ()
    let _ ← copyPath rules depthLimit true ⟨source, target, []⟩ source target

/-! ## Moves -/

def movePath (rules : CopyRules) (source target : String) : Work Unit := do
  match ← Activity.examineItself source with
  | .error fault => Work.complain ("cannot stat " ++ quoted source ++ ": " ++ fault.text)
  | .ok info =>
    let goesOn ← match ← Activity.examineItself target with
      | .error .notFound => pure true
      | .error fault =>
        if target.toList.getLast? = some '/' then pure true
        else
          Work.complain ("cannot stat " ++ quoted target ++ ": " ++ fault.text)
          pure false
      | .ok there =>
        if there.node = info.node && (rules.backup.isNone || isSamePath source target) then
          Work.complain (quoted source ++ " and " ++ quoted target ++ " are the same file")
          pure false
        else if info.kind = .directory then
          if there.kind ≠ .directory && rules.backup.isNone then
            Work.complain ("cannot overwrite non-directory " ++ quoted target ++
              " with directory " ++ quoted source)
            pure false
          else pure true
        else if there.kind = .directory && rules.backup.isNone then
          Work.complain ("cannot overwrite directory " ++ quoted target ++ " with non-directory")
          pure false
        else
          match rules.replacing with
          | .never => pure false
          | .older => pure (decide (there.modified < info.modified))
          | .asking =>
            if ← confirm ("overwrite " ++ quoted target ++ "? ") then pure true
            else
              Work.setStatus 1
              pure false
          | .always => pure true
    let isLost : Bool ← match rules.backup, goesOn with
      | some backup, true => destroysSource source target info backup
      | _, _ => pure false
    if isLost then
      Work.complain ("backing up " ++ quoted target ++ " might destroy source;  " ++
        quoted source ++ " not moved")
    else if goesOn then
      let kept ← match rules.backup, ← Activity.examineItself target with
        | some backup, .ok _ => pure (some (← backup.keep target))
        | _, _ => pure none
      match ← Activity.attemptTo (.rename source target) with
      | none => putArrow rules.verbose "renamed " source target kept
      | some .invalid =>
        Work.complain ("cannot move " ++ quoted source ++ " to a subdirectory of itself, " ++
          quoted target)
      | some fault =>
        if fault = .notEmpty || fault = .exists then
          Work.complain ("cannot overwrite " ++ quoted target ++ ": " ++ Fault.notEmpty.text)
        else
          Work.complain ("cannot move " ++ quoted source ++ " to " ++ quoted target ++ ": " ++
            fault.text)

def moveOperands (rules : CopyRules) (directory : String) : List String → Work Unit
  | [] => return
  | source :: rest => do
    movePath rules source (placeIn directory source)
    moveOperands rules directory rest

def mv : Utility := fun words => do
  let options ← plainOptions { copyFlags with flags := "fniuvTb".toList } words
  let rules : CopyRules :=
    { whole := true, forces := true, replacing := replacingOf options
      verbose := options.has 'v', followsFirst := false, followsAll := false, keepsMode := true
      keepsTime := true, hard := false, symbolic := false, backup := ← Backup.ofOptions options }
  match ← destination options with
  | .inside directory sources => moveOperands rules directory sources
  | .exactly source target => movePath rules source target

end Conformance.Tool
