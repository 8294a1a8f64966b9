import Conformance.Tool.Backup
import Conformance.Tool.Calendar
import Conformance.Tool.Names

/-!
# New files and directories

Tools that make files, directories, links and pipes, and that take directories away.
-/

namespace Conformance.Tool

open Machine

/-! ## Directories -/

def modeOption (options : Options) (isDirectory : Bool) (usual : Nat) (word : String) :
    Work (Option Nat) := do
  match options.value? 'm' with
  | none => return none
  | some text =>
    match ModeChange.read? text with
    | some changes =>
      return some (ModeChange.applyAll changes isDirectory (← currentMask) usual)
    | none => Work.fail ("invalid " ++ word ++ " " ++ quoted text)

/-- Makes one directory; tells whether it is new. -/
def makeOne (verbose : Bool) (path : String) (mode : Option Nat) : Work (Except Fault Unit) := do
  match ← Activity.attemptTo (.makeDirectory path (mode.getD 511)) with
  | some fault => return .error fault
  | none =>
    if verbose then Work.putLine ("mkdir: created directory " ++ quoted path)
    match mode with
    | some bits =>
      let _ ← Activity.ask (.setMode path bits)
      return .ok ()
    | none => return .ok ()

/-- Makes the directories on the way to a path and the last one; `done` is the part of
the path that is there. -/
def makePath (verbose : Bool) (mode : Option Nat) (done : String) : List String → Work Unit
  | [] => return
  | name :: rest => do
    let path := done ++ name
    let isLast := rest.isEmpty
    match ← makeOne verbose path (if isLast then mode else none) with
    | .ok _ => makePath verbose mode (path ++ "/") rest
    | .error fault =>
      match ← Activity.examine path with
      | .ok info =>
        if info.kind = .directory then makePath verbose mode (path ++ "/") rest
        else
          Work.complain ("cannot create directory " ++ quoted path ++ ": " ++
            (if isLast then Fault.exists else .notDirectory).text)
      | .error _ =>
        Work.complain ("cannot create directory " ++ quoted path ++ ": " ++ fault.text)

def mkdir : Utility := fun words => do
  let options ← plainOptions ⟨"pv".toList, ['m'], [], [("parents", 'p'), ("verbose", 'v'),
    ("mode", 'm')], true⟩ words
  if options.operands.isEmpty then Work.misuse "missing operand"
  let mode ← modeOption options true 511 "mode"
  for path in options.operands do
    if options.has 'p' && !path.isEmpty then
      let start := if path.toList.head? = some '/' then "/" else ""
      makePath (options.has 'v') mode start (namesOf path)
    else
      match ← makeOne (options.has 'v') path mode with
      | .ok _ => pure ()
      | .error fault =>
        Work.complain ("cannot create directory " ++ quoted path ++ ": " ++ fault.text)

/-- Removes the directories above a path that it leaves empty; `fuel` bounds them. -/
def removeAbove (verbose spares : Bool) : (fuel : Nat) → String → Work Unit
  | 0, _ => return
  | fuel + 1, path => do
    let trimmed := (path.toList.reverse.dropWhile (· = '/')).reverse
    if !trimmed.contains '/' then return
    let above := pathAbove path
    if above = "." || above = "/" then return
    if verbose then Work.putLine ("rmdir: removing directory, " ++ quoted above)
    match ← Activity.attemptTo (.removeDirectory above) with
    | some fault =>
      if !(spares && fault = .notEmpty) then
        Work.complain ("failed to remove directory " ++ quoted above ++ ": " ++ fault.text)
    | none => removeAbove verbose spares fuel above

def rmdir : Utility := fun words => do
  let options ← plainOptions ⟨"pvi".toList, [], [], [("parents", 'p'), ("verbose", 'v'),
    ("ignore-fail-on-non-empty", 'i')], true⟩ words
  if options.operands.isEmpty then Work.misuse "missing operand"
  let spares := options.has 'i'
  for path in options.operands do
    if options.has 'v' then Work.putLine ("rmdir: removing directory, " ++ quoted path)
    match ← Activity.attemptTo (.removeDirectory path) with
    | some fault =>
      if !(spares && fault = .notEmpty) then
        Work.complain ("failed to remove " ++ quoted path ++ ": " ++ fault.text)
    | none =>
      if options.has 'p' then removeAbove (options.has 'v') spares (path.length + 1) path

/-! ## Times and sizes -/

def touchFile (creates : Bool) (time : Option Nat) (path : String) : Work Unit := do
  let complain (fault : Fault) : Work Unit :=
    Work.complain ((if time.isSome then "setting times of " else "cannot touch ") ++ quoted path ++
      ": " ++ fault.text)
  match ← Activity.examine path with
  | .ok _ =>
    match ← Activity.attemptTo (.setTime path time) with
    | some fault => complain fault
    | none => return
  | .error fault =>
    if !creates then
      if fault ≠ .notFound then complain fault
    else
      let how : Opening := ⟨false, true, false, true, false, false, true⟩
      match ← Activity.openFile path how with
      | .ok descriptor =>
        Activity.close descriptor
        if time.isSome then
          let _ ← Activity.ask (.setTime path time)
      | .error fault => Work.complain ("cannot touch " ++ quoted path ++ ": " ++ fault.text)

def touch : Utility := fun words => do
  let now ← Activity.now
  let check (letter : Char) (value : String) : Work Unit := do
    if letter = 't' && (Moment.ofStamp? now value).isNone then
      Work.fail ("invalid date format " ++ quoted value)
  let options ← readOptions ⟨"acmfh".toList, "dtrT".toList, [], [("no-create", 'c'), ("date", 'd'),
    ("reference", 'r'), ("time", 'T'), ("no-dereference", 'h')], true⟩ check words
  if options.operands.isEmpty then Work.misuse "missing file operand"
  let time ← match options.value? 'r' with
    | some path =>
      match ← Activity.examine path with
      | .ok info => pure (some info.modified)
      | .error fault =>
        Work.fail ("failed to get attributes of " ++ quoted path ++ ": " ++ fault.text)
    | none =>
      match options.value? 't' with
      | some stamp => pure (Moment.ofStamp? now stamp)
      | none =>
        match options.value? 'd' with
        | some text =>
          match Moment.read? now text with
          | some instant => pure (some instant)
          | none => Work.fail ("invalid date format " ++ quoted text)
        | none => pure none
  for path in options.operands do
    touchFile (!options.has 'c') time path

/-- How `truncate` finds the size. -/
inductive Resizing where
  | exactly
  | more
  | less
  | atMost
  | atLeast
  | downTo
  | upTo

/-- A size such as `10`, `+1K` or `%512`. -/
def resizing? (text : String) : Option (Resizing × Nat) :=
  let read (kind : Resizing) (rest : List Char) : Option (Resizing × Nat) :=
    (sizeCount? rest).map (kind, ·)
  match text.toList with
  | '+' :: rest => read .more rest
  | '-' :: rest => read .less rest
  | '<' :: rest => read .atMost rest
  | '>' :: rest => read .atLeast rest
  | '/' :: rest => read .downTo rest
  | '%' :: rest => read .upTo rest
  | rest => read .exactly rest

def Resizing.apply (kind : Resizing) (amount size : Nat) : Nat :=
  match kind with
  | .exactly => amount
  | .more => size + amount
  | .less => size - amount
  | .atMost => min size amount
  | .atLeast => max size amount
  | .downTo => size / amount * amount
  | .upTo => (size + amount - 1) / amount * amount

def truncate : Utility := fun words => do
  let check (letter : Char) (value : String) : Work Unit := do
    if letter = 's' then
      match resizing? value with
      | none => Work.fail ("Invalid number: " ++ quoted value)
      | some (.downTo, 0) => Work.fail "division by zero"
      | some (.upTo, 0) => Work.fail "division by zero"
      | some _ => pure ()
  let options ← readOptions ⟨"co".toList, "sr".toList, [], [("no-create", 'c'), ("size", 's'),
    ("reference", 'r'), ("io-blocks", 'o')], true⟩ check words
  if !options.has 's' && !options.has 'r' then
    Work.misuse "you must specify either '--size' or '--reference'"
  if options.operands.isEmpty then Work.misuse "missing file operand"
  let model ← match options.value? 'r' with
    | none => pure none
    | some path =>
      match ← Activity.examine path with
      | .ok info => pure (some info.size)
      | .error fault => Work.fail ("cannot stat " ++ quoted path ++ ": " ++ fault.text)
  let (kind, amount) := ((options.value? 's').bind resizing?).getD (.exactly, model.getD 0)
  for path in options.operands do
    let how : Opening := ⟨false, true, false, !options.has 'c', false, false, true⟩
    match ← Activity.openFile path how with
    | .error fault =>
      if !(options.has 'c' && fault = .notFound) then
        Work.complain ("cannot open " ++ quoted path ++ " for writing: " ++ fault.text)
    | .ok descriptor =>
      match ← Activity.examineOpen descriptor with
      | .ok info =>
        let _ ← Activity.ask (.resize descriptor (kind.apply amount (model.getD info.size)))
      | .error _ => pure ()
      Activity.close descriptor

/-! ## Links -/

/-- Asks a question on the errors and reads a line from the input. -/
def confirm (question : String) : Work Bool := do
  Work.writeError ((← get).name ++ ": " ++ question)
  match ← Activity.ask (.readTo 0 10) with
  | .data bytes => return bytes.size ≠ 0 && (bytes.get! 0 = 121 || bytes.get! 0 = 89)
  | _ => return false

/-- How `ln` makes links. -/
structure LinkRules where
  isSymbolic : Bool
  forces : Bool
  asks : Bool
  verbose : Bool
  relative : Bool
  follows : Bool
  backup : Option Backup

/-- The same file under two paths, links not followed at the end. -/
def isSameNode (first second : String) : Work Bool := do
  match ← Activity.examineItself first, ← Activity.examineItself second with
  | .ok a, .ok b => return a.node = b.node
  | _, _ => return false

def makeLinkAt (rules : LinkRules) (source path : String) : Work Unit := do
  if !rules.isSymbolic then
    let examined ← if rules.follows then Activity.examine source else Activity.examineItself source
    match examined with
    | .error fault =>
      Work.complain ("failed to access " ++ quoted source ++ ": " ++ fault.text)
      return
    | .ok info =>
      if info.kind = .directory then
        Work.complain (shownName source ++ ": hard link not allowed for directory")
        return
  let there ← Activity.examineItself path
  let mut kept : Option String := none
  match there with
  | .ok info =>
    if rules.forces || rules.asks || rules.backup.isSome then
      if info.kind = .directory then
        Work.complain (shownName path ++ ": cannot overwrite directory")
        return
      if rules.forces && !rules.isSymbolic && (← isSameNode source path) then
        if lastName source = lastName path && pathAbove source = pathAbove path then
          Work.complain (quoted source ++ " and " ++ quoted path ++ " are the same file")
        return
      if rules.asks then
        if !(← confirm ("replace " ++ quoted path ++ "? ")) then return
      match rules.backup with
      | some backup => kept := some (← backup.keep path)
      | none =>
        let _ ← Activity.ask (.remove path)
  | .error _ => pure ()
  let text ← if rules.isSymbolic && rules.relative then
      match ← canonicalPath .nothing true (pathAbove path), ← canonicalPath .nothing true source with
      | .ok above, .ok goal => pure (relativePath above goal)
      | _, _ => pure source
    else pure source
  let request : Request ← if rules.isSymbolic then pure (.makeLink text path)
    else if rules.follows then
      match ← canonicalPath .all true source with
      | .ok goal => pure (.addName goal path)
      | .error _ => pure (.addName source path)
    else pure (.addName source path)
  match ← Activity.attemptTo request with
  | none =>
    if rules.verbose then
      let front := match kept with
        | some name => quoted name ++ " ~ "
        | none => ""
      Work.putLine (front ++ quoted path ++ (if rules.isSymbolic then " -> " else " => ") ++ quoted source)
  | some fault =>
    let arrow := if rules.isSymbolic then (if source.isEmpty then " -> " ++ quoted source else "")
      else if fault = .exists || fault = .noSpace then "" else " => " ++ quoted source
    Work.complain ("failed to create " ++ (if rules.isSymbolic then "symbolic" else "hard") ++
      " link " ++ quoted path ++ arrow ++ ": " ++ fault.text)

def makeLinksIn (rules : LinkRules) (directory : String) : List String → Work Unit
  | [] => return
  | source :: rest => do
    makeLinkAt rules source (joinPath directory (lastName source))
    makeLinksIn rules directory rest

def isDirectoryPath (path : String) : Work Bool := do
  match ← Activity.examine path with
  | .ok info => return info.kind = .directory
  | .error _ => return false

def directoryFault (path : String) : Work Fault := do
  match ← Activity.examine path with
  | .ok _ => return .notDirectory
  | .error fault => return fault

def ln : Utility := fun words => do
  let options ← plainOptions ⟨"sfinvrTLPbFd".toList, ['t', 'S'], ['B'], [("symbolic", 's'),
    ("force", 'f'), ("interactive", 'i'), ("no-dereference", 'n'), ("verbose", 'v'),
    ("relative", 'r'), ("no-target-directory", 'T'), ("logical", 'L'), ("physical", 'P'),
    ("backup", 'B'), ("target-directory", 't'), ("suffix", 'S'), ("directory", 'd')], true⟩ words
  let last := options.last? ['f', 'i']
  let rules : LinkRules := ⟨options.has 's', last = some 'f', last = some 'i', options.has 'v',
    options.has 'r', options.last? ['L', 'P'] = some 'L', ← Backup.ofOptions options⟩
  match options.value? 't', options.operands with
  | _, [] => Work.misuse "missing file operand"
  | some directory, sources =>
    if ← isDirectoryPath directory then makeLinksIn rules directory sources
    else
      Work.fail ("target directory " ++ quoted directory ++ ": " ++ (← directoryFault directory).text)
  | none, [source] =>
    if options.has 'T' then
      Work.misuse ("missing destination file operand after " ++ quoted source)
    makeLinksIn rules "." [source]
  | none, sources =>
    let target := sources.getLastD ""
    let isLink ← match ← Activity.examineItself target with
      | .ok info => pure (decide (info.kind = .link))
      | .error _ => pure false
    let isFolder ← isDirectoryPath target
    if isFolder && !options.has 'T' && !(isLink && options.has 'n') then
      makeLinksIn rules target sources.dropLast
    else
      match sources with
      | [source, _] => makeLinkAt rules source target
      | _ =>
        if options.has 'T' then
          Work.misuse ("extra operand " ++ quoted (sources.getD 2 ""))
        Work.fail ("target " ++ quoted target ++ ": " ++ (← directoryFault target).text)

def unlink : Utility := fun words => do
  let options ← plainOptions ⟨[], [], [], [], true⟩ words
  match options.operands with
  | [] => Work.misuse "missing operand"
  | [path] =>
    match ← Activity.attemptTo (.remove path) with
    | some fault => Work.fail ("cannot unlink " ++ quoted path ++ ": " ++ fault.text)
    | none => return
  | _ :: extra :: _ => Work.misuse ("extra operand " ++ quoted extra)

def link : Utility := fun words => do
  let options ← plainOptions ⟨[], [], [], [], true⟩ words
  match options.operands with
  | [] => Work.misuse "missing operand"
  | [only] => Work.misuse ("missing operand after " ++ quoted only)
  | [source, path] =>
    match ← Activity.attemptTo (.addName source path) with
    | some fault =>
      Work.fail ("cannot create link " ++ quoted path ++ " to " ++ quoted source ++ ": " ++
        fault.text)
    | none => return
  | _ :: _ :: extra :: _ => Work.misuse ("extra operand " ++ quoted extra)

def mkfifo : Utility := fun words => do
  let options ← plainOptions ⟨[], ['m'], [], [("mode", 'm')], true⟩ words
  if options.operands.isEmpty then Work.misuse "missing operand"
  let mode ← modeOption options false 438 "mode"
  for path in options.operands do
    match ← Activity.attemptTo (.makeQueue path (mode.getD 438)) with
    | some fault => Work.complain ("cannot create fifo " ++ quoted path ++ ": " ++ fault.text)
    | none =>
      match mode with
      | some bits =>
        let _ ← Activity.ask (.setMode path bits)
      | none => pure ()

/-- Makes a pipe with a name; devices cannot be made. -/
def mknod : Utility := fun words => do
  let options ← plainOptions ⟨[], ['m'], [], [("mode", 'm')], true⟩ words
  let mode ← modeOption options false 438 "mode"
  let operands := options.operands
  let isQueue := (operands[1]?).any (·.startsWith "p")
  let devices (text : String) : Work Unit := do
    if operands.length = 2 then Work.writeError (text ++ " major and minor device numbers.\n")
  match operands.reverse with
  | [] => Work.misuse "missing operand"
  | last :: _ =>
    if operands.length < (if isQueue then 2 else 4) then
      Work.warn ("missing operand after " ++ quoted last)
      devices "Special files require"
      Work.hint
  match operands.drop (if isQueue then 2 else 4) with
  | extra :: _ =>
    Work.warn ("extra operand " ++ quoted extra)
    if isQueue && operands.length = 4 then
      Work.writeError "Fifos do not have major and minor device numbers.\n"
    Work.hint
  | [] => pure ()
  let path := operands.headD ""
  if isQueue then
    match ← Activity.attemptTo (.makeQueue path (mode.getD 438)) with
    | some fault => Work.fail (shownName path ++ ": " ++ fault.text)
    | none =>
      match mode with
      | some bits =>
        let _ ← Activity.ask (.setMode path bits)
      | none => pure ()
  else if "bcu".toList.contains ((operands.getD 1 "").toList.headD ' ') then
    Work.fail (shownName path ++ ": " ++ Fault.notPermitted.text)
  else Work.misuse ("invalid device type " ++ quoted (operands.getD 1 ""))

/-! ## Names of their own -/

/-- A text of letters and digits that stands for a number. -/
def letterCode : (length : Nat) → Nat → List Char
  | 0, _ => []
  | length + 1, n =>
    let alphabet := "abcdefghijklmnopqrstuvwxyzABCDEFGHIJKLMNOPQRSTUVWXYZ0123456789".toList
    alphabet.getD (n % alphabet.length) 'a' :: letterCode length (n / alphabet.length)

/-- Finds a name that nobody has; `fuel` bounds the attempts. -/
def freeName (make : String → Work (Option Fault)) (front back : String) (room : Nat) :
    (fuel seed : Nat) → Work (Except Fault String)
  | 0, _ => return .error .exists
  | fuel + 1, seed => do
    let path := front ++ String.ofList (letterCode room (seed * 2654435761)) ++ back
    match ← make path with
    | none => return .ok path
    | some .exists => freeName make front back room fuel (seed + 1)
    | some fault => return .error fault

/-- A new file or directory with a name of its own. -/
def mktemp : Utility := fun words => do
  let options ← plainOptions ⟨"dqut".toList, ['p', 's'], ['P'], [("directory", 'd'),
    ("quiet", 'q'), ("dry-run", 'u'), ("tmpdir", 'P'), ("suffix", 's')], true⟩ words
  match options.operands with
  | _ :: _ :: _ => Work.misuse "too many templates"
  | _ => pure ()
  let shared := ((← Work.environment? "TMPDIR").filter (!·.isEmpty)).getD "/tmp"
  let given := options.operands.head?
  let template := given.getD "tmp.XXXXXXXXXX"
  let chars := template.toList.reverse
  let own := chars.takeWhile (· ≠ 'X')
  let back := match options.value? 's' with
    | some suffix => suffix
    | none => if template.toList.contains 'X' then String.ofList own.reverse else ""
  let stem := if (options.value? 's').isSome then chars else chars.drop own.length
  let room := (stem.takeWhile (· = 'X')).length
  let front := String.ofList (stem.drop room).reverse
  if room < 3 then Work.fail ("too few X's in template " ++ quoted template)
  if back.toList.contains '/' then
    Work.fail ("invalid suffix " ++ quoted back ++ ", contains directory separator")
  if options.has 't' && template.toList.contains '/' then
    Work.fail ("invalid template, " ++ quoted template ++ ", contains directory separator")
  let folder := match options.value? 'p', options.value? 'P' with
    | some place, _ => some place
    | none, some place => some (if place.isEmpty then shared else place)
    | none, none => if given.isNone || options.has 't' then some shared else none
  let start := match folder with
    | some place => joinPath place front
    | none => front
  let make (path : String) : Work (Option Fault) := do
    if options.has 'u' then
      match ← Activity.examineItself path with
      | .ok _ => return some .exists
      | .error _ => return none
    else if options.has 'd' then Activity.attemptTo (.makeDirectory path 448)
    else
      match ← Activity.ask (.openFile path ⟨true, true, false, true, true, false, true⟩ 384) with
      | .number descriptor =>
        Activity.close descriptor
        return none
      | .failed fault => return some fault
      | _ => return some .invalid
  let (own, _) ← Activity.identify
  match ← freeName make start back room 1000 own with
  | .ok path => Work.putLine path
  | .error fault =>
    if options.has 'q' then throw 1
    else
      Work.fail ("failed to create " ++ (if options.has 'd' then "directory" else "file") ++
        " via template " ++ quoted ((match folder with
          | some place => joinPath place template
          | none => template) ++ (options.value? 's').getD "") ++ ": " ++ fault.text)

end Conformance.Tool
