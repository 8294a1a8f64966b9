import Conformance.Tool.Moving

/-!
# Installed files

`install` puts new copies of files in their places, with a mode of their own.  What was
there before is taken away first.
-/

namespace Conformance.Tool

open Machine

structure InstallRules where
  mode : List ModeChange
  verbose : Bool
  makesParents : Bool
  /-- Whether a copy that is there already stays. -/
  compares : Bool
  keepsTime : Bool
  backup : Option Backup

namespace InstallRules

def modeFor (rules : InstallRules) (isDirectory : Bool) : Nat :=
  ModeChange.applyAll rules.mode isDirectory 0 0

end InstallRules

/-- Makes the directories of a path; `done` is the part that is there. -/
def installDirectories (rules : InstallRules) (done : String) : List String → Work Bool
  | [] => return true
  | name :: rest => do
    let path := done ++ name
    match ← Activity.attemptTo (.makeDirectory path 493) with
    | none =>
      if rules.verbose then
        Work.putLine ((← get).name ++ ": creating directory " ++ quoted path)
      installDirectories rules (path ++ "/") rest
    | some fault =>
      match ← Activity.examine path with
      | .ok info =>
        if info.kind = .directory then installDirectories rules (path ++ "/") rest
        else
          Work.complain ("cannot create directory " ++ quoted path ++ ": " ++
            (if rest.isEmpty then Fault.exists else .notDirectory).text)
          return false
      | .error _ =>
        Work.complain ("cannot create directory " ++ quoted path ++ ": " ++ fault.text)
        return false

def installAbove (rules : InstallRules) (path : String) : Work Bool :=
  let start := if path.toList.head? = some '/' then "/" else ""
  installDirectories rules start (namesOf path).dropLast

/-- Whether the file that is there is the same already. -/
def isInstalled (rules : InstallRules) (source target : String) (there : Info) : Work Bool := do
  if !rules.compares || there.kind ≠ .regular || there.mode ≠ rules.modeFor false then return false
  else match ← Work.readOperand source, ← Work.readOperand target with
    | .ok a, .ok b => return a.data = b.data
    | _, _ => return false

def writeInstalled (rules : InstallRules) (source target : String) (info : Info) : Work Unit := do
  match ← Activity.openFile source .input with
  | .error fault => Work.complain ("cannot open " ++ quoted source ++ " for reading: " ++ fault.text)
  | .ok input =>
    let how : Opening := ⟨false, true, false, true, true, false, true⟩
    match ← Activity.openFile target how with
    | .error fault =>
      Work.complain ("cannot create regular file " ++ quoted target ++ ": " ++ fault.text)
    | .ok output =>
      let _ ← pump input output Stream.pieceBound
      Activity.close output
      let _ ← Activity.ask (.setMode target (rules.modeFor false))
      if rules.keepsTime then
        let _ ← Activity.ask (.setTime target (some info.modified))
    Activity.close input

def installFile (rules : InstallRules) (source target : String) : Work Unit := do
  match ← Activity.examine source with
  | .error fault => Work.complain ("cannot stat " ++ quoted source ++ ": " ++ fault.text)
  | .ok info =>
    if info.kind = .directory then Work.complain ("omitting directory " ++ quoted source)
    else
      let mut kept : Option String := none
      match ← Activity.examineItself target with
      | .ok there =>
        if there.kind = .directory then
          Work.complain ("cannot overwrite directory " ++ quoted target ++ " with non-directory")
          return
        if there.node = info.node then
          Work.complain (quoted source ++ " and " ++ quoted target ++ " are the same file")
          return
        if ← isInstalled rules source target there then return
        match rules.backup with
        | some backup => kept := some (← backup.keep target)
        | none =>
          let _ ← Activity.ask (.remove target)
          if rules.verbose then Work.putLine ("removed " ++ quoted target)
      | .error _ => pure ()
      putArrow rules.verbose "" source target kept
      writeInstalled rules source target info

/-- Makes directories with the mode that was asked for. -/
def installFolder (rules : InstallRules) (path : String) : Work Unit := do
  let start := if path.toList.head? = some '/' then "/" else ""
  let isMade ← installDirectories rules start (namesOf path)
  if isMade then
    let _ ← Activity.ask (.setMode path (rules.modeFor true))

def installFlags : Rules :=
  ⟨"bcCdDpsTv".toList, "gmoSt".toList, ['B'], [("backup", 'B'), ("compare", 'C'),
    ("directory", 'd'), ("group", 'g'), ("mode", 'm'), ("no-target-directory", 'T'),
    ("owner", 'o'), ("preserve-timestamps", 'p'), ("strip", 's'), ("suffix", 'S'),
    ("target-directory", 't'), ("verbose", 'v')], true⟩

def install : Utility := fun words => do
  let options ← plainOptions installFlags words
  let text := (options.value? 'm').getD "755"
  let mode ← match ModeChange.read? text with
    | some changes => pure changes
    | none => Work.fail ("invalid mode " ++ quoted text)
  let rules : InstallRules := ⟨mode, options.has 'v', options.has 'D', options.has 'C',
    options.has 'p', ← Backup.ofOptions options⟩
  if options.has 'd' then
    if options.operands.isEmpty then Work.misuse "missing file operand"
    for path in options.operands do
      installFolder rules path
  else match options.value? 't' with
    | some directory =>
      if options.operands.isEmpty then Work.misuse "missing file operand"
      let _ ← if rules.makesParents then
          installDirectories rules (if directory.startsWith "/" then "/" else "")
            (namesOf directory)
        else pure true
      if !(← isDirectoryPath directory) then
        Work.fail ("failed to access " ++ quoted directory ++ ": " ++
          (← directoryFault directory).text)
      for source in options.operands do
        installFile rules source (placeIn directory source)
    | none =>
      match ← destination options with
      | .inside directory sources =>
        for source in sources do
          installFile rules source (placeIn directory source)
      | .exactly source target =>
        let isReady ← if rules.makesParents then installAbove rules target else pure true
        if isReady then installFile rules source target

end Conformance.Tool
