import Conformance.Shell.Builtin.Table
import Conformance.Shell.Conditional

/-!
# Starting a shell

What a shell makes of its arguments and its environment before it reads a script: from
a text, from a file or from its input.
-/

namespace Conformance.Shell

open Machine

/-- Where the script of a shell comes from. -/
inductive ScriptSource where
  | text (content : String)
  | file (path : String)
  | input

/-- What the arguments of a shell ask for. -/
structure Launching where
  takesText : Bool
  takesInput : Bool
  words : List String

def Session.initial (dialect : Dialect) (name : String) (environment : List String) : Session :=
  let exported := environment.filterMap fun entry =>
    let (key, value) := Builtin.nameAndValue entry
    match value with
    | some text =>
      if isName key then
        some (key, { Variable.none with value := some (.scalar text), isExported := true })
      else none
    | none => none
  let usual : List (String × String) := match dialect with
    | .standard => [("IFS", " \t\n"), ("OPTIND", "1"), ("PATH", usualPath), ("PS1", "$ "),
        ("PS2", "> "), ("PS4", "+ ")]
    | .extended => [("IFS", " \t\n"), ("OPTIND", "1"), ("PATH", usualPath), ("PS4", "+ ")]
  let given := exported.filter fun entry => entry.1 ≠ "IFS"
  let missing := usual.filter fun entry => !given.any (·.1 = entry.1)
  { dialect
    name
    command := none
    line := 0
    bindings := given ++ missing.map fun (key, text) =>
      (key, { Variable.none with value := some (.scalar text) })
    functions := []
    callers := []
    aliases := []
    arguments := []
    options := []
    settings := []
    status := 0
    substituted := 0
    skip := .nothing
    loops := 0
    depth := 0
    traps := []
    ignored := []
    jobs := []
    lastJob := none
    process := 0
    parent := 0
    isOutermost := true
    frames := []
    replaced := []
    source := ⟨.ofText dialect [] true, none⟩
    documents := []
    nextDocument := 0
    pending := []
    optionIndex := 1
    optionPlace := none
    hashed := []
    saved := none
    directory := ""
    output := []
    started := 0
    channels := [] }

namespace Sh

/-- Takes the options in front of the arguments of a shell; `fuel` bounds them. -/
def launchOptions : (fuel : Nat) → Launching → Sh Launching
  | 0, found => return found
  | fuel + 1, found => do
    match found.words with
    | [] => return found
    | word :: rest =>
      match word.toList with
      | ['-'] => return { found with words := rest }
      | ['-', '-'] => return { found with words := rest }
      | '-' :: '-' :: _ =>
        if (← get).dialect = .extended then launchOptions fuel { found with words := rest }
        else
          fail "Illegal option --"
      | sign :: c :: letters =>
        if sign ≠ '-' && sign ≠ '+' then return found
        else
          let all := c :: letters
          let enabled := sign = '-'
          for letter in all.filter fun letter => letter ≠ 'c' && letter ≠ 's' && letter ≠ 'o' do
            if letter = 'l' then pure ()
            else Builtin.switchLetters enabled [letter]
          if all.contains 's' then modify fun session => { session with options := 's' :: session.options }
          let here := { found with
            takesText := found.takesText || (enabled && all.contains 'c')
            takesInput := found.takesInput || (enabled && all.contains 's')
            words := rest }
          if all.contains 'o' then
            match rest with
            | name :: more =>
              Builtin.switchNamed enabled name
              launchOptions fuel { here with words := more }
            | [] => return here
          else launchOptions fuel here
      | _ => return found

/-- The working directory as the environment names it, if that is right. -/
def startDirectory : Sh Unit := do
  let session ← get
  let physical ← match ← Activity.workingDirectory with
    | .ok path => pure path
    | .error _ => pure ""
  let named ← match session.text? "PWD" with
    | some path =>
      if path.startsWith "/" then
        match ← Activity.examine path, ← Activity.examine "." with
        | .ok there, .ok here => pure (if there.node = here.node then path else physical)
        | _, _ => pure physical
      else pure physical
    | none => pure physical
  modify fun session =>
    { session.setVariable "PWD"
        { Variable.none with value := some (.scalar named), isExported := true } with
      directory := named }

/-- What a shell finds out when it is started. -/
def begin : Sh Unit := do
  let (own, above) ← Activity.identify
  modify fun session => { session with process := own, parent := above }
  startDirectory
  modify fun session => session.setVariable "PPID"
    { Variable.none with value := some (.scalar (toString above)) }

def evaluation : Runner := runners builtinTable conditionStatus evalNesting

def runWhole (source : ScriptSource) : Sh Unit := do
  let dialect := (← get).dialect
  match source with
  | .text content =>
    let status ← runText evaluation.tree .last content
    setStatus status
  | .file path =>
    match ← Activity.openFile path .input with
    | .error fault =>
      match dialect with
      | .standard => fail ("cannot open " ++ path ++ ": " ++ openReason false fault)
      | .extended =>
        let _ ← writeTo 2 ((← get).name ++ ": " ++ path ++ ": " ++ fault.text ++ "\n")
        setStatus (if fault = .notFound then 127 else 126)
        throw .leave
    | .ok opened =>
      let descriptor ← match ← Activity.ask (.copy opened asideFrom false) with
        | .number n => do
          Activity.close opened
          pure n
        | _ => pure opened
      if dialect = .extended then
        match ← Activity.examineOpen descriptor with
        | .ok info =>
          if info.kind = .directory then
            let _ ← writeTo 2 (path ++ ": " ++ path ++ ": Is a directory\n")
            setStatus 126
            throw .leave
        | .error _ => pure ()
      modify fun session => { session with
        name := path
        source := ⟨.ofText dialect [] false, some descriptor⟩ }
      let status ← runScript evaluation.tree .plain scriptBound 0
      setStatus status
  | .input =>
    modify fun session => { session with source := ⟨.ofText dialect [] false, some 0⟩ }
    let status ← runScript evaluation.tree .plain scriptBound 0
    setStatus status

def runShell (words : List String) : Sh Unit := do
  begin
  let found ← launchOptions (words.length + 1) ⟨false, false, words⟩
  modify fun session => { session with line := 1 }
  if found.takesText then
    match found.words with
    | [] =>
      modify fun session => { session with line := 0 }
      fail "-c requires an argument"
    | text :: rest =>
      modify fun session => { session with
        name := rest.headD session.name
        arguments := rest.drop 1 }
      runWhole (.text text)
  else if found.takesInput || found.words.isEmpty then
    modify fun session => { session with
      arguments := found.words
      options := 's' :: session.options.filter (· ≠ 's') }
    runWhole .input
  else
    modify fun session => { session with arguments := found.words.drop 1, line := 0 }
    runWhole (.file (found.words.headD ""))

end Sh

def shellProcess (dialect : Dialect) (arguments environment : List String) : Process :=
  Sh.toProcess Sh.evaluation.text (Sh.runShell (arguments.drop 1))
    (.initial dialect (arguments.headD "sh") environment)

end Conformance.Shell
