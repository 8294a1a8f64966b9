import Conformance.Shell.Builtin.Basic

/-!
# Commands for the flow of a script

Commands that end scripts, functions and loops, that run texts, files and programs,
and that tell what a name stands for.
-/

namespace Conformance.Shell.Builtin

open Machine

def constant (status : Nat) : Builtin := regular fun _ _ _ => return status

def givenStatus (text : String) : Sh Nat := do
  if (← get).dialect = .extended then
    match integer? text with
    | some n => return (n.emod 256).toNat
    | none =>
      Sh.warn (text ++ ": numeric argument required")
      return 2
  else return (← number text) % 256

/-- Ends the shell.  While an action for a signal runs, the status before it counts. -/
def exit : Builtin := special fun _ _ arguments => do
  match arguments.head? with
  | some text =>
    let status ← givenStatus text
    modify fun session => { session with status, saved := session.saved.map fun _ => status }
  | none => modify fun session => { session with status := session.saved.getD session.status }
  throw .leave

def returnFrom : Builtin := special fun _ _ arguments => do
  let session ← get
  match arguments.head? with
  | some text =>
    let status ← givenStatus text
    modify fun session => { session with skip := .function true }
    return status
  | none =>
    set { session with skip := .function false }
    return session.status

/-- Leaves or repeats loops, as many as are asked for and there are. -/
def leaveLoops (skip : Nat → Skip) : Builtin := special fun _ _ arguments => do
  let asked ← match arguments.head? with
    | some text => number text
    | none => pure 1
  if asked = 0 then Sh.fail ("Illegal number: " ++ arguments.headD "")
  let session ← get
  let levels := min asked session.loops
  if 0 < levels then set { session with skip := skip levels }
  return 0

def eval : Builtin := special fun runner manner arguments => do
  if arguments.isEmpty then return 0
  else Sh.runText runner.tree ⟨false, manner.tested⟩ (String.intercalate " " arguments)

def fileInPath (name : String) : Sh (Option String) := do
  if name.toList.contains '/' then return some name
  else search (searchPaths (← Sh.searchPath) name)
where
  /-- The first of some paths that leads to a file. -/
  search : List String → Sh (Option String)
    | [] => return none
    | path :: rest => do
      match ← Activity.examine path with
      | .ok info => if info.kind = .regular then return some path else search rest
      | .error _ => search rest

def scriptText (descriptor : Nat) : Sh String := do
  let data ← Expand.readAll descriptor 1000000 []
  return String.ofList ((charsOfData data).filter (· ≠ '\x00'))

/-- Runs a file as a part of the script. -/
def source : Builtin := special fun runner manner arguments => do
  let session ← get
  match arguments with
  | [] =>
    if session.dialect = .extended then
      Sh.warn "filename argument required"
      return 2
    else return 0
  | name :: rest =>
    let extended := session.dialect = .extended
    let found ← match ← fileInPath name with
      | some path => pure path
      | none => if extended then pure name else Sh.fail (name ++ ": not found")
    match ← Activity.openFile found .input with
    | .error fault =>
      if extended then
        set { session with command := none }
        Sh.warn (name ++ ": " ++ fault.text)
        return 1
      else Sh.fail ("cannot open " ++ found ++ ": " ++ openReason false fault)
    | .ok descriptor =>
      let text ← scriptText descriptor
      Activity.close descriptor
      let before := (← get).arguments
      modify fun session => { session with
        command := if extended then none else some found
        arguments := if extended && !rest.isEmpty then rest else session.arguments }
      let status ← Sh.runText runner.tree ⟨false, manner.tested⟩ text
      modify fun session => { session with
        arguments := if extended && !rest.isEmpty then before else session.arguments
        skip := match session.skip with
          | .function _ => .nothing
          | other => other }
      return status

/-- Starts a program in place of the shell; without one, redirections stay. -/
def exec : Builtin := special fun _ _ arguments => do
  let (_, words) ← options (if (← get).dialect = .extended then ['c', 'l', 'a', ':'] else [])
    arguments
  match words with
  | [] => return 0
  | name :: _ =>
    let directories ← Sh.searchPath
    let paths := if name.toList.contains '/' then [name] else searchPaths directories name
    Sh.execute paths words

/-- Commands whose mistakes end a script. -/
def specialNames : List String :=
  [":", ".", "break", "continue", "eval", "exec", "exit", "export", "local", "readonly", "return",
    "set", "shift", "times", "trap", "unset"]

def regularNames : List String :=
  ["[", "alias", "bg", "cd", "command", "echo", "false", "fg", "getopts", "hash", "jobs", "kill",
    "printf", "pwd", "read", "test", "true", "type", "ulimit", "umask", "unalias", "wait"]

/-- Commands of the larger language only. -/
def extendedNames : List String :=
  ["builtin", "declare", "let", "mapfile", "readarray", "shopt", "source", "typeset", "disown",
    "enable", "caller", "dirs", "pushd", "popd"]

/-- Whether a name is one of a command of the shell itself. -/
def isOwn (dialect : Dialect) (name : String) : Bool :=
  specialNames.contains name || regularNames.contains name ||
    (dialect = .extended && extendedNames.contains name)

def isKeyword (dialect : Dialect) (name : String) : Bool :=
  keywords.contains name || (dialect = .extended && moreKeywords.contains name)

/-- What a name stands for. -/
inductive Meaning where
  | keyword
  | renamed (value : String)
  | function
  | own (isSpecial : Bool)
  | program (path : String)
  | nothing

def meaning (directories : String) (name : String) : Sh Meaning := do
  let session ← get
  if isKeyword session.dialect name then return .keyword
  else match session.aliases.lookup name with
    | some value => return .renamed value
    | none =>
      if (session.functions.lookup name).isSome &&
          !(specialNames.contains name && session.dialect = .standard) then
        return .function
      else if isOwn session.dialect name then return .own (specialNames.contains name)
      else if name.toList.contains '/' then
        match ← Activity.examine name with
        | .ok _ => return .program name
        | .error _ => return .nothing
      else match ← Sh.searchFor (searchPaths directories name) .notFound with
        | .program (path :: _) => return .program path
        | _ => return .nothing

/-- Tells what a name stands for: in full, or only so much that it can be used. -/
def describe (inFull : Bool) (directories : Option String) (name : String) : Sh Nat := do
  let session ← get
  let path ← match directories with
    | some path => pure path
    | none => Sh.searchPath
  let put (full short : String) : Sh Nat := do
    Sh.put ((if inFull then name ++ full else short) ++ "\n")
    return 0
  match ← meaning path name with
  | .keyword => put " is a shell keyword" name
  | .renamed value =>
    put (" is an alias for " ++ value) ("alias " ++ name ++ "=" ++ quoted value)
  | .function =>
    put (if session.dialect = .extended then " is a function" else " is a shell function") name
  | .own isSpecial =>
    put (if isSpecial && session.dialect = .standard then " is a special shell builtin"
      else " is a shell builtin") name
  | .program found =>
    let isTracked := directories.isNone && (session.tracked? name).isSome
    if session.dialect = .extended then
      put (if isTracked then " is hashed (" ++ found ++ ")" else " is " ++ found) found
    else
      if directories.isNone && found ≠ name then modify (·.track name found 0)
      put (if isTracked then " is a tracked alias for " ++ found else " is " ++ found) found
  | .nothing =>
    if inFull then
      if session.dialect = .extended then Sh.warn (name ++ ": not found")
      else Sh.put (name ++ ": not found\n")
    return if session.dialect = .extended then 1 else 127

/-- Runs a command that is no function, or tells what it is. -/
def command : Builtin := regular fun _ _ arguments => do
  let (given, words) ← options ['p', 'v', 'V'] arguments
  let asks := given.filter fun (letter, _) => letter = 'v' || letter = 'V'
  match words, asks.getLast? with
  | name :: _, some (letter, _) =>
    describe (letter = 'V') (if given.any (·.1 = 'p') then some usualPath else none) name
  | _, _ => return 0

/-- A single word for what a name stands for. -/
def meaningWord : Meaning → Option String
  | .keyword => some "keyword"
  | .renamed _ => some "alias"
  | .function => some "function"
  | .own _ => some "builtin"
  | .program _ => some "file"
  | .nothing => none

def type : Builtin := regular fun _ _ arguments => do
  let session ← get
  let (given, names) ← options (if session.dialect = .extended then ['t', 'p', 'P', 'a', 'f'] else [])
    arguments
  let mut status := 0
  for name in names do
    if given.any (·.1 = 't') then
      match meaningWord (← meaning (← Sh.searchPath) name) with
      | some word => Sh.put (word ++ "\n")
      | none => status := 1
    else if given.any fun (letter, _) => letter = 'p' || letter = 'P' then
      match ← meaning (← Sh.searchPath) name with
      | .program path => Sh.put (path ++ "\n")
      | .nothing => status := 1
      | _ => pure ()
    else status := Nat.lor status (← describe true none name)
  return status

/-- Shows or changes where programs are remembered to be. -/
def hash : Builtin := regular fun _ _ arguments => do
  let isExtended := (← get).dialect = .extended
  let (given, names) ← options (if isExtended then ['r', 'd', 't', 'l', 'p'] else ['r']) arguments
  let asks (letter : Char) : Bool := given.any (·.1 = letter)
  if asks 'r' && names.isEmpty then
    modify fun session => { session with hashed := [] }
    return 0
  else if names.isEmpty then
    let items := (← get).tracked
    if isExtended && items.isEmpty then
      Sh.put "hash: hash table empty\n"
    else if asks 'l' then
      for item in items do
        Sh.put ("builtin hash -p " ++ item.path ++ " " ++ item.name ++ "\n")
    else if isExtended then
      Sh.put "hits\tcommand\n"
      for item in items do
        let uses := toString item.uses
        Sh.put (String.ofList (List.replicate (4 - uses.length) ' ') ++ uses ++ "\t" ++ item.path
          ++ "\n")
    else
      for item in items do
        Sh.put (item.path ++ (if item.isStale then "*" else "") ++ "\n")
    return 0
  else
    let mut status := 0
    for name in names do
      if asks 'd' || asks 't' then
        match (← get).tracked? name with
        | some item =>
          if asks 'd' then modify (·.untrack name)
          else
            let front := if names.length = 1 then "" else name ++ "\t"
            Sh.put (front ++ item.path ++ "\n")
        | none =>
          Sh.warn (name ++ ": not found")
          status := 1
      else match ← meaning (← Sh.searchPath) name with
        | .program path =>
          if path ≠ name then modify fun session => (session.untrack name).track name path 0
        | .own _ | .function => pure ()
        | _ =>
          Sh.warn (name ++ ": not found")
          status := 1
    return status

end Conformance.Shell.Builtin
