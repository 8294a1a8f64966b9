import Conformance.Shell.Builtin.Variables

/-!
# Commands of the larger language
-/

namespace Conformance.Shell.Builtin

open Machine

def declaration (name : String) (item : Variable) : String :=
  let letters := (match item.value with
    | some (.indexed _) => "a"
    | some (.keyed _) => "A"
    | _ => "") ++ (if item.isNumber then "i" else "") ++ (if item.isFixed then "r" else "") ++
    (if item.isExported then "x" else "")
  let quotedItems (items : List (String × String)) : List String :=
    items.map fun (key, text) => "[" ++ key ++ "]=\"" ++ text ++ "\""
  let shown := match item.value with
    | some (.scalar text) => "=\"" ++ text ++ "\""
    | some (.indexed items) => "=(" ++ String.intercalate " "
        (quotedItems (items.map fun (key, text) => (toString key, text))) ++ ")"
    | some (.keyed items) => "=(" ++ String.join
        ((quotedItems (Session.inTableOrder items)).map (· ++ " ")) ++ ")"
    | none => ""
  "declare -" ++ (if letters.isEmpty then "-" else letters) ++ " " ++ name ++ shown

def declaredAs (on off : List Char) (item : Variable) : Variable :=
  { isExported := (item.isExported || on.contains 'x') && !off.contains 'x'
    isFixed := item.isFixed || on.contains 'r'
    isNumber := (item.isNumber || on.contains 'i') && !off.contains 'i'
    value := if on.contains 'A' then
        match item.value with
        | some (.keyed items) => some (.keyed items)
        | _ => some (.keyed [])
      else if on.contains 'a' then
        match item.value with
        | some (.indexed items) => some (.indexed items)
        | some (.scalar text) => some (.indexed [(0, text)])
        | _ => some (.indexed [])
      else item.value }

def declarationLetters : List String → (on off : List Char) →
    List Char × List Char × List String
  | [], on, off => (on, off, [])
  | word :: rest, on, off =>
    match word.toList with
    | ['-', '-'] => (on, off, rest)
    | '-' :: c :: more => declarationLetters rest (on ++ c :: more) off
    | '+' :: c :: more => declarationLetters rest on (off ++ c :: more)
    | _ => (on, off, word :: rest)

def declare : Builtin :=
  { isSpecial := false
    takesAssignments := true
    run := fun _ _ arguments => do
      let (on, off, words) := declarationLetters arguments [] []
      let isLocal := !(← get).callers.isEmpty && !on.contains 'g'
      if on.contains 'p' then
        let mut status := 0
        for name in words do
          match (← get).lookup? name with
          | some item => Sh.put (declaration name item ++ "\n")
          | none =>
            Sh.warn (name ++ ": not found")
            status := 1
        return status
      else if on.contains 'f' || on.contains 'F' then
        let mut status := 0
        for name in words do
          if ((← get).functions.lookup name).isSome then Sh.put (name ++ "\n") else status := 1
        return status
      else
        for word in words do
          let (left, value) := nameAndValue word
          let appends := left.endsWith "+"
          let name := if appends then String.ofList left.toList.dropLast else left
          if !isName name then
            Sh.warn ("\x60" ++ word ++ "': not a valid identifier")
            Sh.setStatus 1
            throw .mistake
          if isLocal then modify (·.remember name)
          let item := declaredAs (on.filter (· ≠ 'r')) off (((← get).lookup? name).getD .none)
          modify fun session => session.setVariable name item
          match value with
          | some text =>
            let old := ((← get).text? name).getD ""
            if item.isNumber then
              let number ← Expand.evaluate text.toList
              Sh.assign name (toString number)
            else
              let cased := if on.contains 'u' then String.ofList (text.toList.map Char.toUpper)
                else if on.contains 'l' then String.ofList (text.toList.map Char.toLower) else text
              Sh.assign name (if appends then old ++ cased else cased)
          | none => pure ()
          if on.contains 'r' then
            modify fun session => session.setVariable name
              { ((session.lookup? name).getD .none) with isFixed := true }
        return 0 }

/-- Evaluates expressions; the status tells whether the last one is zero. -/
def let' : Builtin := regular fun _ _ arguments => do
  if arguments.isEmpty then
    Sh.warn "expression expected"
    return 1
  else
    let mut value : Int := 0
    for word in arguments do
      value ← Expand.evaluate word.toList
    return if value = 0 then 1 else 0

/-- Turns further options on or off. -/
def shopt : Builtin := regular fun _ _ arguments => do
  let (on, _, names) := declarationLetters arguments [] []
  let mut status := 0
  for name in names do
    let session ← get
    let others := session.settings.filter (· ≠ name)
    if on.contains 's' then set { session with settings := name :: others }
    else if on.contains 'u' then set { session with settings := others }
    else
      let isOn := session.settings.contains name
      if !isOn then status := 1
      if !on.contains 'q' then
        Sh.put (padded 15 name ++ "\t" ++ (if isOn then "on" else "off") ++ "\n")
  return status

def linesOf (keepsEnds : Bool) : List Char → (current : List Char) → List (List Char)
  | [], current => if current.isEmpty then [] else [current.reverse]
  | c :: rest, current =>
    if c = '\n' then
      (if keepsEnds then (c :: current).reverse else current.reverse) :: linesOf keepsEnds rest []
    else linesOf keepsEnds rest (c :: current)

def mapfile : Builtin := regular fun _ _ arguments => do
  let (given, names) ← options "td:n:O:s:u:C:c:".toList arguments
  let data ← Expand.readAll 0 1000000 []
  let lines := linesOf (!given.any (·.1 = 't')) (charsOfData data) []
  let skipped := ((given.lookup 's').bind count?).getD 0
  let chosen := match (given.lookup 'n').bind count? with
    | some 0 => lines.drop skipped
    | some count => (lines.drop skipped).take count
    | none => lines.drop skipped
  let items := chosen.zipIdx.map fun (line, place) => (place, String.ofList line)
  modify fun session => session.setVariable (names.headD "MAPFILE")
    { Variable.none with value := some (.indexed items) }
  return 0

/-- A command that could not be found among those of the shell. -/
def builtin : Builtin := regular fun _ _ arguments => do
  match arguments with
  | [] => return 0
  | name :: _ =>
    Sh.warn (name ++ ": not a shell builtin")
    return 1

end Conformance.Shell.Builtin
