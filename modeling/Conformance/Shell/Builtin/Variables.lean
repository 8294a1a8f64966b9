import Conformance.Shell.Builtin.Basic

/-!
# Commands for parameters

Commands that set, show and remove options, arguments, variables and aliases.
-/

namespace Conformance.Shell.Builtin

open Machine

/-- The options of a shell by name and letter, in the order in which they are listed.
Two have no letter that could be given. -/
def switchNames : List (String × Char) :=
  [("errexit", 'e'), ("noglob", 'f'), ("ignoreeof", 'I'), ("interactive", 'i'), ("monitor", 'm'),
    ("noexec", 'n'), ("stdin", 's'), ("xtrace", 'x'), ("verbose", 'v'), ("vi", 'V'),
    ("emacs", 'E'), ("noclobber", 'C'), ("allexport", 'a'), ("notify", 'b'), ("nounset", 'u'),
    ("privileged", 'p'), ("nolog", '\x00'), ("debug", '\x01')]

/-- Letters that only the larger language knows. -/
def moreSwitches : List Char := ['h', 'k', 't', 'B', 'E', 'H', 'P', 'T']

def switchLetter (enabled : Bool) (letter : Char) (session : Session) : Option Session :=
  let isKnown := switchNames.any (fun (_, known) => known = letter && 32 ≤ letter.toNat) ||
    (session.dialect = .extended && moreSwitches.contains letter)
  if isKnown then
    let others := session.options.filter (· ≠ letter)
    some { session with options := if enabled then letter :: others else others }
  else none

/-- Turns options on or off; the first unknown one is a mistake. -/
def switchLetters (enabled : Bool) : List Char → Sh Unit
  | [] => return
  | letter :: rest => do
    match switchLetter enabled letter (← get) with
    | some session =>
      set session
      switchLetters enabled rest
    | none =>
      if (← get).dialect = .extended then
        Sh.warn (String.ofList [if enabled then '-' else '+', letter] ++ ": invalid option")
        Sh.warn "usage: set [-abefhkmnptuvxBCEHPT] [-o option-name] [--] [-] [arg ...]"
        Sh.setStatus 2
        throw .mistake
      else Sh.fail ("Illegal option " ++ String.ofList [if enabled then '-' else '+', letter])

def switchNamed (enabled : Bool) (name : String) : Sh Unit := do
  let session ← get
  match switchNames.lookup name with
  | some letter => if 32 ≤ letter.toNat then switchLetters enabled [letter]
  | none =>
    if session.dialect = .extended then
      if ["pipefail", "posix", "physical", "hashall", "braceexpand", "histexpand", "errtrace",
          "functrace", "history", "keyword", "onecmd"].contains name then
        let others := session.settings.filter (· ≠ name)
        set { session with settings := if enabled then name :: others else others }
      else
        Sh.warn (name ++ ": invalid option name")
        Sh.setStatus 2
        throw .mistake
    else Sh.fail ("Illegal option " ++ (if enabled then "-o " else "+o ") ++ name)

def setArguments (arguments : List String) : Sh Unit :=
  modify fun session => { session with
    arguments, optionIndex := 1, optionPlace := none }

/-- The options as a list, or as commands that set them. -/
def showSwitches (asCommands : Bool) : Sh Unit := do
  let session ← get
  if !asCommands then Sh.put "Current option settings\n"
  for (name, letter) in switchNames do
    let isOn := session.has letter
    if asCommands then Sh.put ("set " ++ (if isOn then "-o " else "+o ") ++ name ++ "\n")
    else Sh.put (padded 16 name ++ (if isOn then "on" else "off") ++ "\n")

/-- Options, then new arguments if there are any. -/
def setWords : List String → Sh Unit
  | [] => return
  | word :: rest =>
    match word.toList with
    | ['-', '-'] => setArguments rest
    | ['-'] => do
      switchLetters false ['x', 'v']
      if !rest.isEmpty then setArguments rest
    | ['+'] => setArguments (word :: rest)
    | sign :: c :: letters => do
      let enabled := sign = '-'
      if sign ≠ '-' && sign ≠ '+' then setArguments (word :: rest)
      else if (c :: letters).getLast? = some 'o' then
        switchLetters enabled (c :: letters).dropLast
        match rest with
        | name :: more =>
          switchNamed enabled name
          setWords more
        | [] => showSwitches (!enabled)
      else
        switchLetters enabled (c :: letters)
        setWords rest
    | _ => setArguments (word :: rest)

/-- Variables that have a value, in the order of their names. -/
def sortedVariables (session : Session) : List (String × Variable) :=
  session.bindings.mergeSort fun a b => a.1 ≤ b.1

/-- A value as the larger language shows it. -/
def plainQuoted (text : String) : String :=
  let isSafe (c : Char) : Bool := c.isAlphanum || "_./:-+@%,=".toList.contains c
  if !text.isEmpty && text.toList.all isSafe then text else Expand.requoted text

def setParameters : Builtin := special fun _ _ arguments => do
  if arguments.isEmpty then
    for (name, item) in sortedVariables (← get) do
      match item.value with
      | some (.scalar text) =>
        let shown := if (← get).dialect = .extended then plainQuoted text else quoted text
        Sh.put (name ++ "=" ++ shown ++ "\n")
      | _ => pure ()
  else setWords arguments
  return 0

def shift : Builtin := special fun _ _ arguments => do
  let count ← match arguments.head? with
    | some text => number text
    | none => pure 1
  let session ← get
  if session.arguments.length < count then
    if session.dialect = .extended then return 1 else Sh.fail "can't shift that many"
  else
    modify fun session => { session with arguments := session.arguments.drop count }
    return 0

/-- Complains about a word that is no name. -/
def failName {α : Type} (name : String) : Sh α := do
  if (← get).dialect = .extended then
    Sh.warn ("\x60" ++ name ++ "': not a valid identifier")
    Sh.setStatus 1
    throw .mistake
  else Sh.fail (name ++ ": bad variable name")

def unsetItem (name place : String) : Sh Unit := do
  let session ← get
  match (session.lookup? name).bind (·.value), session.lookup? name with
  | some (.keyed items), some item =>
    modify fun session => session.setVariable name
      { item with value := some (.keyed (items.filter (·.1 ≠ place))) }
  | some (.indexed items), some item =>
    let value ← Expand.evaluate place.toList
    modify fun session => session.setVariable name
      { item with value := some (.indexed (items.filter (·.1 ≠ value.toNat))) }
  | _, _ => pure ()

def unset : Builtin := special fun _ _ arguments => do
  let (given, names) ← options ['f', 'v', 'n'] arguments
  let ofFunctions := (given.getLast?.map (·.1)) = some 'f'
  for name in names do
    let session ← get
    if ofFunctions then
      set { session with
        functions := session.functions.filter (·.1 ≠ name) }
    else if session.dialect = .extended && name.toList.contains '[' then
      let cut := name.toList.takeWhile (· ≠ '[')
      unsetItem (String.ofList cut)
        (String.ofList ((name.toList.drop (cut.length + 1)).dropLast))
    else if !isName name then failName name
    else if ((session.lookup? name).map (·.isFixed)).getD false then
      if session.dialect = .extended then
        Sh.warn (name ++ ": cannot unset: readonly variable")
        Sh.setStatus 1
        throw .mistake
      else Sh.fail (name ++ ": is read only")
    else if session.dialect = .extended && (session.lookup? name).isNone then
      set { session with
        functions := session.functions.filter (·.1 ≠ name) }
    else modify (·.removeVariable name)
  return 0

/-- Gives a name a value if it has one, and changes what is known about it. -/
def declareOne (mark : Variable → Variable) (word : String) : Sh Unit := do
  let (name, value) := nameAndValue word
  if !isName name then failName name
  match value with
  | some text => Sh.assign name text
  | none => pure ()
  modify fun session =>
    session.setVariable name (mark ((session.lookup? name).getD .none))

/-- The variables that have a mark, as commands that would declare them. -/
def showMarked (title : String) (isMarked : Variable → Bool) : Sh Unit := do
  for (name, item) in sortedVariables (← get) do
    if isMarked item then
      let shown := match item.value.bind Value.text? with
        | some text =>
          "=" ++ (match (title.startsWith "declare" : Bool) with
            | true => "\"" ++ text ++ "\""
            | false => quoted text)
        | none => ""
      Sh.put (title ++ " " ++ name ++ shown ++ "\n")

def marking (title : String) (letter : String) (isMarked : Variable → Bool)
    (mark : Variable → Variable) (unmark : Variable → Variable) : Builtin :=
  { isSpecial := true
    takesAssignments := true
    run := fun _ _ arguments => do
      let extended := (← get).dialect = .extended
      let (given, words) ← options (if extended then ['p', 'n', 'f', 'a', 'A'] else ['p']) arguments
      if given.any (·.1 = 'p') || words.isEmpty then
        showMarked (if extended then "declare -" ++ letter else title) isMarked
      else if given.any (·.1 = 'f') then pure ()
      else
        for word in words do
          declareOne (if given.any (·.1 = 'n') then unmark else mark) word
      return 0 }

/-- Passes variables on to programs. -/
def exportNames : Builtin :=
  marking "export" "x" (·.isExported) (fun item => { item with isExported := true })
    (fun item => { item with isExported := false })

def fixNames : Builtin :=
  marking "readonly" "r" (·.isFixed) (fun item => { item with isFixed := true }) id

/-- Variables of a function: what they were before comes back when it ends. -/
def localNames : Builtin :=
  { isSpecial := true
    takesAssignments := true
    run := fun _ _ arguments => do
      let session ← get
      if session.callers.isEmpty then
        if session.dialect = .extended then
          Sh.warn "can only be used in a function"
          return 1
        else Sh.fail "not in a function"
      let words := if session.dialect = .extended then
          arguments.filter fun word => !word.startsWith "-"
        else arguments
      for word in words do
        let (name, value) := nameAndValue word
        if name = "-" then
          modify fun session => match session.frames with
            | frame :: others => { session with
                frames := (("-", some { Variable.none with
                  value := some (.scalar (String.ofList session.options)) }) :: frame) :: others }
            | [] => session
        else if !isName name then failName name
        else
          let isFixed := ((← get).lookup? name).any (·.isFixed)
          let isNew := match (← get).frames with
            | frame :: _ => !frame.any (·.1 = name)
            | [] => false
          modify (·.remember name)
          match value with
          | some text =>
            if isNew && !isFixed && session.dialect = .extended then
              modify fun session => session.setVariable name
                { Variable.none with isExported := ((session.lookup? name).getD .none).isExported }
            Sh.assign name text
          | none =>
            if session.dialect = .extended && isNew &&
                !(((← get).lookup? name).bind (·.value)).any fun value =>
                  match value with
                  | .keyed _ => true
                  | .indexed _ => true
                  | .scalar _ => false then
              modify fun session => session.setVariable name .none
      return 0 }

/-- An alias as a command that would define it. -/
def aliasText (item : String × String) : String := item.1 ++ "=" ++ quoted item.2

def setAlias : Builtin :=
  { isSpecial := false
    takesAssignments := true
    run := fun _ _ arguments => do
      let session ← get
      if arguments.isEmpty then
        for item in session.aliases do
          Sh.put (aliasText item ++ "\n")
        return 0
      else
        let mut status := 0
        for word in arguments do
          let chars := word.toList
          let tail := chars.drop 1
          let name := String.ofList (chars.take 1 ++ tail.takeWhile (· ≠ '='))
          match tail.dropWhile (· ≠ '=') with
          | _ :: value =>
            modify fun session => { session with
              aliases := session.aliases.filter (·.1 ≠ name) ++ [(name, String.ofList value)] }
          | [] =>
            match (← get).aliases.lookup name with
            | some value => Sh.put (aliasText (name, value) ++ "\n")
            | none =>
              let _ ← Sh.writeTo 2 ("alias: " ++ name ++ " not found\n")
              status := 1
        return status }

def unalias : Builtin := regular fun _ _ arguments => do
  let (given, names) ← options ['a'] arguments
  if !given.isEmpty then
    modify fun session => { session with aliases := [] }
    return 0
  else
    let mut status := 0
    for name in names do
      if ((← get).aliases.lookup name).isSome then
        modify fun session => { session with aliases := session.aliases.filter (·.1 ≠ name) }
      else
        let _ ← Sh.writeTo 2 ("unalias: " ++ name ++ " not found\n")
        status := 1
    return status

/-- What the next option is, how far it goes and what is said about it. -/
structure NextOption where
  letter : Char
  value : Option String
  /-- Where the next one is looked for. -/
  index : Nat
  place : Option Nat
  message : Option String
  isOver : Bool

/-- The rules for a letter: none if it is unknown, else whether it takes a value. -/
def optionRule (letter : Char) : List Char → Option Bool
  | [] => none
  | c :: ':' :: rest => if c = letter then some true else optionRule letter rest
  | c :: rest => if c = letter then some false else optionRule letter rest

def nextOption (rules : List Char) (words : List String) (index : Nat) (place : Option Nat) :
    NextOption :=
  let isSilent := rules.head? = some ':'
  let ended (index : Nat) : NextOption := ⟨'?', none, index, none, none, true⟩
  let current : List Char := match place with
    | some n => if 1 < index then ((words.getD (index - 2) "").toList.drop n) else []
    | none => []
  let take (letter : Char) (rest : List Char) (index : Nat) : NextOption :=
    let word := (words.getD (index - 2) "").toList
    let here := some (word.length - rest.length)
    match optionRule letter rules with
    | none =>
      if isSilent then ⟨'?', some (String.singleton letter), index, here, none, false⟩
      else ⟨'?', none, index, here, some ("Illegal option -" ++ String.singleton letter), false⟩
    | some false => ⟨letter, some "", index, here, none, false⟩
    | some true =>
      if !rest.isEmpty then ⟨letter, some (String.ofList rest), index, none, none, false⟩
      else match words[index - 1]? with
        | some value => ⟨letter, some value, index + 1, none, none, false⟩
        | none =>
          if isSilent then ⟨':', some (String.singleton letter), index, none, none, false⟩
          else ⟨'?', none, index, none,
            some ("No arg for -" ++ String.singleton letter ++ " option"), false⟩
  match current with
  | letter :: rest => take letter rest index
  | [] =>
    match words[index - 1]? with
    | none => ended index
    | some word =>
      match word.toList with
      | ['-', '-'] => ended (index + 1)
      | '-' :: letter :: rest => take letter rest (index + 1)
      | _ => ended index

def getopts : Builtin := regular fun _ _ arguments => do
  match arguments with
  | rules :: name :: given =>
    let session ← get
    let words := if given.isEmpty then session.arguments else given
    let isPast := words.length + 1 < session.optionIndex
    let next := nextOption rules.toList words (if isPast then 1 else session.optionIndex)
      (if isPast then none else session.optionPlace)
    match next.message with
    | some message =>
      if session.dialect = .extended then
        let text := if message.startsWith "Illegal" then "illegal option -- "
          else "option requires an argument -- "
        let shown := (message.toList.dropWhile (· ≠ '-')).drop 1 |>.take 1
        let _ ← Sh.writeTo 2 (session.name ++ ": " ++ text ++ String.ofList shown ++ "\n")
      else
        let _ ← Sh.writeTo 2 (message ++ "\n")
    | none => pure ()
    if !next.isOver then
      match next.value with
      | some text => Sh.assign "OPTARG" text
      | none => modify (·.removeVariable "OPTARG")
    Sh.assign "OPTIND" (toString next.index)
    Sh.assign name (String.singleton next.letter)
    modify fun session => { session with optionIndex := next.index, optionPlace := next.place }
    return if next.isOver then 1 else 0
  | _ => Sh.fail "Usage: getopts optstring var [arg...]"

end Conformance.Shell.Builtin
