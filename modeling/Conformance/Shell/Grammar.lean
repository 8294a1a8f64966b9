import Conformance.Shell.Reader

/-!
# Reading commands

The grammar of scripts.  A script is read one complete command at a time, since a
command may change how the following ones are read.  Messages say which token was not
expected and, where only one could follow, which one was.
-/

namespace Conformance.Shell

namespace Read

def unexpected {α : Type} (expected : Option Token) : Read α := do
  let scan ← get
  match scan.dialect with
  | .standard =>
    match expected with
    | some token => fail (scan.last.shown ++ " unexpected (expecting " ++ token.shown ++ ")")
    | none => fail (scan.last.shown ++ " unexpected")
  | .extended =>
    if scan.last = .finish then fail "unexpected end of file"
    else fail ("near unexpected token \x60" ++
      scan.last.bareText (String.ofList (literalChars scan.word)) ++ "'")

def setChecks (checks : Checks) : Read Unit := modify fun scan => { scan with checks }

def pushBack : Read Unit := modify fun scan => { scan with isPushedBack := true }

/-- What a redirection to a file asks for, behind its first character. -/
def outputTransfer : Read Transfer := do
  if ← accept '>' then return .append
  else if ← accept '|' then return .overwrite
  else if ← accept '&' then return .duplicate
  else return .output

/-- What a redirection from a file asks for, behind its first character. -/
def inputTransfer : Read Transfer := do
  let extended ← isExtended
  if ← accept '<' then
    let number := (← get).nextDocument
    if ← acceptIf extended '<' then return .line
    else
      let stripsTabs ← accept '-'
      modify fun scan => { scan with
        nextDocument := number + 1
        awaited := scan.awaited ++ [⟨number, [], stripsTabs, false⟩] }
      return .document number
  else if ← accept '&' then return .duplicate
  else if ← accept '>' then return .readWrite
  else return .input

def redirectionOperator (c : Char) (descriptor : Option Nat) : Read Unit := do
  let (transfer, usual) ← match c with
    | '>' => do pure (← outputTransfer, 1)
    | _ => do pure (← inputTransfer, 0)
  modify fun scan => { scan with
    redirection := .mk (descriptor.getD usual) transfer []
    last := .redirection }

/-- Takes a comment up to the end of its line. -/
def comment : (fuel : Nat) → Read Unit
  | 0 => return
  | fuel + 1 => do
    match ← peek with
    | none => return
    | some '\n' => return
    | some _ =>
      let _ ← next
      comment fuel

/-- Pops the texts of aliases that have been read.  One that ends in a blank lets the
next word be an alias too. -/
def popLayers : Read Unit := modify fun scan =>
  let (done, open_) := scan.layers.partition fun layer => layer.finish ≤ scan.place
  { scan with
    layers := open_
    checks := if done.any (·.endsInBlank) then { scan.checks with aliases := true }
      else scan.checks }

section

variable (deeper : Deeper)

/-- A word, or a redirection whose descriptor is the digit in front of it. -/
def wordToken (endMark : Bool) : Read Token := do
  let word ← deeper.parts (if endMark then .mark else .word)
  let digit? : Option Nat := match word with
    | [.text content false] =>
      match content.toList with
      | [d] => if d.isDigit then some (d.toNat - '0'.toNat) else none
      | _ => none
    | _ => none
  let following ← if digit?.isSome || word.isEmpty then peekJoined else pure none
  match following with
  | some c =>
    if c = '<' || c = '>' then
      let _ ← next
      redirectionOperator c digit?
      return .redirection
    else
      modify fun scan => { scan with word, last := .word }
      return .word
  | none =>
    modify fun scan => { scan with word, last := .word }
    return .word

/-- A token; `fuel` bounds the blanks in front of it. -/
def rawToken : (fuel : Nat) → Read Token
  | 0 => return .finish
  | fuel + 1 => do
    let scan ← get
    if scan.isPushedBack then
      set { scan with isPushedBack := false }
      return scan.last
    popLayers
    let extended ← isExtended
    let is (token : Token) : Read Token := do
      modify fun scan => { scan with last := token }
      return token
    match ← peekJoined with
    | none => is .finish
    | some c =>
      match c with
      | ' ' => let _ ← next; rawToken fuel
      | '\t' => let _ ← next; rawToken fuel
      | '#' => comment bound; rawToken fuel
      | '\n' => let _ ← next; is .newline
      | '&' =>
        let _ ← next
        if ← accept '&' then is .both
        else if extended && (← peek) = some '>' then
          let _ ← next
          let append ← accept '>'
          modify fun scan => { scan with
            redirection := .mk 1 (.both append) [], last := .redirection }
          return .redirection
        else is .background
      | '|' =>
        let _ ← next
        if ← accept '|' then is .either else is .pipe
      | ';' =>
        let _ ← next
        if ← accept ';' then
          if ← acceptIf extended '&' then is (.endOfBranch false true)
          else is (.endOfBranch false false)
        else if ← acceptIf extended '&' then is (.endOfBranch true false)
        else is .semicolon
      | '(' => let _ ← next; is .opening
      | ')' => let _ ← next; is .closing
      | _ => wordToken deeper (← get).checks.endMark

def afterNewlines (checks : Checks) : (fuel : Nat) → Token → Read Token
  | 0, token => return token
  | fuel + 1, token => do
    if checks.newlines && token = .newline then
      documents deeper
      afterNewlines checks fuel (← rawToken deeper bound)
    else return token

/-- A token, examined for what has been asked; `fuel` bounds the aliases. -/
def tokenFrom : (fuel : Nat) → (asked : Checks) → Read Token
  | 0, _ => return .finish
  | fuel + 1, asked => do
    let token ← afterNewlines deeper asked bound (← rawToken deeper bound)
    let scan ← get
    let checks := asked.union scan.checks
    set { scan with checks := .nothing }
    match token, bare? scan.word with
    | .word, some text =>
      if checks.keywords &&
          (keywords.contains text ||
            (scan.dialect = .extended && moreKeywords.contains text)) then
        modify fun scan => { scan with last := .keyword text }
        return .keyword text
      else if checks.aliases && !scan.layers.any (·.name = text) then
        match scan.aliases.lookup text with
        | some value =>
          let added := value.toList
          modify fun scan => { scan with
            rest := added ++ scan.rest
            layers := ⟨text, scan.place + added.length,
              added.getLast?.any isBlank⟩ :: scan.layers }
          tokenFrom fuel checks
        | none => return token
      else return token
    | _, _ => return token

def token : Read Token := do tokenFrom deeper bound (← get).checks

/-- The next token if it is a certain keyword; complains if not. -/
def expectKeyword (text : String) : Read Unit := do
  if (← token deeper) ≠ .keyword text then unexpected (some (.keyword text))

/-- The word behind a redirection operator. -/
def redirectionTarget : Read Redirection := do
  let scan ← get
  let .mk descriptor transfer _ := scan.redirection
  let isDocument := match transfer with
    | .document _ => true
    | _ => false
  setChecks (if isDocument then .mark else .nothing)
  if (← token deeper) ≠ .word then unexpected none
  let word := (← get).word
  match transfer with
  | .document number =>
    modify fun scan => { scan with
      awaited := scan.awaited.map fun awaited =>
        if awaited.number = number then
          { awaited with mark := literalChars word, isLiteral := hasQuotes word }
        else awaited }
    return .mk descriptor transfer []
  | _ => return .mk descriptor transfer word

/-- A word cut behind its name and sign, if it is an assignment. -/
def assignment? (extended : Bool) (word : Word) :
    Option (String × Option Word × Bool × Word) :=
  match word with
  | .text content false :: rest =>
    let text := content.toList
    let name := text.takeWhile isNameChar
    let behind := text.drop name.length
    let value (text : List Char) : Word :=
      if text.isEmpty then rest else .text (String.ofList text) false :: rest
    if !isName (String.ofList name) then none
    else match behind with
      | '=' :: value' => some (String.ofList name, none, false, value value')
      | '+' :: '=' :: value' =>
        if extended then some (String.ofList name, none, true, value value') else none
      | '[' :: index =>
        if extended then
          (closeIndex 0 [] (if index.isEmpty then rest
            else .text (String.ofList index) false :: rest)).bind fun (index, after) =>
              match after with
              | .text content false :: rest =>
                match content.toList with
                | '=' :: text =>
                  some (String.ofList name, some index, false,
                    if text.isEmpty then rest else .text (String.ofList text) false :: rest)
                | '+' :: '=' :: text =>
                  some (String.ofList name, some index, true,
                    if text.isEmpty then rest else .text (String.ofList text) false :: rest)
                | _ => none
              | _ => none
        else none
      | _ => none
  | _ => none
where
  /-- Cuts parts at the bracket that closes an index. -/
  closeIndex (depth : Nat) (taken : List Part) : List Part → Option (Word × Word)
    | [] => none
    | .text content false :: rest =>
      match cutIndex depth [] content.toList with
      | .inl (inside, after) =>
        some ((.text (String.ofList inside) false :: taken).reverse,
          if after.isEmpty then rest else .text (String.ofList after) false :: rest)
      | .inr depth => closeIndex depth (.text content false :: taken) rest
    | part :: rest => closeIndex depth (part :: taken) rest
  /-- Looks for the bracket in a text; yields how many are open if it is not there. -/
  cutIndex (depth : Nat) (taken : List Char) : List Char → (List Char × List Char) ⊕ Nat
    | [] => .inr depth
    | '[' :: rest => cutIndex (depth + 1) ('[' :: taken) rest
    | ']' :: rest =>
      if depth = 0 then .inl (taken.reverse, rest) else cutIndex (depth - 1) (']' :: taken) rest
    | c :: rest => cutIndex depth (c :: taken) rest

/-- The items of an array between parentheses, behind the first. -/
def arrayItems : (fuel : Nat) → (taken : List (Option Word × Word)) →
    Read (List (Option Word × Word))
  | 0, taken => return taken.reverse
  | fuel + 1, taken => do
    setChecks { Checks.nothing with newlines := true }
    match ← token deeper with
    | .word =>
      let word := (← get).word
      let item : Option Word × Word := match word with
        | .text content false :: rest =>
          match content.toList with
          | '[' :: _ =>
            match assignment? true (.text ("k" ++ content) false :: rest) with
            | some (_, some index, _, value) => (some index, value)
            | _ => (none, word)
          | _ => (none, word)
        | _ => (none, word)
      arrayItems fuel (item :: taken)
    | .closing => return taken.reverse
    | _ => unexpected none

/-- An assignment, with the array that may follow its sign. -/
def assignmentItem (word : Word) : Read (Option Assignment) := do
  let extended ← isExtended
  match assignment? extended word with
  | none => return none
  | some (name, index, appends, value) =>
    if extended && value.isEmpty && (← get).rest.head? = some '(' then
      let _ ← next
      return some (.mk name index appends (.items (← arrayItems deeper bound [])))
    else return some (.mk name index appends (.word value))

def reservedNames : List String :=
  [".", ":", "break", "continue", "eval", "exec", "exit", "export", "readonly", "return", "set",
    "shift", "times", "trap", "unset"]

/-- Commands whose arguments may be assignments of arrays. -/
def declarators : List String :=
  ["declare", "typeset", "local", "export", "readonly"]

/-- The parts of a simple command so far, latest first. -/
structure SimpleDraft where
  assignments : List Assignment
  words : List Word
  redirections : List Redirection

def simpleFrom (command : Read (Option Command)) (line : Nat) :
    (fuel : Nat) → SimpleDraft → Read (Option Command)
  | 0, _ => return none
  | fuel + 1, draft => do
    let finished : Option Command :=
      some (.simple line draft.assignments.reverse draft.words.reverse draft.redirections.reverse)
    setChecks (if draft.words.isEmpty then .aliasOnly else .nothing)
    match ← token deeper with
    | .word =>
      let word := (← get).word
      let isDeclared := match draft.words.getLast? with
        | some first => (bare? first).any declarators.contains
        | none => false
      if draft.words.isEmpty then
        match ← assignmentItem deeper word with
        | some item =>
          simpleFrom command line fuel { draft with assignments := item :: draft.assignments }
        | none => simpleFrom command line fuel { draft with words := word :: draft.words }
      else if isDeclared && (← isExtended) && (← get).rest.head? = some '(' then
        match ← assignmentItem deeper word with
        | some item =>
          let .mk name _ _ _ := item
          simpleFrom command line fuel { draft with
            assignments := item :: draft.assignments
            words := [.text name false] :: draft.words }
        | none => simpleFrom command line fuel { draft with words := word :: draft.words }
      else simpleFrom command line fuel { draft with words := word :: draft.words }
    | .redirection =>
      let redirection ← redirectionTarget deeper
      simpleFrom command line fuel
        { draft with redirections := redirection :: draft.redirections }
    | .opening =>
      match draft.words, draft.assignments, draft.redirections with
      | [word], [], [] =>
        if (← token deeper) ≠ .closing then unexpected (some .closing)
        let name := String.ofList (literalChars word)
        let extended ← isExtended
        if !extended && (!(bare? word).any isName || reservedNames.contains name) then
          fail "Bad function name"
        setChecks .everything
        let definedAt := (← get).line
        return some (.define definedAt name (← command))
      | _, _, _ =>
        pushBack
        return finished
    | _ =>
      pushBack
      return finished

/-- The words of a loop up to the end of the line. -/
def loopItems : (fuel : Nat) → (taken : List Word) → Read (List Word)
  | 0, taken => return taken.reverse
  | fuel + 1, taken => do
    match ← token deeper with
    | .word => loopItems fuel ((← get).word :: taken)
    | .newline => return taken.reverse
    | .semicolon => return taken.reverse
    | _ => unexpected none

def patterns : (fuel : Nat) → (taken : List Word) → Read (List Word)
  | 0, taken => return taken.reverse
  | fuel + 1, taken => do
    let word := (← get).word
    match ← token deeper with
    | .pipe =>
      let _ ← token deeper
      patterns fuel (word :: taken)
    | _ => return (word :: taken).reverse

def branches : (fuel : Nat) → (taken : List Branch) → Read (List Branch)
  | 0, taken => return taken.reverse
  | fuel + 1, taken => do
    setChecks .afterBranch
    match ← token deeper with
    | .keyword "esac" => return taken.reverse
    | first =>
      if first = .opening then
        let _ ← token deeper
      let alternatives ← patterns deeper bound []
      if (← get).last ≠ .closing then unexpected (some .closing)
      let body ← deeper.list 2
      setChecks .afterBranch
      match ← token deeper with
      | .keyword "esac" => return (.mk alternatives body false false :: taken).reverse
      | .endOfBranch goesOn tries => branches fuel (.mk alternatives body goesOn tries :: taken)
      | _ => unexpected (some (.endOfBranch false false))

/-- The part of a condition behind its first keyword. -/
def otherwise : (fuel : Nat) → Read (Option Command)
  | 0 => return none
  | fuel + 1 => do
    match ← token deeper with
    | .keyword "elif" =>
      let test ← deeper.list 0
      expectKeyword deeper "then"
      let body ← deeper.list 0
      return some (.branch test body (← otherwise fuel))
    | .keyword "else" => deeper.list 0
    | _ =>
      pushBack
      return none

def cutAtSemicolons : List Part → List Word
  | [] => [[]]
  | .text content quoted :: rest =>
    let later := cutAtSemicolons rest
    let pieces := (splitAt content.toList).map fun piece => Part.text (String.ofList piece) quoted
    match pieces.reverse, later with
    | [], _ => later
    | last :: others, first :: more => others.reverse.map (fun p => [p]) ++ (last :: first) :: more
    | _, [] => pieces.map fun p => [p]
  | part :: rest =>
    match cutAtSemicolons rest with
    | [] => [[part]]
    | first :: more => (part :: first) :: more
where
  splitAt : List Char → List (List Char)
    | [] => [[]]
    | ';' :: rest => [] :: splitAt rest
    | c :: rest =>
      match splitAt rest with
      | [] => [[c]]
      | piece :: more => (c :: piece) :: more

/-- Skips blanks and newlines; `fuel` bounds their number. -/
def skipSpace : (fuel : Nat) → Read Unit
  | 0 => return
  | fuel + 1 => do
    match ← peekJoined with
    | some c =>
      if isBlank c || c = '\n' then
        let _ ← next
        skipSpace fuel
    | none => return

/-- What stands next in a condition: an operator, or a word. -/
inductive Mark where
  | operator (text : String)
  | word (content : Word)

def conditionMark (zone : Zone) : Read Mark := do
  skipSpace bound
  match ← peekJoined with
  | none => unexpected none
  | some c =>
    let rest := (← get).rest
    if c = '(' && zone ≠ .expression then let _ ← next; return .operator "("
    else if c = ')' then let _ ← next; return .operator ")"
    else if c = '<' then let _ ← next; return .operator "<"
    else if c = '>' then let _ ← next; return .operator ">"
    else if rest.take 2 = ['&', '&'] then let _ ← next; let _ ← next; return .operator "&&"
    else if rest.take 2 = ['|', '|'] then let _ ← next; let _ ← next; return .operator "||"
    else
      let word ← deeper.parts zone
      if word.isEmpty then
        modify fun scan => { scan with last := .finish }
        unexpected none
      return .word word

def unaryConditions : List String :=
  ["-a", "-b", "-c", "-d", "-e", "-f", "-g", "-h", "-k", "-p", "-r", "-s", "-t", "-u", "-w", "-x",
    "-G", "-L", "-N", "-O", "-S", "-z", "-n", "-o", "-v", "-R"]

def binaryConditions : List String :=
  ["=", "==", "!=", "=~", "-eq", "-ne", "-lt", "-le", "-gt", "-ge", "-nt", "-ot", "-ef"]

/-- A condition between double brackets.  The levels are: 0 for a single test, 1 for
tests that must all hold, 2 for tests of which one must hold. -/
def conditionAt : (fuel level : Nat) → Read Condition
  | 0, _ => unexpected none
  | fuel + 1, 0 => do
    match ← conditionMark deeper .word with
    | .operator "(" =>
      let inner ← conditionAt fuel 2
      match ← conditionMark deeper .word with
      | .operator ")" => return inner
      | _ => unexpected none
    | .operator _ => unexpected none
    | .word first =>
      match bare? first with
      | some "!" => return .negate (← conditionAt fuel 0)
      | text =>
        if text.any unaryConditions.contains then
          let before ← get
          match ← conditionMark deeper .word with
          | .word operand =>
            if bare? operand = some "]]" then
              set before
              return .word first
            else return .unary (text.getD "") operand
          | .operator _ =>
            set before
            return .word first
        else
          let before ← get
          match ← conditionMark deeper .word with
          | .operator symbol =>
            if symbol = "<" || symbol = ">" then
              match ← conditionMark deeper .word with
              | .word right => return .binary symbol first right
              | .operator _ => unexpected none
            else
              set before
              return .word first
          | .word operator =>
            match (bare? operator).filter binaryConditions.contains with
            | some symbol =>
              match ← conditionMark deeper (if symbol = "=~" then .expression else .word) with
              | .word right => return .binary symbol first right
              | .operator _ => unexpected none
            | none =>
              set before
              return .word first
  | fuel + 1, level + 1 => do
    let first ← conditionAt fuel level
    let before ← get
    match ← conditionMark deeper .word with
    | .operator symbol =>
      if symbol = "&&" && level = 0 then return .both first (← conditionAt fuel (level + 1))
      else if symbol = "||" && level = 1 then return .either first (← conditionAt fuel (level + 1))
      else
        set before
        return first
    | .word _ =>
      set before
      return first

def redirectionsBehind : (fuel : Nat) → (taken : List Redirection) → Read (List Redirection)
  | 0, taken => return taken.reverse
  | fuel + 1, taken => do
    match ← token deeper with
    | .redirection => redirectionsBehind fuel ((← redirectionTarget deeper) :: taken)
    | _ =>
      pushBack
      return taken.reverse

def withRedirections (line : Nat) (body : Option Command) : Read (Option Command) := do
  setChecks .command
  let redirections ← redirectionsBehind deeper bound []
  if redirections.isEmpty then return body
  else match body with
    | some (.subshell at_ inner _) => return some (.subshell at_ inner redirections)
    | _ => return some (.redirected line body redirections)

/-- All arguments, as the items of a loop that names none. -/
def allArguments : Word := [.parameter "@" none .value true]

/-- A loop over items, behind its keyword. -/
def forLoop (line : Nat) : Read (Option Command) := do
  let scan ← get
  let behindBlanks := scan.rest.dropWhile isBlank
  if scan.dialect = .extended && behindBlanks.take 2 = ['(', '('] && !scan.isPushedBack then
    skipSpace bound
    let _ ← next
    let _ ← next
    let header := cutAtSemicolons (← deeper.parts .arithmetic)
    setChecks .everything
    if (← token deeper) = .semicolon then setChecks .everything else pushBack
    setChecks .everything
    match ← token deeper with
    | .keyword "\x7b" =>
      let body ← deeper.list 0
      expectKeyword deeper "\x7d"
      return some (.count line (header.getD 0 []) (header.getD 1 []) (header.getD 2 []) body)
    | .keyword "do" =>
      let body ← deeper.list 0
      expectKeyword deeper "done"
      return some (.count line (header.getD 0 []) (header.getD 1 []) (header.getD 2 []) body)
    | _ => unexpected (some (.keyword "do"))
  else
    let first ← token deeper
    let name := (bare? (← get).word).getD ""
    if first ≠ .word || !isName name then fail "Bad for loop variable"
    setChecks .everything
    let items ← match ← token deeper with
      | .keyword "in" => loopItems deeper bound []
      | other => do
        if other ≠ .semicolon then pushBack
        pure [allArguments]
    setChecks .everything
    expectKeyword deeper "do"
    let body ← deeper.list 0
    expectKeyword deeper "done"
    return some (.forEach line name items body)

/-- A choice between patterns, behind its keyword. -/
def choice (line : Nat) : Read (Option Command) := do
  if (← token deeper) ≠ .word then unexpected (some .word)
  let subject := (← get).word
  setChecks .everything
  expectKeyword deeper "in"
  return some (.choose line subject (← branches deeper bound []))

/-- A command that is no pipeline; `fuel` bounds nested definitions. -/
def command : (fuel : Nat) → Read (Option Command)
  | 0 => return none
  | fuel + 1 => do
    let line := (← get).line
    match ← token deeper with
    | .keyword "if" =>
      let test ← deeper.list 0
      expectKeyword deeper "then"
      let body ← deeper.list 0
      let rest ← otherwise deeper bound
      expectKeyword deeper "fi"
      withRedirections deeper line (some (.branch test body rest))
    | .keyword "while" => loop line false
    | .keyword "until" => loop line true
    | .keyword "for" => withRedirections deeper line (← forLoop deeper line)
    | .keyword "case" => withRedirections deeper line (← choice deeper line)
    | .keyword "\x7b" =>
      let body ← deeper.list 0
      expectKeyword deeper "\x7d"
      withRedirections deeper line body
    | .keyword "[[" =>
      let content ← conditionAt deeper bound 2
      match ← conditionMark deeper .word with
      | .word word =>
        if bare? word ≠ some "]]" then unexpected none
        withRedirections deeper line (some (.condition line content))
      | .operator _ => unexpected none
    | .keyword "function" =>
      if (← token deeper) ≠ .word then unexpected none
      let name := String.ofList (literalChars (← get).word)
      if (← token deeper) = .opening then
        if (← token deeper) ≠ .closing then unexpected (some .closing)
      else pushBack
      setChecks .everything
      let definedAt := (← get).line
      return some (.define definedAt name (← command fuel))
    | .keyword "time" => command fuel
    | .opening =>
      if (← isExtended) && (← get).rest.head? = some '(' then
        let _ ← next
        let content ← deeper.parts .arithmetic
        withRedirections deeper line (some (.evaluate line content))
      else
        let body ← deeper.list 0
        if (← token deeper) ≠ .closing then unexpected (some .closing)
        withRedirections deeper line (some (.subshell line body []))
    | .word =>
      pushBack
      simpleFrom deeper (command fuel) line bound ⟨[], [], []⟩
    | .redirection =>
      pushBack
      simpleFrom deeper (command fuel) line bound ⟨[], [], []⟩
    | _ => unexpected none
where
  /-- A loop with a test, behind its keyword. -/
  loop (line : Nat) (inverted : Bool) : Read (Option Command) := do
    let test ← deeper.list 0
    expectKeyword deeper "do"
    let body ← deeper.list 0
    expectKeyword deeper "done"
    withRedirections deeper line (some (.repeated inverted test body))

/-- The stages of a pipe behind the first, latest first. -/
def stagesFrom : (fuel : Nat) → (taken : List (Option Command)) → Read (List (Option Command))
  | 0, taken => return taken.reverse
  | fuel + 1, taken => do
    match ← token deeper with
    | .pipe =>
      if (← isExtended) && (← get).rest.head? = some '&' then
        let _ ← next
        setChecks .everything
        let later ← command deeper bound
        let first : Option (Option Command) := taken.head?.map fun stage =>
          some (.redirected 0 stage [.mk 2 .duplicate [.text "1" false]])
        stagesFrom fuel (later :: (first.toList ++ taken.drop 1))
      else
        setChecks .everything
        let later ← command deeper bound
        stagesFrom fuel (later :: taken)
    | _ =>
      pushBack
      return taken.reverse

def pipeline : Read (Option Command) := do
  let negated := (← token deeper) = .keyword "!"
  if negated then setChecks .command else pushBack
  let first ← command deeper bound
  let stages ← stagesFrom deeper bound [first]
  let whole := match stages with
    | [only] => only
    | _ => some (.pipe stages false)
  return if negated then some (.negate whole) else whole

/-- Pipes that are joined by conditions. -/
def andOr : (fuel : Nat) → (first : Option Command) → Read (Option Command)
  | 0, first => return first
  | fuel + 1, first => do
    match ← token deeper with
    | .both =>
      setChecks .everything
      andOr fuel (some (.both first (← pipeline deeper)))
    | .either =>
      setChecks .everything
      andOr fuel (some (.either first (← pipeline deeper)))
    | _ =>
      pushBack
      return first

def inBackground (line : Nat) : Option Command → Option Command
  | some (.pipe stages _) => some (.pipe stages true)
  | some (.redirected at_ body redirections) => some (.background at_ body redirections)
  | other => some (.background line other [])

/-- What a list has come to: whether the script has ended before its first command. -/
structure Listing where
  body : Option Command
  isOver : Bool

/-- A list of commands.  At the outermost level it ends with its line; elsewhere it ends
in front of a token that ends lists, which may come first if `mayBeEmpty`. -/
def listFrom (outermost : Bool) :
    (fuel : Nat) → (mayBeEmpty : Bool) → (first : Option Command) → Read Listing
  | 0, _, first => return ⟨first, true⟩
  | fuel + 1, mayBeEmpty, first => do
    setChecks { Checks.command with newlines := !outermost }
    let start ← token deeper
    match start with
    | .newline =>
      documents deeper
      return ⟨first, false⟩
    | .finish =>
      documents deeper
      pushBack
      modify fun scan => { scan with last := .finish }
      return ⟨first, outermost && first.isNone⟩
    | _ =>
      pushBack
      if mayBeEmpty && start.endsList then return ⟨first, false⟩
      let line := (← get).line
      let second ← andOr deeper bound (← pipeline deeper)
      let separator ← token deeper
      let done := if separator = .background then inBackground line second else second
      let joined := match first with
        | none => done
        | some _ => some (.sequence first done)
      match separator with
      | .finish =>
        documents deeper
        pushBack
        modify fun scan => { scan with last := .finish }
        return ⟨joined, false⟩
      | .newline =>
        pushBack
        listFrom outermost fuel (!outermost) joined
      | .background => listFrom outermost fuel (!outermost) joined
      | .semicolon => listFrom outermost fuel (!outermost) joined
      | _ =>
        if outermost then unexpected none
        else
          pushBack
          return ⟨joined, false⟩

end

/-- Readers for commands that are nested at most so deep. -/
def readers : (depth : Nat) → Deeper
  | 0 => ⟨fun _ => fail "nested too deeply", fail "nested too deeply",
      fun _ => fail "nested too deeply"⟩
  | depth + 1 =>
    { list := fun kind => do
        return (← listFrom (readers depth) false bound (kind = 2) none).body
      enclosed := do
        let inner := readers depth
        let listing ← listFrom inner false bound true none
        if (← token inner) ≠ .closing then unexpected (some .closing)
        return listing.body
      parts := fun zone => parts (readers depth) zone }

def nesting : Nat := 1000

/-- The next complete command of a script; nothing if it has ended. -/
def completeCommand : Read (Option (Option Command)) := do
  modify fun scan => { scan with isPushedBack := false, checks := .nothing, awaited := [] }
  let listing ← listFrom (readers nesting) true bound false none
  return if listing.isOver then none else some listing.body

end Read

def Read.quotedText (dialect : Dialect) (text : List Char) : Except ScanFault Word :=
  match (Read.parts (Read.readers Read.nesting) .document).run (.ofText dialect text true) with
  | .ok (word, _) => .ok word
  | .error fault => .error fault

end Conformance.Shell
