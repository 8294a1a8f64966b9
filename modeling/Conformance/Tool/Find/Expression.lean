import Conformance.Shell.Pattern
import Conformance.Shell.RegexText
import Conformance.Tool.Calendar
import Conformance.Tool.Mode

/-!
# Expressions about files

What is looked for, and what is done with it: tests and acts, joined by signs.  The words
of a command are read into items first, and the items into an expression.
-/

namespace Conformance.Tool.Find

open Machine Shell

/-- How a number is compared. -/
inductive Bound where
  | exactly
  | more
  | less
deriving DecidableEq, Repr

def Bound.holds : Bound → (value limit : Nat) → Bool
  | .exactly, value, limit => value = limit
  | .more, value, limit => limit < value
  | .less, value, limit => value < limit

/-- How bits are compared. -/
inductive BitTest where
  | exactly
  | all
  | any
deriving DecidableEq, Repr

inductive Test where
  | name (pattern : List PatternItem) (folds : Bool)
  | path (pattern : List PatternItem) (folds : Bool)
  | regex (body : Regex)
  | linkName (pattern : List PatternItem) (folds : Bool)
  /-- Kinds by their letters; `turns` tells that links count the other way. -/
  | kinds (letters : List Char) (turns : Bool)
  | isEmpty
  | size (bound : Bound) (count unit : Nat)
  /-- The last change happened before or after an instant, or within a time behind it. -/
  | changed (bound : Bound) (instant : Int) (window : Nat)
  | mode (bits : Nat) (how : BitTest)
  | links (bound : Bound) (count : Nat)
  | node (bound : Bound) (number : Nat)
  | mayRead
  | mayWrite
  | mayRun
  | owned (isOwn : Bool)
  | constant (value : Bool)

inductive Act where
  /-- Shows the path and a mark, on the output or in an open file. -/
  | print (descriptor : Option Nat) (mark : Char)
  | layout (descriptor : Option Nat) (text : List Char)
  | list (descriptor : Option Nat)
  | run (words : List String) (inside asks : Bool)
  /-- Runs a command with as many paths as possible at once. -/
  | gather (index : Nat) (words : List String)
  | delete
  | prune
  | quit

inductive Expression where
  | test (body : Test)
  | act (body : Act)
  | not (body : Expression)
  | both (first second : Expression)
  | either (first second : Expression)
  | inTurn (first second : Expression)

/-- Whether an expression does something that takes the place of showing paths. -/
def Expression.acts : Expression → Bool
  | .test _ => false
  | .act .prune => false
  | .act .quit => false
  | .act _ => true
  | .not body => body.acts
  | .both first second => first.acts || second.acts
  | .either first second => first.acts || second.acts
  | .inTurn first second => first.acts || second.acts

/-- Which links are followed. -/
inductive Following where
  | nothing
  | operands
  | all
deriving DecidableEq, Repr

structure Walk where
  following : Following
  least : Nat
  most : Option Nat
  /-- Whether what is inside a directory comes before it. -/
  depthFirst : Bool
  /-- How expressions are written. -/
  extended : Option Bool
  now : Nat
  /-- How many commands with several paths there are. -/
  gathers : Nat

inductive Item where
  | leaf (body : Expression)
  | not (text : String)
  | and (text : String)
  | or (text : String)
  | comma (text : String)
  | opening
  | closing

/-! ## Words into items -/

def globOf (text : String) : List PatternItem :=
  patternOf (text.toList.map fun c => (c, false))

/-- A number with a sign that tells how it is compared. -/
def bound? (text : String) : Option (Bound × Nat) :=
  match text.toList with
  | '+' :: digits => (natural? digits).map fun n => (.more, n)
  | '-' :: digits => (natural? digits).map fun n => (.less, n)
  | digits => (natural? digits).map fun n => (.exactly, n)

def sizeUnit? (letter : Char) : Option Nat :=
  match letter with
  | 'b' => some 512
  | 'c' => some 1
  | 'w' => some 2
  | 'k' => some 1024
  | 'M' => some 1048576
  | 'G' => some 1073741824
  | _ => if letter.isDigit then some 512 else none

def sizeTest (text : String) : Work Test := do
  match text.toList.getLast? with
  | none => Work.fail "invalid null argument to -size"
  | some last =>
    match sizeUnit? last with
    | none => Work.fail ("invalid -size type \x60" ++ String.singleton last ++ "'")
    | some unit =>
      let number := if last.isDigit then text else String.ofList text.toList.dropLast
      match bound? number with
      | some (bound, count) => return .size bound count unit
      | none => Work.fail ("Invalid argument \x60" ++ text ++ "' to -size")

def modeTest (text : String) : Work Test := do
  let (how, rest) : BitTest × String := match text.toList with
    | '-' :: rest => (.all, String.ofList rest)
    | '/' :: rest => (.any, String.ofList rest)
    | _ => (.exactly, text)
  match ModeChange.read? rest with
  | some changes => return .mode (ModeChange.applyAll changes false 0 0) how
  | none => Work.fail ("invalid mode " ++ quoted text)

/-- A test of the time since the last change, in days or minutes. -/
def ageTest (settings : Walk) (name text : String) (isDays : Bool) : Work Test := do
  match bound? text with
  | none => Work.fail ("invalid argument \x60" ++ text ++ "' to \x60" ++ name ++ "'")
  | some (bound, count) =>
    let unit := if isDays then 86400 else 60
    let shift := if !isDays then 0 else if bound = .less then 1 else 86400
    let instant := Int.ofNat settings.now - Int.ofNat ((count * unit + shift) * 1000000000)
    return .changed bound instant (unit * 1000000000)

/-- A text in the style in which parentheses and bars need a backslash, but signs of
repetition do not, as one of the extended style. -/
def turnBackslashes : List Char → List Char
  | '\\' :: c :: rest =>
    if "()|".toList.contains c then c :: turnBackslashes rest else '\\' :: c :: turnBackslashes rest
  | c :: rest =>
    if "()|\x7b\x7d".toList.contains c then '\\' :: c :: turnBackslashes rest
    else c :: turnBackslashes rest
  | [] => []

def regexTest (settings : Walk) (text : String) (folds : Bool) : Work Test := do
  let (style, body) : RegexStyle × List Char := match settings.extended with
    | some isExtended => (⟨isExtended, folds, false, false, false, true⟩, text.toList)
    | none => (⟨true, folds, true, false, false, true⟩, turnBackslashes text.toList)
  match style.read body with
  | .ok regex => return .regex regex
  | .error fault =>
    Work.fail ("failed to compile regular expression '" ++ text ++ "': " ++ fault.message)

def kindLetters : List Char := "bcdpflsD".toList

def kindTest (name text : String) (turns : Bool) : Work Test := do
  let parts := splitAtMark ',' text.toList
  for part in parts do
    match part with
    | [c] =>
      if !kindLetters.contains c then
        Work.fail ("Unknown argument to " ++ name ++ ": " ++ String.singleton c)
    | [] => Work.fail ("Last file type in list argument to " ++ name ++ " is missing, i.e., list is ending on: ','")
    | _ => Work.fail ("Must separate multiple arguments to " ++ name ++ " using: ','")
  return .kinds parts.flatten turns

/-- The instant of the last change of a file. -/
def changeOf (settings : Walk) (path : String) : Work Info := do
  match ← (if settings.following = .nothing then Activity.examineItself path
      else Activity.examine path) with
  | .ok info => return info
  | .error fault => Work.fail (quoted path ++ ": " ++ fault.text)

def openOutput (path : String) : Work (Option Nat) := do
  if path = "/dev/stdout" then return none
  match ← Activity.openFile path .output with
  | .ok descriptor => return some descriptor
  | .error fault => Work.fail (quoted path ++ ": " ++ fault.text)

/-- The words of a command up to its end, and whether it takes several paths. -/
def commandWords (name : String) : List String → (taken : List String) →
    Work (List String × Bool × List String)
  | [], _ => Work.fail ("missing argument to \x60" ++ name ++ "'")
  | ";" :: rest, taken => do
    if taken.isEmpty then Work.fail ("missing argument to \x60" ++ name ++ "'")
    return (taken.reverse, false, rest)
  | "+" :: rest, "{}" :: taken => return (taken.reverse, true, rest)
  | word :: rest, taken => commandWords name rest (word :: taken)

def simple? (word : String) : Option Expression :=
  match word with
  | "-print" => some (.act (.print none '\n'))
  | "-print0" => some (.act (.print none '\x00'))
  | "-ls" => some (.act (.list none))
  | "-delete" => some (.act .delete)
  | "-prune" => some (.act .prune)
  | "-quit" => some (.act .quit)
  | "-empty" => some (.test .isEmpty)
  | "-readable" => some (.test .mayRead)
  | "-writable" => some (.test .mayWrite)
  | "-executable" => some (.test .mayRun)
  | "-true" => some (.test (.constant true))
  | "-false" => some (.test (.constant false))
  | "-nouser" => some (.test (.constant false))
  | "-nogroup" => some (.test (.constant false))
  | _ =>
    if ["-depth", "-d", "-mount", "-xdev", "-noleaf", "-daystart", "-follow", "-warn", "-nowarn",
        "-ignore_readdir_race", "-noignore_readdir_race"].contains word then
      some (.test (.constant true))
    else none

def takesWord : List String :=
  ["-name", "-iname", "-path", "-ipath", "-wholename", "-iwholename", "-regex", "-iregex",
    "-lname", "-ilname", "-type", "-xtype", "-size", "-newer", "-anewer", "-cnewer", "-newermt",
    "-newermm", "-newerct", "-mtime", "-atime", "-ctime", "-mmin", "-amin", "-cmin", "-perm",
    "-user", "-group", "-uid", "-gid", "-links", "-inum", "-samefile", "-maxdepth", "-mindepth",
    "-regextype", "-printf", "-fprint", "-fprint0", "-fls"]

def withWord (settings : Walk) (word text : String) : Work (Walk × Expression) := do
  let test (body : Work Test) : Work (Walk × Expression) := do
    return (settings, .test (← body))
  let still (body : Expression) : Work (Walk × Expression) := return (settings, body)
  let depth : Work Nat := do
    match natural? text.toList with
    | some n => return n
    | none =>
      Work.fail ("Expected a positive decimal integer argument to " ++ word ++ ", but got " ++
        quoted text)
  match word with
  | "-name" => still (.test (.name (globOf text) false))
  | "-iname" => still (.test (.name (globOf text.toLower) true))
  | "-path" => still (.test (.path (globOf text) false))
  | "-wholename" => still (.test (.path (globOf text) false))
  | "-ipath" => still (.test (.path (globOf text.toLower) true))
  | "-iwholename" => still (.test (.path (globOf text.toLower) true))
  | "-lname" => still (.test (.linkName (globOf text) false))
  | "-ilname" => still (.test (.linkName (globOf text.toLower) true))
  | "-regex" => test (regexTest settings text false)
  | "-iregex" => test (regexTest settings text true)
  | "-type" => test (kindTest word text false)
  | "-xtype" => test (kindTest word text true)
  | "-size" => test (sizeTest text)
  | "-perm" => test (modeTest text)
  | "-maxdepth" => return ({ settings with most := some (← depth) }, .test (.constant true))
  | "-mindepth" => return ({ settings with least := ← depth }, .test (.constant true))
  | "-regextype" =>
    let extended := match text with
      | "posix-extended" => some true
      | "posix-egrep" => some true
      | "egrep" => some true
      | "posix-awk" => some true
      | "awk" => some true
      | "gnu-awk" => some true
      | "posix-basic" => some false
      | "grep" => some false
      | "sed" => some false
      | "ed" => some false
      | _ => none
    return ({ settings with extended }, .test (.constant true))
  | "-samefile" => return (settings, .test (.node .exactly (← changeOf settings text).node))
  | "-newermt" =>
    match Moment.read? settings.now text with
    | some instant => still (.test (.changed .less (Int.ofNat instant) 0))
    | none =>
      Work.fail ("I cannot figure out how to interpret " ++ quoted text ++ " as a date or time")
  | "-printf" => still (.act (.layout none text.toList))
  | "-fprint" => return (settings, .act (.print (← openOutput text) '\n'))
  | "-fprint0" => return (settings, .act (.print (← openOutput text) '\x00'))
  | "-fls" => return (settings, .act (.list (← openOutput text)))
  | _ =>
    if ["-newer", "-anewer", "-cnewer", "-newermm", "-newerct"].contains word then
      let info ← changeOf settings text
      still (.test (.changed .less (Int.ofNat info.modified) 0))
    else if ["-mtime", "-atime", "-ctime"].contains word then test (ageTest settings word text true)
    else if ["-mmin", "-amin", "-cmin"].contains word then test (ageTest settings word text false)
    else if ["-user", "-group"].contains word then
      match natural? text.toList with
      | some _ => still (.test (.owned true))
      | none =>
        if text = "root" then still (.test (.owned true))
        else Work.fail (quoted text ++ (if word = "-user" then " is not the name of a known user"
          else " is not the name of an existing group"))
    else
      match bound? text with
      | none => Work.fail ("invalid argument \x60" ++ text ++ "' to \x60" ++ word ++ "'")
      | some (bound, n) =>
        if word = "-links" then still (.test (.links bound n))
        else if word = "-inum" then still (.test (.node bound n))
        else still (.test (.owned (bound.holds 0 n)))

def beginsExpression (word : String) : Bool :=
  match word.toList with
  | '-' :: _ :: _ => true
  | ['('] => true
  | ['!'] => true
  | _ => false

/-- The items that words stand for; `fuel` bounds them. -/
def itemsOf : (fuel : Nat) → Walk → List String → Work (Walk × List Item)
  | 0, settings, _ => return (settings, [])
  | _ + 1, settings, [] => return (settings, [])
  | fuel + 1, settings, word :: rest => do
    let goOn (settings : Walk) (item : Item) (rest : List String) :
        Work (Walk × List Item) := do
      let (settings, items) ← itemsOf fuel settings rest
      return (settings, item :: items)
    match word with
    | "(" => goOn settings .opening rest
    | ")" => goOn settings .closing rest
    | "," => goOn settings (.comma word) rest
    | "!" => goOn settings (.not word) rest
    | "-not" => goOn settings (.not word) rest
    | "-a" => goOn settings (.and word) rest
    | "-and" => goOn settings (.and word) rest
    | "-o" => goOn settings (.or word) rest
    | "-or" => goOn settings (.or word) rest
    | _ =>
      match simple? word with
      | some body =>
        let settings := if word = "-depth" || word = "-d" || word = "-delete" then
            { settings with depthFirst := true }
          else if word = "-follow" then { settings with following := .all }
          else settings
        goOn settings (.leaf body) rest
      | none =>
        if ["-exec", "-execdir", "-ok", "-okdir"].contains word then
          let inside := word = "-execdir" || word = "-okdir"
          let asks := word = "-ok" || word = "-okdir"
          let (words, gathers, after) ← commandWords word rest []
          if gathers && !inside then
            goOn { settings with gathers := settings.gathers + 1 }
              (.leaf (.act (.gather settings.gathers words))) after
          else
            let full := if gathers then words ++ ["{}"] else words
            goOn settings (.leaf (.act (.run full inside asks))) after
        else if word = "-fprintf" then
          match rest with
          | path :: text :: after =>
            let descriptor ← openOutput path
            goOn settings (.leaf (.act (.layout descriptor text.toList))) after
          | path :: [] => Work.fail ("invalid argument \x60" ++ path ++ "' to \x60-fprintf'")
          | [] => Work.fail "missing argument to \x60-fprintf'"
        else if takesWord.contains word then
          match rest with
          | text :: after =>
            let (settings, body) ← withWord settings word text
            goOn settings (.leaf body) after
          | [] => Work.fail ("missing argument to \x60" ++ word ++ "'")
        else if beginsExpression word then Work.fail ("unknown predicate \x60" ++ word ++ "'")
        else Work.fail ("paths must precede expression: \x60" ++ word ++ "'")

/-! ## Items into expressions -/

abbrev Parsed := Except String (Expression × List Item)

def nothingBefore (text : String) : String :=
  "invalid expression; you have used a binary operator '" ++ text ++ "' with nothing before it."

def unclosed : String :=
  "invalid expression; I was expecting to find a ')' somewhere but did not see one."

mutual

/-- Expressions between commas; `after` is the sign in front. -/
def readList : (fuel : Nat) → (after : Option String) → List Item → Parsed
  | 0, _, _ => .error "invalid expression"
  | fuel + 1, after, items => do
    let (first, rest) ← readEither fuel after items
    match rest with
    | .comma text :: more =>
      let (second, rest) ← readList fuel (some text) more
      return (.inTurn first second, rest)
    | _ => return (first, rest)

def readEither : (fuel : Nat) → (after : Option String) → List Item → Parsed
  | 0, _, _ => .error "invalid expression"
  | fuel + 1, after, items => do
    let (first, rest) ← readBoth fuel after items
    match rest with
    | .or text :: more =>
      let (second, rest) ← readEither fuel (some text) more
      return (.either first second, rest)
    | _ => return (first, rest)

def readBoth : (fuel : Nat) → (after : Option String) → List Item → Parsed
  | 0, _, _ => .error "invalid expression"
  | fuel + 1, after, items => do
    let (first, rest) ← readOne fuel after items
    match rest with
    | .and text :: more =>
      let (second, rest) ← readBoth fuel (some text) more
      return (.both first second, rest)
    | .leaf _ :: _ =>
      let (second, rest) ← readBoth fuel none rest
      return (.both first second, rest)
    | .not _ :: _ =>
      let (second, rest) ← readBoth fuel none rest
      return (.both first second, rest)
    | .opening :: _ =>
      let (second, rest) ← readBoth fuel none rest
      return (.both first second, rest)
    | _ => return (first, rest)

def readOne : (fuel : Nat) → (after : Option String) → List Item → Parsed
  | 0, _, _ => .error "invalid expression"
  | fuel + 1, after, items =>
    match items with
    | .leaf body :: rest => .ok (body, rest)
    | .not text :: rest => do
      let (body, rest) ← readOne fuel (some text) rest
      return (.not body, rest)
    | .opening :: .closing :: _ => .error "invalid expression; empty parentheses are not allowed."
    | .opening :: rest => do
      let (body, rest) ← readList fuel (some "(") rest
      match rest with
      | .closing :: more => return (body, more)
      | _ => throw unclosed
    | .closing :: _ => .error "invalid expression; you have too many ')'"
    | .and text :: _ => .error (nothingBefore text)
    | .or text :: _ => .error (nothingBefore text)
    | .comma text :: _ => .error (nothingBefore text)
    | [] =>
      match after with
      | some "(" => .error unclosed
      | some text => .error ("expected an expression after '" ++ text ++ "'")
      | none => .error "invalid expression"

end

/-- The expression that items stand for.  Without an act, paths are shown. -/
def expressionOf (items : List Item) : Except String Expression := do
  let show_ : Expression := .act (.print none '\n')
  if items.isEmpty then return show_
  let (body, rest) ← readList (5 * items.length + 10) none items
  match rest with
  | .closing :: _ => .error "you have too many ')'"
  | _ => return if body.acts then body else .both body show_

end Conformance.Tool.Find
