import Conformance.Tool.Basic

/-!
# Options of scripts

`getopt` reads the options of a script and writes them in order, each word by itself, so
that a shell can read them again.
-/

namespace Conformance.Tool

open Machine

/-- The letters for long names begin here, where no character of a word can be. -/
def longLetter (place : Nat) : Char := Char.ofNat (0x10000 + place)

/-- How a word is written. -/
inductive WordQuoting where
  | plain
  | shell
  /-- Quoted for shells to which an exclamation mark is special. -/
  | history
deriving DecidableEq, Repr

def WordQuoting.write (quoting : WordQuoting) (word : String) : String :=
  match quoting with
  | .plain => word
  | .shell =>
    "'" ++ String.join (word.toList.map fun c =>
      if c = '\'' then "'\\''" else String.singleton c) ++ "'"
  | .history =>
    "'" ++ String.join (word.toList.map fun c =>
      match c with
      | '\'' => "'\\''"
      | '\\' => "\\\\"
      | '!' => "'\\!'"
      | '\n' => "\\n"
      | '\t' => "'\\t'"
      | ' ' => "'\\ '"
      | _ => String.singleton c) ++ "'"

/-- The options that a script has. -/
structure ScriptOptions where
  short : String
  long : List String
  quoting : WordQuoting
  name : String
  isQuiet : Bool
  isSilent : Bool
  /-- Whether long names may follow a single hyphen. -/
  isLoose : Bool

namespace ScriptOptions

/-- Letters with the number of colons behind each. -/
def letters : List Char → List (Char × Nat)
  | [] => []
  | c :: ':' :: ':' :: rest => (c, 2) :: letters rest
  | c :: ':' :: rest => (c, 1) :: letters rest
  | c :: rest => (c, 0) :: letters rest

def longName (text : String) : String × Nat :=
  let chars := text.toList
  let colons := (chars.reverse.takeWhile (· = ':')).length
  (String.ofList (chars.take (chars.length - colons)), colons)

def longNames (options : ScriptOptions) : List (String × Nat) :=
  ((options.long.flatMap fun text =>
    (text.toList.splitBy fun a b => (a = ',' || a = ' ') = (b = ',' || b = ' ')).map
      String.ofList).filter fun text => !(text.startsWith "," || text.startsWith " ")).map longName

/-- The first character that says how operands are treated. -/
def sign (options : ScriptOptions) : Option Char :=
  options.short.toList.head?.filter fun c => c = '+' || c = '-'

def rules (options : ScriptOptions) : Rules :=
  let chars := options.short.toList
  let found := letters (if options.sign.isSome then chars.drop 1 else chars)
  let names := options.longNames.zipIdx.map fun ((name, count), place) =>
    (name, longLetter place, count)
  let with' (count : Nat) : List Char :=
    (found.filter (·.2 = count)).map (·.1) ++
      (names.filter (·.2.2 = count)).map fun (_, letter, _) => letter
  ⟨with' 0, with' 1, with' 2, names.map fun (name, letter, _) => (name, letter),
    options.sign ≠ some '+'⟩

def written (options : ScriptOptions) (letter : Char) (value : String) : String :=
  let rules := options.rules
  let name := match rules.names.find? (·.2 = letter) with
    | some (name, _) => "--" ++ name
    | none => "-" ++ String.singleton letter
  " " ++ name ++
    (if rules.valued.contains letter || rules.optional.contains letter then
      " " ++ options.quoting.write value else "")

/-- Reads the words one after the other; what is wrong is complained about, and the next
word follows.  `fuel` bounds the words. -/
def readWords (options : ScriptOptions) : (fuel : Nat) → List String →
    List String × List String × List String
  | 0, words => ([], words, [])
  | _ + 1, [] => ([], [], [])
  | fuel + 1, word :: rest =>
    let rules := options.rules
    let isOption := word.startsWith "-" && word ≠ "-"
    if word = "--" then ([], rest, [])
    else if !isOption then
      match options.sign with
      | some '+' => ([], word :: rest, [])
      | some _ =>
        let (shown, operands, faults) := readWords options fuel rest
        ((" " ++ options.quoting.write word) :: shown, operands, faults)
      | none =>
        let (shown, operands, faults) := readWords options fuel rest
        (shown, word :: operands, faults)
    else
      let isLong := options.isLoose && !word.startsWith "--" &&
        (rules.longName word (String.ofList (word.toList.drop 1))).isOk
      let read := if isLong then "-" ++ word else word
      let alone := rules.readFrom 1 [] [] [read]
      let needsMore := alone.2.2.any fun text =>
        (text.splitOn "requires an argument").length = 2
      let (given, mistake, left) := match needsMore, rest with
        | true, value :: others =>
          let both := rules.readFrom 2 [] [] [read, value]
          (both.1, both.2.2, others)
        | _, _ => (alone.1, alone.2.2, rest)
      let (shown, operands, faults) := readWords options fuel left
      (given.reverse.map (fun (letter, value) => options.written letter value) ++ shown, operands,
        mistake.toList ++ faults)

end ScriptOptions

/-- The status of a script whose options are wrong, and of a wrong call of the tool. -/
def badWords : Nat := 1

def badCall : Nat := 2

/-- Complains about how the tool was called. -/
def getoptMisuse {α : Type} (text : String) : Work α := do
  Work.warn text
  Work.writeError ("Try '" ++ (← get).name ++ " --help' for more information.\n")
  throw badCall

def writeOptions (options : ScriptOptions) (words : List String) : Work Unit := do
  let (shown, operands, faults) := options.readWords (words.length + 1) words
  if !options.isQuiet then
    for text in faults do
      Work.writeError (options.name ++ ": " ++ text ++ "\n")
  if !options.isSilent then
    Work.putLine (String.join shown ++ " --" ++
      String.join (operands.map fun word => " " ++ options.quoting.write word))
  if !faults.isEmpty then Work.setStatus badWords

def getoptRules : Rules :=
  ⟨"aqQuT".toList, "lnos".toList, [], [("options", 'o'), ("longoptions", 'l'), ("quiet", 'q'),
    ("quiet-output", 'Q'), ("shell", 's'), ("test", 'T'), ("unquoted", 'u'),
    ("alternative", 'a'), ("name", 'n')], false⟩

def getopt : Utility := fun words => do
  let name := (← get).name
  match words with
  | [] => getoptMisuse "missing optstring argument"
  | first :: rest =>
    if !first.startsWith "-" then
      writeOptions ⟨first, [], .plain, name, false, false, false⟩
        (if rest.head? = some "--" then rest.drop 1 else rest)
    else
      let (given, operands, mistake) := getoptRules.readFrom (words.length + 1) [] [] words
      let options : Options := ⟨given.reverse, operands.reverse⟩
      match mistake with
      | some text => getoptMisuse text
      | none => pure ()
      if options.has 'T' then throw 4
      let history := match options.value? 's' with
        | some shell => shell = "csh" || shell = "tcsh"
        | none => false
      let quoting : WordQuoting := if options.has 'u' then .plain
        else if history then .history else .shell
      let (short, words) : String × List String ← match options.value? 'o', options.operands with
        | some text, words => pure (text, words)
        | none, text :: words => pure (text, words)
        | none, [] => getoptMisuse "missing optstring argument"
      writeOptions ⟨short, options.values 'l', quoting, (options.value? 'n').getD name,
        options.has 'q', options.has 'Q', options.has 'a'⟩ words

end Conformance.Tool
