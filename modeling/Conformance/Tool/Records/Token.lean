import Conformance.Shell.Escape
import Conformance.Shell.Numeral

/-!
# Tokens of scripts for records

A slash begins an expression where no operand has ended; elsewhere it divides.  What is
no token is kept as a fault at its place, so that it counts only where it is reached.
-/

namespace Conformance.Tool.Records

open Shell

/-- What is wrong with a script. -/
inductive ScriptFault where
  /-- A token that does not fit. -/
  | near (line : Nat) (what : String)
  | wrong (line : Nat) (message : String)
  | unexpected (line : Nat) (c : Char)
deriving DecidableEq

def ScriptFault.message (file : String) : ScriptFault → String
  | .near line what => file ++ "line " ++ toString line ++ ": syntax error at or near " ++ what
  | .wrong line message => file ++ "line " ++ toString line ++ ": " ++ message
  | .unexpected line c =>
    toString line ++ ": unexpected character '" ++ String.singleton c ++ "'"

inductive Token where
  | number (value : Binary64)
  | text (content : List Char)
  | regex (source : List Char)
  | name (text : String)
  /-- A name with an opening parenthesis right behind it. -/
  | callee (text : String)
  | keyword (text : String)
  | builtin (text : String)
  | symbol (text : String)
  | newline
  | bad (fault : ScriptFault)
deriving DecidableEq

/-- A token, its line and how it is shown. -/
structure Lexeme where
  token : Token
  line : Nat
  shown : String

def keywords : List String :=
  ["BEGIN", "END", "function", "if", "else", "while", "for", "do", "break", "continue", "next",
    "nextfile", "exit", "return", "delete", "in", "getline", "print", "printf"]

def builtins : List String :=
  ["length", "substr", "index", "split", "sub", "gsub", "match", "sprintf", "sin", "cos", "atan2",
    "exp", "log", "sqrt", "int", "rand", "srand", "tolower", "toupper", "system", "close",
    "fflush"]

def symbols : List String :=
  ["&&", "||", "++", "--", "+=", "-=", "*=", "/=", "%=", "^=", "==", "<=", ">=", "!=", "!~", ">>",
    "\x7b", "\x7d", "(", ")", "[", "]", ";", ",", "+", "-", "*", "/", "%", "^", "!",
    ">", "<", "|", "?", ":", "~", "$", "="]

/-- The character that an escape in a text stands for, and what follows it.  An escape
that is not known stays as it is. -/
def textEscape (rest : List Char) : List Char × List Char :=
  match rest with
  | [] => (['\\'], [])
  | '"' :: more => (['"'], more)
  | 'x' :: more =>
    let digits := (more.take 2).takeWhile isHexDigit
    if digits.isEmpty then (['\\', 'x'], more)
    else
      let code := digits.foldl (fun n c => n * 16 + (digitIn? 16 c).getD 0) 0
      ([byteChar code], more.drop digits.length)
  | c :: more =>
    match letterEscape? c with
    | some shown => ([shown], more)
    | none =>
      let digits := (rest.take 3).takeWhile isOctal
      if digits.isEmpty then (['\\', c], more)
      else ([byteChar (octalValue digits)], rest.drop digits.length)

/-- A text with its escapes read; `fuel` bounds the characters. -/
def unescapedText : (fuel : Nat) → List Char → List Char
  | 0, _ => []
  | _ + 1, [] => []
  | fuel + 1, '\\' :: rest =>
    let (shown, after) := textEscape rest
    shown ++ unescapedText fuel after
  | fuel + 1, c :: rest => c :: unescapedText fuel rest

/-- A text with its escapes read, as between quotes. -/
def unescaped (text : List Char) : List Char := unescapedText (text.length + 1) text

/-- The content of a text between quotes, what follows the closing one, and how many
lines it has; `fuel` bounds the characters. -/
def quotedText : (fuel : Nat) → List Char → Option (List Char × List Char × Nat)
  | 0, _ => none
  | _ + 1, [] => none
  | _ + 1, '\n' :: _ => none
  | _ + 1, '"' :: rest => some ([], rest, 0)
  | fuel + 1, '\\' :: '\n' :: rest =>
    (quotedText fuel rest).map fun (text, after, lines) => (text, after, lines + 1)
  | fuel + 1, '\\' :: rest =>
    let (shown, behind) := textEscape rest
    (quotedText fuel behind).map fun (text, after, lines) => (shown ++ text, after, lines)
  | fuel + 1, c :: rest =>
    (quotedText fuel rest).map fun (text, after, lines) => (c :: text, after, lines)

/-- An expression up to its closing slash; one between brackets does not close it. -/
def regexText : (fuel : Nat) → (inside : Bool) → List Char → Option (List Char × List Char)
  | 0, _, _ => none
  | _ + 1, _, [] => none
  | fuel + 1, inside, c :: rest =>
    let goOn (front : List Char) (inside : Bool) (rest : List Char) :
        Option (List Char × List Char) :=
      (regexText fuel inside rest).map fun (text, after) => (front ++ text, after)
    match c, rest with
    | '\n', _ => none
    | '\\', '/' :: more => goOn ['/'] inside more
    | '\\', d :: more => goOn ['\\', d] inside more
    | '/', _ => if inside then goOn ['/'] true rest else some ([], rest)
    | '[', ']' :: more => if inside then goOn [c] true rest else goOn ['[', ']'] true more
    | '[', '^' :: ']' :: more =>
      if inside then goOn [c] true rest else goOn ['[', '^', ']'] true more
    | '[', _ => goOn [c] true rest
    | ']', _ => goOn [c] false rest
    | _, _ => goOn [c] inside rest

def endsOperand : Option Token → Bool
  | some (.number _) => true
  | some (.text _) => true
  | some (.regex _) => true
  | some (.name _) => true
  | some (.keyword word) => word = "getline"
  | some (.symbol symbol) => [")", "]", "++", "--"].contains symbol
  | _ => false

def isWordStart (c : Char) : Bool := c.isAlpha || c = '_'

def isWordChar (c : Char) : Bool := c.isAlphanum || c = '_'

def wordToken (word : String) (isCall : Bool) : Token :=
  if keywords.contains word then .keyword word
  else if builtins.contains word then .builtin word
  else if isCall then .callee word
  else .name word

def runaway (text : List Char) : String := String.ofList (text.take 10) ++ " ..."

/-- The token at the start of a text that begins with no blank: the token, how it is
shown, what follows and how many more lines it has. -/
def tokenAt (line : Nat) (before : Option Token) (c : Char) (rest : List Char) :
    Lexeme × List Char × Nat :=
  let plain (token : Token) (shown : String) (more : List Char) : Lexeme × List Char × Nat :=
    (⟨token, line, shown⟩, more, 0)
  let failed (fault : ScriptFault) : Lexeme × List Char × Nat := (⟨.bad fault, line, ""⟩, [], 0)
  if c = '"' then
    match quotedText (rest.length + 1) rest with
    | some (content, more, lines) =>
      (⟨.text content, line, String.ofList content⟩, more, lines)
    | none => failed (.wrong line ("runaway string constant \"" ++
        runaway (rest.takeWhile (· ≠ '\n'))))
  else if c = '/' && !endsOperand before then
    match regexText (rest.length + 1) false rest with
    | some (source, more) => plain (.regex source) ("/" ++ String.ofList source ++ "/") more
    | none => failed (.wrong line ("runaway regular expression /" ++
        runaway (rest.takeWhile (· ≠ '\n'))))
  else if c.isDigit || (c = '.' && rest.head?.any Char.isDigit) then
    match decimalAt? false (c :: rest) with
    | some (value, more) =>
      let shown := (c :: rest).take (rest.length + 1 - more.length)
      plain (.number value) (String.ofList shown) more
    | none => failed (.unexpected line c)
  else if isWordStart c then
    let word := (c :: rest).takeWhile isWordChar
    let more := (c :: rest).drop word.length
    plain (wordToken (String.ofList word) (more.head? = some '(')) (String.ofList word) more
  else
    match symbols.find? fun symbol => symbol.toList.isPrefixOf (c :: rest) with
    | some symbol => plain (.symbol symbol) symbol ((c :: rest).drop symbol.length)
    | none => failed (.unexpected line c)

/-- The tokens of a script, in reverse; `fuel` bounds the characters. -/
def lexemesFrom : (fuel : Nat) → (line : Nat) → List Lexeme → List Char → List Lexeme
  | 0, _, done, _ => done
  | _ + 1, _, done, [] => done
  | fuel + 1, line, done, c :: rest =>
    if c = ' ' || c = '\t' || c = '\r' || c = '\x0b' || c = '\x0c' then
      lexemesFrom fuel line done rest
    else if c = '\n' then
      lexemesFrom fuel (line + 1) (⟨.newline, line, "end of line"⟩ :: done) rest
    else if c = '\\' then
      match rest with
      | '\n' :: more => lexemesFrom fuel (line + 1) done more
      | '\r' :: '\n' :: more => lexemesFrom fuel (line + 1) done more
      | _ => ⟨.bad (.unexpected line c), line, ""⟩ :: done
    else if c = '#' then lexemesFrom fuel line done (rest.dropWhile (· ≠ '\n'))
    else
      let (found, more, lines) := tokenAt line (done.head?.map (·.token)) c rest
      lexemesFrom fuel (line + lines) (found :: done) more

def lexemesOf (text : List Char) : List Lexeme :=
  (lexemesFrom (text.length + 1) 1 [] text).reverse

end Conformance.Tool.Records
