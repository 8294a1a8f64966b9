import Conformance.Shell.Integer

/-!
# Escapes

A backslash in a text that is shown can stand for another character together with
what follows it.  All texts are raw.
-/

namespace Conformance.Shell

def isOctal (c : Char) : Bool := '0' ≤ c && c ≤ '7'

def octalValue (digits : List Char) : Nat :=
  digits.foldl (fun n c => n * 8 + (c.toNat - '0'.toNat)) 0

def byteChar (code : Nat) : Char := Char.ofNat (code % 256)

/-- The character that a single letter behind a backslash stands for. -/
def letterEscape? : Char → Option Char
  | 'a' => some '\x07'
  | 'b' => some '\x08'
  | 'f' => some '\x0c'
  | 'n' => some '\n'
  | 'r' => some '\r'
  | 't' => some '\t'
  | 'v' => some '\x0b'
  | '\\' => some '\\'
  | _ => none

/-- The character an escape stands for, read behind the backslash, and the rest.  An
unknown escape is the backslash itself. -/
def escapeAt (text : List Char) : Char × List Char :=
  match text with
  | 'e' :: rest => ('\x1b', rest)
  | c :: rest =>
    match letterEscape? c with
    | some shown => (shown, rest)
    | none =>
      let digits := (text.take 3).takeWhile isOctal
      if digits.isEmpty then ('\\', text)
      else (byteChar (octalValue digits), text.drop digits.length)
  | [] => ('\\', [])

/-- A text with its escapes replaced, and whether it asks to stop there. -/
def unescape : (fuel : Nat) → List Char → List Char × Bool
  | 0, _ => ([], false)
  | _ + 1, [] => ([], false)
  | fuel + 1, '\\' :: rest =>
    match rest with
    | 'c' :: _ => ([], true)
    | _ =>
      let behindZero := match rest with
        | '0' :: d :: more => if isOctal d then d :: more else rest
        | _ => rest
      let (c, after) := escapeAt behindZero
      let (text, stopped) := unescape fuel after
      (c :: text, stopped)
  | fuel + 1, c :: rest =>
    let (text, stopped) := unescape fuel rest
    (c :: text, stopped)

def unescapeText (text : String) : List Char × Bool := unescape (text.length + 1) text.toList

/-- Arguments joined by blanks, with their escapes replaced; a newline ends them unless
the first one is `-n`. -/
def echoText (arguments : List String) : List Char :=
  let (newline, words) := match arguments with
    | "-n" :: rest => (false, rest)
    | _ => (true, arguments)
  let (text, stopped) := unescapeText (String.intercalate " " words)
  text ++ (if newline && !stopped then ['\n'] else [])

/-- Arguments joined by blanks.  Letters in front of them tell whether escapes are
replaced and whether a newline is left out. -/
def echoPlainText (arguments : List String) : List Char :=
  let isFlag (word : String) : Bool := match word.toList with
    | '-' :: c :: rest => (c :: rest).all fun c => c = 'n' || c = 'e' || c = 'E'
    | _ => false
  let flags := (arguments.takeWhile isFlag).flatMap fun word => word.toList.drop 1
  let text := String.intercalate " " (arguments.dropWhile isFlag)
  let escapes := ((flags.filter (· ≠ 'n')).getLast?) = some 'e'
  let (shown, stopped) := if escapes then unescapeText text else (text.toList, false)
  shown ++ (if flags.contains 'n' || stopped then [] else ['\n'])

end Conformance.Shell
