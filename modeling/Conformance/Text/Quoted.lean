import Conformance.Text.CharacterTable

/-!
# Quoted text in messages

A quoted text stands between double quotes.  Quotes, backslashes and the usual
control characters are written with a backslash, characters that combine with
the one before them or have no shape of their own by their code.
-/

namespace Conformance

/-- A character written by its code. -/
def escapedCode (c : Char) : List Char :=
  "\\u\x7b".toList ++ Nat.toDigits 16 c.toNat ++ ['\x7d']

def quotedChar (c : Char) : List Char :=
  if c = '"' then ['\\', '"']
  else if c = '\\' then ['\\', '\\']
  else if c = '\n' then ['\\', 'n']
  else if c = '\r' then ['\\', 'r']
  else if c = '\t' then ['\\', 't']
  else if c = '\x00' then ['\\', '0']
  else if inRuns combiningRuns c || inRuns invisibleRuns c then escapedCode c
  else [c]

/-- A text between quotes. -/
def quoted (text : String) : String :=
  String.ofList ('"' :: (text.toList.flatMap quotedChar ++ ['"']))

end Conformance
