import Conformance.Tally

/-!
# Summaries as JSON

Documents are laid out with two blanks per level and one entry per line; empty
arrays and objects take no lines.  Only quotes, backslashes and control
characters are escaped.
-/

namespace Conformance

inductive Json where
  | null
  | bool (value : Bool)
  | number (value : Nat)
  | string (value : String)
  | array (items : List Json)
  | object (fields : List (String × Json))

namespace Json

/-- Two hexadecimal digits. -/
def hexPair (n : Nat) : List Char :=
  [Nat.digitChar (n / 16), Nat.digitChar (n % 16)]

def escapeChar (c : Char) : List Char :=
  if c = '"' then ['\\', '"']
  else if c = '\\' then ['\\', '\\']
  else if c = '\x08' then ['\\', 'b']
  else if c = '\t' then ['\\', 't']
  else if c = '\n' then ['\\', 'n']
  else if c = '\x0c' then ['\\', 'f']
  else if c = '\r' then ['\\', 'r']
  else if c.toNat < 0x20 then '\\' :: 'u' :: '0' :: '0' :: hexPair c.toNat
  else [c]

/-- A string between quotes. -/
def stringText (text : String) : String :=
  String.ofList ('"' :: (text.toList.flatMap escapeChar ++ ['"']))

def indent (level : Nat) : String := String.ofList (List.replicate (2 * level) ' ')

/-- Entries between brackets, one per line. -/
def block (opening closing : String) (level : Nat) (entries : List String) : String :=
  if entries.isEmpty then opening ++ closing
  else
    opening ++ "\n" ++
      String.intercalate ",\n" (entries.map fun entry => indent (level + 1) ++ entry) ++
      "\n" ++ indent level ++ closing

mutual

/-- The text of a document whose first line stands at the given level. -/
def render (level : Nat) : Json → String
  | .null => "null"
  | .bool true => "true"
  | .bool false => "false"
  | .number value => toString value
  | .string value => stringText value
  | .array items => block "[" "]" level (renderItems (level + 1) items)
  | .object fields => block "\x7b" "\x7d" level (renderFields (level + 1) fields)

def renderItems (level : Nat) : List Json → List String
  | [] => []
  | item :: rest => render level item :: renderItems level rest

def renderFields (level : Nat) : List (String × Json) → List String
  | [] => []
  | (key, value) :: rest =>
    (stringText key ++ ": " ++ render level value) :: renderFields level rest

end

def ofGroupSummary (group : GroupSummary) : Json :=
  .object [("name", .string group.name), ("cases_run", .number group.tally.run),
    ("cases_passed", .number group.tally.passed), ("panicked", .bool group.panicked)]

def ofSummary (summary : Summary) : Json :=
  .object [("groups", .array (summary.groups.map ofGroupSummary)),
    ("deselected", .number summary.deselected),
    ("not_reached", .number summary.notReached),
    ("aborted_by", match summary.abortedBy with | some name => .string name | none => .null)]

end Json

/-- The summary as a document, without a final newline. -/
def Summary.document (summary : Summary) : String := (Json.ofSummary summary).render 0

end Conformance
