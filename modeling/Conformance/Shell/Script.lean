/-!
# Scripts

The commands of a shell script.  A word is a list of parts; what stands inside of an
expansion is read together with the word.  The text that a redirection takes from the
lines behind it is known by a number only, since it is read after the command.
-/

namespace Conformance.Shell

/-- Which part of a value a pattern must fit to be replaced. -/
inductive Anchor where
  | anywhere
  | front
  | finish
deriving DecidableEq, Repr

inductive Transfer where
  | input
  | output
  /-- Output that replaces a file even where files are kept safe. -/
  | overwrite
  | append
  | readWrite
  /-- Makes one descriptor mean what another one means. -/
  | duplicate
  /-- The text with a number is the input. -/
  | document (number : Nat)
  /-- The word itself is the input. -/
  | line
  /-- Output and errors to one file. -/
  | both (append : Bool)
deriving DecidableEq, Repr

mutual

inductive Part where
  | text (content : String) (quoted : Bool)
  | parameter (name : String) (index : Option (List Part)) (use : Use) (quoted : Bool)
  | command (body : Option Command) (quoted : Bool)
  | arithmetic (content : List Part) (quoted : Bool)
  /-- The name of a pipe from or to a command. -/
  | channel (isInput : Bool) (body : Option Command)

/-- How a parameter is used.  `orEmpty` tells whether an empty value counts as none. -/
inductive Use where
  | value
  | length
  | invalid
  | fallback (orEmpty : Bool) (word : List Part)
  | assign (orEmpty : Bool) (word : List Part)
  | demand (orEmpty : Bool) (word : List Part)
  | alternative (orEmpty : Bool) (word : List Part)
  | trim (atEnd longest : Bool) (pattern : List Part)
  | slice (start : List Part) (length : Option (List Part))
  | replace (all : Bool) (anchor : Anchor) (pattern replacement : List Part)
  | recase (upper all : Bool) (pattern : List Part)
  | transform (letter : Char)
  /-- The value of the parameter whose name is the value. -/
  | indirect (use : Use)
  /-- The names of the parameters that begin with the name. -/
  | names
  /-- The keys of an array. -/
  | keys

inductive Redirection where
  | mk (descriptor : Nat) (transfer : Transfer) (target : List Part)

inductive Assignment where
  | mk (name : String) (index : Option (List Part)) (appends : Bool) (value : AssignedValue)

inductive AssignedValue where
  | word (content : List Part)
  | items (content : List (Option (List Part) × List Part))

/-- Conditions between double brackets. -/
inductive Condition where
  | word (content : List Part)
  | unary (operator : String) (operand : List Part)
  | binary (operator : String) (left right : List Part)
  | negate (body : Condition)
  | both (left right : Condition)
  | either (left right : Condition)

inductive Branch where
  /-- `goesOn` tells whether the next branch runs too, `tries` whether the next patterns
  are tried too. -/
  | mk (patterns : List (List Part)) (body : Option Command) (goesOn tries : Bool)

/-- Commands.  A `line` is the line that messages show. -/
inductive Command where
  | simple (line : Nat) (assignments : List Assignment) (words : List (List Part))
      (redirections : List Redirection)
  | pipe (stages : List (Option Command)) (inBackground : Bool)
  | negate (body : Option Command)
  | both (first second : Option Command)
  | either (first second : Option Command)
  | sequence (first second : Option Command)
  | background (line : Nat) (body : Option Command) (redirections : List Redirection)
  | subshell (line : Nat) (body : Option Command) (redirections : List Redirection)
  | redirected (line : Nat) (body : Option Command) (redirections : List Redirection)
  | branch (test body otherwise : Option Command)
  /-- Repeats `body` as long as `test` succeeds, or fails if `inverted`. -/
  | repeated (inverted : Bool) (test body : Option Command)
  | forEach (line : Nat) (name : String) (items : List (List Part)) (body : Option Command)
  | choose (line : Nat) (subject : List Part) (branches : List Branch)
  | define (line : Nat) (name : String) (body : Option Command)
  /-- An expression whose value is the status. -/
  | evaluate (line : Nat) (expression : List Part)
  | condition (line : Nat) (content : Condition)
  | count (line : Nat) (first test step : List Part) (body : Option Command)

end

instance : Inhabited Command := ⟨.simple 0 [] [] []⟩

def Command.isSingle : Command → Bool
  | .simple .. | .subshell .. | .evaluate .. | .condition .. => true
  | _ => false

abbrev Word := List Part

def Redirection.descriptor : Redirection → Nat
  | .mk descriptor _ _ => descriptor

def Redirection.transfer : Redirection → Transfer
  | .mk _ transfer _ => transfer

def Redirection.target : Redirection → Word
  | .mk _ _ target => target

/-- The text of a word that is written without quotes and expansions. -/
def bare? : Word → Option String
  | [.text content false] => some content
  | _ => none

end Conformance.Shell
