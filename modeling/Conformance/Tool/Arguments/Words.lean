import Conformance.Tool.Basic

/-!
# Words of an input

How an input is cut into words: blanks part words, quotes and backslashes keep them
together, and a certain word can stand for the end of everything.
-/

namespace Conformance.Tool.Arguments

inductive WordMode where
  | gap
  | plain
  | quote (mark : Char)
  /-- Behind a backslash. -/
  | escape
deriving DecidableEq, Repr

/-- What is known of the line under way. -/
structure WordState where
  mode : WordMode
  /-- The word under way, backwards. -/
  current : List Char
  /-- Whether the line has no word so far. -/
  isFirst : Bool
  /-- Whether there is a word, be it an empty one. -/
  hasSeen : Bool
  previous : Option Char

namespace WordState

def start : WordState := ⟨.gap, [], true, false, none⟩

end WordState

/-- What is found in an input. -/
inductive WordEvent where
  | word (text : List Char)
  /-- A line is over; `counts` tells whether another one does not continue it. -/
  | line (counts : Bool)
  /-- The word that ends everything. -/
  | stop
  /-- A quote that is not closed. -/
  | unmatched (mark : Char)

/-- How words are cut. -/
structure WordRules where
  /-- Whether every line is one word. -/
  takesLines : Bool
  stopWord : Option String

namespace WordRules

/-- What goes before the first byte that is zero. -/
def visible (text : List Char) : List Char := text.takeWhile (· ≠ '\x00')

def isStop (rules : WordRules) (text : List Char) : Bool :=
  rules.stopWord = some (String.ofList (visible text))

def close (rules : WordRules) (state : WordState) : WordEvent :=
  let text := state.current.reverse
  if rules.isStop text then .stop else .word (visible text)

def step (rules : WordRules) (state : WordState) (c : Char) : WordState × List WordEvent :=
  let isBlank (c : Char) : Bool := c = ' ' || c = '\t'
  let now := { state with previous := some c }
  let add : WordState × List WordEvent := ({ now with current := c :: state.current }, [])
  match state.mode with
  | .escape => ({ now with mode := .plain, current := c :: state.current }, [])
  | .quote mark =>
    if c = '\n' then (now, [.unmatched mark])
    else if c = mark then ({ now with mode := .plain, hasSeen := true }, [])
    else add
  | _ =>
    if state.mode = .gap && (isBlank c || ('\n' ≤ c && c ≤ '\r')) then (now, [])
    else
      let now := { now with mode := .plain }
      if c = '\n' then
        let counts := !(state.previous.map isBlank).getD false
        if state.current.isEmpty && !state.hasSeen then ({ now with mode := .gap }, [])
        else (.start, [rules.close state, .line counts])
      else if !rules.takesLines && isBlank c then
        ({ now with mode := .gap, current := [], isFirst := false, hasSeen := true },
          [rules.close state])
      else
        let now := { now with hasSeen := true }
        if c = '\\' then ({ now with mode := .escape }, [])
        else if c = '\'' || c = '"' then ({ now with mode := .quote c }, [])
        else ({ now with current := c :: state.current }, [])

/-- What the end of the input completes. -/
def finish (rules : WordRules) (state : WordState) : List WordEvent :=
  if state.current.isEmpty then []
  else match state.mode with
    | .quote mark => [.unmatched mark]
    | _ =>
      let text := state.current.reverse
      if state.isFirst && rules.isStop text then [.stop] else [.word (visible text), .line false]

def run (rules : WordRules) (state : WordState) (text : List Char) :
    WordState × List WordEvent :=
  let (state, found) := text.foldl (fun (state, found) c =>
    let (state, events) := rules.step state c
    (state, events.reverse ++ found)) (state, ([] : List WordEvent))
  (state, found.reverse)

end WordRules

end Conformance.Tool.Arguments
