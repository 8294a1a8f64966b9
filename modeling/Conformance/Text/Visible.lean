/-!
# Text without terminal controls

Messages repeat what the user typed, which may hold sequences that steer a
terminal.  `visible` keeps what would be seen: characters with a shape, tabs and
line ends.  A sequence that is interrupted by a tab or a line end is over there,
and what was left of it is seen.  A character beyond ASCII is no part of any
sequence and is dropped within one; but a byte of it may end a text for the
terminal itself.
-/

namespace Conformance

/-- Where a reader of terminal controls stands. -/
inductive ControlState where
  /-- Outside of every sequence. -/
  | plain
  /-- Behind an escape character. -/
  | escape
  /-- Behind an escape character and a mark that asks for one more character. -/
  | marked
  /-- Within a sequence of parameters, up to its final letter. -/
  | parameters
  /-- In front of the parameters of a text for the terminal itself. -/
  | header
  /-- Among these parameters. -/
  | headerValue
  /-- Behind a mark that follows these parameters. -/
  | headerMark
  /-- Within a text for the terminal itself. -/
  | payload
  /-- Within a text that a bell may end. -/
  | title
deriving DecidableEq, Repr

/-- Tabs, line ends and page ends. -/
def isLayoutChar (c : Char) : Bool := c = '\t' || c = '\n' || c = '\x0c' || c = '\r'

/-- Whether a character outside of sequences is seen. -/
def isVisibleChar (c : Char) : Bool := isLayoutChar c || (' ' ≤ c && c ≠ '\x7f')

namespace ControlState

/-- Whether a tab or a line end interrupts the sequence. -/
def isInterruptible : ControlState → Bool
  | .escape | .marked | .parameters => true
  | _ => false

/-- The byte that ends a text for the terminal. -/
def terminator : UInt8 := 0x9C

/-- The state behind an ASCII character of the sequence. -/
def follow : ControlState → Char → ControlState
  | .plain, _ => .plain
  | .escape, c =>
    if c < ' ' || c = '\x7f' then .escape
    else if c ≤ '/' then .marked
    else if c = '[' then .parameters
    else if c = ']' then .title
    else if c = 'P' then .header
    else if c = 'X' || c = '^' || c = '_' then .payload
    else .plain
  | .marked, c => if c ≤ '/' || c = '\x7f' then .marked else .plain
  | .parameters, c => if c ≤ '?' || c = '\x7f' then .parameters else .plain
  | .header, c =>
    if c < ' ' || c = '\x7f' then .header
    else if c ≤ '/' then .headerMark
    else if c ≤ '?' && c ≠ ':' then .headerValue
    else .payload
  | .headerValue, c =>
    if c < ' ' || c = '\x7f' then .headerValue
    else if c ≤ '/' then .headerMark
    else if c ≤ '9' || c = ';' then .headerValue
    else .payload
  | .headerMark, c => if c ≤ '/' || c = '\x7f' then .headerMark else .payload
  | .payload, _ => .payload
  | .title, c => if c = '\x07' then .plain else .title

/-- The state behind a character beyond ASCII. -/
def followBeyond (state : ControlState) (c : Char) : ControlState :=
  if state = .payload && (String.utf8EncodeChar c).contains terminator then .plain else state

/-- Reads one character: the state behind it and what is seen of it. -/
def step (state : ControlState) (c : Char) : ControlState × List Char :=
  if c = '\x1b' then (.escape, [])
  else if c = '\x18' || c = '\x1a' then (.plain, [])
  else if state = .plain then (.plain, if isVisibleChar c then [c] else [])
  else if '\x7f' < c then (state.followBeyond c, [])
  else if isLayoutChar c && state.isInterruptible then (.plain, [c])
  else (state.follow c, [])

/-- What is seen of a text from a state on. -/
def run : ControlState → List Char → List Char
  | _, [] => []
  | state, c :: rest =>
    let (next, seen) := state.step c
    seen ++ run next rest

end ControlState

/-- What is seen of a text. -/
def visible (text : String) : String := String.ofList (ControlState.plain.run text.toList)

end Conformance
