import Conformance.Session

/-!
# Console report

A notice is rendered as a list of strokes: text, changes of color, resets.  A
console performs strokes until its writer accepts no more text, abandons the
rest, and always ends with a reset.
-/

namespace Conformance

inductive Color where
  | red
  | green
deriving DecidableEq, Repr

inductive Stroke where
  | text (content : String)
  | paint (bold : Bool) (color : Option Color)
  | reset
deriving DecidableEq, Repr

/-- A text and the end of its line. -/
def Stroke.line (content : String) : Stroke := .text (content ++ "\n")

def doubleRule : String := "======================================================="

def singleRule : String := " --------------------------------------------------"

/-- Drops trailing characters that satisfy a test. -/
def dropTrailingWhile (test : Char → Bool) (text : List Char) : List Char :=
  (text.reverse.dropWhile test).reverse

/-- A fraction as a percentage with at most two decimals. -/
def percent (fraction : Binary64) : String :=
  let digits := (fixedPlaces 2 (.mul fraction .hundred)).toList
  String.ofList (dropTrailingWhile (· = '.') (dropTrailingWhile (· = '0') digits))

def inQuotes (text : String) : String := "\"" ++ text ++ "\""

def DiffLine.strokes : DiffLine → List Stroke
  | .same text => [.line ("        " ++ text)]
  | .expected text => [.paint false (some .green), .line ("      - expected: " ++ text), .reset]
  | .actual text => [.paint false (some .red), .line ("      + actual:   " ++ text), .reset]

def Failure.strokes (failure : Failure) : List Stroke :=
  let contrast := match failure.expected, failure.actual with
    | some expected, some actual =>
      [.line ("     Expected: " ++ expected ++ "  =>  Actual: " ++ actual)]
    | _, _ => []
  let observed := match failure.observedFile with
    | some path => [.line ("    See file " ++ path.text ++ " for actual output")]
    | none => []
  [.paint false (some .red), .line ("    " ++ failure.message), .reset] ++
    contrast ++ observed ++ failure.diff.flatMap DiffLine.strokes ++
    failure.transcript.map (fun line => Stroke.line ("    | " ++ line)) ++
    [.line singleRule]

def Decision.strokes : Decision → List Stroke
  | .proceed => []
  | .abort tolerance failureRate =>
    [.paint true (some .red),
      .line ("   Panic: " ++ percent (.sub .one tolerance) ++
        "% of tests must pass out of this group"),
      .line ("     Stopping due to " ++ percent failureRate ++ "% test failure rate"),
      .reset]

def Tally.strokes (tally : Tally) : List Stroke :=
  if tally.run = 0 then [.line "   No checks were run"]
  else
    [.paint false (some (if tally.failed = 0 then .green else .red)),
      .line ("   " ++ toString tally.failed ++ " cases out of " ++ toString tally.run ++
        " possible failed | " ++ toString tally.passed ++ " passed"),
      .reset]

def Summary.strokes (summary : Summary) : List Stroke :=
  let closing := match summary.abortedBy with
    | some group => [.line ("   Aborted after group " ++ inQuotes (capitalize group))]
    | none => []
  [.paint true none, .text "Summary:", .reset,
    .line (" " ++ toString summary.groups.length ++ " groups run, " ++
      toString summary.deselected ++ " deselected, " ++
      toString summary.notReached ++ " not reached"),
    .paint false (some (if summary.isClean then .green else .red)),
    .line ("   " ++ toString summary.checksRun ++ " checks, " ++
      toString summary.checksFailed ++ " failed, " ++
      toString summary.checksPassed ++ " passed"),
    .reset] ++ closing

/-- How a notice is drawn; a check that passed is not drawn at all. -/
def Notice.strokes? : Notice → Option (List Stroke)
  | .groupStarted group =>
    some [.paint true none, .line ("Running Test Group " ++ inQuotes (capitalize group.name)),
      .reset, .line ("  - Testing " ++ group.description), .line doubleRule]
  | .compilationStarted run => some [.line ("Compilation: " ++ run.executable)]
  | .checkFailed run ordinal command check =>
    check.failure.map fun failure =>
      .line (" [" ++ toString run ++ ":" ++ toString ordinal ++ "]: " ++ command) ::
        failure.strokes
  | .groupFinished group tally decision =>
    some (.line ("  - Report for Test Group " ++ inQuotes (capitalize group.name)) ::
      tally.strokes ++ decision.strokes ++ [.line doubleRule, .line "", .line ""])
  | .sessionFinished summary => some summary.strokes

/-- Where a report goes: with or without color sequences, and how many bytes of
text the writer accepts per notice. -/
structure Console where
  ansi : Bool
  limit : Option Nat

namespace Console

def Color.code : Color → String
  | .red => "\x1b[31m"
  | .green => "\x1b[32m"

def resetCode : String := "\x1b[0m"

/-- The bytes of a color sequence; a change of color starts with a reset. -/
def sequence (console : Console) (text : String) : Bytes :=
  if console.ansi then bytesOfText text else []

def paintCode (bold : Bool) (color : Option Color) : String :=
  resetCode ++ (if bold then "\x1b[1m" else "") ++
    (match color with | some c => Color.code c | none => "")

/-- Performs strokes with a budget of text bytes, and resets at the end. -/
def perform (console : Console) : Option Nat → List Stroke → Bytes
  | _, [] => console.sequence resetCode
  | budget, .paint bold color :: rest =>
    console.sequence (paintCode bold color) ++ perform console budget rest
  | budget, .reset :: rest => console.sequence resetCode ++ perform console budget rest
  | none, .text content :: rest => bytesOfText content ++ perform console none rest
  | some budget, .text content :: rest =>
    let bytes := bytesOfText content
    if bytes.length ≤ budget then bytes ++ perform console (some (budget - bytes.length)) rest
    else bytes.take budget ++ console.sequence resetCode

/-- The bytes a notice puts on the console. -/
def render (console : Console) (notice : Notice) : Bytes :=
  match notice.strokes? with
  | some strokes => console.perform console.limit strokes
  | none => []

end Console

end Conformance
