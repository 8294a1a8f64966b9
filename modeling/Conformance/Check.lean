import Conformance.Path

/-!
# Checks

A check is one verdict: a kind, and what went wrong if it failed.
-/

namespace Conformance

inductive CheckKind where
  | compile
  | assembly
  | returnCode
  | output
  | metric
deriving DecidableEq, Repr

def CheckKind.label : CheckKind → String
  | .compile => "compile"
  | .assembly => "assembly"
  | .returnCode => "return code"
  | .output => "output"
  | .metric => "success metric"

/-- A line of a comparison of expected with actual output. -/
inductive DiffLine where
  | same (text : String)
  | expected (text : String)
  | actual (text : String)
deriving DecidableEq, Repr

structure Failure where
  message : String
  expected : Option String
  actual : Option String
  observedFile : Option Path
  diff : List DiffLine
  transcript : List String
deriving DecidableEq, Repr

/-- A failure of which only the message is known. -/
def Failure.plain (message : String) : Failure := ⟨message, none, none, none, [], []⟩

/-- A failure with the two values that differ. -/
def Failure.contrast (message expected actual : String) : Failure :=
  ⟨message, some expected, some actual, none, [], []⟩

structure Check where
  kind : CheckKind
  failure : Option Failure
deriving DecidableEq, Repr

namespace Check

def pass (kind : CheckKind) : Check := ⟨kind, none⟩

def fail (kind : CheckKind) (failure : Failure) : Check := ⟨kind, some failure⟩

def passed (check : Check) : Bool := check.failure.isNone

end Check

/-- What a stage did, for display, and its verdicts in order. -/
structure StageReport where
  command : String
  checks : List Check
deriving DecidableEq, Repr

end Conformance
