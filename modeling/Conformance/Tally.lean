import Conformance.Check
import Conformance.Number.Binary64

/-!
# Tallies, the decision to go on, and summaries

A tally counts the checks of a group.  Its failure rate is what is left of one
after the fraction of passed checks, both rounded; the session stops when that
rate exceeds the group's threshold.
-/

namespace Conformance

structure Tally where
  run : Nat
  passed : Nat
deriving DecidableEq, Repr

namespace Tally

def empty : Tally := ⟨0, 0⟩

def record (tally : Tally) (check : Check) : Tally :=
  ⟨tally.run + 1, if check.passed then tally.passed + 1 else tally.passed⟩

def recordAll (tally : Tally) (checks : List Check) : Tally := checks.foldl record tally

def failed (tally : Tally) : Nat := tally.run - tally.passed

/-- The fraction of checks that passed, one if there were none. -/
def passFraction (tally : Tally) : Binary64 :=
  if tally.run = 0 then .one else .div (.ofNat tally.passed) (.ofNat tally.run)

def failureFraction (tally : Tally) : Binary64 := .sub .one tally.passFraction

end Tally

/-- Whether the session goes on after a group. -/
inductive Decision where
  | proceed
  | abort (tolerance failureRate : Binary64)
deriving DecidableEq, Repr

namespace Decision

def isAbort : Decision → Bool
  | .proceed => false
  | .abort _ _ => true

/-- Stops exactly when the failure rate exceeds the threshold. -/
def evaluate (threshold : Binary64) (tally : Tally) : Decision :=
  if Binary64.lt threshold tally.failureFraction then .abort threshold tally.failureFraction
  else .proceed

end Decision

structure GroupSummary where
  name : String
  tally : Tally
  panicked : Bool
deriving DecidableEq, Repr

structure Summary where
  groups : List GroupSummary
  deselected : Nat
  notReached : Nat
  abortedBy : Option String
deriving DecidableEq, Repr

namespace Summary

def empty : Summary := ⟨[], 0, 0, none⟩

def checksRun (summary : Summary) : Nat := (summary.groups.map (·.tally.run)).foldr (· + ·) 0

def checksPassed (summary : Summary) : Nat := (summary.groups.map (·.tally.passed)).foldr (· + ·) 0

def checksFailed (summary : Summary) : Nat := summary.checksRun - summary.checksPassed

def aborted (summary : Summary) : Bool := summary.abortedBy.isSome

/-- Nothing failed and nothing stopped the session. -/
def isClean (summary : Summary) : Bool := !summary.aborted && summary.checksFailed = 0

end Summary

end Conformance
