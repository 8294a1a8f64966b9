import Conformance.Settings

/-!
# Deadlines

A child is polled at regular intervals and stopped at the first poll that finds
its time used up.  After that, or after its own end, its output is collected until
a drain deadline, so that nobody who inherited the pipe can hold up the session.
Times are nanoseconds since the child was started.
-/

namespace Conformance

/-- The time between two polls. -/
def pollInterval : Nat := 10000000

/-- The time of the first poll. -/
def firstPoll : Nat := 1000

/-- How long output may stay open when the child is gone. -/
def drainGrace : Nat := 100000000

/-- The first poll at or after a time. -/
def nextPoll (time : Nat) : Nat :=
  firstPoll + (time - firstPoll + (pollInterval - 1)) / pollInterval * pollInterval

/-- The first instant, in nanoseconds, that a clock cannot show: it counts seconds
in 63 bits. -/
def instantBound : Nat := Nat.pow 2 63 * nanosPerSecond

/-- The instant a span after another one, if a clock can show it. -/
def instantAfter? (instant span : Nat) : Option Nat :=
  if instant + span < instantBound then some (instant + span) else none

/-- How waiting for a child ended. -/
inductive Ending where
  | exited (time : Nat) (code : Option Int)
  | stopped (time : Nat)
deriving DecidableEq, Repr

/-- When the collector gives up, for a child started at the instant `started`:
`none` inside if it never does, `none` outside if that instant cannot be shown. -/
def drainDeadline? (started : Nat) (limit : Option Nat) : Ending → Option (Option Nat)
  | .stopped time =>
    match limit with
    | none => some none
    | some _ => (instantAfter? (started + time) drainGrace).map fun i => some (i - started)
  | .exited time _ =>
    match limit with
    | none => some none
    | some span => do
      let whole ← instantAfter? started span
      let grace ← instantAfter? (started + nextPoll time) drainGrace
      return some (max whole grace - started)

end Conformance
