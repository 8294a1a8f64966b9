import Conformance.Shell.Integer

/-!
# Signals

Signals by name and number.
-/

namespace Conformance.Shell

/-- The names of the signals in the order of their numbers; the first one stands for
the end of a shell. -/
def signalNames : List String :=
  ["EXIT", "HUP", "INT", "QUIT", "ILL", "TRAP", "ABRT", "BUS", "FPE", "KILL", "USR1", "SEGV",
    "USR2", "PIPE", "ALRM", "TERM", "STKFLT", "CHLD", "CONT", "STOP", "TSTP", "TTIN", "TTOU",
    "URG", "XCPU", "XFSZ", "VTALRM", "PROF", "WINCH", "POLL", "PWR", "SYS"]

def lastSignal : Nat := 64

def signalName (number : Nat) : String := signalNames.getD number (toString number)

/-- The number of a signal that is given by name, in any case of letters. -/
def signalNamed? (name : String) : Option Nat :=
  let upper := String.ofList (name.toList.map Char.toUpper)
  let place := signalNames.findIdx (· = upper)
  if place < signalNames.length then some place else none

/-- The number of a signal that is given by number or name. -/
def signal? (text : String) : Option Nat :=
  if !text.isEmpty && text.toList.all Char.isDigit then
    (digitsAt 10 text.toList).1.bind fun n => if n ≤ lastSignal then some n else none
  else signalNamed? text

end Conformance.Shell
