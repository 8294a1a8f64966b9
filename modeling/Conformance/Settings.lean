import Conformance.FileTree
import Conformance.Number.Binary64

/-!
# Settings of a session

Every path but the assembly artifact is seen from the base directory; the
assembly artifact is what the compiler leaves in the working directory.
-/

namespace Conformance

structure Settings where
  base : Path
  specFile : Path
  outDirectory : Path
  compiler : Path
  assembly : Path
  /-- The longest a child may run, in nanoseconds. -/
  timeout : Option Nat
deriving DecidableEq, Repr

namespace Settings

def default : Settings := ⟨⟨"_test"⟩, ⟨"tests.yaml"⟩, ⟨"tmp"⟩, ⟨"speroc"⟩, ⟨"out.s"⟩, none⟩

def resolve (settings : Settings) (p : Path) : Path := settings.base.join p

def specPath (settings : Settings) : Path := settings.resolve settings.specFile

def artifactDirectory (settings : Settings) : Path := settings.resolve settings.outDirectory

def artifactPath (settings : Settings) (executable : String) : Path :=
  settings.artifactDirectory.join ⟨executable⟩

def compilerPath (settings : Settings) : Path := settings.resolve settings.compiler

end Settings

/-- Where the actual output is kept beside an expected output. -/
def observedPath (expected : Path) : Path := ⟨expected.text ++ ".observed"⟩

/-- How many nanoseconds make a second. -/
def nanosPerSecond : Nat := 1000000000

/-- A duration in seconds: whole seconds plus the rest, each rounded. -/
def secondsOfNanos (nanos : Nat) : Binary64 :=
  .add (.ofNat (nanos / nanosPerSecond))
    (.div (.ofNat (nanos % nanosPerSecond)) (.ofNat nanosPerSecond))

/-- The nearest number of nanoseconds of a duration that is neither negative nor
reaches `2 ^ 64` seconds. -/
def nanosOfSeconds? : Binary64 → Option Nat
  | .finite negative units =>
    if negative && units ≠ 0 then none
    else if Nat.pow 2 64 * Binary64.unitsPerOne ≤ units then none
    else
      let nanos := roundHalfEven (units * nanosPerSecond) Binary64.unitsPerOne
      if nanos < Nat.pow 2 64 * nanosPerSecond then some nanos else none
  | _ => none

end Conformance
