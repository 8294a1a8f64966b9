import Conformance.Diagnostic
import Conformance.Json
import Conformance.Report
import Conformance.Suite.Load

/-!
# The program

Loads the specification, prepares the directory for artifacts, runs the session
and writes the report if one is asked for.  The first of these that fails ends the
program.
-/

namespace Conformance

/-- A plain console without limits. -/
def Console.plain : Console := ⟨false, none⟩

/-- What a trace leaves on the console. -/
def consoleOutput (events : List Event) : Bytes :=
  events.flatMap fun event => match event with
    | .invoke _ => []
    | .notify notice => Console.plain.render notice

structure ProgramResult (σ : Type) where
  result : Except ProgramError Summary
  events : List Event
  world : World σ

/-- The status the program ends with. -/
def exitStatus : Except ProgramError Summary → Nat
  | .ok summary => if summary.isClean then 0 else 1
  | .error _ => 2

/-- The report of a summary as it is written to a file. -/
def reportText (summary : Summary) : String := summary.document ++ "\n"

/-- Writes the report if one is asked for. -/
def writeReport {σ : Type} (target : Option Path) (session : SessionResult σ) :
    ProgramResult σ :=
  let unwritten : ProgramResult σ := ⟨.ok session.summary, session.events, session.world⟩
  match target with
  | none => unwritten
  | some path =>
    match session.world.files.writeText path (reportText session.summary) with
    | .ok files => { unwritten with world := { session.world with files } }
    | .error cause => { unwritten with result := .error (.report path cause) }

/-- The whole program for arguments that were understood. -/
def runProgram {σ : Type} (invoker : Invoker σ) (arguments : Arguments) (world : World σ) :
    ProgramResult σ :=
  let settings := arguments.settings
  match loadSuite world.files settings.specPath with
  | .error cause => ⟨.error (.specification cause), [], world⟩
  | .ok suite =>
    let directory := settings.artifactDirectory
    match world.files.makeDirectories directory with
    | (some cause, files) =>
      ⟨.error (.outputDirectory directory cause), [], { world with files }⟩
    | (none, files) =>
      writeReport arguments.report
        (runSession invoker settings suite arguments.selector { world with files })

end Conformance
