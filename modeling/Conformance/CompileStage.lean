import Conformance.Check
import Conformance.Invocation
import Conformance.Number.Decimal
import Conformance.Settings
import Conformance.Suite

/-!
# Compile stage

The compiler is invoked once.  The outcome is classified into one compile check,
followed by an assembly check if the compilation was clean and assembly is
expected.  Whatever happened, the assembly artifact is removed afterwards.
-/

namespace Conformance

/-- What is said when a child ran too long. -/
def timeoutMessage (what : String) (timeout : Option Nat) : String :=
  match timeout with
  | some limit => what ++ " timed out after " ++ fixedPlaces 1 (secondsOfNanos limit) ++ "s"
  | none => what ++ " timed out"

/-- Asks the compiler to keep its intermediate files. -/
def keepFlag : String := "--nodel"

def compileInvocation (settings : Settings) (run : TestRun) (compilation : Compilation) :
    Invocation where
  program := settings.compilerPath
  arguments :=
    compilation.sources.map (fun source => (settings.resolve source).text) ++
      ["-o", (settings.artifactPath run.executable).text, keepFlag] ++ compilation.options

/-- The compiler call as it is shown: names instead of resolved paths. -/
def compileCommand (settings : Settings) (run : TestRun) (compilation : Compilation) : String :=
  let compiler := settings.compiler.fileName?.getD settings.compiler.text
  String.intercalate " "
    (compiler :: compilation.sources.map Path.text ++
      ["-o", run.executable, keepFlag] ++ compilation.options)

/-- Compares expected with emitted assembly byte for byte. -/
def compareAssembly (files : FileTree) (expected emitted : Path) : Check :=
  match files.read expected with
  | .error cause =>
    .fail .assembly (.plain
      ("Cannot read expected assembly " ++ expected.text ++ ": " ++ cause.message))
  | .ok wanted =>
    match files.read emitted with
    | .ok bytes =>
      if bytes = wanted then .pass .assembly
      else .fail .assembly (.contrast "Emitted assembly does not match expected assembly"
        expected.text emitted.text)
    | .error cause =>
      .fail .assembly (.plain
        ("Compiler did not leave assembly at " ++ emitted.text ++ ": " ++ cause.message))

/-- Removes the file if it is there and can be removed. -/
def discard (files : FileTree) (p : Path) : FileTree :=
  match files.remove p with
  | .ok cleaned => cleaned
  | .error _ => files

/-- The checks of a compilation that ended by itself, and whether the executable
may be run. -/
def classifyCompilation (settings : Settings) (compilation : Compilation) (files : FileTree)
    (outcome : Outcome) : List Check × Bool :=
  match decide (outcome.exitCode = some 0), compilation.expectFailure with
  | false, false =>
    ([.fail .compile { Failure.plain
        ("Compilation failed with errorstatus " ++ outcome.describe) with
        transcript := outcome.stdout }], false)
  | false, true => ([.pass .compile], false)
  | true, true =>
    ([.fail .compile (.plain "Compilation succeeded when it should have failed")], false)
  | true, false =>
    let assembly := match compilation.expectedAssembly with
      | some expected => [compareAssembly files (settings.resolve expected) settings.assembly]
      | none => []
    (.pass .compile :: assembly, true)

/-- The checks that follow from the answer to the compiler's invocation. -/
def compileChecks (settings : Settings) (compilation : Compilation) (files : FileTree) :
    Reply → List Check × Bool
  | .error cause =>
    ([.fail .compile (.plain ("Could not run the compiler: " ++ cause.message))], false)
  | .ok outcome =>
    if outcome.timedOut then
      ([.fail .compile (.plain (timeoutMessage "Compilation" settings.timeout))], false)
    else classifyCompilation settings compilation files outcome

structure CompileResult where
  invocation : Invocation
  report : StageReport
  /-- Whether the cases of the run may execute the artifact. -/
  ready : Bool

def compileRun {σ : Type} (invoker : Invoker σ) (settings : Settings) (run : TestRun)
    (compilation : Compilation) (world : World σ) : CompileResult × World σ :=
  let invocation := compileInvocation settings run compilation
  let (reply, after) := invoker.invoke invocation world
  let (checks, ready) := compileChecks settings compilation after.files reply
  (⟨invocation, ⟨compileCommand settings run compilation, checks⟩, ready⟩,
    { after with files := discard after.files settings.assembly })

end Conformance
