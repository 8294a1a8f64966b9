import Conformance.CompileStage
import Conformance.LineDiff
import Conformance.Text.Lines

/-!
# Execution stage

A case invokes the run's artifact once and yields one check per expectation: the
return code first, then the output.  Output that should have matched and did not
is kept beside the expected file.
-/

namespace Conformance

def caseCommand (run : TestRun) (case : TestCase) : String :=
  String.intercalate " " (run.executable :: case.arguments)

/-- The same failure for every expectation. -/
def failEvery (case : TestCase) (message : String) : List Check :=
  (if case.expectedCode.isSome then [Check.fail .returnCode (.plain message)] else []) ++
    (if case.expectedOutput.isSome then [Check.fail .output (.plain message)] else [])

def checkReturnCode (expected : Int) (expectFailure : Bool) (outcome : Outcome) : Check :=
  match decide (outcome.exitCode = some expected), expectFailure with
  | true, false => .pass .returnCode
  | false, true => .pass .returnCode
  | false, false =>
    .fail .returnCode (.contrast "Execution failed with incorrect return value"
      (toString expected) outcome.describe)
  | true, true =>
    .fail .returnCode (.contrast "Execution succeeded when it should have failed"
      (toString expected) outcome.describe)

/-- Keeps captured output beside the expected file; tells where if it worked. -/
def writeObserved (files : FileTree) (expected : Path) (captured : List String) :
    Option Path × FileTree :=
  match files.writeText (observedPath expected) (dumpLines captured) with
  | .ok written => (some (observedPath expected), written)
  | .error _ => (none, files)

def checkOutput (files : FileTree) (expected : Path) (expectFailure : Bool) (outcome : Outcome) :
    Check × FileTree :=
  match files.readText expected with
  | .error cause =>
    (.fail .output (.plain
      ("Cannot read expected output " ++ expected.text ++ ": " ++ cause.message)), files)
  | .ok text =>
    let lines := textLines text
    match prefixMatches lines outcome.stdout, expectFailure with
    | true, false => (.pass .output, files)
    | false, true => (.pass .output, files)
    | true, true =>
      (.fail .output (.plain "Execution matched expected output when it should have failed"),
        files)
    | false, false =>
      let (observed, written) := writeObserved files expected outcome.stdout
      (.fail .output { Failure.plain "Execution failed to match expected output" with
        diff := lineDiff lines outcome.stdout
        observedFile := observed }, written)

/-- The checks of an execution that ended by itself. -/
def judgeOutcome (settings : Settings) (case : TestCase) (files : FileTree) (outcome : Outcome) :
    List Check × FileTree :=
  let codeChecks := match case.expectedCode with
    | some expected => [checkReturnCode expected case.expectFailure outcome]
    | none => []
  match case.expectedOutput with
  | some expected =>
    let (check, after) := checkOutput files (settings.resolve expected) case.expectFailure outcome
    (codeChecks ++ [check], after)
  | none => (codeChecks, files)

/-- The checks that follow from the answer to the artifact's invocation. -/
def executeChecks (settings : Settings) (run : TestRun) (case : TestCase) (files : FileTree) :
    Reply → List Check × FileTree
  | .error cause =>
    (failEvery case ("Could not run " ++ run.executable ++ ": " ++ cause.message), files)
  | .ok outcome =>
    if outcome.timedOut then (failEvery case (timeoutMessage "Execution" settings.timeout), files)
    else judgeOutcome settings case files outcome

structure ExecuteResult where
  invocation : Option Invocation
  report : StageReport

def executeCase {σ : Type} (invoker : Invoker σ) (settings : Settings) (run : TestRun)
    (case : TestCase) (world : World σ) : ExecuteResult × World σ :=
  let command := caseCommand run case
  if case.hasMetric then
    let invocation : Invocation := ⟨settings.artifactPath run.executable, case.arguments⟩
    let (reply, after) := invoker.invoke invocation world
    let (checks, files) := executeChecks settings run case after.files reply
    (⟨some invocation, ⟨command, checks⟩⟩, { after with files := files })
  else
    (⟨none, ⟨command, [.fail .metric (.plain "No success metric defined for this test")]⟩⟩, world)

end Conformance
