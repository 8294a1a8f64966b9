import Conformance.Proofs.FileTree.Changes
import Conformance.Proofs.Text.Splitting
import Conformance.Proofs.Session.CheckKinds
import Conformance.Proofs.Session.Steps

/-!
# Output that is kept

Output that was not the expected one is written to a file beside the expected one, and the
failed check names that file.  The stages change no other file but the assembly artifact.  So
if the children leave the kept file alone, it is there at the end, unless a later case keeps
its output in the same file, or the file is where a later compiler leaves assembly.
-/

namespace Conformance

/-! ## Files that checks name -/

/-- The files with kept output that checks name. -/
def observedFiles (checks : List Check) : List Path :=
  checks.filterMap fun check => check.failure.bind (·.observedFile)

@[simp] theorem observedFiles_nil : observedFiles [] = [] := rfl

@[simp] theorem observedFiles_append (first rest : List Check) :
    observedFiles (first ++ rest) = observedFiles first ++ observedFiles rest :=
  List.filterMap_append

theorem observedFiles_failEvery (case : TestCase) (message : String) :
    observedFiles (failEvery case message) = [] := by
  unfold observedFiles
  rw [failEvery_eq_map, List.filterMap_map, List.filterMap_eq_nil_iff]
  intro kind _
  rfl

theorem observedFiles_checkReturnCode
    (expected : Int) (expectFailure : Bool) (outcome : Outcome) :
    observedFiles [checkReturnCode expected expectFailure outcome] = [] := by
  unfold checkReturnCode
  split
  all_goals rfl

/-- Files change behind an output check only if output is kept, and the check says where. -/
theorem checkOutput_observed
    (files : FileTree) (expected : Path) (expectFailure : Bool) (outcome : Outcome) :
    let result := checkOutput files expected expectFailure outcome
    observedFiles [result.1] = [] ∧ result.2 = files ∨
      observedFiles [result.1] = [observedPath expected] ∧
        files.writeText (observedPath expected) (terminateLines outcome.stdout) =
          .ok result.2 := by
  unfold checkOutput writeObserved
  rw [dumpLines_eq_terminateLines]
  cases files.readText expected with
  | error cause => exact .inl ⟨rfl, rfl⟩
  | ok text =>
      dsimp only
      cases expectFailure with
      | true =>
          cases prefixMatches (textLines text) outcome.stdout with
          | false => exact .inl ⟨rfl, rfl⟩
          | true => exact .inl ⟨rfl, rfl⟩
      | false =>
          cases prefixMatches (textLines text) outcome.stdout with
          | true => exact .inl ⟨rfl, rfl⟩
          | false =>
              cases hwrite :
                  files.writeText (observedPath expected) (terminateLines outcome.stdout) with
              | error cause =>
                  left
                  simp [observedFiles, Check.fail]
              | ok written =>
                  right
                  simp [observedFiles, Check.fail]

/-- Output is checked behind the return code, whose check names no file. -/
theorem judgeOutcome_of_expectedOutput (settings : Settings) {case : TestCase} {expected : Path}
    (hexpected : case.expectedOutput = some expected) (files : FileTree) (outcome : Outcome) :
    let output := checkOutput files (settings.resolve expected) case.expectFailure outcome
    ∃ earlier, observedFiles earlier = [] ∧
      judgeOutcome settings case files outcome = (earlier ++ [output.1], output.2) := by
  simp only [judgeOutcome, hexpected]
  cases case.expectedCode with
  | none => exact ⟨[], rfl, rfl⟩
  | some code => exact ⟨_, observedFiles_checkReturnCode code case.expectFailure outcome, rfl⟩

theorem judgeOutcome_of_noOutput (settings : Settings) {case : TestCase}
    (hexpected : case.expectedOutput = none) (files : FileTree) (outcome : Outcome) :
    let result := judgeOutcome settings case files outcome
    observedFiles result.1 = [] ∧ result.2 = files := by
  simp only [judgeOutcome, hexpected, and_true]
  cases case.expectedCode with
  | none => rfl
  | some code => exact observedFiles_checkReturnCode code case.expectFailure outcome

theorem executeChecks_observed
    (settings : Settings) (run : TestRun) (case : TestCase) (files : FileTree) (reply : Reply) :
    let result := executeChecks settings run case files reply
    observedFiles result.1 = [] ∧ result.2 = files ∨
      ∃ outcome expected, reply = .ok outcome ∧ case.expectedOutput = some expected ∧
        observedFiles result.1 = [observedPath (settings.resolve expected)] ∧
        files.writeText (observedPath (settings.resolve expected))
          (terminateLines outcome.stdout) = .ok result.2 := by
  cases reply with
  | error cause => exact .inl ⟨observedFiles_failEvery case _, rfl⟩
  | ok outcome =>
      simp only [executeChecks]
      cases outcome.timedOut with
      | true => exact .inl ⟨observedFiles_failEvery case _, rfl⟩
      | false =>
          simp only [Bool.false_eq_true, if_false]
          cases hexpected : case.expectedOutput with
          | none => exact .inl (judgeOutcome_of_noOutput settings hexpected files outcome)
          | some expected =>
              obtain ⟨earlier, hearlier, hjudge⟩ :=
                judgeOutcome_of_expectedOutput settings hexpected files outcome
              rw [hjudge, observedFiles_append, hearlier, List.nil_append]
              rcases checkOutput_observed files (settings.resolve expected) case.expectFailure
                outcome with hnone | ⟨hobserved, hwrite⟩
              · exact .inl hnone
              · exact .inr ⟨outcome, expected, rfl, rfl, hobserved, hwrite⟩

/-! ## Changes behind a child -/

/-- The location of what a path leads to. -/
def FileTree.location? (files : FileTree) (p : Path) : Option Location :=
  match files.find p with
  | .ok (place, _) => some place
  | .error _ => none

namespace Step

variable (settings : Settings)

/-- The locations of the files that are written or removed behind the child. -/
def changes (step : Step) : List Location :=
  match step with
  | .compile _ record =>
    if record.files.Removable settings.assembly then
      (record.files.location? settings.assembly).toList
    else []
  | .execute .. =>
    (observedFiles (step.checks settings)).filterMap (step.settled settings).location?

variable {settings} {step : Step} {place : Location} {content : Bytes} {executable : Bool}
  {p : Path}

end Step

/-- A working directory with two expected outputs. -/
def expectingTree : FileTree where
  home := ["w"]
  entries :=
    [(["w"], .directory), (["w", "_test"], .directory),
      (["w", "_test", "e"], .file (bytesOfText "x") false),
      (["w", "_test", "f"], .file (bytesOfText "x") false)]

def expecting (name : String) : TestCase := ⟨[], none, some ⟨name⟩, false⟩

def printing (line : String) : Reply := .ok ⟨some 0, [line], false⟩

def groupSuite (runs : List TestRun) : Suite := ⟨[⟨"g", "", [], .one, runs⟩]⟩

def pairedRun : TestRun := ⟨"a", none, [expecting "e", expecting "f"]⟩

end Conformance
