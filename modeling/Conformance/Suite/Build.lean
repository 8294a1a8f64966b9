import Conformance.FileTree
import Conformance.Number.Decimal
import Conformance.Suite.Draft
import Conformance.Yaml.Document

/-!
# Suites from documents

A draft becomes a group if its threshold is a fraction, its runs are there, every
run names an executable and every case has something to check.  The first
violation in that order is the error.
-/

namespace Conformance

open Yaml (Value)

/-- Why a well-formed document is no suite. -/
inductive SpecProblem where
  | topLevel (document : String)
  | groupName (found : String)
  | groupShape (group : String) (cause : ShapeError)
  | threshold (group : String) (value : Binary64)
  | noRuns (group : String)
  | blankExecutable (group : String) (run : Nat)
  | noMetric (group : String) (run test : Nat)
  | duplicateGroup (group : String)
  | sharedExecutable (executable first second : String)
deriving DecidableEq, Repr

namespace SpecProblem

def message : SpecProblem → String
  | .topLevel document => document ++ ": top level must be a mapping of group names"
  | .groupName found => "group names must be strings, found " ++ found
  | .groupShape group cause => "group `" ++ group ++ "`: " ++ cause.message
  | .threshold group value =>
    "group `" ++ group ++ "`: panic threshold " ++ NumberStyle.plain.render value ++
      " is outside [0, 1]"
  | .noRuns group => "group `" ++ group ++ "` has no `runs` sequence"
  | .blankExecutable group run =>
    "group `" ++ group ++ "`, run " ++ toString run ++ ": `exec` must name an executable"
  | .noMetric group run test =>
    "group `" ++ group ++ "`, run " ++ toString run ++ ", test " ++ toString test ++
      ": no success metric defined"
  | .duplicateGroup group => "group `" ++ group ++ "` is defined more than once"
  | .sharedExecutable executable first second =>
    "executable `" ++ executable ++ "` is compiled by more than one run (groups `" ++ first ++
      "` and `" ++ second ++ "`)"

def help : SpecProblem → Option String
  | .topLevel _ => some "write each group as `<name>: \x7b runs: [...] \x7d`"
  | .threshold _ _ => some "`panic` is the highest tolerated failure fraction, e.g. 0.25"
  | .noRuns _ => some "add `runs: []` if the group is intentionally empty"
  | .noMetric _ _ _ => some "give the test a `return` code, an `output` file, or both"
  | .sharedExecutable _ _ _ => some "give every compiled run its own `exec` name"
  | _ => none

end SpecProblem

def CaseDraft.toCase (draft : CaseDraft) : TestCase :=
  ⟨draft.arguments, draft.returnCode, draft.output, draft.fail⟩

def CompilationDraft.toCompilation (draft : CompilationDraft) : Compilation :=
  ⟨draft.files, draft.arguments, draft.fail, draft.assembly⟩

/-- The cases of a run, numbered from `index`. -/
def buildCases (group : String) (run : Nat) :
    Nat → List CaseDraft → Except SpecProblem (List TestCase)
  | _, [] => .ok []
  | index, draft :: rest => do
    if draft.toCase.hasMetric then
      let cases ← buildCases group run (index + 1) rest
      .ok (draft.toCase :: cases)
    else .error (.noMetric group run index)

def buildRun (group : String) (index : Nat) (draft : RunDraft) : Except SpecProblem TestRun := do
  if allBlank draft.executable then .error (.blankExecutable group index)
  else
    let cases ← buildCases group index 0 draft.tests
    .ok ⟨draft.executable, draft.compilation.map (·.toCompilation), cases⟩

/-- The runs of a group, numbered from `index`. -/
def buildRuns (group : String) : Nat → List RunDraft → Except SpecProblem (List TestRun)
  | _, [] => .ok []
  | index, draft :: rest => do
    let run ← buildRun group index draft
    let runs ← buildRuns group (index + 1) rest
    .ok (run :: runs)

/-- The threshold of a group that names none: no failure rate exceeds it. -/
def defaultThreshold : Binary64 := .one

def buildGroup (name : String) (draft : GroupDraft) : Except SpecProblem Group := do
  let threshold := draft.panic.getD defaultThreshold
  if !threshold.inUnitInterval then .error (.threshold name threshold)
  else
    match draft.runs with
    | none => .error (.noRuns name)
    | some drafts => do
      let runs ← buildRuns name 0 drafts
      .ok ⟨name, draft.description.getD "", tagSet draft.tags, threshold, runs⟩

/-- The name that a key gives a group. -/
def groupName : Value → Except SpecProblem String
  | .string s => .ok s
  | .number n => .ok n.text
  | other => .error (.groupName other.describe)

def buildEntry (key value : Value) : Except SpecProblem Group := do
  let name ← groupName key
  match GroupDraft.read value with
  | .error cause => .error (.groupShape name cause)
  | .ok draft => buildGroup name draft

/-- The suite of a document value; `name` is the document's name in messages. -/
def buildSuite (name : String) (document : Value) : Except SpecProblem Suite :=
  match document with
  | .mapping entries => do
    let groups ← entries.mapM fun (key, value) => buildEntry key value
    .ok ⟨groups⟩
  | .null => .ok ⟨[]⟩
  | _ => .error (.topLevel name)

/-- Why a specification could not be used. -/
inductive SpecError where
  | unreadable (path : Path) (cause : FileError)
  | notYaml (cause : Yaml.Fault) (span : Option Nat)
  | malformed (problem : SpecProblem)
deriving DecidableEq, Repr

/-- Parses one specification. -/
def parseSuite (name source : String) : Except SpecError Suite :=
  match Yaml.parseValue source with
  | .error fault =>
    .error (.notYaml fault (fault.mark?.map fun mark => min mark.index (byteLength source)))
  | .ok document =>
    match buildSuite name document with
    | .error problem => .error (.malformed problem)
    | .ok suite => .ok suite

end Conformance
