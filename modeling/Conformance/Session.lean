import Conformance.ExecuteStage
import Conformance.Tally

/-!
# Sessions

A session runs the selected groups of a suite in order and stops after the first
group whose failure rate exceeds its threshold.  It yields a summary and a trace
of everything observable: each invocation and each notice to the reporter, in
the order in which they happen.
-/

namespace Conformance

/-- What the reporter is told. -/
inductive Notice where
  | groupStarted (group : Group)
  | compilationStarted (run : TestRun)
  | checkFailed (run ordinal : Nat) (command : String) (check : Check)
  | groupFinished (group : Group) (tally : Tally) (decision : Decision)
  | sessionFinished (summary : Summary)
deriving DecidableEq, Repr

inductive Event where
  | invoke (invocation : Invocation)
  | notify (notice : Notice)
deriving DecidableEq, Repr

/-- What a part of a group produced. -/
structure PartResult (σ : Type) where
  events : List Event
  tally : Tally
  world : World σ

/-- One notice per failed check; checks are numbered from `ordinal + 1`. -/
def failureEvents (run : Nat) (command : String) (ordinal : Nat) : List Check → List Event
  | [] => []
  | check :: rest =>
    let later := failureEvents run command (ordinal + 1) rest
    if check.passed then later
    else .notify (.checkFailed run (ordinal + 1) command check) :: later

section

variable {σ : Type} (invoker : Invoker σ) (settings : Settings)

/-- The cases of a run, after `ordinal` checks of it. -/
def runCases (index : Nat) (run : TestRun) (ordinal : Nat) (tally : Tally) :
    List TestCase → World σ → PartResult σ
  | [], world => ⟨[], tally, world⟩
  | case :: rest, world =>
    let (result, after) := executeCase invoker settings run case world
    let checks := result.report.checks
    let later := runCases index run (ordinal + checks.length) (tally.recordAll checks) rest after
    ⟨result.invocation.toList.map .invoke ++
        failureEvents index result.report.command ordinal checks ++ later.events,
      later.tally, later.world⟩

/-- One run: its compilation, then its cases unless the executable is not to be
trusted. -/
def runOne (index : Nat) (run : TestRun) (tally : Tally) (world : World σ) : PartResult σ :=
  match run.compilation with
  | none => runCases invoker settings index run 0 tally run.cases world
  | some compilation =>
    let (result, after) := compileRun invoker settings run compilation world
    let checks := result.report.checks
    let compiled := tally.recordAll checks
    let opening := .notify (.compilationStarted run) :: .invoke result.invocation ::
      failureEvents index result.report.command 0 checks
    if result.ready then
      let later := runCases invoker settings index run checks.length compiled run.cases after
      ⟨opening ++ later.events, later.tally, later.world⟩
    else ⟨opening, compiled, after⟩

/-- The runs of a group, the first of them numbered `index`. -/
def runRuns (index : Nat) (tally : Tally) : List TestRun → World σ → PartResult σ
  | [], world => ⟨[], tally, world⟩
  | run :: rest, world =>
    let first := runOne invoker settings index run tally world
    let later := runRuns (index + 1) first.tally rest first.world
    ⟨first.events ++ later.events, later.tally, later.world⟩

structure GroupResult (σ : Type) where
  events : List Event
  tally : Tally
  decision : Decision
  world : World σ

def runGroup (group : Group) (world : World σ) : GroupResult σ :=
  let part := runRuns invoker settings 0 .empty group.runs world
  let decision := Decision.evaluate group.threshold part.tally
  ⟨.notify (.groupStarted group) :: part.events ++
      [.notify (.groupFinished group part.tally decision)],
    part.tally, decision, part.world⟩

structure SessionResult (σ : Type) where
  events : List Event
  summary : Summary
  world : World σ

/-- The groups of a suite that are never reached. -/
def skipRest (selector : TagSelector) (groups : List Group) : Nat × Nat :=
  ((groups.filter (!selector.selects ·)).length, (groups.filter (selector.selects ·)).length)

/-- The groups in order, without the closing notice. -/
def runGroups (selector : TagSelector) : List Group → World σ → SessionResult σ
  | [], world => ⟨[], .empty, world⟩
  | group :: rest, world =>
    if selector.selects group then
      let result := runGroup invoker settings group world
      let entry : GroupSummary := ⟨group.name, result.tally, result.decision.isAbort⟩
      if result.decision.isAbort then
        let (deselected, notReached) := skipRest selector rest
        ⟨result.events, ⟨[entry], deselected, notReached, some group.name⟩, result.world⟩
      else
        let later := runGroups selector rest result.world
        ⟨result.events ++ later.events,
          { later.summary with groups := entry :: later.summary.groups }, later.world⟩
    else
      let later := runGroups selector rest world
      { later with summary :=
          { later.summary with deselected := later.summary.deselected + 1 } }

/-- A whole session. -/
def runSession (suite : Suite) (selector : TagSelector) (world : World σ) : SessionResult σ :=
  let result := runGroups invoker settings selector suite.groups world
  { result with events := result.events ++ [.notify (.sessionFinished result.summary)] }

end

end Conformance
