import Conformance.Session
import Mathlib.Tactic

/-!
# Histories of sessions

A history is what a session did, as data: for every compilation and every case
the answer of the child and the files as the child left them, in lists that
follow the groups, runs and cases of the suite.  Histories are threaded through
the worlds; checks, tallies, decisions and the trace are read off them, each by
position, without a running count.
-/

namespace Conformance

/-! ## What is invoked -/

/-- The compiler's invocation for a run: the resolved sources, the artifact, the
request to keep intermediate files, and the options. -/
def compilerCall (settings : Settings) (run : TestRun) (compilation : Compilation) :
    Invocation where
  program := settings.compilerPath
  arguments :=
    compilation.sources.map (fun source => (settings.resolve source).text) ++
      ["-o", (settings.artifactPath run.executable).text, "--nodel"] ++ compilation.options

/-- The invocation of a run's artifact for a case. -/
def artifactCall (settings : Settings) (run : TestRun) (case : TestCase) : Invocation where
  program := settings.artifactPath run.executable
  arguments := case.arguments

/-! ## Records -/

/-- A compilation: the compiler's answer and the files as it left them. -/
structure CompileRecord where
  compilation : Compilation
  reply : Reply
  files : FileTree

/-- A case: the artifact's answer and the files as it left them, none if nothing
is expected of the case. -/
structure CaseRecord where
  case : TestCase
  answer : Option (Reply × FileTree)

/-- A run: its compilation if it has one, and the cases that were gone through. -/
structure RunRecord where
  run : TestRun
  compiled : Option CompileRecord
  cases : List CaseRecord

structure GroupRecord where
  group : Group
  runs : List RunRecord

/-- The compiler exited by itself with code zero, as it was expected to. -/
def CompileRecord.isClean (record : CompileRecord) : Bool :=
  match record.reply with
  | .error _ => false
  | .ok outcome =>
    !outcome.timedOut && outcome.exitCode = some 0 && !record.compilation.expectFailure

/-- Whether the cases of the run may execute the artifact: there is no compilation,
or it was clean. -/
def RunRecord.isTrusted (record : RunRecord) : Bool :=
  record.compiled.all CompileRecord.isClean

/-! ## Threading a state through a list -/

/-- Performs a step for each member of a list, in order, and lists what the steps
yield. -/
def thread {α β ω : Type} (step : α → ω → β × ω) : List α → ω → List β × ω
  | [], state => ([], state)
  | a :: rest, state =>
    let first := step a state
    let later := thread step rest first.2
    (first.1 :: later.1, later.2)

/-- What each step yields, seen through a view that depends on its argument alone. -/
theorem thread_map {α β γ ω : Type} {step : α → ω → β × ω} {view : β → γ} {image : α → γ}
    (hview : ∀ a state, view (step a state).1 = image a) (list : List α) (state : ω) :
    (thread step list state).1.map view = list.map image := by
  induction list generalizing state with
  | nil => rfl
  | cons a rest ih =>
      simp only [thread, List.map_cons, hview, ih]

/-- What holds of everything the steps for a list's members yield. -/
theorem thread_forall {α β ω : Type} {step : α → ω → β × ω} {P : β → Prop} {list : List α}
    (hstep : ∀ a ∈ list, ∀ state, P (step a state).1) (state : ω) :
    ∀ b ∈ (thread step list state).1, P b := by
  induction list generalizing state with
  | nil => simp [thread]
  | cons a rest ih =>
      intro b hb
      simp only [thread, List.mem_cons] at hb
      rcases hb with rfl | hb
      · exact hstep a (List.mem_cons_self ..) state
      · exact ih (fun other hother => hstep other (List.mem_cons_of_mem a hother))
          (step a state).2 b hb

/-- A step that simulates another one and logs what it yields, threaded through a
list, simulates the other one threaded and logs everything in order. -/
theorem thread_log {α β ω ω' κ : Type}
    {step : α → ω → β × ω} {logged : α → ω' → β × ω'}
    (lift : ω → List κ → ω') (log : β → List κ)
    (hstep : ∀ a state past,
      logged a (lift state past) =
        ((step a state).1, lift (step a state).2 (past ++ log (step a state).1)))
    (list : List α) (state : ω) (past : List κ) :
    thread logged list (lift state past) =
      ((thread step list state).1,
        lift (thread step list state).2
          (past ++ (thread step list state).1.flatMap log)) := by
  induction list generalizing state past with
  | nil => simp [thread]
  | cons a rest ih =>
      simp only [thread]
      rw [hstep, ih]
      simp only [List.flatMap_cons, List.append_assoc]

/-! ## Histories -/

section

variable {σ : Type} (invoker : Invoker σ) (settings : Settings)

/-- Compiles, and removes the assembly artifact. -/
def recordCompilation (run : TestRun) (compilation : Compilation) (world : World σ) :
    CompileRecord × World σ :=
  let answer := invoker.invoke (compilerCall settings run compilation) world
  (⟨compilation, answer.1, answer.2.files⟩,
    { answer.2 with files := discard answer.2.files settings.assembly })

/-- Executes a case of which something is expected. -/
def recordCase (run : TestRun) (case : TestCase) (world : World σ) : CaseRecord × World σ :=
  if case.hasMetric then
    let answer := invoker.invoke (artifactCall settings run case) world
    (⟨case, some (answer.1, answer.2.files)⟩,
      { answer.2 with
        files := (executeChecks settings run case answer.2.files answer.1).2 })
  else (⟨case, none⟩, world)

def recordRun (run : TestRun) (world : World σ) : RunRecord × World σ :=
  match run.compilation with
  | none =>
    let executed := thread (recordCase invoker settings run) run.cases world
    (⟨run, none, executed.1⟩, executed.2)
  | some compilation =>
    let compiled := recordCompilation invoker settings run compilation world
    if compiled.1.isClean then
      let executed := thread (recordCase invoker settings run) run.cases compiled.2
      (⟨run, some compiled.1, executed.1⟩, executed.2)
    else (⟨run, some compiled.1, []⟩, compiled.2)

def recordGroup (group : Group) (world : World σ) : GroupRecord × World σ :=
  let runs := thread (recordRun invoker settings) group.runs world
  (⟨group, runs.1⟩, runs.2)

end

/-! ## What a history shows -/

/-- What is shown of a compilation or a case: the events before its checks, and its
report. -/
structure Stage where
  opening : List Event
  report : StageReport

def Stage.checks (stage : Stage) : List Check := stage.report.checks

def CompileRecord.stage (settings : Settings) (run : TestRun) (record : CompileRecord) :
    Stage where
  opening :=
    [.notify (.compilationStarted run), .invoke (compilerCall settings run record.compilation)]
  report :=
    ⟨compileCommand settings run record.compilation,
      (compileChecks settings record.compilation record.files record.reply).1⟩

def CaseRecord.stage (settings : Settings) (run : TestRun) (record : CaseRecord) : Stage :=
  match record.answer with
  | some (reply, files) =>
    ⟨[.invoke (artifactCall settings run record.case)],
      ⟨caseCommand run record.case, (executeChecks settings run record.case files reply).1⟩⟩
  | none =>
    ⟨[], ⟨caseCommand run record.case,
      [.fail .metric (.plain "No success metric defined for this test")]⟩⟩

namespace RunRecord

def stages (settings : Settings) (record : RunRecord) : List Stage :=
  (record.compiled.map (·.stage settings record.run)).toList ++
    record.cases.map (·.stage settings record.run)

/-- The checks of a run, those of its compilation first. -/
def checks (settings : Settings) (record : RunRecord) : List Check :=
  (record.stages settings).flatMap Stage.checks

end RunRecord

/-- The tally of a list of checks. -/
def Tally.ofChecks (checks : List Check) : Tally := ⟨checks.length, checks.countP Check.passed⟩

namespace GroupRecord

def checks (settings : Settings) (record : GroupRecord) : List Check :=
  record.runs.flatMap (·.checks settings)

def tally (settings : Settings) (record : GroupRecord) : Tally :=
  .ofChecks (record.checks settings)

def decision (settings : Settings) (record : GroupRecord) : Decision :=
  .evaluate record.group.threshold (record.tally settings)

end GroupRecord

/-- One notice per failed check of a report.  The ordinal of a check is its place,
counted from one, among all checks of the run, of which `before` come earlier. -/
def failureNotices (index before : Nat) (report : StageReport) : List Event :=
  (report.checks.zipIdx (before + 1)).filterMap fun (check, ordinal) =>
    if check.passed then none
    else some (.notify (.checkFailed index ordinal report.command check))

/-- The trace of consecutive stages of a run of which `before` checks come earlier. -/
def stagesTrace (index before : Nat) (stages : List Stage) : List Event :=
  stages.zipIdx.flatMap fun (stage, place) =>
    stage.opening ++
      failureNotices index (before + ((stages.take place).flatMap Stage.checks).length)
        stage.report

/-- The trace of a run: stage by stage what opens it, then its failed checks. -/
def RunRecord.trace (settings : Settings) (index : Nat) (record : RunRecord) : List Event :=
  stagesTrace index 0 (record.stages settings)

/-- The trace of runs, the first of them numbered `index`. -/
def runsTrace (settings : Settings) (index : Nat) (records : List RunRecord) : List Event :=
  (records.zipIdx index).flatMap fun (record, place) => record.trace settings place

def GroupRecord.trace (settings : Settings) (record : GroupRecord) : List Event :=
  .notify (.groupStarted record.group) :: runsTrace settings 0 record.runs ++
    [.notify (.groupFinished record.group (record.tally settings) (record.decision settings))]

/-- The trace of the groups that were run. -/
def groupsTrace (settings : Settings) (records : List GroupRecord) : List Event :=
  records.flatMap (·.trace settings)

/-! ## Histories of whole sessions -/

section

variable {σ : Type} (invoker : Invoker σ) (settings : Settings)

/-- Runs groups in order; after one that stops the session none is run. -/
def recordGroups : List Group → World σ → List GroupRecord × World σ
  | [], world => ([], world)
  | group :: rest, world =>
    let first := recordGroup invoker settings group world
    if (first.1.decision settings).isAbort then ([first.1], first.2)
    else
      let later := recordGroups rest first.2
      (first.1 :: later.1, later.2)

/-- The history of a session: its selected groups, as far as they are reached. -/
def sessionHistory (suite : Suite) (selector : TagSelector) (world : World σ) :
    List GroupRecord × World σ :=
  recordGroups invoker settings (suite.groups.filter selector.selects) world

end

end Conformance
