import Conformance.Proofs.Session.Reports
import Conformance.Proofs.Session.Trace

/-!
# Sessions step by step

A history as one list of steps, one for each invocation: the child's answer, the files as
the child left them, and the files as they are settled before the next child starts.  A
session is nothing but its steps, one after the other: each starts in the world that the
one before has left.
-/

namespace Conformance

deriving instance DecidableEq for CompileRecord

/-- An invocation and what came of it: the compiler's for a run, or that of the run's
artifact for a case. -/
inductive Step where
  | compile (run : TestRun) (record : CompileRecord)
  | execute (run : TestRun) (case : TestCase) (reply : Reply) (left : FileTree)
deriving DecidableEq

namespace Step

variable (settings : Settings)

def call : Step → Invocation
  | .compile run record => compilerCall settings run record.compilation
  | .execute run case _ _ => artifactCall settings run case

def reply : Step → Reply
  | .compile _ record => record.reply
  | .execute _ _ reply _ => reply

def isExecution : Step → Bool
  | .compile .. => false
  | .execute .. => true

/-- The files as the child left them. -/
def left : Step → FileTree
  | .compile _ record => record.files
  | .execute _ _ _ left => left

def checks : Step → List Check
  | .compile _ record =>
    (compileChecks settings record.compilation record.files record.reply).1
  | .execute run case reply left => (executeChecks settings run case left reply).1

/-- The files when the next child starts: the assembly artifact is discarded, or output
that was not the expected one is kept. -/
def settled : Step → FileTree
  | .compile _ record => discard record.files settings.assembly
  | .execute run case reply left => (executeChecks settings run case left reply).2

end Step

/-! ## The steps of a history -/

/-- The step of a case, if something is expected of it. -/
def CaseRecord.steps (run : TestRun) (record : CaseRecord) : List Step :=
  (record.answer.map fun answer => .execute run record.case answer.1 answer.2).toList

/-- The steps of a run: its compilation, then its cases. -/
def RunRecord.steps (record : RunRecord) : List Step :=
  record.compiled.toList.map (.compile record.run) ++ record.cases.flatMap (·.steps record.run)

def GroupRecord.steps (record : GroupRecord) : List Step := record.runs.flatMap RunRecord.steps

/-- The steps of the groups that were run. -/
def historySteps (records : List GroupRecord) : List Step := records.flatMap GroupRecord.steps

section

variable {κ : Type} {view : Check → Option κ} (settings : Settings)

theorem CompileRecord.checks_stage (run : TestRun) (record : CompileRecord) :
    (record.stage settings run).checks = (Step.compile run record).checks settings := rfl

theorem CompileRecord.calls_stage (run : TestRun) (record : CompileRecord) :
    (record.stage settings run).calls = [(Step.compile run record).call settings] := rfl

theorem CaseRecord.filterMap_checks
    (hmetric : ∀ message, view (.fail .metric (.plain message)) = none)
    (run : TestRun) (record : CaseRecord) :
    (record.stage settings run).checks.filterMap view =
      ((record.steps run).flatMap (·.checks settings)).filterMap view := by
  obtain ⟨case, answer⟩ := record
  cases answer with
  | none => simp [CaseRecord.stage, CaseRecord.steps, Stage.checks, hmetric]
  | some answer => simp [CaseRecord.stage, CaseRecord.steps, Stage.checks, Step.checks]

theorem RunRecord.filterMap_checks
    (hmetric : ∀ message, view (.fail .metric (.plain message)) = none) (record : RunRecord) :
    (record.checks settings).filterMap view =
      (record.steps.flatMap (·.checks settings)).filterMap view := by
  obtain ⟨run, compiled, cases⟩ := record
  have hcases := CaseRecord.filterMap_checks settings hmetric run
  simp only [List.filterMap_flatMap] at hcases
  cases compiled <;>
    simp [RunRecord.checks, RunRecord.stages, RunRecord.steps, CompileRecord.checks_stage,
      List.filterMap_flatMap, List.flatMap_map, List.flatMap_assoc, hcases]

/-- What the checks of a history show, as far as a check for want of an expectation shows
nothing, is what the checks of its steps show. -/
theorem filterMap_historySteps
    (hmetric : ∀ message, view (.fail .metric (.plain message)) = none)
    (records : List GroupRecord) :
    (records.flatMap (·.checks settings)).filterMap view =
      ((historySteps records).flatMap (·.checks settings)).filterMap view := by
  have hruns := RunRecord.filterMap_checks settings hmetric
  simp only [historySteps, GroupRecord.steps, GroupRecord.checks, List.flatMap_assoc,
    List.filterMap_flatMap] at hruns ⊢
  simp only [hruns]

/-- The calls of a history are those of its steps. -/
theorem RunRecord.calls_eq_steps (record : RunRecord) :
    record.calls settings = record.steps.map (·.call settings) := by
  obtain ⟨run, compiled, cases⟩ := record
  have hcase : ∀ record : CaseRecord,
      (record.stage settings run).calls = (record.steps run).map (·.call settings) := by
    intro record
    obtain ⟨case, answer⟩ := record
    cases answer with
    | none => rfl
    | some answer => rfl
  cases compiled <;>
    simp [RunRecord.calls, RunRecord.stages, RunRecord.steps, CompileRecord.calls_stage,
      List.flatMap_map, List.map_flatMap, hcase]

theorem GroupRecord.calls_eq_steps (record : GroupRecord) :
    record.calls settings = record.steps.map (·.call settings) := by
  simp only [GroupRecord.calls, GroupRecord.steps, List.map_flatMap, RunRecord.calls_eq_steps]

/-- The invocations of a session are those of its steps. -/
theorem invocations_eq_steps {σ : Type} (invoker : Invoker σ) (suite : Suite)
    (selector : TagSelector) (world : World σ) :
    invocations (runSession invoker settings suite selector world).events =
      (historySteps (sessionHistory invoker settings suite selector world).1).map
        (·.call settings) := by
  obtain ⟨hevents, _⟩ := runGroups_eq_recordGroups invoker settings selector suite.groups world
  simp only [runSession, hevents, invocations_append, invocations_groupsTrace, historySteps,
    List.map_flatMap, GroupRecord.calls_eq_steps]
  exact List.append_nil _

end

/-! ## Following a session -/

section

variable {σ : Type} (invoker : Invoker σ) (settings : Settings)

/-- Each step is what the invoker answers to its call in the world that the one before has
left, and the last one leaves the final world. -/
inductive Follows : World σ → List Step → World σ → Prop where
  | done (world : World σ) : Follows world [] world
  | step {world final : World σ} {step : Step} {rest : List Step} {children : σ} :
      invoker.invoke (step.call settings) world = (step.reply, ⟨step.left, children⟩) →
      Follows ⟨step.settled settings, children⟩ rest final →
      Follows world (step :: rest) final

namespace Follows

variable {invoker settings} {world middle final : World σ} {first rest : List Step}

theorem append (hfirst : Follows invoker settings world first middle)
    (hrest : Follows invoker settings middle rest final) :
    Follows invoker settings world (first ++ rest) final := by
  induction hfirst with
  | done => exact hrest
  | step hinvoke _ ih => exact .step hinvoke (ih hrest)

theorem split (hall : Follows invoker settings world (first ++ rest) final) :
    ∃ middle, Follows invoker settings world first middle ∧
      Follows invoker settings middle rest final := by
  induction first generalizing world with
  | nil => exact ⟨world, .done world, hall⟩
  | cons step first ih =>
      cases hall with
      | step hinvoke hlater =>
          obtain ⟨middle, hfirst, hrest⟩ := ih hlater
          exact ⟨middle, .step hinvoke hfirst, hrest⟩

end Follows

theorem recordCompilation_follows
    (run : TestRun) (compilation : Compilation) (world : World σ) :
    let result := recordCompilation invoker settings run compilation world
    Follows invoker settings world [.compile run result.1] result.2 :=
  .step rfl (.done _)

theorem recordCase_follows (run : TestRun) (case : TestCase) (world : World σ) :
    let result := recordCase invoker settings run case world
    Follows invoker settings world (result.1.steps run) result.2 := by
  unfold recordCase
  by_cases hmetric : case.hasMetric
  · simp only [hmetric, if_true]
    exact .step rfl (.done _)
  · simp only [hmetric, Bool.false_eq_true, if_false]
    exact .done world

/-- If each step of a thread is followed, so is the thread. -/
theorem thread_follows {α β : Type} {step : α → World σ → β × World σ} {steps : β → List Step}
    (hstep : ∀ a world,
      Follows invoker settings world (steps (step a world).1) (step a world).2)
    (list : List α) (world : World σ) :
    let result := thread step list world
    Follows invoker settings world (result.1.flatMap steps) result.2 := by
  induction list generalizing world with
  | nil => exact .done world
  | cons a rest ih => exact (hstep a world).append (ih (step a world).2)

theorem recordRun_follows (run : TestRun) (world : World σ) :
    let result := recordRun invoker settings run world
    Follows invoker settings world result.1.steps result.2 := by
  have hcases := thread_follows invoker settings (recordCase_follows invoker settings run)
  unfold recordRun RunRecord.steps
  cases run.compilation with
  | none => exact hcases run.cases world
  | some compilation =>
      have hcompiled := recordCompilation_follows invoker settings run compilation world
      dsimp only at hcompiled ⊢
      by_cases hclean : (recordCompilation invoker settings run compilation world).1.isClean
      · simp only [hclean, if_true]
        exact hcompiled.append (hcases run.cases _)
      · simp only [hclean, Bool.false_eq_true, if_false]
        exact hcompiled

theorem recordGroup_follows (group : Group) (world : World σ) :
    let result := recordGroup invoker settings group world
    Follows invoker settings world result.1.steps result.2 :=
  thread_follows invoker settings (recordRun_follows invoker settings) group.runs world

theorem recordGroups_follows (groups : List Group) (world : World σ) :
    let result := recordGroups invoker settings groups world
    Follows invoker settings world (historySteps result.1) result.2 := by
  induction groups generalizing world with
  | nil => exact .done world
  | cons group rest ih =>
      have hgroup := recordGroup_follows invoker settings group world
      cases hdecision :
          ((recordGroup invoker settings group world).1.decision settings).isAbort with
      | true =>
          rw [recordGroups_cons_of_abort invoker settings hdecision]
          simpa [historySteps] using hgroup
      | false =>
          rw [recordGroups_cons_of_proceed invoker settings hdecision]
          exact hgroup.append (ih (recordGroup invoker settings group world).2)

/-- A session is its steps, one after the other. -/
theorem runSession_follows (suite : Suite) (selector : TagSelector) (world : World σ) :
    Follows invoker settings world
      (historySteps (sessionHistory invoker settings suite selector world).1)
      (runSession invoker settings suite selector world).world := by
  obtain ⟨_, hworld, _⟩ :=
    runGroups_eq_recordGroups invoker settings selector suite.groups world
  exact hworld ▸ recordGroups_follows invoker settings _ world

end

/-! ## Files between steps -/

/-- The files after steps. -/
def filesAfter (settings : Settings) (files : FileTree) (steps : List Step) : FileTree :=
  steps.foldl (fun _ step => step.settled settings) files

theorem Follows.files {σ : Type} {invoker : Invoker σ} {settings : Settings}
    {world final : World σ} {steps : List Step}
    (hall : Follows invoker settings world steps final) :
    final.files = filesAfter settings world.files steps := by
  induction hall with
  | done => rfl
  | step _ _ ih => exact ih

end Conformance
