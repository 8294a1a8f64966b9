import Conformance.Proofs.Session.CheckKinds
import Conformance.Proofs.Session.Reports

/-!
# Accounting of checks

Every check that is counted either passed or was reported as failed, and how many
checks a run contributes depends only on the compiler's answer and on what the
suite expects: one or two for a compilation, and at least one for every case
once the executable may be run.
-/

namespace Conformance

/-! ## How many checks a stage yields -/

/-- How many fields of a case state an expectation. -/
def TestCase.expectations (case : TestCase) : Nat :=
  (if case.expectedCode.isSome then 1 else 0) + (if case.expectedOutput.isSome then 1 else 0)

theorem TestCase.expectations_pos_iff (case : TestCase) :
    0 < case.expectations ↔ case.hasMetric = true := by
  unfold TestCase.expectations TestCase.hasMetric
  cases case.expectedCode with
  | none =>
      cases case.expectedOutput with
      | none => simp
      | some expected => simp
  | some code => simp

/-- A compilation yields two checks if it was clean and assembly is expected, and
one otherwise. -/
def CompileRecord.count (record : CompileRecord) : Nat :=
  if record.isClean && record.compilation.expectedAssembly.isSome then 2 else 1

theorem compileChecks_length (settings : Settings) (record : CompileRecord) :
    (compileChecks settings record.compilation record.files record.reply).1.length =
      record.count := by
  have hkinds := congrArg List.length (compileChecks_kinds settings record)
  rw [List.length_map] at hkinds
  rw [hkinds]
  unfold CompileRecord.kinds CompileRecord.count
  split
  · rfl
  · rfl

theorem executeChecks_length
    (settings : Settings) (run : TestRun) (case : TestCase) (files : FileTree)
    (reply : Reply) :
    (executeChecks settings run case files reply).1.length = case.expectations := by
  have hkinds := congrArg List.length (executeChecks_kinds settings run case files reply)
  rw [List.length_map] at hkinds
  rw [hkinds]
  unfold TestCase.kinds TestCase.expectations
  split <;> split <;> rfl

/-! ## How many checks a run yields -/

namespace RunRecord

/-- What the compilation of a run contributes. -/
def compileCount (record : RunRecord) : Nat :=
  match record.compiled with
  | none => 0
  | some compiled => compiled.count

/-- What the cases of a run contribute, whatever comes of them. -/
def caseCount (record : RunRecord) : Nat :=
  if record.isTrusted then
    (record.run.cases.map fun case => max 1 case.expectations).sum
  else 0

end RunRecord

section

variable {σ : Type} (invoker : Invoker σ) (settings : Settings)

theorem recordRun_run (run : TestRun) (world : World σ) :
    (recordRun invoker settings run world).1.run = run := by
  unfold recordRun
  cases run.compilation with
  | none => rfl
  | some compilation =>
      dsimp only
      split
      · rfl
      · rfl

theorem recordRun_compilation (run : TestRun) (world : World σ) :
    (recordRun invoker settings run world).1.compiled.map (·.compilation) =
      run.compilation := by
  unfold recordRun
  cases run.compilation with
  | none => rfl
  | some compilation =>
      dsimp only
      split
      · rfl
      · rfl

theorem recordCase_checks_length (run : TestRun) (case : TestCase) (world : World σ) :
    ((recordCase invoker settings run case world).1.stage settings run).checks.length =
      max 1 case.expectations := by
  have hpos := case.expectations_pos_iff
  unfold recordCase
  by_cases hmetric : case.hasMetric
  · simp only [hmetric, if_true, CaseRecord.stage, Stage.checks, executeChecks_length]
    have : 0 < case.expectations := hpos.mpr hmetric
    omega
  · have : ¬ 0 < case.expectations := fun h => hmetric (hpos.mp h)
    simp only [hmetric, Bool.false_eq_true, if_false, CaseRecord.stage, Stage.checks,
      List.length_singleton]
    omega

/-- The checks of cases that were gone through, counted. -/
theorem thread_recordCase_checks_length
    (run : TestRun) (cases : List TestCase) (world : World σ) :
    (((thread (recordCase invoker settings run) cases world).1.map
        (·.stage settings run)).flatMap Stage.checks).length =
      (cases.map fun case => max 1 case.expectations).sum := by
  rw [List.length_flatMap, List.map_map]
  congr 1
  exact thread_map (recordCase_checks_length invoker settings run) cases world

theorem recordRun_checks_length (run : TestRun) (world : World σ) :
    let record := (recordRun invoker settings run world).1
    (record.checks settings).length = record.compileCount + record.caseCount := by
  have hcases := thread_recordCase_checks_length invoker settings run run.cases
  unfold recordRun RunRecord.checks RunRecord.stages RunRecord.compileCount
    RunRecord.caseCount RunRecord.isTrusted
  cases hcompilation : run.compilation with
  | none =>
      simp [hcases]
  | some compilation =>
      have hcompiled := compileChecks_length settings
        (recordCompilation invoker settings run compilation world).1
      by_cases hclean : (recordCompilation invoker settings run compilation world).1.isClean
      · simp [hclean, hcases, CompileRecord.stage, Stage.checks, hcompiled]
      · simp [hclean, CompileRecord.stage, Stage.checks, hcompiled]

theorem recordGroup_tally_run (group : Group) (world : World σ) :
    let record := (recordGroup invoker settings group world).1
    (record.tally settings).run =
      (record.runs.map fun run => run.compileCount + run.caseCount).sum := by
  simp only [GroupRecord.tally, Tally.ofChecks, GroupRecord.checks, List.length_flatMap]
  congr 1
  apply List.map_congr_left
  exact thread_forall (fun run _ => recordRun_checks_length invoker settings run) world

end

/-! ## Failed checks and the notices about them -/

def Event.isCheckFailed : Event → Bool
  | .notify (.checkFailed _ _ _ _) => true
  | _ => false

/-- How many events report a failed check. -/
def failures (events : List Event) : Nat := events.countP Event.isCheckFailed

@[simp] theorem failures_nil : failures [] = 0 := rfl

@[simp] theorem failures_append (first rest : List Event) :
    failures (first ++ rest) = failures first + failures rest :=
  List.countP_append

@[simp] theorem failures_cons (event : Event) (rest : List Event) :
    failures (event :: rest) =
      (if event.isCheckFailed then 1 else 0) + failures rest := by
  unfold failures
  rw [List.countP_cons, Nat.add_comm]

/-- How many checks failed. -/
def failedChecks (checks : List Check) : Nat := checks.countP fun check => !check.passed

theorem Tally.ofChecks_passed_add_failedChecks (checks : List Check) :
    (Tally.ofChecks checks).passed + failedChecks checks = (Tally.ofChecks checks).run := by
  have hsplit := List.length_eq_countP_add_countP Check.passed (l := checks)
  simpa [Tally.ofChecks, failedChecks] using hsplit.symm

theorem failures_eq_length_reportedChecks (events : List Event) :
    failures events = (reportedChecks events).length := by
  unfold failures reportedChecks
  rw [List.length_filterMap_eq_countP]
  apply List.countP_congr
  intro event _
  cases event with
  | notify notification =>
      cases notification with
      | checkFailed group ordinal name check => simp [Event.isCheckFailed, Event.check?]
      | _ => simp [Event.isCheckFailed, Event.check?]
  | invoke invocation => simp [Event.isCheckFailed, Event.check?]

theorem GroupRecord.failures_trace (settings : Settings) (record : GroupRecord) :
    failures (record.trace settings) = failedChecks (record.checks settings) := by
  rw [failures_eq_length_reportedChecks, GroupRecord.reportedChecks_trace]
  exact List.countP_eq_length_filter.symm

/-- Every check of a group passed or was reported as failed. -/
theorem GroupRecord.passed_add_failures (settings : Settings) (record : GroupRecord) :
    (record.tally settings).passed + failures (record.trace settings) =
      (record.tally settings).run := by
  rw [record.failures_trace]
  exact Tally.ofChecks_passed_add_failedChecks (record.checks settings)

/-! ## Sessions -/

theorem checksRun_of_entries (settings : Settings) {summary : Summary}
    {records : List GroupRecord}
    (hentries : summary.groups = records.map (·.entry settings)) :
    summary.checksPassed + failures (groupsTrace settings records) = summary.checksRun := by
  unfold Summary.checksPassed Summary.checksRun groupsTrace
  rw [hentries]
  clear hentries
  induction records with
  | nil => rfl
  | cons record rest ih =>
      have hrecord := record.passed_add_failures settings
      simp only [List.map_cons, List.foldr_cons, List.flatMap_cons, failures_append]
      change (record.tally settings).passed + _ + _ = (record.tally settings).run + _
      omega

section

variable {σ : Type} (invoker : Invoker σ) (settings : Settings)

/-- Over a whole session, the checks that passed and the notices about failed ones
make up the checks that were run. -/
theorem runSession_passed_add_failures
    (suite : Suite) (selector : TagSelector) (world : World σ) :
    let result := runSession invoker settings suite selector world
    result.summary.checksPassed + failures result.events = result.summary.checksRun := by
  obtain ⟨hevents, _, hentries⟩ :=
    runGroups_eq_recordGroups invoker settings selector suite.groups world
  have htotal := checksRun_of_entries settings hentries
  simp only [runSession, hevents, failures_append]
  exact htotal

/-- Checks add up.  In a group, the passed checks and the reports of failed ones make
up the checks that were run, and these are what the compilations and the cases of
the group's runs contribute.  Hence in no session do more checks pass than are run. -/
theorem checks_add_up :
    (∀ (group : Group) (world : World σ),
      let result := runGroup invoker settings group world
      let records := (recordGroup invoker settings group world).1.runs
      result.tally.passed + failures result.events = result.tally.run ∧
        records.map (fun record => (record.run, record.compiled.map (·.compilation))) =
          group.runs.map (fun run => (run, run.compilation)) ∧
        result.tally.run =
          (records.map fun record => record.compileCount + record.caseCount).sum) ∧
      ∀ (suite : Suite) (selector : TagSelector) (world : World σ),
        let summary := (runSession invoker settings suite selector world).summary
        (∀ entry ∈ summary.groups, entry.tally.passed ≤ entry.tally.run) ∧
          summary.checksPassed ≤ summary.checksRun := by
  constructor
  · intro group world
    rw [runGroup_eq_recordGroup]
    refine ⟨GroupRecord.passed_add_failures settings _, ?_,
      recordGroup_tally_run invoker settings group world⟩
    apply thread_map
    intro run state
    rw [recordRun_run, recordRun_compilation]
  · intro suite selector world
    obtain ⟨_, _, hentries⟩ :=
      runGroups_eq_recordGroups invoker settings selector suite.groups world
    have htotal := runSession_passed_add_failures invoker settings suite selector world
    refine ⟨?_, by simp only at htotal; omega⟩
    intro entry hentry
    simp only [runSession, hentries, List.mem_map] at hentry
    obtain ⟨record, _, rfl⟩ := hentry
    have hrecord := record.passed_add_failures settings
    change (record.tally settings).passed ≤ (record.tally settings).run
    omega

end

end Conformance
