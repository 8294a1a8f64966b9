import Conformance.Proofs.Session.Replay

/-!
# What the checks of a session verify

Each stage yields checks of its own kinds, whatever the children do: compilations
those of the compiler and of its assembly, executions one for each field of the case
that states an expectation.  A check for want of an expectation comes only from a case
without any.
-/

namespace Conformance

/-! ## Stages -/

/-- The kinds of a case's expectations, in the order in which they are checked. -/
def TestCase.kinds (case : TestCase) : List CheckKind :=
  (if case.expectedCode.isSome then [.returnCode] else []) ++
    (if case.expectedOutput.isSome then [.output] else [])

theorem TestCase.metric_notMem_kinds (case : TestCase) : CheckKind.metric ∉ case.kinds := by
  unfold TestCase.kinds
  split <;> split <;> simp

theorem checkReturnCode_kind (expected : Int) (expectFailure : Bool) (outcome : Outcome) :
    (checkReturnCode expected expectFailure outcome).kind = .returnCode := by
  unfold checkReturnCode
  split
  all_goals rfl

theorem checkOutput_kind
    (files : FileTree) (expected : Path) (expectFailure : Bool) (outcome : Outcome) :
    (checkOutput files expected expectFailure outcome).1.kind = .output := by
  unfold checkOutput
  split
  · rfl
  · dsimp only
    split
    all_goals rfl

/-- Without an outcome every expectation fails for the same reason. -/
theorem failEvery_eq_map (case : TestCase) (message : String) :
    failEvery case message = case.kinds.map fun kind => .fail kind (.plain message) := by
  unfold failEvery TestCase.kinds
  rw [List.map_append]
  congr 1
  · split
    · rfl
    · rfl
  · split
    · rfl
    · rfl

/-- An outcome is compared with each expectation by itself. -/
theorem judgeOutcome_checks
    (settings : Settings) (case : TestCase) (files : FileTree) (outcome : Outcome) :
    (judgeOutcome settings case files outcome).1 =
      case.expectedCode.toList.map
          (fun code => checkReturnCode code case.expectFailure outcome) ++
        case.expectedOutput.toList.map fun expected =>
          (checkOutput files (settings.resolve expected) case.expectFailure outcome).1 := by
  unfold judgeOutcome
  cases case.expectedOutput with
  | none =>
      cases case.expectedCode with
      | none => rfl
      | some code => rfl
  | some expected =>
      cases case.expectedCode with
      | none => rfl
      | some code => rfl

theorem judgeOutcome_kinds
    (settings : Settings) (case : TestCase) (files : FileTree) (outcome : Outcome) :
    (judgeOutcome settings case files outcome).1.map (·.kind) = case.kinds := by
  rw [judgeOutcome_checks, List.map_append, TestCase.kinds]
  congr 1
  · cases case.expectedCode with
    | none => rfl
    | some code => simp [checkReturnCode_kind]
  · cases case.expectedOutput with
    | none => rfl
    | some expected => simp [checkOutput_kind]

/-- An execution is checked once for each expectation. -/
theorem executeChecks_kinds
    (settings : Settings) (run : TestRun) (case : TestCase) (files : FileTree)
    (reply : Reply) :
    (executeChecks settings run case files reply).1.map (·.kind) = case.kinds := by
  have hevery (message : String) : (failEvery case message).map (·.kind) = case.kinds := by
    rw [failEvery_eq_map, List.map_map]
    exact List.map_id _
  cases reply with
  | error cause => exact hevery _
  | ok outcome =>
      simp only [executeChecks]
      cases outcome.timedOut with
      | true => exact hevery _
      | false => exact judgeOutcome_kinds settings case files outcome

/-- A comparison of assembly is about assembly, and no output is kept for it. -/
theorem compareAssembly_eq (files : FileTree) (expected emitted : Path) :
    ∃ failure : Option Failure, compareAssembly files expected emitted = ⟨.assembly, failure⟩ ∧
      failure.bind (·.observedFile) = none := by
  unfold compareAssembly
  split
  · exact ⟨_, rfl, rfl⟩
  · split
    · split
      · exact ⟨_, rfl, rfl⟩
      · exact ⟨_, rfl, rfl⟩
    · exact ⟨_, rfl, rfl⟩

theorem compareAssembly_kind (files : FileTree) (expected emitted : Path) :
    (compareAssembly files expected emitted).kind = .assembly := by
  obtain ⟨failure, hcompared, _⟩ := compareAssembly_eq files expected emitted
  rw [hcompared]

/-- The comparison with the assembly that is expected of a compilation. -/
def CompileRecord.comparisons (settings : Settings) (record : CompileRecord) : List Check :=
  record.compilation.expectedAssembly.toList.map fun expected =>
    compareAssembly record.files (settings.resolve expected) settings.assembly

/-- A clean compilation passes, and its assembly is compared; of any other compilation
nothing but its outcome is checked. -/
theorem CompileRecord.compileChecks_cases (settings : Settings) (record : CompileRecord) :
    let checks := (compileChecks settings record.compilation record.files record.reply).1
    record.isClean = true ∧ checks = .pass .compile :: record.comparisons settings ∨
      record.isClean = false ∧ ∃ failure : Option Failure,
        checks = [⟨.compile, failure⟩] ∧ failure.bind (·.observedFile) = none := by
  obtain ⟨compilation, reply, files⟩ := record
  cases reply with
  | error cause => exact .inr ⟨rfl, _, rfl, rfl⟩
  | ok outcome =>
      simp only [compileChecks, CompileRecord.isClean]
      cases outcome.timedOut with
      | true => exact .inr ⟨rfl, _, rfl, rfl⟩
      | false =>
          unfold classifyCompilation CompileRecord.comparisons
          cases decide (outcome.exitCode = some 0) with
          | false =>
              cases compilation.expectFailure with
              | false => exact .inr ⟨rfl, _, rfl, rfl⟩
              | true => exact .inr ⟨rfl, _, rfl, rfl⟩
          | true =>
              cases compilation.expectFailure with
              | true => exact .inr ⟨rfl, _, rfl, rfl⟩
              | false =>
                  cases compilation.expectedAssembly with
                  | none => exact .inl ⟨rfl, rfl⟩
                  | some expected => exact .inl ⟨rfl, rfl⟩

/-- The kinds of the checks of a compilation: its assembly is checked if it was clean
and assembly is expected. -/
def CompileRecord.kinds (record : CompileRecord) : List CheckKind :=
  if record.isClean && record.compilation.expectedAssembly.isSome then [.compile, .assembly]
  else [.compile]

theorem CompileRecord.metric_notMem_kinds (record : CompileRecord) :
    CheckKind.metric ∉ record.kinds := by
  unfold CompileRecord.kinds
  split
  · simp
  · simp

theorem compileChecks_kinds (settings : Settings) (record : CompileRecord) :
    (compileChecks settings record.compilation record.files record.reply).1.map (·.kind) =
      record.kinds := by
  cases record.compileChecks_cases settings with
  | inl hready =>
      obtain ⟨hclean, hchecks⟩ := hready
      rw [hchecks, CompileRecord.kinds, CompileRecord.comparisons, hclean]
      cases record.compilation.expectedAssembly with
      | none => simp [Check.pass]
      | some expected => simp [Check.pass, compareAssembly_kind]
  | inr hstopped =>
      obtain ⟨hclean, _, hchecks, _⟩ := hstopped
      simp [hchecks, CompileRecord.kinds, hclean]

/-! ## Checks without an expectation -/

/-- None of the checks was made for want of an expectation. -/
def Measured (checks : List Check) : Prop := CheckKind.metric ∉ checks.map (·.kind)

theorem measured_flatMap {α : Type} {list : List α} {checks : α → List Check} :
    Measured (list.flatMap checks) ↔ ∀ a ∈ list, Measured (checks a) := by
  unfold Measured
  rw [List.map_flatMap, List.mem_flatMap]
  simp only [not_exists, not_and]

theorem compileChecks_measured (settings : Settings) (record : CompileRecord) :
    Measured (compileChecks settings record.compilation record.files record.reply).1 := by
  unfold Measured
  rw [compileChecks_kinds]
  exact record.metric_notMem_kinds

theorem executeChecks_measured
    (settings : Settings) (run : TestRun) (case : TestCase) (files : FileTree)
    (reply : Reply) : Measured (executeChecks settings run case files reply).1 := by
  unfold Measured
  rw [executeChecks_kinds]
  exact case.metric_notMem_kinds

section

variable {σ : Type} (invoker : Invoker σ) (settings : Settings)

theorem recordCase_measured (run : TestRun) {case : TestCase} (hmetric : case.hasMetric = true)
    (world : World σ) :
    Measured ((recordCase invoker settings run case world).1.stage settings run).checks := by
  unfold recordCase
  simp only [hmetric, if_true]
  exact executeChecks_measured settings run case _ _

theorem recordRun_measured {run : TestRun}
    (hmetric : ∀ case ∈ run.cases, case.hasMetric = true) (world : World σ) :
    Measured ((recordRun invoker settings run world).1.checks settings) := by
  have hcases := fun state => thread_forall
    (P := fun record : CaseRecord => Measured (record.stage settings run).checks)
    (fun case hcase => recordCase_measured invoker settings run (hmetric case hcase)) state
  have hcompiled := fun compilation : Compilation =>
    compileChecks_measured settings (recordCompilation invoker settings run compilation world).1
  unfold recordRun RunRecord.checks RunRecord.stages
  rw [measured_flatMap]
  intro stage hstage
  cases hcompilation : run.compilation with
  | none =>
      simp only [hcompilation, Option.map_none, Option.toList_none, List.nil_append,
        List.mem_map] at hstage
      obtain ⟨record, hrecord, rfl⟩ := hstage
      exact hcases _ record hrecord
  | some compilation =>
      simp only [hcompilation] at hstage
      split at hstage
      · simp only [Option.map_some, Option.toList_some, List.singleton_append, List.mem_cons,
          List.mem_map] at hstage
        cases hstage with
        | inl hcompile =>
            rw [hcompile]
            exact hcompiled compilation
        | inr hcase =>
            obtain ⟨record, hrecord, hstage⟩ := hcase
            rw [← hstage]
            exact hcases _ record hrecord
      · simp only [Option.map_some, Option.toList_some, List.map_nil, List.append_nil,
          List.mem_singleton] at hstage
        rw [hstage]
        exact hcompiled compilation

theorem recordGroup_measured {group : Group}
    (hmetric : ∀ run ∈ group.runs, ∀ case ∈ run.cases, case.hasMetric = true)
    (world : World σ) :
    Measured ((recordGroup invoker settings group world).1.checks settings) := by
  rw [GroupRecord.checks, measured_flatMap]
  exact thread_forall
    (fun run hrun => recordRun_measured invoker settings (hmetric run hrun)) world

theorem recordGroups_measured {groups : List Group}
    (hmetric : ∀ group ∈ groups, ∀ run ∈ group.runs, ∀ case ∈ run.cases,
      case.hasMetric = true)
    (world : World σ) :
    ∀ record ∈ (recordGroups invoker settings groups world).1,
      Measured (record.checks settings) :=
  recordGroups_forall invoker settings
    (fun group hgroup => recordGroup_measured invoker settings (hmetric group hgroup)) world

end

end Conformance
