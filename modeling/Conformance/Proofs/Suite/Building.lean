import Conformance.Proofs.Suite.Loading

/-!
# What building accepts

Building checks drafts and changes nothing in them: a run is built exactly if it
names an executable and something is expected of each of its tests, a group exactly
if its threshold is a fraction, its runs are there and each of them can be built.
Each builder has one equation that says when it succeeds and with what.
-/

namespace Conformance

/-! ## Runs -/

/-- The draft names an executable, and something is expected of each of its tests. -/
structure RunDraft.IsSound (draft : RunDraft) : Prop where
  executable : allBlank draft.executable = false
  tests : ∀ test ∈ draft.tests, test.toCase.hasMetric = true

/-- The run that a draft describes. -/
def RunDraft.toRun (draft : RunDraft) : TestRun :=
  ⟨draft.executable, draft.compilation.map (·.toCompilation), draft.tests.map (·.toCase)⟩

theorem buildCases_eq_ok {group : String} {run index : Nat} {drafts : List CaseDraft}
    {cases : List TestCase} :
    buildCases group run index drafts = .ok cases ↔
      (∀ draft ∈ drafts, draft.toCase.hasMetric = true) ∧ cases = drafts.map (·.toCase) := by
  induction drafts generalizing index cases with
  | nil =>
      simp only [buildCases, Except.ok.injEq, List.not_mem_nil, false_implies, implies_true,
        true_and, List.map_nil]
      exact eq_comm
  | cons draft rest ih =>
      rw [List.forall_mem_cons, List.map_cons, buildCases]
      by_cases hmetric : draft.toCase.hasMetric
      · simp only [hmetric, if_true, true_and, bind_eq_ok, ih, Except.ok.injEq]
        constructor
        · intro hbuild
          obtain ⟨later, hlater, hcases⟩ := hbuild
          have hrest : ∀ draft ∈ rest, draft.toCase.hasMetric = true := hlater.1
          rw [hlater.2] at hcases
          exact ⟨hrest, hcases.symm⟩
        · intro hmetrics
          have hrest : ∀ draft ∈ rest, draft.toCase.hasMetric = true := hmetrics.1
          exact ⟨rest.map (·.toCase), ⟨hrest, rfl⟩, hmetrics.2.symm⟩
      · simp [hmetric]

theorem buildRun_eq_ok {group : String} {index : Nat} {draft : RunDraft} {run : TestRun} :
    buildRun group index draft = .ok run ↔ draft.IsSound ∧ run = draft.toRun := by
  unfold buildRun
  by_cases hblank : allBlank draft.executable
  · simp only [hblank, if_true, reduceCtorEq, false_iff, not_and]
    intro hsound
    rw [hsound.executable] at hblank
    cases hblank
  · simp only [hblank, Bool.false_eq_true, if_false, bind_eq_ok, buildCases_eq_ok,
      Except.ok.injEq]
    constructor
    · intro hbuild
      obtain ⟨cases, hcases, hrun⟩ := hbuild
      have hnamed : allBlank draft.executable = false := by
        simpa using hblank
      have hsound : draft.IsSound := ⟨hnamed, hcases.1⟩
      rw [hcases.2] at hrun
      exact ⟨hsound, hrun.symm⟩
    · intro hdraft
      have hcases : buildCases group index 0 draft.tests = .ok draft.toRun.cases :=
        buildCases_eq_ok.mpr ⟨hdraft.1.tests, rfl⟩
      exact ⟨draft.toRun.cases, buildCases_eq_ok.mp hcases, hdraft.2.symm⟩

theorem buildRuns_eq_ok {group : String} {index : Nat} {drafts : List RunDraft}
    {runs : List TestRun} :
    buildRuns group index drafts = .ok runs ↔
      (∀ draft ∈ drafts, draft.IsSound) ∧ runs = drafts.map (·.toRun) := by
  induction drafts generalizing index runs with
  | nil =>
      simp only [buildRuns, Except.ok.injEq, List.not_mem_nil, false_implies, implies_true,
        true_and, List.map_nil]
      exact eq_comm
  | cons draft rest ih =>
      simp only [buildRuns, bind_eq_ok, buildRun_eq_ok, ih, Except.ok.injEq,
        List.forall_mem_cons, List.map_cons]
      constructor
      · intro hbuild
        obtain ⟨run, hrun, later, hlater, hruns⟩ := hbuild
        have hhead : draft.IsSound := hrun.1
        have hrest : ∀ other ∈ rest, other.IsSound := hlater.1
        rw [hrun.2, hlater.2] at hruns
        exact ⟨⟨hhead, hrest⟩, hruns.symm⟩
      · intro hsound
        have hhead : draft.IsSound := hsound.1.1
        have hrest : ∀ other ∈ rest, other.IsSound := hsound.1.2
        exact ⟨draft.toRun, ⟨hhead, rfl⟩, rest.map (·.toRun), ⟨hrest, rfl⟩, hsound.2.symm⟩

/-! ## Groups -/

/-- The threshold of a group that is built from the draft. -/
def GroupDraft.threshold (draft : GroupDraft) : Binary64 := draft.panic.getD defaultThreshold

theorem buildGroup_eq_ok {name : String} {draft : GroupDraft} {group : Group} :
    buildGroup name draft = .ok group ↔
      draft.threshold.inUnitInterval = true ∧
        ∃ drafts, draft.runs = some drafts ∧ (∀ run ∈ drafts, run.IsSound) ∧
          group = ⟨name, draft.description.getD "", tagSet draft.tags, draft.threshold,
            drafts.map (·.toRun)⟩ := by
  unfold buildGroup
  rw [← GroupDraft.threshold]
  by_cases hinterval : draft.threshold.inUnitInterval
  · cases hruns : draft.runs with
    | none => simp [hinterval]
    | some drafts =>
        simp only [hinterval, Bool.not_true, Bool.false_eq_true, if_false, bind_eq_ok,
          buildRuns_eq_ok, Except.ok.injEq, true_and, Option.some.injEq, exists_eq_left']
        constructor
        · intro hbuild
          obtain ⟨runs, hruns, hgroup⟩ := hbuild
          have hsound : ∀ run ∈ drafts, run.IsSound := hruns.1
          rw [hruns.2] at hgroup
          exact ⟨hsound, hgroup.symm⟩
        · intro hdrafts
          have hsound : ∀ run ∈ drafts, run.IsSound := hdrafts.1
          exact ⟨drafts.map (·.toRun), ⟨hsound, rfl⟩, hdrafts.2.symm⟩
  · simp [hinterval]

theorem Group.IsBuilt.threshold_inUnitInterval {group : Group} (hbuilt : group.IsBuilt) :
    group.threshold.inUnitInterval = true := by
  obtain ⟨name, draft, hgroup⟩ := hbuilt
  obtain ⟨hinterval, drafts, _, _, rfl⟩ := buildGroup_eq_ok.mp hgroup
  exact hinterval

end Conformance
