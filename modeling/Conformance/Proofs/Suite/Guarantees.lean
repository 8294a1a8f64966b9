import Conformance.Proofs.Session.CheckKinds
import Conformance.Proofs.Session.Reports
import Conformance.Proofs.Suite.WellFormed

/-!
# What a loaded suite guarantees

Something is expected of every case of a loaded suite, so a session over it makes no
check for want of an expectation, and reports none, whatever the children do.
-/

namespace Conformance

theorem Suite.WellFormed.hasMetric {suite : Suite} (hformed : suite.WellFormed) :
    ∀ group ∈ suite.groups, ∀ run ∈ group.runs, ∀ case ∈ run.cases, case.hasMetric = true := by
  intro group hgroup run hrun case hcase
  have hexpects :=
    hformed.expectations run (List.mem_flatMap.mpr ⟨group, hgroup, hrun⟩) case hcase
  simpa [TestCase.hasMetric, Option.isSome_iff_ne_none] using hexpects

section

variable {σ : Type} (invoker : Invoker σ) (settings : Settings)

theorem sessionHistory_measured {suite : Suite} (hformed : suite.WellFormed)
    (selector : TagSelector) (world : World σ) :
    ∀ record ∈ (sessionHistory invoker settings suite selector world).1,
      Measured (record.checks settings) := by
  apply recordGroups_measured
  intro group hgroup
  exact hformed.hasMetric group (List.mem_of_mem_filter hgroup)

end

/-- A suite that is loaded is well formed over all its files, and no session over it
makes or reports a check for want of an expectation. -/
theorem loadSuite_guarantees {files : FileTree} {root : Path} {suite : Suite}
    (hsuite : loadSuite files root = .ok suite) :
    suite.WellFormed ∧
      ∀ {σ : Type} (invoker : Invoker σ) (settings : Settings) (selector : TagSelector)
        (world : World σ),
        (∀ record ∈ (sessionHistory invoker settings suite selector world).1,
          ∀ check ∈ record.checks settings, check.kind ≠ .metric) ∧
        ∀ run ordinal command check,
          Event.notify (.checkFailed run ordinal command check) ∈
            (runSession invoker settings suite selector world).events →
          check.kind ≠ .metric := by
  have hformed := loadSuite_wellFormed hsuite
  refine ⟨hformed, ?_⟩
  intro σ invoker settings selector world
  have hmade : ∀ record ∈ (sessionHistory invoker settings suite selector world).1,
      ∀ check ∈ record.checks settings, check.kind ≠ .metric := by
    intro record hrecord check hcheck hkind
    apply sessionHistory_measured invoker settings hformed selector world record hrecord
    exact hkind ▸ List.mem_map_of_mem hcheck
  refine ⟨hmade, ?_⟩
  intro run ordinal command check hevent
  have hreported : check ∈ reportedChecks
      (runSession invoker settings suite selector world).events :=
    List.mem_filterMap.mpr ⟨_, hevent, rfl⟩
  rw [reportedChecks_runSession] at hreported
  obtain ⟨record, hrecord, hcheck⟩ := List.mem_flatMap.mp (List.mem_of_mem_filter hreported)
  exact hmade record hrecord check hcheck

/-! ## A suite of two files -/

/-- A directory with two specifications; the one that comes first by name is listed
last. -/
def sampleTree : FileTree where
  home := ["w"]
  entries :=
    [(["w"], .directory), (["w", "d"], .directory),
      (["w", "d", "b.yml"],
        .file (bytesOfText "1: \x7bruns: [\x7bexec: b/c, compile: \x7b\x7d\x7d]\x7d") false),
      (["w", "d", "a.yaml"],
        .file (bytesOfText
          "s: \x7btags: [Up], runs: [\x7bexec: a, compile: \x7b\x7d, tests: [\x7breturn: 0\x7d]\x7d]\x7d")
          false)]

def sampleSuite : Suite where
  groups :=
    [⟨"s", "", ["up"], .one, [⟨"a", some ⟨[], [], false, none⟩, [⟨[], some 0, none, false⟩]⟩]⟩,
      ⟨"1", "", [], .one, [⟨"b/c", some ⟨[], [], false, none⟩, []⟩]⟩]

theorem loadSuite_sampleTree : loadSuite sampleTree ⟨"d"⟩ = .ok sampleSuite := by
  decide +kernel

/-- The check that fails when the first executable exits with code three. -/
def sampleFailure : Check :=
  .fail .returnCode (.contrast "Execution failed with incorrect return value" "0" "3")

theorem loadSuite_sampleTree_guarantees :
    let session := runSession .scripted .default sampleSuite ⟨[], false⟩
      ⟨{ home := [], entries := [] },
        [⟨[], .ok ⟨some 0, [], false⟩⟩, ⟨[], .ok ⟨some 3, [], false⟩⟩]⟩
    loadSuite sampleTree ⟨"d"⟩ = .ok sampleSuite ∧ sampleSuite.WellFormed ∧
      .notify (.checkFailed 0 2 "a" sampleFailure) ∈ session.events ∧
      sampleFailure.kind ≠ .metric := by
  intro session
  have hreported : .notify (.checkFailed 0 2 "a" sampleFailure) ∈ session.events := by
    decide +kernel
  obtain ⟨hformed, hsession⟩ := loadSuite_guarantees loadSuite_sampleTree
  exact ⟨loadSuite_sampleTree, hformed, hreported,
    (hsession _ _ _ _).2 0 2 "a" sampleFailure hreported⟩

end Conformance
