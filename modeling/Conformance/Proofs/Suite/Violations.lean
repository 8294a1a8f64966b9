import Conformance.Proofs.Suite.WellFormed
import Mathlib.Data.String.Basic

/-!
# The first violation of a document

Building a group fails with the first violation: its threshold, its missing runs, then what is
wrong with its runs in order, where a run without a name comes before what is wrong with its
tests.  If nothing is violated, the group says what its draft says, field by field.  A
document fails with the first of its groups, and yields none of them or all.
-/

namespace Conformance

open Yaml (Value)

/-! ## What a draft describes -/

structure CaseDraft.Describes (draft : CaseDraft) (case : TestCase) : Prop where
  arguments : case.arguments = draft.arguments
  expectedCode : case.expectedCode = draft.returnCode
  expectedOutput : case.expectedOutput = draft.output
  expectFailure : case.expectFailure = draft.fail

structure CompilationDraft.Describes (draft : CompilationDraft) (compilation : Compilation) :
    Prop where
  sources : compilation.sources = draft.files
  options : compilation.options = draft.arguments
  expectFailure : compilation.expectFailure = draft.fail
  expectedAssembly : compilation.expectedAssembly = draft.assembly

structure RunDraft.Describes (draft : RunDraft) (run : TestRun) : Prop where
  executable : run.executable = draft.executable
  compilation : Option.Rel CompilationDraft.Describes draft.compilation run.compilation
  cases : List.Forall₂ CaseDraft.Describes draft.tests run.cases

/-- What is not written has its default, and tags are kept as an increasing list. -/
structure GroupDraft.Describes (name : String) (draft : GroupDraft) (group : Group) : Prop where
  name : group.name = name
  description : group.description = draft.description.getD ""
  threshold : group.threshold = draft.panic.getD .one
  tags : ∀ tag, tag ∈ group.tags ↔ ∃ written ∈ draft.tags, lowercase written = tag
  increasing : group.tags.Pairwise (· < ·)
  runs : ∃ drafts, draft.runs = some drafts ∧
    List.Forall₂ RunDraft.Describes drafts group.runs

theorem pairwise_insertText {text : String} {texts : List String}
    (htexts : texts.Pairwise (· < ·)) : (insertText text texts).Pairwise (· < ·) := by
  induction texts with
  | nil => simp [insertText]
  | cons first rest ih =>
      obtain ⟨hfirst, hrest⟩ := List.pairwise_cons.mp htexts
      rw [insertText]
      by_cases hsame : text = first
      · rw [if_pos hsame]
        exact htexts
      · rw [if_neg hsame]
        by_cases hlt : text < first
        · rw [if_pos hlt]
          refine List.pairwise_cons.mpr ⟨List.forall_mem_cons.mpr ⟨hlt, ?_⟩, htexts⟩
          exact fun other hother => hlt.trans (hfirst other hother)
        · rw [if_neg hlt]
          refine List.pairwise_cons.mpr ⟨?_, ih hrest⟩
          intro other hother
          cases mem_insertText.mp hother with
          | inl htext =>
              rw [htext]
              exact lt_of_le_of_ne (not_lt.mp hlt) (Ne.symm hsame)
          | inr hrest => exact hfirst other hrest

theorem pairwise_textSet (texts : List String) : (textSet texts).Pairwise (· < ·) := by
  induction texts with
  | nil => exact .nil
  | cons text rest ih => exact pairwise_insertText ih

theorem RunDraft.describes_toRun (draft : RunDraft) : draft.Describes draft.toRun where
  executable := rfl
  compilation := by
    cases hcompilation : draft.compilation with
    | none => simp [toRun, hcompilation]
    | some compilation =>
        simpa [toRun, hcompilation] using Option.Rel.some ⟨rfl, rfl, rfl, rfl⟩
  cases := by
    rw [toRun, List.forall₂_map_right_iff, List.forall₂_same]
    exact fun test _ => ⟨rfl, rfl, rfl, rfl⟩

theorem GroupDraft.describes_of_build {name : String} {draft : GroupDraft} {group : Group}
    (hgroup : buildGroup name draft = .ok group) : draft.Describes name group := by
  obtain ⟨_, drafts, hruns, _, rfl⟩ := buildGroup_eq_ok.mp hgroup
  refine ⟨rfl, rfl, rfl, fun tag => mem_tagSet, pairwise_textSet _, drafts, hruns, ?_⟩
  rw [List.forall₂_map_right_iff, List.forall₂_same]
  exact fun run _ => run.describes_toRun

/-! ## What is valid -/

theorem Binary64.inUnitInterval_iff {x : Binary64} : x.inUnitInterval = true ↔ x.IsFraction := by
  constructor
  · intro hinterval
    exact Binary64.isFraction_of_inUnitInterval hinterval
  · intro hfraction
    obtain ⟨negative, units, hx, hlow, hhigh⟩ := hfraction
    unfold inUnitInterval zero one
    rw [hx]
    generalize unitsPerOne = bound at hhigh ⊢
    simpa [le, signedUnits] using And.intro hlow hhigh

theorem CaseDraft.hasMetric_toCase {draft : CaseDraft} :
    draft.toCase.hasMetric = true ↔ draft.returnCode ≠ none ∨ draft.output ≠ none := by
  simp [TestCase.hasMetric, CaseDraft.toCase, Option.isSome_iff_ne_none]

theorem CaseDraft.hasMetric_toCase_eq_false {draft : CaseDraft} :
    draft.toCase.hasMetric = false ↔ draft.returnCode = none ∧ draft.output = none := by
  rw [← Bool.not_eq_true, CaseDraft.hasMetric_toCase, not_or, not_not, not_not]

theorem allBlank_eq_true {text : String} :
    allBlank text = true ↔ ∀ c ∈ text.toList, isBlank c = true :=
  List.all_eq_true

theorem allBlank_eq_false {text : String} :
    allBlank text = false ↔ ∃ c ∈ text.toList, isBlank c = false := by
  simp [allBlank]

theorem RunDraft.isSound_iff {draft : RunDraft} :
    draft.IsSound ↔
      (∃ c ∈ draft.executable.toList, isBlank c = false) ∧
        ∀ test ∈ draft.tests, test.returnCode ≠ none ∨ test.output ≠ none := by
  rw [← allBlank_eq_false]
  simp only [← CaseDraft.hasMetric_toCase]
  constructor
  · intro hsound
    exact ⟨hsound.executable, hsound.tests⟩
  · intro hdraft
    exact ⟨hdraft.1, hdraft.2⟩

/-! ## What building fails with -/

section

variable {group : String} {problem : SpecProblem}

theorem buildCases_eq_error {run index : Nat} {drafts : List CaseDraft} :
    buildCases group run index drafts = .error problem ↔
      ∃ tests test more, drafts = tests ++ test :: more ∧
        (∀ other ∈ tests, other.toCase.hasMetric = true) ∧ test.toCase.hasMetric = false ∧
        problem = .noMetric group run (index + tests.length) := by
  induction drafts generalizing index with
  | nil => simp [buildCases]
  | cons draft rest ih =>
      have hrest := @ih (index + 1)
      simp only [Nat.add_assoc, Nat.add_comm 1] at hrest
      rw [buildCases, exists_split_cons (fun other : CaseDraft => other.toCase.hasMetric = true)
        (fun count test => test.toCase.hasMetric = false ∧
          problem = .noMetric group run (index + count))]
      cases hmetric : draft.toCase.hasMetric with
      | false =>
          simp only [Bool.false_eq_true, if_false, Except.error.injEq, true_and, false_and,
            or_false, Nat.add_zero]
          exact eq_comm
      | true => simp [bind_eq_error, hrest]

/-- The first violation of a run, and the text that says where it is. -/
inductive RunDraft.FirstViolation (group : String) (index : Nat) (draft : RunDraft) :
    SpecProblem → String → Prop
  | blankExecutable (hblank : ∀ c ∈ draft.executable.toList, isBlank c = true) :
      FirstViolation group index draft (.blankExecutable group index)
        ("group `" ++ group ++ "`, run " ++ toString index)
  | noMetric {tests more : List CaseDraft} {test : CaseDraft}
      (hnamed : ∃ c ∈ draft.executable.toList, isBlank c = false)
      (htests : draft.tests = tests ++ test :: more)
      (hmeasured : ∀ other ∈ tests, other.returnCode ≠ none ∨ other.output ≠ none)
      (hmetric : test.returnCode = none ∧ test.output = none) :
      FirstViolation group index draft (.noMetric group index tests.length)
        ("group `" ++ group ++ "`, run " ++ toString index ++ ", test " ++ toString tests.length)

theorem buildRun_eq_error {index : Nat} {draft : RunDraft} :
    buildRun group index draft = .error problem ↔
      ∃ place, draft.FirstViolation group index problem place := by
  unfold buildRun
  cases hblank : allBlank draft.executable with
  | true =>
      have hunnamed : ∀ c ∈ draft.executable.toList, isBlank c = true :=
        allBlank_eq_true.mp hblank
      simp only [if_true, Except.error.injEq]
      constructor
      · intro hproblem
        rw [← hproblem]
        exact ⟨_, .blankExecutable hunnamed⟩
      · intro hfirst
        obtain ⟨place, hviolation⟩ := hfirst
        cases hviolation with
        | blankExecutable _ => rfl
        | noMetric hnamed _ _ _ =>
            have hvisible : allBlank draft.executable = false := allBlank_eq_false.mpr hnamed
            rw [hblank] at hvisible
            cases hvisible
  | false =>
      have hnamed : ∃ c ∈ draft.executable.toList, isBlank c = false :=
        allBlank_eq_false.mp hblank
      simp only [Bool.false_eq_true, if_false, bind_eq_error, buildCases_eq_error, reduceCtorEq,
        and_false, exists_false, or_false, Nat.zero_add, CaseDraft.hasMetric_toCase,
        CaseDraft.hasMetric_toCase_eq_false]
      constructor
      · intro hbuild
        obtain ⟨tests, test, more, htests, hmeasured, hmetric, hproblem⟩ := hbuild
        rw [hproblem]
        exact ⟨_, .noMetric hnamed htests hmeasured hmetric⟩
      · intro hfirst
        obtain ⟨place, hviolation⟩ := hfirst
        cases hviolation with
        | blankExecutable hunnamed =>
            have hinvisible : allBlank draft.executable = true := allBlank_eq_true.mpr hunnamed
            rw [hblank] at hinvisible
            cases hinvisible
        | noMetric _ htests hmeasured hmetric =>
            exact ⟨_, _, _, htests, hmeasured, hmetric, rfl⟩

theorem buildRuns_eq_error {index : Nat} {drafts : List RunDraft} :
    buildRuns group index drafts = .error problem ↔
      ∃ before run after, drafts = before ++ run :: after ∧
        (∀ other ∈ before, other.IsSound) ∧
        buildRun group (index + before.length) run = .error problem := by
  induction drafts generalizing index with
  | nil => simp [buildRuns]
  | cons draft rest ih =>
      have hrest := @ih (index + 1)
      simp only [Nat.add_assoc, Nat.add_comm 1] at hrest
      rw [exists_split_cons RunDraft.IsSound
        (fun count run => buildRun group (index + count) run = .error problem)]
      simp only [← hrest, buildRuns, bind_eq_error, buildRun_eq_ok, Nat.add_zero, reduceCtorEq,
        and_false, exists_false, or_false]
      apply or_congr_right
      constructor
      · intro hfails
        obtain ⟨built, hbuilt, hlater⟩ := hfails
        exact ⟨hbuilt.1, hlater⟩
      · intro hfails
        exact ⟨draft.toRun, ⟨hfails.1, rfl⟩, hfails.2⟩

/-- The first violation of a group, and the text that says where it is. -/
inductive GroupDraft.FirstViolation (name : String) (draft : GroupDraft) :
    SpecProblem → String → Prop
  | threshold (hthreshold : ¬ draft.threshold.IsFraction) :
      FirstViolation name draft (.threshold name draft.threshold) ("group `" ++ name ++ "`")
  | noRuns (hthreshold : draft.threshold.IsFraction) (hruns : draft.runs = none) :
      FirstViolation name draft (.noRuns name) ("group `" ++ name ++ "`")
  | run {before after : List RunDraft} {run : RunDraft} {problem : SpecProblem} {place : String}
      (hthreshold : draft.threshold.IsFraction)
      (hruns : draft.runs = some (before ++ run :: after))
      (hbefore : ∀ other ∈ before, other.IsSound)
      (hrun : run.FirstViolation name before.length problem place) :
      FirstViolation name draft problem place

theorem buildGroup_eq_error {draft : GroupDraft} :
    buildGroup group draft = .error problem ↔
      ∃ place, draft.FirstViolation group problem place := by
  have hfraction := Binary64.inUnitInterval_iff (x := draft.threshold)
  have hthresholds : ¬ draft.threshold.IsFraction ↔ draft.threshold.inUnitInterval = false := by
    rw [← hfraction, Bool.not_eq_true]
  unfold buildGroup
  rw [← GroupDraft.threshold]
  cases hinterval : draft.threshold.inUnitInterval with
  | false =>
      have hthreshold := hthresholds.mpr hinterval
      simp only [hinterval, Bool.not_false, if_true, Except.error.injEq]
      constructor
      · intro hproblem
        rw [← hproblem]
        exact ⟨_, .threshold hthreshold⟩
      · intro hfirst
        obtain ⟨place, hviolation⟩ := hfirst
        cases hviolation with
        | threshold _ => rfl
        | noRuns hother _ => exact absurd hother hthreshold
        | run hother _ _ _ => exact absurd hother hthreshold
  | true =>
      have hthreshold := hfraction.mp hinterval
      cases hruns : draft.runs with
      | none =>
          simp only [hinterval, Bool.not_true, Bool.false_eq_true, if_false, Except.error.injEq]
          constructor
          · intro hproblem
            rw [← hproblem]
            exact ⟨_, .noRuns hthreshold hruns⟩
          · intro hfirst
            obtain ⟨place, hviolation⟩ := hfirst
            cases hviolation with
            | threshold hother => exact absurd hthreshold hother
            | noRuns _ _ => rfl
            | run _ hother _ _ =>
                rw [hruns] at hother
                cases hother
      | some drafts =>
          simp only [hinterval, Bool.not_true, Bool.false_eq_true, if_false, bind_eq_error,
            buildRuns_eq_error, reduceCtorEq, and_false, exists_false, or_false, Nat.zero_add]
          constructor
          · intro hbuild
            obtain ⟨before, run, after, hdrafts, hbefore, hfails⟩ := hbuild
            obtain ⟨place, hrun⟩ := buildRun_eq_error.mp hfails
            rw [hdrafts] at hruns
            exact ⟨place, .run hthreshold hruns hbefore hrun⟩
          · intro hfirst
            obtain ⟨place, hviolation⟩ := hfirst
            cases hviolation with
            | threshold hother => exact absurd hthreshold hother
            | noRuns _ hother =>
                rw [hruns] at hother
                cases hother
            | @run before after run _ _ _ hother hbefore hrun =>
                have hdrafts : drafts = before ++ run :: after :=
                  Option.some.inj (hruns.symm.trans hother)
                have hfails : buildRun group before.length run = .error problem :=
                  buildRun_eq_error.mpr ⟨place, hrun⟩
                exact ⟨before, run, after, hdrafts, hbefore, hfails⟩

/-- A message begins with the place of the violation. -/
theorem RunDraft.FirstViolation.message {index : Nat} {draft : RunDraft} {place : String}
    (hviolation : draft.FirstViolation group index problem place) :
    ∃ rest, problem.message = place ++ rest := by
  cases hviolation with
  | blankExecutable => exact ⟨": `exec` must name an executable", rfl⟩
  | noMetric => exact ⟨": no success metric defined", rfl⟩

theorem GroupDraft.FirstViolation.message {draft : GroupDraft} {place : String}
    (hviolation : draft.FirstViolation group problem place) :
    ∃ rest, problem.message = place ++ rest := by
  cases hviolation with
  | threshold =>
      have hplace : "group `" ++ group ++ "`: panic threshold " =
          "group `" ++ group ++ "`" ++ ": panic threshold " := by
        rw [String.append_assoc, String.append_assoc, String.append_assoc]
        rfl
      refine ⟨": panic threshold " ++ (NumberStyle.plain.render draft.threshold ++
        " is outside [0, 1]"), ?_⟩
      rw [← String.append_assoc, ← String.append_assoc, ← hplace]
      rfl
  | noRuns =>
      have hplace : "group `" ++ group ++ "` has no `runs` sequence" =
          "group `" ++ group ++ "`" ++ " has no `runs` sequence" := by
        rw [String.append_assoc, String.append_assoc, String.append_assoc]
        rfl
      exact ⟨_, hplace⟩
  | run _ _ _ hrun => exact hrun.message

end

/-! ## Documents -/

/-- Why an entry of a document is not accepted: its key is no name, its value is no draft, or the
draft is violated. -/
inductive EntryViolation (key value : Value) : SpecProblem → Prop
  | key {problem : SpecProblem} (hkey : groupName key = .error problem) :
      EntryViolation key value problem
  | shape {name : String} {cause : ShapeError} (hkey : groupName key = .ok name)
      (hvalue : GroupDraft.read value = .error cause) :
      EntryViolation key value (.groupShape name cause)
  | draft {name place : String} {draft : GroupDraft} {problem : SpecProblem}
      (hkey : groupName key = .ok name) (hvalue : GroupDraft.read value = .ok draft)
      (hviolation : draft.FirstViolation name problem place) : EntryViolation key value problem

/-- An entry is accepted: its key is a name, and its value a draft that the group is built
from. -/
def EntryAccepted (key value : Value) (group : Group) : Prop :=
  ∃ name draft, groupName key = .ok name ∧ GroupDraft.read value = .ok draft ∧
    buildGroup name draft = .ok group

theorem buildEntry_eq_ok {key value : Value} {group : Group} :
    buildEntry key value = .ok group ↔ EntryAccepted key value group := by
  unfold buildEntry EntryAccepted
  rw [bind_eq_ok]
  apply exists_congr
  intro name
  cases hvalue : GroupDraft.read value with
  | error cause => simp
  | ok draft => simp

theorem buildEntry_eq_error {key value : Value} {problem : SpecProblem} :
    buildEntry key value = .error problem ↔ EntryViolation key value problem := by
  unfold buildEntry
  rw [bind_eq_error]
  constructor
  · intro hfails
    cases hfails with
    | inl hkey => exact .key hkey
    | inr hfails =>
        obtain ⟨name, hkey, hbuild⟩ := hfails
        cases hvalue : GroupDraft.read value with
        | error cause =>
            rw [hvalue] at hbuild
            cases hbuild
            exact .shape hkey hvalue
        | ok draft =>
            rw [hvalue] at hbuild
            obtain ⟨place, hviolation⟩ := buildGroup_eq_error.mp hbuild
            exact .draft hkey hvalue hviolation
  · intro hviolation
    cases hviolation with
    | key hkey => exact .inl hkey
    | @shape name cause hkey hvalue =>
        refine .inr ⟨name, hkey, ?_⟩
        simp only [hvalue]
    | @draft name place draft problem hkey hvalue hviolation =>
        have hbuild : buildGroup name draft = .error problem :=
          buildGroup_eq_error.mpr ⟨place, hviolation⟩
        refine .inr ⟨name, hkey, ?_⟩
        simpa only [hvalue] using hbuild

/-- A document is a suite if it is empty, or if each of its entries is accepted. -/
theorem parseSuite_eq_ok {name source : String} {suite : Suite} :
    parseSuite name source = .ok suite ↔
      Yaml.parseValue source = .ok .null ∧ suite.groups = [] ∨
        ∃ entries, Yaml.parseValue source = .ok (.mapping entries) ∧
          List.Forall₂ (fun entry group => EntryAccepted entry.1 entry.2 group) entries
            suite.groups := by
  obtain ⟨groups⟩ := suite
  unfold parseSuite
  cases Yaml.parseValue source with
  | error fault => simp
  | ok document =>
      cases document with
      | mapping entries =>
          have hentries : buildSuite name (.mapping entries) = .ok ⟨groups⟩ ↔
              List.Forall₂ (fun entry group => EntryAccepted entry.1 entry.2 group) entries
                groups := by
            simp only [buildSuite, bind_eq_ok, mapM_eq_ok, buildEntry_eq_ok, Except.ok.injEq,
              Suite.mk.injEq, exists_eq_right]
          simp only [← hentries, Except.ok.injEq, Value.mapping.injEq, reduceCtorEq, false_and,
            false_or, exists_eq_left']
          cases buildSuite name (.mapping entries) with
          | error problem => simp
          | ok suite => simp
      | null => simp [buildSuite, eq_comm]
      | _ => simp [buildSuite]

theorem parseSuite_mapping_eq_error {name source : String} {entries : List (Value × Value)}
    (hsource : Yaml.parseValue source = .ok (.mapping entries)) {error : SpecError} :
    parseSuite name source = .error error ↔
      ∃ before entry after problem, entries = before ++ entry :: after ∧
        (∀ other ∈ before, ∃ group, EntryAccepted other.1 other.2 group) ∧
        EntryViolation entry.1 entry.2 problem ∧ error = .malformed problem := by
  have hentries (problem : SpecProblem) :
      buildSuite name (.mapping entries) = .error problem ↔
        ∃ before entry after, entries = before ++ entry :: after ∧
          (∀ other ∈ before, ∃ group, EntryAccepted other.1 other.2 group) ∧
          EntryViolation entry.1 entry.2 problem := by
    simp only [buildSuite, bind_eq_error, mapM_eq_error, buildEntry_eq_ok, buildEntry_eq_error,
      reduceCtorEq, and_false, exists_false, or_false]
  have hmalformed : parseSuite name source = .error error ↔
      ∃ problem, buildSuite name (.mapping entries) = .error problem ∧
        error = .malformed problem := by
    simp only [parseSuite, hsource]
    cases buildSuite name (.mapping entries) with
    | error problem => simp [eq_comm]
    | ok suite => simp
  rw [hmalformed]
  constructor
  · intro hfails
    obtain ⟨problem, hbuild, herror⟩ := hfails
    obtain ⟨before, entry, after, hsplit, hbefore, hentry⟩ := (hentries problem).mp hbuild
    exact ⟨before, entry, after, problem, hsplit, hbefore, hentry, herror⟩
  · intro hfirst
    obtain ⟨before, entry, after, problem, hsplit, hbefore, hentry, herror⟩ := hfirst
    have hbuild : buildSuite name (.mapping entries) = .error problem :=
      (hentries problem).mpr ⟨before, entry, after, hsplit, hbefore, hentry⟩
    exact ⟨problem, hbuild, herror⟩

theorem GroupDraft.isFraction_threshold_iff {draft : GroupDraft} :
    draft.threshold.IsFraction ↔ ∀ value, draft.panic = some value → value.IsFraction := by
  unfold threshold
  cases draft.panic with
  | none =>
      have hdefault : defaultThreshold.IsFraction :=
        ⟨false, Binary64.unitsPerOne, rfl, Int.natCast_nonneg _, le_rfl⟩
      simpa using hdefault
  | some value => simp

/-- Groups are built from exactly the drafts that are valid, and say what these say; of any
other draft the first violation is the error, and its message begins with the place.  A
document is a suite of all its entries, or it is none and the error is that of the first entry
that is not accepted. -/
theorem building_accepts_valid_only :
    (∀ name draft,
      ((∃ group, buildGroup name draft = .ok group) ↔
        (∀ value, draft.panic = some value → value.IsFraction) ∧
          ∃ drafts, draft.runs = some drafts ∧ ∀ run ∈ drafts,
            (∃ c ∈ run.executable.toList, isBlank c = false) ∧
              ∀ test ∈ run.tests, test.returnCode ≠ none ∨ test.output ≠ none) ∧
      (∀ group, buildGroup name draft = .ok group → draft.Describes name group) ∧
      (∀ problem, buildGroup name draft = .error problem ↔
        ∃ place, draft.FirstViolation name problem place) ∧
      (∀ problem place, draft.FirstViolation name problem place →
        ∃ rest, problem.message = place ++ rest)) ∧
    (∀ name source,
      (∀ suite, parseSuite name source = .ok suite ↔
        Yaml.parseValue source = .ok .null ∧ suite.groups = [] ∨
          ∃ entries, Yaml.parseValue source = .ok (.mapping entries) ∧
            List.Forall₂ (fun entry group => EntryAccepted entry.1 entry.2 group) entries
              suite.groups) ∧
      (∀ entries, Yaml.parseValue source = .ok (.mapping entries) →
        ∀ error, parseSuite name source = .error error ↔
          ∃ before entry after problem, entries = before ++ entry :: after ∧
            (∀ other ∈ before, ∃ group, EntryAccepted other.1 other.2 group) ∧
            EntryViolation entry.1 entry.2 problem ∧ error = .malformed problem)) := by
  constructor
  · intro name draft
    refine ⟨?accepted, fun group => GroupDraft.describes_of_build,
      fun problem => buildGroup_eq_error, fun problem place h => h.message⟩
    simp only [buildGroup_eq_ok, Binary64.inUnitInterval_iff, GroupDraft.isFraction_threshold_iff,
      RunDraft.isSound_iff]
    constructor
    · intro hbuild
      obtain ⟨group, hthreshold, drafts, hruns, hsound, _⟩ := hbuild
      exact ⟨hthreshold, drafts, hruns, hsound⟩
    · intro hvalid
      obtain ⟨hthreshold, drafts, hruns, hsound⟩ := hvalid
      exact ⟨_, hthreshold, drafts, hruns, hsound, rfl⟩
  · intro name source
    exact ⟨fun suite => parseSuite_eq_ok, fun entries hsource error =>
      parseSuite_mapping_eq_error hsource⟩

/-- A name that is missing comes before what is wrong with the tests of its run, and behind
what is wrong with the runs before it. -/
example :
    buildGroup "g" ⟨[], none, none, some [⟨"a", none, [⟨[], some 0, none, false⟩]⟩,
      ⟨" ", none, [⟨[], none, none, false⟩]⟩, ⟨"", none, []⟩]⟩ =
        .error (.blankExecutable "g" 1) := by
  decide +kernel

end Conformance
