import Conformance.Proofs.Association
import Conformance.Proofs.Suite.Building
import Conformance.Proofs.Text.Casing

/-!
# Loaded suites are well formed

Names that must differ are compared across all files of a suite, everything else is
checked where a group is built.  The two searches for a repeated name are shown to
fail exactly on lists without repetition, which turns them into invariants of the
groups loaded so far; the rest is read off the drafts the groups were built from.
-/

namespace Conformance

/-! ## Well-formed suites -/

/-- The runs of a suite, in order. -/
def Suite.runs (suite : Suite) : List TestRun := suite.groups.flatMap (·.runs)

/-- The runs that compile their executable. -/
def Suite.compiledRuns (suite : Suite) : List TestRun :=
  suite.runs.filter (·.compilation.isSome)

/-- The number lies between zero and one, both included; in particular it is one. -/
def Binary64.IsFraction (x : Binary64) : Prop :=
  ∃ negative units, x = .finite negative units ∧
    0 ≤ Binary64.signedUnits negative units ∧
    Binary64.signedUnits negative units ≤ Binary64.unitsPerOne

/-- What every suite that is loaded guarantees. -/
structure Suite.WellFormed (suite : Suite) : Prop where
  groupNames : (suite.groups.map (·.name)).Nodup
  thresholds : ∀ group ∈ suite.groups, group.threshold.IsFraction
  executables : ∀ run ∈ suite.runs, ∃ c ∈ run.executable.toList, isBlank c = false
  compiledExecutables : (suite.compiledRuns.map (·.executable)).Nodup
  tags : ∀ group ∈ suite.groups, ∀ tag ∈ group.tags, lowercase tag = tag
  expectations : ∀ run ∈ suite.runs, ∀ case ∈ run.cases,
    case.expectedCode ≠ none ∨ case.expectedOutput ≠ none

/-! ## Groups -/

theorem Binary64.isFraction_of_inUnitInterval {x : Binary64}
    (hinterval : x.inUnitInterval = true) : x.IsFraction := by
  unfold inUnitInterval zero one at hinterval
  unfold IsFraction
  generalize unitsPerOne = bound at hinterval ⊢
  cases x with
  | finite negative units =>
      refine ⟨negative, units, rfl, ?_⟩
      simpa [le, signedUnits] using hinterval
  | infinite negative =>
      cases negative with
      | false => simp [le] at hinterval
      | true => simp [le] at hinterval
  | nan => simp [le] at hinterval

theorem mem_insertText {text other : String} {texts : List String} :
    other ∈ insertText text texts ↔ other = text ∨ other ∈ texts := by
  induction texts with
  | nil => simp [insertText]
  | cons first rest ih =>
      simp only [insertText]
      split
      · rename_i hsame
        simp [hsame]
      · split
        · simp
        · simp only [List.mem_cons, ih]
          exact or_left_comm

theorem mem_textSet {text : String} {texts : List String} :
    text ∈ textSet texts ↔ text ∈ texts := by
  induction texts with
  | nil => simp [textSet]
  | cons first rest ih =>
      rw [List.mem_cons, ← ih]
      exact mem_insertText

/-- The tag set holds the tags as written, each lowered. -/
theorem mem_tagSet {tag : String} {tags : List String} :
    tag ∈ tagSet tags ↔ ∃ written ∈ tags, lowercase written = tag := by
  rw [tagSet, mem_textSet, List.mem_map]

namespace Group.IsBuilt

variable {group : Group}

theorem lowercase_tag (hbuilt : group.IsBuilt) {tag : String} (htag : tag ∈ group.tags) :
    lowercase tag = tag := by
  obtain ⟨name, draft, hgroup⟩ := hbuilt
  obtain ⟨_, drafts, _, _, rfl⟩ := buildGroup_eq_ok.mp hgroup
  obtain ⟨written, _, rfl⟩ := mem_tagSet.mp htag
  exact lowercase_lowercase written

/-- Every run of a group that was built comes from a sound draft. -/
theorem exists_draft (hbuilt : group.IsBuilt) {run : TestRun} (hrun : run ∈ group.runs) :
    ∃ draft : RunDraft, draft.IsSound ∧ run = draft.toRun := by
  obtain ⟨name, draft, hgroup⟩ := hbuilt
  obtain ⟨_, drafts, _, hsound, rfl⟩ := buildGroup_eq_ok.mp hgroup
  obtain ⟨source, hsource, rfl⟩ := List.mem_map.mp hrun
  exact ⟨source, hsound source hsource, rfl⟩

theorem exists_not_isBlank (hbuilt : group.IsBuilt) {run : TestRun} (hrun : run ∈ group.runs) :
    ∃ c ∈ run.executable.toList, isBlank c = false := by
  obtain ⟨draft, hsound, rfl⟩ := hbuilt.exists_draft hrun
  have hblank := hsound.executable
  rw [allBlank, List.all_eq_false] at hblank
  obtain ⟨c, hc, hvisible⟩ := hblank
  exact ⟨c, hc, by simpa using hvisible⟩

theorem hasMetric (hbuilt : group.IsBuilt) {run : TestRun} (hrun : run ∈ group.runs)
    {case : TestCase} (hcase : case ∈ run.cases) : case.hasMetric = true := by
  obtain ⟨draft, hsound, rfl⟩ := hbuilt.exists_draft hrun
  obtain ⟨test, htest, rfl⟩ := List.mem_map.mp hcase
  exact hsound.tests test htest

end Group.IsBuilt

/-! ## Names -/

/-- The names of a list differ among themselves and from those seen before. -/
def FreshNames {α : Type} (name : α → String) (seen : List String) (list : List α) : Prop :=
  (list.map name).Nodup ∧ ∀ a ∈ list, name a ∉ seen

theorem freshNames_cons {α : Type} {name : α → String} {seen : List String} {a : α}
    {rest : List α} :
    FreshNames name seen (a :: rest) ↔
      name a ∉ seen ∧ FreshNames name (name a :: seen) rest := by
  unfold FreshNames
  rw [List.map_cons, List.nodup_cons, List.forall_mem_cons]
  constructor
  · intro hnames
    obtain ⟨hdistinct, ha, hrest⟩ := hnames
    have hfresh : name a ∉ rest.map name := hdistinct.1
    refine ⟨ha, hdistinct.2, ?_⟩
    intro b hb hmem
    cases List.mem_cons.mp hmem with
    | inl hsame =>
        have hb' : name b ∈ rest.map name := List.mem_map_of_mem hb
        rw [hsame] at hb'
        exact hfresh hb'
    | inr hold => exact hrest b hb hold
  · intro hnames
    obtain ⟨ha, hnodup, hrest⟩ := hnames
    have hfresh : name a ∉ rest.map name := by
      intro hmem
      obtain ⟨b, hb, hsame⟩ := List.mem_map.mp hmem
      apply hrest b hb
      rw [hsame]
      exact List.mem_cons_self ..
    have hunseen : ∀ b ∈ rest, name b ∉ seen := by
      intro b hb hold
      exact hrest b hb (List.mem_cons_of_mem _ hold)
    exact ⟨⟨hfresh, hnodup⟩, ha, hunseen⟩

theorem freshNames_nil_iff {α : Type} {name : α → String} {list : List α} :
    FreshNames name [] list ↔ (list.map name).Nodup := by
  simp [FreshNames]

theorem freshNames_append {α : Type} {name : α → String} {seen : List String}
    {first second : List α} :
    FreshNames name seen (first ++ second) ↔
      FreshNames name seen first ∧ FreshNames name (seen ++ first.map name) second := by
  unfold FreshNames
  rw [List.map_append, List.nodup_append, List.forall_mem_append]
  simp only [List.mem_append, not_or, List.mem_map]
  constructor
  · intro hnames
    obtain ⟨hdistinct, hold, hnew⟩ := hnames
    obtain ⟨hfirst, hsecond, hdisjoint⟩ := hdistinct
    have hunseen : ∀ b ∈ second, name b ∉ seen ∧ ¬ ∃ a ∈ first, name a = name b := by
      intro b hb
      refine ⟨hnew b hb, ?_⟩
      intro hshared
      obtain ⟨a, ha, hsame⟩ := hshared
      exact hdisjoint (name a) ⟨a, ha, rfl⟩ (name b) ⟨b, hb, rfl⟩ hsame
    exact ⟨⟨hfirst, hold⟩, hsecond, hunseen⟩
  · intro hnames
    obtain ⟨hbefore, hsecond, hunseen⟩ := hnames
    have hdisjoint : ∀ x, (∃ a ∈ first, name a = x) → ∀ y, (∃ b ∈ second, name b = y) →
        x ≠ y := by
      intro x hx y hy hsame
      obtain ⟨a, ha, hax⟩ := hx
      obtain ⟨b, hb, hby⟩ := hy
      have hshared : name a = name b := by
        rw [hax, hby, hsame]
      exact (hunseen b hb).2 ⟨a, ha, hshared⟩
    have hnew : ∀ b ∈ second, name b ∉ seen := by
      intro b hb
      exact (hunseen b hb).1
    exact ⟨⟨hbefore.1, hsecond, hdisjoint⟩, hbefore.2, hnew⟩

theorem FreshNames.nodup_append {α : Type} {name : α → String} {loaded list : List α}
    (hloaded : (loaded.map name).Nodup) (hfresh : FreshNames name (loaded.map name) list) :
    ((loaded ++ list).map name).Nodup := by
  rw [List.map_append, List.nodup_append]
  refine ⟨hloaded, hfresh.1, ?_⟩
  intro old hold new hnew hsame
  obtain ⟨a, ha, hname⟩ := List.mem_map.mp hnew
  have hseen : name a ∈ loaded.map name := by
    rw [hname, ← hsame]
    exact hold
  exact hfresh.2 a ha hseen

/-- No group is found to be repeated exactly if the names of all are fresh. -/
theorem firstRepeated_eq_none {seen : List String} {groups : List Group} :
    firstRepeated seen groups = none ↔ FreshNames (·.name) seen groups := by
  induction groups generalizing seen with
  | nil => simp [firstRepeated, FreshNames]
  | cons group rest ih =>
      rw [firstRepeated, freshNames_cons, ← ih]
      by_cases hseen : group.name ∈ seen
      · simp [hseen]
      · simp [hseen]

/-- No executable is found to be shared exactly if the executables of all entries are
fresh. -/
theorem firstShared_eq_none {owners entries : List (String × String)} :
    firstShared owners entries = none ↔ FreshNames (·.1) (owners.map (·.1)) entries := by
  induction entries generalizing owners with
  | nil => simp [firstShared, FreshNames]
  | cons entry rest ih =>
      obtain ⟨executable, group⟩ := entry
      have hswap : FreshNames (·.1) ((owners ++ [(executable, group)]).map (·.1)) rest ↔
          FreshNames (·.1) (executable :: owners.map (·.1)) rest := by
        simp [FreshNames, or_comm]
      have howner : (owners.lookup executable).isSome ↔ executable ∈ owners.map (·.1) :=
        isSome_lookup_iff
      rw [firstShared, freshNames_cons, ← hswap, ← ih, ← howner]
      cases hlookup : owners.lookup executable with
      | none => simp
      | some first => simp

/-! ## Suites -/

theorem loadFiles_nodup {files : FileTree} {loaded groups : List Group} {paths : List Path}
    (hloaded : (loaded.map (·.name)).Nodup)
    (hfiles : loadFiles files loaded paths = .ok groups) :
    (groups.map (·.name)).Nodup := by
  apply loadFiles_keeps (fun groups => (groups.map (·.name)).Nodup) _ hloaded hfiles
  intro before name source suite hbefore _ hrepeated
  exact (firstRepeated_eq_none.mp hrepeated).nodup_append hbefore

theorem compiledExecutables_map_fst (groups : List Group) :
    (compiledExecutables groups).map (·.1) =
      (Suite.compiledRuns ⟨groups⟩).map (·.executable) := by
  unfold compiledExecutables Suite.compiledRuns Suite.runs
  induction groups with
  | nil => rfl
  | cons group rest ih =>
      simp only [List.flatMap_cons, List.map_append, List.map_map, List.filter_append, ih]
      rfl

theorem loadSuite_wellFormed {files : FileTree} {root : Path} {suite : Suite}
    (hsuite : loadSuite files root = .ok suite) : suite.WellFormed := by
  have hbuilt := loadSuite_isBuilt hsuite
  obtain ⟨groups, hgroups, hshared⟩ := bind_eq_ok.mp hsuite
  split at hshared
  · cases hshared
  · rename_i hunshared
    cases hshared
    constructor
    · have hempty : (([] : List Group).map (·.name)).Nodup := List.nodup_nil
      exact loadFiles_nodup hempty hgroups
    · exact fun group hgroup =>
        Binary64.isFraction_of_inUnitInterval (hbuilt group hgroup).threshold_inUnitInterval
    · intro run hrun
      obtain ⟨group, hgroup, hrun⟩ := List.mem_flatMap.mp hrun
      exact (hbuilt group hgroup).exists_not_isBlank hrun
    · rw [← compiledExecutables_map_fst]
      exact (firstShared_eq_none.mp hunshared).1
    · exact fun group hgroup tag => (hbuilt group hgroup).lowercase_tag
    · intro run hrun case hcase
      obtain ⟨group, hgroup, hrun⟩ := List.mem_flatMap.mp hrun
      have hmetric := (hbuilt group hgroup).hasMetric hrun hcase
      simpa [TestCase.hasMetric, Option.isSome_iff_ne_none] using hmetric

end Conformance
