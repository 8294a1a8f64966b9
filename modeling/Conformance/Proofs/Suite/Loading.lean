import Conformance.Proofs.Computation
import Conformance.Suite.Load

/-!
# What loading yields

A suite is loaded file by file and entry by entry, and the first error ends the
loading.  So whatever is loaded consists of groups that were built from drafts, and
what building guarantees of one group holds of every group of a loaded suite.
-/

namespace Conformance

/-! ## Groups -/

/-- The group was built from a draft. -/
def Group.IsBuilt (group : Group) : Prop := ∃ name draft, buildGroup name draft = .ok group

theorem buildEntry_isBuilt {key value : Yaml.Value} {group : Group}
    (hentry : buildEntry key value = .ok group) : group.IsBuilt := by
  obtain ⟨name, _, hgroup⟩ := bind_eq_ok.mp hentry
  cases hread : GroupDraft.read value with
  | error cause => simp [hread] at hgroup
  | ok draft => exact ⟨name, draft, by simpa [hread] using hgroup⟩

/-! ## Suites -/

theorem buildSuite_isBuilt {name : String} {document : Yaml.Value} {suite : Suite}
    (hsuite : buildSuite name document = .ok suite) :
    ∀ group ∈ suite.groups, group.IsBuilt := by
  intro group hgroup
  unfold buildSuite at hsuite
  split at hsuite
  · obtain ⟨groups, hgroups, heq⟩ := bind_eq_ok.mp hsuite
    cases heq
    obtain ⟨entry, _, hentry⟩ := exists_of_mapM_eq_ok hgroups hgroup
    exact buildEntry_isBuilt hentry
  · cases hsuite
    simp at hgroup
  · cases hsuite

theorem parseSuite_isBuilt {name source : String} {suite : Suite}
    (hsuite : parseSuite name source = .ok suite) :
    ∀ group ∈ suite.groups, group.IsBuilt := by
  unfold parseSuite at hsuite
  split at hsuite
  · cases hsuite
  · split at hsuite
    · cases hsuite
    · rename_i built hbuilt
      cases hsuite
      exact buildSuite_isBuilt hbuilt

/-- What the groups of a suite without repeated names keep, all files keep. -/
theorem loadFiles_keeps (Kept : List Group → Prop) {files : FileTree}
    {loaded groups : List Group} {paths : List Path}
    (hkeeps : ∀ before name source suite, Kept before → parseSuite name source = .ok suite →
      firstRepeated (before.map (·.name)) suite.groups = none → Kept (before ++ suite.groups))
    (hloaded : Kept loaded) (hfiles : loadFiles files loaded paths = .ok groups) :
    Kept groups := by
  induction paths generalizing loaded with
  | nil =>
      cases hfiles
      exact hloaded
  | cons path rest ih =>
      unfold loadFiles at hfiles
      split at hfiles
      · cases hfiles
      · split at hfiles
        · cases hfiles
        · rename_i suite hsuite
          split at hfiles
          · cases hfiles
          · rename_i hfresh
            exact ih (hkeeps loaded _ _ suite hloaded hsuite hfresh) hfiles

theorem loadFiles_isBuilt {files : FileTree} {loaded groups : List Group} {paths : List Path}
    (hloaded : ∀ group ∈ loaded, group.IsBuilt)
    (hfiles : loadFiles files loaded paths = .ok groups) :
    ∀ group ∈ groups, group.IsBuilt := by
  apply loadFiles_keeps (∀ group ∈ ·, group.IsBuilt) _ hloaded hfiles
  intro before name source suite hbefore hsuite _ group hgroup
  cases List.mem_append.mp hgroup with
  | inl hold => exact hbefore group hold
  | inr hnew => exact parseSuite_isBuilt hsuite group hnew

theorem loadSuite_isBuilt {files : FileTree} {root : Path} {suite : Suite}
    (hsuite : loadSuite files root = .ok suite) :
    ∀ group ∈ suite.groups, group.IsBuilt := by
  obtain ⟨groups, hgroups, hshared⟩ := bind_eq_ok.mp hsuite
  split at hshared
  · cases hshared
  · cases hshared
    exact loadFiles_isBuilt (by simp) hgroups

end Conformance
