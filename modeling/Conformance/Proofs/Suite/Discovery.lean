import Conformance.Proofs.FileTree.Listing
import Conformance.Suite.Load
import Mathlib.Data.List.Sort

/-!
# Finding specifications

The files below a directory are listed in some order and then sorted.  No two of them have
the same components, so sorted paths are in strict order, and it is the same one in
whatever order the files were listed.
-/

namespace Conformance

/-! ## Sorted paths -/

theorem insertPath_eq_orderedInsert (p : Path) (paths : List Path) :
    insertPath p paths = paths.orderedInsert (fun p q => p.le q = true) p := by
  induction paths with
  | nil => rfl
  | cons q rest ih => rw [insertPath, List.orderedInsert_cons, ih]

theorem sortPaths_eq_insertionSort (paths : List Path) :
    sortPaths paths = paths.insertionSort fun p q => p.le q = true := by
  induction paths with
  | nil => rfl
  | cons p rest ih =>
      rw [List.insertionSort_cons, ← ih, ← insertPath_eq_orderedInsert]
      rfl

theorem sortPaths_perm (paths : List Path) : (sortPaths paths).Perm paths := by
  rw [sortPaths_eq_insertionSort]
  exact List.perm_insertionSort _ paths

theorem sortPaths_sorted (paths : List Path) :
    ((sortPaths paths).map Path.key).Pairwise (· ≤ ·) := by
  have htotal : Std.Total fun p q : Path => p.le q = true :=
    ⟨fun p q => by rw [Path.le_iff, Path.le_iff]; exact le_total p.key q.key⟩
  have htrans : IsTrans Path fun p q => p.le q = true :=
    ⟨fun p q r => by simp only [Path.le_iff]; exact le_trans⟩
  rw [List.pairwise_map, sortPaths_eq_insertionSort]
  exact (List.pairwise_insertionSort _ paths).imp Path.le_iff.mp

/-- Paths with different components are in strict order once they are sorted. -/
theorem sortPaths_strictly_sorted {paths : List Path} (hkeys : (paths.map Path.key).Nodup) :
    ((sortPaths paths).map Path.key).Pairwise (· < ·) := by
  have hnodup : ((sortPaths paths).map Path.key).Nodup :=
    ((sortPaths_perm paths).map Path.key).nodup_iff.mpr hkeys
  exact (sortPaths_sorted paths).imp₂ (fun _ _ => lt_of_le_of_ne) hnodup

/-- Paths with different components are sorted the same way from every order. -/
theorem sortPaths_eq_of_perm {first second : List Path}
    (hkeys : (first.map Path.key).Nodup) (hperm : first.Perm second) :
    sortPaths first = sortPaths second := by
  have hsame : (sortPaths first).Perm (sortPaths second) :=
    (sortPaths_perm first).trans (hperm.trans (sortPaths_perm second).symm)
  have hsecond : (second.map Path.key).Nodup := (hperm.map Path.key).nodup_iff.mp hkeys
  apply hsame.eq_of_pairwise _ (List.pairwise_map.mp (sortPaths_strictly_sorted hkeys))
    (List.pairwise_map.mp (sortPaths_strictly_sorted hsecond))
  intro p q _ _ hle hge
  exact absurd hle hge.asymm

/-! ## Specifications -/

section

variable {files : FileTree} {root : Path} {place : Location}

/-- The specifications found are the files below the directory with the right extension. -/
theorem mem_discoverSpecs (hfiles : files.IsProper)
    (hroot : files.find root = .ok (place, .directory)) {p : Path} :
    p ∈ discoverSpecs files root ↔
      ∃ names, files.HasFile place names ∧ p = root.descend names ∧ isSpecFile p = true := by
  rw [discoverSpecs, (sortPaths_perm _).mem_iff, List.mem_filter, hfiles.mem_filesUnder hroot]
  simp only [← exists_and_right, and_assoc]

theorem nodup_key_filter_filesUnder (hfiles : files.IsProper)
    (hroot : files.find root = .ok (place, .directory)) :
    (((files.filesUnder root).filter isSpecFile).map Path.key).Nodup :=
  (hfiles.nodup_key_filesUnder hroot).sublist ((List.filter_sublist ..).map Path.key)

theorem discoverSpecs_sorted (hfiles : files.IsProper)
    (hroot : files.find root = .ok (place, .directory)) :
    ((discoverSpecs files root).map Path.key).Pairwise (· < ·) :=
  sortPaths_strictly_sorted (nodup_key_filter_filesUnder hfiles hroot)

/-- In whatever order the files below a directory are listed, once each, the same
specifications are found in the same order. -/
theorem sortPaths_filter_eq_discoverSpecs (hfiles : files.IsProper)
    (hroot : files.find root = .ok (place, .directory)) {listed : List Path}
    (hnodup : listed.Nodup)
    (hlisted : ∀ p, p ∈ listed ↔ ∃ names, files.HasFile place names ∧ p = root.descend names) :
    sortPaths (listed.filter isSpecFile) = discoverSpecs files root := by
  have hunder : (files.filesUnder root).Nodup :=
    (hfiles.nodup_key_filesUnder hroot).of_map Path.key
  have hperm : (files.filesUnder root).Perm listed :=
    (List.perm_ext_iff_of_nodup hunder hnodup).mpr fun p => by
      rw [hlisted, hfiles.mem_filesUnder hroot]
  exact (sortPaths_eq_of_perm (nodup_key_filter_filesUnder hfiles hroot)
    (hperm.filter isSpecFile)).symm

end

end Conformance
