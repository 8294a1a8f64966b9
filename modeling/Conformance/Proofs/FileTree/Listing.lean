import Conformance.Proofs.Association
import Conformance.Proofs.FileTree.Proper
import Conformance.Proofs.Path.Order

/-!
# Files below a directory

In a proper tree, as directories make one up, the files below a directory are listed once
each, and no two of their paths have the same components.
-/

namespace Conformance

namespace FileTree

variable {tree : FileTree} {place : Location} {names : List String} {node : Node} {root p : Path}

/-- The names that lead from a location to that of an entry, and the entry's node. -/
def descendant? (place : Location) (entry : Location × Node) : Option (List String × Node) :=
  if place.isPrefixOf entry.1 && place.length < entry.1.length then
    some (entry.1.drop place.length, entry.2)
  else none

theorem below_eq_filterMap (tree : FileTree) (place : Location) :
    tree.below place = tree.entries.filterMap (descendant? place) := rfl

theorem descendant?_eq_some {entry : Location × Node} :
    descendant? place entry = some (names, node) ↔
      names ≠ [] ∧ entry = (place ++ names, node) := by
  obtain ⟨location, old⟩ := entry
  simp only [descendant?, Bool.and_eq_true, List.isPrefixOf_iff_prefix, decide_eq_true_eq,
    Option.ite_none_right_eq_some, Option.some.injEq, Prod.mk.injEq]
  constructor
  · intro hdescends
    obtain ⟨hbelow, hdrop, hnode⟩ := hdescends
    obtain ⟨more, hlocation⟩ := hbelow.1
    have hmore : more = names := by
      rw [← hdrop, ← hlocation, List.drop_left]
    have hnames : names ≠ [] := by
      intro hnil
      have hlength := hbelow.2
      simp [← hlocation, hmore, hnil] at hlength
    exact ⟨hnames, by rw [← hlocation, hmore], hnode⟩
  · intro hdescends
    obtain ⟨hnames, hlocation, hnode⟩ := hdescends
    have hbegins : place <+: location := by
      rw [hlocation]
      exact List.prefix_append ..
    have hlength : place.length < location.length := by
      simp [hlocation, List.length_pos_iff.mpr hnames]
    have hdrop : location.drop place.length = names := by
      rw [hlocation, List.drop_left]
    exact ⟨⟨hbegins, hlength⟩, hdrop, hnode⟩

theorem mem_below :
    (names, node) ∈ tree.below place ↔ names ≠ [] ∧ (place ++ names, node) ∈ tree.entries := by
  rw [below_eq_filterMap, List.mem_filterMap]
  simp only [descendant?_eq_some]
  constructor
  · intro hbelow
    obtain ⟨entry, hentry, hnames, hplace⟩ := hbelow
    rw [hplace] at hentry
    exact ⟨hnames, hentry⟩
  · intro hbelow
    exact ⟨_, hbelow.2, hbelow.1, rfl⟩

/-- A file below a directory: the names that lead to it, none of them left out. -/
def HasFile (tree : FileTree) (place : Location) (names : List String) : Prop :=
  names ≠ [] ∧ ∃ content executable, tree.get? (place ++ names) = some (.file content executable)

/-- The path of a file that is listed below a directory. -/
def listedPath? (root : Path) (entry : List String × Node) : Option Path :=
  match entry.2 with
  | .directory => none
  | .file _ _ => some (root.descend entry.1)

theorem listedPath?_eq_some {entry : List String × Node} :
    listedPath? root entry = some p ↔
      (∃ content executable, entry.2 = .file content executable) ∧ p = root.descend entry.1 := by
  obtain ⟨names, node⟩ := entry
  cases node with
  | directory => simp [listedPath?]
  | file content executable => simp [listedPath?, eq_comm]

theorem filesUnder_eq_filterMap (hroot : tree.find root = .ok (place, .directory)) :
    tree.filesUnder root = (tree.below place).filterMap (listedPath? root) := by
  unfold filesUnder
  rw [hroot]
  apply List.filterMap_congr
  intro entry _
  obtain ⟨names, node⟩ := entry
  cases node with
  | directory => rfl
  | file content executable => rfl

namespace IsProper

theorem get?_eq_some_iff (htree : tree.IsProper) (hplace : place ≠ []) :
    tree.get? place = some node ↔ (place, node) ∈ tree.entries := by
  rw [← lookup_eq_some_iff htree.locations, get?, if_neg hplace]

theorem isProperName (htree : tree.IsProper) (hbelow : (names, node) ∈ tree.below place) :
    ∀ name ∈ names, Path.IsProperName name := fun name hname =>
  htree.names _ (mem_below.mp hbelow).2 name (List.mem_append_right place hname)

theorem nodup_below (htree : tree.IsProper) (place : Location) :
    ((tree.below place).map (·.1)).Nodup := by
  have hlocations := htree.locations
  rw [List.Nodup, List.pairwise_map] at hlocations ⊢
  rw [below_eq_filterMap, List.pairwise_filterMap]
  apply hlocations.imp
  intro first second hne one hfirst other hsecond hsame
  have hone : first = (place ++ one.1, one.2) := (descendant?_eq_some.mp hfirst).2
  have hother : second = (place ++ other.1, other.2) := (descendant?_eq_some.mp hsecond).2
  apply hne
  rw [hone, hother, hsame]

/-- The paths below a directory are those of the files there. -/
theorem mem_filesUnder (htree : tree.IsProper)
    (hroot : tree.find root = .ok (place, .directory)) :
    p ∈ tree.filesUnder root ↔ ∃ names, tree.HasFile place names ∧ p = root.descend names := by
  rw [filesUnder_eq_filterMap hroot, List.mem_filterMap]
  simp only [listedPath?_eq_some]
  have hlocated (names : List String) (hnames : names ≠ []) (node : Node) :
      tree.get? (place ++ names) = some node ↔ (place ++ names, node) ∈ tree.entries := by
    apply htree.get?_eq_some_iff
    simp [hnames]
  constructor
  · intro hlisted
    obtain ⟨entry, hbelow, hfile, hp⟩ := hlisted
    obtain ⟨names, node⟩ := entry
    obtain ⟨content, executable, hnode⟩ := hfile
    obtain ⟨hnames, hentry⟩ := mem_below.mp hbelow
    have hget : tree.get? (place ++ names) = some (.file content executable) := by
      rw [← hnode]
      exact (hlocated names hnames node).mpr hentry
    exact ⟨names, ⟨hnames, content, executable, hget⟩, hp⟩
  · intro hfile
    obtain ⟨names, hnamed, hp⟩ := hfile
    obtain ⟨hnames, content, executable, hget⟩ := hnamed
    have hentry := (hlocated names hnames _).mp hget
    have hbelow : (names, Node.file content executable) ∈ tree.below place :=
      mem_below.mpr ⟨hnames, hentry⟩
    exact ⟨_, hbelow, ⟨content, executable, rfl⟩, hp⟩

/-- No two files below a directory have the same components. -/
theorem nodup_key_filesUnder (htree : tree.IsProper)
    (hroot : tree.find root = .ok (place, .directory)) :
    ((tree.filesUnder root).map Path.key).Nodup := by
  have hempty : root.isEmpty = false :=
    (site_eq_ok.mp (find_eq_ok.mp hroot).1).1.2.1
  have hnames := htree.nodup_below place
  rw [List.Nodup, List.pairwise_map] at hnames ⊢
  rw [filesUnder_eq_filterMap hroot, List.pairwise_filterMap]
  apply hnames.imp_of_mem
  intro one other hone hother hne p hp q hq hkey
  have hpath : p = root.descend one.1 := (listedPath?_eq_some.mp hp).2
  have hpath' : q = root.descend other.1 := (listedPath?_eq_some.mp hq).2
  rw [hpath, hpath', Path.key_eq_iff, Path.components_descend hempty (htree.isProperName hone),
    Path.components_descend hempty (htree.isProperName hother), List.append_cancel_left_eq] at hkey
  have hinjective : Function.Injective (List.map Path.Component.normal) :=
    List.map_injective_iff.mpr fun _ _ => Path.Component.normal.inj
  exact hne (hinjective hkey)

end IsProper

end FileTree

end Conformance
