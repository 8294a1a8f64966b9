import Conformance.CompileStage
import Conformance.Proofs.Computation
import Conformance.Proofs.FileTree.Lookup

/-!
# Changing single files

What is read after a file was written or removed, and what is left when a file that may
not be there is discarded: nothing that can be read, and nothing of what was written to
it before.  A file that cannot be removed stays as it is.
-/

namespace Conformance

namespace FileTree

variable {tree : FileTree} {place : Location} {p : Path}

/-! ## Reading -/

theorem read_eq_ok {content : Bytes} :
    tree.read p = .ok content ↔
      ∃ place executable, tree.find p = .ok (place, .file content executable) := by
  unfold read
  cases hfind : tree.find p with
  | error cause => simp [bind, Except.bind]
  | ok found =>
      obtain ⟨place, node⟩ := found
      cases node with
      | directory => simp [bind, Except.bind]
      | file old executable => simp [bind, Except.bind]

/-- There is a file that the path leads to, and its contents. -/
def Readable (tree : FileTree) (p : Path) : Prop := ∃ content, tree.read p = .ok content

instance : Decidable (tree.Readable p) :=
  match hread : tree.read p with
  | .ok content => .isTrue ⟨content, hread⟩
  | .error _ => .isFalse fun ⟨_, hcontent⟩ => by simp [hread] at hcontent

theorem readable_iff :
    tree.Readable p ↔
      ∃ place content executable, tree.find p = .ok (place, .file content executable) := by
  simp only [Readable, read_eq_ok]
  exact exists_comm

/-! ## Writing and removing -/

theorem remove_eq_ok {cleaned : FileTree} :
    tree.remove p = .ok cleaned ↔
      ∃ place content executable, tree.find p = .ok (place, .file content executable) ∧
        tree.isOpen place = true ∧ cleaned = tree.erase place := by
  unfold remove
  constructor
  · intro hremove
    obtain ⟨found, hfind, hremoved⟩ := bind_eq_ok.mp hremove
    obtain ⟨place, node⟩ := found
    cases node with
    | directory => cases hremoved
    | file content executable =>
        obtain ⟨hopen, hcleaned⟩ := ite_error_eq_ok.mp hremoved
        exact ⟨place, content, executable, hfind, hopen, hcleaned.symm⟩
  · intro hfound
    obtain ⟨place, content, executable, hfind, hopen, hcleaned⟩ := hfound
    rw [bind_eq_ok]
    exact ⟨_, hfind, ite_error_eq_ok.mpr ⟨hopen, hcleaned.symm⟩⟩

/-- There is a file that the path leads to, and it can be removed. -/
def Removable (tree : FileTree) (p : Path) : Prop := ∃ cleaned, tree.remove p = .ok cleaned

instance : Decidable (tree.Removable p) :=
  match hremove : tree.remove p with
  | .ok cleaned => .isTrue ⟨cleaned, hremove⟩
  | .error _ => .isFalse fun ⟨_, hcleaned⟩ => by simp [hremove] at hcleaned

theorem removable_of_find {content : Bytes} {executable : Bool}
    (hfind : tree.find p = .ok (place, .file content executable)) :
    tree.Removable p ↔ tree.isOpen place = true := by
  constructor
  · intro hremovable
    obtain ⟨cleaned, hremove⟩ := hremovable
    obtain ⟨other, _, _, hother, hopen, _⟩ := remove_eq_ok.mp hremove
    have hsame : place = other := by
      rw [hfind] at hother
      exact congrArg Prod.fst (Except.ok.inj hother)
    rwa [hsame]
  · intro hopen
    exact ⟨_, remove_eq_ok.mpr ⟨place, content, executable, hfind, hopen, rfl⟩⟩

theorem Removable.readable (hremovable : tree.Removable p) : tree.Readable p := by
  obtain ⟨cleaned, hremove⟩ := hremovable
  obtain ⟨place, content, executable, hfind, _, _⟩ := remove_eq_ok.mp hremove
  exact readable_iff.mpr ⟨place, content, executable, hfind⟩

/-- Writing changes the tree at one location, where there is a file or a name can be given. -/
theorem write_eq_ok {content : Bytes} {written : FileTree}
    (hwrite : tree.write p content = .ok written) :
    ∃ site executable, tree.site p = .ok site ∧ site.node? ≠ some .directory ∧
      (site.node? = none → tree.isOpen site.location = true) ∧ p.endsInSlash = false ∧
      written = tree.insert site.location (.file content executable) := by
  unfold write at hwrite
  obtain ⟨site, hsite, hwrite⟩ := bind_eq_ok.mp hwrite
  cases hslash : p.endsInSlash with
  | true => simp [hslash] at hwrite
  | false =>
      simp only [hslash, Bool.false_eq_true, if_false] at hwrite
      cases site with
      | vacant place =>
          obtain ⟨hopen, hwritten⟩ := ite_error_eq_ok.mp hwrite
          have hfree : (Site.vacant place).node? ≠ some .directory := by
            simp [Site.node?]
          exact ⟨_, false, hsite, hfree, fun _ => hopen, rfl, hwritten.symm⟩
      | occupied place node =>
          cases node with
          | directory => cases hwrite
          | file old executable =>
              have hwritten := Except.ok.inj hwrite
              have hfile : (Site.occupied place (.file old executable)).node? ≠
                  some .directory := by
                simp [Site.node?]
              refine ⟨_, executable, hsite, hfile, ?_, rfl, hwritten.symm⟩
              intro hnone
              cases hnone

/-- A file that was written is found. -/
theorem find_insert {content : Bytes} {executable : Bool} {site : Site}
    (hsite : tree.site p = .ok site) (hnode : site.node? ≠ some .directory)
    (hslash : p.endsInSlash = false) :
    (tree.insert site.location (.file content executable)).find p =
      .ok (site.location, .file content executable) := by
  obtain ⟨hfollowable, hwalk⟩ := site_eq_ok.mp hsite
  exact find_eq_ok.mpr ⟨site_eq_ok.mpr ⟨hfollowable, walk_insert hwalk hnode⟩, .inr hslash⟩

/-- Writing changes what is at one location, no directory, and the path leads there. -/
theorem find_write {content : Bytes} {written : FileTree}
    (hwrite : tree.write p content = .ok written) :
    ∃ place executable, tree.get? place ≠ some .directory ∧
      written = tree.insert place (.file content executable) ∧
      written.find p = .ok (place, .file content executable) := by
  obtain ⟨site, executable, hsite, hnode, _, hslash, rfl⟩ := write_eq_ok hwrite
  have hplace : tree.get? site.location ≠ some .directory := by
    rwa [get?_of_walk (site_eq_ok.mp hsite).2]
  exact ⟨site.location, executable, hplace, rfl, find_insert hsite hnode hslash⟩

/-! ## Discarding files -/

theorem discard_of_find {content : Bytes} {executable : Bool}
    (hfind : tree.find p = .ok (place, .file content executable))
    (hopen : tree.isOpen place = true) : discard tree p = tree.erase place := by
  have hremove : tree.remove p = .ok (tree.erase place) :=
    remove_eq_ok.mpr ⟨place, content, executable, hfind, hopen, rfl⟩
  simp only [discard, hremove]

/-- What cannot be removed stays. -/
theorem discard_of_not_removable (hremovable : ¬ tree.Removable p) : discard tree p = tree := by
  unfold discard
  cases hremove : tree.remove p with
  | error cause => rfl
  | ok cleaned => exact absurd ⟨cleaned, hremove⟩ hremovable

/-- Nothing can be read where a file was removed. -/
theorem not_readable_of_removable (hremovable : tree.Removable p) :
    ¬ (discard tree p).Readable p := by
  obtain ⟨cleaned, hremove⟩ := hremovable
  obtain ⟨place, content, executable, hfind, hopen, _⟩ := remove_eq_ok.mp hremove
  rw [discard_of_find hfind hopen]
  intro hread
  obtain ⟨other, later, runnable, hlater⟩ := readable_iff.mp hread
  obtain ⟨_, hwalk⟩ := site_eq_ok.mp (find_eq_ok.mp hfind).1
  obtain ⟨_, herased⟩ := site_eq_ok.mp (find_eq_ok.mp hlater).1
  have hdirectory : tree.get? place ≠ some .directory := by
    simp [get?_of_find hfind]
  have hplace : place ≠ [] := ne_nil_of_get? hdirectory
  have hvacant : Site.occupied other (.file later runnable) = .vacant place :=
    walk_erase hplace hwalk herased
  cases hvacant

/-- What can be read where a file was discarded is what could not be removed. -/
theorem readable_discard :
    (discard tree p).Readable p ↔ tree.Readable p ∧ ¬ tree.Removable p := by
  by_cases hremovable : tree.Removable p
  · have hnone := not_readable_of_removable hremovable
    simp [hnone, hremovable]
  · rw [discard_of_not_removable hremovable]
    simp [hremovable]

/-- What was written to a file is forgotten once the file is discarded, unless it is one that
cannot be removed. -/
theorem discard_write {content : Bytes} {written : FileTree}
    (hremovable : tree.Readable p → tree.Removable p)
    (hwrite : tree.write p content = .ok written) : discard written p = discard tree p := by
  obtain ⟨site, executable, hsite, hnode, hvacant, hslash, rfl⟩ := write_eq_ok hwrite
  have hfound : (tree.insert site.location (.file content executable)).find p =
      .ok (site.location, .file content executable) :=
    find_insert hsite hnode hslash
  cases site with
  | occupied place node =>
      cases node with
      | directory => exact absurd rfl hnode
      | file old runnable =>
          have hfind : tree.find p = .ok (place, .file old runnable) :=
            find_eq_ok.mpr ⟨hsite, .inr hslash⟩
          have hread : tree.Readable p := readable_iff.mpr ⟨place, old, runnable, hfind⟩
          have hopen : tree.isOpen place = true :=
            (removable_of_find hfind).mp (hremovable hread)
          rw [discard_of_find hfound hopen, discard_of_find hfind hopen]
          exact erase_insert ..
  | vacant place =>
      have hopen : tree.isOpen place = true := hvacant rfl
      have hfree : tree.get? place = none := get?_of_walk (site_eq_ok.mp hsite).2
      have hnone : ¬ tree.Removable p := by
        intro hremoved
        obtain ⟨other, old, runnable, hfind⟩ := readable_iff.mp hremoved.readable
        have hoccupied := (find_eq_ok.mp hfind).1
        rw [hsite] at hoccupied
        cases hoccupied
      rw [discard_of_find hfound hopen, discard_of_not_removable hnone]
      exact (erase_insert ..).trans (erase_of_get?_eq_none hfree)

end FileTree

end Conformance
