import Conformance.Proofs.FileTree.Changes

/-!
# What a change leaves alone

A path names a location whether or not anything is there, and an operation on a file changes
the tree at the location that its path names.  What is read at a path depends on that location
and on which locations are directories; and no file operation makes or removes a directory.
-/

namespace Conformance.FileTree

variable {tree changed : FileTree} {place other start : Location} {node : Node}
  {names : List String} {p : Path}

/-! ## The location that a path names -/

/-- The location that a name leads to from another one. -/
def enter (place : Location) (name : String) : Location :=
  if name = "." then place else if name = ".." then place.dropLast else place ++ [name]

/-- The location that a path names. -/
def target (tree : FileTree) (p : Path) : Location := p.segments.foldl enter (tree.origin p)

theorem enter_of_isEntryName {name : String} (hname : IsEntryName name) :
    enter place name = place ++ [name] := by
  simp [enter, hname.1, hname.2.1]

theorem location_eq_of_walk {site : Site} (hwalk : tree.walk start names = .ok site) :
    site.location = names.foldl enter start := by
  induction names generalizing start with
  | nil =>
      obtain ⟨node, _, hsite⟩ := walk_nil_eq_ok.mp hwalk
      rw [hsite]
      rfl
  | cons name rest ih =>
      rw [List.foldl_cons]
      cases (walk_cons_eq_ok.mp hwalk).2 with
      | current hname hlater =>
          rw [hname]
          exact ih hlater
      | parent hname hlater =>
          rw [hname]
          exact ih hlater
      | entered hname _ hlater =>
          rw [enter_of_isEntryName hname]
          exact ih hlater
      | vacant hname _ hrest hsite =>
          rw [enter_of_isEntryName hname, hrest, hsite]
          rfl

theorem location_eq_target {site : Site} (hsite : tree.site p = .ok site) :
    site.location = tree.target p :=
  location_eq_of_walk (site_eq_ok.mp hsite).2

theorem eq_target_of_find (hfind : tree.find p = .ok (place, node)) : place = tree.target p :=
  location_eq_target (find_eq_ok.mp hfind).1

theorem target_of_home (hhome : changed.home = tree.home) (p : Path) :
    changed.target p = tree.target p := by
  simp only [target, origin, hhome]

/-! ## What is read -/

/-- What can be read at a path. -/
def contents (tree : FileTree) (p : Path) : Option Bytes := (tree.read p).toOption

theorem contents_eq_some {content : Bytes} :
    tree.contents p = some content ↔
      ∃ executable, tree.find p = .ok (tree.target p, .file content executable) := by
  have hread : tree.contents p = some content ↔ tree.read p = .ok content := by
    unfold contents
    cases tree.read p with
    | error cause => simp [Except.toOption]
    | ok found => simp [Except.toOption]
  rw [hread, read_eq_ok]
  constructor
  · intro hfound
    obtain ⟨place, executable, hfind⟩ := hfound
    rw [eq_target_of_find hfind] at hfind
    exact ⟨executable, hfind⟩
  · intro hfound
    obtain ⟨executable, hfind⟩ := hfound
    exact ⟨tree.target p, executable, hfind⟩

theorem contents_eq_none (hnone : tree.get? (tree.target p) = none) : tree.contents p = none := by
  rw [Option.eq_none_iff_forall_ne_some]
  intro content hcontent
  obtain ⟨executable, hfind⟩ := contents_eq_some.mp hcontent
  cases hnone.symm.trans (get?_of_find hfind)

/-- A walk to a node goes through directories only. -/
theorem walk_of_directories
    (hdirectories : ∀ place, tree.get? place = some .directory →
      changed.get? place = some .directory)
    (hend : changed.get? (names.foldl enter start) = tree.get? (names.foldl enter start))
    (hwalk : tree.walk start names = .ok (.occupied place node)) :
    changed.walk start names = .ok (.occupied place node) := by
  induction names generalizing start with
  | nil =>
      obtain ⟨found, hfound, hsite⟩ := walk_nil_eq_ok.mp hwalk
      exact walk_nil_eq_ok.mpr ⟨found, hend.trans hfound, hsite⟩
  | cons name rest ih =>
      obtain ⟨hstart, hstep⟩ := walk_cons_eq_ok.mp hwalk
      rw [List.foldl_cons] at hend
      refine walk_cons_eq_ok.mpr ⟨hdirectories start hstart, ?_⟩
      cases hstep with
      | current hname hlater =>
          rw [hname] at hend
          exact .current hname (ih hend hlater)
      | parent hname hlater =>
          rw [hname] at hend
          exact .parent hname (ih hend hlater)
      | entered hname hsome hlater =>
          rw [enter_of_isEntryName hname] at hend
          refine .entered hname ?_ (ih hend hlater)
          cases rest with
          | nil =>
              have hnext : changed.get? (start ++ [name]) = tree.get? (start ++ [name]) := hend
              rwa [hnext]
          | cons next more =>
              have hdirectory : tree.get? (start ++ [name]) = some .directory :=
                (walk_cons_eq_ok.mp hlater).1
              rw [hdirectories _ hdirectory]
              exact Option.some_ne_none _
      | vacant _ _ _ hsite => cases hsite

theorem find_of_directories (hhome : changed.home = tree.home)
    (hdirectories : ∀ place, tree.get? place = some .directory →
      changed.get? place = some .directory)
    (htarget : changed.get? (tree.target p) = tree.get? (tree.target p))
    (hfind : tree.find p = .ok (place, node)) : changed.find p = .ok (place, node) := by
  obtain ⟨hsite, hslash⟩ := find_eq_ok.mp hfind
  obtain ⟨hfollowable, hwalk⟩ := site_eq_ok.mp hsite
  have horigin : changed.origin p = tree.origin p := by simp only [origin, hhome]
  refine find_eq_ok.mpr ⟨site_eq_ok.mpr ⟨hfollowable, ?_⟩, hslash⟩
  rw [horigin]
  exact walk_of_directories hdirectories htarget hwalk

/-- What is read at a path depends on its location and on where directories are. -/
theorem contents_of_directories (hhome : changed.home = tree.home)
    (hdirectories : ∀ place, changed.get? place = some .directory ↔
      tree.get? place = some .directory)
    (htarget : changed.get? (tree.target p) = tree.get? (tree.target p)) :
    changed.contents p = tree.contents p := by
  have hsame := target_of_home hhome p
  apply Option.ext
  intro content
  rw [contents_eq_some, contents_eq_some, hsame]
  apply exists_congr
  intro executable
  constructor
  · apply find_of_directories hhome.symm fun place => (hdirectories place).mp
    rw [hsame]
    exact htarget.symm
  · exact find_of_directories hhome (fun place => (hdirectories place).mpr) htarget

/-! ## Changes at one location -/

/-- The trees agree but at one location, which is a directory in neither. -/
structure AgreeBut (other : Location) (tree changed : FileTree) : Prop where
  home : changed.home = tree.home
  get? : ∀ place, place ≠ other → changed.get? place = tree.get? place
  before : tree.get? other ≠ some .directory
  after : changed.get? other ≠ some .directory

theorem AgreeBut.directories (hagree : AgreeBut other tree changed) (place : Location) :
    changed.get? place = some .directory ↔ tree.get? place = some .directory := by
  by_cases hplace : place = other
  · subst hplace
    simp [hagree.before, hagree.after]
  · rw [hagree.get? place hplace]

/-- Writing changes what is at the location that the path names. -/
theorem agreeBut_write {content : Bytes} (hwrite : tree.write p content = .ok changed) :
    AgreeBut (tree.target p) tree changed := by
  obtain ⟨site, executable, hsite, hnode, _, _, rfl⟩ := write_eq_ok hwrite
  have hplace : tree.get? site.location ≠ some .directory := by
    rwa [get?_of_walk (site_eq_ok.mp hsite).2]
  rw [← location_eq_target hsite]
  refine ⟨rfl, fun _ => get?_insert_of_ne, hplace, ?_⟩
  rw [get?_insert_self (ne_nil_of_get? hplace)]
  simp

/-- Discarding changes nothing, or it empties the location that the path names. -/
theorem discard_cases (tree : FileTree) (p : Path) :
    discard tree p = tree ∨
      AgreeBut (tree.target p) tree (discard tree p) ∧
        (discard tree p).get? (tree.target p) = none := by
  by_cases hremovable : tree.Removable p
  · right
    obtain ⟨cleaned, hremove⟩ := hremovable
    obtain ⟨place, content, executable, hfind, hopen, _⟩ := remove_eq_ok.mp hremove
    have hplace : tree.get? place ≠ some .directory := by
      simp [get?_of_find hfind]
    have herased : (tree.erase place).get? place = none :=
      get?_erase_self (ne_nil_of_get? hplace)
    rw [discard_of_find hfind hopen, ← eq_target_of_find hfind]
    exact ⟨⟨rfl, fun _ => get?_erase_of_ne, hplace, by simp [herased]⟩, herased⟩
  · left
    exact discard_of_not_removable hremovable

end Conformance.FileTree
