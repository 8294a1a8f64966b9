import Conformance.FileTree
import Mathlib.Tactic

/-!
# Looking up files

An operation on a file changes the tree at one location, and there was no directory
there before.  A path is followed through directories, so it leads where it led before,
unless that is the location that was changed.
-/

namespace Conformance

/-- The text of a path can be followed: it is not empty, not too long, and without a zero
byte. -/
def Path.IsFollowable (p : Path) : Prop :=
  '\x00' ∉ p.text.toList ∧ p.isEmpty = false ∧ byteLength p.text < FileTree.pathLimit

namespace FileTree

variable {tree changed : FileTree} {place other start : Location} {node : Node}
  {names : List String} {p : Path}

/-! ## Entries -/

theorem lookup_put (place other : Location) (node : Node) (entries : List (Location × Node)) :
    (put place node entries).lookup other =
      if other = place then some node else entries.lookup other := by
  induction entries with
  | nil => grind [put]
  | cons entry rest ih =>
      obtain ⟨location, old⟩ := entry
      by_cases hplace : location = place
      · grind [put]
      · grind [put]

theorem lookup_filter (place other : Location) (entries : List (Location × Node)) :
    (entries.filter (·.1 ≠ place)).lookup other =
      if other = place then none else entries.lookup other := by
  induction entries with
  | nil => simp
  | cons entry rest ih =>
      obtain ⟨location, old⟩ := entry
      by_cases hplace : location = place
      · grind
      · grind

theorem filter_put (place : Location) (node : Node) (entries : List (Location × Node)) :
    (put place node entries).filter (·.1 ≠ place) = entries.filter (·.1 ≠ place) := by
  induction entries with
  | nil => simp [put]
  | cons entry rest ih =>
      by_cases hplace : entry.1 = place
      · simp [put, hplace]
      · grind [put]

/-- Only the root is a directory without an entry. -/
theorem ne_nil_of_get? (hplace : tree.get? place ≠ some .directory) : place ≠ [] := by
  intro hroot
  apply hplace
  rw [hroot]
  rfl

theorem get?_insert_self (hplace : place ≠ []) :
    (tree.insert place node).get? place = some node := by
  simp [get?, insert, hplace, lookup_put]

theorem get?_insert_of_ne (hother : other ≠ place) :
    (tree.insert place node).get? other = tree.get? other := by
  simp [get?, insert, hother, lookup_put]

theorem get?_erase_self (hplace : place ≠ []) : (tree.erase place).get? place = none := by
  simp only [get?, hplace, if_false, erase, lookup_filter, if_true]

theorem get?_erase_of_ne (hother : other ≠ place) :
    (tree.erase place).get? other = tree.get? other := by
  simp only [get?, erase, lookup_filter, hother, if_false]

/-- What a location held is forgotten once the location is erased. -/
theorem erase_insert (tree : FileTree) (place : Location) (node : Node) :
    (tree.insert place node).erase place = tree.erase place := by
  simp only [erase, insert, filter_put]

theorem erase_of_get?_eq_none (hplace : tree.get? place = none) : tree.erase place = tree := by
  have hdirectory : tree.get? place ≠ some .directory := by simp [hplace]
  have hnil : place ≠ [] := ne_nil_of_get? hdirectory
  have hlookup : tree.entries.lookup place = none := by simpa [get?, hnil] using hplace
  have hkept : tree.entries.filter (·.1 ≠ place) = tree.entries := by
    rw [List.filter_eq_self]
    intro entry hentry
    have hne : place ≠ entry.1 := by
      simpa using List.lookup_eq_none_iff.mp hlookup entry hentry
    exact decide_eq_true hne.symm
  simp only [erase, hkept]

/-! ## Where names lead -/

/-- The location of a site. -/
def Site.location : Site → Location
  | .occupied place _ => place
  | .vacant place => place

/-- What is at a site. -/
def Site.node? : Site → Option Node
  | .occupied _ node => some node
  | .vacant _ => none

/-- The name is that of an entry of a directory. -/
def IsEntryName (name : String) : Prop :=
  name ≠ "." ∧ name ≠ ".." ∧ byteLength name ≤ nameLimit

theorem walk_nil_eq_ok {site : Site} :
    tree.walk start [] = .ok site ↔
      ∃ node, tree.get? start = some node ∧ site = .occupied start node := by
  rw [walk]
  cases hnode : tree.get? start with
  | none => simp
  | some node => simp [eq_comm]

/-- One name further: a walk stays where it is, goes up, enters what has the name, or
ends where nothing has it. -/
@[mk_iff] inductive WalkStep (tree : FileTree) (start : Location) (name : String)
    (rest : List String) (site : Site) : Prop
  | current (hname : name = ".") (hlater : tree.walk start rest = .ok site)
  | parent (hname : name = "..") (hlater : tree.walk start.dropLast rest = .ok site)
  | entered (hname : IsEntryName name) (hsome : tree.get? (start ++ [name]) ≠ none)
      (hlater : tree.walk (start ++ [name]) rest = .ok site)
  | vacant (hname : IsEntryName name) (hnone : tree.get? (start ++ [name]) = none)
      (hrest : rest = []) (hsite : site = .vacant (start ++ [name]))

theorem walk_cons_eq_ok {name : String} {rest : List String} {site : Site} :
    tree.walk start (name :: rest) = .ok site ↔
      tree.get? start = some .directory ∧ WalkStep tree start name rest site := by
  rw [walkStep_iff, walk.eq_def]
  dsimp only
  cases hstart : tree.get? start with
  | none => simp
  | some node =>
      cases node with
      | file content executable => simp
      | directory =>
          by_cases hhere : name = "."
          · subst hhere
            simp [IsEntryName]
          by_cases habove : name = ".."
          · subst habove
            simp [IsEntryName]
          by_cases hlong : nameLimit < byteLength name
          · simp [IsEntryName, hhere, habove, hlong]
          have hshort : byteLength name ≤ nameLimit := Nat.le_of_not_lt hlong
          cases hnext : tree.get? (start ++ [name]) with
          | some node => simp [IsEntryName, hhere, habove, hlong, hshort]
          | none =>
              cases rest with
              | nil => simp [IsEntryName, hhere, habove, hlong, hshort, eq_comm]
              | cons next more => simp [IsEntryName, hhere, habove, hlong]

/-- A site tells what its location holds. -/
theorem get?_of_walk {site : Site} (hwalk : tree.walk start names = .ok site) :
    tree.get? site.location = site.node? := by
  induction names generalizing start with
  | nil =>
      obtain ⟨node, hnode, hsite⟩ := walk_nil_eq_ok.mp hwalk
      rw [hsite]
      exact hnode
  | cons name rest ih =>
      cases (walk_cons_eq_ok.mp hwalk).2 with
      | current _ hlater => exact ih hlater
      | parent _ hlater => exact ih hlater
      | entered _ _ hlater => exact ih hlater
      | vacant _ hnone _ hsite =>
          rw [hsite]
          exact hnone

/-- Below a location that is no directory nothing is reached. -/
theorem location_of_walk {site : Site} (hwalk : tree.walk start names = .ok site)
    (hstart : tree.get? start ≠ some .directory) : site.location = start := by
  cases names with
  | nil =>
      obtain ⟨node, _, rfl⟩ := walk_nil_eq_ok.mp hwalk
      rfl
  | cons name rest => exact absurd (walk_cons_eq_ok.mp hwalk).1 hstart

/-- Changing a location that is no directory changes no walk that ends elsewhere. -/
theorem walk_of_agree {site : Site}
    (hagree : ∀ place, place ≠ other → changed.get? place = tree.get? place)
    (hother : tree.get? other ≠ some .directory)
    (hwalk : tree.walk start names = .ok site) (hne : site.location ≠ other) :
    changed.walk start names = .ok site := by
  induction names generalizing start with
  | nil =>
      obtain ⟨node, hnode, rfl⟩ := walk_nil_eq_ok.mp hwalk
      exact walk_nil_eq_ok.mpr ⟨node, (hagree start hne).trans hnode, rfl⟩
  | cons name rest ih =>
      obtain ⟨hstart, hstep⟩ := walk_cons_eq_ok.mp hwalk
      have hdifferent : start ≠ other := by
        intro hsame
        rw [hsame] at hstart
        exact hother hstart
      rw [walk_cons_eq_ok, hagree start hdifferent]
      refine ⟨hstart, ?_⟩
      cases hstep with
      | current hname hlater => exact .current hname (ih hlater)
      | parent hname hlater => exact .parent hname (ih hlater)
      | entered hname hsome hlater =>
          have hnext : start ++ [name] ≠ other := by
            intro hsame
            have hend : site.location = start ++ [name] :=
              location_of_walk hlater (hsame ▸ hother)
            exact hne (hend.trans hsame)
          have hthere : changed.get? (start ++ [name]) ≠ none := by
            rwa [hagree _ hnext]
          exact .entered hname hthere (ih hlater)
      | vacant hname hnone hrest hsite =>
          have hnext : start ++ [name] ≠ other := by
            rw [hsite] at hne
            exact hne
          have hfree : changed.get? (start ++ [name]) = none := (hagree _ hnext).trans hnone
          exact .vacant hname hfree hrest hsite

/-- What is put where a walk ends is found at the end of the walk. -/
theorem walk_insert {site : Site} (hwalk : tree.walk start names = .ok site)
    (hsite : site.node? ≠ some .directory) :
    (tree.insert site.location node).walk start names =
      .ok (.occupied site.location node) := by
  have hplace : tree.get? site.location ≠ some .directory := by
    rwa [get?_of_walk hwalk]
  have hself : (tree.insert site.location node).get? site.location = some node :=
    get?_insert_self (ne_nil_of_get? hplace)
  induction names generalizing start with
  | nil =>
      obtain ⟨old, _, rfl⟩ := walk_nil_eq_ok.mp hwalk
      exact walk_nil_eq_ok.mpr ⟨node, hself, rfl⟩
  | cons name rest ih =>
      obtain ⟨hstart, hstep⟩ := walk_cons_eq_ok.mp hwalk
      have hdifferent : start ≠ site.location := by
        intro hsame
        rw [hsame] at hstart
        exact hplace hstart
      rw [walk_cons_eq_ok, get?_insert_of_ne hdifferent]
      refine ⟨hstart, ?_⟩
      cases hstep with
      | current hname hlater => exact .current hname (ih hlater)
      | parent hname hlater => exact .parent hname (ih hlater)
      | entered hname hsome hlater =>
          refine .entered hname ?_ (ih hlater)
          by_cases hnext : start ++ [name] = site.location
          · rw [hnext, hself]
            exact Option.some_ne_none node
          · rwa [get?_insert_of_ne hnext]
      | vacant hname hnone hrest hsite =>
          have hlocation : site.location = start ++ [name] := by
            rw [hsite]
            rfl
          rw [hlocation] at hself ⊢
          have hthere : (tree.insert (start ++ [name]) node).get? (start ++ [name]) ≠ none := by
            rw [hself]
            exact Option.some_ne_none node
          rw [hrest]
          exact .entered hname hthere (walk_nil_eq_ok.mpr ⟨node, hself, rfl⟩)

/-- Where an erased location was the end of a walk, a walk ends at a free name, if it
ends at all. -/
theorem walk_erase {site : Site} (hplace : place ≠ [])
    (hwalk : tree.walk start names = .ok (.occupied place node))
    (herased : (tree.erase place).walk start names = .ok site) : site = .vacant place := by
  have hself : (tree.erase place).get? place = none := get?_erase_self hplace
  have hlocation : site.location = place := by
    by_contra hne
    have hback : tree.walk start names = .ok site :=
      walk_of_agree (fun other hother => (get?_erase_of_ne hother).symm) (by simp [hself])
        herased hne
    obtain rfl : Site.occupied place node = site := Except.ok.inj (hwalk.symm.trans hback)
    exact hne rfl
  have hnode : site.node? = none := by rw [← get?_of_walk herased, hlocation, hself]
  cases site with
  | occupied => cases hnode
  | vacant => rw [← hlocation]; rfl

/-! ## Where paths lead -/

/-- Where a path is followed from. -/
def origin (tree : FileTree) (p : Path) : Location := if p.isAbsolute then [] else tree.home

theorem site_eq_ok {site : Site} :
    tree.site p = .ok site ↔
      p.IsFollowable ∧ tree.walk (tree.origin p) p.segments = .ok site := by
  unfold FileTree.site Path.IsFollowable origin
  by_cases hzero : '\x00' ∈ p.text.toList
  · simp [hzero]
  by_cases hempty : p.isEmpty
  · simp [hzero, hempty]
  by_cases hlong : pathLimit ≤ byteLength p.text
  · simp [hzero, hempty, hlong]
  · simp [hzero, hempty, hlong, Nat.lt_of_not_le hlong]

/-- A path leads to a node if it ends there, and ends in a slash only at directories. -/
theorem find_eq_ok :
    tree.find p = .ok (place, node) ↔
      tree.site p = .ok (.occupied place node) ∧ (node = .directory ∨ p.endsInSlash = false) := by
  unfold find resolve
  cases hsite : tree.site p with
  | error cause => simp [bind, Except.bind]
  | ok site =>
      cases site with
      | vacant free => simp [bind, Except.bind]
      | occupied found old =>
          cases old with
          | directory =>
              simp only [bind, Except.bind, Except.ok.injEq, Prod.mk.injEq, Site.occupied.injEq]
              constructor
              · intro hfound
                exact ⟨hfound, .inl hfound.2.symm⟩
              · intro hfound
                exact hfound.1
          | file content executable =>
              cases hslash : p.endsInSlash with
              | false => simp [bind, Except.bind]
              | true =>
                  simp only [bind, Except.bind, if_true, reduceCtorEq, false_iff]
                  intro hfound
                  have hnode : Node.file content executable = node :=
                    (Site.occupied.inj (Except.ok.inj hfound.1)).2
                  cases hfound.2 with
                  | inl hdirectory =>
                      rw [← hnode] at hdirectory
                      cases hdirectory
                  | inr hfile => cases hfile

theorem get?_of_find (hfind : tree.find p = .ok (place, node)) :
    tree.get? place = some node :=
  get?_of_walk (site_eq_ok.mp (find_eq_ok.mp hfind).1).2

theorem isDirectory_iff :
    tree.isDirectory p = true ↔ ∃ place, tree.find p = .ok (place, .directory) := by
  unfold isDirectory
  cases hfind : tree.find p with
  | error cause => simp
  | ok found =>
      obtain ⟨place, node⟩ := found
      cases node with
      | directory => simp
      | file content executable => simp

end FileTree

end Conformance
