import Conformance.Invocation
import Conformance.Proofs.Computation
import Conformance.Proofs.FileTree.Lookup
import Conformance.Proofs.Path.Components

/-!
# Proper trees

A proper tree has one entry for a location, and the names in it are those that entries of
directories can have.  Paths are cut at slashes and `.` and `..` are followed, so no
operation makes an entry with another name: whatever files are put in place, a proper tree
stays proper.
-/

namespace Conformance

namespace FileTree

/-- There is one entry for a location, and its names are proper, as are those of the
working directory. -/
@[mk_iff] structure IsProper (tree : FileTree) : Prop where
  locations : (tree.entries.map (·.1)).Nodup
  names : ∀ entry ∈ tree.entries, ∀ name ∈ entry.1, Path.IsProperName name
  home : ∀ name ∈ tree.home, Path.IsProperName name

instance (tree : FileTree) : Decidable tree.IsProper :=
  decidable_of_iff' _ (isProper_iff tree)

variable {tree : FileTree} {place start : Location} {node : Node} {p : Path}

theorem map_fst_put (place : Location) (node : Node) (entries : List (Location × Node)) :
    (put place node entries).map (·.1) =
      if place ∈ entries.map (·.1) then entries.map (·.1) else entries.map (·.1) ++ [place] := by
  induction entries with
  | nil => simp [put]
  | cons entry rest ih =>
      by_cases hplace : entry.1 = place
      · simp [put, hplace]
      · simp only [put, hplace, if_false, List.map_cons, ih, List.mem_cons, Ne.symm hplace,
          false_or]
        split
        · rfl
        · rfl

/-- Where a walk by segments ends, names are proper. -/
theorem isProperName_of_walk {names : List String} {site : Site}
    (hwalk : tree.walk start names = .ok site)
    (hstart : ∀ name ∈ start, Path.IsProperName name)
    (hnames : ∀ name ∈ names, name ≠ "." → name ≠ ".." → Path.IsProperName name) :
    ∀ name ∈ site.location, Path.IsProperName name := by
  induction names generalizing start with
  | nil =>
      obtain ⟨_, _, hsite⟩ := walk_nil_eq_ok.mp hwalk
      rw [hsite]
      exact hstart
  | cons name rest ih =>
      have hrest := fun later hlater => hnames later (List.mem_cons_of_mem _ hlater)
      have habove : ∀ other ∈ start.dropLast, Path.IsProperName other := by
        intro other hother
        exact hstart other (List.mem_of_mem_dropLast hother)
      have hnext : IsEntryName name → ∀ other ∈ start ++ [name], Path.IsProperName other := by
        intro hname
        have hproper : Path.IsProperName name :=
          hnames name (List.mem_cons_self ..) hname.1 hname.2.1
        simp only [List.forall_mem_append, List.forall_mem_singleton]
        exact ⟨hstart, hproper⟩
      cases (walk_cons_eq_ok.mp hwalk).2 with
      | current _ hlater => exact ih hlater hstart hrest
      | parent _ hlater => exact ih hlater habove hrest
      | entered hname _ hlater => exact ih hlater (hnext hname) hrest
      | vacant hname _ _ hsite =>
          rw [hsite]
          exact hnext hname

namespace IsProper

theorem insert (htree : tree.IsProper) (hplace : ∀ name ∈ place, Path.IsProperName name)
    (node : Node) : (tree.insert place node).IsProper := by
  have hkeys := map_fst_put place node tree.entries
  constructor
  · change ((put place node tree.entries).map (·.1)).Nodup
    rw [hkeys]
    split
    · exact htree.locations
    · rename_i hfree
      rw [← List.concat_eq_append]
      exact htree.locations.concat hfree
  · intro entry hentry
    have hkey : entry.1 ∈ (put place node tree.entries).map (·.1) := List.mem_map_of_mem hentry
    have hold : ∀ location ∈ tree.entries.map (·.1), ∀ name ∈ location,
        Path.IsProperName name := by
      simpa using htree.names
    rw [hkeys] at hkey
    split at hkey
    · exact hold _ hkey
    · rcases List.mem_append.mp hkey with hkey | hkey
      · exact hold _ hkey
      · rwa [List.mem_singleton.mp hkey]
  · exact htree.home

theorem location_of_site (htree : tree.IsProper) {site : Site}
    (hsite : tree.site p = .ok site) : ∀ name ∈ site.location, Path.IsProperName name := by
  obtain ⟨_, hwalk⟩ := site_eq_ok.mp hsite
  apply isProperName_of_walk hwalk
  · unfold origin
    split
    · exact List.forall_mem_nil _
    · exact htree.home
  · exact fun name hname => Path.isProperName_of_mem_segments hname

theorem erase (htree : tree.IsProper) (place : Location) : (tree.erase place).IsProper where
  locations := htree.locations.sublist ((List.filter_sublist ..).map _)
  names := fun entry hentry => htree.names entry (List.mem_of_mem_filter hentry)
  home := htree.home

/-! ## Operations -/

variable {changed : FileTree}

theorem write (htree : tree.IsProper) {content : Bytes}
    (hwrite : tree.write p content = .ok changed) : changed.IsProper := by
  unfold FileTree.write at hwrite
  obtain ⟨site, hsite, hwrite⟩ := bind_eq_ok.mp hwrite
  have hlocation := htree.location_of_site hsite
  split at hwrite
  · cases hwrite
  · split at hwrite
    · cases hwrite
      exact htree.insert hlocation _
    · cases hwrite
    · obtain ⟨_, rfl⟩ := ite_error_eq_ok.mp hwrite
      exact htree.insert hlocation _

theorem setExecutable (htree : tree.IsProper) {executable : Bool}
    (hset : tree.setExecutable p executable = .ok changed) : changed.IsProper := by
  unfold FileTree.setExecutable at hset
  obtain ⟨found, hfind, hset⟩ := bind_eq_ok.mp hset
  obtain ⟨place, node⟩ := found
  have hlocation := htree.location_of_site (find_eq_ok.mp hfind).1
  cases node with
  | directory =>
      cases hset
      exact htree
  | file content old =>
      cases hset
      exact htree.insert hlocation _

theorem remove (htree : tree.IsProper) (hremove : tree.remove p = .ok changed) :
    changed.IsProper := by
  unfold FileTree.remove at hremove
  obtain ⟨found, _, hremove⟩ := bind_eq_ok.mp hremove
  obtain ⟨place, node⟩ := found
  cases node with
  | directory => cases hremove
  | file content executable =>
      obtain ⟨_, rfl⟩ := ite_error_eq_ok.mp hremove
      exact htree.erase place

theorem makeDirectory (htree : tree.IsProper) (hmake : tree.makeDirectory p = .ok changed) :
    changed.IsProper := by
  unfold FileTree.makeDirectory at hmake
  obtain ⟨site, hsite, hmake⟩ := bind_eq_ok.mp hmake
  have hlocation := htree.location_of_site hsite
  cases site with
  | occupied place node => cases hmake
  | vacant place =>
      obtain ⟨_, rfl⟩ := ite_error_eq_ok.mp hmake
      exact htree.insert hlocation _

theorem ensureDirectory (htree : tree.IsProper) (hmake : tree.ensureDirectory p = .ok changed) :
    changed.IsProper := by
  unfold FileTree.ensureDirectory at hmake
  split at hmake
  · rename_i made hmade
    cases hmake
    exact htree.makeDirectory hmade
  · split at hmake
    · cases hmake
      exact htree
    · cases hmake

theorem makeAncestors (htree : tree.IsProper) (p : Path) (depth : Nat) :
    (tree.makeAncestors p depth).2.IsProper ∧
      ∀ made, (tree.makeAncestors p depth).1 = .ok made → made.IsProper := by
  have hfailed (cause : FileError) (made : FileTree)
      (hmade : (Except.error cause : Except FileError FileTree) = .ok made) : made.IsProper := by
    cases hmade
  have hgrown {grown : FileTree} (hproper : grown.IsProper) (made : FileTree)
      (hmade : (Except.ok grown : Except FileError FileTree) = .ok made) : made.IsProper := by
    rw [← Except.ok.inj hmade]
    exact hproper
  induction depth generalizing p with
  | zero => exact ⟨htree, hfailed _⟩
  | succ depth ih =>
      unfold FileTree.makeAncestors
      split
      · exact ⟨htree, hgrown htree⟩
      · split
        · rename_i made hmade
          have hproper := htree.ensureDirectory hmade
          exact ⟨hproper, hgrown hproper⟩
        · split
          · exact ⟨htree, hfailed _⟩
          · rename_i above _
            have hpartly := (ih above).1
            split
            · rename_i heq
              rw [heq] at hpartly
              exact ⟨hpartly, hfailed _⟩
            · rename_i grown heq
              have hproper : grown.IsProper := by rwa [heq] at hpartly
              split
              · rename_i made hmade
                have hmade := hproper.ensureDirectory hmade
                exact ⟨hmade, hgrown hmade⟩
              · exact ⟨hproper, hfailed _⟩
        · exact ⟨htree, hfailed _⟩

theorem makeDirectories (htree : tree.IsProper) (p : Path) :
    (tree.makeDirectories p).2.IsProper := by
  obtain ⟨hpartly, hmade⟩ := htree.makeAncestors p (p.components.length + 1)
  unfold FileTree.makeDirectories
  split
  · rename_i made _ heq
    exact hmade made (by rw [heq])
  · rename_i e partly heq
    rwa [heq] at hpartly

theorem placeFile (htree : tree.IsProper) (plan : FilePlan) : (tree.place plan).IsProper := by
  unfold FileTree.place
  split
  · exact htree.makeDirectories plan.path
  · dsimp only
    split
    · split
      · exact htree.makeDirectories _
      · exact htree
    · rename_i written hwrite
      have hwritten : written.IsProper := by
        split at hwrite
        · exact (htree.makeDirectories _).write hwrite
        · exact htree.write hwrite
      split
      · split
        · rename_i marked hmarked
          exact hwritten.setExecutable hmarked
        · exact hwritten
      · exact hwritten

/-- A proper tree stays proper, whatever is put in place. -/
theorem placeAll (htree : tree.IsProper) (plans : List FilePlan) :
    (tree.placeAll plans).IsProper := by
  induction plans generalizing tree with
  | nil => exact htree
  | cons plan rest ih => exact ih (htree.placeFile plan)

end IsProper

end FileTree

end Conformance
