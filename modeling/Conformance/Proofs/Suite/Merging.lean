import Conformance.Proofs.Suite.Discovery
import Conformance.Proofs.Suite.WellFormed

/-!
# Merging files

Files are loaded one after the other, and what is wrong with a file is judged by the names
seen before it.  So loading either gets through all files, each of them a specification
with fresh names, or stops at the first one that is not.  Executables are compared over
the merged suite, when no file is left.
-/

namespace Conformance

/-! ## Repeated names -/

/-- Up to a member of a list all names are fresh, and its own is not. -/
@[mk_iff] structure FirstRepeat {α : Type} (name : α → String) (seen : List String)
    (list fresh : List α) (a : α) : Prop where
  split : fresh ++ [a] <+: list
  names : FreshNames name seen fresh
  repeated : name a ∈ seen ++ fresh.map name

section

variable {α : Type} {name : α → String} {seen : List String} {rest fresh : List α} {a b : α}

theorem not_firstRepeat_nil : ¬ FirstRepeat name seen [] fresh a := by
  intro hfirst
  have hsplit := hfirst.split
  simp at hsplit

theorem firstRepeat_cons :
    FirstRepeat name seen (b :: rest) fresh a ↔
      name b ∈ seen ∧ fresh = [] ∧ a = b ∨
        name b ∉ seen ∧ ∃ more, fresh = b :: more ∧
          FirstRepeat name (name b :: seen) rest more a := by
  constructor
  · intro hfirst
    cases fresh with
    | nil =>
        have hhead : a = b := (List.cons_prefix_cons.mp hfirst.split).1
        have hseen : name b ∈ seen := by
          simpa [hhead] using hfirst.repeated
        exact .inl ⟨hseen, rfl, hhead⟩
    | cons c more =>
        obtain ⟨hhead, hsplit⟩ := List.cons_prefix_cons.mp hfirst.split
        obtain ⟨hnew, hlater⟩ := freshNames_cons.mp hfirst.names
        have hrepeated : name a ∈ (name c :: seen) ++ more.map name := by
          simpa [or_left_comm] using hfirst.repeated
        subst hhead
        exact .inr ⟨hnew, more, rfl, hsplit, hlater, hrepeated⟩
  · intro hcases
    cases hcases with
    | inl hhere =>
        obtain ⟨hseen, hfresh, hhead⟩ := hhere
        subst hfresh hhead
        have hsplit : [] ++ [a] <+: a :: rest :=
          List.cons_prefix_cons.mpr ⟨rfl, List.nil_prefix⟩
        have hnames : FreshNames name seen [] := by
          simp [FreshNames]
        have hrepeated : name a ∈ seen ++ [].map name := by
          simpa using hseen
        exact ⟨hsplit, hnames, hrepeated⟩
    | inr hlater =>
        obtain ⟨hnew, more, hfresh, hmore⟩ := hlater
        subst hfresh
        have hsplit : b :: more ++ [a] <+: b :: rest :=
          List.cons_prefix_cons.mpr ⟨rfl, hmore.split⟩
        have hnames : FreshNames name seen (b :: more) :=
          freshNames_cons.mpr ⟨hnew, hmore.names⟩
        have hrepeated : name a ∈ seen ++ (b :: more).map name := by
          simpa [or_left_comm] using hmore.repeated
        exact ⟨hsplit, hnames, hrepeated⟩

/-- Only which names were seen matters, not in which order. -/
theorem firstRepeat_congr {other : List String} {list : List α}
    (hseen : ∀ text, text ∈ seen ↔ text ∈ other) :
    FirstRepeat name seen list fresh a ↔ FirstRepeat name other list fresh a := by
  simp only [firstRepeat_iff, FreshNames, List.mem_append, hseen]

end

/-- The group that is found to be repeated is the first one whose name is not fresh. -/
theorem firstRepeated_eq_some {seen : List String} {groups : List Group} {group : Group} :
    firstRepeated seen groups = some group ↔
      ∃ fresh, FirstRepeat (·.name) seen groups fresh group := by
  induction groups generalizing seen with
  | nil => simp [firstRepeated, not_firstRepeat_nil]
  | cons first rest ih =>
      simp only [firstRepeated, firstRepeat_cons]
      by_cases hseen : first.name ∈ seen
      · simp [hseen, eq_comm]
      · simp [hseen, ih]

/-- The executable that is found to be shared is the first one that is not fresh, and its
owner the one that is looked up. -/
theorem firstShared_eq_some {owners entries : List (String × String)} {problem : SpecProblem} :
    firstShared owners entries = some problem ↔
      ∃ fresh entry first, FirstRepeat (·.1) (owners.map (·.1)) entries fresh entry ∧
        (owners ++ fresh).lookup entry.1 = some first ∧
        problem = .sharedExecutable entry.1 first entry.2 := by
  induction entries generalizing owners with
  | nil => simp [firstShared, not_firstRepeat_nil]
  | cons entry rest ih =>
      obtain ⟨executable, group⟩ := entry
      have hswap : ∀ {more entry},
          FirstRepeat (·.1) ((owners ++ [(executable, group)]).map (·.1)) rest more entry ↔
            FirstRepeat (·.1) (executable :: owners.map (·.1)) rest more entry :=
        firstRepeat_congr fun text => by simp [or_comm]
      have howner : (owners.lookup executable).isSome ↔ executable ∈ owners.map (·.1) :=
        isSome_lookup_iff
      simp only [firstShared, firstRepeat_cons]
      cases hlookup : owners.lookup executable with
      | some first =>
          have hseen : executable ∈ owners.map (·.1) := howner.mp (by simp [hlookup])
          simp [hseen, hlookup, eq_comm]
      | none =>
          have hseen : executable ∉ owners.map (·.1) := by simp [← howner, hlookup]
          simp only [ih, hswap, List.append_assoc, List.singleton_append]
          constructor
          · intro hshared
            obtain ⟨more, entry, first, hmore, hfirst, hproblem⟩ := hshared
            exact ⟨(executable, group) :: more, entry, first, .inr ⟨hseen, more, rfl, hmore⟩,
              hfirst, hproblem⟩
          · intro hshared
            obtain ⟨fresh, entry, first, hrepeat, hfirst, hproblem⟩ := hshared
            cases hrepeat with
            | inl hhere => exact absurd hhere.1 hseen
            | inr hlater =>
                obtain ⟨_, more, hfresh, hmore⟩ := hlater
                rw [hfresh] at hfirst
                exact ⟨more, entry, first, hmore, hfirst, hproblem⟩

/-! ## Single files -/

section

variable {files : FileTree} {seen : List String} {p : Path} {groups : List Group} {e : SpecError}

/-- The groups of a file, when the given names were seen before. -/
def readSpec (files : FileTree) (seen : List String) (p : Path) :
    Except SpecError (List Group) :=
  match files.readText p with
  | .error cause => .error (.unreadable p cause)
  | .ok source =>
    match parseSuite p.text source with
    | .error e => .error e
    | .ok suite =>
      match firstRepeated seen suite.groups with
      | some group => .error (.malformed (.duplicateGroup group.name))
      | none => .ok suite.groups

/-- The file is text that specifies the groups. -/
def FileTree.Specifies (files : FileTree) (p : Path) (groups : List Group) : Prop :=
  ∃ source, files.readText p = .ok source ∧ parseSuite p.text source = .ok ⟨groups⟩

/-- What is wrong with a file, when the given names were seen before: it is no text, it does
not parse, or the name of a group in it was seen, in an earlier file or above. -/
inductive FileTree.SpecFails (files : FileTree) (seen : List String) (p : Path) :
    SpecError → Prop where
  | unreadable {cause : FileError} : files.readText p = .error cause →
      SpecFails files seen p (.unreadable p cause)
  | unparsed {source : String} {e : SpecError} : files.readText p = .ok source →
      parseSuite p.text source = .error e → SpecFails files seen p e
  | repeated {groups fresh : List Group} {group : Group} : files.Specifies p groups →
      FirstRepeat (·.name) seen groups fresh group →
      SpecFails files seen p (.malformed (.duplicateGroup group.name))

theorem readSpec_eq_ok :
    readSpec files seen p = .ok groups ↔
      files.Specifies p groups ∧ FreshNames (·.name) seen groups := by
  rw [← firstRepeated_eq_none]
  unfold readSpec FileTree.Specifies
  cases hread : files.readText p with
  | error cause => simp
  | ok source =>
      cases hparse : parseSuite p.text source with
      | error e => simp [hparse]
      | ok suite =>
          obtain ⟨parsed⟩ := suite
          constructor
          · intro hgroups
            cases hrepeated : firstRepeated seen parsed with
            | some group => simp [hparse, hrepeated] at hgroups
            | none =>
                have hsame : parsed = groups := by
                  simpa [hparse, hrepeated] using hgroups
                rw [hsame] at hparse hrepeated
                exact ⟨⟨source, rfl, hparse⟩, hrepeated⟩
          · intro hspecified
            obtain ⟨hgroups, hrepeated⟩ := hspecified
            obtain ⟨other, hother, hparsed⟩ := hgroups
            have hsource : source = other := Except.ok.inj hother
            rw [← hsource] at hparsed
            have hsame : parsed = groups := by
              simpa [hparse] using hparsed
            simp [hparse, hsame, hrepeated]

theorem readSpec_eq_error :
    readSpec files seen p = .error e ↔ files.SpecFails seen p e := by
  constructor
  · intro herror
    unfold readSpec at herror
    split at herror
    · rename_i cause hread
      cases herror
      exact .unreadable hread
    · rename_i source hread
      split at herror
      · rename_i fault hparse
        cases herror
        exact .unparsed hread hparse
      · rename_i suite hparse
        split at herror
        · rename_i group hrepeated
          cases herror
          obtain ⟨fresh, hfresh⟩ := firstRepeated_eq_some.mp hrepeated
          exact .repeated ⟨source, hread, hparse⟩ hfresh
        · cases herror
  · intro hfails
    unfold readSpec
    cases hfails with
    | unreadable hread => simp [hread]
    | unparsed hread hparse => simp [hread, hparse]
    | repeated hgroups hfresh =>
        obtain ⟨source, hread, hparse⟩ := hgroups
        simp [hread, hparse, firstRepeated_eq_some.mpr ⟨_, hfresh⟩]

end

/-! ## One file after the other -/

section

variable {files : FileTree} {loaded groups : List Group} {paths : List Path} {e : SpecError}

theorem loadFiles_cons (files : FileTree) (loaded : List Group) (p : Path) (rest : List Path) :
    loadFiles files loaded (p :: rest) =
      (readSpec files (loaded.map (·.name)) p >>= fun groups =>
        loadFiles files (loaded ++ groups) rest) := by
  rw [loadFiles, readSpec]
  cases files.readText p with
  | error cause => rfl
  | ok source =>
      cases hparse : parseSuite p.text source with
      | error e => simp [hparse]; rfl
      | ok suite =>
          simp only [hparse]
          cases firstRepeated (loaded.map (·.name)) suite.groups with
          | some group => rfl
          | none => rfl

/-- The files specify the groups in the parts, file by file, and no name occurs twice, nor
is it one of those loaded before. -/
def FileTree.Merges (files : FileTree) (loaded : List Group) (paths : List Path)
    (parts : List (List Group)) : Prop :=
  List.Forall₂ files.Specifies paths parts ∧
    FreshNames (·.name) (loaded.map (·.name)) parts.flatten

theorem merges_nil {parts : List (List Group)} :
    files.Merges loaded [] parts ↔ parts = [] := by
  unfold FileTree.Merges
  rw [List.forall₂_nil_left_iff]
  exact and_iff_left_of_imp fun h => by simp [h, FreshNames]

theorem merges_cons {p : Path} {rest : List Path} {parts : List (List Group)} :
    files.Merges loaded (p :: rest) parts ↔
      ∃ part more, parts = part :: more ∧
        readSpec files (loaded.map (·.name)) p = .ok part ∧
        files.Merges (loaded ++ part) rest more := by
  unfold FileTree.Merges
  simp only [List.forall₂_cons_left_iff, readSpec_eq_ok, List.map_append]
  constructor
  · intro hmerges
    obtain ⟨hspecified, hfresh⟩ := hmerges
    obtain ⟨part, more, hpart, hmore, hparts⟩ := hspecified
    rw [hparts, List.flatten_cons] at hfresh
    obtain ⟨hhere, hlater⟩ := freshNames_append.mp hfresh
    exact ⟨part, more, hparts, ⟨hpart, hhere⟩, hmore, hlater⟩
  · intro hmerges
    obtain ⟨part, more, hparts, hread, hmore, hlater⟩ := hmerges
    have hfresh : FreshNames (·.name) (loaded.map (·.name)) parts.flatten := by
      rw [hparts, List.flatten_cons]
      exact freshNames_append.mpr ⟨hread.2, hlater⟩
    exact ⟨⟨part, more, hread.1, hmore, hparts⟩, hfresh⟩

theorem loadFiles_eq_ok :
    loadFiles files loaded paths = .ok groups ↔
      ∃ parts, files.Merges loaded paths parts ∧ groups = loaded ++ parts.flatten := by
  induction paths generalizing loaded with
  | nil => simp [loadFiles, merges_nil, eq_comm]
  | cons p rest ih =>
      rw [loadFiles_cons, bind_eq_ok]
      simp only [ih, merges_cons]
      constructor
      · intro hload
        obtain ⟨part, hpart, more, hmore, hgroups⟩ := hload
        have hflat : groups = loaded ++ (part :: more).flatten := by
          rw [hgroups, List.flatten_cons, List.append_assoc]
        exact ⟨part :: more, ⟨part, more, rfl, hpart, hmore⟩, hflat⟩
      · intro hmerges
        obtain ⟨parts, hparts, hgroups⟩ := hmerges
        obtain ⟨part, more, hsplit, hpart, hmore⟩ := hparts
        have hflat : groups = loaded ++ part ++ more.flatten := by
          rw [hgroups, hsplit, List.flatten_cons, List.append_assoc]
        exact ⟨part, hpart, more, hmore, hflat⟩

/-- Loading fails at the first file that something is wrong with. -/
theorem loadFiles_eq_error :
    loadFiles files loaded paths = .error e ↔
      ∃ earlier p parts, earlier ++ [p] <+: paths ∧ files.Merges loaded earlier parts ∧
        files.SpecFails ((loaded ++ parts.flatten).map (·.name)) p e := by
  induction paths generalizing loaded with
  | nil => simp [loadFiles]
  | cons p rest ih =>
      rw [loadFiles_cons, bind_eq_error, readSpec_eq_error]
      simp only [ih]
      constructor
      · intro hload
        cases hload with
        | inl hhere =>
            refine ⟨[], p, [], by simp, merges_nil.mpr rfl, ?_⟩
            simpa using hhere
        | inr hlater =>
            obtain ⟨part, hpart, earlier, q, more, hsplit, hmore, hthere⟩ := hlater
            have hbegins : p :: earlier ++ [q] <+: p :: rest :=
              List.cons_prefix_cons.mpr ⟨rfl, hsplit⟩
            have hmerges : files.Merges loaded (p :: earlier) (part :: more) :=
              merges_cons.mpr ⟨part, more, rfl, hpart, hmore⟩
            have hfails :
                files.SpecFails ((loaded ++ (part :: more).flatten).map (·.name)) q e := by
              simpa using hthere
            exact ⟨p :: earlier, q, part :: more, hbegins, hmerges, hfails⟩
      · intro hfirst
        obtain ⟨earlier, q, parts, hbegins, hmerges, hfails⟩ := hfirst
        cases earlier with
        | nil =>
            have hhead : q = p := (List.cons_prefix_cons.mp hbegins).1
            have hhere : files.SpecFails (loaded.map (·.name)) p e := by
              simpa [merges_nil.mp hmerges, hhead] using hfails
            exact .inl hhere
        | cons first later =>
            obtain ⟨hhead, hsplit⟩ := List.cons_prefix_cons.mp hbegins
            rw [hhead] at hmerges
            obtain ⟨part, more, hparts, hpart, hmore⟩ := merges_cons.mp hmerges
            have hthere : files.SpecFails ((loaded ++ part ++ more.flatten).map (·.name)) q e := by
              simpa [hparts] using hfails
            exact .inr ⟨part, hpart, later, q, more, hsplit, hmore, hthere⟩

end

/-! ## A whole directory -/

theorem merges_nil_loaded {files : FileTree} {paths : List Path} {parts : List (List Group)} :
    files.Merges [] paths parts ↔
      List.Forall₂ files.Specifies paths parts ∧ (parts.flatten.map (·.name)).Nodup := by
  unfold FileTree.Merges
  rw [List.map_nil, freshNames_nil_iff]

/-- The suite of the groups, unless two runs compile the same executable. -/
def unshared (groups : List Group) : Except SpecError Suite :=
  match firstShared [] (compiledExecutables groups) with
  | some problem => .error (.malformed problem)
  | none => .ok ⟨groups⟩

theorem unshared_eq_ok {groups : List Group} {suite : Suite} :
    unshared groups = .ok suite ↔
      ((Suite.compiledRuns ⟨groups⟩).map (·.executable)).Nodup ∧ suite = ⟨groups⟩ := by
  have hfresh : firstShared [] (compiledExecutables groups) = none ↔
      ((Suite.compiledRuns ⟨groups⟩).map (·.executable)).Nodup := by
    rw [firstShared_eq_none, List.map_nil, freshNames_nil_iff, compiledExecutables_map_fst]
  rw [← hfresh, unshared]
  cases firstShared [] (compiledExecutables groups) with
  | none => simp [eq_comm]
  | some problem => simp

theorem unshared_eq_error {groups : List Group} {e : SpecError} :
    unshared groups = .error e ↔
      ∃ fresh entry first, FirstRepeat (·.1) [] (compiledExecutables groups) fresh entry ∧
        fresh.lookup entry.1 = some first ∧
        e = .malformed (.sharedExecutable entry.1 first entry.2) := by
  have hproblem : unshared groups = .error e ↔
      ∃ problem, firstShared [] (compiledExecutables groups) = some problem ∧
        e = .malformed problem := by
    rw [unshared]
    cases firstShared [] (compiledExecutables groups) with
    | none => simp
    | some problem => simp [eq_comm]
  rw [hproblem]
  simp only [firstShared_eq_some, List.map_nil, List.nil_append]
  constructor
  · intro hfails
    obtain ⟨problem, hshared, herror⟩ := hfails
    obtain ⟨fresh, entry, first, hrepeat, hfirst, hentry⟩ := hshared
    rw [hentry] at herror
    exact ⟨fresh, entry, first, hrepeat, hfirst, herror⟩
  · intro hshared
    obtain ⟨fresh, entry, first, hrepeat, hfirst, herror⟩ := hshared
    exact ⟨_, ⟨fresh, entry, first, hrepeat, hfirst, rfl⟩, herror⟩

theorem loadSuite_of_isDirectory {files : FileTree} {root : Path}
    (hroot : files.isDirectory root = true) :
    loadSuite files root = loadFiles files [] (discoverSpecs files root) >>= unshared := by
  simp only [loadSuite, hroot, if_true]
  rfl

/-- A directory is loaded from the files below it with the right extension, in strict order
of their components, in whatever order they are listed.  It gives a suite exactly if each of
them specifies groups, no name of a group occurs twice and no executable is compiled twice;
the suite then consists of their groups, file by file.  Otherwise the error is what is wrong
with the first file that something is wrong with, and if there is none, that an executable
is shared. -/
theorem loadSuite_directory {files : FileTree} {root : Path} (hfiles : files.IsProper)
    (hroot : files.isDirectory root = true) :
    let specs := discoverSpecs files root
    (∃ place, files.find root = .ok (place, .directory) ∧
      (∀ p, p ∈ specs ↔
        ∃ names, files.HasFile place names ∧ p = root.descend names ∧ isSpecFile p = true) ∧
      ∀ listed : List Path, listed.Nodup →
        (∀ p, p ∈ listed ↔ ∃ names, files.HasFile place names ∧ p = root.descend names) →
        sortPaths (listed.filter isSpecFile) = specs) ∧
    (specs.map Path.key).Pairwise (· < ·) ∧
    (∀ suite, loadSuite files root = .ok suite ↔
      ∃ parts, List.Forall₂ files.Specifies specs parts ∧
        (parts.flatten.map (·.name)).Nodup ∧
        ((Suite.compiledRuns ⟨parts.flatten⟩).map (·.executable)).Nodup ∧
        suite = ⟨parts.flatten⟩) ∧
    ∀ e, loadSuite files root = .error e ↔
      (∃ earlier p parts, earlier ++ [p] <+: specs ∧
        List.Forall₂ files.Specifies earlier parts ∧ (parts.flatten.map (·.name)).Nodup ∧
        files.SpecFails (parts.flatten.map (·.name)) p e) ∨
      ∃ parts, List.Forall₂ files.Specifies specs parts ∧ (parts.flatten.map (·.name)).Nodup ∧
        ∃ fresh entry first,
          FirstRepeat (·.1) [] (compiledExecutables parts.flatten) fresh entry ∧
          fresh.lookup entry.1 = some first ∧
          e = .malformed (.sharedExecutable entry.1 first entry.2) := by
  intro specs
  obtain ⟨place, hplace⟩ := FileTree.isDirectory_iff.mp hroot
  refine ⟨⟨place, hplace, ?found, ?listing⟩, discoverSpecs_sorted hfiles hplace, ?loads, ?fails⟩
  case found =>
    intro p
    exact mem_discoverSpecs hfiles hplace
  case listing =>
    intro listed
    exact sortPaths_filter_eq_discoverSpecs hfiles hplace
  case loads =>
    intro suite
    rw [loadSuite_of_isDirectory hroot, bind_eq_ok]
    simp only [loadFiles_eq_ok, unshared_eq_ok, merges_nil_loaded, List.nil_append]
    constructor
    · intro hload
      obtain ⟨groups, hmerged, hexecutables, hsuite⟩ := hload
      obtain ⟨parts, hparts, hgroups⟩ := hmerged
      rw [hgroups] at hexecutables hsuite
      exact ⟨parts, hparts.1, hparts.2, hexecutables, hsuite⟩
    · intro hspecified
      obtain ⟨parts, hparts, hnames, hexecutables, hsuite⟩ := hspecified
      exact ⟨parts.flatten, ⟨parts, ⟨hparts, hnames⟩, rfl⟩, hexecutables, hsuite⟩
  case fails =>
    intro e
    rw [loadSuite_of_isDirectory hroot, bind_eq_error]
    simp only [loadFiles_eq_error, loadFiles_eq_ok, unshared_eq_error, merges_nil_loaded,
      List.nil_append]
    apply or_congr
    · simp only [and_assoc]
      rfl
    · constructor
      · intro hfails
        obtain ⟨groups, hmerged, hshared⟩ := hfails
        obtain ⟨parts, hparts, hgroups⟩ := hmerged
        rw [hgroups] at hshared
        exact ⟨parts, hparts.1, hparts.2, hshared⟩
      · intro hfails
        obtain ⟨parts, hparts, hnames, hshared⟩ := hfails
        exact ⟨parts.flatten, ⟨parts, ⟨hparts, hnames⟩, rfl⟩, hshared⟩

/-! ## A directory with a directory in it -/

/-- Two specifications, one in a directory; by their texts alone the other one would come
first.  Neither a directory nor a note is taken for a specification. -/
def nestedTree : FileTree where
  home := ["w"]
  entries :=
    [(["w"], .directory), (["w", "d"], .directory),
      (["w", "d", "a.b.yaml"], .file (bytesOfText "2: \x7bruns: [\x7bexec: b\x7d]\x7d") false),
      (["w", "d", "z.yml"], .directory), (["w", "d", "notes.txt"], .file [] false),
      (["w", "d", "a"], .directory),
      (["w", "d", "a", "x.yml"], .file (bytesOfText "1: \x7bruns: [\x7bexec: b\x7d]\x7d") false)]

def nestedGroup (name : String) : Group := ⟨name, "", [], .one, [⟨"b", none, []⟩]⟩

theorem loadSuite_directory_nestedTree :
    discoverSpecs nestedTree ⟨"d"⟩ = [⟨"d/a/x.yml"⟩, ⟨"d/a.b.yaml"⟩] ∧
      ∃ parts, List.Forall₂ nestedTree.Specifies [⟨"d/a/x.yml"⟩, ⟨"d/a.b.yaml"⟩] parts ∧
        parts.flatten = [nestedGroup "1", nestedGroup "2"] := by
  have hspecs : discoverSpecs nestedTree ⟨"d"⟩ = [⟨"d/a/x.yml"⟩, ⟨"d/a.b.yaml"⟩] := by
    decide +kernel
  have hload : loadSuite nestedTree ⟨"d"⟩ = .ok ⟨[nestedGroup "1", nestedGroup "2"]⟩ := by
    decide +kernel
  have hproper : nestedTree.IsProper := by decide +kernel
  have hroot : nestedTree.isDirectory ⟨"d"⟩ = true := by decide +kernel
  obtain ⟨_, _, hok, _⟩ := loadSuite_directory hproper hroot
  obtain ⟨parts, hparts, _, _, hgroups⟩ := (hok _).mp hload
  exact ⟨hspecs, parts, hspecs ▸ hparts, (congrArg Suite.groups hgroups).symm⟩

end Conformance
