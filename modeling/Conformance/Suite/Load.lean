import Conformance.Suite.Build

/-!
# Suites from files

A directory stands for the specification files below it, in the order of their
paths.  Group names must be different over all files, and so must the names of
executables that are compiled.
-/

namespace Conformance

/-- Inserts a path before the first one that does not precede it. -/
def insertPath (p : Path) : List Path → List Path
  | [] => [p]
  | q :: rest => if p.le q then p :: q :: rest else q :: insertPath p rest

def sortPaths (paths : List Path) : List Path := paths.foldr insertPath []

def isSpecFile (p : Path) : Bool := p.extension? = some "yaml" || p.extension? = some "yml"

/-- The specification files at or below a path. -/
def discoverSpecs (files : FileTree) (root : Path) : List Path :=
  sortPaths ((files.filesUnder root).filter isSpecFile)

/-- The first group whose name was seen before. -/
def firstRepeated (seen : List String) : List Group → Option Group
  | [] => none
  | group :: rest =>
    if seen.contains group.name then some group else firstRepeated (group.name :: seen) rest

/-- Loads files in order; `loaded` are the groups so far. -/
def loadFiles (files : FileTree) : List Group → List Path → Except SpecError (List Group)
  | loaded, [] => .ok loaded
  | loaded, file :: rest =>
    match files.readText file with
    | .error cause => .error (.unreadable file cause)
    | .ok source =>
      match parseSuite file.text source with
      | .error e => .error e
      | .ok suite =>
        match firstRepeated (loaded.map (·.name)) suite.groups with
        | some group => .error (.malformed (.duplicateGroup group.name))
        | none => loadFiles files (loaded ++ suite.groups) rest

/-- The compiled executables of a suite, each with its group. -/
def compiledExecutables (groups : List Group) : List (String × String) :=
  groups.flatMap fun group =>
    (group.runs.filter (·.compilation.isSome)).map fun run => (run.executable, group.name)

/-- The first executable that an earlier run compiles too. -/
def firstShared (owners : List (String × String)) :
    List (String × String) → Option SpecProblem
  | [] => none
  | (executable, group) :: rest =>
    match owners.lookup executable with
    | some first => some (.sharedExecutable executable first group)
    | none => firstShared (owners ++ [(executable, group)]) rest

def loadSuite (files : FileTree) (root : Path) : Except SpecError Suite := do
  let paths := if files.isDirectory root then discoverSpecs files root else [root]
  let groups ← loadFiles files [] paths
  match firstShared [] (compiledExecutables groups) with
  | some problem => .error (.malformed problem)
  | none => .ok ⟨groups⟩

end Conformance
