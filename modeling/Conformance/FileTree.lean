import Conformance.Path
import Conformance.Text.Utf8

/-!
# File trees

A file tree is a finite map from locations to nodes.  A location is the list of
names from the root directory; a path is resolved to a location by walking it
from the root or from the working directory.  Every operation either fails with
one cause and changes nothing, or changes the map at a single location.

A directory may be closed: names are neither added to it nor taken from it, so the
files in it cannot be removed, though their contents can be replaced.
-/

namespace Conformance

/-- Why an operation on files failed. -/
inductive FileError where
  | notFound
  | permissionDenied
  | exists
  | notDirectory
  | isDirectory
  | nameTooLong
  | notEmpty
  | notText
  | nulInName
  | noAncestor
deriving DecidableEq, Repr

def FileError.message : FileError → String
  | .notFound => "No such file or directory (os error 2)"
  | .permissionDenied => "Permission denied (os error 13)"
  | .exists => "File exists (os error 17)"
  | .notDirectory => "Not a directory (os error 20)"
  | .isDirectory => "Is a directory (os error 21)"
  | .nameTooLong => "File name too long (os error 36)"
  | .notEmpty => "Directory not empty (os error 39)"
  | .notText => "stream did not contain valid UTF-8"
  | .nulInName => "file name contained an unexpected NUL byte"
  | .noAncestor => "failed to create whole tree"

/-- The names that lead from the root directory to a node. -/
abbrev Location := List String

/-- What a location holds. -/
inductive Node where
  | directory
  | file (content : Bytes) (executable : Bool)
deriving DecidableEq, Repr

/-- Nodes by location, and the directory relative paths start from. -/
structure FileTree where
  home : Location
  entries : List (Location × Node)
  /-- The directories whose names cannot be changed. -/
  closed : List Location := []
deriving DecidableEq, Repr

namespace FileTree

/-- The node at a location; the root is always a directory. -/
def get? (tree : FileTree) (place : Location) : Option Node :=
  if place = [] then some .directory else tree.entries.lookup place

/-- Replaces the node of an entry, or adds one at the end. -/
def put (place : Location) (node : Node) : List (Location × Node) → List (Location × Node)
  | [] => [(place, node)]
  | entry :: rest => if entry.1 = place then (place, node) :: rest else entry :: put place node rest

def insert (tree : FileTree) (place : Location) (node : Node) : FileTree :=
  { tree with entries := put place node tree.entries }

def erase (tree : FileTree) (place : Location) : FileTree :=
  { tree with entries := tree.entries.filter (·.1 ≠ place) }

/-- Whether the name of a location can be given or taken away. -/
def isOpen (tree : FileTree) (place : Location) : Bool := place.dropLast ∉ tree.closed

/-- Where a path leads: to a node, or to a free name in an existing directory. -/
inductive Site where
  | occupied (place : Location) (node : Node)
  | vacant (place : Location)

/-- The longest name a directory can hold, in bytes. -/
def nameLimit : Nat := 255

/-- The first length of a path, in bytes, that is refused. -/
def pathLimit : Nat := 4096

/-- Follows names from a location. -/
def walk (tree : FileTree) (place : Location) : List String → Except FileError Site
  | [] =>
    match tree.get? place with
    | some node => .ok (.occupied place node)
    | none => .error .notFound
  | name :: rest =>
    match tree.get? place with
    | none => .error .notFound
    | some .directory =>
      if name = "." then walk tree place rest
      else if name = ".." then walk tree place.dropLast rest
      else if nameLimit < byteLength name then .error .nameTooLong
      else if (tree.get? (place ++ [name])).isSome then walk tree (place ++ [name]) rest
      else if rest.isEmpty then .ok (.vacant (place ++ [name]))
      else .error .notFound
    | some _ => .error .notDirectory

/-- Where a path leads, whether it ends in a slash or not. -/
def site (tree : FileTree) (p : Path) : Except FileError Site :=
  if p.text.toList.contains '\x00' then .error .nulInName
  else if p.isEmpty then .error .notFound
  else if pathLimit ≤ byteLength p.text then .error .nameTooLong
  else walk tree (if p.isAbsolute then [] else tree.home) p.segments

/-- Resolves a path.  A path that ends in a slash leads to directories only. -/
def resolve (tree : FileTree) (p : Path) : Except FileError Site := do
  let site ← tree.site p
  match site with
  | .occupied _ .directory => .ok site
  | .occupied _ _ => if p.endsInSlash then .error .notDirectory else .ok site
  | .vacant _ => .ok site

/-- The node a path leads to. -/
def find (tree : FileTree) (p : Path) : Except FileError (Location × Node) := do
  match ← tree.resolve p with
  | .occupied place node => .ok (place, node)
  | .vacant _ => .error .notFound

def isDirectory (tree : FileTree) (p : Path) : Bool :=
  match tree.find p with
  | .ok (_, .directory) => true
  | _ => false

def exists? (tree : FileTree) (p : Path) : Bool :=
  match tree.find p with
  | .ok _ => true
  | .error _ => false

def read (tree : FileTree) (p : Path) : Except FileError Bytes := do
  match ← tree.find p with
  | (_, .file content _) => .ok content
  | (_, .directory) => .error .isDirectory

def readText (tree : FileTree) (p : Path) : Except FileError String := do
  let bytes ← tree.read p
  match textOfBytes? bytes with
  | some text => .ok text
  | none => .error .notText

/-- Gives a file new contents; a new file is not executable.  A path that ends in a
slash names no file. -/
def write (tree : FileTree) (p : Path) (content : Bytes) : Except FileError FileTree := do
  let site ← tree.site p
  if p.endsInSlash then .error .isDirectory
  else match site with
    | .occupied place (.file _ executable) => .ok (tree.insert place (.file content executable))
    | .occupied _ .directory => .error .isDirectory
    | .vacant place =>
      if tree.isOpen place then .ok (tree.insert place (.file content false))
      else .error .permissionDenied

def writeText (tree : FileTree) (p : Path) (text : String) : Except FileError FileTree :=
  tree.write p (bytesOfText text)

/-- Removes a file. -/
def remove (tree : FileTree) (p : Path) : Except FileError FileTree := do
  match ← tree.find p with
  | (_, .directory) => .error .isDirectory
  | (place, _) =>
    if tree.isOpen place then .ok (tree.erase place) else .error .permissionDenied

/-- Sets whether a file may be run. -/
def setExecutable (tree : FileTree) (p : Path) (executable : Bool) :
    Except FileError FileTree := do
  match ← tree.find p with
  | (place, .file content _) => .ok (tree.insert place (.file content executable))
  | _ => .ok tree

def makeDirectory (tree : FileTree) (p : Path) : Except FileError FileTree := do
  match ← tree.site p with
  | .occupied _ _ => .error .exists
  | .vacant place =>
    if tree.isOpen place then .ok (tree.insert place .directory) else .error .permissionDenied

/-- Makes a directory whose ancestors are there, unless it is there itself. -/
def ensureDirectory (tree : FileTree) (p : Path) : Except FileError FileTree :=
  match tree.makeDirectory p with
  | .ok made => .ok made
  | .error e => if tree.isDirectory p then .ok tree else .error e

/-- Makes a directory and the ancestors it lacks.  `depth` bounds the ancestors. -/
def makeAncestors (tree : FileTree) (p : Path) : Nat → Except FileError FileTree × FileTree
  | 0 => (.error .noAncestor, tree)
  | depth + 1 =>
    if p.isEmpty then (.ok tree, tree)
    else match tree.ensureDirectory p with
      | .ok made => (.ok made, made)
      | .error .notFound =>
        match p.parent? with
        | none => (.error .noAncestor, tree)
        | some above =>
          match makeAncestors tree above depth with
          | (.error e, partly) => (.error e, partly)
          | (.ok _, grown) =>
            match grown.ensureDirectory p with
            | .ok made => (.ok made, made)
            | .error e => (.error e, grown)
      | .error e => (.error e, tree)

/-- Makes a directory and every missing ancestor.  The second part is the tree
afterwards, also when the directory itself could not be made. -/
def makeDirectories (tree : FileTree) (p : Path) : Option FileError × FileTree :=
  match tree.makeAncestors p (p.components.length + 1) with
  | (.ok made, _) => (none, made)
  | (.error e, partly) => (some e, partly)

/-- The entries below a location, with the names that lead to them from there. -/
def below (tree : FileTree) (place : Location) : List (Location × Node) :=
  tree.entries.filterMap fun (location, node) =>
    if place.isPrefixOf location && place.length < location.length then
      some (location.drop place.length, node)
    else none

/-- The paths of all regular files at or below a path. -/
def filesUnder (tree : FileTree) (p : Path) : List Path :=
  match tree.find p with
  | .ok (place, .directory) =>
    (tree.below place).filterMap fun (names, node) =>
      match node with
      | .directory => none
      | _ => some (names.foldl (fun path name => path.join ⟨name⟩) p)
  | .ok _ => [p]
  | .error _ => []

end FileTree

end Conformance
