import Conformance.FileTree
import Conformance.Machine.Disk
import Conformance.Text.Raw

/-!
# Disks and file trees

A file tree is what can be seen of a disk from outside: directories, which of them are
closed to the user, and files with their contents.  `Disk.update` brings changes of a tree
onto a disk that already holds it, so that everything else about the inodes stays;
`Disk.exported` reads the tree off a disk again.  A link is seen as what it leads to.
-/

namespace Conformance.Machine

namespace Disk

/-- The permissions of new directories and files. -/
def directoryMode : Nat := 493
def fileMode (executable : Bool) : Nat := if executable then 493 else 420

/-- The permissions that a closed directory keeps. -/
def closedMask : Nat := 3949

/-- An empty disk. -/
def empty : Disk := ⟨#[⟨.directory root [], directoryMode, false, 0, 1⟩]⟩

/-- The entry of a directory. -/
def entry? (disk : Disk) (directory : Nat) (name : String) : Option Nat :=
  (disk.entries directory).lookup name

/-- The inode that names lead to, without following links. -/
def locate (disk : Disk) (names : List String) : Option Nat :=
  names.foldl (fun here name => here.bind fun directory => disk.entry? directory name) (some root)

/-- Puts a new inode under a name that is free. -/
def attach (disk : Disk) (directory : Nat) (name : String) (inode : Inode) : Disk :=
  let (index, grown) := disk.add inode
  grown.alterEntries directory inode.modified (· ++ [(name, index)])

/-- Makes an inode at a place if its directory is there and the name is free. -/
def install (disk : Disk) (names : List String) (inode : Nat → Inode) : Disk :=
  match names.getLast?, disk.locate names.dropLast with
  | some name, some directory =>
    if (disk.entry? directory name).isSome then disk
    else disk.attach directory name (inode directory)
  | _, _ => disk

/-- The inode for a node of a tree below a directory. -/
def inodeOf (time above : Nat) : Node → Inode
  | .directory => ⟨.directory above [], directoryMode, true, time, 1⟩
  | .file content executable =>
    ⟨.regular (dataOfBytes content), fileMode executable, true, time, 1⟩

/-- The places of a tree as names of a disk. -/
def rawPlace (place : Location) : List String := place.map toRaw

/-- Puts a node of a tree on a disk, in place of what is there. -/
def putNode (disk : Disk) (time : Nat) (place : Location) (node : Node) : Disk :=
  let names := rawPlace place
  match disk.locate names with
  | none => disk.install names fun above => inodeOf time above node
  | some index =>
    match node, (disk.node index).content with
    | .file content executable, .regular old =>
      let data := dataOfBytes content
      let written := if old.data = data.data then disk else disk.setData index time data
      let mode := (written.node index).mode
      if executable && Nat.land mode 64 = 0 then
        written.alter index fun inode => { inode with mode := Nat.lor mode 73 }
      else written
    | _, _ => disk

/-- Takes the name at a place away. -/
def dropPlace (disk : Disk) (time : Nat) (place : Location) : Disk :=
  let names := rawPlace place
  match names.getLast?, disk.locate names.dropLast with
  | some name, some directory => disk.alterEntries directory time (·.filter (·.1 ≠ name))
  | _, _ => disk

/-- Closes the directory at a place to the user. -/
def shutPlace (disk : Disk) (place : Location) : Disk :=
  match disk.locate (rawPlace place) with
  | some directory =>
    disk.alter directory fun inode => { inode with mode := Nat.land inode.mode closedMask }
  | none => disk

/-- Brings onto a disk what is different between two trees. -/
def update (disk : Disk) (time : Nat) (before after : FileTree) : Disk :=
  let gone := before.entries.filter fun (place, _) => (after.get? place).isNone
  let cleared := gone.foldl (fun disk (place, _) => disk.dropPlace time place) disk
  let changed := after.entries.filter fun (place, node) => before.get? place ≠ some node
  let ordered := changed.mergeSort fun a b => a.1.length ≤ b.1.length
  let filled := ordered.foldl (fun disk (place, node) => disk.putNode time place node) cleared
  (after.closed.filter (!before.closed.contains ·)).foldl shutPlace filled

/-- What is seen of an entry of a directory: a link is seen as what it leads to. -/
def seen? (disk : Disk) (directory index : Nat) : Option Nat :=
  match (disk.node index).content with
  | .link target => (disk.find ⟨directory, 0, 0⟩ true target).toOption
  | _ => some index

/-- What can be seen below a directory; `depth` bounds the levels. -/
def seenBelow (disk : Disk) : (depth directory : Nat) → Location → List (Location × Node)
  | 0, _, _ => []
  | depth + 1, directory, place =>
    (disk.entries directory).flatMap fun (name, index) =>
      let here := place ++ [ofRaw name]
      match disk.seen? directory index with
      | none => []
      | some shown =>
        match (disk.node shown).content with
        | .directory _ _ => (here, .directory) :: seenBelow disk depth shown here
        | .regular data =>
          [(here, .file data.toList (Nat.land (disk.node shown).mode 64 ≠ 0))]
        | _ => []

/-- The directories at and below a place that are closed to the user. -/
def closedBelow (disk : Disk) : (depth directory : Nat) → Location → List Location
  | 0, _, _ => []
  | depth + 1, directory, place =>
    let below := (disk.entries directory).flatMap fun (name, index) =>
      match disk.seen? directory index with
      | none => []
      | some shown =>
        if disk.isDirectory shown then closedBelow disk depth shown (place ++ [ofRaw name]) else []
    if disk.permits directory 3 then below else place :: below

/-- How many levels of directories are seen. -/
def seenDepth : Nat := 64

/-- A tree in which everything below a place is as on the disk. -/
def exported (disk : Disk) (tree : FileTree) (place : Location) : FileTree :=
  match disk.locate (rawPlace place) with
  | none => tree
  | some directory =>
    let others := tree.entries.filter fun (location, _) =>
      !(place.isPrefixOf location && place.length < location.length)
    let elsewhere := tree.closed.filter fun location => !place.isPrefixOf location
    { tree with
      entries := others ++ disk.seenBelow seenDepth directory place
      closed := elsewhere ++ disk.closedBelow seenDepth directory place }

end Disk

end Conformance.Machine
