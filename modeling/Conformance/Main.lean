import Conformance.Host

/-!
# Command line

The files below the working directory become the files of the closed host; the
program runs there, and what it changed is put back.
-/

namespace Conformance

/-- How deep directories are read. -/
def directoryDepth : Nat := 64

/-- Reads a file, or a directory with everything in it.  A file that names the
program that reads it counts as executable. -/
def readEntry : (depth : Nat) → Location → IO.FS.DirEntry → IO (List (Location × Node))
  | 0, _, _ => return []
  | depth + 1, above, entry => do
    let place := above ++ [entry.fileName]
    if ← entry.path.isDir then
      let inner ← (← entry.path.readDir).toList.mapM (readEntry depth place)
      return (place, .directory) :: inner.flatten
    else
      let content := (← IO.FS.readBinFile entry.path).toList
      return [(place, .file content (Machine.interpreter? ⟨content.toArray⟩).isSome)]

/-- A machine whose working directory has the contents of the present one. -/
def readWorkingTree : IO FileTree := do
  let fresh := FileTree.fresh
  let entries ← (← (← IO.currentDir).readDir).toList.mapM (readEntry directoryDepth fresh.home)
  return { fresh with entries := fresh.entries ++ entries.flatten }

/-- Puts a node in its place. -/
def writeNode (path : String) : Node → IO Unit
  | .directory => IO.FS.createDirAll path
  | .file content executable => do
    IO.FS.writeBinFile path ⟨content.toArray⟩
    if executable then
      IO.setAccessRights path ⟨⟨true, true, true⟩, ⟨true, false, true⟩, ⟨true, false, true⟩⟩

/-- Puts back what changed below the working directory. -/
def writeWorkingTree (before after : FileTree) : IO Unit := do
  let former := before.below before.home
  let present := after.below after.home
  for (names, node) in present do
    if former.lookup names ≠ some node then writeNode (String.intercalate "/" names) node
  for (names, node) in former do
    if node ≠ .directory && (present.lookup names).isNone then
      IO.FS.removeFile (String.intercalate "/" names)

end Conformance

def main (words : List String) : IO UInt32 := do
  let before ← Conformance.readWorkingTree
  let done := Conformance.execute words before
  Conformance.writeWorkingTree before done.files
  let stdout ← IO.getStdout
  stdout.write ⟨done.stdout.toArray⟩
  stdout.flush
  (← IO.getStderr).putStr done.stderr
  return done.status.toUInt32
