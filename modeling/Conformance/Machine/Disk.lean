import Conformance.Machine.Fault

/-!
# Disks

A disk is an array of inodes.  A directory maps names to inodes, so that a file can
have several names and lives on as long as somebody has it open.  Names and contents
are bytes; a name is kept as a text with one character for every byte.

The programs of a machine run for one user, who owns some of the inodes.  Every
operation either fails with one cause and changes nothing, or succeeds as a whole.
-/

namespace Conformance.Machine

/-- Files that are not kept on the disk. -/
inductive Device where
  | null
  | zero
  | full
  /-- Leads to what a descriptor of the process leads to. -/
  | descriptor (number : Nat)
deriving DecidableEq, Repr

inductive Content where
  | directory (parent : Nat) (entries : List (String × Nat))
  | regular (data : ByteArray)
  /-- A program of the machine, known by name. -/
  | program (name : String)
  | link (target : String)
  /-- A pipe with a name. -/
  | queue (pipe : Option Nat)
  | device (kind : Device)

instance : Inhabited Content := ⟨.regular .empty⟩

structure Inode where
  content : Content
  /-- The permission bits. -/
  mode : Nat
  /-- Whether the user owns it. -/
  isOwn : Bool
  /-- When its contents were last changed. -/
  modified : Nat
  /-- How many names it has. -/
  links : Nat
deriving Inhabited

structure Disk where
  inodes : Array Inode

/-- From where and as whom an operation is asked for. -/
structure Standpoint where
  /-- The directory relative paths start from. -/
  here : Nat
  /-- The permissions that new files do not get. -/
  mask : Nat
  time : Nat

inductive Kind where
  | regular
  | directory
  | link
  | queue
  | device
deriving DecidableEq, Repr, Inhabited

/-- What can be known about an inode. -/
structure Info where
  node : Nat
  kind : Kind
  mode : Nat
  isOwn : Bool
  size : Nat
  links : Nat
  modified : Nat
  /-- What the user may do. -/
  canRead : Bool
  canWrite : Bool
  canRun : Bool
deriving Repr, Inhabited

/-- Where a path leads: a name in a directory, and the inode that has it. -/
structure Spot where
  directory : Nat
  name : String
  node : Option Nat
  /-- Whether the path ends in a slash. -/
  slashed : Bool

/-- The longest name a directory can hold. -/
def nameLimit : Nat := 255

/-- The first length of a path that is refused. -/
def pathLimit : Nat := 4096

/-- How many links are followed on the way to a file. -/
def linkLimit : Nat := 40

/-- More steps than any walk has. -/
def walkLimit : Nat := 200000

/-- The nonempty pieces of a text between marks. -/
def pieces (mark : Char) (text : List Char) : List String :=
  let (last, others) := text.foldr (fun c (piece, done) =>
    if c = mark then ([], if piece.isEmpty then done else String.ofList piece :: done)
    else (c :: piece, done)) (([] : List Char), ([] : List String))
  if last.isEmpty then others else String.ofList last :: others

namespace Disk

/-- The inode of the directory that holds all others. -/
def root : Nat := 0

def node (disk : Disk) (index : Nat) : Inode := disk.inodes.getD index default

def isDirectory (disk : Disk) (index : Nat) : Bool :=
  match (disk.node index).content with
  | .directory _ _ => true
  | _ => false

def entries (disk : Disk) (index : Nat) : List (String × Nat) :=
  match (disk.node index).content with
  | .directory _ entries => entries
  | _ => []

def parent (disk : Disk) (index : Nat) : Nat :=
  match (disk.node index).content with
  | .directory parent _ => parent
  | _ => root

/-- Whether the user may read (4), write (2) or run (1) an inode. -/
def permits (disk : Disk) (index : Nat) (bits : Nat) : Bool :=
  let inode := disk.node index
  let granted := if inode.isOwn then inode.mode / 64 else inode.mode
  Nat.land granted bits = bits

def alter (disk : Disk) (index : Nat) (change : Inode → Inode) : Disk :=
  ⟨disk.inodes.modify index change⟩

/-- Adds an inode. -/
def add (disk : Disk) (inode : Inode) : Nat × Disk :=
  (disk.inodes.size, ⟨disk.inodes.push inode⟩)

/-- Changes the entries of a directory. -/
def alterEntries (disk : Disk) (directory : Nat) (time : Nat)
    (change : List (String × Nat) → List (String × Nat)) : Disk :=
  disk.alter directory fun inode =>
    match inode.content with
    | .directory parent entries =>
      { inode with content := .directory parent (change entries), modified := time }
    | _ => inode

def info (disk : Disk) (index : Nat) : Info :=
  let inode := disk.node index
  let (kind, size) := match inode.content with
    | .directory _ _ => (Kind.directory, 4096)
    | .regular data => (.regular, data.size)
    | .program _ => (.regular, 100000)
    | .link target => (.link, target.length)
    | .queue _ => (.queue, 0)
    | .device _ => (.device, 0)
  { node := index
    kind
    mode := inode.mode
    isOwn := inode.isOwn
    size
    links := match inode.content with
      | .directory _ entries =>
        2 + (entries.filter fun (_, node) => disk.isDirectory node).length
      | _ => inode.links
    modified := inode.modified
    canRead := disk.permits index 4
    canWrite := disk.permits index 2
    canRun := disk.permits index 1 }

/-- Follows names from a directory.  A link at the end is followed if `follow` is
set. -/
def walk (disk : Disk) (follow : Bool) :
    (fuel links here : Nat) → List String → Except Fault (Nat × String × Option Nat)
  | 0, _, _, _ => .error .linkLoop
  | _ + 1, _, here, [] => .ok (here, "/", some here)
  | fuel + 1, links, here, name :: rest =>
    let goOn (links next : Nat) : Except Fault (Nat × String × Option Nat) :=
      if rest.isEmpty then .ok (here, name, some next) else walk disk follow fuel links next rest
    if !disk.isDirectory here then .error .notDirectory
    else if !disk.permits here 1 then .error .permissionDenied
    else if nameLimit < name.length then .error .nameTooLong
    else if name = "." then goOn links here
    else if name = ".." then goOn links (disk.parent here)
    else match (disk.entries here).lookup name with
      | none => if rest.isEmpty then .ok (here, name, none) else .error .notFound
      | some next =>
        match (disk.node next).content, links with
        | .link target, 0 =>
          if rest.isEmpty && !follow then .ok (here, name, some next)
          else if target.isEmpty then .error .notFound
          else .error .linkLoop
        | .link target, left + 1 =>
          if rest.isEmpty && !follow then .ok (here, name, some next)
          else
            let text := target.toList
            let start := if text.head? = some '/' then root else here
            let tail := if text.getLast? = some '/' then "." :: rest else rest
            walk disk follow fuel left start (pieces '/' text ++ tail)
        | _, _ => goOn links next

/-- Where a path leads.  A path that ends in a slash leads to directories only. -/
def spot (disk : Disk) (view : Standpoint) (follow : Bool) (path : String) :
    Except Fault Spot := do
  let text := path.toList
  let slashed := text.getLast? = some '/'
  if text.isEmpty then .error .notFound
  else if pathLimit ≤ text.length then .error .nameTooLong
  else
    let start := if text.head? = some '/' then root else view.here
    let (directory, name, node) ←
      disk.walk (follow || slashed) walkLimit linkLimit start (pieces '/' text)
    match node with
    | some index =>
      if slashed && !disk.isDirectory index then .error .notDirectory
      else .ok ⟨directory, name, node, slashed⟩
    | none => .ok ⟨directory, name, none, slashed⟩

/-- The inode a path leads to. -/
def find (disk : Disk) (view : Standpoint) (follow : Bool) (path : String) :
    Except Fault Nat := do
  match (← disk.spot view follow path).node with
  | some index => .ok index
  | none => .error .notFound

/-- Whether the names of a directory may be changed. -/
def mayChange (disk : Disk) (directory : Nat) : Except Fault Unit :=
  if disk.permits directory 3 then .ok () else .error .permissionDenied

/-- Gives a new inode a name. -/
def create (disk : Disk) (view : Standpoint) (spot : Spot) (content : Content) (mode : Nat) :
    Except Fault (Nat × Disk) := do
  disk.mayChange spot.directory
  let bits := Nat.land mode (4095 - Nat.land view.mask 4095)
  let (index, grown) := disk.add ⟨content, bits, true, view.time, 1⟩
  return (index, grown.alterEntries spot.directory view.time (· ++ [(spot.name, index)]))

/-- Makes a new inode at a path that leads to none. -/
def make (disk : Disk) (view : Standpoint) (path : String) (content : Nat → Content)
    (mode : Nat) : Except Fault Disk := do
  let spot ← disk.spot view false path
  match spot.node with
  | some _ => .error .exists
  | none =>
    if spot.slashed && !(match content 0 with | .directory _ _ => true | _ => false) then
      .error .notFound
    else return (← disk.create view spot (content spot.directory) mode).2

def makeDirectory (disk : Disk) (view : Standpoint) (path : String) (mode : Nat) :
    Except Fault Disk :=
  disk.make view path (fun above => .directory above []) mode

def makeLink (disk : Disk) (view : Standpoint) (target path : String) : Except Fault Disk :=
  if target.isEmpty then .error .notFound
  else disk.make { view with mask := 0 } path (fun _ => .link target) 511

def makeQueue (disk : Disk) (view : Standpoint) (path : String) (mode : Nat) :
    Except Fault Disk :=
  disk.make view path (fun _ => .queue none) mode

/-- Takes a name away. -/
def dropName (disk : Disk) (view : Standpoint) (spot : Spot) (index : Nat) : Disk :=
  (disk.alterEntries spot.directory view.time (·.filter (·.1 ≠ spot.name))).alter index
    fun inode => { inode with links := inode.links - 1 }

/-- Removes a name of a file. -/
def remove (disk : Disk) (view : Standpoint) (path : String) : Except Fault Disk := do
  let spot ← disk.spot view false path
  match spot.node with
  | none => .error .notFound
  | some index =>
    if disk.isDirectory index then .error .isDirectory
    else
      disk.mayChange spot.directory
      return disk.dropName view spot index

def removeDirectory (disk : Disk) (view : Standpoint) (path : String) : Except Fault Disk := do
  let spot ← disk.spot view false path
  match spot.node with
  | none => .error .notFound
  | some index =>
    if spot.name = "." then .error .invalid
    else if spot.name = ".." then .error .notEmpty
    else if !disk.isDirectory index then .error .notDirectory
    else if index = root then .error .busy
    else
      disk.mayChange spot.directory
      if (disk.entries index).isEmpty then return disk.dropName view spot index
      else .error .notEmpty

/-- Whether a directory is another one or lies above it; `fuel` bounds the depth. -/
def isAbove (disk : Disk) (upper : Nat) : (fuel lower : Nat) → Bool
  | 0, _ => false
  | fuel + 1, lower =>
    lower = upper || (lower ≠ root && isAbove disk upper fuel (disk.parent lower))

/-- Gives a file another name instead of the one it has. -/
def rename (disk : Disk) (view : Standpoint) (source target : String) : Except Fault Disk := do
  let old ← disk.spot view false source
  let new ← disk.spot view false target
  match old.node with
  | none => .error .notFound
  | some index =>
    let isPlain (spot : Spot) : Bool := spot.name ≠ "." && spot.name ≠ ".." && spot.name ≠ "/"
    if !isPlain old || !isPlain new then .error .busy
    else if disk.isDirectory index && disk.isAbove index disk.inodes.size new.directory then
      .error .invalid
    else
      disk.mayChange old.directory
      disk.mayChange new.directory
      let moved (disk : Disk) : Disk :=
        let gone := disk.alterEntries old.directory view.time (·.filter (·.1 ≠ old.name))
        let there := gone.alterEntries new.directory view.time (· ++ [(new.name, index)])
        there.alter index fun inode =>
          match inode.content with
          | .directory _ entries => { inode with content := .directory new.directory entries }
          | _ => inode
      match new.node with
      | none =>
        if new.slashed && !disk.isDirectory index then .error .notDirectory
        else return moved disk
      | some present =>
        if present = index then return disk
        else if disk.isDirectory index && !disk.isDirectory present then .error .notDirectory
        else if !disk.isDirectory index && disk.isDirectory present then .error .isDirectory
        else if disk.isDirectory present && !(disk.entries present).isEmpty then .error .notEmpty
        else return moved (disk.dropName view new present)

/-- Gives a file one more name. -/
def addName (disk : Disk) (view : Standpoint) (source target : String) : Except Fault Disk := do
  let index ← disk.find view false source
  let new ← disk.spot view false target
  if new.node.isSome then .error .exists
  else if disk.isDirectory index then .error .notPermitted
  else if new.slashed then .error .notFound
  else
    disk.mayChange new.directory
    let named := disk.alterEntries new.directory view.time (· ++ [(new.name, index)])
    return named.alter index fun inode => { inode with links := inode.links + 1 }

def setMode (disk : Disk) (view : Standpoint) (path : String) (mode : Nat) :
    Except Fault Disk := do
  let index ← disk.find view true path
  if (disk.node index).isOwn then return disk.alter index fun inode => { inode with mode }
  else .error .notPermitted

/-- Sets the time of the last change. -/
def setTime (disk : Disk) (view : Standpoint) (path : String) (time : Nat) :
    Except Fault Disk := do
  let index ← disk.find view true path
  if (disk.node index).isOwn || disk.permits index 2 then
    return disk.alter index fun inode => { inode with modified := time }
  else .error .permissionDenied

/-- The names in a directory. -/
def list (disk : Disk) (view : Standpoint) (path : String) : Except Fault (List String) := do
  let index ← disk.find view true path
  if !disk.isDirectory index then .error .notDirectory
  else if !disk.permits index 4 then .error .permissionDenied
  else return (disk.entries index).map (·.1)

def readLink (disk : Disk) (view : Standpoint) (path : String) : Except Fault String := do
  match (disk.node (← disk.find view false path)).content with
  | .link target => return target
  | _ => .error .invalid

/-- The directory that a path leads to, if it can be made the working directory. -/
def enter (disk : Disk) (view : Standpoint) (path : String) : Except Fault Nat := do
  let index ← disk.find view true path
  if !disk.isDirectory index then .error .notDirectory
  else if !disk.permits index 1 then .error .permissionDenied
  else return index

/-- The absolute path of a directory, if it can still be reached; `fuel` bounds the
depth. -/
def pathOf (disk : Disk) : (fuel index : Nat) → Option String
  | 0, _ => none
  | fuel + 1, index =>
    if index = root then some "/"
    else
      let above := disk.parent index
      match (disk.entries above).find? (·.2 = index), pathOf disk fuel above with
      | some (name, _), some path => some (if path = "/" then path ++ name else path ++ "/" ++ name)
      | _, _ => none

/-- The data of a file. -/
def data (disk : Disk) (index : Nat) : ByteArray :=
  match (disk.node index).content with
  | .regular data => data
  | _ => .empty

/-- Replaces the data of a file. -/
def setData (disk : Disk) (index : Nat) (time : Nat) (data : ByteArray) : Disk :=
  disk.alter index fun inode =>
    match inode.content with
    | .regular _ => { inode with content := .regular data, modified := time }
    | _ => inode

/-- Bytes of value zero. -/
def zeros (count : Nat) : ByteArray := ⟨Array.replicate count 0⟩

/-- Changes the data of a file from a place on. -/
def overwrite (old new : ByteArray) (offset : Nat) : ByteArray :=
  if offset = old.size then old ++ new
  else if old.size < offset then old ++ zeros (offset - old.size) ++ new
  else old.extract 0 offset ++ new ++ old.extract (offset + new.size) old.size

/-- Data cut or filled up to a size. -/
def resized (data : ByteArray) (size : Nat) : ByteArray :=
  if size ≤ data.size then data.extract 0 size else data ++ zeros (size - data.size)

/-- Writes data to a file from a place on.  The old data is taken out of the inode
first, so that an append does not copy it. -/
def writeData (disk : Disk) (index offset time : Nat) (new : ByteArray) : Disk :=
  disk.alter index fun inode =>
    match inode with
    | ⟨.regular old, mode, isOwn, _, links⟩ =>
      ⟨.regular (overwrite old new offset), mode, isOwn, time, links⟩
    | other => other

end Disk

end Conformance.Machine
