import Conformance.Machine.Disk

/-!
# Launching programs

What becomes of a file that is executed.  A file that begins with a number sign and
an exclamation mark is a script: the rest of its first line names the program that
reads it and at most one argument.  Only the beginning of the file is looked at.
-/

namespace Conformance.Machine

/-- A program of the machine, with its arguments; the first one is the name by which
it was called. -/
structure Image where
  program : String
  arguments : List String
deriving DecidableEq, Repr

/-- How much of a file is looked at. -/
def headerSize : Nat := 256

/-- How many scripts may read one another. -/
def scriptDepth : Nat := 5

/-- The beginning of a file, filled up with zeros. -/
def header (data : ByteArray) : List Char :=
  let bytes := (data.extract 0 headerSize).toList.map fun b => Char.ofNat b.toNat
  bytes ++ List.replicate (headerSize - bytes.length) '\x00'

def isSpaceOrTab (c : Char) : Bool := c = ' ' || c = '\t'

/-- The first line of a script behind its two marks, and whether it is cut off: a line
without a newline goes up to the last byte but one that is looked at. -/
def headerLine? (text : List Char) : Option (List Char) :=
  let rest := text.drop 2
  let line := rest.takeWhile fun c => c ≠ '\n' && c ≠ '\x00'
  if rest[line.length]? = some '\n' then some line
  else
    let name := rest.dropWhile isSpaceOrTab
    if name.any fun c => isSpaceOrTab c || c = '\x00' then some rest.dropLast else none

/-- The reader of a script and the argument it is given.  Both end at a zero byte. -/
def interpreter? (data : ByteArray) : Option (String × Option String) :=
  match header data with
  | '#' :: '!' :: _ =>
    (headerLine? (header data)).bind fun line =>
      let trimmed := ((line.reverse.dropWhile isSpaceOrTab).reverse).dropWhile isSpaceOrTab
      let upToZero (text : List Char) : String := String.ofList (text.takeWhile (· ≠ '\x00'))
      let name := trimmed.takeWhile fun c => !isSpaceOrTab c && c ≠ '\x00'
      let behind := trimmed.drop name.length
      if trimmed.isEmpty then none
      else match behind with
        | [] => some (String.ofList name, none)
        | '\x00' :: _ => some (String.ofList name, none)
        | _ => some (String.ofList name, some (upToZero (behind.dropWhile isSpaceOrTab)))
  | _ => none

namespace Disk

/-- The inode of a file that may be executed. -/
def runnable (disk : Disk) (view : Standpoint) (path : String) : Except Fault Nat := do
  let index ← disk.find view true path
  match (disk.node index).content with
  | .regular _ => if disk.permits index 1 then .ok index else .error .permissionDenied
  | .program _ => if disk.permits index 1 then .ok index else .error .permissionDenied
  | _ => .error .permissionDenied

/-- What executing an inode under a path comes to; `depth` bounds the scripts that read
scripts. -/
def imageOf (disk : Disk) (view : Standpoint) :
    (depth index : Nat) → (path : String) → (arguments : List String) → Except Fault Image
  | 0, _, _, _ => .error .linkLoop
  | depth + 1, index, path, arguments =>
    match (disk.node index).content with
    | .program name => .ok ⟨name, arguments⟩
    | .regular data =>
      match interpreter? data with
      | none => .error .badFormat
      | some (name, argument) => do
        if name.isEmpty then .error .permissionDenied
        else
          let reader ← disk.runnable view name
          imageOf disk view depth reader name
            (name :: argument.toList ++ path :: arguments.drop 1)
    | _ => .error .permissionDenied

/-- How long a single argument may be, and all of them together. -/
def argumentLimit : Nat := 131072
def argumentsLimit : Nat := 2097152

/-- What executing a path comes to. -/
def image (disk : Disk) (view : Standpoint) (path : String)
    (arguments environment : List String) : Except Fault Image := do
  let index ← disk.runnable view path
  let sizes := (arguments ++ environment).map fun text => text.length + 1
  if sizes.any (argumentLimit < ·) || argumentsLimit < sizes.foldl (· + ·) 0 then
    .error .tooManyArguments
  else disk.imageOf view (scriptDepth + 1) index path arguments

end Disk

end Conformance.Machine
