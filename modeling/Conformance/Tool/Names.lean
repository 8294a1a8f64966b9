import Conformance.Tool.Mode

/-!
# Paths as names

Tools that take paths apart, and tools that find out where paths lead.
-/

namespace Conformance.Tool

open Machine

def withoutEnding (ending name : String) : String :=
  if !ending.isEmpty && name ≠ ending && ending.toList.isSuffixOf name.toList then
    String.ofList (name.toList.take (name.length - ending.length))
  else name

def putEnded (byZero : Bool) (text : String) : Work Unit := do
  Work.put text
  Work.putData (ByteArray.empty.push (if byZero then 0 else 10))

def basename : Utility := fun words => do
  let options ← plainOptions ⟨"az".toList, ['s'], [], [("multiple", 'a'), ("suffix", 's'),
    ("zero", 'z')], false⟩ words
  let each := options.has 'a' || options.has 's'
  match options.operands with
  | [] => Work.misuse "missing operand"
  | path :: rest =>
    if each then
      for path in options.operands do
        putEnded (options.has 'z') (withoutEnding ((options.value? 's').getD "") (lastName path))
    else
      match rest.drop 1 with
      | extra :: _ => Work.misuse ("extra operand " ++ quoted extra)
      | [] => putEnded (options.has 'z') (withoutEnding (rest.headD "") (lastName path))

/-- Everything before the last part of a path. -/
def pathAbove (path : String) : String :=
  let trimmed := (path.toList.reverse.dropWhile (· = '/')).reverse
  if trimmed.isEmpty then if path.toList.head? = some '/' then "/" else "."
  else if !trimmed.contains '/' then "."
  else
    let above := ((trimmed.reverse.dropWhile (· ≠ '/')).dropWhile (· = '/')).reverse
    if above.isEmpty then "/" else String.ofList above

def dirname : Utility := fun words => do
  let options ← plainOptions ⟨['z'], [], [], [("zero", 'z')], true⟩ words
  if options.operands.isEmpty then Work.misuse "missing operand"
  for path in options.operands do
    putEnded (options.has 'z') (pathAbove path)

/-! ## Where paths lead -/

/-- What of a path has to be there. -/
inductive Existence where
  | all
  | allButLast
  | nothing
deriving DecidableEq

def pathOfNames (names : List String) : String :=
  if names.isEmpty then "/" else String.join (names.reverse.map ("/" ++ ·))

def namesOf (path : String) : List String := Machine.pieces '/' path.toList

/-- Follows the names of a path from a directory, of which the names are backwards;
`fuel` bounds the steps. -/
def followNames (need : Existence) (links : Bool) : (fuel : Nat) → (done : List String) →
    List String → Work (Except Fault (List String))
  | 0, _, _ => return .error .linkLoop
  | _ + 1, done, [] => return .ok done
  | fuel + 1, done, name :: rest => do
    if name = "." then followNames need links fuel done rest
    else if name = ".." then followNames need links fuel (done.drop 1) rest
    else
      let here := name :: done
      match ← Activity.examineItself (pathOfNames here) with
      | .error fault =>
        if need = .nothing || (need = .allButLast && fault = .notFound && rest.isEmpty) then
          followNames need links fuel here rest
        else return .error fault
      | .ok info =>
        if info.kind = .link && links then
          match ← Activity.readLink (pathOfNames here) with
          | .ok target =>
            let start := if target.toList.head? = some '/' then [] else done
            followNames need links fuel start (namesOf target ++ rest)
          | .error fault => return .error fault
        else if info.kind ≠ .directory && info.kind ≠ .link && !rest.isEmpty &&
            need ≠ .nothing then
          return .error .notDirectory
        else followNames need links fuel here rest

def canonicalPath (need : Existence) (links : Bool) (path : String) :
    Work (Except Fault String) := do
  if path.isEmpty then return .error .notFound
  else
    let start ← if path.toList.head? = some '/' then pure []
      else match ← Activity.workingDirectory with
        | .ok here => pure (namesOf here).reverse
        | .error _ => pure []
    match ← followNames need links 2000 start (namesOf path) with
    | .ok names => return .ok (pathOfNames names)
    | .error fault => return .error fault

/-- A path as seen from a directory, both absolute and without links. -/
def relativePath (directory path : String) : String :=
  let rec go : List String → List String → List String
    | a :: left, b :: right =>
      if a = b then go left right else ((a :: left).map fun _ => "..") ++ b :: right
    | left, right => (left.map fun _ => "..") ++ right
  let names := go (namesOf directory) (namesOf path)
  if names.isEmpty then "." else String.intercalate "/" names

def readlink : Utility := fun words => do
  let options ← plainOptions ⟨"femnqsvz".toList, [], [], [("canonicalize", 'f'),
    ("canonicalize-existing", 'e'), ("canonicalize-missing", 'm'), ("no-newline", 'n'),
    ("quiet", 'q'), ("silent", 's'), ("verbose", 'v'), ("zero", 'z')], true⟩ words
  if options.operands.isEmpty then Work.misuse "missing operand"
  let mode := options.last? ['f', 'e', 'm']
  let isSilent := options.last? ['q', 's', 'v'] ≠ some 'v'
  let noEnd := options.has 'n' && options.operands.length = 1
  if options.has 'n' && !noEnd then
    Work.warn "ignoring --no-newline with multiple arguments"
  for path in options.operands do
    let result ← match mode with
      | none => Activity.readLink path
      | some 'e' => canonicalPath .all true path
      | some 'm' => canonicalPath .nothing true path
      | some _ => canonicalPath .allButLast true path
    match result with
    | .ok text => if noEnd then Work.put text else putEnded (options.has 'z') text
    | .error fault =>
      if isSilent then Work.setStatus 1
      else Work.complain (shownName path ++ ": " ++ fault.text)

def realpath : Utility := fun words => do
  let options ← plainOptions ⟨"emLPqsz".toList, ['T', 'B'], [], [("canonicalize-existing", 'e'),
    ("canonicalize-missing", 'm'), ("logical", 'L'), ("physical", 'P'), ("quiet", 'q'),
    ("strip", 's'), ("no-symlinks", 's'), ("zero", 'z'), ("relative-to", 'T'),
    ("relative-base", 'B')], true⟩ words
  if options.operands.isEmpty then Work.misuse "missing operand"
  let need : Existence := match options.last? ['e', 'm'] with
    | some 'e' => .all
    | some _ => .nothing
    | none => .allButLast
  let links := !options.has 's'
  let place (letter : Char) : Work (Option String) := do
    match options.value? letter with
    | none => return none
    | some path =>
      match ← canonicalPath need links path with
      | .ok found => return some found
      | .error fault => Work.fail (shownName path ++ ": " ++ fault.text)
  let base ← place 'B'
  let origin ← place 'T'
  for path in options.operands do
    match ← canonicalPath need links path with
    | .error fault =>
      if options.has 'q' then Work.setStatus 1
      else Work.complain (shownName path ++ ": " ++ fault.text)
    | .ok found =>
      let isBelow (base : String) : Bool := (namesOf base).isPrefixOf (namesOf found)
      let shown := match base, origin with
        | some base, none => if isBelow base then relativePath base found else found
        | some base, some origin => if isBelow base then relativePath origin found else found
        | none, some origin => relativePath origin found
        | none, none => found
      putEnded (options.has 'z') shown

end Conformance.Tool
