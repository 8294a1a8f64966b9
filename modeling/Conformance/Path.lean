/-!
# Paths

A path is the text it was written as; joining never normalises it.  Its
components are what the file system sees of it: repeated and trailing slashes
and every `.` but a leading one are dropped.  Paths are ordered by components,
not by text.
-/

namespace Conformance

structure Path where
  text : String
deriving DecidableEq, Repr

namespace Path

inductive Component where
  | root
  | current
  | parent
  | normal (name : String)
deriving DecidableEq, Repr

/-- The pieces between slashes. -/
def cutSlashes : List Char → List (List Char)
  | [] => [[]]
  | '/' :: rest => [] :: cutSlashes rest
  | c :: rest =>
    match cutSlashes rest with
    | [] => [[c]]
    | piece :: more => (c :: piece) :: more

/-- The nonempty pieces between slashes. -/
def segments (p : Path) : List String :=
  ((cutSlashes p.text.toList).filter (!·.isEmpty)).map String.ofList

def isAbsolute (p : Path) : Bool := p.text.toList.head? = some '/'

def isEmpty (p : Path) : Bool := p.text.isEmpty

/-- Whether the text ends in a slash. -/
def endsInSlash (p : Path) : Bool := p.text.toList.getLast? = some '/'

/-- A segment as a component; `.` counts for nothing. -/
def Component.ofSegment? (name : String) : Option Component :=
  if name = "." then none
  else if name = ".." then some .parent
  else some (.normal name)

def components (p : Path) : List Component :=
  let names := p.segments
  let inner := names.filterMap Component.ofSegment?
  if p.isAbsolute then .root :: inner
  else if names.head? = some "." then .current :: inner
  else inner

/-- `q` seen from `p`: `q` itself if it is absolute. -/
def join (p q : Path) : Path :=
  if q.isAbsolute || p.isEmpty then q
  else if p.endsInSlash then ⟨p.text ++ q.text⟩
  else ⟨p.text ++ "/" ++ q.text⟩

/-- The last component if it is a name. -/
def fileName? (p : Path) : Option String :=
  match p.components.getLast? with
  | some (.normal name) => some name
  | _ => none

/-- What follows the last dot of a name, unless that dot comes first. -/
def extensionOf? (name : String) : Option String :=
  let reversed := name.toList.reverse
  let after := reversed.takeWhile (· ≠ '.')
  match reversed.dropWhile (· ≠ '.') with
  | _ :: _ :: _ => some (String.ofList after.reverse)
  | _ => none

/-- The extension of the last component. -/
def extension? (p : Path) : Option String := p.fileName?.bind extensionOf?

def Component.text : Component → String
  | .root => "/"
  | .current => "."
  | .parent => ".."
  | .normal name => name

/-- A path with the given components. -/
def ofComponents (components : List Component) : Path :=
  components.foldl (fun p c => p.join ⟨c.text⟩) ⟨""⟩

/-- Everything but the last component; the root and the empty path have none. -/
def parent? (p : Path) : Option Path :=
  match p.components.getLast? with
  | none => none
  | some .root => none
  | some _ => some (ofComponents p.components.dropLast)

def Component.rank : Component → Nat
  | .root => 0
  | .current => 1
  | .parent => 2
  | .normal _ => 3

/-- Names are compared by bytes, and follow everything that is no name. -/
def Component.le : Component → Component → Bool
  | .normal a, .normal b => a ≤ b
  | a, b => a.rank ≤ b.rank

/-- Lexicographic order of component lists. -/
def componentsLe : List Component → List Component → Bool
  | [], _ => true
  | _ :: _, [] => false
  | a :: as, b :: bs => if a = b then componentsLe as bs else a.le b

/-- The order of paths. -/
def le (p q : Path) : Bool := componentsLe p.components q.components

/-- The path that launches `p` without a search for the program: a bare name is
taken in the working directory. -/
def launchPath (p : Path) : Path :=
  if p.components.length = 1 && !p.isAbsolute then join ⟨"."⟩ p else p

end Path

end Conformance
