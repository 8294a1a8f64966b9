import Conformance.Shell.CharSet
import Conformance.Shell.Escape
import Conformance.Tool.Input

/-!
# Replacing characters

A set of characters is written as a text with ranges, classes and repetitions.  One set
is replaced by another, character by character; or the characters of a set are deleted,
or only their repetitions.
-/

namespace Conformance.Tool

open Machine Shell

def charsBetween (low high : Char) : List Char :=
  ((List.range (high.toNat + 1)).drop low.toNat).map Char.ofNat

/-- A piece of a set. -/
inductive SetPiece where
  | chars (members : List Char)
  | named (name : String) (members : List Char)
  /-- A character as often as is needed. -/
  | filler (c : Char)

namespace SetPiece

def members : SetPiece → List Char
  | .chars members => members
  | .named _ members => members
  | .filler _ => []

def isClass : SetPiece → Bool
  | .named _ _ => true
  | _ => false

def isFiller : SetPiece → Bool
  | .filler _ => true
  | _ => false

/-- Whether a piece is one of the two classes that case can be changed between. -/
def isCase : SetPiece → Bool
  | .named name _ => name = "lower" || name = "upper"
  | _ => false

end SetPiece

def setChar? (text : List Char) : Option (Char × Bool × List Char) :=
  match text with
  | [] => none
  | ['\\'] => some ('\\', false, [])
  | '\\' :: c :: rest =>
    if isOctal c then
      let digits := ((c :: rest).takeWhile isOctal).take 3
      let used := if octalValue digits < 256 then digits else digits.take 2
      some (Char.ofNat (octalValue used), true, (c :: rest).drop used.length)
    else some ((letterEscape? c).getD c, true, rest)
  | c :: rest => some (c, false, rest)

def shownChar (c : Char) : String :=
  if 32 ≤ c.toNat && c.toNat < 127 then String.singleton c
  else
    let digits := Nat.toDigits 8 c.toNat
    "\\" ++ String.ofList (List.replicate (3 - digits.length) '0' ++ digits)

/-- What stands between two marks in brackets, and what follows. -/
def bracketed? (mark : Char) : List Char → Option (List Char × List Char)
  | [] => none
  | c :: rest =>
    match rest with
    | ']' :: after =>
      if c = mark then some ([], after)
      else (bracketed? mark rest).map fun (inside, left) => (c :: inside, left)
    | _ => (bracketed? mark rest).map fun (inside, left) => (c :: inside, left)

/-- A repetition such as `[x*3]`, behind its first bracket. -/
def repetition? (text : List Char) : Option (Except String (SetPiece × List Char)) := do
  let (c, _, rest) ← setChar? text
  match rest with
  | '*' :: more =>
    let count := more.takeWhile (· ≠ ']')
    match more.drop count.length with
    | _ :: after =>
      if count.isEmpty then some (.ok (.filler c, after))
      else if !count.all Char.isDigit then
        some (.error ("invalid repeat count " ++ quoted (String.ofList count) ++
          " in [c*n] construct"))
      else
        let number := if count.head? = some '0' then octalValue count
          else (natural? count).getD 0
        some (.ok (if number = 0 then .filler c else .chars (List.replicate number c), after))
    | [] => none
  | _ => none

/-- The pieces of a set; `fuel` bounds them. -/
def setPieces : (fuel : Nat) → List Char → Except String (List SetPiece)
  | 0, _ => .ok []
  | fuel + 1, text =>
    let single : Except String (List SetPiece) :=
      match setChar? text with
      | none => .ok []
      | some (low, _, rest) =>
        match rest with
        | '-' :: more =>
          match setChar? more with
          | some (high, _, after) =>
            if high < low then
              .error ("range-endpoints of '" ++ shownChar low ++ "-" ++ shownChar high ++
                "' are in reverse collating sequence order")
            else do return .chars (charsBetween low high) :: (← setPieces fuel after)
          | none => do return .chars [low] :: (← setPieces fuel rest)
        | _ => do return .chars [low] :: (← setPieces fuel rest)
    match text with
    | '[' :: ':' :: more =>
      match bracketed? ':' more with
      | some (name, after) =>
        match CharSet.classRanges? (String.ofList name) with
        | some ranges => do
          let members := (List.range 256).map Char.ofNat |>.filter fun c =>
            CharSet.accepts ⟨false, ranges⟩ c
          return .named (String.ofList name) members :: (← setPieces fuel after)
        | none =>
          if name.isEmpty then .error "missing character class name '[::]'"
          else .error ("invalid character class " ++ quoted (String.ofList name))
      | none => single
    | '[' :: '=' :: more =>
      match bracketed? '=' more with
      | some ([c], after) => do return .chars [c] :: (← setPieces fuel after)
      | some ([], _) => .error "missing equivalence class character '[==]'"
      | some (name, _) =>
        .error (String.ofList name ++ ": equivalence class operand must be a single character")
      | none => single
    | '[' :: rest =>
      match repetition? rest with
      | some (.ok (piece, after)) => do return piece :: (← setPieces fuel after)
      | some (.error message) => .error message
      | none => single
    | _ => single

/-- The members of a set in order; a filler brings them up to a size. -/
def setMembers (size : Nat) (pieces : List SetPiece) : List Char :=
  let fixed := pieces.foldl (fun n piece => n + piece.members.length) 0
  pieces.flatMap fun piece =>
    match piece with
    | .filler c => List.replicate (size - fixed) c
    | other => other.members

def caseStarts (pieces : List SetPiece) : List Nat :=
  (pieces.foldl (fun (place, found) piece =>
    (place + piece.members.length, if piece.isCase then place :: found else found))
    (0, ([] : List Nat))).2

def setMistake? (isComplement truncates : Bool) (source target : List SetPiece) (size : Nat) :
    Option String :=
  if target.any (fun piece => piece.isClass && !piece.isCase) then
    some "when translating, the only character classes that may appear in\nstring2 are 'upper' and 'lower'"
  else if (target.filter SetPiece.isFiller).length > 1 then
    some "only one [c*] repeat construct may appear in string2"
  else
    let members := setMembers size target
    let isUniform := members.all (some · = members.head?)
    if isComplement && source.any SetPiece.isClass && !isUniform then
      some "when translating with complemented character classes,\nstring2 must map all characters in the domain to one"
    else if members.isEmpty && size ≠ 0 && !truncates then
      some "when not truncating set1, string2 must be non-empty"
    else if members.length < size && !truncates && (target.getLast?.any SetPiece.isClass) then
      some "when translating with string1 longer than string2,\nthe latter string must not end with a character class"
    else if !isComplement && (caseStarts target).any fun place =>
        !(caseStarts source).contains place then
      some "misaligned [:upper:] and/or [:lower:] construct"
    else none

def membership (members : List Char) : Array Bool :=
  members.foldl (fun table c => table.setIfInBounds c.toNat true) (Array.replicate 256 false)

/-- The replacement of each byte; of two for one byte, the later counts. -/
def replacements (source target : List Char) : Array UInt8 :=
  let last := (target.getLast?.getD '\x00').toNat.toUInt8
  let usual := (Array.range 256).map Nat.toUInt8
  let pairs := source.zip (target.map (·.toNat.toUInt8) ++
    List.replicate (source.length - target.length) last)
  pairs.foldl (fun table (c, b) => table.setIfInBounds c.toNat b) usual

/-- What happens to bytes: deletion, replacement, and the removal of repetitions. -/
structure ByteRules where
  deletes : Array Bool
  replaces : Array UInt8
  squeezes : Array Bool

/-- Changes a piece of data; the last byte before it counts for repetitions. -/
def ByteRules.apply (rules : ByteRules) (before : Option UInt8) (data : ByteArray) :
    Option UInt8 × ByteArray :=
  data.foldl (fun (before, done) byte =>
    if rules.deletes.getD byte.toNat false then (before, done)
    else
      let b := rules.replaces.getD byte.toNat byte
      if before = some b && rules.squeezes.getD b.toNat false then (before, done)
      else (some b, done.push b)) (before, ByteArray.empty)

def warnOfEscapes : List Char → Work Unit
  | [] => return
  | ['\\'] => Work.warn "warning: an unescaped backslash at end of string is not portable"
  | '\\' :: c :: rest => do
    if isOctal c then
      let digits := ((c :: rest).takeWhile isOctal).take 3
      if 256 ≤ octalValue digits then
        Work.warn ("warning: the ambiguous octal escape \\" ++ String.ofList digits ++
          " is being\n\tinterpreted as the 2-byte sequence \\0" ++ String.ofList (digits.take 2) ++
          ", " ++ String.ofList (digits.drop 2))
    warnOfEscapes rest
  | _ :: rest => warnOfEscapes rest

def readSet (text : String) : Work (List SetPiece) := do
  warnOfEscapes text.toList
  match setPieces (text.length + 1) text.toList with
  | .ok pieces => return pieces
  | .error message => Work.fail message

def checkSetCount (options : Options) : Work Unit := do
  let words := options.operands
  let deletes := options.has 'd'
  let squeezes := options.has 's'
  let least := if deletes = squeezes then 2 else 1
  let most := if deletes && !squeezes then 1 else 2
  if words.length < least then
    match words with
    | [] => Work.misuse "missing operand"
    | first :: _ =>
      Work.warn ("missing operand after " ++ quoted first)
      Work.writeError (if squeezes
        then "Two strings must be given when both deleting and squeezing repeats.\n"
        else "Two strings must be given when translating.\n")
      Work.hint
  match words.drop most with
  | extra :: _ =>
    Work.warn ("extra operand " ++ quoted extra)
    if words.length = 2 then
      Work.writeError "Only one string may be given when deleting without squeezing repeats.\n"
    Work.hint
  | [] => pure ()

def tr : Utility := fun words => do
  let options ← plainOptions ⟨"cCdst".toList, [], [], [("complement", 'c'), ("delete", 'd'),
    ("squeeze-repeats", 's'), ("truncate-set1", 't')], false⟩ words
  checkSetCount options
  let isComplement := options.has 'c' || options.has 'C'
  let sourcePieces ← readSet (options.operands.headD "")
  let targetPieces ← match options.operands[1]? with
    | some text => readSet text
    | none => pure []
  if sourcePieces.any SetPiece.isFiller then
    Work.fail "the [c*] repeat construct may not appear in string1"
  let listed := setMembers 0 sourcePieces
  let source := if isComplement then
      let table := membership listed
      ((List.range 256).filter fun n => !table.getD n false).map Char.ofNat
    else listed
  let usual := (Array.range 256).map Nat.toUInt8
  let nothing := Array.replicate 256 false
  let translates := !options.has 'd' && options.operands.length = 2
  let target := setMembers source.length targetPieces
  if translates then
    match setMistake? isComplement (options.has 't') sourcePieces targetPieces source.length with
    | some message => Work.fail message
    | none => pure ()
  let used := if options.has 't' then source.take target.length else source
  let squeezed := if options.operands.length = 2 then target else source
  let rules : ByteRules :=
    ⟨if options.has 'd' then membership source else nothing,
      if translates then replacements used target else usual,
      if options.has 's' then membership squeezed else nothing⟩
  let (_, fault) ← Work.overPieces 8192 (fun before data => do
    let (before, changed) := rules.apply before data
    Work.putData changed
    return before) 0 Stream.pieceBound (none : Option UInt8)
  match fault with
  | some fault => Work.fail ("read error: " ++ fault.text)
  | none => pure ()

end Conformance.Tool
