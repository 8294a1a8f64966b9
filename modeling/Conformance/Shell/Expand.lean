import Conformance.Shell.Brace
import Conformance.Shell.Calculation
import Conformance.Shell.Fields
import Conformance.Shell.Job

/-!
# Expansion of words

A word is expanded into pieces; pieces are cut into fields, and fields that are
patterns are replaced by the paths they fit.  Running the commands in a word is left
to a `Runner`.
-/

namespace Conformance.Shell

open Machine

/-- How commands and texts are run. -/
structure Runner where
  tree : Eval
  text : String → Sh Unit

/-- What a word is expanded for. -/
structure Purpose where
  /-- Whether arguments stay apart, to become fields. -/
  splits : Bool
deriving DecidableEq

namespace Purpose

def fields : Purpose := ⟨true⟩
def single : Purpose := ⟨false⟩

end Purpose

/-- What a parameter stands for. -/
inductive Found where
  | nothing
  | one (text : String)
  /-- Several texts; `joined` tells whether they become one between quotes. -/
  | many (texts : List String) (joined : Bool)

namespace Expand

/-- Reads from a descriptor to its end; `fuel` bounds the pieces. -/
def readAll (descriptor : Nat) : (fuel : Nat) → (taken : List ByteArray) → Sh ByteArray
  | 0, taken => return taken.reverse.foldl (· ++ ·) .empty
  | fuel + 1, taken => do
    match ← Activity.read descriptor 65536 with
    | .ok data =>
      if data.isEmpty then return taken.reverse.foldl (· ++ ·) .empty
      else readAll descriptor fuel (data :: taken)
    | .error .interrupted => readAll descriptor fuel taken
    | .error _ => return taken.reverse.foldl (· ++ ·) .empty

def withoutLastNewlines (text : List Char) : List Char :=
  (text.reverse.dropWhile (· = '\n')).reverse

def outputOf (runner : Runner) (body : Option Command) : Sh (List Char) := do
  match body with
  | none => return []
  | some _ =>
    match ← Activity.makePipe with
    | .error _ => Sh.fail "Pipe call failed"
    | .ok (reader, writer) =>
      let job ← Sh.addJob
      let _ ← Sh.start runner.text job .substitution do
        Activity.close reader
        let _ ← Activity.ask (.redirect writer 1)
        Activity.close writer
        let status ← runner.tree .last body
        Sh.setStatus status
      Activity.close writer
      let data ← readAll reader 1000000 []
      Activity.close reader
      let status ← Sh.waitForJob job
      modify fun session => { session with substituted := status }
      return withoutLastNewlines ((charsOfData data).filter (· ≠ '\x00'))

/-- The letters of the options in force, in their fixed order. -/
def optionLetters (session : Session) : String :=
  match session.dialect with
  | .standard => String.ofList ("efImnsxvVECabuc".toList.filter session.has)
  | .extended =>
    String.ofList ("abefhkmnptuvxBCEHPTc".toList.filter fun c =>
      c = 'h' || c = 'B' || session.has c) ++ (if session.has 's' then "s" else "")

def evaluate (text : List Char) : Sh Int := do
  let session ← get
  match session.dialect with
  | .standard =>
    match evaluateMath session text with
    | .ok (value, after) =>
      set after
      return value
    | .error message => Sh.fail message
  | .extended =>
    match calculate session text with
    | .ok (value, after) =>
      set after
      return value
    | .error message =>
      Sh.warn message
      Sh.setStatus 1
      throw .mistake

def itemsOf (session : Session) (name : String) : List (String × String) :=
  match (session.lookup? name).bind (·.value) with
  | some (.scalar text) => [("0", text)]
  | some (.indexed items) => items.map fun (key, text) => (toString key, text)
  | some (.keyed items) => Session.inTableOrder items
  | none => []

/-- The value of a parameter without an index. -/
def plainValue (session : Session) (name : String) : Option String :=
  match name with
  | "#" => some (toString session.arguments.length)
  | "?" => some (toString session.status)
  | "$" => some (toString session.process)
  | "!" => session.lastJob.map toString
  | "-" => some (optionLetters session)
  | "0" => some session.name
  | _ =>
    if name.toList.all Char.isDigit then
      session.arguments[(digitsAt 10 name.toList).1.getD 0 - 1]?
    else match session.text? name with
      | some text => some text
      | none =>
        if session.dialect = .standard then none
        else match name with
          | "LINENO" => some (toString session.line)
          | "BASHPID" => some (toString session.process)
          | "PPID" => some (toString session.parent)
          | "BASH" => some "/bin/bash"
          | "BASH_VERSION" => some "5.2.21(1)-release"
          | "FUNCNAME" => session.callers.head?
          | _ => none

/-- Text of paths made absolute by a home directory. -/
def homeOf (session : Session) (user : String) : Option String :=
  match user with
  | "" => session.text? "HOME"
  | "root" => some "/root"
  | "daemon" => some "/usr/sbin"
  | "bin" => some "/bin"
  | "nobody" => some "/nonexistent"
  | _ => none

/-- Replaces a tilde at the start of a text that goes on with other parts if not
`isLast`. -/
def tildeStart (session : Session) (colons isLast : Bool) (text : List Char) : List Part :=
  match text with
  | '~' :: rest =>
    let isEnd (c : Char) : Bool := c = '/' || (colons && c = ':')
    let user := rest.takeWhile (!isEnd ·)
    let behind := rest.drop user.length
    if behind.isEmpty && !isLast then [.text (String.ofList text) false]
    else match homeOf session (String.ofList user) with
      | some home =>
        .text home true ::
          (if behind.isEmpty then [] else [.text (String.ofList behind) false])
      | none => [.text (String.ofList text) false]
  | _ => if text.isEmpty then [] else [.text (String.ofList text) false]

/-- Pieces of a text that begin behind colons; the colons stay at their ends. -/
def cutBehindColons : List Char → List (List Char)
  | [] => [[]]
  | ':' :: rest => [':'] :: cutBehindColons rest
  | c :: rest =>
    match cutBehindColons rest with
    | [] => [[c]]
    | piece :: more => (c :: piece) :: more

def tildeText (session : Session) (atStart colons isLast : Bool) (text : List Char) :
    List Part :=
  if !colons then
    if atStart then tildeStart session false isLast text
    else [.text (String.ofList text) false]
  else
    let pieces := cutBehindColons text
    let count := pieces.length
    (pieces.zipIdx.map fun (piece, place) =>
      if place = 0 && !atStart then [Part.text (String.ofList piece) false]
      else tildeStart session true (isLast || place + 1 < count) piece).flatten

def tildes (session : Session) (colons : Bool) (word : Word) : Word :=
  go true word
where
  /-- The parts from here on; only the first may begin with a tilde. -/
  go (atStart : Bool) : List Part → List Part
    | [] => []
    | .text content false :: rest =>
      tildeText session atStart colons rest.isEmpty content.toList ++ go false rest
    | part :: rest => part :: go false rest

/-- Turns the first character, or all, of a text to another case if they fit. -/
def recased (upper all : Bool) (pattern : List PatternItem) (text : List Char) : List Char :=
  let change (c : Char) : Char :=
    if pattern.isEmpty || fits pattern [c] then if upper then c.toUpper else c.toLower else c
  if all then text.map change
  else match text with
    | c :: rest => change c :: rest
    | [] => []

/-- Replaces what fits a pattern; `fuel` bounds the places. -/
def replaced (all : Bool) (pattern : List PatternItem) (new : List Char) :
    (fuel : Nat) → (text : List Char) → List Char
  | 0, text => text
  | _ + 1, [] => []
  | fuel + 1, c :: rest =>
    let text := c :: rest
    let sizes := (List.range (text.length + 1)).reverse
    match sizes.find? fun n => 0 < n && fits pattern (text.take n) with
    | some n =>
      new ++ (if all then replaced all pattern new fuel (text.drop n) else text.drop n)
    | none => c :: replaced all pattern new fuel rest

def replacedAt (anchor : Anchor) (all : Bool) (pattern : List PatternItem) (new text : List Char) :
    List Char :=
  let sizes := (List.range (text.length + 1)).reverse
  if pattern.isEmpty then text
  else match anchor with
    | .anywhere => replaced all pattern new (text.length + 1) text
    | .front =>
      match sizes.find? fun n => fits pattern (text.take n) with
      | some n => new ++ text.drop n
      | none => text
    | .finish =>
      match sizes.find? fun n => fits pattern (text.drop (text.length - n)) with
      | some n => text.take (text.length - n) ++ new
      | none => text

def requoted (text : String) : String :=
  "'" ++ String.join (text.toList.map fun c =>
    if c = '\'' then "'\\''" else String.singleton c) ++ "'"

section

variable (runner : Runner) (inner : Purpose → Word → Sh (List Piece))

def operandPieces (purpose : Purpose) (word : Word) : Sh (List Piece) := do
  let session ← get
  return (← inner purpose (tildes session false word)).map Piece.loosen

def operandText (word : Word) : Sh String := do
  return String.ofList (Piece.textOf (← operandPieces inner .single word))

def operandPattern (word : Word) : Sh (List PatternItem) := do
  return patternOf (Piece.glyphsOf (← operandPieces inner .single word))

/-- What a parameter stands for. -/
def find (name : String) (index : Option Word) : Sh Found := do
  let session ← get
  match index with
  | none =>
    if name = "@" then return .many session.arguments false
    else if name = "*" then return .many session.arguments true
    else match plainValue session name with
      | some text => return .one text
      | none => return .nothing
  | some [.text "@" _] => return .many ((itemsOf session name).map (·.2)) false
  | some [.text "*" _] => return .many ((itemsOf session name).map (·.2)) true
  | some word =>
    let text ← operandText inner word
    match (session.lookup? name).bind (·.value) with
    | some (.keyed items) =>
      match items.lookup text with
      | some value => return .one value
      | none => return .nothing
    | some other =>
      let place ← evaluate text.toList
      let items := match other with
        | .indexed items => items
        | .scalar value => [(0, value)]
        | .keyed _ => []
      let size : Int := Int.ofNat ((items.getLast?.map (·.1 + 1)).getD 0)
      let wanted := if place < 0 then size + place else place
      match items.lookup wanted.toNat with
      | some value => return if wanted < 0 then .nothing else .one value
      | none => return .nothing
    | none => return .nothing

def piecesOf (purpose : Purpose) (quoted : Bool) (found : Found) : Sh (List Piece) := do
  let session ← get
  match found with
  | .nothing => return [.ofText quoted []]
  | .one text => return [.ofText quoted text.toList]
  | .many texts joined =>
    if !purpose.splits || (quoted && joined) then
      return [.ofText quoted (String.intercalate session.glue texts).toList]
    else
      return (texts.map fun text => Piece.ofText quoted text.toList).intersperse .boundary

def store (name : String) (index : Option Word) (text : String) : Sh Unit := do
  if !isName name then Sh.fail (name ++ ": bad variable name")
  match index with
  | none => Sh.assign name text
  | some word =>
    let key ← operandText inner word
    let session ← get
    let known := (session.lookup? name).getD .none
    if known.isFixed then
      Sh.warn (name ++ ": readonly variable")
      Sh.setStatus 1
      throw .mistake
    match known.value with
    | some (.keyed items) =>
      let changed := if items.any (·.1 = key) then
          items.map fun item => if item.1 = key then (key, text) else item
        else items ++ [(key, text)]
      set (session.setVariable name { known with value := some (.keyed changed) })
    | other =>
      let place ← evaluate key.toList
      let session ← get
      let items := match other with
        | some (.indexed items) => items
        | some (.scalar value) => [(0, value)]
        | _ => []
      let size : Int := Int.ofNat ((items.getLast?.map (·.1 + 1)).getD 0)
      let wanted := (if place < 0 then size + place else place).toNat
      let changed := ((wanted, text) :: items.filter (·.1 ≠ wanted)).mergeSort
        fun a b => a.1 ≤ b.1
      set (session.setVariable name { known with value := some (.indexed changed) })

/-- Changes every text that a parameter stands for.  In the common language several
texts are changed as one. -/
def mapFound (change : List Char → List Char) (found : Found) : Sh Found := do
  let session ← get
  let apply (text : String) : String := String.ofList (change text.toList)
  match found with
  | .nothing => return .one (apply "")
  | .one text => return .one (apply text)
  | .many texts joined =>
    match session.dialect with
    | .standard =>
      return .one (apply (String.intercalate (if session.glue.isEmpty then "" else " ") texts))
    | .extended => return .many (texts.map apply) joined

/-- The part of a list or text from a place on. -/
def sliced {α : Type} (items : List α) (start : Int) (count : Option Int) :
    Option (List α) :=
  let size := Int.ofNat items.length
  let first := if start < 0 then size + start else start
  if first < 0 || size < first then some []
  else
    let rest := items.drop first.toNat
    match count with
    | none => some rest
    | some n =>
      if n < 0 then
        if size + n < first then none else some (rest.take (size + n - first).toNat)
      else some (rest.take n.toNat)

/-- What a parameter that must be set shows if it is not. -/
def unsetMessage (name : String) (orEmpty : Bool) (text : String) : String :=
  name ++ ": " ++ (if !text.isEmpty then text
    else if orEmpty then "parameter not set or null" else "parameter not set")

def counts (orEmpty : Bool) : Found → Bool
  | .nothing => false
  | .one text => !orEmpty || !text.isEmpty
  | .many texts _ => match texts with
    | [] => !orEmpty
    | [only] => !orEmpty || !only.isEmpty
    | _ => true

/-- Whether a use gives something else where a parameter is missing. -/
def allowsMissing : Use → Bool
  | .fallback _ _ => true
  | .assign _ _ => true
  | .demand _ _ => true
  | .alternative _ _ => true
  | _ => false

def usePieces (purpose : Purpose) (name : String) (index : Option Word) (quoted : Bool)
    (use : Use) (found : Found) : Sh (List Piece) := do
  let session ← get
  let isMissing := match found with
    | .nothing => true
    | _ => false
  let pieces (found : Found) : Sh (List Piece) := piecesOf purpose quoted found
  if isMissing && session.has 'u' && !allowsMissing use then
    if session.dialect = .standard then Sh.fail (name ++ ": parameter not set")
    else
      Sh.warn (name ++ ": unbound variable")
      Sh.setStatus 1
      throw .leave
  match use with
  | .value => pieces found
  | .invalid => Sh.fail "Bad substitution"
  | .length =>
    let size : Nat := match found with
      | .nothing => 0
      | .one text => text.length
      | .many texts _ =>
        if session.dialect = .extended then texts.length
        else
          let glue := if purpose.splits then 1 else session.glue.length
          (texts.map String.length).foldl (· + ·) 0 + glue * (texts.length - 1)
    return [.ofText quoted (toString size).toList]
  | .fallback orEmpty word =>
    if counts orEmpty found then pieces found else operandPieces inner purpose word
  | .alternative orEmpty word =>
    if counts orEmpty found then operandPieces inner purpose word
    else return [.ofText quoted []]
  | .assign orEmpty word =>
    if counts orEmpty found then pieces found
    else
      let text ← operandText inner word
      store inner name index text
      return [.ofText quoted text.toList]
  | .demand orEmpty word =>
    if counts orEmpty found then pieces found
    else
      let text ← operandText inner word
      if session.dialect = .standard then Sh.fail (unsetMessage name orEmpty text)
      else
        Sh.warn (name ++ ": " ++ (if text.isEmpty then "parameter null or not set" else text))
        Sh.setStatus 127
        throw .leave
  | .trim atEnd longest word =>
    let items ← operandPattern inner word
    pieces (← mapFound (if atEnd then cutEnd longest items else cutFront longest items) found)
  | .slice start size =>
    let first ← evaluate (← operandText inner start).toList
    let count ← match size with
      | some word => do
        let value ← evaluate (← operandText inner word).toList
        pure (some value)
      | none => pure none
    let complain : Sh (List Piece) := do
      Sh.warn (toString (count.getD 0) ++ ": substring expression < 0")
      Sh.setStatus 1
      throw .mistake
    match found with
    | .nothing => pieces (.one "")
    | .one text =>
      match sliced text.toList first count with
      | some part => pieces (.one (String.ofList part))
      | none => complain
    | .many texts joined =>
      let all := if name = "@" || name = "*" then
          if first = 0 then session.name :: texts else "" :: texts
        else texts
      match sliced all first count with
      | some part => pieces (.many part joined)
      | none => complain
  | .replace all anchor pattern new =>
    let items ← operandPattern inner pattern
    let text := (← operandText inner new).toList
    pieces (← mapFound (replacedAt anchor all items text) found)
  | .recase upper all word =>
    let items ← operandPattern inner word
    pieces (← mapFound (recased upper all items) found)
  | .transform letter =>
    match letter with
    | 'U' => pieces (← mapFound (List.map Char.toUpper) found)
    | 'L' => pieces (← mapFound (List.map Char.toLower) found)
    | 'u' => pieces (← mapFound (recased true false []) found)
    | 'Q' =>
      if isMissing then pieces found
      else pieces (← mapFound (fun text => (requoted (String.ofList text)).toList) found)
    | _ => pieces found
  | .names =>
    let all := (session.bindings.filter fun (other, item) =>
      item.value.isSome && name.toList.isPrefixOf other.toList).map (·.1)
    pieces (.many (all.mergeSort (· ≤ ·)) false)
  | .keys => pieces (.many ((itemsOf session name).map (·.1)) false)
  | .indirect _ => pieces found

def parameterPieces (purpose : Purpose) (name : String) (index : Option Word) (quoted : Bool)
    (use : Use) : Sh (List Piece) := do
  match use with
  | .indirect further =>
    match ← find inner name index with
    | .one target =>
      let cut := target.toList.takeWhile (· ≠ '[')
      let behind := target.toList.drop cut.length
      let place : Option Word := match behind with
        | '[' :: inside => some [.text (String.ofList inside.dropLast) true]
        | _ => none
      let shown := String.ofList cut
      usePieces inner purpose shown place quoted further (← find inner shown place)
    | other => usePieces inner purpose name index quoted further other
  | .invalid => usePieces inner purpose name index quoted use .nothing
  | _ => usePieces inner purpose name index quoted use (← find inner name index)

/-- The path of a pipe from or to commands that run beside the shell. -/
def channelPath (isInput : Bool) (body : Option Command) : Sh String := do
  match ← Activity.makePipe with
  | .error _ => Sh.fail "Pipe call failed"
  | .ok (reader, writer) =>
    let (own, other, target) := if isInput then (reader, writer, 1) else (writer, reader, 0)
    let job ← Sh.addJob
    let _ ← Sh.start runner.text job .substitution do
      Activity.close own
      let _ ← Activity.ask (.redirect other target)
      Activity.close other
      let status ← runner.tree .last body
      Sh.setStatus status
    Activity.close other
    let kept ← match ← Activity.ask (.copy own 60 true) with
      | .number n => do
        Activity.close own
        pure n
      | _ => pure own
    modify fun session => { session with
      channels := kept :: session.channels
      jobs := session.jobs.map fun item =>
        if item.number = job then { item with isAwaited := true } else item }
    return "/dev/fd/" ++ toString kept

def partPieces (purpose : Purpose) : Part → Sh (List Piece)
  | .text content quoted => return [.glyphs (content.toList.map fun c => (c, quoted))]
  | .parameter name index use quoted => parameterPieces inner purpose name index quoted use
  | .command body quoted => do
    let session ← get
    let text ← outputOf runner body
    modify fun after => { after with line := session.line }
    return [.ofText quoted text]
  | .arithmetic content quoted => do
    let text ← operandText inner content
    return [.ofText quoted (toString (← evaluate text.toList)).toList]
  | .channel isInput body => do
    return [.glyphs ((← channelPath runner isInput body).toList.map fun c => (c, true))]

end

/-- The pieces of a word; `depth` bounds the nesting of expansions. -/
def pieces (runner : Runner) : (depth : Nat) → Purpose → Word → Sh (List Piece)
  | 0, _, _ => Sh.fail "Bad substitution"
  | depth + 1, purpose, word => do
    let found ← word.mapM (partPieces runner (pieces runner depth) purpose)
    return found.flatten

def nesting : Nat := 1000

/-- The paths that the pieces of a pattern fit below a path. -/
def matchingPaths : List (List Glyph) → (written : String) → Sh (List String)
  | [], written => do
    match ← Activity.examineItself written with
    | .ok _ => return [written]
    | .error _ => return []
  | piece :: rest, written => do
    let text := String.ofList (piece.map (·.1))
    let deeper (name : String) : Sh (List String) :=
      matchingPaths rest (written ++ name ++ (if rest.isEmpty then "" else "/"))
    if !isPattern piece then deeper text
    else
      let shown := piece.head?.map (·.1) = some '.'
      match ← Activity.list (if written.isEmpty then "." else written) with
      | .ok names =>
        let items := patternOf piece
        let chosen := ("." :: ".." :: names).filter fun name =>
          (shown || name.toList.head? ≠ some '.') && fits items name.toList
        let found ← chosen.mapM deeper
        return found.flatten
      | .error _ => return []

def resolveField (field : List Glyph) : Sh (List String) := do
  let text := String.ofList (field.map (·.1))
  let session ← get
  if isPattern field && !session.has 'f' then
    match ← matchingPaths (cutField field) "" with
    | [] => return if session.settings.contains "nullglob" then [] else [text]
    | paths => return paths.mergeSort (· ≤ ·)
  else return [text]

def fieldsOf (runner : Runner) (word : Word) : Sh (List String) := do
  let session ← get
  let variants := if session.dialect = .extended then expandBraces word else [word]
  let found ← variants.mapM fun word => do
    let session ← get
    let all ← pieces runner nesting .fields (tildes session false word)
    let fields := Fields.ofPieces (← get).separators all
    let resolved ← fields.mapM resolveField
    return resolved.flatten
  return found.flatten

def arguments (runner : Runner) (words : List Word) : Sh (List String) := do
  let found ← words.mapM (fieldsOf runner)
  return found.flatten

def text (runner : Runner) (word : Word) : Sh String := do
  let session ← get
  return String.ofList (Piece.textOf (← pieces runner nesting .single (tildes session false word)))

def quotedText (runner : Runner) (word : Word) : Sh String := do
  return String.ofList (Piece.textOf (← pieces runner nesting .single word))

def assignedText (runner : Runner) (word : Word) : Sh String := do
  let session ← get
  return String.ofList (Piece.textOf (← pieces runner nesting .single (tildes session true word)))

/-- The argument of a command that takes assignments: its value is not cut. -/
def declaredText (runner : Runner) (name : String) (value : Word) : Sh String := do
  return name ++ "=" ++ (← assignedText runner value)

def glyphs (runner : Runner) (word : Word) : Sh (List Glyph) := do
  let session ← get
  return Piece.glyphsOf (← pieces runner nesting .single (tildes session false word))

def pattern (runner : Runner) (word : Word) : Sh (List PatternItem) := do
  return patternOf (← glyphs runner word)

end Expand

end Conformance.Shell
