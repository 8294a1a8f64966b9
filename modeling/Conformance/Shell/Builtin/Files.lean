import Conformance.Shell.Builtin.Basic
import Conformance.Shell.Printf
import Conformance.Shell.Test

/-!
# Commands for input, output and directories
-/

namespace Conformance.Shell.Builtin

open Machine

def echo : Builtin := regular fun _ _ arguments => do
  let text := match (← get).dialect with
    | .standard => echoText arguments
    | .extended => echoPlainText arguments
  Sh.put (String.ofList text)
  return 0

/-- Takes warnings as the larger language words them. -/
def formatWarning (dialect : Dialect) (message : String) : String :=
  match dialect with
  | .standard => message
  | .extended =>
    let name := String.ofList (message.toList.reverse.dropWhile (· ≠ ':')).reverse
    if message.endsWith "expected numeric value" || message.endsWith "not completely converted" then
      name ++ " invalid number"
    else message

/-- Shows its arguments in a format.  Complaints come first, since the output is kept
until the end. -/
def printf : Builtin := regular fun _ _ arguments => do
  let dialect := (← get).dialect
  let (given, words) ← options (if dialect = .extended then ['v', ':'] else []) arguments
  match words with
  | [] =>
    if dialect = .extended then Sh.fail "usage: printf [-v var] format [arguments]"
    else Sh.fail "usage: printf format [arg ...]"
  | pattern :: values =>
    let result := format pattern values
    let mut shown : List (List Char) := []
    for item in result.printed do
      match item with
      | .text content => shown := content :: shown
      | .warning message => Sh.warn (formatWarning dialect message)
    match result.failure with
    | some message =>
      if dialect = .extended then
        Sh.put (String.ofList shown.reverse.flatten)
        let letter := ((message.toList.takeWhile (· ≠ ':')).getLast?).getD '%'
        Sh.warn ("\x60" ++ String.singleton letter ++ "': invalid format character")
        return 1
      else Sh.fail message
    | none =>
      let text := String.ofList shown.reverse.flatten
      match given.lookup 'v' with
      | some name => Sh.assign name text
      | none => Sh.put text
      return result.status

/-- What is wrong with a test, in the words of the larger language. -/
def testMessage (words : List String) (message : String) : String :=
  if message.startsWith "Illegal number: " then
    String.ofList (message.toList.drop 16) ++ ": integer expression expected"
  else match words with
    | [first, _] => first ++ ": unary operator expected"
    | [_, second, _] => second ++ ": binary operator expected"
    | _ => "too many arguments"

def testStatus (words : List String) : Sh Nat := do
  match ← Test.evaluate words with
  | .ok truth => return if truth then 0 else 1
  | .error message =>
    if (← get).dialect = .extended then
      Sh.warn (testMessage words message)
      return 2
    else Sh.fail message

def test : Builtin := regular fun _ _ arguments => testStatus arguments

def bracket : Builtin := regular fun _ _ arguments => do
  if arguments.getLast? = some "]" then testStatus arguments.dropLast
  else if (← get).dialect = .extended then
    Sh.warn "missing \x60]'"
    return 2
  else Sh.fail "missing ]"

/-- Takes the characters of some text into a line.  A backslash makes the next
character a quoted one, and joins lines.  Yields whether the line is complete and
whether a backslash is open. -/
def takeLine (isRaw : Bool) (stop : Char) :
    List Char → (taken : List Glyph) → (escaped : Bool) → List Glyph × Bool × Bool
  | [], taken, escaped => (taken, false, escaped)
  | c :: rest, taken, escaped =>
    if c = '\x00' && stop ≠ '\x00' then takeLine isRaw stop rest taken escaped
    else if escaped then
      if c = '\n' then takeLine isRaw stop rest taken false
      else takeLine isRaw stop rest ((c, true) :: taken) false
    else if !isRaw && c = '\\' then takeLine isRaw stop rest taken true
    else if c = stop then (taken, true, false)
    else takeLine isRaw stop rest ((c, false) :: taken) false

/-- Reads a line; `fuel` bounds the pieces in which it comes.  The line is backwards. -/
def readLine (isRaw : Bool) (stop : Char) :
    (fuel : Nat) → (taken : List Glyph) → (escaped : Bool) → Sh (List Glyph × Bool)
  | 0, taken, _ => return (taken, false)
  | fuel + 1, taken, escaped => do
    let part ← Activity.askFor (.readTo 0 stop.toNat.toUInt8) fun reply => match reply with
      | .data bytes => some bytes
      | _ => none
    match part with
    | .ok data =>
      if data.isEmpty then return (taken, false)
      else
        let (more, isComplete, open?) := takeLine isRaw stop (charsOfData data) taken escaped
        if isComplete then return (more, true) else readLine isRaw stop fuel more open?
    | .error _ => return (taken, false)

/-- Reads a number of characters one by one. -/
def readCount : (count : Nat) → (taken : List Glyph) → Sh (List Glyph × Bool)
  | 0, taken => return (taken, true)
  | count + 1, taken => do
    match ← Activity.read 0 1 with
    | .ok data =>
      match charsOfData data with
      | c :: _ => if c = '\n' then return (taken, true) else readCount count ((c, false) :: taken)
      | [] => return (taken, false)
    | .error _ => return (taken, false)

/-- Cuts a line into as many values as there are names; the last one gets the rest. -/
def valuesFor (marks : List Char) : (count : Nat) → List Glyph → List (List Char)
  | 0, _ => []
  | count + 1, text =>
    let isMark (g : Glyph) : Bool := !g.2 && marks.contains g.1
    let isBlank (g : Glyph) : Bool := isMark g && Fields.isBlankMark g.1
    let start := text.dropWhile isBlank
    let value := start.takeWhile (!isMark ·)
    let gap := (start.drop value.length).dropWhile isBlank
    let rest := match gap with
      | g :: more => if isMark g then more.dropWhile isBlank else gap
      | [] => []
    if count = 0 then
      if rest.isEmpty then [value.map (·.1)]
      else [((start.reverse.dropWhile isBlank).reverse).map (·.1)]
    else value.map (·.1) :: valuesFor marks count rest

def read : Builtin := regular fun _ _ arguments => do
  let extended := (← get).dialect = .extended
  let (given, words) ← options (if extended then "p:rd:n:N:a:st:u:ei:".toList else "p:r".toList)
    arguments
  let isRaw := given.any (·.1 = 'r')
  let names := if words.isEmpty && extended && (given.lookup 'a').isNone then ["REPLY"] else words
  if names.isEmpty && !extended then Sh.fail "arg count"
  let stop := match given.lookup 'd' with
    | some text => text.toList.headD '\x00'
    | none => '\n'
  let (line, isComplete) ← match (given.lookup 'n').bind count? with
    | some count => readCount count []
    | none => readLine isRaw stop 1000000 [] false
  let session ← get
  let marks := session.separators
  match given.lookup 'a' with
  | some name =>
    let all := valuesFor marks (line.length + 1) line.reverse
    let items := (all.filter (!·.isEmpty)).zipIdx.map fun (value, place) =>
      (place, String.ofList value)
    set (session.setVariable name { Variable.none with value := some (.indexed items) })
  | none =>
    let whole := words.isEmpty && extended
    let values := if whole then [line.reverse.map (·.1)]
      else valuesFor marks names.length line.reverse
    for (name, value) in names.zip (values ++ List.replicate (names.length - values.length) []) do
      Sh.assign name (String.ofList value)
  return if isComplete then 0 else 1

/-- A path from a directory on, with single and double dots taken out. -/
def logicalPath (current target : String) : String :=
  let start := if target.startsWith "/" then [] else Machine.pieces '/' current.toList
  let steps := (Machine.pieces '/' target.toList).foldl (fun stack piece =>
    if piece = "." then stack else if piece = ".." then stack.dropLast else stack ++ [piece]) start
  "/" ++ String.intercalate "/" steps

/-- Whether the search for a directory leaves out the listed ones. -/
def isDirect (target : String) : Bool :=
  match target.toList with
  | '/' :: _ => true
  | ['.'] => true
  | '.' :: '/' :: _ => true
  | ['.', '.'] => true
  | '.' :: '.' :: '/' :: _ => true
  | _ => false

/-- Where a directory is found, and whether it is shown. -/
def findDirectory (target : String) : Sh (String × Bool) := do
  match (← get).text? "CDPATH" with
  | some listed => if isDirect target then return (target, false) else search (cut listed)
  | none => return (target, false)
where
  cut (listed : String) : List String := (searchPaths.cut listed.toList).map String.ofList
  /-- The first of some directories that has the target in it. -/
  search : List String → Sh (String × Bool)
    | [] => return (target, false)
    | directory :: rest => do
      let path := if directory.isEmpty then target else directory ++ "/" ++ target
      match ← Activity.examine path with
      | .ok info =>
        if info.kind = .directory then return (path, !directory.isEmpty) else search rest
      | .error _ => search rest

/-- Changes the working directory; a hyphen stands for the one before. -/
def cd : Builtin := regular fun _ _ arguments => do
  let session ← get
  let (given, words) ← options ['L', 'P'] arguments
  let isPhysical := (given.getLast?.map (·.1)) = some 'P'
  let (target, isShown) := match words.head? with
    | none => ((session.text? "HOME").getD "", false)
    | some "-" => ((session.text? "OLDPWD").getD "", true)
    | some word => (word, false)
  let (path, isListed) ← if target.isEmpty then pure (".", false) else findDirectory target
  let logical := logicalPath session.directory path
  let complain (fault : Fault) : Sh Nat := do
    if session.dialect = .extended then
      Sh.warn (target ++ ": " ++ fault.text)
      return 1
    else Sh.fail ("can't cd to " ++ target)
  match ← Activity.attemptTo (.changeDirectory (if isPhysical then path else logical)) with
  | some fault => complain fault
  | none =>
    let place ← if isPhysical then do
        match ← Activity.workingDirectory with
        | .ok text => pure text
        | .error _ => pure logical
      else pure logical
    let exported (session : Session) (name text : String) : Session :=
      session.setVariable name
        { ((session.lookup? name).getD .none) with
          value := some (.scalar text), isExported := true }
    modify fun session =>
      { exported (exported session "OLDPWD" session.directory) "PWD" place with
        directory := place
        hashed := session.hashed.map fun item =>
          { item with isStale := session.dialect = .standard } }
    if isShown || isListed then Sh.put (place ++ "\n")
    return 0

def pwd : Builtin := regular fun _ _ arguments => do
  let (given, _) ← options ['L', 'P'] arguments
  let text ← if (given.getLast?.map (·.1)) = some 'P' then do
      match ← Activity.workingDirectory with
      | .ok text => pure text
      | .error _ => pure (← get).directory
    else pure (← get).directory
  Sh.put (text ++ "\n")
  return 0

/-- The permissions that a mask leaves, in words. -/
def maskText (mask : Nat) : String :=
  let letters (bits : Nat) : String :=
    String.ofList ((if bits / 4 % 2 = 0 then ['r'] else []) ++
      (if bits / 2 % 2 = 0 then ['w'] else []) ++ (if bits % 2 = 0 then ['x'] else []))
  "u=" ++ letters (mask / 64) ++ ",g=" ++ letters (mask / 8) ++ ",o=" ++ letters mask

/-- Replaces the mask and yields the one before. -/
def changeMask (mask : Nat) : Sh Nat := do
  match ← Activity.ask (.setMask mask) with
  | .number old => return old
  | _ => return 0

def permissionBits (text : List Char) : Nat :=
  (if text.contains 'r' then 4 else 0) + (if text.contains 'w' then 2 else 0) +
    (if text.contains 'x' then 1 else 0)

/-- Applies one clause such as `go-w` to the permissions that are left. -/
def maskClause? (allowed : Nat) (clause : List Char) : Option Nat :=
  let who := clause.takeWhile fun c => "ugoa".toList.contains c
  match clause.drop who.length with
  | operator :: letters =>
    if !("+-=".toList.contains operator) || !(letters.all fun c => "rwx".toList.contains c) then none
    else
      let bits := permissionBits letters
      let everybody := who.isEmpty || who.contains 'a'
      some (([('u', 64), ('g', 8), ('o', 1)] : List (Char × Nat)).foldl (fun allowed (user, scale) =>
        if everybody || who.contains user then
          let here := allowed / scale % 8
          let new := match operator with
            | '+' => Nat.lor here bits
            | '-' => Nat.land here (7 - bits)
            | _ => bits
          allowed - here * scale + new * scale
        else allowed) allowed)
  | [] => none

/-- Shows or sets the permissions that new files do not get. -/
def umask : Builtin := regular fun _ _ arguments => do
  let (given, words) ← options ['S'] arguments
  let mask ← changeMask 0
  let _ ← changeMask mask
  match words with
  | [] =>
    let digits := Nat.toDigits 8 mask
    if given.isEmpty then
      Sh.put (String.ofList (List.replicate (4 - digits.length) '0' ++ digits) ++ "\n")
    else Sh.put (maskText mask ++ "\n")
    return 0
  | text :: _ =>
    if (text.toList.headD 'x').isDigit then
      match digitsAt 8 text.toList with
      | (some new, []) =>
        let _ ← changeMask (new % 512)
        return 0
      | _ => Sh.fail ("Illegal number: " ++ text)
    else
      let clauses := (searchPaths.cut (text.toList.map fun c => if c = ',' then ':' else c))
      let allowed := clauses.foldl (fun allowed clause => allowed.bind (maskClause? · clause))
        (some (511 - mask % 512))
      match allowed with
      | some bits =>
        let _ ← changeMask (511 - bits)
        return 0
      | none => Sh.fail ("Illegal mode: " ++ text)

/-- Shows a limit; there are none that matter here. -/
def ulimit : Builtin := regular fun _ _ arguments => do
  if arguments.any (·.toList.contains 'n') then
    if arguments.length = 1 then Sh.put "1024\n"
  else if arguments.all (·.startsWith "-") then Sh.put "unlimited\n"
  return 0

end Conformance.Shell.Builtin
