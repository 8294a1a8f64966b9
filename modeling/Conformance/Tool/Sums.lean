import Conformance.Digest.Blake
import Conformance.Digest.Checksum
import Conformance.Digest.Md5
import Conformance.Tool.Input

/-!
# Sums of files

Tools that write a sum of every file, and that compare files with sums written before.
-/

namespace Conformance.Tool

open Machine

/-- A kind of digest: its name in marked lines, and how many bytes it has. -/
structure DigestKind where
  title : String
  size : Nat
  /-- The digest of that size, or of a smaller one where sizes can be chosen. -/
  digest : Nat → ByteArray → List UInt8
  /-- Whether smaller sizes can be chosen. -/
  isSizable : Bool

namespace DigestKind

def fixed (title : String) (size : Nat) (digest : ByteArray → List UInt8) : DigestKind :=
  ⟨title, size, fun _ => digest, false⟩

def md5 : DigestKind := fixed "MD5" 16 Digest.Md5.digest

def sha1 : DigestKind := fixed "SHA1" 20 Digest.Sha1.digest

def sha224 : DigestKind := fixed "SHA224" 28 Digest.Sha2.digest224

def sha256 : DigestKind := fixed "SHA256" 32 Digest.Sha2.digest256

def sha384 : DigestKind := fixed "SHA384" 48 Digest.Sha2.digest384

def sha512 : DigestKind := fixed "SHA512" 64 Digest.Sha2.digest512

def blake2b : DigestKind := ⟨"BLAKE2b", 64, Digest.Blake.digest, true⟩

/-- The name with the size in bits, where it is not the usual one. -/
def sizedTitle (kind : DigestKind) (size : Nat) : String :=
  if size = kind.size then kind.title else kind.title ++ "-" ++ toString (size * 8)

end DigestKind

def hexText (bytes : List UInt8) : String :=
  String.ofList (bytes.flatMap fun b =>
    [Nat.digitChar (b.toNat / 16), Nat.digitChar (b.toNat % 16)])

/-! ## Names in lines of sums -/

def needsEscapes (name : String) : Bool := name.toList.any "\\\n\r".toList.contains

def escapedName (name : String) : String :=
  String.join (name.toList.map fun c =>
    match c with
    | '\\' => "\\\\"
    | '\n' => "\\n"
    | '\r' => "\\r"
    | _ => String.singleton c)

def unescapedName? : List Char → Option (List Char)
  | [] => some []
  | '\\' :: 'n' :: rest => (unescapedName? rest).map ('\n' :: ·)
  | '\\' :: 'r' :: rest => (unescapedName? rest).map ('\r' :: ·)
  | '\\' :: '\\' :: rest => (unescapedName? rest).map ('\\' :: ·)
  | '\\' :: _ => none
  | c :: rest => if c = '\x00' then none else (unescapedName? rest).map (c :: ·)

/-! ## Lines of sums -/

/-- What a line of sums says about a file. -/
structure SumLine where
  digits : List Char
  name : String
  size : Nat

def isHexDigit (c : Char) : Bool :=
  c.isDigit || ('a' ≤ c.toLower && c.toLower ≤ 'f')

def isGap (c : Char) : Bool := c = ' ' || c = '\t'

/-- Which of two forms lines have that begin with digits: one mark in front of the name,
or none. -/
abbrev LineForm := Option Bool

def markedLine? (size : Nat) (isEscaped : Bool) (text : List Char) : Option SumLine := do
  let behind := text.reverse.takeWhile (· ≠ ')')
  let name := text.take (text.length - behind.length - 1)
  if text.length = behind.length then none
  let rest := behind.reverse.dropWhile isGap
  if rest.head? ≠ some '=' then none
  let digits := (rest.drop 1).dropWhile isGap
  if digits.length ≠ 2 * size || !digits.all isHexDigit then none
  let name ← if isEscaped then unescapedName? name else some name
  some ⟨digits, String.ofList name, size⟩

/-- Reads a line; the result has the form that such lines have from now on. -/
def sumLine? (kind : DigestKind) (form : LineForm) (text : List Char) :
    Option (SumLine × LineForm) := do
  let text := text.dropWhile isGap
  let isEscaped := text.head? = some '\\'
  let text := if isEscaped then text.drop 1 else text
  let title := kind.title.toList
  if title.isPrefixOf text then
    let rest := text.drop title.length
    let (size, rest) ← match kind.isSizable, rest with
      | true, '-' :: more =>
        let digits := more.takeWhile Char.isDigit
        let bits ← natural? digits
        if bits = 0 || 512 < bits || bits % 8 ≠ 0 then none
        else some (bits / 8, more.drop digits.length)
      | _, _ => some (kind.size, rest)
    let rest := if rest.head? = some ' ' then rest.drop 1 else rest
    if rest.head? ≠ some '(' then none
    return (← markedLine? size isEscaped (rest.drop 1), form)
  else
    let digits := text.takeWhile isHexDigit
    let size := if kind.isSizable then digits.length / 2 else kind.size
    if digits.length ≠ 2 * size || size = 0 || kind.size < size then none
    let rest := text.drop digits.length
    if !(rest.head?.map isGap).getD false then none
    let rest := rest.drop 1
    let isPlain := rest.length = 1 || !(rest.head? = some ' ' || rest.head? = some '*')
    if rest.isEmpty || (isPlain && form = some true) then none
    let (name, form) := if isPlain then (rest, some false)
      else if form = some false then (rest, form)
      else (rest.drop 1, some true)
    let name ← if isEscaped then unescapedName? name else some name
    some (⟨digits, String.ofList name, size⟩, form)

/-! ## The tools -/

/-- What was asked for. -/
structure SumRules where
  kind : DigestKind
  size : Nat
  isMarked : Bool
  isBinary : Bool
  endsInZero : Bool
  ignoresMissing : Bool
  isQuiet : Bool
  isSilent : Bool
  warns : Bool
  isStrict : Bool

def sumOf (rules : SumRules) (name : String) (data : ByteArray) : String :=
  let digits := hexText (rules.kind.digest rules.size data)
  let escapes := !rules.endsInZero && needsEscapes name
  let shown := if escapes then escapedName name else name
  (if escapes then "\\" else "") ++
    (if rules.isMarked then rules.kind.sizedTitle rules.size ++ " (" ++ shown ++ ") = " ++ digits
    else digits ++ (if rules.isBinary then " *" else "  ") ++ shown)

def putSum (endsInZero : Bool) (line : String) : Work Unit := do
  Work.put (line ++ (if endsInZero then "\x00" else "\n"))
  Work.flush

/-- What has been found while sums are compared. -/
structure SumCheck where
  form : LineForm
  sound : Nat
  unsound : Nat
  unread : Nat
  different : Nat
  matching : Nat

def compareSum (rules : SumRules) (line : SumLine) (found : SumCheck) : Work SumCheck := do
  let put (result : String) : Work Unit := do
    let escapes := needsEscapes line.name
    putSum false ((if escapes then "\\" ++ escapedName line.name else line.name) ++ ": " ++ result)
  let found := { found with sound := found.sound + 1 }
  match ← Work.readOperand line.name with
  | .error fault =>
    if rules.ignoresMissing && fault = .notFound then return found
    Work.complain (shownName line.name ++ ": " ++ fault.text)
    if !rules.isSilent then put "FAILED open or read"
    return { found with unread := found.unread + 1 }
  | .ok data =>
    let digits := hexText (rules.kind.digest line.size data)
    if digits = String.ofList (line.digits.map Char.toLower) then
      if !rules.isSilent && !rules.isQuiet then put "OK"
      return { found with matching := found.matching + 1 }
    else
      if !rules.isSilent then put "FAILED"
      return { found with different := found.different + 1 }

def compareSums (rules : SumRules) (operand : String) : Work Unit := do
  let title := shownName (if operand = "-" then "standard input" else operand)
  match ← Work.readOperand operand with
  | .error fault => Work.complain (title ++ ": " ++ fault.text)
  | .ok data =>
    let mut found : SumCheck := ⟨none, 0, 0, 0, 0, 0⟩
    for (line, place) in (linesOfData 10 data).zipIdx do
      let text := if line.content.getLast? = some '\r' then line.content.dropLast else line.content
      if !text.isEmpty && text.head? ≠ some '#' then
        match sumLine? rules.kind found.form text with
        | some (item, form) =>
          if operand = "-" && item.name = "-" then
            found := { found with unsound := found.unsound + 1 }
          else found ← compareSum rules item { found with form }
        | none =>
          if rules.warns then
            Work.warn (title ++ ": " ++ toString (place + 1) ++ ": improperly formatted " ++
              rules.kind.title ++ " checksum line")
          found := { found with unsound := found.unsound + 1 }
    let count (number : Nat) (one many : String) : Work Unit := do
      if number ≠ 0 then
        Work.warn ("WARNING: " ++ toString number ++ " " ++ (if number = 1 then one else many))
    if found.sound = 0 then
      Work.complain (title ++ ": no properly formatted checksum lines found")
    else
      if !rules.isSilent then
        count found.unsound "line is improperly formatted" "lines are improperly formatted"
        count found.unread "listed file could not be read" "listed files could not be read"
        count found.different "computed checksum did NOT match" "computed checksums did NOT match"
        if rules.ignoresMissing && found.matching = 0 then
          Work.warn (title ++ ": no file was verified")
      if found.matching = 0 || found.different ≠ 0 || found.unread ≠ 0 ||
          (rules.isStrict && found.unsound ≠ 0) then
        Work.setStatus 1

def sumOptions (isSizable : Bool) : Rules :=
  ⟨"bctwz".toList, if isSizable then ['l'] else [], [], [("binary", 'b'), ("check", 'c'),
    ("ignore-missing", 'I'), ("quiet", 'Q'), ("status", 'S'), ("strict", 'R'), ("tag", 'T'),
    ("text", 't'), ("warn", 'w'), ("zero", 'z')] ++
    (if isSizable then [("length", 'l')] else []), true⟩

/-- The number of bytes that a length in bits asks for. -/
def digestSize (text : String) : Work Nat := do
  let invalid : Work Unit := Work.warn ("invalid length: " ++ quoted text)
  match natural? text.toList with
  | none =>
    invalid
    throw 1
  | some bits =>
    if 512 < bits then
      invalid
      Work.fail "maximum digest length for 'BLAKE2b' is 512 bits"
    if bits % 8 ≠ 0 then
      invalid
      Work.fail "length is not a multiple of 8"
    return if bits = 0 then 64 else bits / 8

/-- Refuses options that do not go together. -/
def checkSumOptions (options : Options) (isMarked : Bool) : Work Unit := do
  let checks := options.has 'c'
  let binary := options.last? ['b', 't']
  if isMarked && binary = some 't' then
    Work.misuse "--tag does not support --text mode"
  if checks && options.has 'z' then
    Work.misuse "the --zero option is not supported when verifying checksums"
  if checks && isMarked then
    Work.misuse "the --tag option is meaningless when verifying checksums"
  if checks && binary.isSome then
    Work.misuse "the --binary and --text options are meaningless when verifying checksums"
  let last := options.last? ['S', 'Q', 'w']
  let needsCheck (name : String) (isGiven : Bool) : Work Unit := do
    if isGiven && !checks then
      Work.misuse ("the --" ++ name ++ " option is meaningful only when verifying checksums")
  needsCheck "ignore-missing" (options.has 'I')
  needsCheck "status" (last = some 'S')
  needsCheck "warn" (last = some 'w')
  needsCheck "quiet" (last = some 'Q')
  needsCheck "strict" (options.has 'R')

def sumRules (kind : DigestKind) (size : Nat) (options : Options) : SumRules :=
  let last := options.last? ['S', 'Q', 'w']
  { kind, size, isMarked := options.has 'T', isBinary := options.last? ['b', 't'] = some 'b'
    endsInZero := options.has 'z', ignoresMissing := options.has 'I', isQuiet := last = some 'Q'
    isSilent := last = some 'S', warns := last = some 'w', isStrict := options.has 'R' }

def runSums (rules : SumRules) (checks : Bool) (operands : List String) : Work Unit := do
  for operand in Work.orInput operands do
    if checks then compareSums rules operand
    else match ← Work.readOperand operand with
      | .ok data => putSum rules.endsInZero (sumOf rules operand data)
      | .error fault => Work.complain (shownName operand ++ ": " ++ fault.text)

def digestTool (kind : DigestKind) : Utility := fun words => do
  let options ← plainOptions (sumOptions kind.isSizable) words
  let size ← match options.value? 'l' with
    | some text => digestSize text
    | none => pure kind.size
  checkSumOptions options (options.has 'T')
  runSums (sumRules kind size options) (options.has 'c') options.operands

/-! ## Short sums -/

def shortSum (name : String) (data : ByteArray) : String :=
  let blocks (size : Nat) : String := toString ((data.size + size - 1) / size)
  match name with
  | "bsd" =>
    let digits := toString (Digest.turnedSum data)
    String.ofList (List.replicate (5 - digits.length) '0') ++ digits ++ " " ++ padLeft 5 (blocks 1024)
  | "sysv" => toString (Digest.foldedSum data) ++ " " ++ blocks 512
  | _ => toString (Digest.remainder data) ++ " " ++ toString data.size

def putShortSums (name : String) (endsInZero : Bool) (operands : List String) : Work Unit := do
  for operand in Work.orInput operands do
    match ← Work.readOperand operand with
    | .ok data =>
      putSum endsInZero
        (shortSum name data ++ (if operands.isEmpty then "" else " " ++ operand))
    | .error fault => Work.complain (shownName operand ++ ": " ++ fault.text)

def sum : Utility := fun words => do
  let options ← plainOptions ⟨['r', 's'], [], [], [("sysv", 's')], true⟩ words
  putShortSums (if options.last? ['r', 's'] = some 's' then "sysv" else "bsd") false
    options.operands

def digestKinds : List (String × DigestKind) :=
  [("md5", .md5), ("sha1", .sha1), ("sha224", .sha224), ("sha256", .sha256),
    ("sha384", .sha384), ("sha512", .sha512), ("blake2b", .blake2b)]

def sumNames : List (List String) :=
  (["bsd", "sysv", "crc"] ++ digestKinds.map (·.1) ++ ["sm3"]).map fun name => [name]

def kindOfLine? (line : List Char) : Option DigestKind :=
  let text := line.dropWhile fun c => isGap c || c = '\\'
  (digestKinds.map (·.2)).find? fun kind =>
    kind.title.toList.isPrefixOf text &&
      ((text.drop kind.title.length).head?.map fun c => "-( ".toList.contains c).getD false

def cksum : Utility := fun words => do
  let base := sumOptions true
  let options ← readOptions { base with
      valued := ['l', 'a'], names := base.names ++ [("algorithm", 'a'), ("untagged", 'U')] }
    (fun letter value => do
      if letter = 'a' then
        let _ ← choice "--algorithm" value sumNames) words
  let name ← match options.value? 'a' with
    | some text => choice "--algorithm" text sumNames
    | none => pure "crc"
  let size ← match options.value? 'l' with
    | some text =>
      let size ← digestSize text
      if name ≠ "blake2b" then Work.fail "--length is only supported with --algorithm=blake2b"
      pure (some size)
    | none => pure none
  checkSumOptions options (options.has 'T' && options.has 'c')
  match digestKinds.lookup name with
  | some kind =>
    let rules := sumRules kind (size.getD kind.size) options
    runSums { rules with isMarked := !options.has 'U' } (options.has 'c') options.operands
  | none =>
    if options.has 'c' then
      if (options.value? 'a').isSome then
        Work.fail "--check is not supported with --algorithm=\x7bbsd,sysv,crc\x7d"
      for operand in Work.orInput options.operands do
        let kind ← match ← Work.readOperand operand with
          | .ok data => pure ((linesOfData 10 data).findSome? fun line => kindOfLine? line.content)
          | .error _ => pure none
        compareSums (sumRules (kind.getD .md5) 16 options) operand
    else putShortSums name (options.has 'z') options.operands

end Conformance.Tool
