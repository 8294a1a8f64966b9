import Conformance.Text.Utf8
import Conformance.Yaml.Fault

/-!
# Tokens of a document

Tokens carry the positions where they begin and end.  This module reads the
tokens with contents of their own: directives, anchors, aliases and tags.
-/

namespace Conformance.Yaml

inductive ScalarStyle where
  | plain
  | singleQuoted
  | doubleQuoted
  | literal
  | folded
deriving DecidableEq, Repr

inductive TokenKind where
  | streamStart
  | streamEnd
  | versionDirective (major minor : Nat)
  | tagDirective (handle : String) (text : Bytes)
  | documentStart
  | documentEnd
  | blockSequenceStart
  | blockMappingStart
  | blockEnd
  | flowSequenceStart
  | flowSequenceEnd
  | flowMappingStart
  | flowMappingEnd
  | blockEntry
  | flowEntry
  | key
  | value
  | alias (name : String)
  | anchor (name : String)
  | tag (handle : String) (suffix : Bytes)
  | scalar (text : String) (style : ScalarStyle)
deriving DecidableEq, Repr

structure Token where
  kind : TokenKind
  start : Mark
  stop : Mark
deriving DecidableEq, Repr

/-- Fails at the cursor. -/
def failAt {α : Type} (activity : Activity) (start : Mark) (problem : Problem) (c : Cursor) :
    Except Malformed α :=
  .error (.during activity start problem c.mark)

/-- The text of characters. -/
def wordText (cs : List Char) : String := String.ofList cs

/-- The value of a hexadecimal digit. -/
def hexValue (c : Char) : Nat :=
  if c.isDigit then c.toNat - '0'.toNat
  else if 'a' ≤ c ∧ c ≤ 'f' then c.toNat - 'a'.toNat + 10
  else c.toNat - 'A'.toNat + 10

/-- One part of a version number. -/
def scanVersionPart (start : Mark) (c : Cursor) : Except Malformed (Nat × Cursor) :=
  let (digits, after) := c.span Char.isDigit
  if digits.isEmpty then failAt .versionDirective start .noVersion c
  else if 9 < digits.length then
    failAt .versionDirective start .longVersion (c.skipMany 9)
  else .ok (digits.foldl (fun n d => n * 10 + (d.toNat - '0'.toNat)) 0, after)

def scanVersion (start : Mark) (c : Cursor) : Except Malformed (TokenKind × Cursor) := do
  let (major, c) ← scanVersionPart start (c.skipWhile isSpace)
  if c.sees '.' 0 then
    let (minor, c) ← scanVersionPart start c.skip
    .ok (.versionDirective major minor, c)
  else failAt .versionDirective start .noVersionDot c

/-- A tag handle, or what looked like the beginning of one. -/
def scanHandle (directive : Bool) (start : Mark) (c : Cursor) :
    Except Malformed (List Char × Cursor) :=
  if !c.sees '!' 0 then
    failAt (if directive then .tagDirectiveHandle else .tag) start .noBang c
  else
    let (word, after) := c.skip.span isWordChar
    if after.sees '!' 0 then .ok ('!' :: word ++ ['!'], after.skip)
    else if directive && !word.isEmpty then failAt .tagDirectiveBang start .noBang after
    else .ok ('!' :: word, after)

/-- Characters of tags; a verbatim tag and a directive may have three more. -/
def isTagChar (verbatim : Bool) (c : Char) : Bool :=
  isWordChar c || ";/?:@&=+$.%!~*'()".toList.contains c || (verbatim && ",[]".toList.contains c)

/-- How many bytes a sequence with this first byte has. -/
def octetWidth (octet : Nat) : Nat :=
  if octet < 0x80 then 1
  else if octet / 32 = 6 then 2
  else if octet / 16 = 14 then 3
  else if octet / 8 = 30 then 4
  else 0

/-- Escaped bytes of one character; `missing` of them are still to come. -/
def scanOctets (activity : Activity) (start : Mark) :
    Nat → Cursor → Except Malformed (Bytes × Cursor)
  | 0, c => .ok ([], c)
  | missing + 1, c =>
    match c.peekAt 0, c.peekAt 1, c.peekAt 2 with
    | some '%', some high, some low =>
      if isHexDigit high && isHexDigit low then
        let octet := hexValue high * 16 + hexValue low
        if octet / 64 = 2 then do
          let (more, after) ← scanOctets activity start missing (c.skipMany 3)
          .ok (UInt8.ofNat octet :: more, after)
        else failAt activity start .badTrailingOctet c
      else failAt activity start .noEscapedOctet c
    | _, _, _ => failAt activity start .noEscapedOctet c

/-- The bytes of one escaped character of a tag.  Only their number is checked, so
they may be the bytes of no character. -/
def scanEscapedChar (activity : Activity) (start : Mark) (c : Cursor) :
    Except Malformed (Bytes × Cursor) :=
  match c.peekAt 1, c.peekAt 2 with
  | some high, some low =>
    if isHexDigit high && isHexDigit low then
      let octet := hexValue high * 16 + hexValue low
      match octetWidth octet with
      | 0 => failAt activity start .badLeadingOctet c
      | width => do
        let (more, after) ← scanOctets activity start (width - 1) (c.skipMany 3)
        .ok (UInt8.ofNat octet :: more, after)
    else failAt activity start .noEscapedOctet c
  | _, _ => failAt activity start .noEscapedOctet c

/-- The bytes of a tag, escapes decoded. -/
def scanTagBytes (activity : Activity) (verbatim : Bool) (start : Mark) (c : Cursor) :
    Except Malformed (Bytes × Cursor) :=
  match c.peek with
  | none => .ok ([], c)
  | some x =>
    if isTagChar verbatim x then
      match (if x = '%' then scanEscapedChar activity start c
        else .ok (String.utf8EncodeChar x, c.skip)) with
      | .error e => .error e
      | .ok (decoded, after) =>
        if _h : after.rest.length < c.rest.length then
          match scanTagBytes activity verbatim start after with
          | .error e => .error e
          | .ok (more, final) => .ok (decoded ++ more, final)
        else .ok (decoded, after)
    else .ok ([], c)
termination_by c.rest.length

/-- The bytes of a tag behind `head`, which must not be empty with it.  They end in
front of the first zero byte. -/
def scanTagText (verbatim directive : Bool) (head : List Char) (start : Mark) (c : Cursor) :
    Except Malformed (Bytes × Cursor) := do
  let activity := if directive then Activity.tagDirectiveText else .tagText
  let (bytes, after) ← scanTagBytes activity verbatim start c
  if head.isEmpty && bytes.isEmpty then failAt activity start .noTagText after
  else .ok ((bytesOfChars (head.drop 1) ++ bytes).takeWhile (· ≠ 0), after)

def scanTagDirective (start : Mark) (c : Cursor) : Except Malformed (TokenKind × Cursor) := do
  let (handle, c) ← scanHandle true start (c.skipWhile isSpace)
  if !c.isSpaceAt 0 then failAt .tagDirective start .noBlank c
  else
    let (text, c) ← scanTagText true true [] start (c.skipWhile isSpace)
    if c.endsWordAt 0 then .ok (.tagDirective (wordText handle) text, c)
    else failAt .tagDirective start .noBlankOrBreak c

def scanDirective (c : Cursor) : Except Malformed (Token × Cursor) := do
  let start := c.mark
  let (name, after) := c.skip.span isWordChar
  if name.isEmpty then failAt .directive start .noDirectiveName after
  else if !after.endsWordAt 0 then failAt .directive start .oddDirectiveName after
  else
    let (kind, behind) ←
      if name = "YAML".toList then scanVersion start after
      else if name = "TAG".toList then scanTagDirective start after
      else failAt .directive start .unknownDirective after
    let line := behind.skipComment
    if line.endsLineAt 0 then .ok (⟨kind, start, behind.mark⟩, line.skipBreak)
    else failAt .directive start .noDirectiveEnd line

/-- An anchor or an alias: its name ends the word or comes before an indicator. -/
def scanName (activity : Activity) (kind : String → TokenKind) (c : Cursor) :
    Except Malformed (Token × Cursor) :=
  let start := c.mark
  let (name, after) := c.skip.span isWordChar
  let ends := after.endsWordAt 0 || after.peek.any ("?:,]\x7d%@`".toList.contains ·)
  if name.isEmpty || !ends then failAt activity start .noWordChar after
  else .ok (⟨kind (wordText name), start, after.mark⟩, after)

/-- Handle and suffix of a tag. -/
def scanTagParts (start : Mark) (c : Cursor) :
    Except Malformed ((List Char × Bytes) × Cursor) :=
  if c.sees '<' 1 then do
    let (text, after) ← scanTagText true false [] start (c.skipMany 2)
    if after.sees '>' 0 then .ok (([], text), after.skip)
    else failAt .tag start .noClosingAngle after
  else do
    let (handle, after) ← scanHandle false start c
    if 1 < handle.length && handle.getLast? = some '!' then
      let (suffix, after) ← scanTagText false false [] start after
      .ok ((handle, suffix), after)
    else
      let (suffix, after) ← scanTagText false false handle start after
      if suffix.isEmpty then .ok (([], bytesOfChars ['!']), after) else .ok ((['!'], suffix), after)

def scanTag (inFlow : Bool) (c : Cursor) : Except Malformed (Token × Cursor) := do
  let start := c.mark
  let ((handle, suffix), after) ← scanTagParts start c
  if (inFlow && after.sees ',' 0) || after.endsWordAt 0 then
    .ok (⟨.tag (wordText handle) suffix, start, after.mark⟩, after)
  else failAt .tag start .noBlankOrBreak after

end Conformance.Yaml
