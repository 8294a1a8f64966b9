/-!
# Text as bytes

`decodeUtf8` reads bytes one at a time and yields a character for every
well-formed sequence and `none` for every longest piece that could have begun
one but does not complete it.  A newline byte is never part of a longer sequence,
so decoding lines apart and decoding the whole agree.

Strict reading fails if any piece is `none`; lenient reading shows each such
piece as one replacement character.
-/

namespace Conformance

abbrev Bytes := List UInt8

/-- A sequence under way: the code so far, how many bytes are missing, and the
range the next one must lie in. -/
structure PendingChar where
  code : Nat
  missing : Nat
  low : UInt8
  high : UInt8

/-- What a byte that starts a sequence yields at once, and what it leaves open. -/
def startSequence (b : UInt8) : List (Option Char) × Option PendingChar :=
  let code := b.toNat
  if b < 0x80 then ([some (Char.ofNat code)], none)
  else if 0xC2 ≤ b ∧ b ≤ 0xDF then ([], some ⟨code - 0xC0, 1, 0x80, 0xBF⟩)
  else if b = 0xE0 then ([], some ⟨0, 2, 0xA0, 0xBF⟩)
  else if b = 0xED then ([], some ⟨0xD, 2, 0x80, 0x9F⟩)
  else if 0xE1 ≤ b ∧ b ≤ 0xEF then ([], some ⟨code - 0xE0, 2, 0x80, 0xBF⟩)
  else if b = 0xF0 then ([], some ⟨0, 3, 0x90, 0xBF⟩)
  else if 0xF1 ≤ b ∧ b ≤ 0xF3 then ([], some ⟨code - 0xF0, 3, 0x80, 0xBF⟩)
  else if b = 0xF4 then ([], some ⟨4, 3, 0x80, 0x8F⟩)
  else ([none], none)

/-- One byte further, from the state that the bytes before left. -/
def decodeByte (pending : Option PendingChar) (b : UInt8) :
    List (Option Char) × Option PendingChar :=
  match pending with
  | none => startSequence b
  | some p =>
    if p.low ≤ b ∧ b ≤ p.high then
      let code := p.code * 64 + b.toNat % 64
      if p.missing ≤ 1 then ([some (Char.ofNat code)], none)
      else ([], some ⟨code, p.missing - 1, 0x80, 0xBF⟩)
    else
      let (out, next) := startSequence b
      (none :: out, next)

def decodeFrom (pending : Option PendingChar) : Bytes → List (Option Char)
  | [] => if pending.isSome then [none] else []
  | b :: rest =>
    let (out, next) := decodeByte pending b
    out ++ decodeFrom next rest

/-- The characters of a byte string, `none` for each ill-formed piece. -/
def decodeUtf8 (bytes : Bytes) : List (Option Char) := decodeFrom none bytes

/-- Strict reading. -/
def textOfBytes? (bytes : Bytes) : Option String :=
  ((decodeUtf8 bytes).mapM id).map String.ofList

/-- Lenient reading. -/
def lenientText (bytes : Bytes) : String :=
  String.ofList ((decodeUtf8 bytes).map (·.getD '\uFFFD'))

def bytesOfChars (text : List Char) : Bytes := text.flatMap String.utf8EncodeChar

def bytesOfText (text : String) : Bytes := bytesOfChars text.toList

/-- The number of bytes of a text. -/
def byteLength (text : String) : Nat := text.utf8ByteSize

end Conformance
