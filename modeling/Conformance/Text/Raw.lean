import Conformance.Text.Utf8

/-!
# Raw text

Programs see bytes, not characters.  A raw text has one character for every byte,
the one whose code is the byte.  `toRaw` and `ofRaw` lead from ordinary texts to raw
ones and back.
-/

namespace Conformance

/-- Bytes as the characters of a raw text. -/
def rawChars (bytes : Bytes) : List Char := bytes.map fun b => Char.ofNat b.toNat

/-- The bytes of a raw text. -/
def charBytes (text : List Char) : Bytes := text.map fun c => c.toNat.toUInt8

def rawOfBytes (bytes : Bytes) : String := String.ofList (rawChars bytes)

def bytesOfRaw (text : String) : Bytes := charBytes text.toList

/-- The raw text with the bytes of an ordinary one. -/
def toRaw (text : String) : String := rawOfBytes (bytesOfText text)

/-- The ordinary text with the bytes of a raw one, read leniently. -/
def ofRaw (text : String) : String := lenientText (bytesOfRaw text)

/-- The data of a raw text. -/
def dataOfRaw (text : String) : ByteArray :=
  text.foldl (fun data c => data.push c.toNat.toUInt8) .empty

/-- The data of the characters of a raw text. -/
def dataOfChars (text : List Char) : ByteArray :=
  text.foldl (fun data c => data.push c.toNat.toUInt8) .empty

/-- Data as the characters of a raw text. -/
def charsOfData (data : ByteArray) : List Char := data.toList.map fun b => Char.ofNat b.toNat

/-- Bytes as data. -/
def dataOfBytes (bytes : Bytes) : ByteArray := ⟨bytes.toArray⟩

end Conformance
