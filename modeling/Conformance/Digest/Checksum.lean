import Conformance.Digest.Word

/-!
# Sums of bytes

Three short sums: the remainder of a division of polynomials, a sum that is turned bit by
bit, and a sum folded to sixteen bits.
-/

namespace Conformance.Digest

/-- One bit of the division by the polynomial. -/
def divideBit (rest : Nat) : Nat :=
  if rest < 0x80000000 then rest * 2 else (rest * 2 % 4294967296) ^^^ 0x04c11db7

/-- Takes a byte into the remainder. -/
def divideByte (rest : Nat) (b : UInt8) : Nat :=
  (List.range 8).foldl (fun rest _ => divideBit rest) (rest ^^^ b.toNat <<< 24)

/-- The bytes of a length, the least first, as many as it needs; `fuel` bounds them. -/
def lengthBytes : (fuel : Nat) → Nat → List UInt8
  | 0, _ => []
  | fuel + 1, n => if n = 0 then [] else n.toUInt8 :: lengthBytes fuel (n / 256)

/-- The remainder of a message followed by its length, with opposite bits. -/
def remainder (message : ByteArray) : Nat :=
  opposite 32 ((lengthBytes 8 message.size).foldl divideByte (message.foldl divideByte 0))

/-- A sum of sixteen bits that is turned to the right before every byte. -/
def turnedSum (message : ByteArray) : Nat :=
  message.foldl (fun sum b => (turnRight 16 1 sum + b.toNat) % 65536) 0

/-- The sum of all bytes, folded to sixteen bits. -/
def foldedSum (message : ByteArray) : Nat :=
  let sum := message.foldl (fun sum b => (sum + b.toNat) % 4294967296) 0
  let once := sum % 65536 + sum / 65536
  once % 65536 + once / 65536

end Conformance.Digest
