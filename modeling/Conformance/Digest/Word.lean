/-!
# Words of a message

A digest works on a message in blocks of words.  The message is filled up to whole blocks:
a mark behind its last byte, zeros, and its length in bits at the end.
-/

namespace Conformance.Digest

/-- Which byte of a word counts most. -/
inductive ByteOrder where
  | firstMost
  | lastMost
deriving DecidableEq, Repr

namespace ByteOrder

/-- The number that bytes stand for. -/
def number : ByteOrder → List UInt8 → Nat
  | .firstMost, bytes => bytes.foldl (fun n b => n * 256 + b.toNat) 0
  | .lastMost, bytes => bytes.foldr (fun b n => n * 256 + b.toNat) 0

/-- The lowest bytes of a number, the least of them first. -/
def lowBytes : (count : Nat) → Nat → List UInt8
  | 0, _ => []
  | count + 1, n => n.toUInt8 :: lowBytes count (n / 256)

/-- A number as so many bytes. -/
def bytes : ByteOrder → (count : Nat) → Nat → List UInt8
  | .firstMost, count, n => (lowBytes count n).reverse
  | .lastMost, count, n => lowBytes count n

end ByteOrder

/-- The words of a block. -/
def blockWords (order : ByteOrder) (wordBytes : Nat) (data : ByteArray) (start count : Nat) :
    Array Nat :=
  ((List.range count).map fun place =>
    let begins := start + place * wordBytes
    order.number (data.extract begins (begins + wordBytes)).data.toList).toArray

/-- How many zeros stand between the mark and the length. -/
def zeroCount (block size lengthBytes : Nat) : Nat :=
  (block - (size + 1 + lengthBytes) % block) % block

/-- A message filled up to whole blocks. -/
def filledUp (order : ByteOrder) (block lengthBytes : Nat) (message : ByteArray) : ByteArray :=
  let zeros := Array.replicate (zeroCount block message.size lengthBytes) 0
  message.push 128 ++ ⟨zeros⟩ ++ ⟨(order.bytes lengthBytes (message.size * 8)).toArray⟩

/-- A word turned to the left by some bits. -/
def turnLeft (bits count word : Nat) : Nat :=
  (word <<< count ||| word >>> (bits - count)) % (1 <<< bits)

/-- A word turned to the right by some bits. -/
def turnRight (bits count word : Nat) : Nat := turnLeft bits (bits - count) word

/-- The bits of a word exchanged for their opposites. -/
def opposite (bits word : Nat) : Nat := (1 <<< bits) - 1 - word

/-! ## Fractions of roots -/

/-- The greatest number whose power is no more than `n`, found bit by bit from `bits`
downwards. -/
def rootFrom (power n : Nat) : (bits : Nat) → (found : Nat) → Nat
  | 0, found => found
  | bits + 1, found =>
    let more := found + 1 <<< bits
    rootFrom power n bits (if Nat.pow more power ≤ n then more else found)

/-- The first bits behind the point of a root of a small number. -/
def rootFraction (power bits n : Nat) : Nat :=
  rootFrom power (n <<< (bits * power)) (bits + 8) 0 % (1 <<< bits)

def isPrime (n : Nat) : Bool :=
  2 ≤ n && (List.range n).all fun d => d < 2 || n % d ≠ 0

/-- Enough prime numbers for every digest. -/
def primes : List Nat := (List.range 410).filter isPrime

end Conformance.Digest
