import Conformance.Digest.Word

/-!
# The secure hash algorithms

`Sha1` works on five words of 32 bits.  `Sha2` is a family over words of 32 or of 64 bits;
its constants are fractions of the roots of prime numbers.
-/

namespace Conformance.Digest

/-! ## Five words -/

namespace Sha1

structure State where
  a : Nat
  b : Nat
  c : Nat
  d : Nat
  e : Nat

def start : State := ⟨0x67452301, 0xefcdab89, 0x98badcfe, 0x10325476, 0xc3d2e1f0⟩

/-- The words of a block, and those made from them. -/
def schedule (words : Array Nat) : Array Nat :=
  (List.range 64).foldl (fun words k =>
    let word (place : Nat) : Nat := words.getD (k + place) 0
    words.push (turnLeft 32 1 (word 13 ^^^ word 8 ^^^ word 2 ^^^ word 0))) words

def mixed (step : Nat) (s : State) : Nat × Nat :=
  match step / 20 with
  | 0 => (s.b &&& s.c ||| opposite 32 s.b &&& s.d, 0x5a827999)
  | 1 => (s.b ^^^ s.c ^^^ s.d, 0x6ed9eba1)
  | 2 => (s.b &&& s.c ||| s.b &&& s.d ||| s.c &&& s.d, 0x8f1bbcdc)
  | _ => (s.b ^^^ s.c ^^^ s.d, 0xca62c1d6)

def stepOf (words : Array Nat) (s : State) (step : Nat) : State :=
  let (bits, constant) := mixed step s
  let sum := turnLeft 32 5 s.a + bits + s.e + constant + words.getD step 0
  ⟨sum % 4294967296, s.a, turnLeft 32 30 s.b, s.c, s.d⟩

def compress (s : State) (words : Array Nat) : State :=
  let t := (List.range 80).foldl (stepOf (schedule words)) s
  ⟨(s.a + t.a) % 4294967296, (s.b + t.b) % 4294967296, (s.c + t.c) % 4294967296,
    (s.d + t.d) % 4294967296, (s.e + t.e) % 4294967296⟩

/-- The twenty bytes of the digest. -/
def digest (message : ByteArray) : List UInt8 :=
  let data := filledUp .firstMost 64 8 message
  let s := (List.range (data.size / 64)).foldl (fun s block =>
    compress s (blockWords .firstMost 4 data (block * 64) 16)) start
  [s.a, s.b, s.c, s.d, s.e].flatMap (ByteOrder.firstMost.bytes 4)

end Sha1

/-! ## Eight words -/

namespace Sha2

/-- Two turns and a third one, or a shift, whose results are combined. -/
structure Turns where
  first : Nat
  second : Nat
  third : Nat

/-- A size of words and what goes with it. -/
structure Family where
  bits : Nat
  rounds : Nat
  /-- How the words at the two ends of the state are mixed. -/
  ends : Turns × Turns
  /-- How words of a block are made from earlier ones. -/
  earlier : Turns × Turns
  constants : Array Nat

def narrow : Family :=
  ⟨32, 64, (⟨2, 13, 22⟩, ⟨6, 11, 25⟩), (⟨7, 18, 3⟩, ⟨17, 19, 10⟩),
    ((primes.take 64).map (rootFraction 3 32)).toArray⟩

def wide : Family :=
  ⟨64, 80, (⟨28, 34, 39⟩, ⟨14, 18, 41⟩), (⟨1, 8, 7⟩, ⟨19, 61, 6⟩),
    ((primes.take 80).map (rootFraction 3 64)).toArray⟩

namespace Family

def limit (family : Family) : Nat := 1 <<< family.bits

/-- Three turns of a word. -/
def turned (family : Family) (turns : Turns) (word : Nat) : Nat :=
  turnRight family.bits turns.first word ^^^ turnRight family.bits turns.second word ^^^
    turnRight family.bits turns.third word

/-- Two turns and a shift of a word. -/
def shifted (family : Family) (turns : Turns) (word : Nat) : Nat :=
  turnRight family.bits turns.first word ^^^ turnRight family.bits turns.second word ^^^
    word >>> turns.third

def schedule (family : Family) (words : Array Nat) : Array Nat :=
  (List.range (family.rounds - 16)).foldl (fun words k =>
    let word (place : Nat) : Nat := words.getD (k + place) 0
    words.push ((family.shifted family.earlier.2 (word 14) + word 9 +
      family.shifted family.earlier.1 (word 1) + word 0) % family.limit)) words

/-- One round on the eight words of the state. -/
def round (family : Family) (words : Array Nat) (state : Array Nat) (step : Nat) : Array Nat :=
  let at' (place : Nat) : Nat := state.getD place 0
  let chosen := (at' 4 &&& at' 5) ^^^ (opposite family.bits (at' 4) &&& at' 6)
  let common := (at' 0 &&& at' 1) ^^^ (at' 0 &&& at' 2) ^^^ (at' 1 &&& at' 2)
  let first := at' 7 + family.turned family.ends.2 (at' 4) + chosen +
    family.constants.getD step 0 + words.getD step 0
  let second := family.turned family.ends.1 (at' 0) + common
  #[(first + second) % family.limit, at' 0, at' 1, at' 2, (at' 3 + first) % family.limit,
    at' 4, at' 5, at' 6]

def compress (family : Family) (state words : Array Nat) : Array Nat :=
  let after := (List.range family.rounds).foldl (family.round (family.schedule words)) state
  state.zipWith (fun a b => (a + b) % family.limit) after

/-- The first `size` bytes of the digest that begins with some words. -/
def digest (family : Family) (start : List Nat) (size : Nat) (message : ByteArray) :
    List UInt8 :=
  let wordBytes := family.bits / 8
  let block := 16 * wordBytes
  let data := filledUp .firstMost block (2 * wordBytes) message
  let state := (List.range (data.size / block)).foldl (fun state k =>
    family.compress state (blockWords .firstMost wordBytes data (k * block) 16)) start.toArray
  (state.toList.flatMap (ByteOrder.firstMost.bytes wordBytes)).take size

end Family

/-- The words with which the digests of 64-bit words begin. -/
def wideStart : List Nat := (primes.take 8).map (rootFraction 2 64)

/-- The words with which the shorter digests of 64-bit words begin. -/
def wideShortStart : List Nat := ((primes.drop 8).take 8).map (rootFraction 2 64)

def digest224 : ByteArray → List UInt8 :=
  narrow.digest (wideShortStart.map (· % 4294967296)) 28

def digest256 : ByteArray → List UInt8 :=
  narrow.digest ((primes.take 8).map (rootFraction 2 32)) 32

def digest384 : ByteArray → List UInt8 := wide.digest wideShortStart 48

def digest512 : ByteArray → List UInt8 := wide.digest wideStart 64

end Sha2

end Conformance.Digest
