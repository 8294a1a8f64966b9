import Conformance.Digest.Word

/-!
# The digest MD5

Four words of 32 bits are changed in 64 steps for every block of sixteen words.
-/

namespace Conformance.Digest.Md5

/-- One binary digit in the fractions by which sines are computed. -/
def fractionBits : Nat := 256

/-- A sine as a sum: the term of a place, and all terms behind it. -/
def sineFrom (x : Int) : (terms place : Nat) → (term : Int) → Int
  | 0, _, _ => 0
  | terms + 1, place, term =>
    let next := -(Int.tdiv (term * x * x) (((place + 1) * (place + 2) : Nat) : Int))
    term + sineFrom x terms (place + 2) next

/-- The first 32 bits behind the point of the sine of a number, without its sign. -/
def sineWord (x : Nat) : Nat :=
  (sineFrom x 200 1 ((x : Int) * Int.ofNat (1 <<< fractionBits))).natAbs >>> (fractionBits - 32)

/-- The numbers added in the steps. -/
def added : Array Nat := ((List.range 64).map fun step => sineWord (step + 1)).toArray

/-- By how many bits a word is turned in a step. -/
def turns : Array Nat :=
  #[7, 12, 17, 22, 5, 9, 14, 20, 4, 11, 16, 23, 6, 10, 15, 21]

structure State where
  a : Nat
  b : Nat
  c : Nat
  d : Nat

def start : State := ⟨0x67452301, 0xefcdab89, 0x98badcfe, 0x10325476⟩

/-- The mixed bits of a step, and the word of the block that is added. -/
def mixed (step : Nat) (s : State) : Nat × Nat :=
  match step / 16 with
  | 0 => (s.b &&& s.c ||| opposite 32 s.b &&& s.d, step)
  | 1 => (s.d &&& s.b ||| opposite 32 s.d &&& s.c, (5 * step + 1) % 16)
  | 2 => (s.b ^^^ s.c ^^^ s.d, (3 * step + 5) % 16)
  | _ => (s.c ^^^ (s.b ||| opposite 32 s.d), 7 * step % 16)

def stepOf (words : Array Nat) (s : State) (step : Nat) : State :=
  let (bits, place) := mixed step s
  let sum := (s.a + bits + added.getD step 0 + words.getD place 0) % 4294967296
  let turned := turnLeft 32 (turns.getD (step / 16 * 4 + step % 4) 0) sum
  ⟨s.d, (s.b + turned) % 4294967296, s.b, s.c⟩

def compress (s : State) (words : Array Nat) : State :=
  let t := (List.range 64).foldl (stepOf words) s
  ⟨(s.a + t.a) % 4294967296, (s.b + t.b) % 4294967296, (s.c + t.c) % 4294967296,
    (s.d + t.d) % 4294967296⟩

/-- The sixteen bytes of the digest. -/
def digest (message : ByteArray) : List UInt8 :=
  let data := filledUp .lastMost 64 8 message
  let s := (List.range (data.size / 64)).foldl (fun s block =>
    compress s (blockWords .lastMost 4 data (block * 64) 16)) start
  [s.a, s.b, s.c, s.d].flatMap (ByteOrder.lastMost.bytes 4)

end Conformance.Digest.Md5
