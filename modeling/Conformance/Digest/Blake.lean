import Conformance.Digest.Sha

/-!
# The digest BLAKE2b

Eight words of 64 bits are mixed with every block of sixteen words in twelve rounds.  The
last block is filled up with zeros, and is marked by a changed word of the state.
-/

namespace Conformance.Digest.Blake

/-- In which order the words of a block are mixed in, round by round. -/
def orders : List (List Nat) :=
  [[0, 1, 2, 3, 4, 5, 6, 7, 8, 9, 10, 11, 12, 13, 14, 15],
    [14, 10, 4, 8, 9, 15, 13, 6, 1, 12, 0, 2, 11, 7, 5, 3],
    [11, 8, 12, 0, 5, 2, 15, 13, 10, 14, 3, 6, 7, 1, 9, 4],
    [7, 9, 3, 1, 13, 12, 11, 14, 2, 6, 5, 10, 4, 0, 15, 8],
    [9, 0, 5, 7, 2, 4, 10, 15, 14, 1, 11, 12, 6, 8, 3, 13],
    [2, 12, 6, 10, 0, 11, 8, 3, 4, 13, 7, 5, 15, 14, 1, 9],
    [12, 5, 1, 15, 14, 13, 4, 10, 0, 7, 6, 3, 9, 2, 8, 11],
    [13, 11, 7, 14, 12, 1, 3, 9, 5, 0, 15, 4, 8, 6, 2, 10],
    [6, 15, 14, 9, 11, 3, 0, 8, 12, 2, 13, 7, 1, 4, 10, 5],
    [10, 2, 8, 4, 7, 6, 1, 5, 15, 11, 9, 14, 3, 12, 13, 0]]

/-- The places of the words that are mixed with one another in a round. -/
def quarters : List (Nat × Nat × Nat × Nat) :=
  [(0, 4, 8, 12), (1, 5, 9, 13), (2, 6, 10, 14), (3, 7, 11, 15),
    (0, 5, 10, 15), (1, 6, 11, 12), (2, 7, 8, 13), (3, 4, 9, 14)]

def limit : Nat := 18446744073709551616

/-- Mixes four words with two words of the block. -/
def mix (v : Array Nat) (places : Nat × Nat × Nat × Nat) (x y : Nat) : Array Nat :=
  let (i, j, k, l) := places
  let (a, b, c, d) := (v.getD i 0, v.getD j 0, v.getD k 0, v.getD l 0)
  let a := (a + b + x) % limit
  let d := turnRight 64 32 (d ^^^ a)
  let c := (c + d) % limit
  let b := turnRight 64 24 (b ^^^ c)
  let a := (a + b + y) % limit
  let d := turnRight 64 16 (d ^^^ a)
  let c := (c + d) % limit
  let b := turnRight 64 63 (b ^^^ c)
  (((v.setIfInBounds i a).setIfInBounds j b).setIfInBounds k c).setIfInBounds l d

def round (words v : Array Nat) (number : Nat) : Array Nat :=
  let order := (orders.getD (number % 10) []).toArray
  quarters.zipIdx.foldl (fun v (places, k) =>
    mix v places (words.getD (order.getD (2 * k) 0) 0) (words.getD (order.getD (2 * k + 1) 0) 0)) v

/-- Takes in a block; `count` bytes have been taken in with it. -/
def compress (state words : Array Nat) (count : Nat) (isLast : Bool) : Array Nat :=
  let others := Sha2.wideStart.zipIdx.map fun (word, place) =>
    if place = 4 then word ^^^ count % limit
    else if place = 6 && isLast then opposite 64 word
    else word
  let v := (List.range 12).foldl (round words) (state ++ others.toArray)
  (state.toList.zipIdx.map fun (word, place) =>
    word ^^^ v.getD place 0 ^^^ v.getD (place + 8) 0).toArray

/-- A digest of `size` bytes. -/
def digest (size : Nat) (message : ByteArray) : List UInt8 :=
  let blocks := max 1 ((message.size + 127) / 128)
  let data := message ++ ⟨Array.replicate (blocks * 128 - message.size) 0⟩
  let start := (Sha2.wideStart.zipIdx.map fun (word, place) =>
    if place = 0 then word ^^^ 0x01010000 ^^^ size else word).toArray
  let state := (List.range blocks).foldl (fun state k =>
    compress state (blockWords .lastMost 8 data (k * 128) 16)
      (min message.size ((k + 1) * 128)) (k + 1 = blocks)) start
  (state.toList.flatMap (ByteOrder.lastMost.bytes 8)).take size

end Conformance.Digest.Blake
