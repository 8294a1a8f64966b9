import Conformance.Shell.Integer
import Conformance.Shell.Script

/-!
# Alternatives between braces

A word with alternatives between braces stands for several words: one for every item
between commas, or for every number or letter of a range.  This is settled before any
part of the word is expanded.
-/

namespace Conformance.Shell

/-- A word, one character at a time. -/
inductive Atom where
  | char (c : Char) (quoted : Bool)
  /-- A part that is not looked into; an empty quoted text is one. -/
  | part (content : Part)

namespace Atom

def ofWord (word : Word) : List Atom :=
  word.flatMap fun part => match part with
    | .text content quoted =>
      if content.isEmpty then [.part part] else content.toList.map fun c => .char c quoted
    | _ => [.part part]

def toWord : List Atom → Word
  | [] => []
  | .part content :: rest => content :: toWord rest
  | .char c quoted :: rest =>
    match toWord rest with
    | .text content other :: more =>
      if other = quoted && !content.isEmpty then
        .text (String.singleton c ++ content) quoted :: more
      else .text (String.singleton c) quoted :: .text content other :: more
    | later => .text (String.singleton c) quoted :: later

end Atom

/-- The atoms up to the brace that closes, cut at the commas outside of inner braces. -/
def braceItems : (depth : Nat) → (item : List Atom) → (items : List (List Atom)) →
    List Atom → Option (List (List Atom) × List Atom)
  | _, _, _, [] => none
  | depth, item, items, atom :: rest =>
    match atom with
    | .char '\x7b' false => braceItems (depth + 1) (atom :: item) items rest
    | .char '\x7d' false =>
      if depth = 0 then some ((item.reverse :: items).reverse, rest)
      else braceItems (depth - 1) (atom :: item) items rest
    | .char ',' false =>
      if depth = 0 then braceItems depth [] (item.reverse :: items) rest
      else braceItems depth (atom :: item) items rest
    | _ => braceItems depth (atom :: item) items rest

def plainChars? (atoms : List Atom) : Option (List Char) :=
  atoms.mapM fun atom => match atom with
    | .char c false => some c
    | _ => none

/-- Numbers from one to another in steps; `fuel` bounds their count. -/
def numberRange : (fuel : Nat) → (first last step : Int) → List Int
  | 0, _, _, _ => []
  | fuel + 1, first, last, step =>
    if (0 < step && last < first) || (step < 0 && first < last) then []
    else first :: numberRange fuel (first + step) last step

/-- Pieces of a text between two dots. -/
def cutAtDots : List Char → List (List Char)
  | [] => [[]]
  | '.' :: '.' :: rest => [] :: cutAtDots rest
  | c :: rest =>
    match cutAtDots rest with
    | [] => [[c]]
    | piece :: more => (c :: piece) :: more

def rangeItems? (text : List Char) : Option (List String) :=
  let parts := cutAtDots text
  let number? (piece : List Char) : Option Int :=
    let read := integerAt (some 10) piece
    if read.isFound && read.rest.isEmpty then some read.value else none
  let build (first last : Int) (step : Option Int) (show_ : Int → String) :
      Option (List String) :=
    let size := match step with
      | some n => if n = 0 then 1 else Int.ofNat n.natAbs
      | none => 1
    let signed := if last < first then -size else size
    some ((numberRange ((last - first).natAbs + 1) first last signed).map show_)
  let range (a b : List Char) (step : Option Int) : Option (List String) :=
    match number? a, number? b with
    | some first, some last =>
      let isPadded (piece : List Char) : Bool :=
        let digits := if piece.head? = some '-' then piece.drop 1 else piece
        digits.head? = some '0' && 1 < digits.length
      let width := if isPadded a || isPadded b then max a.length b.length else 0
      build first last step fun n =>
        let digits := (toString n.natAbs).toList
        let sign := if n < 0 then ['-'] else []
        let zeros := List.replicate (width - digits.length - sign.length) '0'
        String.ofList (sign ++ zeros ++ digits)
    | _, _ =>
      match a, b with
      | [c], [d] =>
        if c.isAlpha && d.isAlpha then
          build c.toNat d.toNat step fun n => String.singleton (Char.ofNat n.toNat)
        else none
      | _, _ => none
  match parts with
  | [a, b] => range a b none
  | [a, b, step] => (number? step).bind fun n => range a b (some n)
  | _ => none

/-- The words that a word with braces stands for; `fuel` bounds the braces. -/
def braceWords : (fuel : Nat) → List Atom → List (List Atom)
  | 0, atoms => [atoms]
  | _ + 1, [] => [[]]
  | fuel + 1, .char '\x7b' false :: rest =>
    let literally := (braceWords fuel rest).map fun word => .char '\x7b' false :: word
    match braceItems 0 [] [] rest with
    | none => literally
    | some (items, behind) =>
      let alternatives : Option (List (List Atom)) := match items with
        | [only] =>
          ((plainChars? only).bind rangeItems?).map fun texts =>
            texts.map fun text => text.toList.map fun c => .char c false
        | _ => some (items.flatMap (braceWords fuel))
      match alternatives with
      | none => literally
      | some found =>
        let later := braceWords fuel behind
        found.flatMap fun front => later.map fun back => front ++ back
  | fuel + 1, atom :: rest => (braceWords fuel rest).map (atom :: ·)

def expandBraces (word : Word) : List Word :=
  let atoms := Atom.ofWord word
  let hasBrace := atoms.any fun atom => match atom with
    | .char '\x7b' false => true
    | _ => false
  if hasBrace then (braceWords (atoms.length + 1) atoms).map Atom.toWord else [word]

end Conformance.Shell
