import Conformance.Shell.CharSet

/-!
# Regular expressions

An expression is matched against a whole text at once: a set of places of the text
is a natural number whose bits are the places.  `reach` leads from the places where
a match may begin to those where it may end, `origins` leads back.  The match that
counts begins as early as possible and is as long as possible; its groups are read
off by cutting it where `reach` and `origins` meet, as late as possible.

Expressions that refer back to their groups are tried out instead.
-/

namespace Conformance.Shell

/-- Places between characters, by what stands on their two sides. -/
inductive Edge where
  | start
  | stop
  | lineStart
  | lineStop
  | wordStart
  | wordStop
  | wordEdge
  | noWordEdge
deriving DecidableEq, Repr

inductive Regex where
  | empty
  | one (members : CharSet)
  | edge (kind : Edge)
  | seq (first second : Regex)
  | either (first second : Regex)
  | times (body : Regex) (least : Nat) (most : Option Nat)
  | group (index : Nat) (body : Regex)
  /-- What a group has matched, once more. -/
  | again (index : Nat)
deriving DecidableEq, Repr

abbrev Places := Nat

def wordSet : CharSet := ⟨false, [('a', 'z'), ('A', 'Z'), ('0', '9'), ('_', '_')]⟩

namespace Places

def single (place : Nat) : Places := Nat.shiftLeft 1 place

def between (low length : Nat) : Places :=
  Nat.shiftLeft 1 (length + 1) - Nat.shiftLeft 1 low

def last (places : Places) : Nat := Nat.log2 places

/-- The first place of a set, searched from `place` on. -/
def firstFrom (places : Places) : (fuel : Nat) → (place : Nat) → Nat
  | 0, place => place
  | fuel + 1, place =>
    if places.testBit place then place else firstFrom places fuel (place + 1)

/-- Adds what a step leads to, again and again, `fuel` times at most. -/
def spread (step : Places → Places) : (fuel : Nat) → Places → Places
  | 0, places => places
  | fuel + 1, places =>
    let more := Nat.lor places (step places)
    if more = places then places else spread step fuel more

def walk (step : Places → Places) : Nat → Places → Places
  | 0, places => places
  | n + 1, places => walk step n (step places)

end Places

def placesOf (test : Char → Bool) (text : List Char) : Places :=
  text.foldr (fun c places => 2 * places + (if test c then 1 else 0)) 0

def Edge.places (kind : Edge) (text : List Char) : Places :=
  let length := text.length
  let all := Places.between 0 length
  let ahead := placesOf wordSet.accepts text
  let behind := Nat.shiftLeft ahead 1
  match kind with
  | .start => 1
  | .stop => Places.single length
  | .lineStart => Nat.lor 1 (Nat.shiftLeft (placesOf (· = '\n') text) 1)
  | .lineStop => Nat.lor (Places.single length) (placesOf (· = '\n') text)
  | .wordStart => Nat.land ahead (Nat.xor all behind)
  | .wordStop => Nat.land behind (Nat.xor all ahead)
  | .wordEdge => Nat.xor ahead behind
  | .noWordEdge => Nat.xor all (Nat.xor ahead behind)

namespace Regex

/-- Where matches may end that begin at one of some places. -/
def reach (text : List Char) : Regex → Places → Places
  | .empty, places => places
  | .one members, places =>
    Nat.shiftLeft (Nat.land places (placesOf members.accepts text)) 1
  | .edge kind, places => Nat.land places (kind.places text)
  | .seq first second, places => second.reach text (first.reach text places)
  | .either first second, places => Nat.lor (first.reach text places) (second.reach text places)
  | .times body least most, places =>
    let more := match most with
      | some n => n - least
      | none => text.length + 1
    match body with
    | .one members =>
      let fitting := placesOf members.accepts text
      let step (places : Places) : Places := Nat.shiftLeft (Nat.land places fitting) 1
      Places.spread step more (Places.walk step least places)
    | _ => Places.spread (body.reach text) more (Places.walk (body.reach text) least places)
  | .group _ body, places => body.reach text places
  | .again _, places => places

/-- Where matches may begin that end at one of some places. -/
def origins (text : List Char) : Regex → Places → Places
  | .empty, places => places
  | .one members, places => Nat.land (places / 2) (placesOf members.accepts text)
  | .edge kind, places => Nat.land places (kind.places text)
  | .seq first second, places => first.origins text (second.origins text places)
  | .either first second, places =>
    Nat.lor (first.origins text places) (second.origins text places)
  | .times body least most, places =>
    let more := match most with
      | some n => n - least
      | none => text.length + 1
    match body with
    | .one members =>
      let fitting := placesOf members.accepts text
      let step (places : Places) : Places := Nat.land (places / 2) fitting
      Places.walk step least (Places.spread step more places)
    | _ => Places.walk (body.origins text) least (Places.spread (body.origins text) more places)
  | .group _ body, places => body.origins text places
  | .again _, places => places

end Regex

/-- What groups have matched: for each of them, where that begins and ends. -/
abbrev Groups := List (Nat × Nat × Nat)

namespace Regex

/-- The rounds of a repetition between two places.  Each round goes as far as the
others leave it; `fuel` bounds the rounds. -/
def roundGroups (text : List Char) (body : Regex) (inner : Nat → Nat → Groups → Groups)
    (finish : Nat) : (fuel : Nat) → (least : Nat) → (most : Option Nat) → (start : Nat) →
    Groups → Groups
  | 0, _, _, _, found => found
  | fuel + 1, least, most, start, found =>
    if start = finish && least = 0 then found
    else
      let left := most.map (· - 1)
      let rest := Regex.times body (least - 1) left
      let stops := Nat.land (body.reach text (Places.single start))
        (rest.origins text (Places.single finish))
      let later := if least = 0 then Nat.land stops (Places.between (start + 1) text.length)
        else stops
      if later = 0 then found
      else
        let stop := Places.last later
        roundGroups text body inner finish fuel (least - 1) left stop (inner start stop found)

/-- The groups of a match between two places. -/
def groupsOf (text : List Char) : Regex → (start finish : Nat) → Groups → Groups
  | .seq first second, start, finish, found =>
    let cuts := Nat.land (first.reach text (Places.single start))
      (second.origins text (Places.single finish))
    let cut := Places.last cuts
    second.groupsOf text cut finish (first.groupsOf text start cut found)
  | .either first second, start, finish, found =>
    if (first.reach text (Places.single start)).testBit finish then
      first.groupsOf text start finish found
    else second.groupsOf text start finish found
  | .times body least most, start, finish, found =>
    roundGroups text body (body.groupsOf text) finish (text.length + least + 1) least most start
      found
  | .group index body, start, finish, found =>
    (index, start, finish) :: (body.groupsOf text start finish found).filter (·.1 ≠ index)
  | _, _, _, found => found

def refersBack : Regex → Bool
  | .again _ => true
  | .seq first second => first.refersBack || second.refersBack
  | .either first second => first.refersBack || second.refersBack
  | .times body _ _ => body.refersBack
  | .group _ body => body.refersBack
  | _ => false

def repeated (step : Nat × Groups → List (Nat × Groups)) :
    (fuel : Nat) → (least : Nat) → (most : Option Nat) → Nat × Groups → List (Nat × Groups)
  | 0, _, _, here => [here]
  | fuel + 1, least, most, here =>
    let onward := if most = some 0 then []
      else ((step here).filter fun next => next.1 ≠ here.1 || 0 < least).flatMap
        (repeated step fuel (least - 1) (most.map (· - 1)))
    onward ++ (if least = 0 then [here] else [])

/-- Every way to match from a place, with the groups so far. -/
def trials (text : List Char) : Regex → Nat × Groups → List (Nat × Groups)
  | .empty, here => [here]
  | .one members, (place, found) =>
    match text[place]? with
    | some c => if members.accepts c then [(place + 1, found)] else []
    | none => []
  | .edge kind, (place, found) => if (kind.places text).testBit place then [(place, found)] else []
  | .seq first second, here => (first.trials text here).flatMap (second.trials text)
  | .either first second, here => first.trials text here ++ second.trials text here
  | .times body least most, here =>
    repeated (body.trials text) (text.length + least + 1) least most here
  | .group index body, (start, found) =>
    (body.trials text (start, found)).map fun (finish, inner) =>
      (finish, (index, start, finish) :: inner.filter (·.1 ≠ index))
  | .again index, (place, found) =>
    match found.find? (·.1 = index) with
    | some (_, start, finish) =>
      let part := (text.drop start).take (finish - start)
      if part.isPrefixOf (text.drop place) then [(place + part.length, found)] else []
    | none => []

end Regex

/-- A part of a text that an expression matches. -/
structure Match where
  start : Nat
  finish : Nat
  groups : Groups
deriving DecidableEq, Repr

namespace Match

/-- The text of a group; the whole match is the group zero. -/
def part (found : Match) (text : List Char) (index : Nat) : List Char :=
  if index = 0 then (text.drop found.start).take (found.finish - found.start)
  else match found.groups.find? (·.1 = index) with
    | some (_, start, finish) => (text.drop start).take (finish - start)
    | none => []

end Match

namespace Regex

/-- The longest match that begins at a place, by trial. -/
def triedAt? (regex : Regex) (text : List Char) (start : Nat) : Option Match :=
  match regex.trials text (start, []) with
  | [] => none
  | first :: others =>
    let (finish, groups) := others.foldl
      (fun best other => if best.1 < other.1 then other else best) first
    some ⟨start, finish, groups⟩

/-- The first match that begins at a place or behind it. -/
def find? (regex : Regex) (text : List Char) (low : Nat) : Option Match :=
  let length := text.length
  if length < low then none
  else if regex.refersBack then
    (List.range (length + 1 - low)).findSome? fun n => regex.triedAt? text (low + n)
  else
    let starts := Nat.land (regex.origins text (Places.between 0 length))
      (Places.between low length)
    if starts = 0 then none
    else
      let start := Places.firstFrom starts (length + 1) low
      let finish := Places.last (regex.reach text (Places.single start))
      some ⟨start, finish, regex.groupsOf text start finish []⟩

/-- Whether an expression matches a part of a text. -/
def isFoundIn (regex : Regex) (text : List Char) : Bool := (regex.find? text 0).isSome

def matchesWhole (regex : Regex) (text : List Char) : Bool :=
  ((Regex.seq (.edge .start) (.seq regex (.edge .stop))).find? text 0).isSome

/-- Every match, none inside another; an empty one does not touch the one before it.
`fuel` bounds their number. -/
def findAllFrom (regex : Regex) (text : List Char) :
    (fuel : Nat) → (low : Nat) → (previous : Option Nat) → List Match
  | 0, _, _ => []
  | fuel + 1, low, previous =>
    match regex.find? text low with
    | none => []
    | some found =>
      if found.finish = found.start then
        if previous = some found.start then
          findAllFrom regex text fuel (found.start + 1) none
        else found :: findAllFrom regex text fuel (found.start + 1) none
      else found :: findAllFrom regex text fuel found.finish (some found.finish)

def findAll (regex : Regex) (text : List Char) : List Match :=
  regex.findAllFrom text (2 * text.length + 2) 0 none

end Regex

/-- The expression that matches exactly a text. -/
def Regex.ofText (foldCase : Bool) (text : List Char) : Regex :=
  text.foldr (fun c rest =>
    .seq (.one (if foldCase then (CharSet.only c).foldCase else CharSet.only c)) rest) .empty

end Conformance.Shell
