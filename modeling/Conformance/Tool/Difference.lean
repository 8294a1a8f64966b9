/-!
# Differences between two sequences

The lines of two files are known by the classes of equal lines to which they belong.
Paths from both ends of the grid of the two sequences are extended step by step until
they meet; the meeting point splits the problem in two.  Lines that the other file has
not got at all are left out beforehand.  Runs of changes are moved as far down as
possible in the end, unless they can be lined up with changes of the other file.
-/

namespace Conformance.Tool

/-- Two sequences of classes that are compared. -/
structure ClassPair where
  first : Array Nat
  second : Array Nat

/-- How far paths have come from both ends: for each diagonal, the place in the first
sequence.  Diagonals are counted from minus the length of the second sequence, less one. -/
structure Frontier where
  forward : Array Int
  backward : Array Int

namespace ClassPair

def sameAt (pair : ClassPair) (x y : Nat) : Bool := pair.first[x]? = pair.second[y]?

def slideDown (pair : ClassPair) (xLimit yLimit : Nat) : (fuel : Nat) → (x y : Nat) → Nat × Nat
  | 0, x, y => (x, y)
  | fuel + 1, x, y =>
    if x < xLimit && y < yLimit && pair.sameAt x y then
      slideDown pair xLimit yLimit fuel (x + 1) (y + 1)
    else (x, y)

/-- Goes up a diagonal while the classes in front are the same. -/
def slideUp (pair : ClassPair) (xStart yStart : Nat) : (fuel : Nat) → (x y : Nat) → Nat × Nat
  | 0, x, y => (x, y)
  | fuel + 1, x, y =>
    if xStart < x && yStart < y && pair.sameAt (x - 1) (y - 1) then
      slideUp pair xStart yStart fuel (x - 1) (y - 1)
    else (x, y)

/-- A part of the grid. -/
structure Window where
  xStart : Nat
  xLimit : Nat
  yStart : Nat
  yLimit : Nat

/-- The place of a diagonal in the arrays of a frontier. -/
def slot (pair : ClassPair) (diagonal : Int) : Nat :=
  (diagonal + Int.ofNat pair.second.size + 1).toNat

/-- Extends the paths from the start on every other diagonal downwards, until one meets a
path from the end. -/
def extendForward (pair : ClassPair) (window : Window) (meets : Int → Int → Bool) :
    (fuel : Nat) → (diagonal lowest : Int) → Array Int → Array Int × Option (Nat × Nat)
  | 0, _, _, forward => (forward, none)
  | fuel + 1, diagonal, lowest, forward =>
    if diagonal < lowest then (forward, none)
    else
      let low := forward.getD (pair.slot (diagonal - 1)) (-1)
      let high := forward.getD (pair.slot (diagonal + 1)) (-1)
      let start := if low < high then high else low + 1
      let (x, y) := pair.slideDown window.xLimit window.yLimit (pair.first.size + 1) start.toNat
        (start - diagonal).toNat
      let forward := forward.setIfInBounds (pair.slot diagonal) (Int.ofNat x)
      if meets diagonal (Int.ofNat x) then (forward, some (x, y))
      else extendForward pair window meets fuel (diagonal - 2) lowest forward

def farAway : Int := 1000000000000

/-- Extends the paths from the end in the same way. -/
def extendBackward (pair : ClassPair) (window : Window) (meets : Int → Int → Bool) :
    (fuel : Nat) → (diagonal lowest : Int) → Array Int → Array Int × Option (Nat × Nat)
  | 0, _, _, backward => (backward, none)
  | fuel + 1, diagonal, lowest, backward =>
    if diagonal < lowest then (backward, none)
    else
      let low := backward.getD (pair.slot (diagonal - 1)) farAway
      let high := backward.getD (pair.slot (diagonal + 1)) farAway
      let start := if low < high then low else high - 1
      let (x, y) := pair.slideUp window.xStart window.yStart (pair.first.size + 1) start.toNat
        (start - diagonal).toNat
      let backward := backward.setIfInBounds (pair.slot diagonal) (Int.ofNat x)
      if meets diagonal (Int.ofNat x) then (backward, some (x, y))
      else extendBackward pair window meets fuel (diagonal - 2) lowest backward

/-- The lowest and the highest diagonal that are in use. -/
structure Band where
  low : Int
  high : Int

/-- Makes a band wider by a step; at the edges of the grid it becomes narrower.  `blank`
fills the diagonals beside it. -/
def widen (pair : ClassPair) (lowest highest blank : Int) (band : Band) (cells : Array Int) :
    Band × Array Int :=
  let (low, cells) := if lowest < band.low then
      (band.low - 1, cells.setIfInBounds (pair.slot (band.low - 2)) blank)
    else (band.low + 1, cells)
  let (high, cells) := if band.high < highest then
      (band.high + 1, cells.setIfInBounds (pair.slot (band.high + 2)) blank)
    else (band.high - 1, cells)
  (⟨low, high⟩, cells)

/-- The place where the paths from both ends of a window meet; `fuel` bounds their
steps. -/
def meetingPoint (pair : ClassPair) (window : Window) :
    (fuel : Nat) → (ahead behind : Band) → Frontier → Nat × Nat
  | 0, _, _, _ => (window.xLimit, window.yLimit)
  | fuel + 1, ahead, behind, frontier =>
    let lowest := Int.ofNat window.xStart - Int.ofNat window.yLimit
    let highest := Int.ofNat window.xLimit - Int.ofNat window.yStart
    let isOdd := decide (((Int.ofNat window.xStart - Int.ofNat window.yStart) -
      (Int.ofNat window.xLimit - Int.ofNat window.yLimit)).emod 2 = 1)
    let size := pair.first.size + pair.second.size + 2
    let (ahead, forward) := pair.widen lowest highest (-1) ahead frontier.forward
    let backward := frontier.backward
    let meetsBackward (diagonal x : Int) : Bool :=
      isOdd && behind.low ≤ diagonal && diagonal ≤ behind.high &&
        backward.getD (pair.slot diagonal) farAway ≤ x
    match pair.extendForward window meetsBackward size ahead.high ahead.low forward with
    | (_, some point) => point
    | (forward, none) =>
      let (behind, backward) := pair.widen lowest highest farAway behind backward
      let meetsForward (diagonal x : Int) : Bool :=
        !isOdd && ahead.low ≤ diagonal && diagonal ≤ ahead.high &&
          x ≤ forward.getD (pair.slot diagonal) (-1)
      match pair.extendBackward window meetsForward size behind.high behind.low backward with
      | (_, some point) => point
      | (backward, none) => meetingPoint pair window fuel ahead behind ⟨forward, backward⟩

def markFrom (marks : Array Bool) : (count : Nat) → (place : Nat) → Array Bool
  | 0, _ => marks
  | count + 1, place => markFrom (marks.setIfInBounds place true) count (place + 1)

/-- Marks the places of both sequences that a shortest way from one to the other changes;
`fuel` bounds how often the problem is split. -/
def changesIn (pair : ClassPair) : (fuel : Nat) → Window → Array Bool × Array Bool →
    Array Bool × Array Bool
  | 0, _, marks => marks
  | fuel + 1, window, (removed, added) =>
    let size := pair.first.size + 1
    let (xStart, yStart) := pair.slideDown window.xLimit window.yLimit size window.xStart
      window.yStart
    let (xLimit, yLimit) := pair.slideUp xStart yStart size window.xLimit window.yLimit
    if xStart = xLimit then (removed, markFrom added (yLimit - yStart) yStart)
    else if yStart = yLimit then (markFrom removed (xLimit - xStart) xStart, added)
    else
      let window : Window := ⟨xStart, xLimit, yStart, yLimit⟩
      let ahead := Int.ofNat xStart - Int.ofNat yStart
      let behind := Int.ofNat xLimit - Int.ofNat yLimit
      let cells (blank : Int) : Array Int :=
        Array.replicate (pair.first.size + pair.second.size + 3) blank
      let (x, y) := pair.meetingPoint window (pair.first.size + pair.second.size + 2)
        ⟨ahead, ahead⟩ ⟨behind, behind⟩
        ⟨(cells (-1)).setIfInBounds (pair.slot ahead) (Int.ofNat xStart),
          (cells farAway).setIfInBounds (pair.slot behind) (Int.ofNat xLimit)⟩
      let left := changesIn pair fuel ⟨xStart, x, yStart, y⟩ (removed, added)
      changesIn pair fuel ⟨x, xLimit, y, yLimit⟩ left

/-- The places of classes that another sequence has got, too. -/
def sharedPlaces (own other : Array Nat) : Array Nat :=
  let size := (own ++ other).foldl max 0 + 1
  let known := other.foldl (fun known key => known.setIfInBounds key true)
    (Array.replicate size false)
  (Array.range own.size).filter fun place => known.getD (own.getD place 0) false

/-- The lines of both files that change, without regard to how they could be moved. -/
def rawChanges (pair : ClassPair) : Array Bool × Array Bool :=
  let left := sharedPlaces pair.first pair.second
  let right := sharedPlaces pair.second pair.first
  let inner : ClassPair := ⟨left.map fun place => pair.first.getD place 0,
    right.map fun place => pair.second.getD place 0⟩
  let (removed, added) := inner.changesIn (left.size + right.size + 2)
    ⟨0, left.size, 0, right.size⟩ (Array.replicate left.size false, Array.replicate right.size false)
  let spread (size : Nat) (places : Array Nat) (marks : Array Bool) : Array Bool :=
    places.toList.zipIdx.foldl (fun whole (place, index) =>
      whole.setIfInBounds place (marks.getD index false)) (Array.replicate size true)
  (spread pair.first.size left removed, spread pair.second.size right added)

end ClassPair

/-! ## Moving changes -/

/-- A run of changed lines that is moved: where it begins and where it is over, the place
in the other file, and the last end at which it stood beside changes there. -/
structure MovedRun where
  changed : Array Bool
  start : Nat
  finish : Nat
  other : Nat
  beside : Option Nat

namespace MovedRun

def isChanged (marks : Array Bool) (place : Nat) : Bool := marks.getD place false

def endFrom (marks : Array Bool) : (fuel : Nat) → (place : Nat) → Nat
  | 0, place => place
  | fuel + 1, place =>
    if isChanged marks place then endFrom marks fuel (place + 1) else place

def startFrom (marks : Array Bool) : (fuel : Nat) → (place : Nat) → Nat
  | 0, place => place
  | fuel + 1, place =>
    if 0 < place && isChanged marks (place - 1) then startFrom marks fuel (place - 1) else place

def lineBefore (marks : Array Bool) : (fuel : Nat) → (place : Nat) → Nat
  | 0, place => place
  | fuel + 1, place =>
    if isChanged marks (place - 1) && 1 < place then lineBefore marks fuel (place - 1)
    else place - 1

/-- Moves a run up while the line before it is the same as its last one. -/
def moveUp (classes : Array Nat) (others : Array Bool) : (fuel : Nat) → MovedRun → MovedRun
  | 0, run => run
  | fuel + 1, run =>
    if 0 < run.start && classes.getD (run.start - 1) 0 = classes.getD (run.finish - 1) 0 then
      let changed := (run.changed.setIfInBounds (run.start - 1) true).setIfInBounds
        (run.finish - 1) false
      let start := startFrom changed (run.start + 1) (run.start - 1)
      let other := lineBefore others (run.other + 1) run.other
      moveUp classes others fuel { run with changed, start, finish := run.finish - 1, other }
    else run

/-- Moves a run down while the line behind it is the same as its first one. -/
def moveDown (classes : Array Nat) (others : Array Bool) : (fuel : Nat) → MovedRun → MovedRun
  | 0, run => run
  | fuel + 1, run =>
    if run.finish < classes.size && classes.getD run.start 0 = classes.getD run.finish 0 then
      let changed := (run.changed.setIfInBounds run.start false).setIfInBounds run.finish true
      let finish := endFrom changed (classes.size + 1) (run.finish + 1)
      let other := endFrom others (others.size + 1) (run.other + 1)
      let beside := if other ≠ run.other + 1 then some finish else run.beside
      moveDown classes others fuel { run with changed, start := run.start + 1, finish, other, beside }
    else run

/-- Moves a run up and down until it does not grow any more. -/
def settle (classes : Array Nat) (others : Array Bool) : (fuel : Nat) → MovedRun → MovedRun
  | 0, run => run
  | fuel + 1, run =>
    let up := moveUp classes others (classes.size + 1) run
    let marked := { up with
      beside := if 0 < up.other && isChanged others (up.other - 1) then some up.finish else none }
    let down := moveDown classes others (classes.size + 1) marked
    if down.finish - down.start = run.finish - run.start then down
    else settle classes others fuel down

/-- Moves a run back to where it stood beside changes of the other file. -/
def moveBeside (others : Array Bool) (goal : Nat) : (fuel : Nat) → MovedRun → MovedRun
  | 0, run => run
  | fuel + 1, run =>
    if goal < run.finish then
      let changed := (run.changed.setIfInBounds (run.start - 1) true).setIfInBounds
        (run.finish - 1) false
      moveBeside others goal fuel { run with
        changed, start := run.start - 1, finish := run.finish - 1,
        other := lineBefore others (run.other + 1) run.other }
    else run

def skipKept (changed others : Array Bool) (size : Nat) : (fuel : Nat) → (place other : Nat) →
    Nat × Nat
  | 0, place, other => (place, other)
  | fuel + 1, place, other =>
    if place < size && !isChanged changed place then
      skipKept changed others size fuel (place + 1)
        (endFrom others (others.size + 1) other + 1)
    else (place, other)

/-- Moves every run of changes of a file, from a place on; `fuel` bounds the runs. -/
def moveAll (classes : Array Nat) (others : Array Bool) :
    (fuel : Nat) → (place other : Nat) → Array Bool → Array Bool
  | 0, _, _, changed => changed
  | fuel + 1, place, other, changed =>
    let (start, other) := skipKept changed others classes.size (classes.size + 1) place other
    if classes.size ≤ start then changed
    else
      let finish := endFrom changed (classes.size + 1) start
      let other := endFrom others (others.size + 1) other
      let run := settle classes others (classes.size + 1) ⟨changed, start, finish, other, none⟩
      let moved := match run.beside with
        | some goal => moveBeside others goal (classes.size + 1) run
        | none => run
      moveAll classes others fuel moved.finish moved.other moved.changed

end MovedRun

/-! ## Changes -/

/-- A change: how many lines of both files stand before it, and how many lines of the
first one it takes away and of the second one it brings. -/
structure Change where
  first : Nat
  removed : Nat
  second : Nat
  added : Nat
deriving DecidableEq, Repr

/-- The changes that marks describe; `fuel` bounds the lines. -/
def changesOfMarks (removed added : Array Bool) : (fuel : Nat) → (first second : Nat) → List Change
  | 0, _, _ => []
  | fuel + 1, first, second =>
    if removed.size ≤ first && added.size ≤ second then []
    else
      let x := MovedRun.endFrom removed (removed.size + 1) first
      let y := MovedRun.endFrom added (added.size + 1) second
      if x = first && y = second then changesOfMarks removed added fuel (first + 1) (second + 1)
      else ⟨first, x - first, second, y - second⟩ :: changesOfMarks removed added fuel x y

def changesBetween (pair : ClassPair) : List Change :=
  let (removed, added) := pair.rawChanges
  let size := pair.first.size + pair.second.size + 2
  let removed := MovedRun.moveAll pair.first added size 0 0 removed
  let added := MovedRun.moveAll pair.second removed size 0 0 added
  changesOfMarks removed added (2 * size) 0 0

end Conformance.Tool
