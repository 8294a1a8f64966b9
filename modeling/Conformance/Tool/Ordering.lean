import Conformance.Tool.Input
import Conformance.Shell.Integer

/-!
# Orders

`tsort` brings names into an order in which every one stands behind those that precede
it; a loop is told and cut open.  `shuf` puts lines into any order: every order is as
good as any other, so they stay as they are.
-/

namespace Conformance.Tool

open Machine Shell

/-! ## Precedence -/

/-- A name, and what is to come behind it. -/
structure OrderItem where
  name : String
  /-- How many names still have to come before. -/
  waits : Nat
  /-- The names behind, the latest first. -/
  behind : List Nat
  isDone : Bool
  /-- The next name of a path that may be a loop. -/
  link : Option Nat
deriving Inhabited

abbrev OrderItems := Array OrderItem

namespace OrderItems

def change (items : OrderItems) (place : Nat) (f : OrderItem → OrderItem) : OrderItems :=
  items.modify place f

/-- The names of some pairs, in order, without what they say. -/
def ofNames (names : List String) : OrderItems :=
  let sorted := names.mergeSort fun a b => decide (a ≤ b)
  let single := sorted.foldr (fun name rest =>
    if rest.head? = some name then rest else name :: rest) ([] : List String)
  (single.map fun name => ⟨name, 0, [], false, none⟩).toArray

def place (items : OrderItems) (name : String) : Nat :=
  items.toList.findIdx (·.name = name)

/-- Notes that one name comes before another one. -/
def relate (items : OrderItems) (first second : String) : OrderItems :=
  if first = second then items
  else
    let (a, b) := (items.place first, items.place second)
    (items.change b fun item => { item with waits := item.waits + 1 }).change a fun item =>
      { item with behind := b :: item.behind }

def ready (items : OrderItems) : List Nat :=
  (List.range items.size).filter fun place =>
    match items[place]? with
    | some item => !item.isDone && item.waits = 0
    | none => false

/-- Takes a name out of the count of those behind it; the result has those that are
ready now. -/
def release (items : OrderItems) : List Nat → OrderItems × List Nat
  | [] => (items, [])
  | place :: rest =>
    let items := items.change place fun item => { item with waits := item.waits - 1 }
    let isReady := (items[place]?).any fun item => item.waits = 0
    let (items, more) := release items rest
    (items, if isReady then place :: more else more)

/-- Puts names in order from a row of those that are ready; `fuel` bounds them. -/
def drain : (fuel : Nat) → OrderItems → (row : List Nat) → OrderItems × List String
  | 0, items, _ => (items, [])
  | _ + 1, items, [] => (items, [])
  | fuel + 1, items, place :: rest =>
    match items[place]? with
    | none => (items, [])
    | some item =>
      let (items, more) := release (items.change place fun item => { item with isDone := true })
        item.behind
      let (items, names) := drain fuel items (rest ++ more)
      (items, item.name :: names)

/-- A path that leads to `start`, while it is looked for a loop. -/
structure Trail where
  items : OrderItems
  start : Option Nat
  /-- The names of a loop that was found. -/
  loop : List String

/-- The names along the links up to a place; the links are taken away.  `fuel` bounds
the names. -/
def unlink (last : Nat) : (fuel : Nat) → OrderItems → Nat → OrderItems × List String
  | 0, items, _ => (items, [])
  | fuel + 1, items, place =>
    match items[place]? with
    | none => (items, [])
    | some item =>
      if place = last then (items, [item.name])
      else
        let items := items.change place fun item => { item with link := none }
        match item.link with
        | none => (items, [item.name])
        | some next =>
          let (items, names) := unlink last fuel items next
          (items, item.name :: names)

/-- Looks at one name while it is looked for a loop. -/
def follow (trail : Trail) (place : Nat) : Trail :=
  if !trail.loop.isEmpty then trail
  else match trail.items[place]?, trail.start with
    | some item, none => if 0 < item.waits then { trail with start := some place } else trail
    | some item, some start =>
      if item.waits = 0 || !item.behind.contains start then trail
      else if item.link.isSome then
        let (items, names) := unlink place (trail.items.size + 1) trail.items start
        let cut := (items.change start fun item => { item with waits := item.waits - 1 }).change
          place fun item => { item with behind := item.behind.erase start }
        ⟨cut.map fun item => { item with link := none }, none, names⟩
      else
        { trail with
          items := trail.items.change place fun item => { item with link := some start }
          start := some place }
    | none, _ => trail

/-- Finds a loop and cuts it open; `fuel` bounds how often all names are looked at. -/
def cutLoop : (fuel : Nat) → Trail → OrderItems × List String
  | 0, trail => (trail.items, trail.loop)
  | fuel + 1, trail =>
    let next := (List.range trail.items.size).foldl follow trail
    if next.start.isNone then (next.items, next.loop) else cutLoop fuel next

end OrderItems

/-- Pairs of words; a last single one is left out. -/
def wordPairs : List String → List (String × String)
  | first :: second :: rest => (first, second) :: wordPairs rest
  | _ => []

/-- Writes names in order, and tells of loops; `fuel` bounds the loops. -/
def writeOrder (title : String) : (fuel : Nat) → OrderItems → Work Unit
  | 0, _ => return
  | fuel + 1, items => do
    let (items, names) := items.drain (items.size + 1) items.ready
    for name in names do
      Work.putLine name
    if items.all (·.isDone) then return
    Work.complain (title ++ ": input contains a loop:")
    let (items, loop) := OrderItems.cutLoop (items.size + 1) ⟨items, none, []⟩
    for name in loop do
      Work.warn name
    writeOrder title fuel items

def tsort : Utility := fun words => do
  let options ← plainOptions ⟨[], [], [], [], true⟩ words
  match options.operands with
  | _ :: extra :: _ => Work.misuse ("extra operand " ++ quoted extra)
  | _ => pure ()
  let operand := options.operands.headD "-"
  match ← Work.readOperand operand with
  | .error fault => Work.fail (shownName operand ++ ": " ++ fault.text)
  | .ok data =>
    let chars := data.data.toList.map fun b => Char.ofNat b.toNat
    let isGap (c : Char) : Bool := c = ' ' || c = '\t' || c = '\n'
    let tokens := ((chars.splitBy fun a b => isGap a = isGap b).filter fun run =>
      !run.any isGap).map String.ofList
    if tokens.length % 2 = 1 then
      Work.fail (shownName operand ++ ": input contains an odd number of tokens")
    let pairs := wordPairs tokens
    let items := pairs.foldl (fun items (first, second) => items.relate first second)
      (OrderItems.ofNames tokens)
    writeOrder (shownName operand) (pairs.length + 1) items

/-! ## Any order -/

/-- A range such as `1-6`; one that ends just before it begins is empty. -/
def countedRange? (text : String) : Option (Nat × Nat) := do
  let front := text.toList.takeWhile (· ≠ '-')
  let rest := text.toList.drop front.length
  if rest.isEmpty then none
  let low ← natural? front
  let high ← natural? (rest.drop 1)
  if high + 1 < low then none else some (low, high)

/-- Lines over and over again, so many in all; without a number there is no end. -/
def putAgain (mark : Char) (lines : List String) : (fuel : Nat) → Option Nat → Work Unit
  | 0, _ => return
  | fuel + 1, count => do
    if count = some 0 || (← get).broken.isSome then return
    let most := (count.map (min lines.length)).getD lines.length
    for line in lines.take most do
      Work.put (line.push mark)
    Work.breathe
    putAgain mark lines fuel (count.map (· - most))

def shuf : Utility := fun words => do
  let rules : Rules := ⟨"erz".toList, "ino".toList ++ ['S'], [], [("echo", 'e'), ("input-range", 'i'),
    ("head-count", 'n'), ("output", 'o'), ("random-source", 'S'), ("repeat", 'r'),
    ("zero-terminated", 'z')], true⟩
  let (given, operands, mistake) := rules.readFrom (words.length + 1) [] [] words
  let mut range : Option (Nat × Nat) := none
  let mut count : Option Nat := none
  let mut target : Option String := none
  for (letter, value) in given.reverse do
    match letter with
    | 'i' =>
      if range.isSome then Work.fail "multiple -i options specified"
      match countedRange? value with
      | some found => range := some found
      | none => Work.fail ("invalid input range: " ++ quoted value)
    | 'n' =>
      match natural? value.toList with
      | some n => count := some (min n (count.getD n))
      | none => Work.fail ("invalid line count: " ++ quoted value)
    | 'o' =>
      if (target.map (· != value)).getD false then
        Work.fail "multiple output files specified"
      target := some value
    | _ => pure ()
  match mistake with
  | some text => Work.misuse text
  | none => pure ()
  let options : Options := ⟨given.reverse, operands.reverse⟩
  let mark := if options.has 'z' then '\x00' else '\n'
  if options.has 'e' && range.isSome then Work.misuse "cannot combine -e and -i options"
  let lines : List String ← match range, options.has 'e', options.operands with
    | some _, _, extra :: _ => Work.misuse ("extra operand " ++ quoted extra)
    | some (low, high), _, [] =>
      pure ((List.range (high + 1 - low)).map fun k => toString (low + k))
    | none, true, operands => pure operands
    | none, false, _ :: extra :: _ => Work.misuse ("extra operand " ++ quoted extra)
    | none, false, operands => do
      let operand := operands.headD "-"
      match ← Work.readOperand operand with
      | .error fault => Work.fail (shownName operand ++ ": " ++ fault.text)
      | .ok data =>
        pure ((linesOfData mark.toNat.toUInt8 data).map fun line => String.ofList line.content)
  match target with
  | some name =>
    match ← Activity.openFile name .output with
    | .error fault => Work.fail (shownName name ++ ": " ++ fault.text)
    | .ok descriptor =>
      let _ ← Activity.ask (.redirect descriptor 1)
  | none => pure ()
  if options.has 'r' then
    if count ≠ some 0 then
      if lines.isEmpty then Work.fail "no lines to repeat"
      putAgain mark lines Stream.pieceBound count
  else
    for line in lines.take (count.getD lines.length) do
      Work.put (line.push mark)

end Conformance.Tool
