import Conformance.Yaml.Event
import Conformance.Yaml.Resolution

/-!
# Documents as values

The events of the first document are collected first, up to its end or to the
first place where the text is malformed.  Then they are walked once; aliases are
followed where they stand.  A value that cannot be built is reported before a
malformed place behind it.
-/

namespace Conformance.Yaml

/-- A node's beginning, end or reference, as far as values depend on it. -/
inductive NodeEvent where
  | alias (id : Nat)
  | scalar (tag : Option Bytes) (text : String) (plain : Bool)
  | sequenceStart (tag : Option Bytes)
  | sequenceEnd
  | mappingStart (tag : Option Bytes)
  | mappingEnd
  | absent
deriving DecidableEq, Repr

/-- The events of one document, where anchored nodes begin, and why the events
end early, if they do. -/
structure Document where
  events : Array (NodeEvent × Mark)
  targets : List (Nat × Nat)
  fault : Option Fault

/-- A document being collected.  Anchors are numbered by how many names there
were before. -/
structure Collecting where
  events : Array (NodeEvent × Mark)
  anchors : List (String × Nat)
  targets : List (Nat × Nat)

namespace Collecting

def empty : Collecting := ⟨#[], [], []⟩

/-- Names the node that comes next. -/
def name (c : Collecting) (anchor : Option String) : Collecting :=
  match anchor with
  | none => c
  | some name =>
    let id := c.anchors.length
    { c with
      anchors := (name, id) :: c.anchors.filter (·.1 ≠ name)
      targets := (id, c.events.size) :: c.targets }

def push (c : Collecting) (event : NodeEvent) (mark : Mark) : Collecting :=
  { c with events := c.events.push (event, mark) }

def finish (c : Collecting) (fault : Option Fault) : Document := ⟨c.events, c.targets, fault⟩

end Collecting

/-- Collects events up to the end of the document. -/
def collect : Nat → Collecting → EventStream → Document × EventStream
  | 0, c, s => (c.finish (some .endOfStream), s)
  | fuel + 1, c, s =>
    match s.next with
    | .error cause => (c.finish (some (.malformed cause)), s)
    | .ok (event, s) =>
      match event.kind with
      | .streamStart => collect fuel c s
      | .documentStart => collect fuel c s
      | .streamEnd =>
        let c := if c.events.isEmpty then c.push .absent event.mark else c
        (c.finish none, s)
      | .documentEnd => (c.finish none, s)
      | .alias name =>
        match c.anchors.lookup name with
        | some id => collect fuel (c.push (.alias id) event.mark) s
        | none => (c.finish (some (.unknownAnchor event.mark)), s)
      | .scalar p text plain =>
        collect fuel ((c.name p.anchor).push (.scalar p.tag text plain) event.mark) s
      | .sequenceStart p =>
        collect fuel ((c.name p.anchor).push (.sequenceStart p.tag) event.mark) s
      | .sequenceEnd => collect fuel (c.push .sequenceEnd event.mark) s
      | .mappingStart p =>
        collect fuel ((c.name p.anchor).push (.mappingStart p.tag) event.mark) s
      | .mappingEnd => collect fuel (c.push .mappingEnd event.mark) s

/-- Where a node stands in its document. -/
inductive NodePath where
  | root
  | item (parent : NodePath) (index : Nat)
  | field (parent : NodePath) (key : String)
  | aliased (parent : NodePath)
  | unnamed (parent : NodePath)

namespace NodePath

/-- The path in words, and the same in front of a further name. -/
def texts : NodePath → String × String
  | .root => (".", "")
  | .item parent index =>
    let text := parent.texts.1 ++ "[" ++ toString index ++ "]"
    (text, text ++ ".")
  | .field parent key =>
    let text := parent.texts.2 ++ key
    (text, text ++ ".")
  | .aliased parent =>
    let text := parent.texts.1
    (text, text ++ ".")
  | .unnamed parent =>
    let text := parent.texts.2 ++ "?"
    (text, text ++ ".")

def text (path : NodePath) : String := path.texts.1

end NodePath

/-- Where a walk is: the next event, and how many aliases were followed. -/
structure Walk where
  position : Nat
  jumps : Nat

/-- Reads one node of a document. -/
abbrev NodeReader := NodePath → Walk → Except Fault (Value × Walk)

namespace Document

/-- How deeply collections may be nested. -/
def depthLimit : Nat := 128

/-- How many aliases may be followed per event. -/
def repetitionFactor : Nat := 100

def eventAt (doc : Document) (position : Nat) : Except Fault (NodeEvent × Mark) :=
  match doc.events[position]? with
  | some event => .ok event
  | none => .error (doc.fault.getD .endOfStream)

/-- The items of a sequence up to its end; there are at most `fuel`. -/
def readItems (doc : Document) (node : NodeReader) (path : NodePath) :
    Nat → Nat → Walk → Except Fault (List Value × Walk)
  | 0, _, walk => .ok ([], walk)
  | fuel + 1, index, walk => do
    match ← doc.eventAt walk.position with
    | (.sequenceEnd, _) => .ok ([], { walk with position := walk.position + 1 })
    | _ =>
      let (item, walk) ← node (.item path index) walk
      let (rest, walk) ← readItems doc node path fuel (index + 1) walk
      .ok (item :: rest, walk)

/-- The entries of a mapping up to its end; `found` are those read, the last one
in front. -/
def readEntries (doc : Document) (node : NodeReader) (path : NodePath) (mark : Mark) :
    Nat → List (Value × Value) → Walk → Except Fault (List (Value × Value) × Walk)
  | 0, found, walk => .ok (found.reverse, walk)
  | fuel + 1, found, walk => do
    match ← doc.eventAt walk.position with
    | (.mappingEnd, _) => .ok (found.reverse, { walk with position := walk.position + 1 })
    | (event, _) =>
      let below := match event with
        | .scalar _ text _ => NodePath.field path text
        | _ => .unnamed path
      let (key, walk) ← node path walk
      match found.find? (·.1.same key) with
      | some (earlier, _) => .error (.conversion (earlier.duplicateMessage) path.text mark)
      | none =>
        let (value, walk) ← node below walk
        readEntries doc node path mark fuel ((key, value) :: found) walk

/-- The value of a node that is no alias, inside `depth` more collections at
most. -/
def readContent (doc : Document) (inner : Option NodeReader) (path : NodePath) (walk : Walk) :
    Except Fault (Value × Walk) := do
  let (event, mark) ← doc.eventAt walk.position
  let behind : Walk := { walk with position := walk.position + 1 }
  let bound := doc.events.size + 1
  let finish := fun (tag : Option Bytes) (value : Value) =>
    match ownTag? tag with
    | some own => Value.tagged own value
    | none => value
  match event with
  | .scalar tag text plain =>
    let kindTag := if tag.any isOwnTag then none else tag
    match resolveScalar kindTag text plain with
    | .ok value => .ok (finish tag value, behind)
    | .error problem => .error (.conversion problem.message path.text mark)
  | .sequenceStart tag =>
    match inner with
    | none => .error (.recursionLimit mark)
    | some node => do
      let (items, walk) ← doc.readItems node path bound 0 behind
      .ok (finish tag (.sequence items), walk)
  | .mappingStart tag =>
    match inner with
    | none => .error (.recursionLimit mark)
    | some node => do
      let (entries, walk) ← doc.readEntries node path mark bound [] behind
      .ok (finish tag (.mapping entries), walk)
  | _ => .ok (.null, behind)

/-- The value of a node.  An alias is read where its anchor stands. -/
def readNode (doc : Document) : Nat → NodeReader
  | depth, path, walk => do
    let inner := match depth with
      | 0 => none
      | below + 1 => some (readNode doc below)
    match ← doc.eventAt walk.position with
    | (.alias id, _) =>
      let jumps := walk.jumps + 1
      if repetitionFactor * doc.events.size < jumps then .error .repetitionLimit
      else
        let target := (doc.targets.lookup id).getD doc.events.size
        let (value, there) ← doc.readContent inner (.aliased path) ⟨target, jumps⟩
        .ok (value, ⟨walk.position + 1, there.jumps⟩)
    | _ => doc.readContent inner path walk

/-- The value of the whole document. -/
def value (doc : Document) : Except Fault Value := do
  let (value, _) ← doc.readNode depthLimit .root ⟨0, 0⟩
  match doc.fault with
  | some fault => .error fault
  | none => .ok value

end Document

/-- Characters a document may hold. -/
def isDocumentChar (c : Char) : Bool :=
  let n := c.toNat
  n = 9 || n = 10 || n = 13 || (32 ≤ n && n ≤ 126) || n = 0x85 || (0xA0 ≤ n && n ≤ 0xFFFD) ||
    0x10000 ≤ n

/-- The byte offset of the first character that no document may hold. -/
def forbiddenOffset? : List Char → Nat → Option Nat
  | [], _ => none
  | c :: rest, offset =>
    if isDocumentChar c then forbiddenOffset? rest (offset + c.utf8Size) else some offset

/-- How many events a text of the given length has at most. -/
def eventBound (length : Nat) : Nat := 8 * length + 16

/-- The value of a text that holds one document. -/
def parseValue (text : String) : Except Fault Value := do
  let chars := text.toList
  match forbiddenOffset? chars 0 with
  | some offset => .error (.malformed ⟨.controlCharacter, .start, offset, none⟩)
  | none =>
    let bound := eventBound chars.length
    let (doc, behind) := collect bound .empty (.ofText chars)
    let value ← doc.value
    if behind.state = .nothing then .ok value
    else
      match behind.next with
      | .ok (⟨.streamEnd, _⟩, _) => .ok value
      | _ => .error .severalDocuments

end Conformance.Yaml
