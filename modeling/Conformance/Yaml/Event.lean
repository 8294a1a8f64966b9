import Conformance.Yaml.TokenStream

/-!
# Events of a document

Events are the nodes of a document in the order in which they are written, with
explicit ends of collections.  Reading them follows the grammar: what is expected
next is a state, and what is expected after the node being read is on a stack.
-/

namespace Conformance.Yaml

/-- Anchor and tag of a node. -/
structure Properties where
  anchor : Option String
  tag : Option Bytes
deriving DecidableEq, Repr

inductive EventKind where
  | streamStart
  | streamEnd
  | documentStart
  | documentEnd
  | alias (name : String)
  | scalar (properties : Properties) (text : String) (plain : Bool)
  | sequenceStart (properties : Properties)
  | sequenceEnd
  | mappingStart (properties : Properties)
  | mappingEnd
deriving DecidableEq, Repr

structure Event where
  kind : EventKind
  mark : Mark
deriving DecidableEq, Repr

/-- What the grammar expects. -/
inductive Expected where
  | stream
  | firstDocument
  | document
  | documentContent
  | documentEnd
  | blockNode
  | firstBlockItem
  | blockItem
  | indentlessItem
  | firstBlockKey
  | blockKey
  | blockValue
  | firstFlowItem
  | flowItem
  | pairKey
  | pairValue
  | pairEnd
  | firstFlowKey
  | flowKey
  | flowValue
  | emptyFlowValue
  | nothing
deriving DecidableEq, Repr

structure EventStream where
  tokens : TokenStream
  state : Expected
  /-- What is expected after the open nodes, innermost first. -/
  later : List Expected
  /-- Where the open collections begin, innermost first. -/
  starts : List Mark
  /-- Tag handles and what they stand for. -/
  handles : List (String × Bytes)

namespace EventStream

def ofText (text : List Char) : EventStream :=
  ⟨.ofText text, .stream, [], [], []⟩

abbrev Step := Except Malformed (Event × EventStream)

def peek (s : EventStream) : Except Malformed (Token × EventStream) := do
  let (token, tokens) ← s.tokens.peek
  .ok (token, { s with tokens := tokens })

def advance (s : EventStream) : EventStream := { s with tokens := s.tokens.drop }

/-- Goes on with what was expected after the node. -/
def resume (s : EventStream) : EventStream :=
  { s with state := s.later.head?.getD .nothing, later := s.later.drop 1 }

def expectLater (s : EventStream) (state : Expected) : EventStream :=
  { s with later := state :: s.later }

def goto (s : EventStream) (state : Expected) : EventStream := { s with state := state }

def openAt (s : EventStream) (mark : Mark) : EventStream := { s with starts := mark :: s.starts }

def close (s : EventStream) : EventStream := { s.resume with starts := s.starts.drop 1 }

def innermost (s : EventStream) : Mark := s.starts.head?.getD .start

/-- A node that is not written. -/
def emptyScalar (s : EventStream) (state : Expected) (mark : Mark) : Step :=
  .ok (⟨.scalar ⟨none, none⟩ "" true, mark⟩, s.goto state)

def failIn (s : EventStream) (activity : Activity) (problem : Problem) (token : Token) : Step :=
  .error (.during activity s.innermost problem token.start)

/-- Anchor and tag in either order. -/
structure WrittenProperties where
  anchor : Option String
  tag : Option (String × Bytes × Mark)
  start : Mark

/-- Reads anchor and tag in front of a node. -/
def readProperties (s : EventStream) :
    Except Malformed (WrittenProperties × Token × EventStream) := do
  let (first, s) ← s.peek
  match first.kind with
  | .anchor name =>
    let (second, s) ← s.advance.peek
    match second.kind with
    | .tag handle suffix =>
      let (third, s) ← s.advance.peek
      .ok (⟨some name, some (handle, suffix, second.start), first.start⟩, third, s)
    | _ => .ok (⟨some name, none, first.start⟩, second, s)
  | .tag handle suffix =>
    let (second, s) ← s.advance.peek
    match second.kind with
    | .anchor name =>
      let (third, s) ← s.advance.peek
      .ok (⟨some name, some (handle, suffix, first.start), first.start⟩, third, s)
    | _ => .ok (⟨none, some (handle, suffix, first.start), first.start⟩, second, s)
  | _ => .ok (⟨none, none, first.start⟩, first, s)

/-- The tag with its handle replaced by what it stands for. -/
def resolveTag (s : EventStream) (written : WrittenProperties) :
    Except Malformed (Option Bytes) :=
  match written.tag with
  | none => .ok none
  | some (handle, suffix, mark) =>
    if handle.isEmpty then .ok (some suffix)
    else
      match s.handles.lookup handle with
      | some text => .ok (some (text ++ suffix))
      | none => .error (.during .node written.start .undefinedHandle mark)

/-- Reads the beginning of a node. -/
def readNode (s : EventStream) (block indentless : Bool) : Step := do
  let (first, s) ← s.peek
  match first.kind with
  | .alias name => .ok (⟨.alias name, first.start⟩, s.resume.advance)
  | _ =>
    let (written, token, s) ← s.readProperties
    let tag ← s.resolveTag written
    let properties : Properties := ⟨written.anchor, tag⟩
    let collection := fun (kind : Properties → EventKind) (state : Expected) =>
      (.ok (⟨kind properties, written.start⟩, s.goto state) : Step)
    match token.kind, block, indentless with
    | .blockEntry, _, true => collection .sequenceStart .indentlessItem
    | .scalar text style, _, _ =>
      .ok (⟨.scalar properties text (style = .plain), written.start⟩, s.resume.advance)
    | .flowSequenceStart, _, _ => collection .sequenceStart .firstFlowItem
    | .flowMappingStart, _, _ => collection .mappingStart .firstFlowKey
    | .blockSequenceStart, true, _ => collection .sequenceStart .firstBlockItem
    | .blockMappingStart, true, _ => collection .mappingStart .firstBlockKey
    | _, _, _ =>
      if written.anchor.isSome || tag.isSome then
        .ok (⟨.scalar properties "" true, written.start⟩, s.resume)
      else
        .error (.during (if block then .blockNode else .flowNode) written.start .noNodeContent
          token.start)

/-- Adds a tag handle, unless it is there. -/
def addHandle (s : EventStream) (handle : String) (text : Bytes) : EventStream :=
  if s.handles.any (·.1 = handle) then s else { s with handles := s.handles ++ [(handle, text)] }

/-- The handles that need no directive. -/
def addDefaultHandles (s : EventStream) : EventStream :=
  (s.addHandle "!" (bytesOfText "!")).addHandle "!!" (bytesOfText "tag:yaml.org,2002:")

/-- Reads the directives in front of a document.  Each takes a token, and there
are at most `fuel` of them. -/
def readDirectives : Nat → Bool → EventStream → Except Malformed EventStream
  | 0, _, s => .ok s
  | fuel + 1, versioned, s => do
    let (token, s) ← s.peek
    match token.kind with
    | .versionDirective major minor =>
      if versioned then .error (.found .duplicateVersion token.start)
      else if major ≠ 1 || (minor ≠ 1 && minor ≠ 2) then
        .error (.found .incompatibleVersion token.start)
      else readDirectives fuel true s.advance
    | .tagDirective handle text =>
      if s.handles.any (·.1 = handle) then .error (.found .duplicateHandle token.start)
      else readDirectives fuel versioned { s with handles := s.handles ++ [(handle, text)] }.advance
    | _ => .ok s.addDefaultHandles

/-- How many tokens the rest of the text can have at most. -/
def tokenBound (s : EventStream) : Nat :=
  s.tokens.queue.length + s.tokens.cursor.rest.length + 2

/-- Passes over markers that end a document. -/
def skipDocumentEnds : Nat → EventStream → Except Malformed (Token × EventStream)
  | 0, s => s.peek
  | fuel + 1, s => do
    let (token, s) ← s.peek
    match token.kind with
    | .documentEnd => skipDocumentEnds fuel s.advance
    | _ => .ok (token, s)

/-- Whether a token begins a document with a marker, or ends the stream. -/
def isExplicitStart : TokenKind → Bool
  | .versionDirective _ _ => true
  | .tagDirective _ _ => true
  | .documentStart => true
  | .streamEnd => true
  | _ => false

def readDocumentStart (s : EventStream) (first : Bool) : Step := do
  let (token, s) ← if first then s.peek else skipDocumentEnds s.tokenBound s
  if first && !isExplicitStart token.kind then
    .ok (⟨.documentStart, token.start⟩,
      (s.addDefaultHandles.expectLater .documentEnd).goto .blockNode)
  else if token.kind = .streamEnd then
    .ok (⟨.streamEnd, token.start⟩, s.advance.goto .nothing)
  else
    let s ← readDirectives s.tokenBound false s
    let (marker, s) ← s.peek
    if marker.kind = .documentStart then
      .ok (⟨.documentStart, token.start⟩,
        (s.advance.expectLater .documentEnd).goto .documentContent)
    else .error (.found .noDocumentStart marker.start)

def readDocumentContent (s : EventStream) : Step := do
  let (token, s) ← s.peek
  if isExplicitStart token.kind || token.kind = .documentEnd then
    .ok (⟨.scalar ⟨none, none⟩ "" true, token.start⟩, s.resume)
  else s.readNode true false

def readDocumentEnd (s : EventStream) : Step := do
  let (token, s) ← s.peek
  let s := if token.kind = .documentEnd then s.advance else s
  .ok (⟨.documentEnd, token.start⟩, { s.goto .document with handles := [] })

/-- Notes where a collection begins and passes over its first token. -/
def enter (s : EventStream) (first : Bool) : Except Malformed EventStream :=
  if first then do
    let (token, s) ← s.peek
    .ok (s.openAt token.start).advance
  else .ok s

def readBlockItem (s : EventStream) (first : Bool) : Step := do
  let s ← s.enter first
  let (token, s) ← s.peek
  match token.kind with
  | .blockEntry =>
    let (next, s) ← s.advance.peek
    if next.kind = .blockEntry || next.kind = .blockEnd then s.emptyScalar .blockItem token.stop
    else (s.expectLater .blockItem).readNode true false
  | .blockEnd => .ok (⟨.sequenceEnd, token.start⟩, s.close.advance)
  | _ => s.failIn .blockCollection .noDash token

/-- Whether a token ends a key or value of a block mapping. -/
def endsBlockNode : TokenKind → Bool
  | .key => true
  | .value => true
  | .blockEnd => true
  | _ => false

def readIndentlessItem (s : EventStream) : Step := do
  let (token, s) ← s.peek
  if token.kind = .blockEntry then
    let (next, s) ← s.advance.peek
    if next.kind = .blockEntry || endsBlockNode next.kind then
      s.emptyScalar .indentlessItem token.stop
    else (s.expectLater .indentlessItem).readNode true false
  else .ok (⟨.sequenceEnd, token.start⟩, s.resume)

def readBlockKey (s : EventStream) (first : Bool) : Step := do
  let s ← s.enter first
  let (token, s) ← s.peek
  match token.kind with
  | .key =>
    let (next, s) ← s.advance.peek
    if endsBlockNode next.kind then s.emptyScalar .blockValue token.stop
    else (s.expectLater .blockValue).readNode true true
  | .blockEnd => .ok (⟨.mappingEnd, token.start⟩, s.close.advance)
  | _ => s.failIn .blockMapping .noKey token

def readBlockValue (s : EventStream) : Step := do
  let (token, s) ← s.peek
  if token.kind = .value then
    let (next, s) ← s.advance.peek
    if endsBlockNode next.kind then s.emptyScalar .blockKey token.stop
    else (s.expectLater .blockKey).readNode true true
  else s.emptyScalar .blockKey token.start

/-- Passes over the comma between two entries of a flow collection. -/
def passComma (s : EventStream) (first : Bool) (closing : TokenKind) (activity : Activity)
    (problem : Problem) : Except Malformed (Token × EventStream) := do
  let (token, s) ← s.peek
  if token.kind = closing || first then .ok (token, s)
  else if token.kind = .flowEntry then s.advance.peek
  else .error (.during activity s.innermost problem token.start)

def readFlowItem (s : EventStream) (first : Bool) : Step := do
  let s ← s.enter first
  let (token, s) ← s.passComma first .flowSequenceEnd .flowSequence .noSequenceComma
  match token.kind with
  | .flowSequenceEnd => .ok (⟨.sequenceEnd, token.start⟩, s.close.advance)
  | .key => .ok (⟨.mappingStart ⟨none, none⟩, token.start⟩, s.advance.goto .pairKey)
  | _ => (s.expectLater .flowItem).readNode false false

/-- Whether a token ends an entry of a flow sequence. -/
def endsFlowItem : TokenKind → Bool
  | .flowEntry => true
  | .flowSequenceEnd => true
  | _ => false

def readPairKey (s : EventStream) : Step := do
  let (token, s) ← s.peek
  if token.kind = .value || endsFlowItem token.kind then
    s.advance.emptyScalar .pairValue token.stop
  else (s.expectLater .pairValue).readNode false false

def readPairValue (s : EventStream) : Step := do
  let (token, s) ← s.peek
  if token.kind = .value then
    let (next, s) ← s.advance.peek
    if endsFlowItem next.kind then s.emptyScalar .pairEnd next.start
    else (s.expectLater .pairEnd).readNode false false
  else s.emptyScalar .pairEnd token.start

def readPairEnd (s : EventStream) : Step := do
  let (token, s) ← s.peek
  .ok (⟨.mappingEnd, token.start⟩, s.goto .flowItem)

/-- Whether a token ends an entry of a flow mapping. -/
def endsFlowEntry : TokenKind → Bool
  | .flowEntry => true
  | .flowMappingEnd => true
  | _ => false

def readFlowKey (s : EventStream) (first : Bool) : Step := do
  let s ← s.enter first
  let (token, s) ← s.passComma first .flowMappingEnd .flowMapping .noMappingComma
  match token.kind with
  | .flowMappingEnd => .ok (⟨.mappingEnd, token.start⟩, s.close.advance)
  | .key =>
    let (next, s) ← s.advance.peek
    if next.kind = .value || endsFlowEntry next.kind then s.emptyScalar .flowValue next.start
    else (s.expectLater .flowValue).readNode false false
  | _ => (s.expectLater .emptyFlowValue).readNode false false

def readFlowValue (s : EventStream) (empty : Bool) : Step := do
  let (token, s) ← s.peek
  if !empty && token.kind = .value then
    let (next, s) ← s.advance.peek
    if endsFlowEntry next.kind then s.emptyScalar .flowKey next.start
    else (s.expectLater .flowKey).readNode false false
  else s.emptyScalar .flowKey token.start

/-- The next event. -/
def next (s : EventStream) : Step :=
  match s.state with
  | .stream => do
    let (token, s) ← s.peek
    .ok (⟨.streamStart, token.start⟩, s.advance.goto .firstDocument)
  | .firstDocument => s.readDocumentStart true
  | .document => s.readDocumentStart false
  | .documentContent => s.readDocumentContent
  | .documentEnd => s.readDocumentEnd
  | .blockNode => s.readNode true false
  | .firstBlockItem => s.readBlockItem true
  | .blockItem => s.readBlockItem false
  | .indentlessItem => s.readIndentlessItem
  | .firstBlockKey => s.readBlockKey true
  | .blockKey => s.readBlockKey false
  | .blockValue => s.readBlockValue
  | .firstFlowItem => s.readFlowItem true
  | .flowItem => s.readFlowItem false
  | .pairKey => s.readPairKey
  | .pairValue => s.readPairValue
  | .pairEnd => s.readPairEnd
  | .firstFlowKey => s.readFlowKey true
  | .flowKey => s.readFlowKey false
  | .flowValue => s.readFlowValue false
  | .emptyFlowValue => s.readFlowValue true
  | .nothing => .ok (⟨.streamEnd, s.tokens.mark⟩, s)

end EventStream

end Conformance.Yaml
