import Conformance.Yaml.Cursor

/-!
# What can be wrong with a document

Malformed text is described by a problem, where it was found, and what was being
read there.  The other faults arise while the events of a well-formed beginning
are turned into values.
-/

namespace Conformance.Yaml

/-- What is wrong with the text. -/
inductive Problem where
  | controlCharacter
  | noTokenStart
  | keyWithoutColon
  | entryNotAllowed
  | keyNotAllowed
  | valueNotAllowed
  | noDirectiveName
  | oddDirectiveName
  | unknownDirective
  | noDirectiveEnd
  | noVersionDot
  | longVersion
  | noVersion
  | noBlank
  | noBlankOrBreak
  | noWordChar
  | noClosingAngle
  | noBang
  | noTagText
  | noEscapedOctet
  | badLeadingOctet
  | badTrailingOctet
  | zeroIndentation
  | noHeaderEnd
  | tabInIndentation
  | documentMarker
  | unexpectedEnd
  | unknownEscape
  | noHexDigit
  | badCodePoint
  | unexpectedColon
  | tabBelowIndentation
  | noDocumentStart
  | undefinedHandle
  | noNodeContent
  | noDash
  | noKey
  | noSequenceComma
  | noMappingComma
  | duplicateVersion
  | incompatibleVersion
  | duplicateHandle
deriving DecidableEq, Repr

def Problem.text : Problem → String
  | .controlCharacter => "control characters are not allowed"
  | .noTokenStart => "found character that cannot start any token"
  | .keyWithoutColon => "could not find expected ':'"
  | .entryNotAllowed => "block sequence entries are not allowed in this context"
  | .keyNotAllowed => "mapping keys are not allowed in this context"
  | .valueNotAllowed => "mapping values are not allowed in this context"
  | .noDirectiveName => "could not find expected directive name"
  | .oddDirectiveName => "found unexpected non-alphabetical character"
  | .unknownDirective => "found unknown directive name"
  | .noDirectiveEnd => "did not find expected comment or line break"
  | .noVersionDot => "did not find expected digit or '.' character"
  | .longVersion => "found extremely long version number"
  | .noVersion => "did not find expected version number"
  | .noBlank => "did not find expected whitespace"
  | .noBlankOrBreak => "did not find expected whitespace or line break"
  | .noWordChar => "did not find expected alphabetic or numeric character"
  | .noClosingAngle => "did not find the expected '>'"
  | .noBang => "did not find expected '!'"
  | .noTagText => "did not find expected tag URI"
  | .noEscapedOctet => "did not find URI escaped octet"
  | .badLeadingOctet => "found an incorrect leading UTF-8 octet"
  | .badTrailingOctet => "found an incorrect trailing UTF-8 octet"
  | .zeroIndentation => "found an indentation indicator equal to 0"
  | .noHeaderEnd => "did not find expected comment or line break"
  | .tabInIndentation => "found a tab character where an indentation space is expected"
  | .documentMarker => "found unexpected document indicator"
  | .unexpectedEnd => "found unexpected end of stream"
  | .unknownEscape => "found unknown escape character"
  | .noHexDigit => "did not find expected hexadecimal number"
  | .badCodePoint => "found invalid Unicode character escape code"
  | .unexpectedColon => "found unexpected ':'"
  | .tabBelowIndentation => "found a tab character that violates indentation"
  | .noDocumentStart => "did not find expected <document start>"
  | .undefinedHandle => "found undefined tag handle"
  | .noNodeContent => "did not find expected node content"
  | .noDash => "did not find expected '-' indicator"
  | .noKey => "did not find expected key"
  | .noSequenceComma => "did not find expected ',' or ']'"
  | .noMappingComma => "did not find expected ',' or '\x7d'"
  | .duplicateVersion => "found duplicate %YAML directive"
  | .incompatibleVersion => "found incompatible YAML document"
  | .duplicateHandle => "found duplicate %TAG directive"

/-- What was being read. -/
inductive Activity where
  | nextToken
  | simpleKey
  | directive
  | versionDirective
  | tagDirective
  | tagDirectiveHandle
  | tagDirectiveBang
  | tagDirectiveText
  | anchor
  | alias
  | tag
  | tagText
  | blockScalar
  | quotedScalar
  | quotedEscape
  | plainScalar
  | node
  | blockNode
  | flowNode
  | blockCollection
  | blockMapping
  | flowSequence
  | flowMapping
deriving DecidableEq, Repr

def Activity.text : Activity → String
  | .nextToken => "while scanning for the next token"
  | .simpleKey => "while scanning a simple key"
  | .directive => "while scanning a directive"
  | .versionDirective => "while scanning a %YAML directive"
  | .tagDirective => "while scanning a %TAG directive"
  | .tagDirectiveHandle => "while scanning a tag directive"
  | .tagDirectiveBang => "while parsing a tag directive"
  | .tagDirectiveText => "while parsing a %TAG directive"
  | .anchor => "while scanning an anchor"
  | .alias => "while scanning an alias"
  | .tag => "while scanning a tag"
  | .tagText => "while parsing a tag"
  | .blockScalar => "while scanning a block scalar"
  | .quotedScalar => "while scanning a quoted scalar"
  | .quotedEscape => "while parsing a quoted scalar"
  | .plainScalar => "while scanning a plain scalar"
  | .node => "while parsing a node"
  | .blockNode => "while parsing a block node"
  | .flowNode => "while parsing a flow node"
  | .blockCollection => "while parsing a block collection"
  | .blockMapping => "while parsing a block mapping"
  | .flowSequence => "while parsing a flow sequence"
  | .flowMapping => "while parsing a flow mapping"

/-- Malformed text.  `offset` places a problem that has no line. -/
structure Malformed where
  problem : Problem
  mark : Mark
  offset : Nat
  context : Option (Activity × Mark)
deriving DecidableEq, Repr

namespace Malformed

def found (problem : Problem) (mark : Mark) : Malformed := ⟨problem, mark, 0, none⟩

def during (activity : Activity) (start : Mark) (problem : Problem) (mark : Mark) : Malformed :=
  ⟨problem, mark, 0, some (activity, start)⟩

def text (m : Malformed) : String :=
  let place :=
    if !m.mark.isStart then " at " ++ m.mark.text
    else if m.offset ≠ 0 then " at position " ++ toString m.offset
    else ""
  let context := match m.context with
    | none => ""
    | some (activity, start) =>
      ", " ++ activity.text ++
        (if start.isStart || (start.line = m.mark.line && start.column = m.mark.column) then ""
         else " at " ++ start.text)
  m.problem.text ++ place ++ context

end Malformed

/-- Why a document yields no value. -/
inductive Fault where
  | malformed (cause : Malformed)
  | unknownAnchor (mark : Mark)
  /-- A value of the wrong kind, and the path and position of the node. -/
  | conversion (message path : String) (mark : Mark)
  | recursionLimit (mark : Mark)
  | repetitionLimit
  | severalDocuments
  | endOfStream
deriving DecidableEq, Repr

namespace Fault

def mark? : Fault → Option Mark
  | .malformed cause => some cause.mark
  | .unknownAnchor mark => some mark
  | .conversion _ _ mark => some mark
  | .recursionLimit mark => some mark
  | _ => none

/-- A text with a position, unless the position is the start. -/
def placed (text : String) (mark : Mark) : String :=
  if mark.isStart then text else text ++ " at " ++ mark.text

def text : Fault → String
  | .malformed cause => cause.text
  | .unknownAnchor mark => placed "unknown anchor" mark
  | .conversion message path mark =>
    placed ((if path = "." then "" else path ++ ": ") ++ message) mark
  | .recursionLimit mark => placed "recursion limit exceeded" mark
  | .repetitionLimit => "repetition limit exceeded"
  | .severalDocuments =>
    "deserializing from YAML containing more than one document is not supported"
  | .endOfStream => "EOF while parsing a value"

end Fault

end Conformance.Yaml
