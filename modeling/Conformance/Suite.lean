import Conformance.Number.Binary64
import Conformance.Path
import Conformance.Text.Casing

/-!
# Suites

A suite is a list of groups, a group a list of runs, a run an optional
compilation followed by test cases.  Tags are kept lowercased, each once, in
order, so that membership alone decides selection.
-/

namespace Conformance

/-- How a run's executable is made. -/
structure Compilation where
  sources : List Path
  options : List String
  expectFailure : Bool
  expectedAssembly : Option Path
deriving DecidableEq, Repr

/-- One execution and what is expected of it. -/
structure TestCase where
  arguments : List String
  expectedCode : Option Int
  expectedOutput : Option Path
  expectFailure : Bool
deriving DecidableEq, Repr

/-- Whether anything is expected of the execution. -/
def TestCase.hasMetric (case : TestCase) : Bool :=
  case.expectedCode.isSome || case.expectedOutput.isSome

structure TestRun where
  executable : String
  compilation : Option Compilation
  cases : List TestCase
deriving DecidableEq, Repr

structure Group where
  name : String
  description : String
  tags : List String
  /-- The highest failure fraction that does not stop the session. -/
  threshold : Binary64
  runs : List TestRun
deriving DecidableEq, Repr

structure Suite where
  groups : List Group
deriving DecidableEq, Repr

/-- Adds a text to an increasing list unless it is there. -/
def insertText (text : String) : List String → List String
  | [] => [text]
  | first :: rest =>
    if text = first then first :: rest
    else if text < first then text :: first :: rest
    else first :: insertText text rest

/-- The texts in increasing order, each once. -/
def textSet (texts : List String) : List String := texts.foldr insertText []

/-- The tag set of the tags as written. -/
def tagSet (tags : List String) : List String := textSet (tags.map lowercase)

/-- Which groups take part in a session: those that share a tag with the request,
or, inverted, those that share none. -/
structure TagSelector where
  requested : List String
  inverted : Bool
deriving DecidableEq, Repr

namespace TagSelector

def ofTags (tags : List String) (inverted : Bool) : TagSelector := ⟨tagSet tags, inverted⟩

/-- Whether one of the tags is requested. -/
def sharesTag (selector : TagSelector) (tags : List String) : Bool :=
  tags.any fun tag => selector.requested.contains (lowercase tag)

/-- An empty request selects every group. -/
def selectsTags (selector : TagSelector) (tags : List String) : Bool :=
  if selector.inverted then !selector.sharesTag tags
  else selector.requested.isEmpty || selector.sharesTag tags

def selects (selector : TagSelector) (group : Group) : Bool := selector.selectsTags group.tags

end TagSelector

end Conformance
