import Conformance.Proofs.Json.Rendering
import Conformance.Proofs.Json.Unambiguity
import Conformance.Proofs.Program.ExitStatus
import Conformance.Proofs.Session.ExpectedOutput

/-!
# What a report tells

A report is a document and a newline.  By the grammar the document has one value: an object whose
members are those of the summary, under names of their own.  So whoever reads a report gets the
summary back, and two summaries never have the same report.
-/

namespace Conformance

open Json (Value IsDocument)

namespace Json.Value

/-- The first member of that name. -/
def member? (name : String) : Value → Option Value
  | object members => members.lookup name
  | _ => none

/-- The names of the members, in order. -/
def memberNames : Value → List String
  | object members => members.map Prod.fst
  | _ => []

/-- The value is an object that tells of a group what its summary does. -/
structure TellsGroup (value : Value) (group : GroupSummary) : Prop where
  names : value.memberNames = ["name", "cases_run", "cases_passed", "panicked"]
  name : value.member? "name" = some (.string group.name)
  run : value.member? "cases_run" = some (.number group.tally.run)
  passed : value.member? "cases_passed" = some (.number group.tally.passed)
  panicked : value.member? "panicked" = some (.bool group.panicked)

/-- A name, or null if there is none. -/
def ofName? : Option String → Value
  | some name => .string name
  | none => .null

/-- The value is an object that tells of a session what its summary does. -/
structure Tells (value : Value) (summary : Summary) : Prop where
  names : value.memberNames = ["groups", "deselected", "not_reached", "aborted_by"]
  groups : ∃ items, value.member? "groups" = some (.array items) ∧
    List.Forall₂ TellsGroup items summary.groups
  deselected : value.member? "deselected" = some (.number summary.deselected)
  notReached : value.member? "not_reached" = some (.number summary.notReached)
  abortedBy : value.member? "aborted_by" = some (ofName? summary.abortedBy)

section

variable {value : Value}

/-! ## One summary for a value -/

theorem number_unique {found : Option Value} {first second : Nat}
    (hfirst : found = some (.number first)) (hsecond : found = some (.number second)) :
    first = second := by
  rw [hfirst, Option.some.injEq, number.injEq, Nat.cast_inj] at hsecond
  exact hsecond

theorem ofName?_inj {first second : Option String} :
    ofName? first = ofName? second ↔ first = second := by
  cases first with
  | none =>
      cases second with
      | none => simp
      | some other => simp [ofName?]
  | some name =>
      cases second with
      | none => simp [ofName?]
      | some other => simp [ofName?]

theorem TellsGroup.unique {first second : GroupSummary} (hfirst : value.TellsGroup first)
    (hsecond : value.TellsGroup second) : first = second := by
  obtain ⟨name, tally, panicked⟩ := first
  obtain ⟨run, passed⟩ := tally
  obtain ⟨name', tally', panicked'⟩ := second
  obtain ⟨run', passed'⟩ := tally'
  have hname : name = name' := by simpa using hfirst.name.symm.trans hsecond.name
  have hrun : run = run' := number_unique hfirst.run hsecond.run
  have hpassed : passed = passed' := number_unique hfirst.passed hsecond.passed
  have hpanicked : panicked = panicked' := by simpa using hfirst.panicked.symm.trans hsecond.panicked
  rw [hname, hrun, hpassed, hpanicked]

theorem Tells.unique {first second : Summary} (hfirst : value.Tells first)
    (hsecond : value.Tells second) : first = second := by
  obtain ⟨items, hitems, hgroups⟩ := hfirst.groups
  obtain ⟨items', hitems', hgroups'⟩ := hsecond.groups
  obtain ⟨groups, deselected, notReached, abortedBy⟩ := first
  obtain ⟨groups', deselected', notReached', abortedBy'⟩ := second
  obtain rfl : items = items' := by simpa using hitems.symm.trans hitems'
  have hsame : groups = groups' :=
    List.right_unique_forall₂' (R := TellsGroup) (fun _ _ _ => TellsGroup.unique) hgroups hgroups'
  have hdeselected : deselected = deselected' := number_unique hfirst.deselected hsecond.deselected
  have hnotReached : notReached = notReached' := number_unique hfirst.notReached hsecond.notReached
  have habortedBy : abortedBy = abortedBy' := by
    simpa [ofName?_inj] using hfirst.abortedBy.symm.trans hsecond.abortedBy
  rw [hsame, hdeselected, hnotReached, habortedBy]

end

end Json.Value

/-! ## The value of a report -/

theorem tellsGroup_meaning (group : GroupSummary) :
    (Json.ofGroupSummary group).meaning.TellsGroup group where
  names := rfl
  name := rfl
  run := rfl
  passed := rfl
  panicked := rfl

theorem meanings_eq_map (items : List Json) : Json.meanings items = items.map Json.meaning := by
  induction items with
  | nil => rfl
  | cons item rest ih => rw [Json.meanings, ih, List.map_cons]

theorem tells_meaning (summary : Summary) : (Json.ofSummary summary).meaning.Tells summary where
  names := rfl
  groups := by
    refine ⟨_, rfl, ?_⟩
    rw [meanings_eq_map, List.map_map, List.forall₂_map_left_iff, List.forall₂_same]
    exact fun group _ => tellsGroup_meaning group
  deselected := rfl
  notReached := rfl
  abortedBy := by
    cases haborted : summary.abortedBy with
    | none =>
        simp only [Json.ofSummary, haborted]
        rfl
    | some name =>
        simp only [Json.ofSummary, haborted]
        rfl

/-- A text has the value of a document that is in it, if only blanks stand behind that. -/
theorem isDocument_append_newline {document : String} {value : Value}
    (hvalue : IsDocument document value) : IsDocument (document ++ "\n") value := by
  have hblank : Json.AllOf Json.isBlank ['\n'] := Json.allOf_nil.cons (by decide)
  have hpadded := Json.Spells.pad hvalue Json.allOf_nil hblank
  simpa [IsDocument] using hpadded

theorem isDocument_document (summary : Summary) :
    IsDocument summary.document (Json.ofSummary summary).meaning :=
  (Json.spells_render 0 (Json.ofSummary summary)).entry

theorem isDocument_reportText (summary : Summary) :
    IsDocument (reportText summary) (Json.ofSummary summary).meaning :=
  isDocument_append_newline (isDocument_document summary)

/-! ## The report as a file -/

theorem FileTree.readText_writeText {tree written : FileTree} {p : Path} {text : String}
    (hwrite : tree.writeText p text = .ok written) : written.readText p = .ok text := by
  obtain ⟨place, executable, -, -, hthere⟩ := FileTree.find_write hwrite
  exact FileTree.readText_eq_ok.mpr
    ⟨_, FileTree.read_eq_ok.mpr ⟨place, executable, hthere⟩, textOfBytes?_bytesOfText text⟩

/-- The report that a session leaves in its file is a document and a newline.  By the grammar the
document has one value, with the newline or without it, and this is an object that tells the
summary of the session: its groups in order, its counts, and the group that stopped it.  It tells
no other summary, so no other summary has the same report. -/
theorem report_tells_summary {σ : Type} (session : SessionResult σ) :
    let text := reportText session.summary
    (∀ path, (writeReport (some path) session).result = .ok session.summary →
      (writeReport (some path) session).world.files.readText path = .ok text) ∧
      (∃ document value, text = document ++ "\n" ∧
        (∀ read, IsDocument document read ↔ read = value) ∧
        (∀ read, IsDocument text read ↔ read = value) ∧
        ∀ summary, value.Tells summary ↔ summary = session.summary) ∧
      ∀ summary, reportText summary = text ↔ summary = session.summary := by
  intro text
  have hdocument := isDocument_document session.summary
  have htext := isDocument_reportText session.summary
  have htells := tells_meaning session.summary
  refine ⟨?file, ⟨session.summary.document, (Json.ofSummary session.summary).meaning, rfl, ?bare,
    ?ended, ?told⟩, ?apart⟩
  case file =>
    intro path hresult
    obtain ⟨-, hwrite⟩ := (writeReport_result_eq_ok_iff _ _ _).mp hresult
    exact FileTree.readText_writeText hwrite
  case bare =>
    intro read
    constructor
    · intro hread
      exact hread.unique hdocument
    · intro hread
      rw [hread]
      exact hdocument
  case ended =>
    intro read
    constructor
    · intro hread
      exact hread.unique htext
    · intro hread
      rw [hread]
      exact htext
  case told =>
    intro summary
    constructor
    · intro htold
      exact htold.unique htells
    · intro hsummary
      rw [hsummary]
      exact htells
  case apart =>
    intro summary
    constructor
    · intro hsame
      have hother : IsDocument text (Json.ofSummary summary).meaning := by
        rw [← hsame]
        exact isDocument_reportText summary
      have hmeaning : (Json.ofSummary summary).meaning = (Json.ofSummary session.summary).meaning :=
        hother.unique htext
      have htold := tells_meaning summary
      rw [hmeaning] at htold
      exact htold.unique htells
    · intro hsummary
      rw [hsummary]

/-- A group whose name needs escapes, after which the session stopped. -/
def stoppedSummary : Summary := ⟨[⟨"a \"\\\n\x01é", ⟨3, 2⟩, true⟩], 1, 12, some "a \"\\\n\x01é"⟩

/-- Its report is kept in a file, and tells it. -/
theorem report_tells_summary_stoppedSummary :
    let session : SessionResult Unit := ⟨[], stoppedSummary, ⟨expectingTree, ()⟩⟩
    (writeReport (some ⟨"_test/r"⟩) session).world.files.readText ⟨"_test/r"⟩ =
        .ok (reportText stoppedSummary) ∧
      (∃ value, IsDocument (reportText stoppedSummary) value ∧ value.Tells stoppedSummary) ∧
      reportText { stoppedSummary with abortedBy := none } ≠ reportText stoppedSummary := by
  intro session
  obtain ⟨hfile, hdocument, hapart⟩ := report_tells_summary session
  obtain ⟨document, value, _, _, hread, htells⟩ := hdocument
  have hvalue : IsDocument (reportText stoppedSummary) value := (hread value).mpr rfl
  have htold : value.Tells stoppedSummary := (htells _).mpr rfl
  refine ⟨hfile ⟨"_test/r"⟩ ?_, ⟨value, hvalue, htold⟩, ?_⟩
  · rfl
  · rw [Ne, hapart]
    decide

end Conformance
