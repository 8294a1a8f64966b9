import Conformance.Proofs.Session.Trace

/-!
# Sessions one after another

A session over two suites, one behind the other, is the session over the first,
followed by the session over the second from the world that the first one left.  A
session that was stopped goes no further: the groups behind it are only counted.
Nothing but the world passes from one group to the next, so the equation needs one
induction over the groups of the first suite.
-/

namespace Conformance

/-- The summary of a session that went on with another one. -/
def Summary.followedBy (first later : Summary) : Summary where
  groups := first.groups ++ later.groups
  deselected := first.deselected + later.deselected
  notReached := later.notReached
  abortedBy := later.abortedBy

/-- The summary of a session behind which there are groups that it does not come to. -/
def Summary.shortOf (selector : TagSelector) (groups : List Group) (summary : Summary) :
    Summary :=
  { summary with
    deselected := summary.deselected + (groups.filter (!selector.selects ·)).length
    notReached := summary.notReached + (groups.filter selector.selects).length }

theorem Summary.empty_followedBy (later : Summary) : Summary.empty.followedBy later = later := by
  simp [Summary.followedBy, Summary.empty]

section

variable {σ : Type} (invoker : Invoker σ) (settings : Settings)

/-- The groups of two lists in order: those of the second are run, from the world the
first ones left, unless one of the first stopped the session. -/
theorem runGroups_append
    (selector : TagSelector) (groups more : List Group) (world : World σ) :
    let first := runGroups invoker settings selector groups world
    let later := runGroups invoker settings selector more first.world
    runGroups invoker settings selector (groups ++ more) world =
      if first.summary.aborted then
        { first with summary := first.summary.shortOf selector more }
      else
        ⟨first.events ++ later.events, first.summary.followedBy later.summary, later.world⟩ := by
  induction groups generalizing world with
  | nil =>
      dsimp only [List.nil_append, runGroups]
      rw [Summary.empty_followedBy]
      rfl
  | cons group rest ih =>
      rw [List.cons_append]
      cases hselects : selector.selects group with
      | false =>
          simp only [runGroups_cons_of_deselected invoker settings hselects, ih]
          cases haborted :
              (runGroups invoker settings selector rest world).summary.aborted with
          | true =>
              simp only [Summary.aborted] at haborted
              simp [Summary.aborted, haborted, Summary.shortOf, Nat.add_right_comm]
          | false =>
              simp only [Summary.aborted] at haborted
              simp [Summary.aborted, haborted, Summary.followedBy, Nat.add_right_comm]
      | true =>
          cases hdecision :
              ((recordGroup invoker settings group world).1.decision settings).isAbort with
          | true =>
              simp only [runGroups_cons_of_abort invoker settings hselects _ world hdecision]
              simp [Summary.aborted, Summary.shortOf]
          | false =>
              simp only [runGroups_cons_of_proceed invoker settings hselects _ world hdecision,
                ih]
              generalize runGroups invoker settings selector rest
                (recordGroup invoker settings group world).2 = first
              cases haborted : first.summary.aborted with
              | true =>
                  simp only [Summary.aborted] at haborted
                  simp [Summary.aborted, haborted, Summary.shortOf]
              | false =>
                  simp only [Summary.aborted] at haborted
                  simp [Summary.aborted, haborted, Summary.followedBy]

/-- A session over two suites in a row.  If nothing stops the session over the first,
it is followed by the session over the second from the world that is left: entries
and events are appended, deselected groups are added up, and how the second ends is
how the whole ends.  If the session over the first is stopped, the second only adds
to the groups that are counted without being run. -/
theorem runSession_append
    (suite next : Suite) (selector : TagSelector) (world : World σ) :
    let first := runSession invoker settings suite selector world
    let second := runSession invoker settings next selector first.world
    let whole := runSession invoker settings ⟨suite.groups ++ next.groups⟩ selector world
    ∃ opening closing : List Event,
      first.events = opening ++ [.notify (.sessionFinished first.summary)] ∧
      second.events = closing ++ [.notify (.sessionFinished second.summary)] ∧
      (first.summary.abortedBy = none →
        whole.summary =
            ⟨first.summary.groups ++ second.summary.groups,
              first.summary.deselected + second.summary.deselected,
              second.summary.notReached, second.summary.abortedBy⟩ ∧
          whole.events =
            opening ++ closing ++ [.notify (.sessionFinished whole.summary)] ∧
          whole.world = second.world) ∧
      (first.summary.abortedBy ≠ none →
        whole.summary =
            ⟨first.summary.groups,
              first.summary.deselected + (next.groups.filter (!selector.selects ·)).length,
              first.summary.notReached + (next.groups.filter selector.selects).length,
              first.summary.abortedBy⟩ ∧
          whole.events = opening ++ [.notify (.sessionFinished whole.summary)] ∧
          invocations whole.events = invocations first.events ∧
          whole.world = first.world) := by
  intro first second whole
  have happend := runGroups_append invoker settings selector suite.groups next.groups world
  have hclosed : whole.events =
      (runGroups invoker settings selector (suite.groups ++ next.groups) world).events ++
        [.notify (.sessionFinished whole.summary)] := rfl
  refine ⟨(runGroups invoker settings selector suite.groups world).events,
    (runGroups invoker settings selector next.groups first.world).events, rfl, rfl, ?_, ?_⟩
  · intro hnone
    have haborted :
        (runGroups invoker settings selector suite.groups world).summary.aborted = false := by
      rw [Summary.aborted, Option.isSome_eq_false_iff, Option.isNone_iff_eq_none]
      exact hnone
    simp only [haborted, Bool.false_eq_true, if_false] at happend
    have hworld := congrArg SessionResult.world happend
    refine ⟨congrArg SessionResult.summary happend, ?_, hworld⟩
    rw [hclosed, congrArg SessionResult.events happend]
    rfl
  · intro hsome
    have haborted :
        (runGroups invoker settings selector suite.groups world).summary.aborted = true := by
      rw [Summary.aborted, Option.isSome_iff_ne_none]
      exact hsome
    simp only [haborted, if_true] at happend
    have hevents : whole.events =
        (runGroups invoker settings selector suite.groups world).events ++
          [.notify (.sessionFinished whole.summary)] := by
      rw [hclosed, congrArg SessionResult.events happend]
    have hworld := congrArg SessionResult.world happend
    refine ⟨congrArg SessionResult.summary happend, hevents, ?_, hworld⟩
    rw [hevents]
    simp only [first, runSession, invocations_append, invocations_notify_cons]

end

/-- A group that executes one tool and stops the session when it fails. -/
def strictGroup (name : String) (tags : List String) : Group :=
  ⟨name, "", tags, .zero, [⟨"tool", none, [⟨[], some 0, none, false⟩]⟩]⟩

/-- No files, and children that exit with the given codes. -/
def exitingWorld (codes : List Int) : World (List ScriptedReply) :=
  ⟨{ home := [], entries := [] }, codes.map fun code => ⟨[], .ok ⟨some code, [], false⟩⟩⟩

/-- A session that goes on with a suite and is stopped there, and one that is stopped
before it comes to that suite. -/
theorem runSession_append_of_strictGroups :
    let suite : Suite := ⟨[strictGroup "first" []]⟩
    let next : Suite := ⟨[strictGroup "late" ["slow"], strictGroup "last" []]⟩
    let session := fun suite codes =>
      runSession .scripted .default suite ⟨["slow"], true⟩ (exitingWorld codes)
    let whole : Suite := ⟨suite.groups ++ next.groups⟩
    ((session suite [0, 1]).summary.abortedBy = none ∧
      (session whole [0, 1]).summary =
        ⟨[⟨"first", ⟨1, 1⟩, false⟩, ⟨"last", ⟨1, 0⟩, true⟩], 1, 0, some "last"⟩) ∧
    ((session suite [1]).summary.abortedBy ≠ none ∧
      (session whole [1]).summary = ⟨[⟨"first", ⟨1, 0⟩, true⟩], 1, 1, some "first"⟩) := by
  intro suite next session whole
  have hcalm : (session suite [0, 1]).summary.abortedBy = none := by decide +kernel
  have hstopped : (session suite [1]).summary.abortedBy ≠ none := by decide +kernel
  obtain ⟨_, _, _, _, hproceeds, _⟩ :=
    runSession_append .scripted .default suite next ⟨["slow"], true⟩ (exitingWorld [0, 1])
  obtain ⟨_, _, _, _, _, hstops⟩ :=
    runSession_append .scripted .default suite next ⟨["slow"], true⟩ (exitingWorld [1])
  refine ⟨⟨hcalm, ?_⟩, hstopped, ?_⟩
  · rw [show (session whole [0, 1]).summary = _ from (hproceeds hcalm).1]
    decide +kernel
  · rw [show (session whole [1]).summary = _ from (hstops hstopped).1]
    decide +kernel

end Conformance
