import Conformance.Proofs.Session.Trace

/-!
# Selecting beforehand

A selector is asked twice for what becomes of a group: before it would be run, and, behind
a group that stopped the session, to count what is left.  Both questions could be asked of
the whole suite beforehand.  A session over the groups that a selector selects, which then
selects every one of them, does the same and yields the same; only the groups that were
taken out are no longer counted.
-/

namespace Conformance

/-- Nothing is requested, so every group is selected. -/
def TagSelector.everything : TagSelector := .ofTags [] false

@[simp] theorem TagSelector.selects_everything (group : Group) :
    TagSelector.everything.selects group = true := rfl

/-- The summary, with groups that were passed over before. -/
def Summary.passingOver (count : Nat) (summary : Summary) : Summary :=
  { summary with deselected := summary.deselected + count }

section

variable {σ : Type} (invoker : Invoker σ) (settings : Settings)

/-- The groups in order, some of them passed over, are the others in order. -/
theorem runGroups_filter (selector : TagSelector) (groups : List Group) (world : World σ) :
    let kept :=
      runGroups invoker settings .everything (groups.filter selector.selects) world
    runGroups invoker settings selector groups world =
      { kept with
        summary := kept.summary.passingOver (groups.filter (!selector.selects ·)).length } := by
  induction groups generalizing world with
  | nil => rfl
  | cons group rest ih =>
      have heverything := TagSelector.selects_everything group
      cases hselects : selector.selects group with
      | false =>
          rw [List.filter_cons_of_neg (by simp [hselects]),
            List.filter_cons_of_pos (by simp [hselects]),
            runGroups_cons_of_deselected invoker settings hselects]
          simp only [ih world, Summary.passingOver, List.length_cons, Nat.add_assoc]
      | true =>
          rw [List.filter_cons_of_pos hselects, List.filter_cons_of_neg (by simp [hselects])]
          cases hdecision :
              ((recordGroup invoker settings group world).1.decision settings).isAbort with
          | true =>
              rw [runGroups_cons_of_abort invoker settings hselects rest world hdecision,
                runGroups_cons_of_abort invoker settings heverything _ world hdecision]
              simp [Summary.passingOver]
          | false =>
              rw [runGroups_cons_of_proceed invoker settings hselects rest world hdecision,
                runGroups_cons_of_proceed invoker settings heverything _ world hdecision]
              simp only [ih, Summary.passingOver]

theorem runGroups_everything_deselected (groups : List Group) (world : World σ) :
    (runGroups invoker settings .everything groups world).summary.deselected = 0 := by
  induction groups generalizing world with
  | nil => rfl
  | cons group rest ih =>
      have heverything := TagSelector.selects_everything group
      cases hdecision :
          ((recordGroup invoker settings group world).1.decision settings).isAbort with
      | true =>
          rw [runGroups_cons_of_abort invoker settings heverything rest world hdecision]
          simp
      | false =>
          rw [runGroups_cons_of_proceed invoker settings heverything rest world hdecision]
          exact ih _

/-- A session with a selector is the session over the groups that it selects, with
nothing requested: up to the closing notice the events are the same, invocations among
them, and so are the world that is left, files and all, and what the summary says of the
groups that were run, of those not reached and of the one that stopped the session.  The
summaries differ in the groups deselected: those that were taken out beforehand, and none. -/
theorem runSession_eq_runSession_filter
    (suite : Suite) (selector : TagSelector) (world : World σ) :
    let session := runSession invoker settings suite selector world
    let selected : Suite := ⟨suite.groups.filter selector.selects⟩
    let restricted := runSession invoker settings selected (.ofTags [] false) world
    (∃ events : List Event,
        session.events = events ++ [.notify (.sessionFinished session.summary)] ∧
        restricted.events = events ++ [.notify (.sessionFinished restricted.summary)]) ∧
      invocations session.events = invocations restricted.events ∧
      session.world = restricted.world ∧
      session.summary =
        { restricted.summary with
          deselected := suite.groups.length - selected.groups.length } ∧
      restricted.summary.deselected = 0 := by
  intro session selected restricted
  have hnone : restricted.summary.deselected = 0 :=
    runGroups_everything_deselected invoker settings selected.groups world
  have hrun := runGroups_filter invoker settings selector suite.groups world
  have hremoved : suite.groups.length - selected.groups.length =
      (suite.groups.filter (!selector.selects ·)).length := by
    have hsplit := List.length_eq_length_filter_add (l := suite.groups) selector.selects
    simp only [selected]
    omega
  have hevents : session.events =
      (runGroups invoker settings .everything selected.groups world).events ++
        [.notify (.sessionFinished session.summary)] := by
    simp only [session, runSession, hrun]
    rfl
  have hrestricted : restricted.events =
      (runGroups invoker settings .everything selected.groups world).events ++
        [.notify (.sessionFinished restricted.summary)] := rfl
  have hworld := congrArg SessionResult.world hrun
  refine ⟨⟨_, hevents, hrestricted⟩, ?_, hworld, ?_, hnone⟩
  · rw [hevents, hrestricted]
    simp only [invocations_append, invocations_notify_cons]
  · have hsummary : session.summary =
        restricted.summary.passingOver (suite.groups.filter (!selector.selects ·)).length :=
      congrArg SessionResult.summary hrun
    rw [hsummary, Summary.passingOver, hnone, hremoved, Nat.zero_add]

end

end Conformance
