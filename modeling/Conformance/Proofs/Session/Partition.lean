import Conformance.Proofs.Session.Replay

/-!
# How a summary divides the groups of a suite

Every group of a suite is run, deselected or not reached.  The groups that are run
are the first of the selected ones, only the last of them can have stopped the
session, and a session that nothing stopped reaches every selected group.  The
division is kept by each of the three things that can become of a group: it is
passed over, it stops the session, or the session goes on.
-/

namespace Conformance

/-- The entry has the group's name, and is marked exactly if the entry's tally stops
a session at the group's threshold. -/
def GroupSummary.Describes (entry : GroupSummary) (group : Group) : Prop :=
  entry.name = group.name ∧
    entry.panicked = (Decision.evaluate group.threshold entry.tally).isAbort

theorem GroupRecord.entry_describes (settings : Settings) (record : GroupRecord) :
    (record.entry settings).Describes record.group := ⟨rfl, rfl⟩

theorem forall₂_describes_names {entries : List GroupSummary} {groups : List Group}
    (hdescribes : List.Forall₂ GroupSummary.Describes entries groups) :
    entries.map (·.name) = groups.map (·.name) := by
  induction hdescribes with
  | nil => rfl
  | @cons entry group entries groups hhead _ ih =>
      simp only [List.map_cons, hhead.1, ih]

/-- What a summary says of the groups it is about. -/
structure Summary.Divides (selector : TagSelector) (groups : List Group)
    (summary : Summary) : Prop where
  entries :
    List.Forall₂ GroupSummary.Describes summary.groups
      ((groups.filter selector.selects).take summary.groups.length)
  reached :
    summary.groups.length + summary.notReached = (groups.filter selector.selects).length
  deselected :
    summary.deselected + (groups.filter selector.selects).length = groups.length
  earlierCalm : ∀ entry ∈ summary.groups.dropLast, entry.panicked = false
  abortedBy :
    summary.abortedBy =
      (summary.groups.getLast?.filter (·.panicked)).map (·.name)
  complete : summary.abortedBy = none → summary.notReached = 0

namespace Summary.Divides

variable {selector : TagSelector} {group : Group} {rest : List Group} {summary : Summary}

theorem empty (selector : TagSelector) : Summary.empty.Divides selector [] where
  entries := .nil
  reached := rfl
  deselected := rfl
  earlierCalm := by simp [Summary.empty]
  abortedBy := rfl
  complete := fun _ => rfl

/-- A group that is not selected counts as deselected. -/
theorem deselect (hrest : summary.Divides selector rest)
    (hselects : selector.selects group = false) :
    ({ summary with deselected := summary.deselected + 1 } : Summary).Divides selector
      (group :: rest) := by
  have hfilter : (group :: rest).filter selector.selects = rest.filter selector.selects :=
    List.filter_cons_of_neg (by simp [hselects])
  constructor
  · rw [hfilter]
    exact hrest.entries
  · rw [hfilter]
    exact hrest.reached
  · have hcount := hrest.deselected
    rw [hfilter, List.length_cons]
    simp only
    omega
  · exact hrest.earlierCalm
  · exact hrest.abortedBy
  · exact hrest.complete

/-- A group that stops the session is the last one that is run; of the others, the
selected ones are not reached. -/
theorem abort {entry : GroupSummary} (hselects : selector.selects group = true)
    (hentry : entry.Describes group) (hpanicked : entry.panicked = true) (rest : List Group) :
    (⟨[entry], (rest.filter (!selector.selects ·)).length,
        (rest.filter selector.selects).length, some group.name⟩ : Summary).Divides
      selector (group :: rest) := by
  have hfilter : (group :: rest).filter selector.selects =
      group :: rest.filter selector.selects :=
    List.filter_cons_of_pos hselects
  constructor
  · rw [hfilter]
    exact .cons hentry .nil
  · rw [hfilter]
    simp only [List.length_cons, List.length_nil]
    omega
  · have hsplit := List.length_eq_length_filter_add (l := rest) selector.selects
    rw [hfilter]
    simp only [List.length_cons]
    omega
  · simp
  · simp [Option.filter, hpanicked, hentry.1]
  · simp

/-- A group after which the session goes on is the first that is run. -/
theorem proceed {entry : GroupSummary} (hrest : summary.Divides selector rest)
    (hselects : selector.selects group = true)
    (hentry : entry.Describes group) (hcalm : entry.panicked = false) :
    ({ summary with groups := entry :: summary.groups } : Summary).Divides selector
      (group :: rest) := by
  have hfilter : (group :: rest).filter selector.selects =
      group :: rest.filter selector.selects :=
    List.filter_cons_of_pos hselects
  constructor
  · rw [hfilter]
    exact .cons hentry hrest.entries
  · have hreached := hrest.reached
    rw [hfilter]
    simp only [List.length_cons]
    omega
  · have hcount := hrest.deselected
    rw [hfilter]
    simp only [List.length_cons]
    omega
  · intro other hother
    cases hgroups : summary.groups with
    | nil => simp [hgroups] at hother
    | cons next later =>
        simp only [hgroups, List.dropLast_cons_cons, List.mem_cons] at hother
        rcases hother with rfl | hother
        · exact hcalm
        · exact hrest.earlierCalm other (by rw [hgroups]; exact hother)
  · have haborted := hrest.abortedBy
    cases hgroups : summary.groups with
    | nil =>
        rw [hgroups] at haborted
        simpa [Option.filter, hcalm] using haborted
    | cons next later =>
        rw [hgroups] at haborted
        simpa using haborted
  · exact hrest.complete

end Summary.Divides

section

variable {σ : Type} (invoker : Invoker σ) (settings : Settings)

theorem runGroups_divides (selector : TagSelector) (groups : List Group) (world : World σ) :
    (runGroups invoker settings selector groups world).summary.Divides selector groups := by
  induction groups generalizing world with
  | nil => exact .empty selector
  | cons group rest ih =>
      cases hselects : selector.selects group with
      | false =>
          rw [runGroups_cons_of_deselected invoker settings hselects]
          exact (ih world).deselect hselects
      | true =>
          have hentry := (recordGroup invoker settings group world).1.entry_describes settings
          cases hdecision :
              ((recordGroup invoker settings group world).1.decision settings).isAbort with
          | true =>
              rw [runGroups_cons_of_abort invoker settings hselects rest world hdecision]
              exact .abort hselects hentry hdecision rest
          | false =>
              rw [runGroups_cons_of_proceed invoker settings hselects rest world hdecision]
              exact (ih _).proceed hselects hentry hdecision

/-- The summary of a session divides the groups of its suite into those that were
run, deselected and not reached. -/
theorem runSession_divides_groups
    (suite : Suite) (selector : TagSelector) (world : World σ) :
    let summary := (runSession invoker settings suite selector world).summary
    let selected := suite.groups.filter selector.selects
    summary.groups.map (·.name) = (selected.map (·.name)).take summary.groups.length ∧
      summary.groups.length + summary.notReached = selected.length ∧
      summary.deselected = suite.groups.length - selected.length ∧
      (∀ entry ∈ summary.groups.dropLast, entry.panicked = false) ∧
      (∀ name, summary.abortedBy = some name ↔
        ∃ entry, summary.groups.getLast? = some entry ∧
          entry.panicked = true ∧ entry.name = name) ∧
      (summary.abortedBy = none → summary.notReached = 0) ∧
      List.Forall₂
        (fun entry group => entry.panicked = true ↔
          (Decision.evaluate group.threshold entry.tally).isAbort = true)
        summary.groups (selected.take summary.groups.length) := by
  have hdivides := runGroups_divides invoker settings selector suite.groups world
  intro summary selected
  refine ⟨?_, hdivides.reached, ?_, hdivides.earlierCalm, ?_, hdivides.complete, ?_⟩
  · rw [← List.map_take]
    exact forall₂_describes_names hdivides.entries
  · exact Nat.eq_sub_of_add_eq hdivides.deselected
  · intro name
    rw [show summary.abortedBy = _ from hdivides.abortedBy]
    simp only [Option.map_eq_some_iff, Option.filter_eq_some_iff, and_assoc]
    rfl
  · exact hdivides.entries.imp fun entry group hentry => by rw [hentry.2]

end

end Conformance
