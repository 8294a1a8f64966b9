import Conformance.Proofs.Session.Accounting
import Conformance.Proofs.Suite.Building
import Conformance.Proofs.Tally.Decision

/-!
# Sessions stop only after a failed check

A group that was built has no threshold below zero, and the failure rate of a group
without failures exceeds no such threshold.  Hence over groups that were built a
session without failed checks reaches its end, and the summary is clean exactly if
no check was reported as failed.
-/

namespace Conformance

theorem Group.IsBuilt.zero_le_threshold {group : Group} (hbuilt : group.IsBuilt) :
    Binary64.le .zero group.threshold = true := by
  have hinterval := hbuilt.threshold_inUnitInterval
  unfold Binary64.inUnitInterval at hinterval
  simp only [Bool.and_eq_true] at hinterval
  exact hinterval.1

section

variable {σ : Type} (invoker : Invoker σ) (settings : Settings)

theorem recordGroup_proceeds_of_failures_eq_zero {group : Group} (hbuilt : group.IsBuilt)
    (world : World σ)
    (hnone : failures ((recordGroup invoker settings group world).1.trace settings) = 0) :
    ((recordGroup invoker settings group world).1.decision settings).isAbort = false := by
  have hcount := (recordGroup invoker settings group world).1.passed_add_failures settings
  have hall : ((recordGroup invoker settings group world).1.tally settings).passed =
      ((recordGroup invoker settings group world).1.tally settings).run := by
    rw [hnone] at hcount
    exact hcount
  have hproceed := Decision.evaluate_of_all_passed hbuilt.zero_le_threshold hall
  unfold GroupRecord.decision
  rw [recordGroup_group, hproceed]
  rfl

/-- A group that stops the session reports a failed check. -/
theorem failures_pos_of_abort {group : Group} (hbuilt : group.IsBuilt) (world : World σ)
    (habort : (runGroup invoker settings group world).decision.isAbort = true) :
    0 < failures (runGroup invoker settings group world).events := by
  rw [runGroup_eq_recordGroup] at habort ⊢
  by_contra hnone
  have hproceed := recordGroup_proceeds_of_failures_eq_zero invoker settings hbuilt world
    (Nat.eq_zero_of_not_pos hnone)
  rw [hproceed] at habort
  cases habort

theorem runGroups_abortedBy_eq_none (selector : TagSelector) {groups : List Group}
    (hbuilt : ∀ group ∈ groups, group.IsBuilt) (world : World σ)
    (hnone : failures (runGroups invoker settings selector groups world).events = 0) :
    (runGroups invoker settings selector groups world).summary.abortedBy = none := by
  induction groups generalizing world with
  | nil => rfl
  | cons group rest ih =>
      have hrest : ∀ other ∈ rest, other.IsBuilt := fun other hother =>
        hbuilt other (List.mem_cons_of_mem group hother)
      cases hselects : selector.selects group with
      | false =>
          rw [runGroups_cons_of_deselected invoker settings hselects] at hnone ⊢
          exact ih hrest world hnone
      | true =>
          cases hdecision :
              ((recordGroup invoker settings group world).1.decision settings).isAbort with
          | true =>
              rw [runGroups_cons_of_abort invoker settings hselects rest world hdecision]
                at hnone
              have hproceed := recordGroup_proceeds_of_failures_eq_zero invoker settings
                (hbuilt group (List.mem_cons_self ..)) world hnone
              rw [hproceed] at hdecision
              cases hdecision
          | false =>
              rw [runGroups_cons_of_proceed invoker settings hselects rest world hdecision]
                at hnone ⊢
              simp only [failures_append, Nat.add_eq_zero_iff] at hnone
              exact ih hrest _ hnone.2

/-- A summary is clean exactly if no check was reported as failed. -/
theorem runSession_isClean_iff {suite : Suite}
    (hbuilt : ∀ group ∈ suite.groups, group.IsBuilt) (selector : TagSelector)
    (world : World σ) :
    let session := runSession invoker settings suite selector world
    session.summary.isClean = true ↔ failures session.events = 0 := by
  intro session
  have htotal : session.summary.checksPassed + failures session.events =
      session.summary.checksRun :=
    runSession_passed_add_failures invoker settings suite selector world
  have hclean : session.summary.isClean = true ↔
      session.summary.abortedBy = none ∧ session.summary.checksFailed = 0 := by
    simp [Summary.isClean, Summary.aborted]
  rw [hclean]
  unfold Summary.checksFailed
  constructor
  · intro hsucceeded
    have hfailed := hsucceeded.2
    omega
  · intro hnone
    refine ⟨?_, by omega⟩
    apply runGroups_abortedBy_eq_none invoker settings selector hbuilt world
    have hevents : failures session.events =
        failures (runGroups invoker settings selector suite.groups world).events := by
      simp [session, runSession, Event.isCheckFailed]
    rw [← hevents]
    exact hnone

end

end Conformance
