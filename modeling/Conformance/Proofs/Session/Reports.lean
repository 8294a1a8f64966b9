import Conformance.Proofs.Session.Replay

/-!
# Reported checks

Of the checks of a history exactly those that failed are reported, each once and in
order; nothing else in a trace reports a check.
-/

namespace Conformance

/-- The check that an event reports as failed. -/
def Event.check? : Event → Option Check
  | .notify (.checkFailed _ _ _ check) => some check
  | _ => none

/-- The checks that events report as failed, in order. -/
def reportedChecks (events : List Event) : List Check := events.filterMap Event.check?

@[simp] theorem reportedChecks_append (first rest : List Event) :
    reportedChecks (first ++ rest) = reportedChecks first ++ reportedChecks rest :=
  List.filterMap_append

theorem reportedChecks_failureNotices (index before : Nat) (report : StageReport) :
    reportedChecks (failureNotices index before report) = report.checks.filter (!·.passed) := by
  obtain ⟨command, checks⟩ := report
  rw [← failureEvents_eq_failureNotices]
  unfold reportedChecks
  induction checks generalizing before with
  | nil => rfl
  | cons check rest ih =>
      simp only [failureEvents]
      by_cases hpassed : check.passed
      · simp [hpassed, ih]
      · simp [hpassed, ih, Event.check?]

theorem reportedChecks_stagesTrace
    (index before : Nat) {stages : List Stage}
    (hopening : ∀ stage ∈ stages, reportedChecks stage.opening = []) :
    reportedChecks (stagesTrace index before stages) =
      (stages.flatMap Stage.checks).filter (!·.passed) := by
  induction stages generalizing before with
  | nil => rfl
  | cons stage rest ih =>
      have hhead := hopening stage (List.mem_cons_self ..)
      have htail := ih (before + stage.checks.length) fun other hother =>
        hopening other (List.mem_cons_of_mem stage hother)
      rw [stagesTrace_cons, reportedChecks_append, reportedChecks_append, hhead, htail,
        reportedChecks_failureNotices, List.nil_append, List.flatMap_cons, List.filter_append]
      rfl

/-- What opens a stage reports no check. -/
theorem RunRecord.reportedChecks_opening (settings : Settings) (record : RunRecord) :
    ∀ stage ∈ record.stages settings, reportedChecks stage.opening = [] := by
  intro stage hstage
  simp only [RunRecord.stages, List.mem_append, Option.mem_toList,
    Option.map_eq_some_iff, List.mem_map] at hstage
  cases hstage with
  | inl hcompile =>
      obtain ⟨compiled, _, hstage⟩ := hcompile
      rw [← hstage]
      rfl
  | inr hcase =>
      obtain ⟨case, _, hstage⟩ := hcase
      rw [← hstage]
      unfold CaseRecord.stage
      split
      · rfl
      · rfl

theorem reportedChecks_runsTrace
    (settings : Settings) (index : Nat) (records : List RunRecord) :
    reportedChecks (runsTrace settings index records) =
      (records.flatMap (·.checks settings)).filter (!·.passed) := by
  induction records generalizing index with
  | nil => rfl
  | cons record rest ih =>
      have hrecord : reportedChecks (record.trace settings index) =
          (record.checks settings).filter (!·.passed) :=
        reportedChecks_stagesTrace index 0 (record.reportedChecks_opening settings)
      rw [runsTrace_cons, reportedChecks_append, hrecord, ih, List.flatMap_cons,
        List.filter_append]

theorem GroupRecord.reportedChecks_trace (settings : Settings) (record : GroupRecord) :
    reportedChecks (record.trace settings) = (record.checks settings).filter (!·.passed) := by
  have hruns := reportedChecks_runsTrace settings 0 record.runs
  rw [GroupRecord.trace, reportedChecks_append]
  change reportedChecks (runsTrace settings 0 record.runs) ++ [] = _
  rw [List.append_nil, hruns]
  rfl

theorem reportedChecks_groupsTrace (settings : Settings) (records : List GroupRecord) :
    reportedChecks (groupsTrace settings records) =
      (records.flatMap (·.checks settings)).filter (!·.passed) := by
  have hgroups : ∀ record : GroupRecord, (record.trace settings).filterMap Event.check? =
      (record.checks settings).filter (!·.passed) :=
    fun record => record.reportedChecks_trace settings
  unfold groupsTrace reportedChecks
  rw [List.filterMap_flatMap, List.filter_flatMap]
  simp only [hgroups]

/-- The checks that a session reports are the failed ones of its history. -/
theorem reportedChecks_runSession {σ : Type} (invoker : Invoker σ) (settings : Settings)
    (suite : Suite) (selector : TagSelector) (world : World σ) :
    reportedChecks (runSession invoker settings suite selector world).events =
      ((sessionHistory invoker settings suite selector world).1.flatMap
        (·.checks settings)).filter (!·.passed) := by
  obtain ⟨hevents, _, _⟩ :=
    runGroups_eq_recordGroups invoker settings selector suite.groups world
  simp only [runSession, hevents, reportedChecks_append, reportedChecks_groupsTrace]
  exact List.append_nil _

end Conformance
