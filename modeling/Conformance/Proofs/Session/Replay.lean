import Conformance.Proofs.Session.History

/-!
# Sessions replay their histories

Cases, runs and groups carry a running ordinal and a running tally.  This module
shows that what they yield is what their histories show: the events are the
trace, the tally is that of all checks, and the world is the one that the history
ends in.
-/

namespace Conformance

/-! ## Tallies of check lists -/

theorem Tally.recordAll_append (tally : Tally) (first rest : List Check) :
    tally.recordAll (first ++ rest) = (tally.recordAll first).recordAll rest := by
  simp [Tally.recordAll, List.foldl_append]

theorem Tally.recordAll_eq (tally : Tally) (checks : List Check) :
    tally.recordAll checks =
      ⟨tally.run + checks.length, tally.passed + checks.countP Check.passed⟩ := by
  induction checks generalizing tally with
  | nil => simp [Tally.recordAll]
  | cons check rest ih =>
      have hcons : tally.recordAll (check :: rest) =
          (tally.record check).recordAll rest := rfl
      rw [hcons, ih, Tally.record, Tally.mk.injEq]
      by_cases hpassed : check.passed
      · simp only [hpassed, if_true, List.length_cons, List.countP_cons]
        omega
      · simp only [hpassed, List.length_cons, List.countP_cons,
          Bool.false_eq_true, if_false]
        omega

theorem Tally.empty_recordAll (checks : List Check) :
    Tally.empty.recordAll checks = .ofChecks checks := by
  rw [Tally.recordAll_eq]
  simp [Tally.empty, Tally.ofChecks]

/-! ## Traces, stage by stage and run by run -/

theorem failureEvents_eq_failureNotices
    (index : Nat) (command : String) (before : Nat) (checks : List Check) :
    failureEvents index command before checks =
      failureNotices index before ⟨command, checks⟩ := by
  induction checks generalizing before with
  | nil => rfl
  | cons check rest ih =>
      have htail := ih (before + 1)
      unfold failureNotices at htail ⊢
      simp only [failureEvents, List.zipIdx_cons, List.filterMap_cons]
      by_cases hpassed : check.passed
      · simp only [hpassed, if_true]
        exact htail
      · simp only [hpassed, Bool.false_eq_true, if_false]
        rw [htail]

@[simp] theorem stagesTrace_nil (index before : Nat) :
    stagesTrace index before [] = [] := rfl

theorem stagesTrace_cons (index before : Nat) (stage : Stage) (rest : List Stage) :
    stagesTrace index before (stage :: rest) =
      stage.opening ++ failureNotices index before stage.report ++
        stagesTrace index (before + stage.checks.length) rest := by
  unfold stagesTrace
  rw [List.zipIdx_cons, List.flatMap_cons, zero_add, List.zipIdx_succ, List.flatMap_map]
  congr 1
  apply List.flatMap_congr
  intro numbered _
  obtain ⟨other, place⟩ := numbered
  simp only [List.take_succ_cons, List.flatMap_cons, List.length_append, Nat.add_assoc]

theorem runsTrace_cons (settings : Settings) (index : Nat)
    (record : RunRecord) (rest : List RunRecord) :
    runsTrace settings index (record :: rest) =
      record.trace settings index ++ runsTrace settings (index + 1) rest := by
  simp only [runsTrace, List.zipIdx_cons, List.flatMap_cons]

/-! ## Stages -/

/-- The executable is ready exactly after a clean compilation. -/
theorem compileChecks_ready (settings : Settings) (record : CompileRecord) :
    (compileChecks settings record.compilation record.files record.reply).2 =
      record.isClean := by
  obtain ⟨compilation, reply, files⟩ := record
  cases reply with
  | error cause => rfl
  | ok outcome =>
      simp only [compileChecks, CompileRecord.isClean]
      cases htimeout : outcome.timedOut with
      | true => rfl
      | false =>
          unfold classifyCompilation
          cases hzero : decide (outcome.exitCode = some 0) with
          | false =>
              cases compilation.expectFailure with
              | false => simp
              | true => simp
          | true =>
              cases compilation.expectFailure with
              | false => simp
              | true => simp

section

variable {σ : Type} (invoker : Invoker σ) (settings : Settings)

theorem compileRun_eq_recordCompilation
    (run : TestRun) (compilation : Compilation) (world : World σ) :
    compileRun invoker settings run compilation world =
      let record := recordCompilation invoker settings run compilation world
      (⟨compilerCall settings run compilation,
          (record.1.stage settings run).report, record.1.isClean⟩, record.2) := by
  simp only [recordCompilation, CompileRecord.stage, ← compileChecks_ready settings]
  rfl

theorem executeCase_eq_recordCase
    (run : TestRun) (case : TestCase) (world : World σ) :
    executeCase invoker settings run case world =
      let record := recordCase invoker settings run case world
      (⟨if case.hasMetric then some (artifactCall settings run case) else none,
          (record.1.stage settings run).report⟩, record.2) := by
  unfold executeCase recordCase
  by_cases hmetric : case.hasMetric
  · simp only [hmetric, if_true]
    rfl
  · simp only [hmetric, Bool.false_eq_true, if_false]
    rfl

theorem recordCase_opening
    (run : TestRun) (case : TestCase) (world : World σ) :
    ((recordCase invoker settings run case world).1.stage settings run).opening =
      if case.hasMetric then [.invoke (artifactCall settings run case)] else [] := by
  unfold recordCase
  by_cases hmetric : case.hasMetric
  · simp only [hmetric, if_true]
    rfl
  · simp only [hmetric, Bool.false_eq_true, if_false]
    rfl

/-! ## Cases, runs and groups -/

theorem runCases_eq_thread
    (index : Nat) (run : TestRun) (ordinal : Nat) (tally : Tally)
    (cases : List TestCase) (world : World σ) :
    runCases invoker settings index run ordinal tally cases world =
      let executed := thread (recordCase invoker settings run) cases world
      let stages := executed.1.map (·.stage settings run)
      ⟨stagesTrace index ordinal stages,
        tally.recordAll (stages.flatMap Stage.checks), executed.2⟩ := by
  induction cases generalizing ordinal tally world with
  | nil => rfl
  | cons case rest ih =>
      simp only [runCases, thread, List.map_cons, List.flatMap_cons, stagesTrace_cons]
      rw [executeCase_eq_recordCase, recordCase_opening, ih,
        failureEvents_eq_failureNotices, Tally.recordAll_append]
      by_cases hmetric : case.hasMetric
      · simp only [hmetric, if_true]
        rfl
      · simp only [hmetric, Bool.false_eq_true, if_false]
        rfl

theorem runOne_eq_recordRun
    (index : Nat) (run : TestRun) (tally : Tally) (world : World σ) :
    runOne invoker settings index run tally world =
      let record := recordRun invoker settings run world
      ⟨record.1.trace settings index,
        tally.recordAll (record.1.checks settings), record.2⟩ := by
  unfold runOne recordRun RunRecord.trace RunRecord.checks RunRecord.stages
  cases hcompilation : run.compilation with
  | none =>
      simp only [runCases_eq_thread]
      rfl
  | some compilation =>
      simp only [compileRun_eq_recordCompilation, failureEvents_eq_failureNotices]
      cases hclean : (recordCompilation invoker settings run compilation world).1.isClean with
      | true =>
          simp only [if_true, Option.map_some, Option.toList_some, List.singleton_append,
            runCases_eq_thread, stagesTrace_cons, List.flatMap_cons, Nat.zero_add,
            Tally.recordAll_append]
          rfl
      | false =>
          simp only [Bool.false_eq_true, if_false, Option.map_some, Option.toList_some,
            List.map_nil, List.append_nil, stagesTrace_cons, stagesTrace_nil,
            List.flatMap_cons, List.flatMap_nil]
          rfl

theorem runRuns_eq_thread
    (index : Nat) (tally : Tally) (runs : List TestRun) (world : World σ) :
    runRuns invoker settings index tally runs world =
      let records := thread (recordRun invoker settings) runs world
      ⟨runsTrace settings index records.1,
        tally.recordAll (records.1.flatMap (·.checks settings)), records.2⟩ := by
  induction runs generalizing index tally world with
  | nil => rfl
  | cons run rest ih =>
      simp only [runRuns, thread, runsTrace_cons, List.flatMap_cons]
      rw [runOne_eq_recordRun, ih, Tally.recordAll_append]

theorem runGroup_eq_recordGroup (group : Group) (world : World σ) :
    runGroup invoker settings group world =
      let record := recordGroup invoker settings group world
      ⟨record.1.trace settings, record.1.tally settings,
        record.1.decision settings, record.2⟩ := by
  simp only [runGroup, runRuns_eq_thread, Tally.empty_recordAll]
  rfl

/-! ## Sessions -/

/-- What the summary says of a group that was run. -/
def GroupRecord.entry (settings : Settings) (record : GroupRecord) : GroupSummary :=
  ⟨record.group.name, record.tally settings, (record.decision settings).isAbort⟩

@[simp] theorem recordGroup_group (group : Group) (world : World σ) :
    (recordGroup invoker settings group world).1.group = group := rfl

theorem runGroups_cons_of_deselected
    {selector : TagSelector} {group : Group} (hselects : selector.selects group = false)
    (rest : List Group) (world : World σ) :
    runGroups invoker settings selector (group :: rest) world =
      let later := runGroups invoker settings selector rest world
      { later with summary :=
          { later.summary with deselected := later.summary.deselected + 1 } } := by
  simp [runGroups, hselects]

/-- A group that stops the session: what follows is only sorted into groups that
were not selected and groups that were not reached. -/
theorem runGroups_cons_of_abort
    {selector : TagSelector} {group : Group} (hselects : selector.selects group = true)
    (rest : List Group) (world : World σ)
    (habort : ((recordGroup invoker settings group world).1.decision settings).isAbort = true) :
    runGroups invoker settings selector (group :: rest) world =
      let record := recordGroup invoker settings group world
      ⟨record.1.trace settings,
        ⟨[record.1.entry settings], (rest.filter (!selector.selects ·)).length,
          (rest.filter selector.selects).length, some group.name⟩,
        record.2⟩ := by
  simp only [runGroups, hselects, if_true, runGroup_eq_recordGroup, skipRest,
    GroupRecord.entry, recordGroup_group, habort]

theorem runGroups_cons_of_proceed
    {selector : TagSelector} {group : Group} (hselects : selector.selects group = true)
    (rest : List Group) (world : World σ)
    (hproceed :
      ((recordGroup invoker settings group world).1.decision settings).isAbort = false) :
    runGroups invoker settings selector (group :: rest) world =
      let record := recordGroup invoker settings group world
      let later := runGroups invoker settings selector rest record.2
      ⟨record.1.trace settings ++ later.events,
        { later.summary with
          groups := record.1.entry settings :: later.summary.groups },
        later.world⟩ := by
  simp only [runGroups, hselects, if_true, runGroup_eq_recordGroup,
    GroupRecord.entry, recordGroup_group, hproceed, Bool.false_eq_true, if_false]

theorem recordGroups_cons_of_abort
    {group : Group} {rest : List Group} {world : World σ}
    (habort : ((recordGroup invoker settings group world).1.decision settings).isAbort = true) :
    recordGroups invoker settings (group :: rest) world =
      let record := recordGroup invoker settings group world
      ([record.1], record.2) := by
  simp only [recordGroups, habort, if_true]

theorem recordGroups_cons_of_proceed
    {group : Group} {rest : List Group} {world : World σ}
    (hproceed :
      ((recordGroup invoker settings group world).1.decision settings).isAbort = false) :
    recordGroups invoker settings (group :: rest) world =
      let record := recordGroup invoker settings group world
      let later := recordGroups invoker settings rest record.2
      (record.1 :: later.1, later.2) := by
  simp only [recordGroups, hproceed, Bool.false_eq_true, if_false]

/-- What holds of every group's record, from whatever world the group is run. -/
theorem recordGroups_forall {P : GroupRecord → Prop} {groups : List Group}
    (hgroup : ∀ group ∈ groups, ∀ world, P (recordGroup invoker settings group world).1)
    (world : World σ) : ∀ record ∈ (recordGroups invoker settings groups world).1, P record := by
  induction groups generalizing world with
  | nil => simp [recordGroups]
  | cons group rest ih =>
      have hhead := hgroup group (List.mem_cons_self ..) world
      have htail := ih fun other hother => hgroup other (List.mem_cons_of_mem group hother)
      intro record hrecord
      cases hdecision :
          ((recordGroup invoker settings group world).1.decision settings).isAbort with
      | true =>
          rw [recordGroups_cons_of_abort invoker settings hdecision] at hrecord
          rw [List.mem_singleton.mp hrecord]
          exact hhead
      | false =>
          rw [recordGroups_cons_of_proceed invoker settings hdecision] at hrecord
          rcases List.mem_cons.mp hrecord with rfl | hlater
          · exact hhead
          · exact htail _ record hlater

/-- The groups of a session in order: its events, its world and the entries of its
summary are those of the history of the selected groups. -/
theorem runGroups_eq_recordGroups
    (selector : TagSelector) (groups : List Group) (world : World σ) :
    let result := runGroups invoker settings selector groups world
    let history := recordGroups invoker settings (groups.filter selector.selects) world
    result.events = groupsTrace settings history.1 ∧
      result.world = history.2 ∧
      result.summary.groups = history.1.map (·.entry settings) := by
  induction groups generalizing world with
  | nil => exact ⟨rfl, rfl, rfl⟩
  | cons group rest ih =>
      cases hselects : selector.selects group with
      | false =>
          rw [List.filter_cons_of_neg (by simp [hselects]),
            runGroups_cons_of_deselected invoker settings hselects]
          exact ih world
      | true =>
          rw [List.filter_cons_of_pos hselects]
          cases hdecision :
              ((recordGroup invoker settings group world).1.decision settings).isAbort with
          | true =>
              rw [runGroups_cons_of_abort invoker settings hselects rest world hdecision,
                recordGroups_cons_of_abort invoker settings hdecision]
              simp [groupsTrace]
          | false =>
              rw [runGroups_cons_of_proceed invoker settings hselects rest world hdecision,
                recordGroups_cons_of_proceed invoker settings hdecision]
              obtain ⟨hevents, hworld, hentries⟩ :=
                ih (recordGroup invoker settings group world).2
              refine ⟨?_, hworld, ?_⟩
              · simp only [hevents, groupsTrace, List.flatMap_cons]
              · simp only [hentries, List.map_cons]

end

end Conformance
