import Conformance.Proofs.Session.Replay

/-!
# The trace of a session

The events of a session are the trace of its history, closed by one notice with
the summary.  That the invocations among them are the ones the invoker is really
given is shown with an invoker that keeps what it is given: it changes nothing
else, and what it has kept at the end are the invocations of the trace.
-/

namespace Conformance

/-! ## Invocations of a trace -/

def Event.invocation? : Event → Option Invocation
  | .invoke invocation => some invocation
  | .notify _ => none

/-- The invocations of a list of events, in order. -/
def invocations (events : List Event) : List Invocation := events.filterMap Event.invocation?

@[simp] theorem invocations_nil : invocations [] = [] := rfl

@[simp] theorem invocations_notify_cons (notice : Notice) (rest : List Event) :
    invocations (.notify notice :: rest) = invocations rest := rfl

@[simp] theorem invocations_append (first rest : List Event) :
    invocations (first ++ rest) = invocations first ++ invocations rest :=
  List.filterMap_append

theorem invocations_flatMap {α : Type} (list : List α) (events : α → List Event) :
    invocations (list.flatMap events) = list.flatMap fun a => invocations (events a) := by
  induction list with
  | nil => rfl
  | cons a rest ih =>
      rw [List.flatMap_cons, invocations_append, ih, List.flatMap_cons]

theorem invocations_failureNotices (index before : Nat) (report : StageReport) :
    invocations (failureNotices index before report) = [] := by
  unfold invocations failureNotices
  rw [List.filterMap_filterMap, List.filterMap_eq_nil_iff]
  intro numbered _
  obtain ⟨check, ordinal⟩ := numbered
  by_cases hpassed : check.passed
  · simp [hpassed]
  · simp [hpassed, Event.invocation?]

def Stage.calls (stage : Stage) : List Invocation := invocations stage.opening

def RunRecord.calls (settings : Settings) (record : RunRecord) : List Invocation :=
  (record.stages settings).flatMap Stage.calls

def GroupRecord.calls (settings : Settings) (record : GroupRecord) : List Invocation :=
  record.runs.flatMap (·.calls settings)

theorem invocations_stagesTrace (index before : Nat) (stages : List Stage) :
    invocations (stagesTrace index before stages) = stages.flatMap Stage.calls := by
  induction stages generalizing before with
  | nil => rfl
  | cons stage rest ih =>
      rw [stagesTrace_cons, invocations_append, invocations_append,
        invocations_failureNotices, List.append_nil, ih]
      rfl

theorem invocations_runsTrace (settings : Settings) (index : Nat) (records : List RunRecord) :
    invocations (runsTrace settings index records) =
      records.flatMap (·.calls settings) := by
  induction records generalizing index with
  | nil => rfl
  | cons record rest ih =>
      rw [runsTrace_cons, invocations_append, ih, RunRecord.trace, invocations_stagesTrace]
      rfl

theorem invocations_groupTrace (settings : Settings) (record : GroupRecord) :
    invocations (record.trace settings) = record.calls settings := by
  simp only [GroupRecord.trace, List.cons_append, invocations_notify_cons,
    invocations_append, invocations_nil, List.append_nil, invocations_runsTrace]
  rfl

theorem invocations_groupsTrace (settings : Settings) (records : List GroupRecord) :
    invocations (groupsTrace settings records) = records.flatMap (·.calls settings) := by
  unfold groupsTrace
  rw [invocations_flatMap]
  simp only [invocations_groupTrace]

/-! ## An invoker that keeps its invocations -/

section

variable {σ : Type} (invoker : Invoker σ) (settings : Settings)

/-- A world together with the invocations made so far. -/
def World.withCalls (world : World σ) (calls : List Invocation) :
    World (σ × List Invocation) :=
  ⟨world.files, world.children, calls⟩

/-- Answers as the given invoker does, and keeps the invocation. -/
def Invoker.keeping : Invoker (σ × List Invocation) where
  invoke invocation world :=
    let answer := invoker.invoke invocation ⟨world.files, world.children.1⟩
    (answer.1, answer.2.withCalls (world.children.2 ++ [invocation]))

theorem recordCompilation_keeping
    (run : TestRun) (compilation : Compilation) (world : World σ) (calls : List Invocation) :
    recordCompilation invoker.keeping settings run compilation (world.withCalls calls) =
      let record := recordCompilation invoker settings run compilation world
      (record.1, record.2.withCalls (calls ++ (record.1.stage settings run).calls)) := rfl

theorem recordCase_keeping
    (run : TestRun) (case : TestCase) (world : World σ) (calls : List Invocation) :
    recordCase invoker.keeping settings run case (world.withCalls calls) =
      let record := recordCase invoker settings run case world
      (record.1, record.2.withCalls (calls ++ (record.1.stage settings run).calls)) := by
  unfold recordCase
  by_cases hmetric : case.hasMetric
  · simp only [hmetric, if_true]
    rfl
  · simp [hmetric, CaseRecord.stage, Stage.calls]

theorem recordRun_keeping (run : TestRun) (world : World σ) (calls : List Invocation) :
    recordRun invoker.keeping settings run (world.withCalls calls) =
      let record := recordRun invoker settings run world
      (record.1, record.2.withCalls (calls ++ record.1.calls settings)) := by
  have hcases := thread_log World.withCalls
    (fun record : CaseRecord => (record.stage settings run).calls)
    (recordCase_keeping invoker settings run)
  unfold recordRun
  cases hcompilation : run.compilation with
  | none =>
      simp only [hcases]
      simp [RunRecord.calls, RunRecord.stages, List.flatMap_map]
  | some compilation =>
      simp only [recordCompilation_keeping]
      by_cases hclean : (recordCompilation invoker settings run compilation world).1.isClean
      · simp only [hclean, if_true, hcases]
        simp [RunRecord.calls, RunRecord.stages, List.flatMap_map]
      · simp [hclean, RunRecord.calls, RunRecord.stages]

theorem recordGroup_keeping (group : Group) (world : World σ) (calls : List Invocation) :
    recordGroup invoker.keeping settings group (world.withCalls calls) =
      let record := recordGroup invoker settings group world
      (record.1, record.2.withCalls (calls ++ record.1.calls settings)) := by
  unfold recordGroup
  rw [thread_log World.withCalls (RunRecord.calls settings) (recordRun_keeping invoker settings)]
  rfl

theorem recordGroups_keeping
    (groups : List Group) (world : World σ) (calls : List Invocation) :
    recordGroups invoker.keeping settings groups (world.withCalls calls) =
      let history := recordGroups invoker settings groups world
      (history.1, history.2.withCalls (calls ++ history.1.flatMap (·.calls settings))) := by
  induction groups generalizing world calls with
  | nil => simp [recordGroups]
  | cons group rest ih =>
      simp only [recordGroups, recordGroup_keeping, ih]
      cases hdecision :
          ((recordGroup invoker settings group world).1.decision settings).isAbort <;>
        simp

/-! ## The trace -/

/-- The events of a session are the trace of the history of its selected groups,
followed by one notice with the summary; the session leaves the world in which
that history ends; and the invocations the invoker is given are those of the
trace. -/
theorem runSession_trace (suite : Suite) (selector : TagSelector) (world : World σ) :
    let result := runSession invoker settings suite selector world
    let history := sessionHistory invoker settings suite selector world
    result.events =
        groupsTrace settings history.1 ++ [.notify (.sessionFinished result.summary)] ∧
      result.world = history.2 ∧
      (runSession invoker.keeping settings suite selector
          (world.withCalls [])).world.children.2 = invocations result.events := by
  obtain ⟨hevents, hworld, _⟩ :=
    runGroups_eq_recordGroups invoker settings selector suite.groups world
  obtain ⟨_, hkept, _⟩ :=
    runGroups_eq_recordGroups invoker.keeping settings selector suite.groups
      (world.withCalls [])
  have hclosed : (runSession invoker settings suite selector world).events =
      groupsTrace settings (sessionHistory invoker settings suite selector world).1 ++
        [.notify (.sessionFinished
          (runSession invoker settings suite selector world).summary)] := by
    simp only [runSession, hevents, sessionHistory]
  refine ⟨hclosed, hworld, ?_⟩
  rw [hclosed, invocations_append, invocations_groupsTrace]
  simp only [runSession, hkept, recordGroups_keeping]
  simp [sessionHistory, World.withCalls]

end

end Conformance
