import Conformance.Proofs.Report.Operations
import Conformance.Proofs.Session.Trace

/-!
# Reporting only observes

A session tells its reporter what happens at the moment it happens, between the
invocations.  Here the session is run together with a reporter that has a state of its
own, such as a console with a writer that fails.  Whatever the reporter does with a
notice, the session yields the same summary and leaves the same world, and the reporter
ends in the state in which it would be if it were told the notices of the trace
afterwards.

For a console this means that the writer decides nothing but how much of each notice is
displayed.
-/

namespace Conformance

/-! ## Reporters -/

/-- Who is told notices. -/
structure Reporter (ρ : Type) where
  hear : Notice → ρ → ρ

def Event.notice? : Event → Option Notice
  | .invoke _ => none
  | .notify notice => some notice

/-- The notices of a list of events, in order. -/
def notices (events : List Event) : List Notice := events.filterMap Event.notice?

namespace Reporter

variable {ρ : Type} (reporter : Reporter ρ)

/-- Tells the notices of a trace. -/
def tell (events : List Event) (told : ρ) : ρ :=
  (notices events).foldl (fun told notice => reporter.hear notice told) told

@[simp] theorem tell_nil (told : ρ) : reporter.tell [] told = told := rfl

@[simp] theorem tell_invoke_cons (invocation : Invocation) (rest : List Event) (told : ρ) :
    reporter.tell (.invoke invocation :: rest) told = reporter.tell rest told := rfl

@[simp] theorem tell_notify_cons (notice : Notice) (rest : List Event) (told : ρ) :
    reporter.tell (.notify notice :: rest) told =
      reporter.tell rest (reporter.hear notice told) := rfl

@[simp] theorem tell_append (first rest : List Event) (told : ρ) :
    reporter.tell (first ++ rest) told = reporter.tell rest (reporter.tell first told) := by
  unfold tell notices
  rw [List.filterMap_append, List.foldl_append]

@[simp] theorem tell_map_invoke (calls : List Invocation) (told : ρ) :
    reporter.tell (calls.map .invoke) told = told := by
  induction calls with
  | nil => rfl
  | cons invocation rest ih => exact ih

end Reporter

/-! ## Sessions with a reporter -/

/-- What a part of a session yields, leaves behind, and has told. -/
structure Reported (α σ ρ : Type) where
  value : α
  world : World σ
  told : ρ

section

variable {σ ρ : Type} (invoker : Invoker σ) (settings : Settings) (reporter : Reporter ρ)

/-- Tells the failed ones of some checks. -/
def reportFailures (run : Nat) (command : String) (ordinal : Nat) : List Check → ρ → ρ
  | [], told => told
  | check :: rest, told =>
    let heard := if check.passed then told
      else reporter.hear (.checkFailed run (ordinal + 1) command check) told
    reportFailures run command (ordinal + 1) rest heard

def reportCases (index : Nat) (run : TestRun) (ordinal : Nat) (tally : Tally) :
    List TestCase → World σ → ρ → Reported Tally σ ρ
  | [], world, told => ⟨tally, world, told⟩
  | case :: rest, world, told =>
    let (result, after) := executeCase invoker settings run case world
    let checks := result.report.checks
    let heard := reportFailures reporter index result.report.command ordinal checks told
    reportCases index run (ordinal + checks.length) (tally.recordAll checks) rest after heard

/-- The compilation is told before the compiler is invoked. -/
def reportOne (index : Nat) (run : TestRun) (tally : Tally) (world : World σ) (told : ρ) :
    Reported Tally σ ρ :=
  match run.compilation with
  | none => reportCases invoker settings reporter index run 0 tally run.cases world told
  | some compilation =>
    let opened := reporter.hear (.compilationStarted run) told
    let (result, after) := compileRun invoker settings run compilation world
    let checks := result.report.checks
    let heard := reportFailures reporter index result.report.command 0 checks opened
    let compiled := tally.recordAll checks
    if result.ready then
      reportCases invoker settings reporter index run checks.length compiled run.cases after heard
    else ⟨compiled, after, heard⟩

def reportRuns (index : Nat) (tally : Tally) :
    List TestRun → World σ → ρ → Reported Tally σ ρ
  | [], world, told => ⟨tally, world, told⟩
  | run :: rest, world, told =>
    let first := reportOne invoker settings reporter index run tally world told
    reportRuns (index + 1) first.value rest first.world first.told

def reportGroup (group : Group) (world : World σ) (told : ρ) :
    Reported (Tally × Decision) σ ρ :=
  let opened := reporter.hear (.groupStarted group) told
  let part := reportRuns invoker settings reporter 0 .empty group.runs world opened
  let decision := Decision.evaluate group.threshold part.value
  ⟨(part.value, decision), part.world,
    reporter.hear (.groupFinished group part.value decision) part.told⟩

def reportGroups (selector : TagSelector) :
    List Group → World σ → ρ → Reported Summary σ ρ
  | [], world, told => ⟨.empty, world, told⟩
  | group :: rest, world, told =>
    if selector.selects group then
      let part := reportGroup invoker settings reporter group world told
      let (tally, decision) := part.value
      let entry : GroupSummary := ⟨group.name, tally, decision.isAbort⟩
      if decision.isAbort then
        let (deselected, notReached) := skipRest selector rest
        ⟨⟨[entry], deselected, notReached, some group.name⟩, part.world, part.told⟩
      else
        let later := reportGroups selector rest part.world part.told
        ⟨{ later.value with groups := entry :: later.value.groups }, later.world, later.told⟩
    else
      let later := reportGroups selector rest world told
      ⟨{ later.value with deselected := later.value.deselected + 1 }, later.world, later.told⟩

/-- A whole session with its reporter. -/
def reportSession (suite : Suite) (selector : TagSelector) (world : World σ) (told : ρ) :
    Reported Summary σ ρ :=
  let result := reportGroups invoker settings reporter selector suite.groups world told
  ⟨result.value, result.world, reporter.hear (.sessionFinished result.value) result.told⟩

/-! ## The reporter changes nothing -/

theorem reportFailures_eq (run : Nat) (command : String) (ordinal : Nat) (checks : List Check)
    (told : ρ) :
    reportFailures reporter run command ordinal checks told =
      reporter.tell (failureEvents run command ordinal checks) told := by
  induction checks generalizing ordinal told with
  | nil => rfl
  | cons check rest ih =>
      simp only [reportFailures, failureEvents]
      cases check.passed with
      | true => exact ih (ordinal + 1) told
      | false => exact ih (ordinal + 1) _

theorem reportCases_eq (index : Nat) (run : TestRun) (ordinal : Nat) (tally : Tally)
    (cases : List TestCase) (world : World σ) (told : ρ) :
    reportCases invoker settings reporter index run ordinal tally cases world told =
      let part := runCases invoker settings index run ordinal tally cases world
      ⟨part.tally, part.world, reporter.tell part.events told⟩ := by
  induction cases generalizing ordinal tally world told with
  | nil => rfl
  | cons case rest ih =>
      simp only [reportCases, runCases, ih, reportFailures_eq, Reporter.tell_append,
        Reporter.tell_map_invoke]

theorem reportOne_eq (index : Nat) (run : TestRun) (tally : Tally) (world : World σ)
    (told : ρ) :
    reportOne invoker settings reporter index run tally world told =
      let part := runOne invoker settings index run tally world
      ⟨part.tally, part.world, reporter.tell part.events told⟩ := by
  unfold reportOne runOne
  cases run.compilation with
  | none => exact reportCases_eq invoker settings reporter index run 0 tally run.cases world told
  | some compilation =>
      simp only [reportFailures_eq, reportCases_eq]
      cases (compileRun invoker settings run compilation world).1.ready with
      | true => simp
      | false => simp

theorem reportRuns_eq (index : Nat) (tally : Tally) (runs : List TestRun) (world : World σ)
    (told : ρ) :
    reportRuns invoker settings reporter index tally runs world told =
      let part := runRuns invoker settings index tally runs world
      ⟨part.tally, part.world, reporter.tell part.events told⟩ := by
  induction runs generalizing index tally world told with
  | nil => rfl
  | cons run rest ih =>
      simp only [reportRuns, runRuns, reportOne_eq, ih, Reporter.tell_append]

theorem reportGroup_eq (group : Group) (world : World σ) (told : ρ) :
    reportGroup invoker settings reporter group world told =
      let result := runGroup invoker settings group world
      ⟨(result.tally, result.decision), result.world, reporter.tell result.events told⟩ := by
  simp only [reportGroup, runGroup, reportRuns_eq, Reporter.tell_append, List.cons_append,
    Reporter.tell_notify_cons, Reporter.tell_nil]

theorem reportGroups_eq (selector : TagSelector) (groups : List Group) (world : World σ)
    (told : ρ) :
    reportGroups invoker settings reporter selector groups world told =
      let result := runGroups invoker settings selector groups world
      ⟨result.summary, result.world, reporter.tell result.events told⟩ := by
  induction groups generalizing world told with
  | nil => rfl
  | cons group rest ih =>
      simp only [reportGroups, runGroups]
      by_cases hselects : selector.selects group
      · simp only [hselects, if_true, reportGroup_eq]
        by_cases habort : (runGroup invoker settings group world).decision.isAbort
        · simp only [habort, if_true]
        · simp only [habort, Bool.false_eq_true, if_false, ih, Reporter.tell_append]
      · simp only [hselects, Bool.false_eq_true, if_false, ih]

/-- A session does the same with every reporter, and every reporter hears the notices of
the trace. -/
theorem reportSession_eq (suite : Suite) (selector : TagSelector) (world : World σ)
    (told : ρ) :
    reportSession invoker settings reporter suite selector world told =
      let result := runSession invoker settings suite selector world
      ⟨result.summary, result.world, reporter.tell result.events told⟩ := by
  simp only [reportSession, runSession, reportGroups_eq, Reporter.tell_append,
    Reporter.tell_notify_cons, Reporter.tell_nil]

end

/-! ## Consoles -/

/-- A notice and what was done for it. -/
structure Displayed where
  notice : Notice
  operations : List Operation

/-- A console keeps what its writer did, notice by notice. -/
def Console.reporter (console : Console) : Reporter (List Displayed) where
  hear notice shown := shown ++ [⟨notice, console.performed notice⟩]

theorem Console.reporter_tell (console : Console) (events : List Event)
    (shown : List Displayed) :
    console.reporter.tell events shown =
      shown ++ (notices events).map fun notice => ⟨notice, console.performed notice⟩ := by
  unfold Reporter.tell
  generalize notices events = heard
  induction heard generalizing shown with
  | nil => simp
  | cons notice rest ih =>
      rw [List.foldl_cons, ih]
      simp [Console.reporter]

/-- A session on any console, with any writer, against the same session on a plain
console without limits: the summary, the world with the invocations that the invoker
keeps in it, and the notices are the same, and they are those of `runSession`.  Of each
notice the text that the writer accepts is the beginning of the text that the plain one
accepts, and everything else about it is as `Console.Displays` says. -/
theorem reportSession_on_console {σ : Type} (invoker : Invoker σ) (settings : Settings)
    (console : Console) (suite : Suite) (selector : TagSelector) (world : World σ) :
    let session := fun console : Console =>
      reportSession invoker.keeping settings console.reporter suite selector
        (world.withCalls []) []
    let shown := session console
    let plain := session .plain
    let result := runSession invoker.keeping settings suite selector (world.withCalls [])
    (shown.value = plain.value ∧ plain.value = result.summary) ∧
      (shown.world = plain.world ∧ plain.world = result.world) ∧
      (shown.told.map Displayed.notice = plain.told.map Displayed.notice ∧
        plain.told.map Displayed.notice = notices result.events) ∧
      shown.told.map (fun displayed => acceptedText displayed.operations) =
        plain.told.map (fun displayed => console.within (acceptedText displayed.operations)) ∧
      ∀ displayed ∈ shown.told, console.Displays displayed.notice displayed.operations := by
  simp only [reportSession_eq, Console.reporter_tell, List.nil_append, List.map_map,
    Function.comp_def, List.map_id']
  refine ⟨⟨trivial, trivial⟩, ⟨trivial, trivial⟩, ⟨trivial, trivial⟩, ?_, ?_⟩
  · refine List.map_congr_left ?_
    intro notice _
    rw [(console.displays_performed notice).text,
      (Console.plain.displays_performed notice).text]
    rfl
  · intro displayed hdisplayed
    obtain ⟨notice, -, rfl⟩ := List.mem_map.1 hdisplayed
    exact console.displays_performed notice

end Conformance
