import Conformance.Proofs.Session.Observed
import Conformance.Proofs.Session.Trace

/-!
# Verdicts of an execution

An execution that ended by itself answers each expectation of its case, unless the expected
output cannot be read.  An expectation passes if there is an answer and the answer is the one
the case asks for; so asking for the opposite turns every verdict that rests on an answer, and
leaves every other one a failure.
-/

namespace Conformance

/-- The outcome of a child that was launched and ended by itself. -/
def Reply.ended? : Reply → Option Outcome
  | .error _ => none
  | .ok outcome => if outcome.timedOut then none else some outcome

theorem Reply.ended?_eq_some {reply : Reply} {outcome : Outcome} :
    reply.ended? = some outcome ↔ reply = .ok outcome ∧ outcome.timedOut = false := by
  cases reply with
  | error cause => simp [ended?]
  | ok other =>
      rw [ended?]
      constructor
      · intro hended
        split at hended
        case isTrue => cases hended
        case isFalse htimeout =>
          have hsame : other = outcome := Option.some.inj hended
          rw [hsame] at htimeout ⊢
          exact ⟨rfl, Bool.eq_false_iff.mpr htimeout⟩
      · intro hended
        obtain ⟨hreply, htimeout⟩ := hended
        have hsame : other = outcome := Except.ok.inj hreply
        simp [hsame, htimeout]

theorem Reply.ended?_eq_none {reply : Reply} :
    reply.ended? = none ↔
      (∃ cause, reply = .error cause) ∨
        ∃ outcome, reply = .ok outcome ∧ outcome.timedOut = true := by
  cases reply with
  | error cause => simp [ended?]
  | ok outcome => simp [ended?]

/-- The case with the same expectations that asks for the opposite. -/
def TestCase.negated (case : TestCase) : TestCase :=
  { case with expectFailure := !case.expectFailure }

section

variable {settings : Settings} {case : TestCase} {files : FileTree} {reply : Reply}
  {outcome : Outcome} {expected : Path} {kind : CheckKind} {met : Prop}

/-- What an execution answers to an expectation: `met` says whether it is met.  There is no
answer if the child did not end by itself, or if the expected output is not a readable text. -/
inductive TestCase.Answers (settings : Settings) (case : TestCase) (files : FileTree)
    (reply : Reply) : CheckKind → Prop → Prop
  | returnCode {outcome : Outcome} {code : Int} (hended : reply.ended? = some outcome)
      (hcode : case.expectedCode = some code) :
      Answers settings case files reply .returnCode (outcome.exitCode = some code)
  | output {outcome : Outcome} {expected : Path} {text : String}
      (hended : reply.ended? = some outcome) (hexpected : case.expectedOutput = some expected)
      (htext : files.readText (settings.resolve expected) = .ok text) :
      Answers settings case files reply .output (textLines text <+: outcome.stdout)

/-- Why an expectation may have no answer. -/
def TestCase.Unanswered (settings : Settings) (case : TestCase) (files : FileTree)
    (reply : Reply) (kind : CheckKind) : Prop :=
  reply.ended? = none ∨
    kind = .output ∧ ∃ expected cause, case.expectedOutput = some expected ∧
      files.readText (settings.resolve expected) = .error cause

/-- The output is not the one that a case asks for. -/
structure TestCase.Mismatch (settings : Settings) (case : TestCase) (files : FileTree)
    (reply : Reply) (expected : Path) (outcome : Outcome) : Prop where
  ended : reply.ended? = some outcome
  expectedOutput : case.expectedOutput = some expected
  wanted : case.expectFailure = false
  differs : ∃ text, files.readText (settings.resolve expected) = .ok text ∧
    ¬ textLines text <+: outcome.stdout

/-! ## Single checks -/

theorem prefixMatches_iff (expected captured : List String) :
    prefixMatches expected captured = true ↔ expected <+: captured := by
  induction expected generalizing captured with
  | nil => simp [prefixMatches]
  | cons line expected ih =>
      cases captured with
      | nil => simp [prefixMatches]
      | cons other captured =>
          rw [List.cons_prefix_cons, ← ih]
          simp [prefixMatches]

theorem checkReturnCode_passed (expected : Int) (expectFailure : Bool) (outcome : Outcome) :
    (checkReturnCode expected expectFailure outcome).passed = true ↔
      (outcome.exitCode = some expected ↔ expectFailure = false) := by
  unfold checkReturnCode
  by_cases hcode : outcome.exitCode = some expected
  · cases expectFailure with
    | false => simp [hcode, Check.passed, Check.pass]
    | true => simp [hcode, Check.passed, Check.fail]
  · cases expectFailure with
    | false => simp [hcode, Check.passed, Check.fail]
    | true => simp [hcode, Check.passed, Check.pass]

theorem checkOutput_passed (files : FileTree) (expected : Path) (expectFailure : Bool)
    (outcome : Outcome) :
    (checkOutput files expected expectFailure outcome).1.passed = true ↔
      ∃ text, files.readText expected = .ok text ∧
        (textLines text <+: outcome.stdout ↔ expectFailure = false) := by
  unfold checkOutput
  cases files.readText expected with
  | error cause => simp [Check.passed, Check.fail]
  | ok text =>
      simp only [← prefixMatches_iff, Except.ok.injEq, exists_eq_left']
      cases prefixMatches (textLines text) outcome.stdout <;> cases expectFailure <;>
        simp [Check.passed, Check.pass, Check.fail]

theorem checkOutput_mismatch (files : FileTree) (expected : Path) (expectFailure : Bool)
    (outcome : Outcome)
    (hkept : (checkOutput files expected expectFailure outcome).2 ≠ files ∨
      observedFiles [(checkOutput files expected expectFailure outcome).1] ≠ []) :
    expectFailure = false ∧
      ∃ text, files.readText expected = .ok text ∧ ¬ textLines text <+: outcome.stdout := by
  unfold checkOutput at hkept
  cases htext : files.readText expected with
  | error cause => simp [htext, observedFiles, Check.fail, Failure.plain] at hkept
  | ok text =>
      simp only [htext, ← prefixMatches_iff] at hkept ⊢
      cases expectFailure with
      | true =>
          cases hmatch : prefixMatches (textLines text) outcome.stdout with
          | false => simp [hmatch, observedFiles, Check.pass] at hkept
          | true => simp [hmatch, observedFiles, Check.fail, Failure.plain] at hkept
      | false =>
          cases hmatch : prefixMatches (textLines text) outcome.stdout with
          | true => simp [hmatch, observedFiles, Check.pass] at hkept
          | false =>
              have hunlike : ¬ prefixMatches (textLines text) outcome.stdout = true := by
                simp [hmatch]
              exact ⟨rfl, text, rfl, hunlike⟩

theorem failEvery_passed (case : TestCase) (message : String) :
    ∀ check ∈ failEvery case message, check.passed = false := by
  intro check hcheck
  rw [failEvery_eq_map] at hcheck
  obtain ⟨kind, _, hfail⟩ := List.mem_map.mp hcheck
  rw [← hfail]
  rfl

/-! ## Answers -/

theorem executeChecks_of_not_ended (settings : Settings) (case : TestCase) (files : FileTree)
    (run : TestRun) (hended : reply.ended? = none) :
    ∃ message,
      executeChecks settings run case files reply = (failEvery case message, files) := by
  cases Reply.ended?_eq_none.mp hended with
  | inl hlost =>
      obtain ⟨cause, hreply⟩ := hlost
      rw [hreply]
      exact ⟨_, rfl⟩
  | inr hslow =>
      obtain ⟨outcome, hreply, htimeout⟩ := hslow
      refine ⟨timeoutMessage "Execution" settings.timeout, ?_⟩
      simp [hreply, executeChecks, htimeout]

theorem executeChecks_of_ended (run : TestRun) (hended : reply.ended? = some outcome) :
    executeChecks settings run case files reply = judgeOutcome settings case files outcome := by
  obtain ⟨rfl, htimeout⟩ := Reply.ended?_eq_some.mp hended
  simp [executeChecks, htimeout]

/-- Each check of an outcome is about an expectation of the case. -/
theorem mem_judgeOutcome {check : Check}
    (hcheck : check ∈ (judgeOutcome settings case files outcome).1) :
    (∃ code, case.expectedCode = some code ∧
        check = checkReturnCode code case.expectFailure outcome) ∨
      ∃ expected, case.expectedOutput = some expected ∧
        check =
          (checkOutput files (settings.resolve expected) case.expectFailure outcome).1 := by
  rw [judgeOutcome_checks, List.mem_append, List.mem_map, List.mem_map] at hcheck
  cases hcheck with
  | inl hreturn =>
      obtain ⟨code, hcode, hsame⟩ := hreturn
      exact .inl ⟨code, Option.mem_toList.mp hcode, hsame.symm⟩
  | inr houtput =>
      obtain ⟨expected, hexpected, hsame⟩ := houtput
      exact .inr ⟨expected, Option.mem_toList.mp hexpected, hsame.symm⟩

namespace TestCase

theorem Answers.unique {other : Prop} (hmet : case.Answers settings files reply kind met)
    (hother : case.Answers settings files reply kind other) : met = other := by
  cases hmet with
  | returnCode hended hcode =>
      cases hother with
      | returnCode hended' hcode' =>
          rw [Option.some.inj (hended.symm.trans hended'),
            Option.some.inj (hcode.symm.trans hcode')]
  | output hended hexpected htext =>
      cases hother with
      | output hended' hexpected' htext' =>
          obtain rfl := Option.some.inj (hexpected.symm.trans hexpected')
          rw [Option.some.inj (hended.symm.trans hended'),
            Except.ok.inj (htext.symm.trans htext')]

theorem Answers.exists_answers_iff (hmet : case.Answers settings files reply kind met)
    {Holds : Prop → Prop} :
    (∃ other, case.Answers settings files reply kind other ∧ Holds other) ↔ Holds met := by
  constructor
  · intro hanswered
    obtain ⟨other, hother, hholds⟩ := hanswered
    rwa [hmet.unique hother]
  · intro hholds
    exact ⟨met, hmet, hholds⟩

/-- What an execution answers has nothing to do with what is asked for. -/
theorem Answers.negated (hmet : case.Answers settings files reply kind met) :
    case.negated.Answers settings files reply kind met := by
  cases hmet with
  | returnCode hended hcode => exact .returnCode hended hcode
  | output hended hexpected htext => exact .output hended hexpected htext

theorem Unanswered.not_answers (hnone : case.Unanswered settings files reply kind) :
    ¬ case.Answers settings files reply kind met := by
  intro hmet
  cases hmet with
  | returnCode hended _ =>
      rcases hnone with hother | ⟨hkind, _⟩
      · cases hended.symm.trans hother
      · cases hkind
  | output hended hexpected htext =>
      rcases hnone with hother | ⟨_, expected, cause, hother, hcause⟩
      · cases hended.symm.trans hother
      · obtain rfl := Option.some.inj (hexpected.symm.trans hother)
        cases htext.symm.trans hcause

theorem answers_of_not_unanswered (hkind : kind ∈ case.kinds)
    (hsome : ¬ case.Unanswered settings files reply kind) :
    ∃ met, case.Answers settings files reply kind met := by
  obtain ⟨hended, hreadable⟩ := not_or.mp hsome
  obtain ⟨outcome, hended⟩ := Option.ne_none_iff_exists'.mp hended
  rcases List.mem_append.mp hkind with hcode | houtput
  · obtain ⟨hisSome, rfl⟩ : case.expectedCode.isSome = true ∧ kind = .returnCode := by
      simpa using hcode
    obtain ⟨code, hcode⟩ := Option.isSome_iff_exists.mp hisSome
    exact ⟨_, .returnCode hended hcode⟩
  · obtain ⟨hisSome, rfl⟩ : case.expectedOutput.isSome = true ∧ kind = .output := by
      simpa using houtput
    obtain ⟨expected, hexpected⟩ := Option.isSome_iff_exists.mp hisSome
    cases htext : files.readText (settings.resolve expected) with
    | error cause => exact absurd ⟨rfl, expected, cause, hexpected, htext⟩ hreadable
    | ok text => exact ⟨_, .output hended hexpected htext⟩

end TestCase

/-- An expectation passes if its answer is the one the case asks for. -/
theorem executeChecks_passed_iff (run : TestRun) {check : Check}
    (hcheck : check ∈ (executeChecks settings run case files reply).1) :
    check.passed = true ↔
      ∃ met, case.Answers settings files reply check.kind met ∧
        (met ↔ case.expectFailure = false) := by
  cases hended : reply.ended? with
  | none =>
      obtain ⟨message, hchecks⟩ :=
        executeChecks_of_not_ended settings case files run hended
      rw [hchecks] at hcheck
      simp only [failEvery_passed case message check hcheck, Bool.false_eq_true, false_iff]
      intro hanswered
      obtain ⟨met, hmet, _⟩ := hanswered
      exact TestCase.Unanswered.not_answers (.inl hended) hmet
  | some outcome =>
      rw [executeChecks_of_ended run hended] at hcheck
      cases mem_judgeOutcome hcheck with
      | inl hreturn =>
          obtain ⟨code, hcode, hcheck⟩ := hreturn
          have hmet :
              case.Answers settings files reply .returnCode (outcome.exitCode = some code) :=
            .returnCode hended hcode
          rw [hcheck, checkReturnCode_passed, checkReturnCode_kind]
          constructor
          · intro hpassed
            exact ⟨_, hmet, hpassed⟩
          · intro hanswered
            obtain ⟨other, hother, hpassed⟩ := hanswered
            rwa [hmet.unique hother]
      | inr houtput =>
          obtain ⟨expected, hexpected, hcheck⟩ := houtput
          rw [hcheck, checkOutput_passed, checkOutput_kind]
          constructor
          · intro hread
            obtain ⟨text, htext, hpassed⟩ := hread
            exact ⟨_, .output hended hexpected htext, hpassed⟩
          · intro hanswered
            obtain ⟨met, hmet, hpassed⟩ := hanswered
            cases hmet with
            | @output other path text hother hpath htext =>
                have hsame : outcome = other := Option.some.inj (hended.symm.trans hother)
                have hplace : expected = path := Option.some.inj (hexpected.symm.trans hpath)
                rw [hsame, hplace]
                exact ⟨text, htext, hpassed⟩

/-! ## The opposite case -/

/-- How a check and that of the opposite case go together: both fail for want of an answer, or
one passes and the other fails. -/
structure Opposed (unanswered : Prop) (check other : Check) : Prop where
  kind_eq : check.kind = other.kind
  fail : unanswered → check.passed = false ∧ other.passed = false
  turn : ¬ unanswered → other.passed = !check.passed

theorem executeChecks_opposed (run : TestRun) {check other : Check}
    (hcheck : check ∈ (executeChecks settings run case files reply).1)
    (hother : other ∈ (executeChecks settings run case.negated files reply).1)
    (hkind : check.kind = other.kind) :
    Opposed (case.Unanswered settings files reply check.kind) check other := by
  have hpassed := executeChecks_passed_iff run hcheck
  have hpassed' := executeChecks_passed_iff run hother
  rw [← hkind] at hpassed'
  refine ⟨hkind, ?unanswered, ?answered⟩
  case unanswered =>
    intro hnone
    have hnone' : case.negated.Unanswered settings files reply check.kind := hnone
    constructor
    · apply Bool.eq_false_iff.mpr
      rw [Ne, hpassed]
      intro hanswered
      obtain ⟨met, hmet, _⟩ := hanswered
      exact hnone.not_answers hmet
    · apply Bool.eq_false_iff.mpr
      rw [Ne, hpassed']
      intro hanswered
      obtain ⟨met, hmet, _⟩ := hanswered
      exact hnone'.not_answers hmet
  case answered =>
    intro hsome
    have hmem : check.kind ∈ case.kinds := by
      rw [← executeChecks_kinds settings run case files reply]
      exact List.mem_map_of_mem hcheck
    obtain ⟨met, hmet⟩ := TestCase.answers_of_not_unanswered hmem hsome
    have hiff : check.passed = true ↔ (met ↔ case.expectFailure = false) := by
      rw [hpassed, hmet.exists_answers_iff]
    have hiff' : other.passed = true ↔ (met ↔ (!case.expectFailure) = false) := by
      rw [hpassed', hmet.negated.exists_answers_iff]
      rfl
    have hturn : other.passed = true ↔ ¬ check.passed = true := by
      rw [hiff, hiff']
      by_cases hyes : met
      · simp [hyes]
      · simp [hyes]
    cases hturned : check.passed with
    | false => simpa [hturned] using hturn
    | true => simpa [hturned] using hturn

theorem forall₂_of_kinds {R : Check → Check → Prop} {first second : List Check}
    (hkinds : first.map (·.kind) = second.map (·.kind))
    (hrel : ∀ check ∈ first, ∀ other ∈ second, check.kind = other.kind → R check other) :
    List.Forall₂ R first second := by
  induction first generalizing second with
  | nil =>
      cases second with
      | nil => exact .nil
      | cons => simp at hkinds
  | cons check first ih =>
      cases second with
      | nil => simp at hkinds
      | cons other second =>
          obtain ⟨hkind, hrest⟩ := List.cons.inj hkinds
          have hhead : R check other :=
            hrel check (List.mem_cons_self ..) other (List.mem_cons_self ..) hkind
          refine .cons hhead (ih hrest ?_)
          intro check hcheck other hother
          exact hrel _ (List.mem_cons_of_mem _ hcheck) _ (List.mem_cons_of_mem _ hother)

/-! ## Kept output -/

/-- Files change behind an execution, and a check names a file, only for output that is not
the one that is asked for. -/
theorem executeChecks_mismatch (run : TestRun)
    (hkept : (executeChecks settings run case files reply).2 ≠ files ∨
      observedFiles (executeChecks settings run case files reply).1 ≠ []) :
    ∃ expected outcome, case.Mismatch settings files reply expected outcome := by
  cases hended : reply.ended? with
  | none =>
      obtain ⟨message, hchecks⟩ :=
        executeChecks_of_not_ended settings case files run hended
      simp [hchecks, observedFiles_failEvery] at hkept
  | some outcome =>
      rw [executeChecks_of_ended run hended] at hkept
      cases hexpected : case.expectedOutput with
      | none =>
          obtain ⟨hnone, hfiles⟩ := judgeOutcome_of_noOutput settings hexpected files outcome
          simp [hnone, hfiles] at hkept
      | some expected =>
          obtain ⟨earlier, hearlier, hjudge⟩ :=
            judgeOutcome_of_expectedOutput settings hexpected files outcome
          rw [hjudge, observedFiles_append, hearlier, List.nil_append] at hkept
          obtain ⟨hwanted, hdiffers⟩ := checkOutput_mismatch _ _ _ _ hkept
          exact ⟨expected, outcome, hended, hexpected, hwanted, hdiffers⟩

end

/-! ## Executions -/

section

variable {σ : Type} (invoker : Invoker σ) (settings : Settings) (run : TestRun) {case : TestCase}

theorem executeCase_of_hasMetric (hmetric : case.hasMetric = true) (world : World σ) :
    executeCase invoker settings run case world =
      let call := artifactCall settings run case
      let answer := invoker.invoke call world
      let judged := executeChecks settings run case answer.2.files answer.1
      (⟨some call, ⟨caseCommand run case, judged.1⟩⟩, { answer.2 with files := judged.2 }) := by
  simp only [executeCase, hmetric, if_true]
  rfl

/-- A case with an expectation invokes its artifact once, whatever comes of it, and yields a
check for each expectation, the return code before the output.  All of them fail if the child
did not end by itself.  Otherwise the return code passes if it is the expected one, and the
output if the expected output can be read and its lines are the first ones captured; or, where
failure is asked for, if they are not.  With the same outcome and files the opposite case turns
each of these verdicts, but leaves those that rest on no answer failures.  Output is kept only
when it is not the one asked for and failure is not. -/
theorem executeCase_verdicts (hmetric : case.hasMetric = true) (world : World σ) :
    let call := artifactCall settings run case
    let answer := invoker.invoke call world
    let result := executeCase invoker settings run case world
    let checks := result.1.report.checks
    result.1.invocation = some call ∧
      (executeCase invoker.keeping settings run case (world.withCalls [])).2 =
        result.2.withCalls [call] ∧
      checks.map (·.kind) = case.kinds ∧
      (answer.1.ended? = none → ∀ check ∈ checks, check.passed = false) ∧
      (∀ outcome, answer.1.ended? = some outcome → ∀ check ∈ checks,
        (∀ code, check.kind = .returnCode → case.expectedCode = some code →
          (check.passed = true ↔
            (outcome.exitCode = some code ↔ case.expectFailure = false))) ∧
        (∀ expected, check.kind = .output → case.expectedOutput = some expected →
          (check.passed = true ↔
            ∃ text, answer.2.files.readText (settings.resolve expected) = .ok text ∧
              (textLines text <+: outcome.stdout ↔ case.expectFailure = false)))) ∧
      (∀ again, (invoker.invoke call again).1 = answer.1 →
        (invoker.invoke call again).2.files = answer.2.files →
        List.Forall₂
          (fun check other =>
            Opposed (case.Unanswered settings answer.2.files answer.1 check.kind) check other)
          checks (executeCase invoker settings run case.negated again).1.report.checks) ∧
      (result.2.files ≠ answer.2.files ∨ observedFiles checks ≠ [] →
        ∃ expected outcome,
          case.Mismatch settings answer.2.files answer.1 expected outcome) := by
  intro call answer result checks
  have hresult : result =
      (⟨some call, ⟨caseCommand run case,
          (executeChecks settings run case answer.2.files answer.1).1⟩⟩,
        { answer.2 with files := (executeChecks settings run case answer.2.files answer.1).2 }) :=
    executeCase_of_hasMetric invoker settings run hmetric world
  have hchecks : checks = (executeChecks settings run case answer.2.files answer.1).1 := by
    simp only [checks, hresult]
  refine ⟨?invoked, ?once, ?kinds, ?failing, ?passing, ?opposite, ?kept⟩
  case invoked => rw [hresult]
  case once =>
    rw [executeCase_of_hasMetric invoker.keeping settings run hmetric, hresult]
    rfl
  case kinds =>
    rw [hchecks]
    exact executeChecks_kinds ..
  case failing =>
    intro hended check hcheck
    obtain ⟨message, hevery⟩ := executeChecks_of_not_ended settings case answer.2.files run hended
    rw [hchecks, hevery] at hcheck
    exact failEvery_passed case message check hcheck
  case passing =>
    intro outcome hended check hcheck
    rw [hchecks, executeChecks_of_ended run hended] at hcheck
    constructor
    · intro code hkind hcode
      cases mem_judgeOutcome hcheck with
      | inl hreturn =>
          obtain ⟨other, hother, hcheck⟩ := hreturn
          have hsame : code = other := Option.some.inj (hcode.symm.trans hother)
          rw [hcheck, hsame]
          exact checkReturnCode_passed ..
      | inr houtput =>
          obtain ⟨expected, _, hcheck⟩ := houtput
          rw [hcheck, checkOutput_kind] at hkind
          cases hkind
    · intro expected hkind hexpected
      cases mem_judgeOutcome hcheck with
      | inl hreturn =>
          obtain ⟨code, _, hcheck⟩ := hreturn
          rw [hcheck, checkReturnCode_kind] at hkind
          cases hkind
      | inr houtput =>
          obtain ⟨other, hother, hcheck⟩ := houtput
          have hsame : expected = other := Option.some.inj (hexpected.symm.trans hother)
          rw [hcheck, hsame]
          exact checkOutput_passed ..
  case opposite =>
    intro again hreply hfiles
    have hmetric' : case.negated.hasMetric = true := hmetric
    have hcall : artifactCall settings run case.negated = call := rfl
    rw [executeCase_of_hasMetric invoker settings run hmetric', hchecks]
    simp only [hcall, hreply, hfiles]
    apply forall₂_of_kinds
    · rw [executeChecks_kinds, executeChecks_kinds]
      rfl
    · intro check hcheck other hother hkind
      exact executeChecks_opposed run hcheck hother hkind
  case kept =>
    intro hkept
    rw [hchecks, hresult] at hkept
    exact executeChecks_mismatch run hkept

end

/-- A case with both expectations. -/
def exactCase : TestCase := ⟨[], some 0, some ⟨"e"⟩, false⟩

/-- The right code with the wrong output: the verdicts are turned by asking for failure, and
the output is kept for the case that does not. -/
theorem executeCase_verdicts_exactCase :
    let world : World (List ScriptedReply) := ⟨expectingTree, [⟨[], printing "1"⟩]⟩
    let checks := (executeCase .scripted .default pairedRun exactCase world).1.report.checks
    let others :=
      (executeCase .scripted .default pairedRun exactCase.negated world).1.report.checks
    checks.map (·.kind) = [.returnCode, .output] ∧
      checks.map (·.passed) = [true, false] ∧
      List.Forall₂ (fun check other => other.passed = !check.passed) checks others ∧
      ∃ expected outcome,
        exactCase.Mismatch .default expectingTree (printing "1") expected outcome := by
  intro world checks others
  obtain ⟨_, _, hkinds, _, _, hopposite, hkept⟩ :=
    executeCase_verdicts .scripted .default pairedRun (by rfl : exactCase.hasMetric = true) world
  have hanswered (kind : CheckKind) :
      ¬ exactCase.Unanswered .default expectingTree (printing "1") kind := by
    intro hunanswered
    cases hunanswered with
    | inl hended => cases hended
    | inr hunread =>
        obtain ⟨_, expected, cause, hexpected, hcause⟩ := hunread
        have hsame : ⟨"e"⟩ = expected := Option.some.inj hexpected
        have htext : expectingTree.readText (Settings.default.resolve ⟨"e"⟩) = .ok "x" := by
          decide +kernel
        rw [← hsame, htext] at hcause
        cases hcause
  refine ⟨hkinds.trans rfl, by decide +kernel, ?_, hkept (.inl (by decide +kernel))⟩
  exact (hopposite world rfl rfl).imp fun check other hopposed => hopposed.turn (hanswered _)

end Conformance
