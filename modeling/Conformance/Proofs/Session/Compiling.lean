import Conformance.Proofs.Session.Assembly
import Conformance.Proofs.Session.Verdicts

/-!
# Verdicts of a compilation

A compiler that ended by itself is judged by its exit code: zero passes, or anything else where
failure is asked for.  Only zero without such a request leaves an executable that may be run,
and only then assembly is compared, with what the compiler has left.  A compiler that was not
launched or did not end by itself fails whatever is asked for.  The assembly artifact is
discarded in each of these cases, behind the comparison.
-/

namespace Conformance

namespace FileTree

variable {tree : FileTree} {place : Location} {p : Path} {content : Bytes} {executable : Bool}

theorem exists?_eq_true :
    tree.exists? p = true ↔ ∃ place node, tree.find p = .ok (place, node) := by
  unfold exists?
  cases hfind : tree.find p with
  | error cause => simp
  | ok found =>
      obtain ⟨place, node⟩ := found
      simp

/-- Where a file was removed there is nothing, not even a directory. -/
theorem exists?_discard (hfind : tree.find p = .ok (place, .file content executable))
    (hopen : tree.isOpen place = true) : (discard tree p).exists? p = false := by
  rw [Bool.eq_false_iff, Ne, exists?_eq_true, discard_of_find hfind hopen]
  intro hfound
  obtain ⟨other, node, hlater⟩ := hfound
  obtain ⟨_, hwalk⟩ := site_eq_ok.mp (find_eq_ok.mp hfind).1
  obtain ⟨_, herased⟩ := site_eq_ok.mp (find_eq_ok.mp hlater).1
  have hdirectory : tree.get? place ≠ some .directory := by simp [get?_of_find hfind]
  cases walk_erase (ne_nil_of_get? hdirectory) hwalk herased

end FileTree

namespace CompileRecord

/-- The compiler ended by itself, with code zero or, where failure is asked for, with another
code or none. -/
def MeetsRequest (record : CompileRecord) : Prop :=
  ∃ outcome, record.reply.ended? = some outcome ∧
    (outcome.exitCode = some 0 ↔ record.compilation.expectFailure = false)

section

variable {record : CompileRecord} {outcome : Outcome}

theorem isClean_iff :
    record.isClean = true ↔
      ∃ outcome, record.reply.ended? = some outcome ∧ outcome.exitCode = some 0 ∧
        record.compilation.expectFailure = false := by
  obtain ⟨compilation, reply, files⟩ := record
  cases reply with
  | error cause => simp [isClean, Reply.ended?]
  | ok outcome =>
      cases htimeout : outcome.timedOut with
      | true => simp [isClean, Reply.ended?, htimeout]
      | false => simp [isClean, Reply.ended?, htimeout]

theorem compileChecks_of_not_ended (settings : Settings) (hended : record.reply.ended? = none) :
    ∃ failure,
      (compileChecks settings record.compilation record.files record.reply).1 =
        [.fail .compile failure] := by
  cases Reply.ended?_eq_none.mp hended with
  | inl hlost =>
      obtain ⟨cause, hreply⟩ := hlost
      rw [hreply]
      exact ⟨_, rfl⟩
  | inr hslow =>
      obtain ⟨outcome, hreply, htimeout⟩ := hslow
      refine ⟨.plain (timeoutMessage "Compilation" settings.timeout), ?_⟩
      simp [hreply, compileChecks, htimeout]

theorem compileChecks_of_ended (settings : Settings) (hended : record.reply.ended? = some outcome) :
    compileChecks settings record.compilation record.files record.reply =
      classifyCompilation settings record.compilation record.files outcome := by
  obtain ⟨hreply, htimeout⟩ := Reply.ended?_eq_some.mp hended
  simp [compileChecks, hreply, htimeout]

/-- The exit code is checked against what is asked for. -/
theorem classifyCompilation_head (settings : Settings) (compilation : Compilation)
    (files : FileTree) (outcome : Outcome) :
    ∃ first ∈ (classifyCompilation settings compilation files outcome).1.head?,
      (first.passed = true ↔ (outcome.exitCode = some 0 ↔ compilation.expectFailure = false)) := by
  unfold classifyCompilation
  by_cases hzero : outcome.exitCode = some 0 <;> cases compilation.expectFailure <;>
    simp [hzero, Check.passed, Check.pass, Check.fail]

/-- The check of the compiler comes first, and passes if it has done what was asked for. -/
theorem compileChecks_head (settings : Settings) (record : CompileRecord) :
    ∃ first ∈ (compileChecks settings record.compilation record.files record.reply).1.head?,
      (first.passed = true ↔ record.MeetsRequest) := by
  cases hended : record.reply.ended? with
  | none =>
      obtain ⟨failure, hchecks⟩ := compileChecks_of_not_ended settings hended
      rw [hchecks]
      exact ⟨_, rfl, by simp [MeetsRequest, hended, Check.passed, Check.fail]⟩
  | some outcome =>
      obtain ⟨first, hfirst, hpassed⟩ :=
        classifyCompilation_head settings record.compilation record.files outcome
      rw [compileChecks_of_ended settings hended]
      exact ⟨first, hfirst, by simp [MeetsRequest, hended, hpassed]⟩

/-- Behind the check of the compiler there is the comparison of a clean compilation, if assembly
is expected of it, and nothing else. -/
theorem compileChecks_eq (settings : Settings) (record : CompileRecord) :
    ∃ first : Check,
      (compileChecks settings record.compilation record.files record.reply).1 =
        first :: (if record.isClean then record.comparisons settings else []) ∧
      first.kind = .compile ∧ (first.passed = true ↔ record.MeetsRequest) := by
  obtain ⟨first, hfirst, hpassed⟩ := record.compileChecks_head settings
  rcases record.compileChecks_cases settings with
    ⟨hclean, hchecks⟩ | ⟨hclean, failure, hchecks, _⟩
  · rw [hchecks] at hfirst
    obtain rfl : Check.pass .compile = first := Option.some.inj hfirst
    exact ⟨_, by rw [hchecks, hclean, if_pos rfl], rfl, hpassed⟩
  · rw [hchecks] at hfirst
    obtain rfl : ⟨.compile, failure⟩ = first := Option.some.inj hfirst
    exact ⟨_, by simp [hchecks, hclean], rfl, hpassed⟩

theorem map_kind_comparisons (settings : Settings) (record : CompileRecord) :
    (record.comparisons settings).map (·.kind) =
      if record.compilation.expectedAssembly.isSome then [.assembly] else [] := by
  unfold comparisons
  cases record.compilation.expectedAssembly with
  | none => rfl
  | some expected => simp [compareAssembly_kind]

theorem comparison_passed {settings : Settings} {check : Check}
    (hcheck : check ∈ record.comparisons settings) :
    check.passed = true ↔ ∃ expected content,
      record.compilation.expectedAssembly = some expected ∧
      record.files.read (settings.resolve expected) = .ok content ∧
      record.files.read settings.assembly = .ok content := by
  obtain ⟨expected, hexpected, hcompared⟩ := List.mem_map.mp hcheck
  rw [Option.mem_toList] at hexpected
  rw [← hcompared, compareAssembly_passed, hexpected]
  constructor
  · intro hequal
    obtain ⟨content, hwanted, hemitted⟩ := hequal
    exact ⟨expected, content, rfl, hwanted, hemitted⟩
  · intro hequal
    obtain ⟨other, content, hother, hwanted, hemitted⟩ := hequal
    have hsame : expected = other := Option.some.inj hother
    rw [hsame]
    exact ⟨content, hwanted, hemitted⟩

end

end CompileRecord

section

variable {σ : Type} (invoker : Invoker σ) (settings : Settings)

/-- A compilation invokes the compiler once.  Its first check passes if the compiler was launched,
ended by itself, and had the code zero exactly if failure is not asked for; the executable may be
run if it had the code zero and failure is not asked for.  A second check there is only then, and
only if assembly is expected: it passes if the expected file and the artifact can both be read
as the compiler has left them, and are the same.  Behind all that the artifact is gone if it was
a file that can be removed, and everything else is as the compiler has left it. -/
theorem compileRun_verdicts (run : TestRun) (compilation : Compilation) (world : World σ) :
    let call := compilerCall settings run compilation
    let answer := invoker.invoke call world
    let left := answer.2.files
    let result := compileRun invoker settings run compilation world
    result.1.invocation = call ∧
      (compileRun invoker.keeping settings run compilation (world.withCalls [])).2 =
        result.2.withCalls [call] ∧
      (result.1.ready = true ↔
        ∃ outcome, answer.1.ended? = some outcome ∧ outcome.exitCode = some 0 ∧
          compilation.expectFailure = false) ∧
      (∃ first rest, result.1.report.checks = first :: rest ∧
        first.kind = .compile ∧
        (first.passed = true ↔
          ∃ outcome, answer.1.ended? = some outcome ∧
            (outcome.exitCode = some 0 ↔ compilation.expectFailure = false)) ∧
        rest.map (·.kind) =
          (if result.1.ready && compilation.expectedAssembly.isSome then [.assembly] else []) ∧
        ∀ second ∈ rest,
          (second.passed = true ↔ ∃ expected content,
            compilation.expectedAssembly = some expected ∧
            left.read (settings.resolve expected) = .ok content ∧
            left.read settings.assembly = .ok content)) ∧
      ∀ place content executable,
        left.find settings.assembly = .ok (place, .file content executable) →
          (left.Removable settings.assembly →
            result.2.files.exists? settings.assembly = false) ∧
          (¬ left.Removable settings.assembly → result.2.files = left) ∧
          ∀ other, other ≠ place → result.2.files.get? other = left.get? other := by
  intro call answer left result
  have hresult := compileRun_eq_recordCompilation invoker settings run compilation world
  let record := (recordCompilation invoker settings run compilation world).1
  have hready : result.1.ready = record.isClean := by
    simp only [result, hresult]
    rfl
  refine ⟨rfl, rfl, ?ready, ?checks, ?discarded⟩
  case ready =>
    rw [hready]
    exact CompileRecord.isClean_iff
  case checks =>
    obtain ⟨first, hchecks, hkind, hpassed⟩ := record.compileChecks_eq settings
    refine ⟨first, _, hchecks, hkind, hpassed, ?_, ?_⟩
    · rw [hready]
      cases record.isClean with
      | true =>
          simp only [if_true, Bool.true_and]
          exact record.map_kind_comparisons settings
      | false => rfl
    · intro second hsecond
      split at hsecond
      · exact CompileRecord.comparison_passed hsecond
      · cases hsecond
  case discarded =>
    intro place content executable hfind
    have hopen := FileTree.removable_of_find hfind
    refine ⟨?gone, FileTree.discard_of_not_removable, ?others⟩
    case gone =>
      intro hremovable
      exact FileTree.exists?_discard hfind (hopen.mp hremovable)
    case others =>
      intro other hother
      change (discard left settings.assembly).get? other = left.get? other
      by_cases hremovable : left.Removable settings.assembly
      · rw [FileTree.discard_of_find hfind (hopen.mp hremovable)]
        exact FileTree.get?_erase_of_ne hother
      · rw [FileTree.discard_of_not_removable hremovable]

end

/-- A compiler that leaves the assembly that is expected of it: both checks pass, and the
artifact is gone. -/
theorem compileRun_verdicts_assemblyRun :
    let world : World (List ScriptedReply) :=
      ⟨assemblyTree [], [⟨[⟨⟨"out.s"⟩, staleAssembly⟩], cleanExit⟩]⟩
    let result := compileRun .scripted .default assemblyRun assemblyRecord.compilation world
    (∃ first second, result.1.report.checks = [first, second] ∧
      first.passed = true ∧ second.passed = true) ∧
      result.1.ready = true ∧ result.2.files.exists? ⟨"out.s"⟩ = false := by
  intro world result
  obtain ⟨_, _, hclean, hverdicts, hdiscarded⟩ :=
    compileRun_verdicts .scripted .default assemblyRun assemblyRecord.compilation world
  obtain ⟨first, rest, hchecks, _, hfirst, hkinds, hrest⟩ := hverdicts
  have hended : cleanExit.ended? = some ⟨some 0, [], false⟩ := rfl
  have hready : result.1.ready = true := hclean.2 ⟨_, hended, rfl, rfl⟩
  have hpassed : first.passed = true := hfirst.2 ⟨_, hended, by simp [assemblyRecord]⟩
  have hone : rest.map (·.kind) = [.assembly] := by
    rw [hkinds]
    decide +kernel
  obtain ⟨second, rfl, _⟩ := List.map_eq_singleton_iff.mp hone
  have hcompared : second.passed = true :=
    (hrest second (List.mem_singleton.mpr rfl)).2
      ⟨⟨"e.s"⟩, bytesOfText "ret", rfl, by decide +kernel, by decide +kernel⟩
  have hfound : (Invoker.scripted.invoke (compilerCall .default assemblyRun
      assemblyRecord.compilation) world).2.files.find ⟨"out.s"⟩ =
      .ok (["w", "out.s"], .file (bytesOfText "ret") false) := by
    decide +kernel
  have hremovable : (Invoker.scripted.invoke (compilerCall .default assemblyRun
      assemblyRecord.compilation) world).2.files.Removable ⟨"out.s"⟩ := by
    decide +kernel
  exact ⟨⟨first, second, hchecks, hpassed, hcompared⟩, hready,
    (hdiscarded _ _ _ hfound).1 hremovable⟩

end Conformance
