import Conformance.Proofs.FileTree.Changes
import Conformance.Proofs.Session.CheckKinds
import Conformance.Proofs.Session.Steps

/-!
# Where compared assembly comes from

Assembly is compared as the compiler of the run leaves it, and discarded behind every
compilation, whatever its outcome.  So nothing that an earlier compiler has left is compared,
as far as it could be removed.  What is there when a compiler starts was put there by an
execution behind the last compilation, or the last compilation could not remove it, or it is
as old as the session.
-/

namespace Conformance

namespace Step

/-- The comparison of assembly behind a clean compilation for which it is expected. -/
def assemblyChecks (settings : Settings) : Step → List Check
  | .compile _ record => if record.isClean then record.comparisons settings else []
  | .execute .. => []

/-- Behind the step there is something to read at the place of the assembly artifact: an
execution has put it there, before which there was nothing, or it is what a compiler has left
and what could not be removed. -/
inductive LeavesAssembly (settings : Settings) (before : FileTree) : Step → Prop where
  | written {run : TestRun} {case : TestCase} {reply : Reply} {left : FileTree} :
      ¬ before.Readable settings.assembly →
      ((Step.execute run case reply left).settled settings).Readable settings.assembly →
      LeavesAssembly settings before (.execute run case reply left)
  | stuck {run : TestRun} {record : CompileRecord} :
      record.files.Readable settings.assembly → ¬ record.files.Removable settings.assembly →
      LeavesAssembly settings before (.compile run record)

end Step

theorem compareAssembly_passed {files : FileTree} {expected emitted : Path} :
    (compareAssembly files expected emitted).passed = true ↔
      ∃ content, files.read expected = .ok content ∧ files.read emitted = .ok content := by
  unfold compareAssembly
  cases files.read expected with
  | error cause => simp [Check.passed, Check.fail]
  | ok wanted =>
      cases files.read emitted with
      | error cause => simp [Check.passed, Check.fail]
      | ok content =>
          by_cases hsame : content = wanted
          · simp [hsame, Check.passed, Check.pass]
          · simp [hsame, Check.passed, Check.fail]

/-! ## Assembly checks -/

theorem TestCase.assembly_notMem_kinds (case : TestCase) : CheckKind.assembly ∉ case.kinds := by
  unfold TestCase.kinds
  split <;> split <;> simp

theorem Step.filter_assembly_checks (settings : Settings) (step : Step) :
    (step.checks settings).filter (·.kind = .assembly) = step.assemblyChecks settings := by
  cases step with
  | execute run case reply left =>
      have hkinds := case.assembly_notMem_kinds
      rw [← executeChecks_kinds settings run case left reply, List.mem_map] at hkinds
      rw [Step.assemblyChecks, List.filter_eq_nil_iff]
      intro check hcheck hkind
      exact hkinds ⟨check, hcheck, of_decide_eq_true hkind⟩
  | compile run record =>
      have hcompared : ∀ check ∈ record.comparisons settings, check.kind = .assembly := by
        intro check hcheck
        obtain ⟨expected, _, rfl⟩ := List.mem_map.mp hcheck
        exact compareAssembly_kind ..
      rcases record.compileChecks_cases settings with
        ⟨hclean, hchecks⟩ | ⟨hclean, failure, hchecks, _⟩
      · simpa [Step.checks, Step.assemblyChecks, hclean, hchecks, Check.pass] using hcompared
      · simp [Step.checks, Step.assemblyChecks, hclean, hchecks]

/-- The assembly checks of a history are the comparisons behind its clean compilations. -/
theorem filter_assembly_historySteps (settings : Settings) (records : List GroupRecord) :
    (records.flatMap (·.checks settings)).filter (·.kind = .assembly) =
      (historySteps records).flatMap (·.assemblyChecks settings) := by
  have hmetric : ∀ message, Option.guard (fun check : Check => check.kind = .assembly)
      (.fail .metric (.plain message)) = none := fun _ => rfl
  have hsteps := filterMap_historySteps settings hmetric records
  rw [List.filterMap_eq_filter] at hsteps
  rw [hsteps, List.filter_flatMap]
  simp only [Step.filter_assembly_checks]

/-! ## What a compiler finds -/

section

variable {settings : Settings} {files : FileTree} {steps : List Step}

/-- What can be read at the place of the assembly artifact behind steps was there before
them, and they are executions, or one of them has left it there, and executions follow. -/
theorem readable_filesAfter
    (hread : (filesAfter settings files steps).Readable settings.assembly) :
    (∀ step ∈ steps, step.isExecution) ∧ files.Readable settings.assembly ∨
      ∃ first step more, steps = first ++ step :: more ∧
        (∀ other ∈ more, other.isExecution) ∧
        step.LeavesAssembly settings (filesAfter settings files first) := by
  induction steps generalizing files with
  | nil =>
      left
      exact ⟨by simp, hread⟩
  | cons step rest ih =>
      have hrest := ih hread
      rcases hrest with ⟨hexecutions, hsettled⟩ | hlater
      · cases step with
        | compile run record =>
            right
            obtain ⟨hleft, hstuck⟩ := FileTree.readable_discard.mp hsettled
            exact ⟨[], _, rest, rfl, hexecutions, .stuck hleft hstuck⟩
        | execute run case reply left =>
            by_cases hold : files.Readable settings.assembly
            · left
              refine ⟨?_, hold⟩
              intro other hother
              rcases List.mem_cons.mp hother with rfl | hother
              · rfl
              · exact hexecutions other hother
            · right
              exact ⟨[], _, rest, rfl, hexecutions, .written hold hsettled⟩
      · right
        obtain ⟨first, other, more, hsteps, hexecutions, hleaves⟩ := hlater
        exact ⟨step :: first, other, more, by rw [hsteps]; rfl, hexecutions, hleaves⟩

end

/-- A comparison of assembly passes if both files can be read and are the same. -/
theorem Step.assemblyCheck_passed {settings : Settings} {run : TestRun} {record : CompileRecord}
    {check : Check} (hcheck : check ∈ (Step.compile run record).assemblyChecks settings) :
    check.passed = true ↔
      ∃ expected content, record.compilation.expectedAssembly = some expected ∧
        record.files.read (settings.resolve expected) = .ok content ∧
        record.files.read settings.assembly = .ok content := by
  simp only [Step.assemblyChecks] at hcheck
  split at hcheck
  · obtain ⟨expected, hexpected, hcompared⟩ := List.mem_map.mp hcheck
    rw [Option.mem_toList] at hexpected
    rw [← hcompared, compareAssembly_passed]
    constructor
    · intro hequal
      obtain ⟨content, hwanted, hemitted⟩ := hequal
      exact ⟨expected, content, hexpected, hwanted, hemitted⟩
    · intro hequal
      obtain ⟨other, content, hother, hwanted, hemitted⟩ := hequal
      have hsame : expected = other := Option.some.inj (hexpected.symm.trans hother)
      rw [hsame]
      exact ⟨content, hwanted, hemitted⟩
  · cases hcheck

/-- Assembly checks are the comparisons of expected assembly with what the compiler of that
very run has left, behind a clean compilation, and one of them passes exactly if both can be
read and are the same.  Behind every compilation nothing can be read at the place of the
artifact, unless it could not be removed, and what the compiler has left there is forgotten if
it could.  So what can be read there when a compiler starts is as old as the session and no
compilation came before, or an execution put it there, or it is what the last compiler left
and what could not be removed, and no compilation came since. -/
theorem sessionHistory_assembly {σ : Type} (invoker : Invoker σ) (settings : Settings)
    (suite : Suite) (selector : TagSelector) (world : World σ) :
    let session := runSession invoker settings suite selector world
    let records := (sessionHistory invoker settings suite selector world).1
    let steps := historySteps records
    let artifact := settings.assembly
    session.summary.groups = records.map (·.entry settings) ∧
    invocations session.events = steps.map (·.call settings) ∧
    (records.flatMap (·.checks settings)).filter (·.kind = .assembly) =
      steps.flatMap (·.assemblyChecks settings) ∧
    ∀ earlier run record later, steps = earlier ++ .compile run record :: later →
      let before := filesAfter settings world.files earlier
      let behind := (Step.compile run record).settled settings
      (∃ children after,
        invoker.invoke (compilerCall settings run record.compilation) ⟨before, children⟩ =
          (record.reply, ⟨record.files, after⟩)) ∧
      (∀ check ∈ (Step.compile run record).assemblyChecks settings,
        check.passed = true ↔
          ∃ expected content, record.compilation.expectedAssembly = some expected ∧
            record.files.read (settings.resolve expected) = .ok content ∧
            record.files.read artifact = .ok content) ∧
      (before.Readable artifact →
        (∀ step ∈ earlier, step.isExecution) ∧ world.files.Readable artifact ∨
          ∃ first step more, earlier = first ++ step :: more ∧
            (∀ other ∈ more, other.isExecution) ∧
            step.LeavesAssembly settings (filesAfter settings world.files first)) ∧
      (behind.Readable artifact ↔
        record.files.Readable artifact ∧ ¬ record.files.Removable artifact) ∧
      ((record.files.Readable artifact → record.files.Removable artifact) →
        ∀ content written, record.files.write artifact content = .ok written →
          discard written artifact = behind) := by
  intro session records steps artifact
  obtain ⟨_, _, hentries⟩ :=
    runGroups_eq_recordGroups invoker settings selector suite.groups world
  refine ⟨hentries, invocations_eq_steps settings invoker suite selector world,
    filter_assembly_historySteps settings records, ?_⟩
  intro earlier run record later hsteps before behind
  have hfollows := runSession_follows invoker settings suite selector world
  rw [show historySteps _ = _ from hsteps] at hfollows
  obtain ⟨middle, hearlier, hlater⟩ := hfollows.split
  refine ⟨?answered, ?passed, readable_filesAfter, FileTree.readable_discard, ?forgotten⟩
  case answered =>
    cases hlater with
    | @step _ _ _ _ after hinvoke _ =>
        have hfiles : middle.files = before := hearlier.files
        exact ⟨middle.children, after, hfiles ▸ hinvoke⟩
  case passed =>
    intro check hcheck
    exact Step.assemblyCheck_passed hcheck
  case forgotten =>
    intro hremovable content written hwrite
    exact FileTree.discard_write hremovable hwrite

/-! ## Assembly that no compiler of the session has left -/

/-- A working directory with expected assembly, and with what is beside it. -/
def assemblyTree (beside : List (Location × Node)) : FileTree where
  home := ["w"]
  entries :=
    [(["w"], .directory), (["w", "_test"], .directory),
      (["w", "_test", "e.s"], .file (bytesOfText "ret") false)] ++ beside

/-- What is expected, where the compiler leaves assembly. -/
def staleAssembly : Node := .file (bytesOfText "ret") false

def cleanExit : Reply := .ok ⟨some 0, [], false⟩

/-- A run of which the exit code of a case is expected. -/
def plainRun : TestRun := ⟨"a", some ⟨[], [], false, none⟩, [⟨[], some 0, none, false⟩]⟩

/-- A run of which assembly is expected. -/
def assemblyRun : TestRun := ⟨"b", some ⟨[], [], false, some ⟨"e.s"⟩⟩, []⟩

def scriptedHistory (files : FileTree) (runs : List TestRun) (script : List ScriptedReply) :
    List GroupRecord :=
  (sessionHistory .scripted .default ⟨[⟨"g", "", [], .one, runs⟩]⟩ ⟨[], false⟩
    ⟨files, script⟩).1

/-- A working directory in which names cannot be changed, with an artifact in it. -/
def shutTree (artifact : Node) : FileTree :=
  { assemblyTree [(["w", "out.s"], artifact)] with closed := [["w"]] }

/-- What is there before the session passes for assembly of a compiler that writes nothing, and
so does what an executable has written, and what an earlier compiler has written where it
cannot be removed. -/
theorem staleAssembly_passes :
    let fresh := assemblyTree []
    let stale := assemblyTree [(["w", "out.s"], staleAssembly)]
    let alone := fun files => scriptedHistory files [assemblyRun] [⟨[], cleanExit⟩]
    let behind := scriptedHistory fresh [plainRun, assemblyRun]
      [⟨[], cleanExit⟩, ⟨[⟨⟨"out.s"⟩, staleAssembly⟩], cleanExit⟩, ⟨[], cleanExit⟩]
    let shut := scriptedHistory (shutTree (.file (bytesOfText "nop") false))
      [plainRun, assemblyRun]
      [⟨[⟨⟨"out.s"⟩, staleAssembly⟩], cleanExit⟩, ⟨[], cleanExit⟩, ⟨[], cleanExit⟩]
    (alone fresh).flatMap (·.checks .default) =
        [.pass .compile, .fail .assembly (.plain
          "Compiler did not leave assembly at out.s: No such file or directory (os error 2)")] ∧
      (historySteps (alone stale)).map Step.left = [stale] ∧
      (alone stale).flatMap (·.checks .default) = [.pass .compile, .pass .assembly] ∧
      (historySteps behind).map Step.left = [fresh, stale, stale] ∧
      behind.flatMap (·.checks .default) =
        [.pass .compile, .pass .returnCode, .pass .compile, .pass .assembly] ∧
      (historySteps shut).map Step.left =
        [shutTree staleAssembly, shutTree staleAssembly, shutTree staleAssembly] ∧
      shut.flatMap (·.checks .default) =
        [.pass .compile, .pass .returnCode, .pass .compile, .pass .assembly] := by
  decide +kernel

/-- The steps before a compiler that finds what an executable has written. -/
def stepsBefore : List Step :=
  [.compile plainRun ⟨⟨[], [], false, none⟩, cleanExit, assemblyTree []⟩,
    .execute plainRun ⟨[], some 0, none, false⟩ cleanExit
      (assemblyTree [(["w", "out.s"], staleAssembly)])]

/-- The files of a compiler that leaves the assembly it has found. -/
def assemblyRecord : CompileRecord :=
  ⟨⟨[], [], false, some ⟨"e.s"⟩⟩, cleanExit, assemblyTree [(["w", "out.s"], staleAssembly)]⟩

theorem sessionHistory_assembly_stepsBefore :
    let found := filesAfter .default (assemblyTree []) stepsBefore
    let replaced := assemblyTree [(["w", "out.s"], .file (bytesOfText "nop") false)]
    found.Readable ⟨"out.s"⟩ ∧
      (∃ expected content, assemblyRecord.compilation.expectedAssembly = some expected ∧
        assemblyRecord.files.read (Settings.default.resolve expected) = .ok content ∧
        assemblyRecord.files.read ⟨"out.s"⟩ = .ok content) ∧
      (∃ first step more, stepsBefore = first ++ step :: more ∧
        (∀ other ∈ more, other.isExecution) ∧
        step.LeavesAssembly .default (filesAfter .default (assemblyTree []) first)) ∧
      ¬ ((Step.compile assemblyRun assemblyRecord).settled .default).Readable ⟨"out.s"⟩ ∧
      discard replaced ⟨"out.s"⟩ = discard assemblyRecord.files ⟨"out.s"⟩ := by
  intro found replaced
  have hsteps : historySteps (scriptedHistory (assemblyTree []) [plainRun, assemblyRun]
      [⟨[], cleanExit⟩, ⟨[⟨⟨"out.s"⟩, staleAssembly⟩], cleanExit⟩, ⟨[], cleanExit⟩]) =
      stepsBefore ++ .compile assemblyRun assemblyRecord :: [] := by
    decide +kernel
  have hfound : found.Readable ⟨"out.s"⟩ := by decide +kernel
  have hmade : .pass .assembly ∈
      (Step.compile assemblyRun assemblyRecord).assemblyChecks .default := by decide +kernel
  have hwritten : assemblyRecord.files.write ⟨"out.s"⟩ (bytesOfText "nop") = .ok replaced := by
    decide +kernel
  have hremovable : assemblyRecord.files.Removable ⟨"out.s"⟩ := by decide +kernel
  obtain ⟨_, _, _, hcompile⟩ := sessionHistory_assembly .scripted .default
    ⟨[⟨"g", "", [], .one, [plainRun, assemblyRun]⟩]⟩ ⟨[], false⟩ ⟨assemblyTree [],
      [⟨[], cleanExit⟩, ⟨[⟨⟨"out.s"⟩, staleAssembly⟩], cleanExit⟩, ⟨[], cleanExit⟩]⟩
  obtain ⟨_, hpassed, hleft, hbehind, hforgotten⟩ := hcompile _ _ _ _ hsteps
  have hmixed : ¬ ∀ step ∈ stepsBefore, step.isExecution := by decide
  have hcleaned : ¬ ((Step.compile assemblyRun assemblyRecord).settled .default).Readable
      ⟨"out.s"⟩ := by
    intro hread
    exact (hbehind.mp hread).2 hremovable
  have hleaves : ∃ first step more, stepsBefore = first ++ step :: more ∧
      (∀ other ∈ more, other.isExecution) ∧
      step.LeavesAssembly .default (filesAfter .default (assemblyTree []) first) := by
    apply (hleft hfound).resolve_left
    intro hbefore
    exact hmixed hbefore.1
  exact ⟨hfound, (hpassed _ hmade).mp rfl, hleaves, hcleaned,
    hforgotten (fun _ => hremovable) _ _ hwritten⟩

end Conformance
