import Conformance.Host
import Conformance.Proofs.Session.Failure

/-!
# The status the program ends with

The status follows from what the program was able to do: load, prepare, run and
write.  Each of these that fails ends the program with an error; when none does, the
summary of the session decides, and over a suite that was loaded it is clean exactly
if no check failed.
-/

namespace Conformance

/-! ## What the program was able to do -/

section

variable {σ : Type} (invoker : Invoker σ)

/-- The suite was loaded, the directory for artifacts is there, and this is the
session. -/
def Arguments.Runs (arguments : Arguments) (world : World σ) (session : SessionResult σ) :
    Prop :=
  ∃ suite files,
    loadSuite world.files arguments.settings.specPath = .ok suite ∧
      world.files.makeDirectories arguments.settings.artifactDirectory = (none, files) ∧
      session =
        runSession invoker arguments.settings suite arguments.selector { world with files }

/-- The files that a session leaves once the report is written, if one is asked for. -/
def WritesReport (target : Option Path) (session : SessionResult σ) (files : FileTree) :
    Prop :=
  match target with
  | none => files = session.world.files
  | some path =>
    session.world.files.writeText path (reportText session.summary) = .ok files

theorem writeReport_events (target : Option Path) (session : SessionResult σ) :
    (writeReport target session).events = session.events := by
  unfold writeReport
  split
  · rfl
  · split
    · rfl
    · rfl

theorem writeReport_result_eq_ok_iff (target : Option Path) (session : SessionResult σ)
    (summary : Summary) :
    (writeReport target session).result = .ok summary ↔
      session.summary = summary ∧
        WritesReport target session (writeReport target session).world.files := by
  unfold writeReport WritesReport
  cases target with
  | none => simp
  | some path =>
      cases hwrite : session.world.files.writeText path (reportText session.summary) with
      | ok files => simp [hwrite]
      | error cause => simp [hwrite]

theorem writeReport_result_eq_error_iff (target : Option Path) (session : SessionResult σ) :
    (∃ cause, (writeReport target session).result = .error cause) ↔
      ∃ path cause, target = some path ∧
        session.world.files.writeText path (reportText session.summary) = .error cause := by
  unfold writeReport
  cases target with
  | none => simp
  | some path =>
      cases hwrite : session.world.files.writeText path (reportText session.summary) with
      | ok files => simp [hwrite]
      | error cause => simp [hwrite]

variable (arguments : Arguments) (world : World σ)

theorem runProgram_of_load_error {cause : SpecError}
    (hload : loadSuite world.files arguments.settings.specPath = .error cause) :
    runProgram invoker arguments world = ⟨.error (.specification cause), [], world⟩ := by
  unfold runProgram
  dsimp only
  rw [hload]

theorem runProgram_of_directory_error {suite : Suite} {cause : FileError} {files : FileTree}
    (hload : loadSuite world.files arguments.settings.specPath = .ok suite)
    (hdirectory : world.files.makeDirectories arguments.settings.artifactDirectory =
      (some cause, files)) :
    runProgram invoker arguments world =
      ⟨.error (.outputDirectory arguments.settings.artifactDirectory cause), [],
        { world with files }⟩ := by
  unfold runProgram
  dsimp only
  rw [hload, hdirectory]

theorem runProgram_of_runs {session : SessionResult σ}
    (hruns : arguments.Runs invoker world session) :
    runProgram invoker arguments world = writeReport arguments.report session := by
  obtain ⟨suite, files, hload, hdirectory, rfl⟩ := hruns
  unfold runProgram
  dsimp only
  rw [hload, hdirectory]

/-- Loading fails, preparing fails, or there is a session. -/
theorem load_error_or_directory_error_or_runs :
    (∃ cause, loadSuite world.files arguments.settings.specPath = .error cause) ∨
      (∃ suite cause files,
        loadSuite world.files arguments.settings.specPath = .ok suite ∧
          world.files.makeDirectories arguments.settings.artifactDirectory =
            (some cause, files)) ∨
      ∃ session, arguments.Runs invoker world session := by
  cases hload : loadSuite world.files arguments.settings.specPath with
  | error cause => exact .inl ⟨cause, rfl⟩
  | ok suite =>
      right
      cases hdirectory : world.files.makeDirectories arguments.settings.artifactDirectory with
      | mk problem files =>
          cases problem with
          | some cause => exact .inl ⟨suite, cause, files, rfl, rfl⟩
          | none => exact .inr ⟨_, suite, files, hload, hdirectory, rfl⟩

/-- The summary of the session is clean exactly if the program reports no failed
check. -/
theorem Arguments.Runs.isClean_iff {session : SessionResult σ}
    (hruns : arguments.Runs invoker world session) :
    session.summary.isClean = true ↔
      failures (runProgram invoker arguments world).events = 0 := by
  rw [runProgram_of_runs invoker arguments world hruns, writeReport_events]
  obtain ⟨suite, files, hload, _, rfl⟩ := hruns
  exact runSession_isClean_iff invoker arguments.settings (loadSuite_isBuilt hload)
    arguments.selector { world with files }

theorem runProgram_result_eq_ok_iff (summary : Summary) :
    (runProgram invoker arguments world).result = .ok summary ↔
      ∃ session, arguments.Runs invoker world session ∧ session.summary = summary ∧
        WritesReport arguments.report session
          (runProgram invoker arguments world).world.files := by
  constructor
  · intro hok
    rcases load_error_or_directory_error_or_runs invoker arguments world with
      hunloaded | hunprepared | hran
    · obtain ⟨cause, hload⟩ := hunloaded
      rw [runProgram_of_load_error invoker arguments world hload] at hok
      cases hok
    · obtain ⟨suite, cause, files, hload, hdirectory⟩ := hunprepared
      rw [runProgram_of_directory_error invoker arguments world hload hdirectory] at hok
      cases hok
    · obtain ⟨session, hruns⟩ := hran
      refine ⟨session, hruns, ?_⟩
      rw [runProgram_of_runs invoker arguments world hruns] at hok ⊢
      exact (writeReport_result_eq_ok_iff _ _ _).mp hok
  · intro hwritten
    obtain ⟨session, hruns, hreport⟩ := hwritten
    rw [runProgram_of_runs invoker arguments world hruns] at hreport ⊢
    exact (writeReport_result_eq_ok_iff _ _ _).mpr hreport

theorem runProgram_result_eq_error_iff :
    (∃ cause, (runProgram invoker arguments world).result = .error cause) ↔
      (∃ cause, loadSuite world.files arguments.settings.specPath = .error cause) ∨
        (∃ suite cause files,
          loadSuite world.files arguments.settings.specPath = .ok suite ∧
            world.files.makeDirectories arguments.settings.artifactDirectory =
              (some cause, files)) ∨
        ∃ session path cause, arguments.Runs invoker world session ∧
          arguments.report = some path ∧
            session.world.files.writeText path (reportText session.summary) =
              .error cause := by
  constructor
  · intro herror
    rcases load_error_or_directory_error_or_runs invoker arguments world with
      hunloaded | hunprepared | hran
    · exact .inl hunloaded
    · exact .inr (.inl hunprepared)
    · obtain ⟨session, hruns⟩ := hran
      rw [runProgram_of_runs invoker arguments world hruns] at herror
      obtain ⟨path, cause, hwrite⟩ := (writeReport_result_eq_error_iff _ _).mp herror
      exact .inr (.inr ⟨session, path, cause, hruns, hwrite⟩)
  · intro hfails
    rcases hfails with hunloaded | hunprepared | hunwritten
    · obtain ⟨cause, hload⟩ := hunloaded
      rw [runProgram_of_load_error invoker arguments world hload]
      exact ⟨_, rfl⟩
    · obtain ⟨suite, cause, files, hload, hdirectory⟩ := hunprepared
      rw [runProgram_of_directory_error invoker arguments world hload hdirectory]
      exact ⟨_, rfl⟩
    · obtain ⟨session, path, cause, hruns, hwrite⟩ := hunwritten
      rw [runProgram_of_runs invoker arguments world hruns]
      exact (writeReport_result_eq_error_iff _ _).mpr ⟨path, cause, hwrite⟩

end

/-! ## The status -/

theorem exitStatus_eq_zero_iff (result : Except ProgramError Summary) :
    exitStatus result = 0 ↔ ∃ summary, result = .ok summary ∧ summary.isClean = true := by
  cases result with
  | ok summary =>
      cases hclean : summary.isClean with
      | false => simp [exitStatus, hclean]
      | true => simp [exitStatus, hclean]
  | error cause => simp [exitStatus]

theorem exitStatus_eq_two_iff (result : Except ProgramError Summary) :
    exitStatus result = 2 ↔ ∃ cause, result = .error cause := by
  cases result with
  | ok summary =>
      cases hclean : summary.isClean with
      | false => simp [exitStatus, hclean]
      | true => simp [exitStatus, hclean]
  | error cause => simp [exitStatus]

theorem exitStatus_eq_one_iff (result : Except ProgramError Summary) :
    exitStatus result = 1 ↔ exitStatus result ≠ 0 ∧ exitStatus result ≠ 2 := by
  cases result with
  | ok summary =>
      cases hclean : summary.isClean with
      | false => simp [exitStatus, hclean]
      | true => simp [exitStatus, hclean]
  | error cause => simp [exitStatus]

theorem runProgram_exitStatus_eq_zero_iff {σ : Type} (invoker : Invoker σ)
    (arguments : Arguments) (world : World σ) :
    exitStatus (runProgram invoker arguments world).result = 0 ↔
      failures (runProgram invoker arguments world).events = 0 ∧
        ∃ session, arguments.Runs invoker world session ∧
          WritesReport arguments.report session
            (runProgram invoker arguments world).world.files := by
  simp only [exitStatus_eq_zero_iff, runProgram_result_eq_ok_iff]
  constructor
  · intro hclean
    obtain ⟨summary, hresult, hsummary⟩ := hclean
    obtain ⟨session, hruns, hsame, hreport⟩ := hresult
    rw [← hsame] at hsummary
    exact ⟨hruns.isClean_iff.mp hsummary, session, hruns, hreport⟩
  · intro hpassed
    obtain ⟨hnone, session, hruns, hreport⟩ := hpassed
    have hclean : session.summary.isClean = true := hruns.isClean_iff.mpr hnone
    exact ⟨session.summary, ⟨session, hruns, rfl, hreport⟩, hclean⟩

theorem runProgram_exitStatus_eq_two_iff {σ : Type} (invoker : Invoker σ)
    (arguments : Arguments) (world : World σ) :
    exitStatus (runProgram invoker arguments world).result = 2 ↔
      (∃ cause, loadSuite world.files arguments.settings.specPath = .error cause) ∨
        (∃ suite cause files,
          loadSuite world.files arguments.settings.specPath = .ok suite ∧
            world.files.makeDirectories arguments.settings.artifactDirectory =
              (some cause, files)) ∨
        ∃ session path cause, arguments.Runs invoker world session ∧
          arguments.report = some path ∧
            session.world.files.writeText path (reportText session.summary) =
              .error cause := by
  rw [exitStatus_eq_two_iff, runProgram_result_eq_error_iff]

/-- The program ends with status zero exactly if there was a session, no check
failed and the report was written; with status two exactly if loading, preparing or
writing the report failed; and otherwise with status one.  A suite that was loaded
stops a session only after a failed check, so its summary is clean exactly if no
check failed.  If loading fails nothing is touched, started or printed. -/
theorem runProgram_exitStatus :
    (∀ (σ : Type) (invoker : Invoker σ) (arguments : Arguments) (world : World σ),
      let settings := arguments.settings
      let done := runProgram invoker arguments world
      let status := exitStatus done.result
      (status = 0 ↔
        failures done.events = 0 ∧
          ∃ session, arguments.Runs invoker world session ∧
            WritesReport arguments.report session done.world.files) ∧
        (status = 2 ↔
          (∃ cause, loadSuite world.files settings.specPath = .error cause) ∨
            (∃ suite cause files, loadSuite world.files settings.specPath = .ok suite ∧
              world.files.makeDirectories settings.artifactDirectory =
                (some cause, files)) ∨
            ∃ session path cause, arguments.Runs invoker world session ∧
              arguments.report = some path ∧
                session.world.files.writeText path (reportText session.summary) =
                  .error cause) ∧
        (status = 1 ↔ status ≠ 0 ∧ status ≠ 2) ∧
        (∀ cause, loadSuite world.files settings.specPath = .error cause →
          done.world = world ∧ done.events = [] ∧ consoleOutput done.events = [])) ∧
      (∀ (files : FileTree) (root : Path) (suite : Suite), loadSuite files root = .ok suite →
        ∀ (σ : Type) (invoker : Invoker σ) (settings : Settings) (world : World σ),
          (∀ group ∈ suite.groups,
            let result := runGroup invoker settings group world
            result.decision.isAbort = true → 0 < failures result.events) ∧
            ∀ selector : TagSelector,
              let session := runSession invoker settings suite selector world
              session.summary.isClean = true ↔ failures session.events = 0) := by
  constructor
  · intro σ invoker arguments world
    dsimp only
    refine ⟨runProgram_exitStatus_eq_zero_iff invoker arguments world,
      runProgram_exitStatus_eq_two_iff invoker arguments world, exitStatus_eq_one_iff _, ?_⟩
    intro cause hload
    rw [runProgram_of_load_error invoker arguments world hload]
    exact ⟨rfl, rfl, rfl⟩
  · intro files root suite hload σ invoker settings world
    have hbuilt := loadSuite_isBuilt hload
    refine ⟨?_, fun selector => runSession_isClean_iff invoker settings hbuilt selector world⟩
    intro group hgroup
    exact failures_pos_of_abort invoker settings (hbuilt group hgroup) world

/-! ## On the closed host -/

section

variable {arguments : Arguments} {files : FileTree}

theorem runHosted_eq_runProgram
    (hcrash : (runProgram (.host arguments.settings.timeout) arguments
      ⟨files, .idle⟩).world.children.crash = none) :
    runHosted arguments files =
      let done := runProgram (.host arguments.settings.timeout) arguments ⟨files, .idle⟩
      ⟨some done.result, consoleOutput done.events, done.world.files⟩ := by
  unfold runHosted
  dsimp only
  rw [hcrash]

/-- On the closed host, a session that can go on to its end has the program's
status, output and files. -/
theorem execute_eq_runProgram {words : List String}
    (hparse : Arguments.parse words = .ok arguments)
    (hcrash : (runProgram (.host arguments.settings.timeout) arguments
      ⟨files, .idle⟩).world.children.crash = none) :
    let done := runProgram (.host arguments.settings.timeout) arguments ⟨files, .idle⟩
    let execution := execute words files
    execution.status = exitStatus done.result ∧
      execution.stdout = consoleOutput done.events ∧
      execution.files = done.world.files := by
  have hhosted := runHosted_eq_runProgram hcrash
  unfold execute
  dsimp only at hhosted ⊢
  simp only [hparse, hhosted, and_self]

end

end Conformance
