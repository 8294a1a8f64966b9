import Conformance.Proofs.FileTree.Frame
import Conformance.Proofs.Session.Selection
import Conformance.Proofs.Session.Verdicts

/-!
# What a session leaves alone

Behind the compiler only the assembly artifact is removed; behind an executable only output
that is not the one asked for is kept.  So if the children change no files, the files of a
session change at those locations at most.
-/

namespace Conformance

open FileTree

/-- Nothing that the invoker runs changes files. -/
def Invoker.KeepsFiles {σ : Type} (invoker : Invoker σ) : Prop :=
  ∀ invocation world, (invoker.invoke invocation world).2.files = world.files

section

variable (settings : Settings)

/-- A compiler was run. -/
def Compiled (steps : List Step) : Prop := ∃ run record, .compile run record ∈ steps

/-- A case that expects the output `expected` was executed, and its output is not the one asked
for. -/
def Mismatched (steps : List Step) (expected : Path) : Prop :=
  ∃ run case reply left outcome, .execute run case reply left ∈ steps ∧
    case.Mismatch settings left reply expected outcome

/-- The location is that of a file in which a step keeps output. -/
def KeptAt (files : FileTree) (steps : List Step) (place : Location) : Prop :=
  ∃ expected, Mismatched settings steps expected ∧
    place = files.target (observedPath (settings.resolve expected))

/-- The later files differ from the earlier ones at most where steps remove the assembly
artifact or keep output. -/
structure Confined (files later : FileTree) (steps : List Step) : Prop where
  home : later.home = files.home
  directories : ∀ place,
    later.get? place = some .directory ↔ files.get? place = some .directory
  get? : ∀ place, later.get? place = files.get? place ∨
    place = files.target settings.assembly ∧ later.get? place = none ∧ Compiled steps ∨
    KeptAt settings files steps place

variable {settings} {files middle later : FileTree} {step : Step} {first rest steps : List Step}

theorem Compiled.mono (hcompiled : Compiled first) (hsteps : first ⊆ steps) : Compiled steps := by
  obtain ⟨run, record, hmem⟩ := hcompiled
  exact ⟨run, record, hsteps hmem⟩

theorem Mismatched.mono {expected : Path} (hmismatched : Mismatched settings first expected)
    (hsteps : first ⊆ steps) : Mismatched settings steps expected := by
  obtain ⟨run, case, reply, left, outcome, hmem, hmismatch⟩ := hmismatched
  exact ⟨run, case, reply, left, outcome, hsteps hmem, hmismatch⟩

namespace Confined

theorem refl (files : FileTree) (steps : List Step) : Confined settings files files steps where
  home := rfl
  directories _ := Iff.rfl
  get? _ := .inl rfl

theorem of_agreeBut {place : Location} (hagree : AgreeBut place files later)
    (hplace : place = files.target settings.assembly ∧ later.get? place = none ∧ Compiled steps ∨
      KeptAt settings files steps place) : Confined settings files later steps where
  home := hagree.home
  directories := hagree.directories
  get? other := by
    by_cases hother : other = place
    · subst hother
      exact .inr hplace
    · exact .inl (hagree.get? other hother)

/-- What the later steps do is seen from the earlier files. -/
theorem trans (hfirst : Confined settings files middle first)
    (hrest : Confined settings middle later rest) :
    Confined settings files later (first ++ rest) where
  home := hrest.home.trans hfirst.home
  directories place := (hrest.directories place).trans (hfirst.directories place)
  get? place := by
    have hleft : first ⊆ first ++ rest := List.subset_append_left first rest
    have hright : rest ⊆ first ++ rest := List.subset_append_right first rest
    rcases hrest.get? place with
      hsame | ⟨hplace, hnone, hcompiled⟩ | ⟨expected, hmismatched, hplace⟩
    · rw [hsame]
      rcases hfirst.get? place with
        hfirst | ⟨hplace, hnone, hcompiled⟩ | ⟨expected, hmismatched, hplace⟩
      · exact .inl hfirst
      · exact .inr (.inl ⟨hplace, hnone, hcompiled.mono hleft⟩)
      · exact .inr (.inr ⟨expected, hmismatched.mono hleft, hplace⟩)
    · rw [target_of_home hfirst.home] at hplace
      exact .inr (.inl ⟨hplace, hnone, hcompiled.mono hright⟩)
    · rw [target_of_home hfirst.home] at hplace
      exact .inr (.inr ⟨expected, hmismatched.mono hright, hplace⟩)

/-- What is read at a path changes only where the files do. -/
theorem contents (hconfined : Confined settings files later steps) (p : Path) :
    later.contents p = files.contents p ∨
      files.target p = files.target settings.assembly ∧ later.contents p = none ∧
        Compiled steps ∨
      KeptAt settings files steps (files.target p) := by
  rcases hconfined.get? (files.target p) with hsame | ⟨hplace, hnone, hcompiled⟩ | hkept
  · exact .inl (contents_of_directories hconfined.home hconfined.directories hsame)
  · rw [← target_of_home hconfined.home] at hnone
    exact .inr (.inl ⟨hplace, contents_eq_none hnone, hcompiled⟩)
  · exact .inr (.inr hkept)

end Confined

/-! ## Steps -/

/-- A step changes what the child has left only by removing the assembly artifact or by
keeping output. -/
theorem Step.settled_confined (settings : Settings) (step : Step) :
    Confined settings step.left (step.settled settings) [step] := by
  cases step with
  | compile run record =>
      change Confined settings record.files (discard record.files settings.assembly) _
      rcases discard_cases record.files settings.assembly with hsame | ⟨hagree, hnone⟩
      · rw [hsame]
        exact .refl ..
      · exact .of_agreeBut hagree (.inl ⟨rfl, hnone, run, record, List.mem_singleton_self _⟩)
  | execute run case reply left =>
      change Confined settings left (executeChecks settings run case left reply).2 _
      rcases executeChecks_observed settings run case left reply with
        ⟨_, hsame⟩ | ⟨_, expected, _, hexpected, hobserved, hwrite⟩
      · rw [hsame]
        exact .refl ..
      · have hnamed : observedFiles (executeChecks settings run case left reply).1 ≠ [] := by
          simp [hobserved]
        obtain ⟨other, outcome, hmismatch⟩ := executeChecks_mismatch run (.inr hnamed)
        obtain rfl : expected = other :=
          Option.some.inj (hexpected.symm.trans hmismatch.expectedOutput)
        have hmismatched :
            Mismatched settings [.execute run case reply left] expected :=
          ⟨run, case, reply, left, outcome, List.mem_singleton_self _, hmismatch⟩
        exact .of_agreeBut (agreeBut_write hwrite) (.inr ⟨expected, hmismatched, rfl⟩)

/-- Behind a child that is no compiler and whose output is as asked for, files stay. -/
theorem Step.settled_eq_left (hcompiled : ¬ Compiled [step])
    (hmatch : ∀ expected, ¬ Mismatched settings [step] expected) :
    step.settled settings = step.left := by
  cases step with
  | compile run record => exact absurd ⟨run, record, List.mem_singleton_self _⟩ hcompiled
  | execute run case reply left =>
      change (executeChecks settings run case left reply).2 = left
      by_contra hne
      obtain ⟨expected, outcome, hmismatch⟩ := executeChecks_mismatch run (.inl hne)
      exact hmatch expected ⟨run, case, reply, left, outcome, List.mem_singleton_self _, hmismatch⟩

/-! ## Sessions -/

section

variable {σ : Type} {invoker : Invoker σ} {world final : World σ}

theorem Invoker.KeepsFiles.left_eq (hquiet : invoker.KeepsFiles) {call : Invocation}
    {reply : Reply} {left : FileTree} {children : σ}
    (hinvoke : invoker.invoke call world = (reply, ⟨left, children⟩)) : left = world.files := by
  have hfiles := hquiet call world
  rwa [hinvoke] at hfiles

theorem Follows.confined (hquiet : invoker.KeepsFiles)
    (hall : Follows invoker settings world steps final) :
    Confined settings world.files final.files steps := by
  induction hall with
  | done world => exact .refl ..
  | @step world final step rest children hinvoke _ ih =>
      have hleft : step.left = world.files := hquiet.left_eq hinvoke
      have hstep := step.settled_confined settings
      rw [hleft] at hstep
      exact hstep.trans ih

theorem Follows.files_eq (hquiet : invoker.KeepsFiles)
    (hall : Follows invoker settings world steps final) (hcompiled : ¬ Compiled steps)
    (hmatch : ∀ expected, ¬ Mismatched settings steps expected) :
    final.files = world.files := by
  induction hall with
  | done world => rfl
  | @step world final step rest children hinvoke _ ih =>
      have hhead : [step] ⊆ step :: rest := by simp
      have htail : rest ⊆ step :: rest := List.subset_cons_self ..
      have hleft : step.left = world.files := hquiet.left_eq hinvoke
      have hsettled : step.settled settings = step.left :=
        Step.settled_eq_left (fun h => hcompiled (h.mono hhead))
          fun expected h => hmatch expected (h.mono hhead)
      rw [ih (fun h => hcompiled (h.mono htail)) fun expected h => hmatch expected (h.mono htail)]
      exact hsettled.trans hleft

/-- What is behind the groups that are run makes no difference. -/
theorem recordGroups_take (invoker : Invoker σ) (settings : Settings) (groups : List Group)
    (world : World σ) :
    recordGroups invoker settings
        (groups.take (recordGroups invoker settings groups world).1.length) world =
      recordGroups invoker settings groups world := by
  induction groups generalizing world with
  | nil => rfl
  | cons group rest ih =>
      cases hdecision :
          ((recordGroup invoker settings group world).1.decision settings).isAbort with
      | true =>
          rw [recordGroups_cons_of_abort invoker settings hdecision]
          exact recordGroups_cons_of_abort invoker settings hdecision
      | false =>
          rw [recordGroups_cons_of_proceed invoker settings hdecision, List.length_cons,
            List.take_succ_cons, recordGroups_cons_of_proceed invoker settings hdecision]
          simp only [ih]

/-- The groups that are run leave the files and the children as the session does. -/
theorem runSession_take (invoker : Invoker σ) (settings : Settings) (suite : Suite)
    (selector : TagSelector) (world : World σ) :
    let session := runSession invoker settings suite selector world
    let reached : Suite :=
      ⟨(suite.groups.filter selector.selects).take session.summary.groups.length⟩
    (runSession invoker settings reached .everything world).world = session.world := by
  intro session reached
  obtain ⟨_, hworld, hentries⟩ :=
    runGroups_eq_recordGroups invoker settings selector suite.groups world
  obtain ⟨_, hworld', _⟩ :=
    runGroups_eq_recordGroups invoker settings .everything reached.groups world
  have hall : reached.groups.filter TagSelector.everything.selects = reached.groups := by simp
  have hlength : session.summary.groups.length =
      (recordGroups invoker settings (suite.groups.filter selector.selects) world).1.length := by
    rw [← List.length_map (GroupRecord.entry settings), ← hentries]
    rfl
  have htake := recordGroups_take invoker settings (suite.groups.filter selector.selects) world
  rw [← hlength] at htake
  calc
    (runSession invoker settings reached .everything world).world =
        (recordGroups invoker settings reached.groups world).2 := by
      rw [← hall]
      exact hworld'
    _ = (recordGroups invoker settings (suite.groups.filter selector.selects) world).2 :=
      congrArg Prod.snd htake
    _ = session.world := hworld.symm

/-- With children that change no files, a session changes what is at the location of the
assembly artifact, where it can only remove a file, and only if a compiler was run; and what is
at the locations of the files in which output is kept, which is output of a case that was
executed, ended by itself and did not match as it should have.  Without either it changes
nothing at all, and groups that are not selected or not reached have no part in it. -/
theorem runSession_frame (hquiet : invoker.KeepsFiles) (settings : Settings) (suite : Suite)
    (selector : TagSelector) (world : World σ) :
    let session := runSession invoker settings suite selector world
    let steps := historySteps (sessionHistory invoker settings suite selector world).1
    let reached : Suite :=
      ⟨(suite.groups.filter selector.selects).take session.summary.groups.length⟩
    Follows invoker settings world steps session.world ∧
      invocations session.events = steps.map (·.call settings) ∧
      (∀ place, session.world.files.get? place = world.files.get? place ∨
        place = world.files.target settings.assembly ∧
          session.world.files.get? place = none ∧ Compiled steps ∨
        KeptAt settings world.files steps place) ∧
      (∀ p, session.world.files.contents p = world.files.contents p ∨
        world.files.target p = world.files.target settings.assembly ∧
          session.world.files.contents p = none ∧ Compiled steps ∨
        KeptAt settings world.files steps (world.files.target p)) ∧
      (¬ Compiled steps → (∀ expected, ¬ Mismatched settings steps expected) →
        session.world.files = world.files) ∧
      (runSession invoker settings reached (.ofTags [] false) world).world = session.world := by
  intro session steps reached
  have hfollows : Follows invoker settings world steps session.world :=
    runSession_follows invoker settings suite selector world
  have hconfined := hfollows.confined hquiet
  exact ⟨hfollows, invocations_eq_steps settings invoker suite selector world, hconfined.get?,
    hconfined.contents, hfollows.files_eq hquiet,
    runSession_take invoker settings suite selector world⟩

end

end

/-- Answers from a list, in order, and changes no files. -/
def Invoker.answering : Invoker (List Reply) where
  invoke _ world :=
    match world.children with
    | [] => (.error (.launch "no answer" .noLongerScripted), world)
    | reply :: rest => (reply, ⟨world.files, rest⟩)

theorem Invoker.answering_keepsFiles : Invoker.answering.KeepsFiles := by
  intro invocation world
  obtain ⟨files, replies⟩ := world
  cases replies with
  | nil => rfl
  | cons reply rest => rfl

def singleRun : TestRun := ⟨"a", none, [expecting "e"]⟩

/-- A case keeps its output beside the expected one, and all else is as it was. -/
theorem runSession_frame_singleRun :
    let session := runSession .answering .default (groupSuite [singleRun]) ⟨[], false⟩
      ⟨expectingTree, [printing "1"]⟩
    session.world.files.contents ⟨"_test/e.observed"⟩ = some (bytesOfText "1\n") ∧
      ∀ p, session.world.files.contents p = expectingTree.contents p ∨
        expectingTree.target p = ["w", "_test", "e.observed"] := by
  intro session
  have hsteps : historySteps (sessionHistory .answering .default (groupSuite [singleRun])
      ⟨[], false⟩ ⟨expectingTree, [printing "1"]⟩).1 =
      [.execute singleRun (expecting "e") (printing "1") expectingTree] := by
    decide +kernel
  obtain ⟨_, _, _, hcontents, _⟩ := runSession_frame Invoker.answering_keepsFiles .default
    (groupSuite [singleRun]) ⟨[], false⟩ ⟨expectingTree, [printing "1"]⟩
  rw [hsteps] at hcontents
  refine ⟨by decide +kernel, ?_⟩
  intro p
  rcases hcontents p with hsame | hassembly | hobserved
  · exact .inl hsame
  · obtain ⟨_, _, run, record, hcompile⟩ := hassembly
    cases List.mem_singleton.mp hcompile
  · obtain ⟨expected, hmismatched, hplace⟩ := hobserved
    obtain ⟨run, case, reply, left, outcome, hstep, hmismatch⟩ := hmismatched
    cases List.mem_singleton.mp hstep
    have hexpected : ⟨"e"⟩ = expected := Option.some.inj hmismatch.expectedOutput
    rw [← hexpected] at hplace
    exact .inr (hplace.trans (by decide +kernel))

end Conformance
