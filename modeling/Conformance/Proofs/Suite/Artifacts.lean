import Conformance.Proofs.Path.Components
import Conformance.Proofs.Suite.Guarantees
import Conformance.Settings

/-!
# Where compiled executables are kept

The executables of a loaded suite that are compiled differ as texts.  Their artifacts
are told apart by the names in those texts: behind a directory, two relative
executables are kept in the same place exactly if they have the same names.  So
executables that are written plainly are kept apart under any settings, while two
spellings of one path share an artifact.
-/

namespace Conformance

section

variable (settings : Settings) {first second : String}

/-- Behind a directory, two relative executables share an artifact exactly if they have
the same names. -/
theorem artifactPath_eq_iff (hdirectory : settings.artifactDirectory.isEmpty = false)
    (hfirst : (Path.mk first).isAbsolute = false)
    (hsecond : (Path.mk second).isAbsolute = false) :
    (settings.artifactPath first).components = (settings.artifactPath second).components ↔
      (Path.mk first).names = (Path.mk second).names := by
  unfold Settings.artifactPath
  rw [Path.components_join hfirst hdirectory, Path.components_join hsecond hdirectory,
    List.append_cancel_left_eq]

/-- Executables that are written plainly share an artifact only if they are the same. -/
theorem eq_of_artifactPath_eq (hfirst : (Path.mk first).IsPlain)
    (hsecond : (Path.mk second).IsPlain)
    (hsame : (settings.artifactPath first).components =
      (settings.artifactPath second).components) :
    first = second := by
  have hnames : (Path.mk first).names = (Path.mk second).names := by
    cases hdirectory : settings.artifactDirectory.isEmpty with
    | true =>
        unfold Settings.artifactPath at hsame
        rw [Path.join_of_isEmpty hdirectory, Path.join_of_isEmpty hdirectory] at hsame
        rw [← hfirst.components_eq_names, hsame, hsecond.components_eq_names]
    | false =>
        exact (artifactPath_eq_iff settings hdirectory hfirst.isAbsolute_eq_false
          hsecond.isAbsolute_eq_false).mp hsame
  exact congrArg Path.text (hfirst.eq_of_names_eq hsecond hnames)

end

/-- Any two compiled runs of a loaded suite name different executables.  Under any
settings their artifacts are different paths if both names are plain; and behind a
directory two relative names give the same artifact exactly if they are spellings of
the same names. -/
theorem compiledRuns_artifacts {files : FileTree} {root : Path} {suite : Suite}
    (hsuite : loadSuite files root = .ok suite) (settings : Settings) :
    suite.compiledRuns.Pairwise fun first second =>
      let one := Path.mk first.executable
      let other := Path.mk second.executable
      let artifact := fun run : TestRun => (settings.artifactPath run.executable).components
      first.executable ≠ second.executable ∧
        (one.IsPlain → other.IsPlain → artifact first ≠ artifact second) ∧
        (settings.artifactDirectory.isEmpty = false →
          one.isAbsolute = false → other.isAbsolute = false →
          (artifact first = artifact second ↔ one.names = other.names)) := by
  have hdistinct := List.pairwise_map.mp (loadSuite_wellFormed hsuite).compiledExecutables
  apply hdistinct.imp
  intro first second hne
  refine ⟨hne, ?_, ?_⟩
  · intro hfirst hsecond hsame
    exact hne (eq_of_artifactPath_eq settings hfirst hsecond hsame)
  · intro hdirectory hfirst hsecond
    exact artifactPath_eq_iff settings hdirectory hfirst hsecond

/-- The executables of a suite of two files, kept apart. -/
theorem compiledRuns_artifacts_sampleTree :
    loadSuite sampleTree ⟨"d"⟩ = .ok sampleSuite ∧
      sampleSuite.compiledRuns.map (·.executable) = ["a", "b/c"] ∧
      (Settings.default.artifactPath "a").components ≠
        (Settings.default.artifactPath "b/c").components := by
  have hpairwise := compiledRuns_artifacts loadSuite_sampleTree .default
  have hruns : sampleSuite.compiledRuns =
      [⟨"a", some ⟨[], [], false, none⟩, [⟨[], some 0, none, false⟩]⟩,
        ⟨"b/c", some ⟨[], [], false, none⟩, []⟩] := rfl
  rw [hruns, List.pairwise_pair] at hpairwise
  refine ⟨loadSuite_sampleTree, by rw [hruns]; rfl, hpairwise.2.1 ?_ ?_⟩
  · decide +kernel
  · decide +kernel

/-! ## Two spellings of one executable -/

/-- A specification that compiles one executable under two spellings. -/
def respelledTree : FileTree where
  home := ["w"]
  entries :=
    [(["w"], .directory),
      (["w", "t.yaml"],
        .file (bytesOfText
          "g: \x7bruns: [\x7bexec: a, compile: \x7b\x7d\x7d, \x7bexec: ./a, compile: \x7b\x7d\x7d]\x7d")
          false)]

def respelledSuite : Suite where
  groups :=
    [⟨"g", "", [], .one,
      [⟨"a", some ⟨[], [], false, none⟩, []⟩, ⟨"./a", some ⟨[], [], false, none⟩, []⟩]⟩]

/-- It is loaded, and both runs compile to the same artifact. -/
theorem respelled_artifacts_collide :
    loadSuite respelledTree ⟨"t.yaml"⟩ = .ok respelledSuite ∧
      respelledSuite.compiledRuns.map (·.executable) = ["a", "./a"] ∧
      (Settings.default.artifactPath "a").components =
        (Settings.default.artifactPath "./a").components := by
  refine ⟨?_, rfl, ?_⟩
  · decide +kernel
  · decide +kernel

end Conformance
