import Conformance.Proofs.Path.Components
import Conformance.Settings

/-!
# How programs are launched

A program whose text has a slash in it is found where the text says; any other text would be
searched for.  A text without a slash is a single component, and a relative path of one component
is launched from the working directory.  So a program that is not empty is never searched for,
and it is still the same program: nothing but a leading `.` may be added to its components.
-/

namespace Conformance

namespace Path

section

variable {p : Path}

/-! ## Texts without a slash -/

theorem isAbsolute_of_not_mem (hslash : '/' ∉ p.text.toList) : p.isAbsolute = false := by
  rw [isAbsolute, decide_eq_false_iff_not]
  exact fun hhead => hslash (List.mem_of_mem_head? hhead)

theorem segments_of_not_mem (hp : p.isEmpty = false) (hslash : '/' ∉ p.text.toList) :
    p.segments = [p.text] := by
  have hsome : p.text ≠ "" := by simpa [isEmpty] using hp
  simp [segments, cutSlashes_of_not_mem hslash, hsome]

/-- A text without a slash is one component, whatever it is. -/
theorem length_components_of_not_mem (hp : p.isEmpty = false) (hslash : '/' ∉ p.text.toList) :
    p.components.length = 1 := by
  rw [components_of_relative (isAbsolute_of_not_mem hslash), names, segments_of_not_mem hp hslash]
  by_cases hcurrent : p.text = "."
  · simp [hcurrent, Component.ofSegment?]
  · by_cases hparent : p.text = ".."
    · simp [hparent, Component.ofSegment?]
    · simp [hcurrent, hparent, Component.ofSegment?]

/-! ## The working directory in front -/

/-- In front of a single component the working directory is one component more, unless it is
there already. -/
theorem components_join_current (hrelative : p.isAbsolute = false)
    (hcount : p.components.length = 1) :
    (join ⟨"."⟩ p).components = p.components ∨
      (join ⟨"."⟩ p).components = .current :: p.components := by
  have hjoin : (join ⟨"."⟩ p).components = .current :: p.names :=
    components_join hrelative (by decide)
  rw [components_of_relative hrelative] at hcount ⊢
  split
  · rename_i hhead
    rw [if_pos hhead, List.length_cons, Nat.succ_inj, List.length_eq_zero_iff] at hcount
    exact .inl (by rw [hjoin, hcount])
  · exact .inr hjoin

end

/-- The path `q` leads to the program `p`, and to find it no search is made. -/
structure Launches (q p : Path) : Prop where
  slash : '/' ∈ q.text.toList
  isAbsolute : q.isAbsolute = p.isAbsolute
  components : q.components = p.components ∨ q.components = .current :: p.components

theorem launches_launchPath {p : Path} (hp : p.isEmpty = false) : p.launchPath.Launches p := by
  unfold launchPath
  by_cases hbare : p.components.length = 1 ∧ p.isAbsolute = false
  · obtain ⟨hcount, hrelative⟩ := hbare
    obtain ⟨first, -, htext⟩ := toList_join (p := ⟨"."⟩) hrelative (by decide)
    rw [if_pos (by simp [hcount, hrelative])]
    refine ⟨?slash, ?isAbsolute, components_join_current hrelative hcount⟩
    case slash => simp [htext]
    case isAbsolute =>
      rw [isAbsolute_join hrelative (by decide), hrelative]
      decide
  · rw [if_neg (by simpa using hbare)]
    have hslash : '/' ∈ p.text.toList := by
      by_contra hslash
      exact hbare ⟨length_components_of_not_mem hp hslash, isAbsolute_of_not_mem hslash⟩
    exact ⟨hslash, rfl, .inl rfl⟩

theorem isEmpty_join_of_right {p q : Path} (hq : q.isEmpty = false) :
    (p.join q).isEmpty = false := by
  unfold join
  split
  · exact hq
  · have hright : q.text ≠ "" := by
      simpa [isEmpty] using hq
    split
    · simp [isEmpty, hright]
    · simp [isEmpty, hright]

end Path

/-- A program that is not empty is launched without a search: its path has a slash, is absolute
if the program's is, and has the same components, a leading `.` apart.  This holds of every
artifact, whatever the settings. -/
theorem programs_launched_without_search :
    (∀ program : Path, program.isEmpty = false → program.launchPath.Launches program) ∧
      ∀ (settings : Settings) (executable : String), executable ≠ "" →
        (settings.artifactPath executable).launchPath.Launches
          (settings.artifactPath executable) := by
  refine ⟨fun program => Path.launches_launchPath, ?_⟩
  intro settings executable hsome
  apply Path.launches_launchPath
  apply Path.isEmpty_join_of_right
  simpa [Path.isEmpty] using hsome

/-- A bare name and `.` are launched from the working directory, also where all directories are
written as nothing. -/
theorem programs_launched_without_search_bareNames :
    (Path.launchPath ⟨"a//"⟩).Launches ⟨"a//"⟩ ∧ (Path.launchPath ⟨"."⟩).Launches ⟨"."⟩ ∧
      Path.launchPath ⟨"."⟩ = ⟨"./."⟩ ∧
      let settings : Settings := { Settings.default with base := ⟨""⟩, outDirectory := ⟨""⟩ }
      (settings.artifactPath "a").launchPath = ⟨"./a"⟩ ∧
        (settings.artifactPath "a").launchPath.Launches (settings.artifactPath "a") := by
  obtain ⟨hprogram, hartifact⟩ := programs_launched_without_search
  refine ⟨hprogram ⟨"a//"⟩ (by decide), hprogram ⟨"."⟩ (by decide), ?_, ?_, ?_⟩
  · decide +kernel
  · decide +kernel
  · exact hartifact _ "a" (by decide)

end Conformance
