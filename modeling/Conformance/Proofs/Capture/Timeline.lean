import Conformance.Proofs.Capture.Interleaving

/-!
# What a timed output yields

The steps of a timeline, with a collector that keeps pace, are one interleaving of the
bytes that were written in time.  So the capture is computed from those bytes and from
whether the pipe was closed in time.
-/

namespace Conformance

open Capture

theorem Capture.Interleaving.takes {stream : Bytes} {steps : List Step}
    (hsteps : Interleaving stream steps) (count : Nat) :
    Interleaving stream (steps ++ List.replicate count .take) := by
  induction count with
  | zero => simpa using hsteps
  | succ count ih =>
      rw [List.replicate_succ', ← List.append_assoc]
      exact .take ih

namespace Timeline

/-- Whether something happens before a deadline passes. -/
def inTime (deadline : Option Nat) (time : Nat) : Bool :=
  match deadline with
  | none => true
  | some limit => time ≤ limit

/-- The bytes written in time. -/
def written (timeline : Timeline) (deadline : Option Nat) : Bytes :=
  (timeline.writes.filter fun write => inTime deadline write.1).flatMap (·.2)

/-- The steps of a write: its bytes arrive, and each line that ends in them is taken. -/
def writeSteps (write : Nat × Bytes) : List Step :=
  .arrive write.2 :: List.replicate (write.2.count 10) .take

theorem steps_eq (timeline : Timeline) (deadline : Option Nat) :
    timeline.steps deadline =
      (timeline.writes.filter fun write => inTime deadline write.1).flatMap writeSteps ++
        (if inTime deadline timeline.closing then [.close] else []) :=
  rfl

section

variable {write : Nat × Bytes} {writes : List (Nat × Bytes)}

theorem received_writeSteps (write : Nat × Bytes) : received (writeSteps write) = write.2 := by
  simp [received, writeSteps]

theorem reading_writeSteps (write : Nat × Bytes) : Reading (writeSteps write) := by
  simp [Reading, writeSteps]

theorem received_flatMap_writeSteps (writes : List (Nat × Bytes)) :
    received (writes.flatMap writeSteps) = writes.flatMap (·.2) := by
  induction writes with
  | nil => rfl
  | cons write rest ih =>
      rw [List.flatMap_cons, List.flatMap_cons, received_append, received_writeSteps, ih]

theorem reading_flatMap_writeSteps (writes : List (Nat × Bytes)) :
    Reading (writes.flatMap writeSteps) := by
  simp only [Reading, List.mem_flatMap, not_exists, not_and]
  exact ⟨fun write _ => (reading_writeSteps write).1, fun write _ => (reading_writeSteps write).2⟩

theorem interleaving_flatMap_writeSteps {stream : Bytes}
    (hwrites : writes.flatMap (·.2) <+: stream) :
    Interleaving stream (writes.flatMap writeSteps) := by
  induction writes using List.reverseRecOn with
  | nil => exact .initial
  | append_singleton earlier write ih =>
      rw [List.flatMap_append, List.flatMap_singleton] at hwrites ⊢
      have hearlier := ih ((List.prefix_append ..).trans hwrites)
      have harrive : Interleaving stream (earlier.flatMap writeSteps ++ [.arrive write.2]) := by
        apply hearlier.arrive (reading_flatMap_writeSteps earlier)
        rwa [received_flatMap_writeSteps]
      have htakes := harrive.takes (write.2.count 10)
      rwa [List.append_assoc] at htakes

end

/-- The steps of a timeline are one order of the reader's and the collector's steps. -/
theorem interleaving_steps (timeline : Timeline) (deadline : Option Nat) :
    Interleaving (timeline.written deadline) (timeline.steps deadline) := by
  rw [steps_eq]
  have hwrites := interleaving_flatMap_writeSteps
    (List.prefix_refl (timeline.written deadline))
  split
  · exact hwrites.close (reading_flatMap_writeSteps _) (received_flatMap_writeSteps _)
  · rwa [List.append_nil]

/-- A timed capture has every line of what was written in time; a line that has not ended
is in it only if the pipe was closed in time. -/
theorem capture_eq (timeline : Timeline) (deadline : Option Nat) :
    timeline.capture deadline =
      if inTime deadline timeline.closing then capturedLines (timeline.written deadline)
      else (endedLines (timeline.written deadline)).map lenientText := by
  have hreading := reading_flatMap_writeSteps
    (timeline.writes.filter fun write => inTime deadline write.1)
  have hexpire : .expire ∉ timeline.steps deadline := by
    rw [steps_eq]
    split
    · simp [writeSteps]
    · simp [writeSteps]
  have hlines : timeline.capture deadline =
      (start.run (timeline.steps deadline)).passed.map lenientText :=
    (drain_spec (exhausted_start.run hexpire)).1
  rw [hlines]
  by_cases hclosing : inTime deadline timeline.closing
  · have hclose : .close ∈ timeline.steps deadline := by simp [steps_eq, hclosing]
    rw [if_pos hclosing, capturedLines]
    cases (timeline.interleaving_steps deadline).progress with
    | reading hopen _ _ _ => exact absurd hclose hopen.1
    | ended _ _ _ hpassed => rw [hpassed]
    | failed hnoclose _ _ _ => exact absurd hclose hnoclose
  · have hsteps : timeline.steps deadline =
        (timeline.writes.filter fun write => inTime deadline write.1).flatMap writeSteps := by
      rw [steps_eq, if_neg hclosing, List.append_nil]
    rw [if_neg hclosing]
    cases (timeline.interleaving_steps deadline).progress with
    | reading _ _ _ hpassed =>
        rw [hpassed, hsteps, received_flatMap_writeSteps]
        rfl
    | ended hclose _ _ _ => exact absurd (hsteps ▸ hclose) hreading.1
    | failed _ hfail _ _ => exact absurd (hsteps ▸ hfail) hreading.2

end Timeline

end Conformance
