import Conformance.Capture
import Conformance.Proofs.Text.Lines

/-!
# Every interleaving of the reader and the collector

A reader that gets a stream in any pieces and a collector that takes lines from the queue
share a state, and their steps may come in any order.  What the reader has kept and passed
on is computed from the bytes it has got alone (`Interleaving.progress`), whatever the
collector does in between; and the collector holds the first of the lines passed on, in
their order.  So what is collected is a beginning of the lines of the stream, and all of
them when the collector stops at the end of the pipe.
-/

namespace Conformance.Capture

/-- The bytes that have arrived. -/
def received (steps : List Step) : Bytes :=
  steps.flatMap fun
    | .arrive chunk => chunk
    | _ => []

/-- The lines the reader has passed on, taken or not. -/
def passed (state : Capture) : List Bytes := state.taken.reverse ++ state.queue

/-- The reader has met neither the end of the pipe nor an error. -/
def Reading (steps : List Step) : Prop := .close ∉ steps ∧ .fail ∉ steps

/-- The orders of steps of a reader of `stream` and a collector.  Nothing bounds the size of
a piece, the collector may try to take a line at any time, and its deadline may pass at
any time. -/
inductive Interleaving (stream : Bytes) : List Step → Prop
  | initial : Interleaving stream []
  | arrive {steps : List Step} {chunk : Bytes} (hsteps : Interleaving stream steps)
      (hreading : Reading steps) (hchunk : received steps ++ chunk <+: stream) :
      Interleaving stream (steps ++ [.arrive chunk])
  | close {steps : List Step} (hsteps : Interleaving stream steps)
      (hreading : Reading steps) (hall : received steps = stream) :
      Interleaving stream (steps ++ [.close])
  | fail {steps : List Step} (hsteps : Interleaving stream steps)
      (hreading : Reading steps) : Interleaving stream (steps ++ [.fail])
  | take {steps : List Step} (hsteps : Interleaving stream steps) :
      Interleaving stream (steps ++ [.take])
  | expire {steps : List Step} (hsteps : Interleaving stream steps) :
      Interleaving stream (steps ++ [.expire])

section

variable {stream : Bytes} {steps before after : List Step} {state : Capture} {chunk : Bytes}

theorem run_append (state : Capture) (before after : List Step) :
    state.run (before ++ after) = (state.run before).run after :=
  List.foldl_append ..

theorem received_append (before after : List Step) :
    received (before ++ after) = received before ++ received after :=
  List.flatMap_append ..

/-! ## The reader -/

/-- It makes no difference in how many pieces some bytes arrive. -/
theorem arrive_arrive (state : Capture) (first rest : Bytes) :
    (state.arrive first).arrive rest = state.arrive (first ++ rest) := by
  by_cases hclosed : state.closed = true
  · have hclosed_first : state.arrive first = state := if_pos hclosed
    have hclosed_both : state.arrive (first ++ rest) = state := if_pos hclosed
    rw [hclosed_first, hclosed_both]
    exact if_pos hclosed
  · have hcut := cutLines_append (10 : UInt8) (state.pending ++ first) rest
    rw [List.append_assoc] at hcut
    simp [Capture.arrive, hclosed, hcut]

theorem passed_take (state : Capture) : state.take.passed = state.passed := by
  unfold take
  split
  · rfl
  · split
    · rename_i line rest hqueue
      simp [passed, hqueue]
    · simp [passed]

theorem take_closed (state : Capture) : state.take.closed = state.closed := by
  unfold take
  split
  · rfl
  · split
    · rfl
    · rfl

theorem take_pending (state : Capture) : state.take.pending = state.pending := by
  unfold take
  split
  · rfl
  · split
    · rfl
    · rfl

/-- How far the reader of a stream is, in terms of the bytes it has got. -/
inductive Progress (stream : Bytes) (steps : List Step) (state : Capture) : Prop
  | reading (hreading : Reading steps) (hopen : state.closed = false)
      (hpending : state.pending = (cutLines (10 : UInt8) (received steps)).2)
      (hpassed : state.passed = endedLines (received steps))
  | ended (hclose : .close ∈ steps) (hfail : .fail ∉ steps) (hclosed : state.closed = true)
      (hpassed : state.passed = rawLines stream)
  | failed (hclose : .close ∉ steps) (hfail : .fail ∈ steps) (hclosed : state.closed = true)
      (hpassed : state.passed = endedLines (received steps))

/-- The collector's steps are none of the reader's business. -/
theorem Progress.of_collector {step : Step} {later : Capture}
    (hprogress : Progress stream steps state) (hclose : step ≠ .close) (hfail : step ≠ .fail)
    (hchunk : received [step] = []) (hclosed : later.closed = state.closed)
    (hpending : later.pending = state.pending) (hpassed : later.passed = state.passed) :
    Progress stream (steps ++ [step]) later := by
  have hreceived : received (steps ++ [step]) = received steps := by
    rw [received_append, hchunk, List.append_nil]
  cases hprogress with
  | reading hreading hopen hkept hlines =>
      refine .reading ⟨?_, ?_⟩ (hclosed.trans hopen) ?_ ?_
      · simpa [hreading.1] using hclose.symm
      · simpa [hreading.2] using hfail.symm
      · rw [hpending, hkept, hreceived]
      · rw [hpassed, hlines, hreceived]
  | ended hended hnofail hdone hlines =>
      have hended' : .close ∈ steps ++ [step] := List.mem_append_left _ hended
      have hnofail' : .fail ∉ steps ++ [step] := by
        simpa [hnofail] using hfail.symm
      exact .ended hended' hnofail' (hclosed.trans hdone) (hpassed.trans hlines)
  | failed hnoclose hfailed hdone hlines =>
      have hnoclose' : .close ∉ steps ++ [step] := by
        simpa [hnoclose] using hclose.symm
      have hfailed' : .fail ∈ steps ++ [step] := List.mem_append_left _ hfailed
      refine .failed hnoclose' hfailed' (hclosed.trans hdone) ?_
      rw [hpassed, hlines, hreceived]

/-- A piece is cut together with the line that had not ended. -/
theorem Progress.arrive (hprogress : Progress stream steps state) (hreading : Reading steps) :
    Progress stream (steps ++ [.arrive chunk]) (state.arrive chunk) := by
  cases hprogress with
  | reading _ hopen hpending hpassed =>
      have hreceived : received (steps ++ [.arrive chunk]) = received steps ++ chunk := by
        simp [received]
      have hcut := cutLines_append (10 : UInt8) (received steps) chunk
      simp only [← hpending] at hcut
      have hreading' : Reading (steps ++ [.arrive chunk]) := by
        constructor
        · simp [hreading.1]
        · simp [hreading.2]
      refine .reading hreading' ?_ ?_ ?_
      · simp [Capture.arrive, hopen]
      · simp [Capture.arrive, hopen, hreceived, hcut]
      · rw [hreceived, endedLines, hcut, List.map_append]
        change _ = endedLines (received steps) ++ _
        rw [← hpassed]
        simp [Capture.arrive, hopen, passed, queued]
  | ended hclose _ _ _ => exact absurd hclose hreading.1
  | failed _ hfail _ _ => exact absurd hfail hreading.2

/-- At the end of the pipe the line that had not ended is passed on too. -/
theorem Progress.close (hprogress : Progress stream steps state) (hreading : Reading steps)
    (hall : received steps = stream) : Progress stream (steps ++ [.close]) state.close := by
  cases hprogress with
  | reading _ hopen hpending hpassed =>
      have hclose : Step.close ∈ steps ++ [.close] := by simp
      have hnofail : .fail ∉ steps ++ [.close] := by simp [hreading.2]
      have hclosed : state.close.closed = true := by simp [Capture.close, hopen]
      refine .ended hclose hnofail hclosed ?_
      rw [← hall, rawLines_eq, ← hpending, ← hpassed]
      simp [Capture.close, hopen, passed, queued]
  | ended hclose _ _ _ => exact absurd hclose hreading.1
  | failed _ hfail _ _ => exact absurd hfail hreading.2

/-- An error loses the line that had not ended, and no other. -/
theorem Progress.fail (hprogress : Progress stream steps state) (hreading : Reading steps) :
    Progress stream (steps ++ [.fail]) state.fail := by
  cases hprogress with
  | reading _ hopen _ hpassed =>
      have hreceived : received (steps ++ [.fail]) = received steps := by
        simp [received]
      have hnoclose : .close ∉ steps ++ [.fail] := by simp [hreading.1]
      have hfail : Step.fail ∈ steps ++ [.fail] := by simp
      have hclosed : state.fail.closed = true := by simp [Capture.fail, hopen]
      refine .failed hnoclose hfail hclosed ?_
      rw [hreceived, ← hpassed]
      simp [Capture.fail, hopen, passed]
  | ended hclose _ _ _ => exact absurd hclose hreading.1
  | failed _ hfail _ _ => exact absurd hfail hreading.2

theorem Interleaving.progress (hsteps : Interleaving stream steps) :
    Progress stream steps (start.run steps) := by
  induction hsteps with
  | initial => exact .reading ⟨by simp, by simp⟩ rfl rfl rfl
  | arrive _ hreading _ ih =>
      rw [run_append]
      exact ih.arrive hreading
  | close _ hreading hall ih =>
      rw [run_append]
      exact ih.close hreading hall
  | fail _ hreading ih =>
      rw [run_append]
      exact ih.fail hreading
  | take _ ih =>
      rw [run_append]
      exact ih.of_collector (by simp) (by simp) rfl (take_closed _) (take_pending _)
        (passed_take _)
  | expire _ ih =>
      rw [run_append]
      exact ih.of_collector (by simp) (by simp) rfl rfl rfl rfl

theorem Interleaving.received_prefix (hsteps : Interleaving stream steps) :
    received steps <+: stream := by
  induction hsteps with
  | initial => exact List.nil_prefix
  | arrive _ _ hchunk _ => simpa [received] using hchunk
  | close _ _ _ ih => simpa [received] using ih
  | fail _ _ ih => simpa [received] using ih
  | take _ ih => simpa [received] using ih
  | expire _ ih => simpa [received] using ih

/-- What has happened so far is itself an interleaving. -/
theorem Interleaving.of_prefix (hsteps : Interleaving stream steps) (hbefore : before <+: steps) :
    Interleaving stream before := by
  have hconcat {earlier : List Step} {step : Step} (hwithin : before <+: earlier ++ [step])
      (hwhole : Interleaving stream (earlier ++ [step]))
      (ih : before <+: earlier → Interleaving stream before) : Interleaving stream before := by
    rcases List.prefix_concat_iff.mp hwithin with rfl | hearlier
    · exact hwhole
    · exact ih hearlier
  induction hsteps with
  | initial => rw [List.prefix_nil.mp hbefore]; exact .initial
  | arrive hsteps hreading hchunk ih => exact hconcat hbefore (.arrive hsteps hreading hchunk) ih
  | close hsteps hreading hall ih => exact hconcat hbefore (.close hsteps hreading hall) ih
  | fail hsteps hreading ih => exact hconcat hbefore (.fail hsteps hreading) ih
  | take hsteps ih => exact hconcat hbefore (.take hsteps) ih
  | expire hsteps ih => exact hconcat hbefore (.expire hsteps) ih

/-- Whatever the reader passes on is a beginning of the lines of the stream. -/
theorem Interleaving.passed_prefix (hsteps : Interleaving stream steps) :
    (start.run steps).passed <+: rawLines stream := by
  cases hsteps.progress with
  | reading _ _ _ hpassed =>
      rw [hpassed]
      exact endedLines_prefix hsteps.received_prefix
  | ended _ _ _ hpassed => rw [hpassed]
  | failed _ _ _ hpassed =>
      rw [hpassed]
      exact endedLines_prefix hsteps.received_prefix

/-! ## The collector -/

theorem lines_prefix_passed (state : Capture) :
    state.lines <+: state.passed.map lenientText := by
  unfold lines passed
  exact (List.prefix_append ..).map _

theorem perform_of_closed (hclosed : state.closed = true) {step : Step} (htake : step ≠ .take)
    (hexpire : step ≠ .expire) : state.perform step = state := by
  cases step with
  | arrive chunk => exact if_pos hclosed
  | close => exact if_pos hclosed
  | fail => exact if_pos hclosed
  | take => exact absurd rfl htake
  | expire => exact absurd rfl hexpire

/-- The reader's steps are none of the collector's business. -/
theorem collector_perform (state : Capture) {step : Step} (htake : step ≠ .take)
    (hexpire : step ≠ .expire) :
    (state.perform step).taken = state.taken ∧
      (state.perform step).finished = state.finished := by
  by_cases hclosed : state.closed = true
  · rw [perform_of_closed hclosed htake hexpire]
    exact ⟨rfl, rfl⟩
  · cases step with
    | arrive chunk => simp [perform, Capture.arrive, hclosed]
    | close => simp [perform, Capture.close, hclosed]
    | fail => simp [perform, Capture.fail, hclosed]
    | take => exact absurd rfl htake
    | expire => exact absurd rfl hexpire

/-- A collector that is done keeps what it has got. -/
theorem lines_run_of_finished (hfinished : state.finished = true) (steps : List Step) :
    (state.run steps).lines = state.lines := by
  induction steps generalizing state with
  | nil => rfl
  | cons step rest ih =>
      change ((state.perform step).run rest).lines = state.lines
      by_cases htake : step = .take
      · subst htake
        have hstep : state.perform .take = state := if_pos hfinished
        rw [hstep, ih hfinished]
      · by_cases hexpire : step = .expire
        · subst hexpire
          have hdone : (state.perform .expire).finished = true := rfl
          exact ih hdone
        · obtain ⟨htaken, hdone⟩ := collector_perform state htake hexpire
          rw [ih (hdone.trans hfinished), lines, lines, htaken]

/-- If the collector is done, the pipe is closed and nothing is left in the queue. -/
def Exhausted (state : Capture) : Prop :=
  state.finished = true → state.closed = true ∧ state.queue = []

/-- Only a deadline makes the collector stop early. -/
theorem Exhausted.perform (hstate : Exhausted state) {step : Step} (hexpire : step ≠ .expire) :
    Exhausted (state.perform step) := by
  intro hfinished
  by_cases htake : step = .take
  · subst htake
    by_cases hdone : state.finished = true
    · have hstep : state.perform .take = state := if_pos hdone
      rw [hstep]
      exact hstate hdone
    · cases hqueue : state.queue with
      | nil => simpa [Capture.perform, Capture.take, hdone, hqueue] using hfinished
      | cons line rest => simp [Capture.perform, Capture.take, hdone, hqueue] at hfinished
  · rw [(collector_perform state htake hexpire).2] at hfinished
    rw [perform_of_closed (hstate hfinished).1 htake hexpire]
    exact hstate hfinished

theorem Exhausted.run (hstate : Exhausted state) (hsteps : .expire ∉ steps) :
    Exhausted (state.run steps) := by
  induction steps generalizing state with
  | nil => exact hstate
  | cons step rest ih =>
      simp only [List.mem_cons, not_or] at hsteps
      exact ih (hstate.perform (Ne.symm hsteps.1)) hsteps.2

theorem exhausted_start : Exhausted start := by
  intro hfinished
  cases hfinished

/-- A collector that takes all there is gets every line passed on, and is done if the pipe
is closed. -/
theorem drain_spec (hstate : Exhausted state) :
    state.drain.lines = state.passed.map lenientText ∧ state.drain.finished = state.closed := by
  unfold drain
  by_cases hfinished : state.finished = true
  · obtain ⟨hclosed, hqueue⟩ := hstate hfinished
    have hstep : state.take = state := if_pos hfinished
    have hrun : state.run (List.replicate (state.queue.length + 1) .take) = state := by
      rw [hqueue]
      exact hstep
    rw [hrun, hclosed, hfinished, lines, passed, hqueue, List.append_nil]
    exact ⟨rfl, rfl⟩
  · clear hstate
    generalize hqueue : state.queue = queue
    induction queue generalizing state with
    | nil =>
        have hstep : state.take = { state with finished := state.closed } := by
          simp [Capture.take, hfinished, hqueue]
        change state.take.lines = _ ∧ state.take.finished = _
        rw [hstep, lines, passed, hqueue, List.append_nil]
        exact ⟨rfl, rfl⟩
    | cons line rest ih =>
        have hstep :
            state.take = { state with queue := rest, taken := line :: state.taken } := by
          simp [Capture.take, hfinished, hqueue]
        have hrun :
            state.run (List.replicate ((line :: rest).length + 1) .take) =
              state.take.run (List.replicate (rest.length + 1) .take) := rfl
        rw [hrun, ← passed_take, ← take_closed]
        apply ih
        · rw [hstep]
          exact hfinished
        · rw [hstep]

/-! ## The lines collected -/

theorem Interleaving.lines_prefix (hsteps : Interleaving stream steps) :
    (start.run steps).lines <+: capturedLines stream :=
  (lines_prefix_passed _).trans (hsteps.passed_prefix.map _)

/-- A collector that stops at the end of the pipe has got every line. -/
theorem Interleaving.lines_of_finished (hsteps : Interleaving stream steps)
    (hfail : .fail ∉ steps) (hexpire : .expire ∉ steps)
    (hfinished : (start.run steps).finished = true) :
    (start.run steps).lines = capturedLines stream := by
  obtain ⟨hclosed, hqueue⟩ := exhausted_start.run hexpire hfinished
  have hlines : (start.run steps).lines = (start.run steps).passed.map lenientText := by
    rw [lines, passed, hqueue, List.append_nil]
  cases hsteps.progress with
  | reading _ hopen _ _ => exact absurd hclosed (by simp [hopen])
  | ended _ _ _ hpassed => rw [hlines, hpassed, capturedLines]
  | failed _ hfailed _ _ => exact absurd hfailed hfail

/-- A last line without a newline may also be queued in one step, which is what a newline would
do, and the queue be closed in another: the lines of the stream are the same. -/
theorem Interleaving.lines_of_flush (hsteps : Interleaving (stream ++ [10]) steps)
    (hopen : (cutLines (10 : UInt8) stream).2 ≠ []) :
    (start.run steps).lines <+: capturedLines stream ∧
      (.fail ∉ steps → .expire ∉ steps → (start.run steps).finished = true →
        (start.run steps).lines = capturedLines stream) := by
  have hsame : capturedLines (stream ++ [10]) = capturedLines stream := by
    rw [capturedLines, rawLines_append_newline hopen, capturedLines]
  rw [← hsame]
  exact ⟨hsteps.lines_prefix, hsteps.lines_of_finished⟩

/-- A deadline that passes before the end of the pipe leaves only lines that have ended. -/
theorem Interleaving.lines_of_expire (hsteps : Interleaving stream (before ++ .expire :: after))
    (hclose : .close ∉ before) :
    (start.run before).lines <+: (endedLines (received before)).map lenientText := by
  have hbefore := hsteps.of_prefix (List.prefix_append before _)
  have hpassed : (start.run before).passed = endedLines (received before) := by
    cases hbefore.progress with
    | reading _ _ _ hpassed => exact hpassed
    | ended hended _ _ _ => exact absurd hended hclose
    | failed _ _ _ hpassed => exact hpassed
  rw [← hpassed]
  exact lines_prefix_passed _

theorem lines_after_expire (before after : List Step) :
    (start.run (before ++ .expire :: after)).lines = (start.run before).lines := by
  have hdone : ((start.run before).perform .expire).finished = true := rfl
  rw [run_append]
  exact lines_run_of_finished hdone after

/-- However the stream is cut and the steps are interleaved, the lines collected are the
first lines of the stream: nothing is lost in between, doubled or out of order.  They are
all its lines if the collector sees the end of a pipe that could be read to its end, which
it does unless a deadline comes first; and a deadline never lets in a line of which only a
part was read.  It makes no difference whether bytes arrive in one piece or in two, nor
whether a last line without a newline is queued in the step that closes the queue or in one
before, as if a newline had come. -/
theorem lines_captured_in_order (hsteps : Interleaving stream steps) :
    (start.run steps).lines <+: capturedLines stream ∧
      (∀ before after, steps = before ++ .expire :: after →
        (start.run steps).lines = (start.run before).lines ∧
          (.close ∉ before →
            (start.run steps).lines <+: (endedLines (received before)).map lenientText)) ∧
      (.fail ∉ steps →
        (∀ before, before <+: steps → .expire ∉ before → (start.run before).finished = true →
          (start.run steps).lines = capturedLines stream) ∧
        (.close ∈ steps → .expire ∉ steps →
          (start.run steps).drain.finished = true ∧
            (start.run steps).drain.lines = capturedLines stream)) ∧
      (∀ before first rest after, steps = before ++ .arrive first :: .arrive rest :: after →
        start.run steps = start.run (before ++ .arrive (first ++ rest) :: after)) ∧
      (∀ written, stream = written ++ [10] → (cutLines (10 : UInt8) written).2 ≠ [] →
        (start.run steps).lines <+: capturedLines written ∧
          (.fail ∉ steps → .expire ∉ steps → (start.run steps).finished = true →
            (start.run steps).lines = capturedLines written)) := by
  refine ⟨hsteps.lines_prefix, ?expired, fun hfail => ⟨?finished, ?drained⟩, ?cut, ?flushed⟩
  case expired =>
    intro before after hsplit
    rw [hsplit] at hsteps
    rw [hsplit, lines_after_expire]
    exact ⟨rfl, hsteps.lines_of_expire⟩
  case finished =>
    intro before hbegins hexpire hfinished
    obtain ⟨after, hsplit⟩ := hbegins
    have hbefore := hsteps.of_prefix ⟨after, hsplit⟩
    have hnofail : .fail ∉ before := by
      intro hmem
      rw [← hsplit] at hfail
      exact hfail (List.mem_append_left _ hmem)
    rw [← hsplit, run_append, lines_run_of_finished hfinished]
    exact hbefore.lines_of_finished hnofail hexpire hfinished
  case drained =>
    intro hclose hexpire
    obtain ⟨hlines, hdone⟩ := drain_spec (exhausted_start.run hexpire)
    rw [hlines, hdone]
    cases hsteps.progress with
    | reading hreading _ _ _ => exact absurd hclose hreading.1
    | ended _ _ hclosed hpassed =>
        refine ⟨hclosed, ?_⟩
        rw [hpassed, capturedLines]
    | failed hnoclose _ _ _ => exact absurd hclose hnoclose
  case cut =>
    intro before first rest after hsplit
    rw [hsplit]
    have htwo : (((start.run before).arrive first).arrive rest).run after =
        ((start.run before).arrive (first ++ rest)).run after := by
      rw [arrive_arrive]
    rw [run_append, run_append]
    exact htwo
  case flushed =>
    intro written hstream hopen
    rw [hstream] at hsteps
    exact hsteps.lines_of_flush hopen

end

/-- Two lines, the second without a newline, in two pieces: all of it up to the end of the pipe,
and with a deadline that passes when the second line has been read in part. -/
theorem lines_captured_in_order_of_two_lines :
    (start.run [.arrive [97, 98, 10, 99], .take, .arrive [100], .close, .take, .take]).lines =
        ["ab", "cd"] ∧
      (start.run [.arrive [97, 98, 10, 99], .take, .expire, .arrive [100], .take]).lines <+:
        ["ab"] := by
  have hread : Interleaving [97, 98, 10, 99, 100] [.arrive [97, 98, 10, 99]] :=
    Interleaving.initial.arrive ⟨by decide, by decide⟩ (by decide)
  have htaken : Interleaving [97, 98, 10, 99, 100] [.arrive [97, 98, 10, 99], .take] :=
    hread.take
  constructor
  · have hall : Interleaving [97, 98, 10, 99, 100]
        [.arrive [97, 98, 10, 99], .take, .arrive [100]] :=
      htaken.arrive ⟨by decide, by decide⟩ (by decide)
    have hclosed : Interleaving [97, 98, 10, 99, 100]
        [.arrive [97, 98, 10, 99], .take, .arrive [100], .close] :=
      hall.close ⟨by decide, by decide⟩ (by decide)
    have hcaptured := (lines_captured_in_order hclosed.take.take).2.2.1 (by decide)
    have hlines : capturedLines [97, 98, 10, 99, 100] = ["ab", "cd"] := by decide +kernel
    rw [← hlines]
    exact hcaptured.1 _ List.prefix_rfl (by decide) (by decide)
  · have hexpired : Interleaving [97, 98, 10, 99, 100]
        [.arrive [97, 98, 10, 99], .take, .expire] := htaken.expire
    have hlater : Interleaving [97, 98, 10, 99, 100]
        [.arrive [97, 98, 10, 99], .take, .expire, .arrive [100]] :=
      hexpired.arrive ⟨by decide, by decide⟩ (by decide)
    obtain ⟨_, hcaptured, _⟩ := lines_captured_in_order hlater.take
    have hbefore := hcaptured [.arrive [97, 98, 10, 99], .take] [.arrive [100], .take] rfl
    exact hbefore.2 (by decide)

end Conformance.Capture
