import Conformance.Program
import Mathlib.Tactic

/-!
# What a console does for a notice

The bytes on a console do not show everything that its writer is asked to do: a change
of color leaves no byte on a plain console, and on any other it cannot be told from a
text with the same bytes.  This module performs the strokes of a notice as operations of
the writer, so that the bytes are what the operations leave behind.

The text that a writer accepts is the beginning of the text of all strokes, as long as
its budget.  Every performance ends with a reset.  The strokes of every notice are
`Balanced`: between two changes of color there is a reset, with nothing but text before
it.
-/

namespace Conformance

/-- What the writer of a console did. -/
inductive Operation where
  | accept (bytes : Bytes)
  | paint (bold : Bool) (color : Option Color)
  | reset
deriving DecidableEq, Repr

namespace Operation

def text : Operation → Bytes
  | .accept bytes => bytes
  | .paint _ _ => []
  | .reset => []

def isColor : Operation → Bool
  | .accept _ => false
  | .paint _ _ => true
  | .reset => true

end Operation

def acceptedText (operations : List Operation) : Bytes := operations.flatMap Operation.text

def lastColor? (operations : List Operation) : Option Operation :=
  (operations.filter Operation.isColor).getLast?

/-- Each change of color is followed by a reset, with only text in between. -/
def ResetsEachPaint (operations : List Operation) : Prop :=
  ∀ earlier bold color later, operations = earlier ++ .paint bold color :: later →
    ∃ texts rest, later = texts ++ .reset :: rest ∧ ∀ op ∈ texts, op.isColor = false

def Stroke.bytes : Stroke → Bytes
  | .text content => bytesOfText content
  | .paint _ _ => []
  | .reset => []

/-! ## Performing strokes -/

/-- Performs strokes with a budget of text bytes, and resets at the end.  A text that
goes beyond the budget is cut, and what follows it is abandoned. -/
def draw : Option Nat → List Stroke → List Operation
  | _, [] => [.reset]
  | budget, .paint bold color :: rest => .paint bold color :: draw budget rest
  | budget, .reset :: rest => .reset :: draw budget rest
  | none, .text content :: rest => .accept (bytesOfText content) :: draw none rest
  | some budget, .text content :: rest =>
    let bytes := bytesOfText content
    if bytes.length ≤ budget then .accept bytes :: draw (some (budget - bytes.length)) rest
    else [.accept (bytes.take budget), .reset]

/-- The bytes that an operation leaves on a console. -/
def Console.operationBytes (console : Console) : Operation → Bytes
  | .accept bytes => bytes
  | .paint bold color => console.sequence (paintCode bold color)
  | .reset => console.sequence resetCode

theorem Console.perform_eq_draw (console : Console) (budget : Option Nat)
    (strokes : List Stroke) :
    console.perform budget strokes = (draw budget strokes).flatMap console.operationBytes := by
  induction strokes generalizing budget with
  | nil => simp [Console.perform, draw, Console.operationBytes]
  | cons stroke rest ih =>
      cases stroke with
      | paint bold color => simp [Console.perform, draw, Console.operationBytes, ih]
      | reset => simp [Console.perform, draw, Console.operationBytes, ih]
      | text content =>
          cases budget with
          | none => simp [Console.perform, draw, Console.operationBytes, ih]
          | some budget =>
              simp only [Console.perform, draw]
              by_cases hfits : (bytesOfText content).length ≤ budget
              · simp [hfits, Console.operationBytes, ih]
              · simp [hfits, Console.operationBytes]

/-! ## The text -/

theorem acceptedText_draw_none (strokes : List Stroke) :
    acceptedText (draw none strokes) = strokes.flatMap Stroke.bytes := by
  induction strokes with
  | nil => rfl
  | cons stroke rest ih =>
      unfold acceptedText at ih ⊢
      cases stroke with
      | text content => simp only [draw, List.flatMap_cons, Operation.text, Stroke.bytes, ih]
      | _ => simp only [draw, List.flatMap_cons, Operation.text, Stroke.bytes, ih]

theorem acceptedText_draw_some (budget : Nat) (strokes : List Stroke) :
    acceptedText (draw (some budget) strokes) = (strokes.flatMap Stroke.bytes).take budget := by
  induction strokes generalizing budget with
  | nil => simp [acceptedText, draw, Operation.text]
  | cons stroke rest ih =>
      unfold acceptedText at ih ⊢
      cases stroke with
      | paint bold color =>
          simp only [draw, List.flatMap_cons, Operation.text, Stroke.bytes, ih, List.nil_append]
      | reset =>
          simp only [draw, List.flatMap_cons, Operation.text, Stroke.bytes, ih, List.nil_append]
      | text content =>
          rw [List.flatMap_cons, Stroke.bytes, List.take_append]
          simp only [draw]
          by_cases hfits : (bytesOfText content).length ≤ budget
          · rw [if_pos hfits, List.flatMap_cons, Operation.text, ih, List.take_of_length_le hfits]
          · have hspent : budget - (bytesOfText content).length = 0 := by omega
            rw [if_neg hfits, hspent, List.take_zero]
            rfl

/-! ## The colors -/

theorem lastColor?_cons {operations : List Operation} {last : Operation} (op : Operation)
    (hlast : lastColor? operations = some last) : lastColor? (op :: operations) = some last := by
  unfold lastColor? at hlast ⊢
  rw [List.filter_cons]
  split
  · rw [List.getLast?_cons, hlast, Option.getD_some]
  · exact hlast

/-- The colors are restored, wherever the writer fails. -/
theorem lastColor?_draw (budget : Option Nat) (strokes : List Stroke) :
    lastColor? (draw budget strokes) = some .reset := by
  induction strokes generalizing budget with
  | nil => rfl
  | cons stroke rest ih =>
      cases stroke with
      | paint bold color =>
          simp only [draw]
          exact lastColor?_cons _ (ih budget)
      | reset =>
          simp only [draw]
          exact lastColor?_cons _ (ih budget)
      | text content =>
          cases budget with
          | none =>
              simp only [draw]
              exact lastColor?_cons _ (ih none)
          | some budget =>
              simp only [draw]
              by_cases hfits : (bytesOfText content).length ≤ budget
              · rw [if_pos hfits]
                exact lastColor?_cons _ (ih _)
              · rw [if_neg hfits]
                rfl

theorem ResetsEachPaint.cons {op : Operation} {operations : List Operation}
    (hop : ∀ bold color, op ≠ .paint bold color) (hrest : ResetsEachPaint operations) :
    ResetsEachPaint (op :: operations) := by
  intro earlier bold color later heq
  cases earlier with
  | nil =>
      obtain ⟨hpaint, -⟩ := List.cons.inj heq
      exact absurd hpaint (hop bold color)
  | cons first earlier =>
      obtain ⟨-, htail⟩ := List.cons.inj heq
      exact hrest earlier bold color later htail

theorem ResetsEachPaint.accept_append {texts : List Bytes} {operations : List Operation}
    (hrest : ResetsEachPaint operations) :
    ResetsEachPaint (texts.map .accept ++ operations) := by
  induction texts with
  | nil => exact hrest
  | cons bytes texts ih => exact ih.cons (by simp)

theorem ResetsEachPaint.block {texts : List Bytes} {operations : List Operation}
    (bold : Bool) (color : Option Color) (hrest : ResetsEachPaint operations) :
    ResetsEachPaint (.paint bold color :: (texts.map .accept ++ .reset :: operations)) := by
  have hinner : ResetsEachPaint (texts.map .accept ++ .reset :: operations) :=
    (hrest.cons (by simp)).accept_append
  intro earlier bold' color' later heq
  cases earlier with
  | nil =>
      obtain ⟨-, hlater⟩ := List.cons.inj heq
      refine ⟨texts.map .accept, operations, hlater.symm, ?_⟩
      intro op hop
      obtain ⟨bytes, -, rfl⟩ := List.mem_map.1 hop
      rfl
  | cons first earlier =>
      obtain ⟨-, htail⟩ := List.cons.inj heq
      exact hinner earlier bold' color' later htail

/-! ## Balanced strokes -/

/-- Text, and blocks of text between a change of color and a reset. -/
inductive Balanced : List Stroke → Prop where
  | nil : Balanced []
  | text (content : String) {rest : List Stroke} (hrest : Balanced rest) :
      Balanced (.text content :: rest)
  | block (bold : Bool) (color : Option Color) (contents : List String) {rest : List Stroke}
      (hrest : Balanced rest) :
      Balanced (.paint bold color :: (contents.map .text ++ .reset :: rest))

theorem draw_none_texts (contents : List String) (rest : List Stroke) :
    draw none (contents.map .text ++ rest) =
      (contents.map bytesOfText).map .accept ++ draw none rest := by
  induction contents with
  | nil => rfl
  | cons content contents ih => simp only [List.map_cons, List.cons_append, draw, ih]

theorem Balanced.resetsEachPaint {strokes : List Stroke} (hbalanced : Balanced strokes) :
    ResetsEachPaint (draw none strokes) := by
  induction hbalanced with
  | nil =>
      refine ResetsEachPaint.cons (by simp) ?_
      intro earlier bold color later heq
      simp at heq
  | text content _ ih => exact ih.cons (by simp)
  | block bold color contents _ ih =>
      simp only [draw, draw_none_texts]
      exact ih.block bold color

namespace Balanced

theorem append {first rest : List Stroke} (hfirst : Balanced first) (hrest : Balanced rest) :
    Balanced (first ++ rest) := by
  induction hfirst with
  | nil => exact hrest
  | text content _ ih => exact ih.text content
  | block bold color contents _ ih =>
      rw [List.cons_append, List.append_assoc]
      exact ih.block bold color contents

theorem flatMap {α : Type} {strokes : α → List Stroke} (hstrokes : ∀ a, Balanced (strokes a))
    (list : List α) : Balanced (list.flatMap strokes) := by
  induction list with
  | nil => exact nil
  | cons a rest ih =>
      rw [List.flatMap_cons]
      exact (hstrokes a).append ih

theorem texts {α : Type} (content : α → String) (list : List α) :
    Balanced (list.map fun a => .text (content a)) := by
  induction list with
  | nil => exact nil
  | cons a rest ih => exact ih.text (content a)

end Balanced

theorem DiffLine.strokes_balanced (line : DiffLine) : Balanced line.strokes := by
  cases line with
  | same text => exact .text _ .nil
  | expected text => exact .block false (some .green) [_] .nil
  | actual text => exact .block false (some .red) [_] .nil

theorem Failure.strokes_balanced (failure : Failure) : Balanced failure.strokes := by
  have hmessage : Balanced [.paint false (some .red), .line ("    " ++ failure.message), .reset] :=
    .block false (some .red) [_] .nil
  unfold Failure.strokes
  refine ((((hmessage.append ?_).append ?_).append ?_).append ?_).append (.text _ .nil)
  · split
    · exact .text _ .nil
    · exact .nil
  · split
    · exact .text _ .nil
    · exact .nil
  · exact .flatMap DiffLine.strokes_balanced failure.diff
  · exact .texts _ failure.transcript

theorem Decision.strokes_balanced (decision : Decision) : Balanced decision.strokes := by
  cases decision with
  | proceed => exact .nil
  | abort tolerance failureRate => exact .block true (some .red) [_, _] .nil

theorem Tally.strokes_balanced (tally : Tally) : Balanced tally.strokes := by
  unfold Tally.strokes
  split
  · exact .text _ .nil
  · exact .block false _ [_] .nil

theorem Summary.strokes_balanced (summary : Summary) : Balanced summary.strokes := by
  unfold Summary.strokes
  refine Balanced.append ?_ ?_
  · exact .block true none [_] (.text _ (.block false _ [_] .nil))
  · split
    · exact .text _ .nil
    · exact .nil

theorem Notice.strokes_balanced {notice : Notice} {strokes : List Stroke}
    (hstrokes : notice.strokes? = some strokes) : Balanced strokes := by
  cases notice with
  | groupStarted group =>
      cases hstrokes
      exact .block true none [_] (.text _ (.text _ .nil))
  | compilationStarted run =>
      cases hstrokes
      exact .text _ .nil
  | checkFailed run ordinal command check =>
      obtain ⟨failure, -, rfl⟩ := Option.map_eq_some_iff.1 hstrokes
      exact .text _ failure.strokes_balanced
  | groupFinished group tally decision =>
      cases hstrokes
      refine .text _ ((tally.strokes_balanced.append decision.strokes_balanced).append ?_)
      exact .text _ (.text _ (.text _ .nil))
  | sessionFinished summary =>
      cases hstrokes
      exact summary.strokes_balanced

/-! ## Notices -/

namespace Console

/-- What the writer of a console does for a notice. -/
def performed (console : Console) (notice : Notice) : List Operation :=
  match notice.strokes? with
  | some strokes => draw console.limit strokes
  | none => []

/-- As much of a text as the writer accepts. -/
def within (console : Console) (text : Bytes) : Bytes :=
  match console.limit with
  | none => text
  | some limit => text.take limit

/-- Operations are what a console should do for a notice: they leave the bytes that it
renders, their text is the beginning of the plain rendering, the colors are restored at
the end, and without a limit also before every further change. -/
structure Displays (console : Console) (notice : Notice) (operations : List Operation) :
    Prop where
  bytes : operations.flatMap console.operationBytes = console.render notice
  text : acceptedText operations = console.within (Console.plain.render notice)
  silent : notice.strokes? = none → operations = []
  restored : notice.strokes?.isSome → lastColor? operations = some .reset
  paired : console.limit = none → ResetsEachPaint operations

theorem plain_perform (strokes : List Stroke) :
    Console.plain.perform none strokes = strokes.flatMap Stroke.bytes := by
  induction strokes with
  | nil => rfl
  | cons stroke rest ih =>
      rw [List.flatMap_cons, ← ih]
      cases stroke with
      | text content => rfl
      | _ => rfl

theorem acceptedText_draw (console : Console) (strokes : List Stroke) :
    acceptedText (draw console.limit strokes) =
      console.within (Console.plain.perform none strokes) := by
  rw [plain_perform, within]
  cases console.limit with
  | none => exact acceptedText_draw_none strokes
  | some limit => exact acceptedText_draw_some limit strokes

theorem displays_performed (console : Console) (notice : Notice) :
    console.Displays notice (console.performed notice) := by
  unfold performed
  cases hstrokes : notice.strokes? with
  | none =>
      have hplain : Console.plain.render notice = [] := by simp only [render, hstrokes]
      refine ⟨?bytes, ?shown, fun _ => rfl, ?restored, ?paired⟩
      case bytes => simp only [render, hstrokes, List.flatMap_nil]
      case shown =>
        rw [hplain, within]
        cases console.limit with
        | none => simp [acceptedText]
        | some limit => simp [acceptedText]
      case restored => simp [hstrokes]
      case paired =>
        intro _ earlier bold color later heq
        simp at heq
  | some strokes =>
      have hplain : Console.plain.render notice = Console.plain.perform none strokes := by
        simp only [render, hstrokes]
        rfl
      refine ⟨?bytes, ?shown, ?silent, fun _ => lastColor?_draw _ strokes, ?paired⟩
      case bytes => simp only [render, hstrokes, console.perform_eq_draw]
      case shown =>
        rw [hplain]
        exact console.acceptedText_draw strokes
      case silent => simp [hstrokes]
      case paired =>
        intro hlimit
        simp only [hlimit]
        exact (Notice.strokes_balanced hstrokes).resetsEachPaint

end Console

end Conformance
