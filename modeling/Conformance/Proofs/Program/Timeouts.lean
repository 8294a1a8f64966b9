import Conformance.CommandLine
import Conformance.Deadline
import Conformance.Proofs.Computation
import Conformance.Proofs.Number.Spacing

/-!
# Which timeouts can be used

A timeout is admitted if it is positive and less than `2 ^ 64` seconds, and it is
rounded to nanoseconds.  A limit is of use if it is not zero and if the drain deadline
of every child can be shown by a clock, as long as the child is started in the first
half of the clock's range.  The two conditions do not agree: what is at most half a
nanosecond is admitted and rounded to zero, and from `2 ^ 62` seconds on the deadline
can pass the end of the range.  From `2 ^ 63` seconds on it always does when a child
ends by itself.

Because of the gap below every power of two, the rounding to nanoseconds moves no
timeout across one of these bounds, and the time of a poll and the grace fit in.
-/

namespace Conformance

/-! ## Deadlines that can be shown -/

/-- When waiting for a child was over. -/
def Ending.noticed : Ending → Nat
  | .exited time _ => nextPoll time
  | .stopped time => time

/-- The instants at which children may be started are the first half of those that a
clock can show. -/
def startBound : Nat := 2 ^ 62 * nanosPerSecond

/-- Every child that is started early enough and noticed in time gets a deadline. -/
def AlwaysDrains (limit : Nat) : Prop :=
  ∀ started, started < startBound → ∀ ending : Ending, ending.noticed ≤ nextPoll limit →
    (drainDeadline? started (some limit) ending).isSome

/-- No child that ends by itself gets a deadline. -/
def NeverDrains (limit : Nat) : Prop :=
  ∀ started time code, drainDeadline? started (some limit) (.exited time code) = none

/-- There is no limit, or a positive one that always drains. -/
def IsUsable (timeout : Option Nat) : Prop :=
  ∀ limit, timeout = some limit → 0 < limit ∧ AlwaysDrains limit

theorem instantBound_eq : instantBound = 2 * startBound := by
  decide

theorem le_nextPoll (time : Nat) : time ≤ nextPoll time := by
  unfold nextPoll firstPoll pollInterval
  omega

theorem nextPoll_le (time : Nat) : nextPoll time ≤ time + firstPoll + pollInterval := by
  unfold nextPoll firstPoll pollInterval
  omega

theorem instantAfter?_isSome_iff {instant span : Nat} :
    (instantAfter? instant span).isSome ↔ instant + span < instantBound := by
  unfold instantAfter?
  split <;> simp [*]

theorem drainDeadline?_stopped_isSome_iff {started limit time : Nat} :
    (drainDeadline? started (some limit) (.stopped time)).isSome ↔
      started + time + drainGrace < instantBound := by
  rw [← instantAfter?_isSome_iff]
  simp only [drainDeadline?, Option.isSome_map]

theorem drainDeadline?_exited_isSome_iff {started limit time : Nat} {code : Option Int} :
    (drainDeadline? started (some limit) (.exited time code)).isSome ↔
      started + limit < instantBound ∧
        started + nextPoll time + drainGrace < instantBound := by
  rw [← instantAfter?_isSome_iff, ← instantAfter?_isSome_iff]
  simp only [drainDeadline?]
  cases instantAfter? started limit with
  | none => simp
  | some stop =>
      cases instantAfter? (started + nextPoll time) drainGrace with
      | none => simp
      | some drained => simp

theorem alwaysDrains_iff {limit : Nat} :
    AlwaysDrains limit ↔ nextPoll limit + drainGrace ≤ startBound := by
  have hrange : instantBound = 2 * startBound := instantBound_eq
  constructor
  · intro hdrains
    have hlast := hdrains (startBound - 1) (by decide) (.stopped (nextPoll limit)) le_rfl
    rw [drainDeadline?_stopped_isSome_iff] at hlast
    have hsome : 0 < startBound := by decide
    omega
  · intro hroom started hstarted ending hnoticed
    cases ending with
    | exited time code =>
        have hlimit : limit ≤ nextPoll limit := le_nextPoll limit
        simp only [Ending.noticed] at hnoticed
        rw [drainDeadline?_exited_isSome_iff]
        constructor
        · omega
        · omega
    | stopped time =>
        simp only [Ending.noticed] at hnoticed
        rw [drainDeadline?_stopped_isSome_iff]
        omega

theorem neverDrains_iff {limit : Nat} : NeverDrains limit ↔ instantBound ≤ limit := by
  constructor
  · intro hnever
    by_contra hshort
    have hsome : (drainDeadline? 0 (some limit) (.exited 0 none)).isSome := by
      rw [drainDeadline?_exited_isSome_iff]
      constructor
      · omega
      · decide
    rw [hnever] at hsome
    cases hsome
  · intro hlong started time code
    by_contra hsome
    have hshown := drainDeadline?_exited_isSome_iff.1 (Option.isSome_iff_ne_none.2 hsome)
    omega

/-! ## Seconds and nanoseconds -/

/-- The number of nanoseconds nearest to a number of units. -/
def nanosOfUnits (units : Nat) : Nat :=
  roundHalfEven (units * nanosPerSecond) Binary64.unitsPerOne

section

variable {units : Nat}

theorem nanosOfUnits_pos_iff :
    0 < nanosOfUnits units ↔ (Binary64.finite false units).IsAbove 1 (2 * nanosPerSecond) := by
  have htwice : units * (2 * nanosPerSecond) = 2 * (units * nanosPerSecond) := by ring
  rw [nanosOfUnits, roundHalfEven_pos_iff Binary64.unitsPerOne_pos,
    Binary64.isAbove_finite_nonnegative, Nat.one_mul, htwice]

theorem le_nanosOfUnits {seconds : Nat} (hle : seconds * Binary64.unitsPerOne ≤ units) :
    seconds * nanosPerSecond ≤ nanosOfUnits units := by
  refine le_roundHalfEven_of_le Binary64.unitsPerOne_pos ?_
  calc seconds * nanosPerSecond * Binary64.unitsPerOne
      = seconds * Binary64.unitsPerOne * nanosPerSecond := Nat.mul_right_comm _ _ _
    _ ≤ units * nanosPerSecond := Nat.mul_le_mul_right _ hle

/-- A timeout below a power of two stays below it by the gap. -/
theorem nanosOfUnits_le (hunits : Binary64.IsRepresentable units) {place : Nat}
    (hlt : units < 2 ^ 53 * 2 ^ place * Binary64.unitsPerOne) :
    nanosOfUnits units ≤ (2 ^ 53 - 1) * 2 ^ place * nanosPerSecond := by
  have hgap : units ≤ (2 ^ 53 - 1) * 2 ^ place * Binary64.unitsPerOne :=
    hunits.le_whole_of_lt hlt
  refine roundHalfEven_le_of_le Binary64.unitsPerOne_pos ?_
  calc units * nanosPerSecond
      ≤ (2 ^ 53 - 1) * 2 ^ place * Binary64.unitsPerOne * nanosPerSecond :=
        Nat.mul_le_mul_right _ hgap
    _ = (2 ^ 53 - 1) * 2 ^ place * nanosPerSecond * Binary64.unitsPerOne :=
        Nat.mul_right_comm _ _ _

/-- Powers of two seconds are bounds for the nanoseconds just as for the seconds. -/
theorem nanosOfUnits_lt_iff (hunits : Binary64.IsRepresentable units) (place : Nat) :
    nanosOfUnits units < 2 ^ 53 * 2 ^ place * nanosPerSecond ↔
      (Binary64.finite false units).IsBelow (2 ^ 53 * 2 ^ place) 1 := by
  rw [Binary64.isBelow_finite_nonnegative, Nat.mul_one]
  constructor
  · intro hlt
    by_contra hge
    have hle := le_nanosOfUnits (Nat.le_of_not_lt hge)
    omega
  · intro hlt
    calc nanosOfUnits units ≤ (2 ^ 53 - 1) * 2 ^ place * nanosPerSecond :=
          nanosOfUnits_le hunits hlt
      _ < 2 ^ 53 * 2 ^ place * nanosPerSecond := by
          refine Nat.mul_lt_mul_of_pos_right ?_ (by decide)
          exact Nat.mul_lt_mul_of_pos_right (by decide) (Nat.two_pow_pos place)

theorem alwaysDrains_nanosOfUnits_iff (hunits : Binary64.IsRepresentable units) :
    AlwaysDrains (nanosOfUnits units) ↔ (Binary64.finite false units).IsBelow (2 ^ 62) 1 := by
  have hbound : startBound = 2 ^ 53 * 2 ^ 9 * nanosPerSecond := by decide
  rw [alwaysDrains_iff, show 2 ^ 62 = 2 ^ 53 * 2 ^ 9 by decide]
  constructor
  · intro hroom
    have hpoll : nanosOfUnits units ≤ nextPoll (nanosOfUnits units) := le_nextPoll _
    have hgrace : 0 < drainGrace := by decide
    exact (nanosOfUnits_lt_iff hunits 9).1 (by omega)
  · intro hbelow
    rw [Binary64.isBelow_finite_nonnegative, Nat.mul_one] at hbelow
    have hlimit : nanosOfUnits units ≤ (2 ^ 53 - 1) * 2 ^ 9 * nanosPerSecond :=
      nanosOfUnits_le hunits hbelow
    have hpoll : nextPoll (nanosOfUnits units) ≤ nanosOfUnits units + firstPoll + pollInterval :=
      nextPoll_le _
    have hgap : (2 ^ 53 - 1) * 2 ^ 9 * nanosPerSecond + (firstPoll + pollInterval + drainGrace) ≤
        startBound := by decide
    omega

theorem neverDrains_nanosOfUnits_iff (hunits : Binary64.IsRepresentable units) :
    NeverDrains (nanosOfUnits units) ↔ ¬(Binary64.finite false units).IsBelow (2 ^ 63) 1 := by
  have hbound : instantBound = 2 ^ 53 * 2 ^ 10 * nanosPerSecond := by decide
  rw [neverDrains_iff, show 2 ^ 63 = 2 ^ 53 * 2 ^ 10 by decide,
    ← nanosOfUnits_lt_iff hunits 10, hbound, Nat.not_lt]

/-- Rounding brings no timeout to the bound itself, so one comparison decides. -/
theorem nanosOfSeconds?_eq (hunits : Binary64.IsRepresentable units) :
    nanosOfSeconds? (.finite false units) =
      if (Binary64.finite false units).IsBelow (2 ^ 64) 1 then some (nanosOfUnits units)
      else none := by
  have hnanos := nanosOfUnits_lt_iff hunits 11
  rw [show 2 ^ 53 * 2 ^ 11 = 2 ^ 64 by decide] at hnanos
  have hseconds : (Binary64.finite false units).IsBelow (2 ^ 64) 1 ↔
      ¬Nat.pow 2 64 * Binary64.unitsPerOne ≤ units := by
    rw [Binary64.isBelow_finite_nonnegative, Nat.mul_one, Nat.not_le, Nat.pow_eq]
  by_cases hbelow : (Binary64.finite false units).IsBelow (2 ^ 64) 1
  · have hrange : nanosOfUnits units < Nat.pow 2 64 * nanosPerSecond := hnanos.2 hbelow
    rw [if_pos hbelow, nanosOfSeconds?, if_neg (by simp), if_neg (hseconds.1 hbelow)]
    exact if_pos hrange
  · have hlong : Nat.pow 2 64 * Binary64.unitsPerOne ≤ units := by
      by_contra hshort
      exact hbelow (hseconds.2 hshort)
    rw [if_neg hbelow, nanosOfSeconds?, if_neg (by simp), if_pos hlong]

end

/-! ## Timeouts of a command line -/

/-- What is known of the limit that a number of seconds is turned into. -/
structure IsLimitOf (seconds : Binary64) (limit : Nat) : Prop where
  nearest : ∃ units, seconds = .finite false units ∧
    IsNearestEven (units * nanosPerSecond) Binary64.unitsPerOne limit
  /-- More than half a nanosecond is needed. -/
  pos_iff : 0 < limit ↔ seconds.IsAbove 1 (2 * nanosPerSecond)
  alwaysDrains_iff : AlwaysDrains limit ↔ seconds.IsBelow (2 ^ 62) 1
  neverDrains_iff : NeverDrains limit ↔ ¬seconds.IsBelow (2 ^ 63) 1

theorem isLimitOf_nanosOfUnits {units : Nat} (hunits : Binary64.IsRepresentable units) :
    IsLimitOf (.finite false units) (nanosOfUnits units) where
  nearest := ⟨units, rfl, roundHalfEven_isNearestEven Binary64.unitsPerOne_pos _⟩
  pos_iff := nanosOfUnits_pos_iff
  alwaysDrains_iff := alwaysDrains_nanosOfUnits_iff hunits
  neverDrains_iff := neverDrains_nanosOfUnits_iff hunits

/-- A number of the format is admitted as a timeout if it is positive and below
`2 ^ 64` seconds. -/
def IsAdmitted (seconds : Binary64) : Prop :=
  seconds.IsAbove 0 1 ∧ seconds.IsBelow (2 ^ 64) 1

/-- What a number of seconds becomes as a timeout, and when that can be used: above half a
nanosecond and below `2 ^ 62` seconds, or if it is not admitted at all. -/
structure IsTimeoutOf (seconds : Binary64) (timeout : Option Nat) : Prop where
  isSome_iff : timeout.isSome ↔ IsAdmitted seconds
  limit : ∀ limit, timeout = some limit → IsLimitOf seconds limit
  usable_iff : IsUsable timeout ↔
    (IsAdmitted seconds →
      seconds.IsAbove 1 (2 * nanosPerSecond) ∧ seconds.IsBelow (2 ^ 62) 1)

theorem IsLimitOf.isTimeoutOf {seconds : Binary64} {limit : Nat}
    (hlimit : IsLimitOf seconds limit) (hadmitted : IsAdmitted seconds) :
    IsTimeoutOf seconds (some limit) := by
  have husable : IsUsable (some limit) ↔ 0 < limit ∧ AlwaysDrains limit := by
    constructor
    · intro hall
      exact hall limit rfl
    · intro hthis other hother
      have hsame : limit = other := Option.some.inj hother
      rw [← hsame]
      exact hthis
  constructor
  · exact iff_of_true rfl hadmitted
  · intro other hother
    have hsame : limit = other := Option.some.inj hother
    rw [← hsame]
    exact hlimit
  · rw [husable, hlimit.pos_iff, hlimit.alwaysDrains_iff]
    exact (imp_iff_right hadmitted).symm

theorem isTimeoutOf_none {seconds : Binary64} (hrefused : ¬IsAdmitted seconds) :
    IsTimeoutOf seconds none := by
  constructor
  · exact iff_of_false Bool.false_ne_true hrefused
  · intro limit hlimit
    cases hlimit
  · have husable : IsUsable none := by
      intro limit hlimit
      cases hlimit
    exact iff_of_true husable fun hadmitted => absurd hadmitted hrefused

namespace Arguments

variable {arguments : Arguments} {seconds : Binary64}

theorem settings_timeout_eq (htimeout : arguments.timeout = some seconds) :
    arguments.settings.timeout =
      if Binary64.lt .zero seconds then nanosOfSeconds? seconds else none := by
  simp only [settings, timeoutNanos, htimeout]

theorem settings_timeout_of_not_above (htimeout : arguments.timeout = some seconds)
    (hnot : ¬seconds.IsAbove 0 1) : arguments.settings.timeout = none := by
  have hlt : ¬Binary64.lt .zero seconds = true :=
    fun hlt => hnot ((Binary64.zero_lt_iff_isAbove seconds).1 hlt)
  rw [settings_timeout_eq htimeout, if_neg hlt]

theorem settings_timeout_of_above (htimeout : arguments.timeout = some seconds)
    (habove : seconds.IsAbove 0 1) :
    arguments.settings.timeout = nanosOfSeconds? seconds := by
  have hlt : Binary64.lt .zero seconds = true :=
    (Binary64.zero_lt_iff_isAbove seconds).2 habove
  rw [settings_timeout_eq htimeout, if_pos hlt]

/-- A number of the format is not positive, or finite and positive, or infinite. -/
theorem isTimeoutOf_settings (htimeout : arguments.timeout = some seconds)
    (hformat : seconds.IsOfFormat) : IsTimeoutOf seconds arguments.settings.timeout := by
  by_cases habove : seconds.IsAbove 0 1
  · rw [settings_timeout_of_above htimeout habove]
    cases habove.finite_or_infinite with
    | inl hfinite =>
        obtain ⟨units, hseconds⟩ := hfinite
        subst hseconds
        have hunits : Binary64.IsRepresentable units := hformat false units rfl
        rw [nanosOfSeconds?_eq hunits]
        split
        case isTrue hbelow => exact (isLimitOf_nanosOfUnits hunits).isTimeoutOf ⟨habove, hbelow⟩
        case isFalse hlong => exact isTimeoutOf_none fun hadmitted => hlong hadmitted.2
    | inr hinfinite =>
        subst hinfinite
        refine isTimeoutOf_none fun hadmitted => ?_
        cases hadmitted.2
  · rw [settings_timeout_of_not_above htimeout habove]
    exact isTimeoutOf_none fun hadmitted => habove hadmitted.1

/-- A command line can ask for nothing but a number of the format. -/
theorem isOfFormat_of_parse {words : List String} (hparse : parse words = .ok arguments)
    (htimeout : arguments.timeout = some seconds) : seconds.IsOfFormat := by
  obtain ⟨read, -, hread⟩ := bind_eq_ok.1 hparse
  obtain ⟨settled, -, hsettled⟩ := bind_eq_ok.1 hread
  obtain rfl : settled.arguments = arguments := Except.ok.inj hsettled
  obtain ⟨text, -, htext⟩ := Option.bind_eq_some_iff.1 htimeout
  exact Binary64.isOfFormat_of_ofText? htext

/-- The timeout of every command line that is understood. -/
theorem isTimeoutOf_of_parse {words : List String} (hparse : parse words = .ok arguments)
    (htimeout : arguments.timeout = some seconds) :
    IsTimeoutOf seconds arguments.settings.timeout :=
  isTimeoutOf_settings htimeout (isOfFormat_of_parse hparse htimeout)

end Arguments

/-- Which timeouts are admitted, what they become, and which of them can be used, for every
number that 64 bits encode. -/
theorem timeout_usable_iff (arguments : Arguments) (bits : Nat)
    (htimeout : arguments.timeout = some (.ofBits bits)) :
    (arguments.settings.timeout.isSome ↔ IsAdmitted (.ofBits bits)) ∧
      (∀ limit, arguments.settings.timeout = some limit → IsLimitOf (.ofBits bits) limit) ∧
      (IsUsable arguments.settings.timeout ↔
        (IsAdmitted (.ofBits bits) →
          (Binary64.ofBits bits).IsAbove 1 (2 * nanosPerSecond) ∧
            (Binary64.ofBits bits).IsBelow (2 ^ 62) 1)) := by
  have hformat : (Binary64.ofBits bits).IsOfFormat := Binary64.isOfFormat_ofBits bits
  have hrules := Arguments.isTimeoutOf_settings htimeout hformat
  exact ⟨hrules.isSome_iff, hrules.limit, hrules.usable_iff⟩

/-- A command line with a timeout of two and a half seconds. -/
def shortTimeout : Arguments :=
  { Reader.empty.arguments with timeout := some (.ofBits 4612811918334230528) }

theorem timeout_usable_iff_shortTimeout :
    shortTimeout.settings.timeout = some 2500000000 ∧ IsUsable shortTimeout.settings.timeout := by
  refine ⟨by decide +kernel, ?_⟩
  refine (timeout_usable_iff shortTimeout 4612811918334230528 rfl).2.2.2 fun _ => ?_
  constructor
  · decide +kernel
  · decide +kernel

/-- A tenth of a nanosecond is admitted as a limit of zero, and a timeout between the
two bounds as one for which no child that ends by itself gets a deadline. -/
theorem admitted_timeouts_unusable :
    (Arguments.parse ["--timeout", "1e-10"]).map (·.settings.timeout) = .ok (some 0) ∧
      (Arguments.parse ["--timeout", "1e19"]).map (·.settings.timeout) =
        .ok (some (10 ^ 28)) ∧
      ¬IsUsable (some 0) ∧ ¬IsUsable (some (10 ^ 28)) ∧ NeverDrains (10 ^ 28) := by
  have hnever : NeverDrains (10 ^ 28) := neverDrains_iff.2 (by decide)
  refine ⟨by decide +kernel, by decide +kernel, ?_, ?_, hnever⟩
  · intro husable
    exact absurd (husable 0 rfl).1 (Nat.lt_irrefl 0)
  · intro husable
    have hdrains : AlwaysDrains (10 ^ 28) := (husable _ rfl).2
    have hroom := alwaysDrains_iff.1 hdrains
    exact absurd hroom (by decide)

end Conformance
