import Conformance.Tool.Input

/-!
# The calendar

Instants are nanoseconds since the start of 1970.  A day is found from the number of
days since then: years begin in March, so that the day that may be missing is the last,
and four hundred years always have the same number of days.
-/

namespace Conformance.Tool

/-- A day and a time of day. -/
structure Moment where
  year : Int
  month : Nat
  day : Nat
  hour : Nat
  minute : Nat
  second : Nat
  nanos : Nat
  /-- The days since the first of January 1970. -/
  days : Int

namespace Moment

def eraDays : Int := 146097

/-- The days from the start of 1970 to the start of March of the year zero, backwards. -/
def eraShift : Int := 719468

def dateOf (days : Int) : Int × Nat × Nat :=
  let shifted := days + eraShift
  let era := shifted.fdiv eraDays
  let dayOfEra := (shifted - era * eraDays).toNat
  let yearOfEra := (dayOfEra - dayOfEra / 1460 + dayOfEra / 36524 - dayOfEra / 146096) / 365
  let dayOfYear := dayOfEra - (365 * yearOfEra + yearOfEra / 4 - yearOfEra / 100)
  let shiftedMonth := (5 * dayOfYear + 2) / 153
  let day := dayOfYear - (153 * shiftedMonth + 2) / 5 + 1
  let month := if shiftedMonth < 10 then shiftedMonth + 3 else shiftedMonth - 9
  let year := Int.ofNat yearOfEra + era * 400
  (if month ≤ 2 then year + 1 else year, month, day)

def daysOf (year : Int) (month day : Nat) : Int :=
  let shifted := if month ≤ 2 then year - 1 else year
  let era := shifted.fdiv 400
  let yearOfEra := (shifted - era * 400).toNat
  let shiftedMonth := if 2 < month then month - 3 else month + 9
  let dayOfYear := (153 * shiftedMonth + 2) / 5 + day - 1
  let dayOfEra := yearOfEra * 365 + yearOfEra / 4 - yearOfEra / 100 + dayOfYear
  era * eraDays + Int.ofNat dayOfEra - eraShift

def ofNanos (instant : Nat) : Moment :=
  let seconds := instant / 1000000000
  let days := Int.ofNat (seconds / 86400)
  let (year, month, day) := dateOf days
  let rest := seconds % 86400
  ⟨year, month, day, rest / 3600, rest / 60 % 60, rest % 60, instant % 1000000000, days⟩

/-- The instant of a date and a time, in nanoseconds. -/
def nanosOf (year : Int) (month day hour minute second : Nat) : Nat :=
  ((daysOf year month day * 86400 + Int.ofNat (hour * 3600 + minute * 60 + second)) *
    1000000000).toNat

def monthNames : List String :=
  ["January", "February", "March", "April", "May", "June", "July", "August", "September",
    "October", "November", "December"]

def dayNames : List String :=
  ["Sunday", "Monday", "Tuesday", "Wednesday", "Thursday", "Friday", "Saturday"]

def weekday (moment : Moment) : Nat := ((moment.days + 4).emod 7).toNat

def yearDay (moment : Moment) : Nat :=
  (moment.days - daysOf moment.year 1 1).toNat + 1

/-- A number with zeros in front. -/
def padded (width n : Nat) : String :=
  let digits := toString n
  String.ofList (List.replicate (width - digits.length) '0') ++ digits

def short (name : String) : String := String.ofList (name.toList.take 3)

def field (moment : Moment) (letter : Char) : Option String :=
  let month := monthNames.getD (moment.month - 1) ""
  let day := dayNames.getD moment.weekday ""
  let time := padded 2 moment.hour ++ ":" ++ padded 2 moment.minute ++ ":" ++
    padded 2 moment.second
  let twelve := if moment.hour % 12 = 0 then 12 else moment.hour % 12
  match letter with
  | 'Y' => some (toString moment.year)
  | 'C' => some (padded 2 (moment.year / 100).toNat)
  | 'y' => some (padded 2 (moment.year.emod 100).toNat)
  | 'm' => some (padded 2 moment.month)
  | 'd' => some (padded 2 moment.day)
  | 'e' => some (padLeft 2 (toString moment.day))
  | 'H' => some (padded 2 moment.hour)
  | 'k' => some (padLeft 2 (toString moment.hour))
  | 'I' => some (padded 2 twelve)
  | 'l' => some (padLeft 2 (toString twelve))
  | 'M' => some (padded 2 moment.minute)
  | 'S' => some (padded 2 moment.second)
  | 'N' => some (padded 9 moment.nanos)
  | 's' => some (toString (moment.days * 86400 +
      Int.ofNat (moment.hour * 3600 + moment.minute * 60 + moment.second)))
  | 'j' => some (padded 3 moment.yearDay)
  | 'u' => some (toString (if moment.weekday = 0 then 7 else moment.weekday))
  | 'w' => some (toString moment.weekday)
  | 'a' => some (short day)
  | 'A' => some day
  | 'b' => some (short month)
  | 'h' => some (short month)
  | 'B' => some month
  | 'p' => some (if moment.hour < 12 then "AM" else "PM")
  | 'P' => some (if moment.hour < 12 then "am" else "pm")
  | 'T' => some time
  | 'R' => some (padded 2 moment.hour ++ ":" ++ padded 2 moment.minute)
  | 'r' => some (padded 2 twelve ++ ":" ++ padded 2 moment.minute ++ ":" ++
      padded 2 moment.second ++ " " ++ (if moment.hour < 12 then "AM" else "PM"))
  | 'F' => some (toString moment.year ++ "-" ++ padded 2 moment.month ++ "-" ++
      padded 2 moment.day)
  | 'D' => some (padded 2 moment.month ++ "/" ++ padded 2 moment.day ++ "/" ++
      padded 2 (moment.year.emod 100).toNat)
  | 'x' => some (padded 2 moment.month ++ "/" ++ padded 2 moment.day ++ "/" ++
      padded 2 (moment.year.emod 100).toNat)
  | 'X' => some time
  | 'c' => some (short day ++ " " ++ short month ++ " " ++ padLeft 2 (toString moment.day) ++
      " " ++ time ++ " " ++ toString moment.year)
  | 'Z' => some "UTC"
  | 'z' => some "+0000"
  | 'n' => some "\n"
  | 't' => some "\t"
  | '%' => some "%"
  | _ => none

/-- A format with its fields filled in.  A hyphen takes away what fills a field up. -/
def format (moment : Moment) : List Char → List Char
  | '%' :: '-' :: c :: rest =>
    match moment.field c with
    | some text =>
      let bare := text.toList.dropWhile fun d => d = '0' || d = ' '
      (if bare.isEmpty then ['0'] else bare) ++ moment.format rest
    | none => '%' :: '-' :: c :: moment.format rest
  | '%' :: c :: rest =>
    match moment.field c with
    | some text => text.toList ++ moment.format rest
    | none => '%' :: c :: moment.format rest
  | c :: rest => c :: moment.format rest
  | [] => []

def numbersIn (text : List Char) : List Nat :=
  (text.splitBy fun a b => a.isDigit = b.isDigit).filterMap natural?

/-- The instant that a text such as `2020-01-31 12:00` or `@86400` names; `now` is the
current one. -/
def read? (now : Nat) (text : String) : Option Nat :=
  match text.toList with
  | '@' :: digits => (natural? (digits.takeWhile Char.isDigit)).map (· * 1000000000)
  | chars =>
    if text.isEmpty || text = "now" || text = "today" then some now
    else if chars.all fun c => c.isDigit || "-:. TZ".toList.contains c then
      match numbersIn chars with
      | year :: month :: day :: rest =>
        if month < 1 || 12 < month || day < 1 || 31 < day then none
        else some (nanosOf (Int.ofNat year) month day (rest.getD 0 0) (rest.getD 1 0)
          (rest.getD 2 0))
      | _ => none
    else
      match numbersIn chars, chars.contains '-' with
      | [count], ago =>
        let unit := (chars.filter Char.isAlpha)
        let names := ["second", "minute", "hour", "day", "week"]
        let sizes := [1, 60, 3600, 86400, 604800]
        match (names.zip sizes).find? fun (name, _) => name.toList.isPrefixOf unit with
        | some (_, size) =>
          let shift := count * size * 1000000000
          some (if ago || "ago".toList.isSuffixOf unit then now - shift else now + shift)
        | none => none
      | _, _ =>
        if text = "yesterday" then some (now - 86400000000000)
        else if text = "tomorrow" then some (now + 86400000000000) else none

/-- The instant of a stamp such as `202001311200.30`. -/
def ofStamp? (now : Nat) (text : String) : Option Nat := do
  let (digits, seconds) ← match splitAtMark '.' text.toList with
    | [digits] => some (digits, 0)
    | [digits, seconds] => do
      let n ← natural? seconds
      if seconds.length = 2 && n < 61 then some (digits, n) else none
    | _ => none
  let pair (place : Nat) : Option Nat := natural? ((digits.drop place).take 2)
  let (year, start) ← show Option (Int × Nat) from match digits.length with
    | 12 => do return (Int.ofNat ((← pair 0) * 100 + (← pair 2)), 4)
    | 10 => do
      let short ← pair 0
      return (Int.ofNat (if short < 69 then 2000 + short else 1900 + short), 2)
    | 8 => some ((ofNanos now).year, 0)
    | _ => none
  if !digits.all Char.isDigit then none
  let month ← pair start
  let day ← pair (start + 2)
  let hour ← pair (start + 4)
  let minute ← pair (start + 6)
  if month < 1 || 12 < month || day < 1 || 31 < day || 23 < hour || 59 < minute then none
  some (nanosOf year month day hour minute seconds)

end Moment

def date : Utility := fun words => do
  let options ← plainOptions ⟨"uRn".toList, "dr".toList, ['I'], [("date", 'd'), ("utc", 'u'),
    ("universal", 'u'), ("reference", 'r'), ("rfc-email", 'R'), ("iso-8601", 'I')], true⟩ words
  let now ← Machine.Activity.now
  let instant ← match options.value? 'd' with
    | some text =>
      match Moment.read? now text with
      | some instant => pure instant
      | none => Work.fail ("invalid date " ++ quoted text)
    | none =>
      match options.value? 'r' with
      | some path =>
        match ← Machine.Activity.examine path with
        | .ok info => pure info.modified
        | .error fault => Work.fail (shownName path ++ ": " ++ fault.text)
      | none => pure now
  let moment := Moment.ofNanos instant
  match options.operands with
  | [] =>
    let format := if options.has 'I' then
        (match options.value? 'I' with
          | some "seconds" => "%FT%T+00:00"
          | some "minutes" => "%FT%R+00:00"
          | some "hours" => "%FT%H+00:00"
          | _ => "%F")
      else if options.has 'R' then "%a, %d %b %Y %T %z" else "%a %b %e %T %Z %Y"
    Work.putChars (moment.format format.toList ++ ['\n'])
  | [word] =>
    match word.toList with
    | '+' :: format => Work.putChars (moment.format format ++ ['\n'])
    | _ => Work.fail ("invalid date " ++ quoted word)
  | _ :: extra :: _ => Work.misuse ("extra operand " ++ quoted extra)

end Conformance.Tool
