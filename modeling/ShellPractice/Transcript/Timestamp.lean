import ShellPractice.Number.Calendar
import ShellPractice.Text.Blank

/-!
# Moments in time

A moment is kept as its text: a date, a time of day and the distance from universal time, in the
notation of RFC 3339.  Blanks around the numbers are accepted, and so are signs before the year and
numbers with fewer digits than usual.  There is a first and a last day, which hold for the written
date as well as for the day in universal time.
-/

namespace ShellPractice

namespace Moment

/-- A number of at most as many digits as given, and what follows it. -/
def number? (longest : Nat) (text : List Char) : Option (Nat × List Char) :=
  let digits := (text.take longest).takeWhile Char.isDigit
  if digits.isEmpty then none
  else
    some (digits.foldl (fun value c => 10 * value + (c.toNat - '0'.toNat)) 0,
      text.drop digits.length)

/-- A number after blanks. -/
def field? (longest : Nat) (text : List Char) : Option (Nat × List Char) :=
  number? longest (Text.trimStartChars text)

/-- What follows a separator after blanks. -/
def after? (separator : Char) (text : List Char) : Option (List Char) :=
  match Text.trimStartChars text with
  | c :: rest => if c = separator then some rest else none
  | [] => none

/-- A year after blanks; with a sign it may have any number of digits. -/
def year? (text : List Char) : Option (Int × List Char) :=
  match Text.trimStartChars text with
  | '-' :: rest => (number? rest.length rest).map fun (year, rest) => (-(year : Int), rest)
  | '+' :: rest => (number? rest.length rest).map fun (year, rest) => ((year : Int), rest)
  | text => (number? 4 text).map fun (year, rest) => ((year : Int), rest)

/-- The first day of all. -/
def firstDay : Calendar.Date :=
  ⟨-262143, 1, 1⟩

/-- The last day of all. -/
def lastDay : Calendar.Date :=
  ⟨262142, 12, 31⟩

/-- A date that exists, and what follows it. -/
def date? (text : List Char) : Option (Calendar.Date × List Char) := do
  let (year, text) ← year? text
  let (month, text) ← field? 2 (← after? '-' text)
  let (day, text) ← field? 2 (← after? '-' text)
  if firstDay.year ≤ year ∧ year ≤ lastDay.year ∧ Calendar.isDay year month day = true then
    some (⟨year, month, day⟩, text)
  else none

/-- What follows a fraction of a second, where there is one. -/
def afterFraction? : List Char → Option (List Char)
  | '.' :: text => if (text.takeWhile Char.isDigit).isEmpty then none
    else some (text.dropWhile Char.isDigit)
  | text => some text

/-- The minutes since midnight of a time of day, and what follows it.  A minute may have a second
more than usual. -/
def time? (text : List Char) : Option (Nat × List Char) := do
  let (hour, text) ← field? 2 text
  let (minute, text) ← field? 2 (← after? ':' text)
  let (second, text) ← field? 2 (← after? ':' text)
  if hour ≤ 23 ∧ minute ≤ 59 ∧ second ≤ 60 then
    (afterFraction? text).map (60 * hour + minute, ·)
  else none

/-- The minutes of a distance, which is shorter than a day, and what follows it. -/
def distance? : List Char → Option (Nat × List Char)
  | a :: b :: text => do
    let (hours, _) ← number? 2 [a, b]
    match text.dropWhile fun c => c == ':' || Text.isBlank c with
    | c :: d :: rest =>
      let (minutes, _) ← number? 2 [c, d]
      if a.isDigit && b.isDigit && c.isDigit && d.isDigit && hours < 24 && minutes < 60 then
        some (60 * hours + minutes, rest)
      else none
    | _ => none
  | _ => none

/-- The minutes by which clocks are ahead of universal time, and what follows them. -/
def zone? (text : List Char) : Option (Int × List Char) :=
  if (text.take 3).map Char.toUpper = ['U', 'T', 'C'] then some (0, text.drop 3)
  else
    match text with
    | 'Z' :: rest | 'z' :: rest => some (0, rest)
    | '+' :: rest => (distance? rest).map fun (minutes, rest) => ((minutes : Int), rest)
    | '-' :: rest | '−' :: rest =>
      (distance? rest).map fun (minutes, rest) => (-(minutes : Int), rest)
    | _ => none

/-- What follows the letter or the blank between date and time. -/
def afterLink? : List Char → Option (List Char)
  | 'T' :: text | 't' :: text | ' ' :: text => some text
  | _ => none

/-- Whether the day exists on which it is, in universal time, some minutes after the start of a
date.  They may be negative; it is the date itself, the day before it or the day after it. -/
def isReached (date : Calendar.Date) (minutes : Int) : Bool :=
  (0 ≤ minutes || date != firstDay) && (minutes < 1440 || date != lastDay)

/-- The parts of a moment: its date, the minutes since midnight and those by which clocks are ahead
of universal time. -/
def parts? (text : List Char) : Option (Calendar.Date × Nat × Int) := do
  let (date, text) ← date? text
  let (minutes, text) ← time? (← afterLink? text)
  let (ahead, text) ← zone? (Text.trimStartChars text)
  if (Text.trimStartChars text).isEmpty then some (date, minutes, ahead) else none

/-- Whether a text names a moment. -/
def isWritten (text : List Char) : Bool :=
  match parts? text with
  | some (date, minutes, ahead) => isReached date (minutes - ahead)
  | none => false

end Moment

/-- A moment in time, by its text. -/
structure Timestamp where
  text : String
  isWritten : Moment.isWritten text.toList = true
  deriving DecidableEq

namespace Timestamp

/-- The moment that a text names. -/
def ofText? (text : String) : Option Timestamp :=
  if written : Moment.isWritten text.toList = true then some ⟨text, written⟩ else none

/-- A moment with blanks between its parts, universal time being named in full. -/
def display (moment : Timestamp) : String :=
  String.ofList (moment.text.toList.flatMap fun c =>
    if c = 'T' then [' '] else if c = 'Z' then [' ', 'U', 'T', 'C'] else [c])

theorem ofText?_text (moment : Timestamp) : ofText? moment.text = some moment := by
  simp [ofText?, moment.isWritten]

/-- The start of the count of seconds that clocks keep. -/
def epoch : Timestamp :=
  ⟨"1970-01-01T00:00:00Z", by decide +kernel⟩

/-- A number with zeros before it. -/
def padded (width n : Nat) : String :=
  let digits := Nat.toDigits 10 n
  String.ofList (List.replicate (width - digits.length) '0' ++ digits)

/-- The moment some nanoseconds after the epoch. -/
def ofNanoseconds (count : Nat) : Timestamp :=
  let seconds := count / 1000000000
  let (year, month, day) := Calendar.dayAfterEpoch (seconds / 86400)
  let time := seconds % 86400
  (ofText? (padded 4 year ++ "-" ++ padded 2 month ++ "-" ++ padded 2 day ++ "T" ++
    padded 2 (time / 3600) ++ ":" ++ padded 2 (time / 60 % 60) ++ ":" ++ padded 2 (time % 60) ++
    "." ++ padded 9 (count % 1000000000) ++ "Z")).getD epoch

end Timestamp

end ShellPractice
