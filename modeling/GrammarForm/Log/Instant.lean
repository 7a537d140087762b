import GrammarForm.Number.Binary64
import GrammarForm.Text.Decimal

/-!
# Points in time

A point in time is a number of microseconds since the beginning of 1970, and is written in the
Gregorian calendar of universal time.

## Main definitions

* `Instant` : a point in time.
* `Instant.ofSeconds`, `Instant.ofRealSeconds` : the point after a number of seconds.
* `Instant.timeOfDay`, `Instant.stamp` : its texts.
-/

namespace GrammarForm

/-- A point in time, in microseconds since the beginning of 1970. -/
structure Instant where
  microseconds : Int
deriving DecidableEq, Repr, Inhabited

namespace Instant

/-- The microseconds of a day. -/
def perDay : Int := 86400 * 1000000

/-- The day, counted from the beginning of 1970. -/
def day (t : Instant) : Int :=
  t.microseconds.fdiv perDay

/-- The microseconds since the beginning of the day. -/
def sinceMidnight (t : Instant) : Nat :=
  (t.microseconds.fmod perDay).toNat

/-- The year, month and day of a day counted from the first of March of the year zero.  Years
begin in March here, so that the leap day ends them, and 400 years have 146097 days. -/
def civil (n : Nat) : Nat × Nat × Nat :=
  let era := n / 146097
  let inEra := n % 146097
  let yearOfEra := (inEra - inEra / 1460 + inEra / 36524 - inEra / 146096) / 365
  let inYear := inEra - (365 * yearOfEra + yearOfEra / 4 - yearOfEra / 100)
  let march := (5 * inYear + 2) / 153
  let dayOfMonth := inYear - (153 * march + 2) / 5 + 1
  let month := if march < 10 then march + 3 else march - 9
  (400 * era + yearOfEra + (if month ≤ 2 then 1 else 0), month, dayOfMonth)

/-- The year, month and day of a point in time. -/
def date (t : Instant) : Nat × Nat × Nat :=
  civil (t.day + 719468).toNat

/-- Whether a point in time lies in the years from 1 to 9999. -/
def inCalendar (t : Instant) : Bool :=
  decide (-719162 ≤ t.day) && decide (t.day < 2932897)

/-- Hour, minute and second. -/
def timeOfDay (t : Instant) : String :=
  let s := t.sinceMidnight / 1000000
  ":".intercalate ([s / 3600, s / 60 % 60, s % 60].map (Decimal.padded 2))

/-- Date, time and zone, with microseconds unless they are zero. -/
def stamp (t : Instant) : String :=
  let (year, month, day) := t.date
  let fraction := t.sinceMidnight % 1000000
  Decimal.padded 4 year ++ "-" ++ Decimal.padded 2 month ++ "-" ++ Decimal.padded 2 day ++ "T" ++
    t.timeOfDay ++ (if fraction = 0 then "" else "." ++ Decimal.padded 6 fraction) ++ "+00:00"

/-- Whether the day before a point in time lies in the calendar, too.  The clock of a place looks at
that day to find out whether an hour is repeated. -/
def isOnClock (t : Instant) : Bool :=
  decide (-719162 < t.day)

/-- Why there is no point in time after a number of seconds. -/
inductive Fault where
  | notANumber
  /-- The number is beyond 64 bits. -/
  | beyondNumbers
  /-- The year is beyond 32 bits. -/
  | beyondYears
  /-- The year is not from 1 to 9999. -/
  | beyondCalendar
deriving DecidableEq, Repr

/-- Why there is no point in time after a whole number of seconds and a part of one. -/
def fault? (seconds : Int) (t : Instant) : Option Fault :=
  if seconds < -9223372036854775808 ∨ 9223372036854775807 < seconds then some .beyondNumbers
  else if seconds < -67768040609740800 ∨ 67768036191676800 ≤ seconds then some .beyondYears
  else if t.inCalendar then none
  else some .beyondCalendar

/-- A point in time after a number of seconds, the whole part of which is given. -/
def checked (seconds : Int) (t : Instant) : Except Fault Instant :=
  match fault? seconds t with
  | some fault => .error fault
  | none => .ok t

/-- The point in time after a whole number of seconds. -/
def ofSeconds (n : Int) : Except Fault Instant :=
  checked n ⟨n * 1000000⟩

/-- The microseconds of a part of a second: the product is rounded to double precision before it
is rounded to a natural number. -/
def microsecondsOf (num den : Nat) : Nat :=
  match Binary64.ofRatio false (num * 1000000) den with
  | .finite _ s e =>
    let (n, d) := Binary64.ratio s e
    Binary64.roundQuotient n d
  | _ => 0

/-- The point in time after a number of seconds, rounded to microseconds. -/
def ofRealSeconds : Binary64 → Except Fault Instant
  | .finite negative s e =>
    let (num, den) := Binary64.ratio s e
    let signed (n : Nat) : Int := if negative then -(n : Int) else n
    checked (signed (num / den)) ⟨signed (num / den * 1000000 + microsecondsOf (num % den) den)⟩
  | .infinite _ => .error .beyondNumbers
  | .notANumber => .error .notANumber

end Instant

end GrammarForm
