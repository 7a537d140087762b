import GrammarForm.Text.Decimal

/-!
# Calendar values

A moment is a date, a time of day, or both with or without an offset from universal time.  It is
written in three forms: for people, as an expression that builds it, and for other programs.

## Main definitions

* `CalendarDate`, `ClockTime`, `Moment` : dates, times and moments.
* `Moment.text` : a moment for people.
* `Moment.expression` : a moment as an expression that builds it.
* `Moment.interchange` : a moment for other programs.
-/

namespace GrammarForm

/-- A day of the calendar. -/
structure CalendarDate where
  year : Nat
  month : Nat
  day : Nat
deriving DecidableEq, Repr, Inhabited

/-- A time of day. -/
structure ClockTime where
  hour : Nat
  minute : Nat
  second : Nat
  microsecond : Nat := 0
deriving DecidableEq, Repr, Inhabited

/-- A date, a time, or both.  An offset is given in minutes. -/
inductive Moment where
  | date (d : CalendarDate)
  | time (t : ClockTime)
  | dateAndTime (d : CalendarDate) (t : ClockTime) (offset : Option Int)
deriving DecidableEq, Repr, Inhabited

namespace CalendarDate

/-- The number of days of a month. -/
def daysOf (year month : Nat) : Nat :=
  if month = 2 then
    if year % 4 = 0 ∧ (year % 100 ≠ 0 ∨ year % 400 = 0) then 29 else 28
  else if month = 4 ∨ month = 6 ∨ month = 9 ∨ month = 11 then 30
  else 31

/-- Whether the calendar has a date; it begins with the year one. -/
def isValid (d : CalendarDate) : Bool :=
  decide (0 < d.year) && decide (d.day ≤ daysOf d.year d.month)

/-- Year, month and day. -/
def text (d : CalendarDate) : String :=
  Decimal.padded 4 d.year ++ "-" ++ Decimal.padded 2 d.month ++ "-" ++ Decimal.padded 2 d.day

/-- The numbers that a date is built from. -/
def parts (d : CalendarDate) : List Nat :=
  [d.year, d.month, d.day]

end CalendarDate

namespace ClockTime

/-- Hour, minute and second, with microseconds unless they are zero. -/
def text (t : ClockTime) : String :=
  Decimal.padded 2 t.hour ++ ":" ++ Decimal.padded 2 t.minute ++ ":" ++
    Decimal.padded 2 t.second ++
    (if t.microsecond = 0 then "" else "." ++ Decimal.padded 6 t.microsecond)

/-- The numbers that a time is built from: seconds and microseconds that are zero are left out at
the end. -/
def parts (t : ClockTime) : List Nat :=
  [t.hour, t.minute] ++
    (if t.microsecond ≠ 0 then [t.second, t.microsecond]
      else if t.second ≠ 0 then [t.second] else [])

end ClockTime

namespace Moment

/-- The sign, hours and minutes of an offset. -/
def offsetText (n : Int) : String :=
  (if n < 0 then "-" else "+") ++ Decimal.padded 2 (n.natAbs / 60) ++ ":" ++
    Decimal.padded 2 (n.natAbs % 60)

/-- A moment for people. -/
def text : Moment → String
  | date d => d.text
  | time t => t.text
  | dateAndTime d t offset => d.text ++ " " ++ t.text ++ (offset.map offsetText).getD ""

/-- A moment for other programs: a letter stands between date and time, and another one for the
offset zero. -/
def interchange : Moment → String
  | date d => d.text
  | time t => t.text
  | dateAndTime d t offset =>
    d.text ++ "T" ++ t.text ++
      (match offset with
        | none => ""
        | some 0 => "Z"
        | some n => offsetText n)

/-- An offset as an expression.  One to the west is a day less, and the rest of the day more. -/
def zoneExpression (n : Int) : String :=
  if n = 0 then "datetime.timezone.utc"
  else
    "datetime.timezone(datetime.timedelta(" ++ (if n < 0 then "days=-1, " else "") ++
      s!"seconds={60 * (if n < 0 then n + 1440 else n)}))"

/-- Numbers between commas. -/
def listed (ns : List Nat) : String :=
  ", ".intercalate (ns.map toString)

/-- A moment as an expression that builds it. -/
def expression : Moment → String
  | date d => s!"datetime.date({listed d.parts})"
  | time t => s!"datetime.time({listed t.parts})"
  | dateAndTime d t offset =>
    s!"datetime.datetime({listed (d.parts ++ t.parts)}" ++
      (match offset with
        | none => ""
        | some n => ", tzinfo=" ++ zoneExpression n) ++ ")"

/-- The name under which the kind of a moment is reported. -/
def kindName : Moment → String
  | date _ => "date"
  | time _ => "time"
  | dateAndTime .. => "datetime"

end Moment

end GrammarForm
