import GrammarForm.Toml.Text

/-!
# Numbers and calendar values in TOML

A scalar is read as far as its form goes; what follows it is for the reader of the line to judge.

## Main definitions

* `Toml.number?` : integers and numbers with a fraction or exponent.
* `Toml.moment?` : dates, times and both.
-/

namespace GrammarForm.Toml

/-- Why a document is not read. -/
inductive Fault where
  /-- The document is not well formed. -/
  | malformed
  /-- An integer has more digits than are converted. -/
  | integerTooLong
  /-- Too many lists and tables stand inside each other. -/
  | tooDeep
deriving DecidableEq, Repr

/-! ### Numbers -/

/-- The longest beginning that consists of digits of a class with single underscores between
them, without the underscores. -/
def digitRun (inClass : Char → Bool) : List Char → List Char × List Char
  | [] => ([], [])
  | c :: cs =>
    if !inClass c then ([], c :: cs)
    else
      match cs with
      | '_' :: d :: rest =>
        if inClass d then
          let (ds, rest) := digitRun inClass (d :: rest)
          (c :: ds, rest)
        else ([c], cs)
      | cs =>
        let (ds, rest) := digitRun inClass cs
        (c :: ds, rest)

/-- The number that digits denote to a base. -/
def valueTo (base : Nat) (ds : List Char) : Nat :=
  ds.foldl (fun n c => base * n + (Json.hexValue? c).getD 0) 0

/-- Digits of a class after a base mark, if there is one. -/
def basedDigits (base : Nat) (inClass : Char → Bool) (cs : List Char) : Found Data :=
  match digitRun inClass cs with
  | ([], _) => none
  | (ds, rest) => some (.int (valueTo base ds), rest)

/-- A natural number written to base sixteen, two or eight. -/
def basedNumber? : List Char → Found Data
  | '0' :: 'x' :: cs => basedDigits 16 (fun c => (Json.hexValue? c).isSome) cs
  | '0' :: 'b' :: cs => basedDigits 2 (fun c => c == '0' || c == '1') cs
  | '0' :: 'o' :: cs => basedDigits 8 (fun c => decide ('0' ≤ c) && decide (c ≤ '7')) cs
  | _ => none

/-- The digits before a point: a zero, or digits that do not start with zero. -/
def wholeDigits : List Char → List Char × List Char
  | '0' :: cs => (['0'], cs)
  | cs => digitRun Char.isDigit cs

/-- A point with digits, if they are there. -/
def fractionDigits : List Char → List Char × List Char
  | '.' :: cs =>
    match digitRun Char.isDigit cs with
    | ([], _) => ([], '.' :: cs)
    | found => found
  | cs => ([], cs)

/-- An exponent with its sign, if it is there. -/
def exponentPart (cs : List Char) : Option Int × List Char :=
  match cs with
  | e :: rest =>
    if Json.isExponentMark e then
      let (negative, digits) :=
        match rest with
        | '-' :: r => (true, r)
        | '+' :: r => (false, r)
        | r => (false, r)
      match digitRun Char.isDigit digits with
      | ([], _) => (none, cs)
      | (ds, after) =>
        (some (if negative then -(Decimal.value ds : Int) else Decimal.value ds), after)
    else (none, cs)
  | [] => (none, cs)

/-- A decimal number after its sign. -/
def decimalNumber? (negative : Bool) (cs : List Char) : Option (Except Fault Data × List Char) :=
  match wholeDigits cs with
  | ([], _) => none
  | (whole, rest) =>
    let (places, rest) := fractionDigits rest
    let (exponent?, rest) := exponentPart rest
    if places.isEmpty && exponent?.isNone then
      if Json.integerDigitLimit < whole.length then some (.error .integerTooLong, rest)
      else
        let n : Int := Decimal.value whole
        some (.ok (.int (if negative then -n else n)), rest)
    else
      some (.ok (.float (.ofDecimal negative (Decimal.value (whole ++ places))
        (exponent?.getD 0 - places.length))), rest)

/-- An infinity or the value that is not a number, after the sign. -/
def specialNumber? (negative : Bool) : List Char → Found Data
  | 'i' :: 'n' :: 'f' :: cs => some (.float (.infinite negative), cs)
  | 'n' :: 'a' :: 'n' :: cs => some (.float .notANumber, cs)
  | _ => none

/-- A number. -/
def number? (cs : List Char) : Option (Except Fault Data × List Char) :=
  match basedNumber? cs with
  | some (d, rest) => some (.ok d, rest)
  | none =>
    let (negative, unsigned) :=
      match cs with
      | '-' :: r => (true, r)
      | '+' :: r => (false, r)
      | r => (false, r)
    match decimalNumber? negative unsigned with
    | some found => some found
    | none => (specialNumber? negative unsigned).map fun (d, rest) => (.ok d, rest)

/-! ### Calendar values -/

/-- The number between bounds that two digits denote. -/
def twoDigits? (low high : Nat) : List Char → Found Nat
  | a :: b :: rest =>
    let n := Decimal.value [a, b]
    if a.isDigit && b.isDigit && decide (low ≤ n) && decide (n ≤ high) then some (n, rest)
    else none
  | _ => none

/-- A given character. -/
def char? (c : Char) : List Char → Found Unit
  | d :: rest => if d = c then some ((), rest) else none
  | [] => none

/-- The microseconds after a second: a point and digits, of which the first six count. -/
def microsecond (cs : List Char) : Nat × List Char :=
  match cs with
  | '.' :: rest =>
    let ds := rest.takeWhile Char.isDigit
    if ds.isEmpty then (0, cs)
    else
      (Decimal.value (ds.take 6 ++ List.replicate (6 - ds.length) '0'),
        rest.dropWhile Char.isDigit)
  | _ => (0, cs)

/-- A time of day. -/
def timeOfDay? (cs : List Char) : Option (ClockTime × List Char) := do
  let (hour, cs) ← twoDigits? 0 23 cs
  let (_, cs) ← char? ':' cs
  let (minute, cs) ← twoDigits? 0 59 cs
  let (_, cs) ← char? ':' cs
  let (second, cs) ← twoDigits? 0 59 cs
  let (microsecond, cs) := microsecond cs
  some ({ hour, minute, second, microsecond }, cs)

/-- The hours and minutes of an offset, in minutes. -/
def hoursAndMinutes? (cs : List Char) : Option (Nat × List Char) := do
  let (hour, cs) ← twoDigits? 0 23 cs
  let (_, cs) ← char? ':' cs
  let (minute, cs) ← twoDigits? 0 59 cs
  some (60 * hour + minute, cs)

/-- The offset of a time zone. -/
def offset? : List Char → Found Int
  | 'Z' :: rest => some (0, rest)
  | 'z' :: rest => some (0, rest)
  | '+' :: rest => (hoursAndMinutes? rest).map fun (n, rest) => ((n : Int), rest)
  | '-' :: rest => (hoursAndMinutes? rest).map fun (n, rest) => (-(n : Int), rest)
  | _ => none

/-- The year, month and day of a date, which the calendar may not have. -/
def date? : List Char → Option (CalendarDate × List Char)
  | a :: b :: c :: d :: rest => do
    if !([a, b, c, d].all Char.isDigit) then none
    let (_, cs) ← char? '-' rest
    let (month, cs) ← twoDigits? 1 12 cs
    let (_, cs) ← char? '-' cs
    let (day, cs) ← twoDigits? 1 31 cs
    some (⟨Decimal.value [a, b, c, d], month, day⟩, cs)
  | _ => none

/-- The time of day that follows a date. -/
def timeAfterDate? : List Char → Found ClockTime
  | gap :: after => if gap = 'T' ∨ gap = 't' ∨ gap = ' ' then timeOfDay? after else none
  | [] => none

/-- A date, alone or with a time of day and an offset. -/
def dated (d : CalendarDate) (cs : List Char) : Moment × List Char :=
  match timeAfterDate? cs with
  | none => (.date d, cs)
  | some (t, rest) =>
    match offset? rest with
    | some (offset, rest) => (.dateAndTime d t (some offset), rest)
    | none => (.dateAndTime d t none, rest)

/-- A date, a time, or both.  A date that the calendar does not have is a fault. -/
def moment? (cs : List Char) : Option (Except Fault Data × List Char) :=
  match date? cs with
  | some (d, rest) =>
    let (m, rest) := dated d rest
    some (if d.isValid then .ok (.moment m) else .error .malformed, rest)
  | none => (timeOfDay? cs).map fun (t, rest) => (.ok (.moment (.time t)), rest)

end GrammarForm.Toml
