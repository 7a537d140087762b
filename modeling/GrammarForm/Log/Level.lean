import GrammarForm.Data
import GrammarForm.Text.Lowercase

/-!
# Log levels

A record has a number that says how urgent it is, and that need not be whole.  Five numbers have
names of their own; a setting names its level in letters of either case.

## Main definitions

* `LogLevel` : the levels with names.
* `LogLevel.ofName?` : the level that a text names.
* `levelNumber?` : the number that a name stands for.
* `levelName` : the name of a number.
-/

namespace GrammarForm

/-- The levels with names, from the least to the most urgent. -/
inductive LogLevel where
  | debug
  | info
  | warning
  | error
  | critical
deriving DecidableEq, Repr, Inhabited

namespace LogLevel

/-- All levels, from the least to the most urgent. -/
def all : List LogLevel := [debug, info, warning, error, critical]

/-- The name of a level. -/
def name : LogLevel → String
  | debug => "DEBUG"
  | info => "INFO"
  | warning => "WARNING"
  | error => "ERROR"
  | critical => "CRITICAL"

/-- The number of a level. -/
def number : LogLevel → Int
  | debug => 10
  | info => 20
  | warning => 30
  | error => 40
  | critical => 50

/-- The level that a text names, in letters of either case. -/
def ofName? (s : String) : Option LogLevel :=
  all.find? fun l => l.name = Text.uppercaseAscii s

end LogLevel

/-- The number that a name stands for.  Besides the names of the levels there are short and old
names of some, and a name for zero. -/
def levelNumber? (name : String) : Option Int :=
  match name with
  | "NOTSET" => some 0
  | "WARN" => some LogLevel.warning.number
  | "FATAL" => some LogLevel.critical.number
  | _ => (LogLevel.all.find? fun l => l.name = name).map (·.number)

namespace Data

/-- Whether a value is a number that equals an integer. -/
def isNumber (n : Int) : Data → Bool
  | int m => m = n
  | bool b => (if b then 1 else 0) = n
  | float x => x.toInt? = some n
  | _ => false

/-- Whether a value is at least an integer; nothing for what is no number. -/
def isAtLeast? (n : Int) : Data → Option Bool
  | int m => some (n ≤ m)
  | bool b => some (n ≤ if b then 1 else 0)
  | float x => some (x.isAtLeast n)
  | _ => none

end Data

/-- The named level that a value stands for. -/
def LogLevel.ofNumber? (d : Data) : Option LogLevel :=
  LogLevel.all.find? fun l => d.isNumber l.number

/-- The name under which a level is reported; zero means that no level is set, and in place of a
name stands the number that it names. -/
def levelName (d : Data) : Data :=
  match LogLevel.ofNumber? d with
  | some l => .string l.name
  | none =>
    if d.isNumber 0 then .string "NOTSET"
    else
      match d.string?.bind levelNumber? with
      | some n => .int n
      | none => .string s!"Level {d.text}"

end GrammarForm
