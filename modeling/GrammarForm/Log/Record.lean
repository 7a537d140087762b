import GrammarForm.Json.Writer
import GrammarForm.Log.Failure
import GrammarForm.Log.Instant
import GrammarForm.Log.Level

/-!
# Log records

A record is written in two forms: as a line for people, with the time of day, the component and
the message, and as a line of JSON, with everything that is known.

## Main definitions

* `LogRecord` : a record.
* `LogRecord.consoleLine` : its line for people.
* `LogRecord.data`, `LogRecord.jsonLine` : its JSON.
-/

namespace GrammarForm

/-- The place in a program where a record was made. -/
structure Origin where
  file : Data := .string ""
  line : Data := .int 0
  function : Data := .null

/-- A record of an event. -/
structure LogRecord where
  /-- The name of the logger that made it. -/
  logger : Data
  /-- The number that says how urgent it is. -/
  level : Data
  message : String
  /-- The component that the logger is tagged with. -/
  component : Option Data := none
  context : Data := .null
  origin : Origin := {}
  failure : Option Failure := none

/-- The component of records without a tag. -/
def defaultComponent : String := "GRAMMAR"

/-- The colours of a console. -/
inductive ConsoleColor where
  | dim
  | red
  | yellow
  | blue
  | magenta
  | cyan
deriving DecidableEq, Repr

namespace ConsoleColor

/-- The number of a colour in the control sequences of a console. -/
def code : ConsoleColor → String
  | dim => "2"
  | red => "31"
  | yellow => "33"
  | blue => "34"
  | magenta => "35"
  | cyan => "36"

/-- A text in a colour. -/
def paint (color : Option ConsoleColor) (s : String) : String :=
  match color with
  | none => s
  | some c => "\x1b[" ++ c.code ++ "m" ++ s ++ "\x1b[0m"

/-- The colour of a component. -/
def ofComponent? : String → Option ConsoleColor
  | "GRAMMAR" => some magenta
  | "WEB" => some blue
  | "CLI" => some cyan
  | _ => none

/-- The colour of a level. -/
def ofLevel : LogLevel → Option ConsoleColor
  | .debug => some cyan
  | .info => none
  | .warning => some yellow
  | .error => some red
  | .critical => some magenta

end ConsoleColor

namespace Origin

/-- The entries that describe an origin.  The name of a function is left out where there is none. -/
def data (o : Origin) : Data :=
  .table ([("file", o.file), ("line", o.line)] ++
    if !o.function.isGiven || o.function.string? = some "<module>" then []
    else [("function", o.function)])

end Origin

namespace LogRecord

/-- The component of a record. -/
def tag (r : LogRecord) : Data :=
  r.component.getD (.string defaultComponent)

/-- Whether a record has a line for people: collections have neither colours nor names. -/
def hasConsoleLine (r : LogRecord) : Bool :=
  !r.tag.isCollection && !r.level.isCollection

/-- The line for people, the level being left out where it is the usual one. -/
def consoleLine (colored : Bool) (time : String) (r : LogRecord) : String :=
  let paint (c : Option ConsoleColor) (s : String) : String :=
    if colored then ConsoleColor.paint c s else s
  let level :=
    if r.level.isNumber LogLevel.info.number then []
    else [paint ((LogLevel.ofNumber? r.level).bind ConsoleColor.ofLevel)
      s!"{(levelName r.level).text}:"]
  " ".intercalate ([paint (some .dim) time,
    paint (r.tag.string?.bind ConsoleColor.ofComponent?) s!"[{r.tag.text}]"] ++ level ++ [r.message])

/-- The entries of a record.  Where it was made is told from warnings on. -/
def data (time : String) (r : LogRecord) : Data :=
  .table ([("timestamp", .string time), ("level", levelName r.level),
      ("component", r.tag), ("logger", r.logger), ("message", .string r.message)] ++
    (if r.context.isGiven then [("context", r.context)] else []) ++
    (if r.level.isAtLeast? LogLevel.warning.number = some true then [("source", r.origin.data)]
      else []) ++
    (match r.failure with
      | none => []
      | some f =>
        [("exception", .table [("type", .string f.kind), ("message", .string f.message)])]))

/-- Whether a record has a line of JSON: its level can be compared with others, and no value of it
has too many digits or reaches down too far. -/
def hasJsonLine (r : LogRecord) : Bool :=
  (r.level.isAtLeast? LogLevel.warning.number).isSome && (r.data "").textFault?.isNone

/-- The line of JSON. -/
def jsonLine (time : String) (r : LogRecord) : String :=
  Json.write Json.spaced (r.data time)

end LogRecord

end GrammarForm
