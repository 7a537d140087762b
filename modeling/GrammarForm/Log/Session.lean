import GrammarForm.Log.Record
import GrammarForm.Log.Rotation

/-!
# Sessions of logging

A session knows where records go.  Loggers form two trees, each with a level and with outlets: the
console, and a file if there is a directory for it.  A logger can carry the tag of a component; the
first one that it is given counts.

## Main definitions

* `LogSession` : what a session knows.
* `LogSession.setup` : the session with a new level and new outlets.
* `LogSession.component` : the logger of a component.
* `LogSession.deliveries` : where a call is reported.
-/

namespace GrammarForm

/-- Where an outlet leads. -/
inductive OutletPlace where
  | console
  | file (path : FilePath)
  /-- Records that come here are not shown. -/
  | nowhere
deriving DecidableEq, Repr

/-- An outlet of a tree of loggers, for records from a level on. -/
structure Outlet where
  level : Int
  place : OutletPlace
deriving DecidableEq, Repr

/-- A tree of loggers.  The level zero stands for the level of loggers without a tree. -/
structure LogTree where
  level : Int := 0
  outlets : List Outlet := []
deriving DecidableEq, Repr

/-- What a session of logging knows. -/
structure LogSession where
  /-- The tree below `swarmconf`.  Before it is set up its records are not shown. -/
  core : LogTree := { outlets := [⟨0, .nowhere⟩] }
  /-- The tree below `swarmconf_ui`. -/
  form : LogTree := {}
  /-- The loggers with their tags. -/
  tags : Entries String := [("swarmconf.web", "WEB"), ("swarmconf.cli", "CLI")]
  /-- The file that records are written to. -/
  file : Option FilePath := none

/-- A call of a logger. -/
structure LogCall where
  logger : String
  level : Int
  message : String
  context : Entries Data := []
  /-- The place where it stands. -/
  origin : Origin := {}

/-- Whether the level of a call has a name: its number has few enough digits to be written. -/
def LogCall.hasLevelName (call : LogCall) : Bool :=
  decide (call.level.natAbs < Nat.pow 10 Data.digitLimit)

/-- A report of a call. -/
inductive Delivery where
  | console (r : LogRecord)
  /-- The message alone, on a console that was not prepared. -/
  | bare (message : String)
  | file (path : FilePath) (r : LogRecord)

/-- Why a session is not set up. -/
inductive LogSetupError where
  | file (fault : FileFault)
  /-- The text names no level. -/
  | unknownLevel
  /-- The value is neither an integer nor a text. -/
  | noLevel
deriving DecidableEq, Repr

namespace Delivery

/-- What a report adds to the console. -/
def consoleText (time : String) : Delivery → String
  | console r => r.consoleLine false time ++ "\n"
  | bare message => message ++ "\n"
  | file .. => ""

/-- The record that a report adds to a file. -/
def fileRecord? : Delivery → Option LogRecord
  | file _ r => some r
  | _ => none

/-- Write a report to its file if it has one. -/
def store {m : Type → Type} [Monad m] [Storage m] (time : String) : Delivery → m Unit
  | file path r => LogFile.add path (r.jsonLine time ++ "\n").toUTF8
  | _ => pure ()

end Delivery

namespace LogSession

/-- The number of a level given as a number or a text. -/
def levelOf : Data → Except LogSetupError Int
  | .int n => .ok n
  | .bool b => .ok (if b then 1 else 0)
  | .string s =>
    match levelNumber? (Text.uppercaseAscii s) with
    | some n => .ok n
    | none => .error .unknownLevel
  | _ => .error .noLevel

/-- Whether a logger belongs to the tree below a name. -/
def isBelow (root logger : String) : Bool :=
  logger = root || (root ++ ".").isPrefixOf logger

/-- The tree that a logger belongs to. -/
def tree? (s : LogSession) (logger : String) : Option LogTree :=
  if isBelow "swarmconf" logger then some s.core
  else if isBelow "swarmconf_ui" logger then some s.form
  else none

/-- The level from which a logger without a tree, or with a tree without level, reports. -/
def rootLevel : Int := LogLevel.warning.number

/-- The record of a call. -/
def record (s : LogSession) (call : LogCall) : LogRecord :=
  { logger := .string call.logger
    level := .int call.level
    message := call.message
    component := (s.tags.get? call.logger).map .string
    context := .table call.context
    origin := call.origin }

/-- The tree that a logger reports to. -/
def tree (s : LogSession) (logger : String) : LogTree :=
  (s.tree? logger).getD {}

/-- Whether a call is urgent enough for its logger; levels below one never are. -/
def isEnabled (s : LogSession) (call : LogCall) : Bool :=
  let level := (s.tree call.logger).level
  decide (0 < call.level) &&
    decide ((if level = 0 then rootLevel else level) ≤ call.level)

/-- Whether a call fails: it is to be reported, and its level has no name. -/
def isRefused (s : LogSession) (call : LogCall) : Bool :=
  s.isEnabled call && !call.hasLevelName

/-- The report that a record makes at a place.  A file is given lines of JSON only. -/
def deliver (r : LogRecord) : OutletPlace → Option Delivery
  | .console => some (.console r)
  | .file path => if r.hasJsonLine then some (.file path r) else none
  | .nowhere => none

/-- Where a call is reported.  Without any outlet the message alone goes to the console, if it is
a warning or more urgent. -/
def deliveries (s : LogSession) (call : LogCall) : List Delivery :=
  let outlets := (s.tree call.logger).outlets
  if !s.isEnabled call || !call.hasLevelName then []
  else if outlets.isEmpty then
    if rootLevel ≤ call.level then [.bare call.message] else []
  else
    (outlets.filter fun o => decide (o.level ≤ call.level)).filterMap fun o =>
      deliver (s.record call) o.place

/-- The logger of a component, and the session that knows its tag. -/
def component (s : LogSession) (name : String) : String × LogSession :=
  let logger := "swarmconf." ++
    String.ofList ((Text.lowercase name).toList.map fun c => if c = ' ' then '_' else c)
  let tags := if s.tags.has logger then s.tags else Entries.insert logger name s.tags
  (logger, { s with tags })

/-- The name of the logger above all others. -/
def topName : String := "root"

/-- The logger with a name; without a name it is the one above all others. -/
def named (name : String) : String :=
  if name = "" then topName else name

/-- The name of the log file in its directory. -/
def fileName : FilePath := .ofString "swarmconf.log"

/-- The log file in a directory, made ready. -/
def openFile {m : Type → Type} [Monad m] [Storage m] (directory : FilePath) :
    m (Except FileFault FilePath) := do
  match ← Storage.makeDirectories directory with
  | .error fault => return .error fault
  | .ok () =>
    let path := directory.below fileName
    match ← Storage.append path ByteArray.empty with
    | .error fault => return .error fault
    | .ok () => return .ok path

/-- The session with a new level and new outlets. -/
def withOutlets (s : LogSession) (level : Data) (file : Option FilePath) :
    Except LogSetupError Unit × LogSession :=
  match levelOf level with
  | .error e => (.error e, { s with core := { s.core with outlets := [] } })
  | .ok n =>
    let tree : LogTree :=
      { level := n, outlets := ⟨n, .console⟩ :: (file.map fun p => ⟨n, .file p⟩).toList }
    (.ok (), { s with core := tree, form := tree, file })

/-- The call that reports that a log file is used. -/
def fileCall (path : FilePath) : LogCall :=
  { logger := "swarmconf"
    level := LogLevel.debug.number
    message := "File logging initialized"
    context := [("log_file", .string path.toString)] }

/-- Set up a session with a level and possibly a directory for its file, which is the result. -/
def setup {m : Type → Type} [Monad m] [Storage m] (s : LogSession) (level : Data)
    (directory : Option FilePath) :
    m (Except LogSetupError (Option FilePath) × List Delivery × LogSession) := do
  match directory with
  | none =>
    let (result, s) := s.withOutlets level none
    return (result.map fun _ => none, [], s)
  | some directory =>
    match ← openFile directory with
    | .error fault => return (.error (.file fault), [], s)
    | .ok path =>
      let (result, s) := s.withOutlets level (some path)
      let reports := if result.toBool then s.deliveries (fileCall path) else []
      return (result.map fun _ => some path.parent, reports, s)

end LogSession

end GrammarForm
