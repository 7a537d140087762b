import GrammarForm.ErrorContext
import GrammarForm.FileTree
import GrammarForm.Form.Document
import GrammarForm.Log.Level
import GrammarForm.Text.Lines
import GrammarForm.Toml.Reader

/-!
# Settings

Settings come from one file: the one that was asked for, or the one that the environment names,
or the one in the working directory.  Without a file every setting has its default.  The
environment can override the log level.

## Main definitions

* `Surroundings` : working directory, home directories and environment.
* `Settings` : the settings of a run.
* `SettingsError` : why no settings are loaded.
* `Settings.ofText` : the settings that the text of a file gives.
* `Settings.load` : the settings of a run.
-/

namespace GrammarForm

/-- What a run finds around it. -/
structure Surroundings where
  workingDirectory : FilePath
  /-- The home directories; the one under the empty name is the user's own. -/
  homes : List (String × FilePath)
  /-- The variables of the environment. -/
  environment : List (String × String)

namespace Surroundings

/-- The home directories in a list of accounts: an account is a line of fields between colons, of
which the first is the name and the sixth the home directory. -/
def homesOfAccounts (s : String) : List (String × FilePath) :=
  (s.splitOn "\n").filterMap fun line =>
    match line.splitOn ":" with
    | name :: _ :: _ :: _ :: _ :: home :: _ => some (name, .ofString home)
    | _ => none

/-- The value of a variable that is not empty. -/
def environmentValue? (s : Surroundings) (name : String) : Option String :=
  (s.environment.lookup name).filter (· != "")

end Surroundings

/-- The settings of a run.  The address of the server and the switch for the log file are kept as
they were given. -/
structure Settings where
  host : Data := .string "127.0.0.1"
  port : Int := 8000
  /-- The catalogue; the shipped one if there is none. -/
  catalogue : Option FilePath := none
  form : FormOptions := {}
  logLevel : LogLevel := .info
  /-- The directory of the log file; without one there is no log file. -/
  logDirectory : Option FilePath := none
  logsToFile : Data := .bool true
  /-- The file that the settings are from. -/
  source : Option FilePath := none

/-- What is wrong with a settings file. -/
inductive SettingsFault where
  | notInteger (key : String)
  | belowMinimum (key : String) (minimum : Int)
  | portTooLarge
  | unknownLevel (text : String)
  | fileNotFound
  | malformedFile
deriving DecidableEq, Repr

namespace SettingsFault

/-- The text of a fault. -/
def message : SettingsFault → String
  | notInteger key => s!"'{key}' must be an integer"
  | belowMinimum key minimum => s!"'{key}' must be at least {minimum}"
  | portTooLarge => "'port' must be at most 65535"
  | unknownLevel text =>
    s!"Unknown log level '{text}' (expected one of " ++
      ", ".intercalate (LogLevel.all.map (·.name)) ++ ")"
  | fileNotFound => "Config file not found"
  | malformedFile => "Invalid TOML"

end SettingsFault

/-- Why no settings are loaded. -/
inductive SettingsError where
  /-- The file breaks one of the rules for settings. -/
  | fault (context : ErrorContext) (fault : SettingsFault)
  /-- A value that must be a table is none. -/
  | tableExpected
  /-- A path is no text. -/
  | pathExpected
  /-- A path begins with the home directory of somebody unknown. -/
  | unknownHome
  /-- The file cannot be read. -/
  | file (fault : FileFault)
  /-- A number has more digits than are converted. -/
  | numberTooLong
  /-- Too many values stand inside each other. -/
  | tooDeep
deriving DecidableEq, Repr

namespace SettingsError

/-- The text of an error in a settings file; nothing for other errors. -/
def message? : SettingsError → Option String
  | fault context f => some (context.describe f.message)
  | _ => none

end SettingsError

/-- The log level that a value names. -/
def readLogLevel (file : Option FilePath) (d : Data) : Except SettingsError LogLevel :=
  match LogLevel.ofName? d.text with
  | some l => .ok l
  | none => .error (.fault { file, table := some "logging" } (.unknownLevel d.text))

/-- An integer that is at least one, from an entry of a section or its default. -/
def readCount (file : FilePath) (table key : String) (absent : Int) (entries : Entries Data) :
    Except SettingsError Int :=
  let context : ErrorContext := { file := some file, table := some table }
  match (entries.get? key).getD (.int absent) with
  | .int n => if n < 1 then .error (.fault context (.belowMinimum key 1)) else .ok n
  | _ => .error (.fault context (.notInteger key))

/-- The port of the server. -/
def readPort (file : FilePath) (entries : Entries Data) : Except SettingsError Int := do
  let port ← readCount file "server" "port" 8000 entries
  if 65535 < port then .error (.fault { file := some file, table := some "server" } .portTooLarge)
  else .ok port

/-- A path with its home directory filled in. -/
def expandHome (s : Surroundings) (p : FilePath) : Except SettingsError FilePath :=
  match p.homeRequest? with
  | none => .ok p
  | some name =>
    match s.homes.lookup (String.ofList name.toList.tail) with
    | some home => .ok (p.underHome home)
    | none =>
      .error (if name.toList.contains '\x00' then .file .nullInName else .unknownHome)

/-- A path in a settings file.  It is seen from the directory of the file, and a value that is not
given means that there is none. -/
def readPath (s : Surroundings) (file : FilePath) :
    Option Data → Except SettingsError (Option FilePath)
  | none => .ok none
  | some d =>
    if !d.isGiven then .ok none
    else
      match d with
      | .string text => do
        let p ← expandHome s (.ofString text)
        if p.isAbsolute then .ok (some p)
        else if text.toList.contains '\x00' then .error (.file .nullInName)
        else .ok (some (s.workingDirectory.resolve (file.parent.below p)))
      | _ => .error .pathExpected

/-- The entries of a section; without the section there are none. -/
def settingsTable (d : Data) (key : String) : Except SettingsError (Entries Data) :=
  match d.get? key with
  | none => .ok []
  | some (.table entries) => .ok entries
  | some _ => .error .tableExpected

namespace Settings

/-- The settings that the decoded content of a file gives. -/
def ofData (s : Surroundings) (file : FilePath) (d : Data) : Except SettingsError Settings := do
  let server ← settingsTable d "server"
  let port ← readPort file server
  let form ← settingsTable d "form"
  let repeatCap ← readCount file "form" "repeat_cap" 1000 form
  let maxDepth ← readCount file "form" "max_depth" 64 form
  let logging ← settingsTable d "logging"
  let logLevel ← readLogLevel (some file) ((logging.get? "level").getD (.string "INFO"))
  let logDirectory ← readPath s file (logging.get? "log_dir")
  let catalogue ← settingsTable d "catalogue"
  let cataloguePath ← readPath s file (catalogue.get? "path")
  return {
    host := (server.get? "host").getD (.string "127.0.0.1")
    port
    catalogue := cataloguePath
    form :=
      { title := (form.get? "title").getD .null
        repeatCap
        maxDepth
        downloadFilename := (form.get? "download_filename").getD (.string "hippso.conf") }
    logLevel
    logDirectory
    logsToFile := (logging.get? "json_file").getD (.bool true)
    source := some file }

/-- The settings that the text of a file gives. -/
def ofText (s : Surroundings) (file : FilePath) (text : String) : Except SettingsError Settings :=
  match Toml.read text with
  | .ok d => ofData s file d
  | .error .malformed => .error (.fault { file := some file } .malformedFile)
  | .error .integerTooLong => .error .numberTooLong
  | .error .tooDeep => .error .tooDeep

/-- The settings that a file gives, from what was found at its path. -/
def ofFile (s : Surroundings) (file : FilePath) (content : Except FileFault ByteArray) :
    Except SettingsError Settings :=
  match Storage.text content with
  | .ok text => ofText s file (Text.unifyLineEnds text)
  | .error .missing => .error (.fault { file := some file } .fileNotFound)
  | .error fault => .error (.file fault)

/-- The name of the settings file in the working directory. -/
def localFile : FilePath := .ofString "swarmconf.toml"

/-- The settings with the log level that the environment asks for. -/
def overrideLevel (s : Surroundings) (settings : Settings) : Except SettingsError Settings :=
  match s.environmentValue? "SWARMCONF_LOG_LEVEL" with
  | none => .ok settings
  | some name => do
    let logLevel ← readLogLevel settings.source (.string name)
    return { settings with logLevel }

/-- The file that was asked for, by a path or by the environment. -/
def requested (s : Surroundings) (path : Option FilePath) : Option FilePath :=
  path.or ((s.environmentValue? "SWARMCONF_CONFIG").map .ofString)

/-- The settings of the first file in the order of preference, or the defaults. -/
def ofStorage {m : Type → Type} [Monad m] [Storage m] (s : Surroundings)
    (path : Option FilePath) : m (Except SettingsError Settings) := do
  match requested s path with
  | some file => return ofFile s file (← Storage.read file)
  | none =>
    let content ← Storage.read localFile
    return if Storage.isPresent content then ofFile s localFile content else .ok {}

/-- The settings of a run. -/
def load {m : Type → Type} [Monad m] [Storage m] (s : Surroundings) (path : Option FilePath) :
    m (Except SettingsError Settings) := do
  return (← ofStorage s path).bind (overrideLevel s)

end Settings

end GrammarForm
