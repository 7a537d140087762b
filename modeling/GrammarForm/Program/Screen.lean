import GrammarForm.Catalogue.File
import GrammarForm.Console.Markup
import GrammarForm.Console.Table
import GrammarForm.Log.Session
import GrammarForm.Program.Request
import GrammarForm.Server.Site
import GrammarForm.Settings

/-!
# The course of a run

A run writes to the screen, reports what happens, and may end early: with a status, or because of
something that it has no answer for.

## Main definitions

* `Screen` : what a run has shown so far.
* `Trouble` : what a run has no answer for.
* `Ending` : how a run ends.
* `Run` : a part of a run.
-/

namespace GrammarForm

/-- A piece of the output for messages. -/
inductive ScreenMessage where
  | line (s : String)
  | report (d : Delivery)

namespace ScreenMessage

/-- The text of a message, reports showing a time.  What has no form in bytes is escaped. -/
def text (time : String) (m : ScreenMessage) : String :=
  Text.withEscapedHalves (match m with
    | line s => s ++ "\n"
    | report d => d.consoleText time)

end ScreenMessage

/-- A site that was handed over to a server. -/
structure ServedSite where
  site : Site
  host : Data
  port : Int
  logLevel : LogLevel

/-- What a run has shown so far, and where its reports go. -/
structure Screen where
  logs : LogSession := {}
  output : String := ""
  messages : List ScreenMessage := []
  served : List ServedSite := []

/-- What a run has no answer for. -/
inductive Trouble where
  | settings (e : SettingsError)
  | logs (e : LogSetupError)
  | catalogue (e : LoadError)
  | assembly (e : AssemblyError)
  | file (fault : FileFault)
  /-- A number in a saved state has more digits than are converted. -/
  | numberTooLong
  /-- Too many values of a saved state stand inside each other. -/
  | tooDeep
  /-- A marked-up text for the console is not shown. -/
  | markup (fault : Markup.Fault)
  /-- A text that is written has no form in bytes. -/
  | unencodable
  /-- The title of a table is no text. -/
  | titleNotText
deriving DecidableEq, Repr

/-- How a run ends. -/
inductive Ending where
  | status (n : Nat)
  | stop (s : Stop)
  | trouble (t : Trouble)
deriving DecidableEq, Repr

/-- A part of a run: it may end the run, and it changes the screen. -/
abbrev Run (m : Type → Type) := ExceptT Ending (StateT Screen m)

namespace Run

variable {m : Type → Type} [Monad m]

/-- End the run. -/
def finish {α : Type} (e : Ending) : Run m α :=
  throw e

/-- End the run with something that it has no answer for. -/
def fail {α : Type} (t : Trouble) : Run m α :=
  finish (.trouble t)

/-- A part that only uses the storage. -/
def stored {α : Type} (action : m α) : Run m α :=
  ExceptT.lift (StateT.lift action)

/-- Change the screen. -/
def change (f : Screen → Screen) : Run m Unit :=
  ExceptT.lift (modify f)

/-- The screen. -/
def screen : Run m Screen :=
  ExceptT.lift get

/-- Write to the output as it is. -/
def write (s : String) : Run m Unit :=
  if Text.isEncodable s then change fun screen => { screen with output := screen.output ++ s }
  else fail .unencodable

/-- Write a line to the output. -/
def say (s : String) : Run m Unit :=
  write (Console.shown s ++ "\n")

/-- The characters of a marked-up text. -/
def unmarked (s : String) : Run m (List Char) :=
  match Markup.plain s with
  | .ok cs => pure cs
  | .error fault => fail (.markup fault)

/-- Write a marked-up line to the output. -/
def sayMarked (s : String) : Run m Unit := do
  write (Console.laidOut (← unmarked s) ++ "\n")

/-- Write a line to the messages as it is. -/
def addMessage (line : String) : Run m Unit :=
  change fun screen => { screen with messages := screen.messages ++ [.line line] }

/-- Write a line to the messages. -/
def note (s : String) : Run m Unit :=
  addMessage (Console.shown s)

/-- Write a marked-up line to the messages. -/
def noteMarked (s : String) : Run m Unit := do
  addMessage (Console.laidOut (← unmarked s))

variable [Storage m]

/-- Make reports: on the screen and in the log file. -/
def make (stamp : String) (reports : List Delivery) : Run m Unit := do
  stored (reports.forM (Delivery.store stamp))
  let shown := (reports.filter fun d => d.fileRecord?.isNone).map ScreenMessage.report
  change fun screen => { screen with messages := screen.messages ++ shown }

/-- Report a call of a logger. -/
def log (stamp : String) (call : LogCall) : Run m Unit := do
  make stamp ((← screen).logs.deliveries call)

/-- The level that a notice is reported with. -/
def noticeLevel (n : Notice) : LogLevel :=
  if n.isWarning then .warning else .debug

/-- Report notices. -/
def announce (stamp : String) (notices : List Notice) : Run m Unit :=
  notices.forM fun n =>
    log stamp { logger := n.logger, level := (noticeLevel n).number, message := n.message }

end Run

end GrammarForm
