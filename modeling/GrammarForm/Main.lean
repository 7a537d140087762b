import Std.Time.DateTime.Timestamp
import GrammarForm.Digest
import GrammarForm.Log.Instant
import GrammarForm.Program.Run

/-!
# The command line

The program as it is started from a command line: files are those of the machine, and the run is
shown on the output, on the output for messages and in the exit status.  A site is prepared and
announced; it is not served over a network.
-/

namespace GrammarForm

/-- Why a file of the machine is not read or written; other errors are passed on. -/
def faultOfError (e : IO.Error) : IO FileFault :=
  match e with
  | .noFileOrDirectory .. => return .missing
  | .inappropriateType _ code _ => return if code = 21 then .isDirectory else .notDirectory
  | .alreadyExists .. => return .alreadyExists
  | e => throw e

/-- The result of an action on the files of the machine. -/
def tryFile {α : Type} (action : IO α) : IO (Except FileFault α) := do
  match ← action.toBaseIO with
  | .ok x => return .ok x
  | .error e => return .error (← faultOfError e)

instance : Storage IO where
  read p := tryFile (IO.FS.readBinFile p.toString)
  write p content := tryFile (IO.FS.writeBinFile p.toString content)
  append p content := tryFile do
    (← IO.FS.Handle.mk p.toString .append).write content
  move p q := tryFile (IO.FS.rename p.toString q.toString)
  makeDirectories p := tryFile (IO.FS.createDirAll p.toString)

/-- The variables of the environment that a run depends on. -/
def variableNames : List String :=
  ["SWARMCONF_CONFIG", "SWARMCONF_LOG_LEVEL"]

/-- The surroundings of the process. -/
def surroundingsOfProcess : IO Surroundings := do
  let environment ← variableNames.filterMapM fun name => do
    return (← IO.getEnv name).map fun value => (name, value)
  let own := ((← IO.getEnv "HOME").map fun home => ("", FilePath.ofString home)).toList
  let accounts ← tryFile (IO.FS.readFile "/etc/passwd")
  return {
    workingDirectory := .ofString (← IO.currentDir).toString
    homes := own ++ (accounts.toOption.map Surroundings.homesOfAccounts).getD []
    environment }

/-- The present. -/
def now : IO Instant := do
  let time ← Std.Time.Timestamp.now
  return ⟨time.toNanosecondsSinceUnixEpoch.toInt / 1000⟩

/-- The exit status of a run. -/
def Ending.exitStatus : Ending → Nat
  | status n => n
  | stop .misuse => 2
  | stop _ => 0
  | trouble _ => 1

end GrammarForm

open GrammarForm in
/-- Run the program with the arguments of the command line. -/
def main (arguments : List String) : IO UInt32 := do
  let time ← now
  let (ending, screen) ←
    Program.run (← surroundingsOfProcess) shortDigest time.stamp arguments
  IO.print screen.output
  screen.messages.forM fun message => IO.eprint (message.text time.timeOfDay)
  match ending with
  | .trouble t => IO.eprintln s!"{repr t}"
  | _ => pure ()
  return ending.exitStatus.toUInt32
