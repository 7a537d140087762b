import GrammarForm.FileTree

/-!
# Log files and their backups

A line is added at the end of a log file.  A file in which it would reach the greatest size is
turned over first: it becomes the first of its backups and each of these the next one, the last
one being given up, so that the line begins a new file.

## Main definitions

* `LogFile.backup` : the path of a backup.
* `LogFile.isFull` : whether a file is turned over before a line is added.
* `LogFile.turnOver` : moving a file and its backups on.
* `LogFile.add` : adding a line.
-/

namespace GrammarForm.LogFile

/-- The size that a file stays below, unless its first line alone is longer. -/
def sizeLimit : Nat := 5 * 1024 * 1024

/-- The number of backups of a file. -/
def backupCount : Nat := 3

/-- The name of a backup.  The number zero stands for the file itself. -/
def backupName (name : String) : Nat → String
  | 0 => name
  | k + 1 => name ++ "." ++ toString (k + 1)

/-- The path of a backup. -/
def backup (path : FilePath) : Nat → FilePath
  | 0 => path
  | k + 1 => path.parent.below ⟨"", [backupName path.name (k + 1)]⟩

/-- The paths of a file and its backups. -/
def paths (path : FilePath) : List FilePath :=
  (List.range (backupCount + 1)).map (backup path)

/-- Whether a line has no room in a file.  A file without content has room for every line. -/
def isFull (content line : ByteArray) : Bool :=
  content.size ≠ 0 && decide (sizeLimit ≤ content.size + line.size)

section

variable {m : Type → Type} [Monad m] [Storage m]

/-- Move the first so many of a file and its backups on by one each, the last one first.  This ends
where it meets a directory in the place of a backup. -/
def turnOver (path : FilePath) : Nat → m (Except FileFault Unit)
  | 0 => return .ok ()
  | k + 1 => do
    if Storage.isPresent (← Storage.read (backup path k)) then
      match ← Storage.move (backup path k) (backup path (k + 1)) with
      | .error fault => return .error fault
      | .ok () => turnOver path k
    else turnOver path k

/-- Turn a file over if a line has no room in it. -/
def makeRoom (path : FilePath) (line : ByteArray) : m (Except FileFault Unit) := do
  match ← Storage.read path with
  | .ok content => if isFull content line then turnOver path backupCount else return .ok ()
  | .error _ => return .ok ()

/-- Add a line to a file.  It is lost if there is no room and none can be made. -/
def add (path : FilePath) (line : ByteArray) : m Unit := do
  match ← makeRoom path line with
  | .ok () => let _ ← Storage.append path line
  | .error _ => return

end

end GrammarForm.LogFile
