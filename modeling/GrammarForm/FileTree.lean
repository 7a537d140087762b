import GrammarForm.Entries
import GrammarForm.FilePath
import GrammarForm.Text.Halves

/-!
# Files and directories

A file tree says which locations hold a file or a directory; a location is the list of names on
the way from the root.  A path is followed name by name, so that a double dot leads out of the
directory reached so far, and a missing directory on the way is noticed.

## Main definitions

* `FileFault` : why a file is not read or written.
* `FileTree` : the files and directories.
* `FileTree.read`, `FileTree.write`, `FileTree.append`, `FileTree.move`,
  `FileTree.makeDirectories` : what can be done with a path.
* `Storage` : anything that can do the same.
-/

namespace GrammarForm

/-- Why a file is not read or written. -/
inductive FileFault where
  /-- Nothing stands at the path. -/
  | missing
  /-- A directory stands at the path. -/
  | isDirectory
  /-- A file stands where the path needs a directory. -/
  | notDirectory
  /-- A file stands where a directory is to be made. -/
  | alreadyExists
  /-- The content is not UTF-8 text. -/
  | notText
  /-- The path, or a name in it, is longer than a file system allows. -/
  | nameTooLong
  /-- The path has a null character. -/
  | nullInName
  /-- The path has no form in bytes. -/
  | unencodableName
deriving DecidableEq, Repr

/-- The names on the way from the root. -/
abbrev Location := List String

/-- What stands at a location. -/
inductive FileNode where
  | directory
  | file (content : ByteArray)

/-- The files and directories. -/
structure FileTree where
  nodes : List (Location × FileNode)

namespace FileTree

/-- What stands at a location.  The root is always a directory. -/
def nodeAt (t : FileTree) (l : Location) : Option FileNode :=
  if l = [] then some .directory else t.nodes.lookup l

/-- The tree with a node at a location. -/
def put (t : FileTree) (l : Location) (n : FileNode) : FileTree :=
  ⟨(l, n) :: t.nodes.filter (·.1 != l)⟩

/-- The tree without what stands at a location. -/
def erase (t : FileTree) (l : Location) : FileTree :=
  ⟨t.nodes.filter (·.1 != l)⟩

/-- The number of bytes that a name may have. -/
def nameLimit : Nat := 255

/-- The number of bytes that a path may have. -/
def pathLimit : Nat := 4095

/-- Why no file can have a path, whatever stands in the tree. -/
def unusable? (p : FilePath) : Option FileFault :=
  let s := p.toString
  if s.toList.contains '\x00' then some .nullInName
  else if !Text.isFileName s then some .unencodableName
  else if pathLimit < Text.byteCount s then some .nameTooLong
  else none

/-- What stands under a name in a directory. -/
def child? (t : FileTree) (base : Location) (name : String) :
    Except FileFault (Option FileNode) :=
  if nameLimit < Text.byteCount name then .error .nameTooLong
  else .ok (t.nodeAt (base ++ [name]))

/-- The location that names lead to from a directory. -/
def follow (t : FileTree) (base : Location) : List String → Except FileFault Location
  | [] => .ok base
  | name :: rest =>
    if name = ".." then t.follow base.dropLast rest
    else
      match t.child? base name with
      | .ok (some .directory) => t.follow (base ++ [name]) rest
      | .ok (some (.file _)) => if rest.isEmpty then .ok (base ++ [name]) else .error .notDirectory
      | .ok none => .error .missing
      | .error fault => .error fault

/-- The names of a path from the root. -/
def names (workingDirectory p : FilePath) : Except FileFault (List String) :=
  match unusable? p with
  | some fault => .error fault
  | none => .ok (workingDirectory.below p).parts

/-- The content of the file at a path. -/
def read (t : FileTree) (workingDirectory p : FilePath) : Except FileFault ByteArray := do
  match t.nodeAt (← t.follow [] (← names workingDirectory p)) with
  | some (.file content) => .ok content
  | some .directory => .error .isDirectory
  | none => .error .missing

/-- The location of a file that can be written at a path: its directory is there, and it is none
itself. -/
def target (t : FileTree) (workingDirectory p : FilePath) : Except FileFault Location := do
  let path ← names workingDirectory p
  match path.getLast? with
  | none => .error .isDirectory
  | some name => do
    let directory ← t.follow [] path.dropLast
    if name = ".." then .error .isDirectory
    else
      match t.nodeAt directory with
      | some .directory =>
        match ← t.child? directory name with
        | some .directory => .error .isDirectory
        | _ => .ok (directory ++ [name])
      | _ => .error .notDirectory

/-- The tree with a new content of the file at a path. -/
def write (t : FileTree) (workingDirectory p : FilePath) (content : ByteArray) :
    Except FileFault FileTree := do
  return t.put (← t.target workingDirectory p) (.file content)

/-- The tree with more content at the end of the file at a path. -/
def append (t : FileTree) (workingDirectory p : FilePath) (content : ByteArray) :
    Except FileFault FileTree := do
  let l ← t.target workingDirectory p
  match t.nodeAt l with
  | some (.file before) => return t.put l (.file (before ++ content))
  | _ => return t.put l (.file content)

/-- The tree in which the file at a path stands at another path, in place of any file there. -/
def move (t : FileTree) (workingDirectory source goal : FilePath) : Except FileFault FileTree := do
  let l ← t.target workingDirectory source
  match t.nodeAt l with
  | some (.file content) => return (t.erase l).put (← t.target workingDirectory goal) (.file content)
  | _ => .error .missing

/-- The tree with all directories on the way of names from a directory. -/
def makeWay (t : FileTree) (base : Location) : List String → Except FileFault FileTree
  | [] => .ok t
  | name :: rest =>
    if name = ".." then t.makeWay base.dropLast rest
    else
      match t.child? base name with
      | .ok (some .directory) => t.makeWay (base ++ [name]) rest
      | .ok (some (.file _)) => .error (if rest.isEmpty then .alreadyExists else .notDirectory)
      | .ok none => (t.put (base ++ [name]) .directory).makeWay (base ++ [name]) rest
      | .error fault => .error fault

/-- The tree with a directory at a path and the directories on the way to it. -/
def makeDirectories (t : FileTree) (workingDirectory p : FilePath) : Except FileFault FileTree := do
  t.makeWay [] (← names workingDirectory p)

end FileTree

/-- A place for files that can be reached by their paths. -/
class Storage (m : Type → Type) where
  read : FilePath → m (Except FileFault ByteArray)
  write : FilePath → ByteArray → m (Except FileFault Unit)
  append : FilePath → ByteArray → m (Except FileFault Unit)
  move : FilePath → FilePath → m (Except FileFault Unit)
  makeDirectories : FilePath → m (Except FileFault Unit)

namespace Storage

/-- Whether something stands at a path from which a file was to be read. -/
def isPresent : Except FileFault ByteArray → Bool
  | .ok _ => true
  | .error fault => fault = .isDirectory

/-- The text of a file's content. -/
def text : Except FileFault ByteArray → Except FileFault String
  | .ok content =>
    match String.fromUTF8? content with
    | some s => .ok s
    | none => .error .notText
  | .error fault => .error fault

end Storage

/-- A file tree with a working directory. -/
structure Workspace where
  workingDirectory : FilePath
  tree : FileTree

namespace Workspace

/-- The effect of a change of the tree. -/
def update (w : Workspace) : Except FileFault FileTree → Except FileFault Unit × Workspace
  | .ok tree => (.ok (), { w with tree })
  | .error fault => (.error fault, w)

/-- A workspace as it changes is a storage. -/
instance : Storage (StateM Workspace) where
  read p := fun w => (w.tree.read w.workingDirectory p, w)
  write p content := fun w => w.update (w.tree.write w.workingDirectory p content)
  append p content := fun w => w.update (w.tree.append w.workingDirectory p content)
  move p q := fun w => w.update (w.tree.move w.workingDirectory p q)
  makeDirectories p := fun w => w.update (w.tree.makeDirectories w.workingDirectory p)

end Workspace

end GrammarForm
