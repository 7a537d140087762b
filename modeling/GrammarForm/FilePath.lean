/-!
# File paths

A path is a root and a list of names.  Reading a path drops empty names and single dots, and
keeps double dots; writing the empty path gives a single dot.

## Main definitions

* `FilePath` : a path.
* `FilePath.ofString`, `FilePath.toString` : reading and writing.
* `FilePath.stem`, `FilePath.suffix` : the parts of the last name.
* `FilePath.resolve` : an absolute path without double dots.
-/

namespace GrammarForm

/-- A path: `root` is empty for a relative path and one or two slashes for an absolute one. -/
structure FilePath where
  root : String
  parts : List String
deriving DecidableEq, Repr, Inhabited

namespace FilePath

/-- The names between slashes, `done` being the characters of the current one, last first. -/
def splitNames (done : List Char) : List Char → List String
  | [] => [String.ofList done.reverse]
  | '/' :: cs => String.ofList done.reverse :: splitNames [] cs
  | c :: cs => splitNames (c :: done) cs

/-- The root of a path: exactly two leading slashes are kept, any other number is one. -/
def rootOf : List Char → String
  | '/' :: '/' :: '/' :: _ => "/"
  | '/' :: '/' :: _ => "//"
  | '/' :: _ => "/"
  | _ => ""

/-- The path written as a text. -/
def ofString (s : String) : FilePath :=
  ⟨rootOf s.toList, (splitNames [] s.toList).filter fun n => n != "" && n != "."⟩

/-- The text of a path. -/
def toString (p : FilePath) : String :=
  if p.root = "" ∧ p.parts = [] then "." else p.root ++ "/".intercalate p.parts

instance : ToString FilePath := ⟨toString⟩

/-- Whether a path is absolute. -/
def isAbsolute (p : FilePath) : Bool :=
  p.root != ""

/-- The last name of a path; empty for a path without names. -/
def name (p : FilePath) : String :=
  p.parts.getLast?.getD ""

/-- The last name split before its last dot, unless that dot begins or ends the name. -/
def splitName (p : FilePath) : String × String :=
  let cs := p.name.toList
  let after := cs.reverse.takeWhile (· != '.')
  let stem := cs.take (cs.length - after.length - 1)
  if after.isEmpty || stem.isEmpty || after.length = cs.length then (p.name, "")
  else (String.ofList stem, String.ofList ('.' :: after.reverse))

/-- The last name without its suffix. -/
def stem (p : FilePath) : String :=
  p.splitName.1

/-- The last name from its last dot on. -/
def suffix (p : FilePath) : String :=
  p.splitName.2

/-- The directory of a path. -/
def parent (p : FilePath) : FilePath :=
  { p with parts := p.parts.dropLast }

/-- A path below a directory; an absolute path stays as it is. -/
def below (directory p : FilePath) : FilePath :=
  if p.isAbsolute then p else { directory with parts := directory.parts ++ p.parts }

/-- The names without double dots, each of which takes away the name before it.  The names before
are given last first. -/
def collapse (done : List String) : List String → List String
  | [] => done.reverse
  | ".." :: rest => collapse done.tail rest
  | n :: rest => collapse (n :: done) rest

/-- The absolute path without double dots that a path means in a working directory. -/
def resolve (workingDirectory p : FilePath) : FilePath :=
  let p := workingDirectory.below p
  ⟨"/", collapse [] p.parts⟩

/-- The first name, when it asks for a home directory. -/
def homeRequest? (p : FilePath) : Option String :=
  if p.isAbsolute then none else p.parts.head?.filter (·.startsWith "~")

/-- The path with its first name replaced by a home directory. -/
def underHome (p home : FilePath) : FilePath :=
  { home with parts := home.parts ++ p.parts.tail }

end FilePath

end GrammarForm
