import GrammarForm.Catalogue.Reader
import GrammarForm.Catalogue.Shipped
import GrammarForm.Toml.Reader

/-!
# Catalogue files

A catalogue is loaded from a TOML file, or it is the shipped one: the one that is used if none is
asked for, and that a bare name selects unless there is a file of that name.

## Main definitions

* `Catalogue.decode` : the data in a catalogue file.
* `Catalogue.ofFile` : the catalogue in a file.
* `Catalogue.load` : the catalogue that a path asks for.
-/

namespace GrammarForm.Catalogue

/-- Whether a fault says that there is no file at a path. -/
def saysAbsent : FileFault → Bool
  | .missing | .notDirectory | .nullInName | .unencodableName => true
  | _ => false

/-- The data in a catalogue file, from what was found at its path. -/
def decode (path : FilePath) (content : Except FileFault ByteArray) : Except LoadError Data :=
  match Storage.text content with
  | .ok text =>
    match Toml.read text with
    | .ok d => .ok d
    | .error .malformed => failure { file := some path } .malformedFile
    | .error .integerTooLong => .error .numberTooLong
    | .error .tooDeep => .error .tooDeep
  | .error fault =>
    if saysAbsent fault then failure { file := some path } .fileNotFound
    else .error (.file fault)

/-- The catalogue in a file, and what is reported while it is read. -/
def ofFile (path : FilePath) (content : Except FileFault ByteArray) :
    Except LoadError Catalogue × List Notice :=
  match decode path content with
  | .ok d => (ofData d (some path), readingNotices d (some path))
  | .error e => (.error e, [])

/-- The names of the shipped catalogues. -/
def shippedNames : List String := ["hippso"]

/-- Whether a path for which there is no file selects a shipped catalogue. -/
def namesShipped (path : FilePath) : Bool :=
  path.suffix = "" && shippedNames.contains path.toString

/-- The shipped catalogue, and what is reported while it is read. -/
def shipped : Except LoadError Catalogue × List Notice :=
  let result := Shipped.catalogue none
  (result, (result.toOption.map loadedNotice).toList)

/-- The catalogue that a path asks for, and what is reported while it is read. -/
def load {m : Type → Type} [Monad m] [Storage m] :
    Option FilePath → m (Except LoadError Catalogue × List Notice)
  | none => return shipped
  | some path => do
    let content ← Storage.read path
    return if !Storage.isPresent content && namesShipped path then shipped
      else ofFile path content

end GrammarForm.Catalogue
