import GrammarForm.Catalogue.Basic
import GrammarForm.Catalogue.Field
import GrammarForm.ErrorContext
import GrammarForm.FileTree

/-!
# Reading a catalogue

A catalogue is read from decoded data in three steps: the symbols become a grammar, the sections
become a layout, and the two are checked against each other.  The first fault that is met is
reported, with its place.

## Main definitions

* `CatalogueFault`, `CatalogueError` : what is wrong with a catalogue, and where.
* `LoadError` : why no catalogue is read.
* `layoutFault?` : the first violation of the rules that tie layout and grammar together.
* `Catalogue.ofParts` : the catalogue of records and sections.
* `Catalogue.ofData` : the catalogue of decoded data.
-/

namespace GrammarForm

/-- What is wrong with a catalogue. -/
inductive CatalogueFault where
  | grammar (e : GrammarError)
  /-- The entry of a symbol is a value of another kind than a table. -/
  | symbolNotTable (kindName : String)
  /-- The fields of a symbol or section are faulty. -/
  | fields (issues : List FieldIssue)
  /-- An alternative of a symbol is the symbol itself. -/
  | selfProduction
  /-- A section extends a symbol without a record. -/
  | unknownExtension (symbol : String)
  /-- A command or dependent of the layout has no record. -/
  | unknownCommand (name : String)
  /-- A command stands twice in the layout. -/
  | repeatedCommand (name : String)
  | fileNotFound
  | malformedFile
deriving DecidableEq, Repr

namespace PlacePart

/-- The text of a step. -/
def text : PlacePart → String
  | key name => name
  | index i => toString i

end PlacePart

namespace FieldIssue

/-- The text of a fault: its place and its code. -/
def text (i : FieldIssue) : String :=
  ".".intercalate (i.place.map (·.text)) ++ ": " ++ i.kind.remark?.getD i.kind.code

end FieldIssue

namespace CatalogueFault

/-- The text of a fault. -/
def message : CatalogueFault → String
  | grammar e => e.message
  | symbolNotTable kindName => s!"Symbol entry must be a table, got {kindName}"
  | fields issues => "\n".intercalate (issues.map (·.text))
  | selfProduction => "Production refers only to its own symbol"
  | unknownExtension symbol => s!"Cannot extend unknown symbol '{symbol}'"
  | unknownCommand name => s!"Layout refers to unknown command '{name}'"
  | repeatedCommand name => s!"Command '{name}' appears twice in the layout"
  | fileNotFound => "Catalogue file not found"
  | malformedFile => "Invalid TOML"

end CatalogueFault

/-- A fault of a catalogue with its place. -/
structure CatalogueError where
  context : ErrorContext
  fault : CatalogueFault
deriving DecidableEq, Repr

namespace CatalogueError

/-- The text of an error. -/
def message (e : CatalogueError) : String :=
  e.context.describe e.fault.message

end CatalogueError

/-- Why no catalogue is read. -/
inductive LoadError where
  /-- The catalogue breaks one of the rules for catalogues. -/
  | catalogue (e : CatalogueError)
  /-- A value that must be a table is none. -/
  | tableExpected
  /-- The sections are no list. -/
  | listExpected
  /-- The table of a symbol has a name of its own. -/
  | nameGiven
  /-- The file cannot be read. -/
  | file (fault : FileFault)
  /-- A number has more digits than are converted or written. -/
  | numberTooLong
  /-- Too many values stand inside each other. -/
  | tooDeep
deriving DecidableEq, Repr

namespace Catalogue

/-- A catalogue error. -/
def failure {α : Type} (context : ErrorContext) (fault : CatalogueFault) : Except LoadError α :=
  .error (.catalogue ⟨context, fault⟩)

/-- The record of a symbol from its entry in the table of symbols. -/
def readSymbol (source : Option FilePath) (name : String) (body : Data) :
    Except LoadError SymbolRecord :=
  let context : ErrorContext := { file := source, symbol := some name }
  match body with
  | .table entries =>
    if Entries.has entries "name" then .error .nameGiven
    else
      match SymbolRecord.ofEntries (("name", .string name) :: entries) with
      | .ok r => .ok r
      | .error issues => failure context (.fields issues)
  | d => failure context (.symbolNotTable d.kindName)

/-- The records of the table of symbols. -/
def readSymbols (source : Option FilePath) : Data → Except LoadError (List SymbolRecord)
  | .table entries => entries.mapM fun (name, body) => readSymbol source name body
  | _ => .error .tableExpected

/-- The title under which a section is reported: its title if it has one that is given, and
otherwise its number. -/
def sectionHeading (number : Nat) (body : Data) : Option String :=
  match body.entries? with
  | none => some s!"#{number}"
  | some entries =>
    match entries.get? "title" with
    | none => some s!"#{number}"
    | some title => if title.isGiven then some title.text else none

/-- Why the title under which a section is reported cannot be shown. -/
def headingFault? (body : Data) : Option Data.TextFault :=
  (body.get? "title").bind (·.textFault?)

/-- A section of the layout from its number and its body. -/
def readSection (source : Option FilePath) (number : Nat) (body : Data) :
    Except LoadError LayoutSection :=
  match LayoutSection.ofData body with
  | .ok s => .ok s
  | .error issues =>
    match headingFault? body with
    | none => failure { file := source, table := sectionHeading number body } (.fields issues)
    | some .numberTooLong => .error .numberTooLong
    | some .tooDeep => .error .tooDeep

/-- The bodies of the sections.  A table stands for its keys and a text for its characters. -/
def sectionBodies : Data → Except LoadError (List Data)
  | .array items => .ok items
  | .table entries => .ok (entries.map fun p => .string p.1)
  | .string s => .ok (s.toList.map fun c => .string (String.ofList [c]))
  | _ => .error .listExpected

/-- The sections numbered from one. -/
def readSections (source : Option FilePath) (d : Data) : Except LoadError (List LayoutSection) := do
  ((← sectionBodies d).mapIdx fun i body => (i + 1, body)).mapM
    fun (number, body) => readSection source number body

/-! ### Rules between layout and grammar -/

/-- The first symbol with an alternative that is the symbol itself. -/
def selfProduction? (records : List SymbolRecord) : Option String :=
  (records.find? fun r => r.productions.contains [r.name]).map (·.name)

/-- The first fault among the commands of a section, `met` being the commands before. -/
def commandsFault? (g : Grammar) (met : List String) : List LayoutCommand → Option CatalogueFault
  | [] => none
  | e :: rest =>
    match (e.name :: e.dependents).find? (!g.has ·) with
    | some name => some (.unknownCommand name)
    | none =>
      if met.contains e.name then some (.repeatedCommand e.name)
      else commandsFault? g (e.name :: met) rest

/-- The first fault of a section, `met` being the commands of the sections before. -/
def sectionFault? (g : Grammar) (met : List String) (s : LayoutSection) : Option CatalogueFault :=
  match s.extensions.find? (!g.has ·.1) with
  | some (symbol, _) => some (.unknownExtension symbol)
  | none => commandsFault? g met s.commands

/-- The first fault of a list of sections, `met` being the commands before, with the title of its
section. -/
def sectionsFault? (g : Grammar) (met : List String) :
    List LayoutSection → Option (String × CatalogueFault)
  | [] => none
  | s :: rest =>
    match sectionFault? g met s with
    | some fault => some (s.title, fault)
    | none => sectionsFault? g ((s.commands.map (·.name)).reverse ++ met) rest

/-- The first violation of the rules that tie layout and grammar together. -/
def layoutFault? (source : Option FilePath) (g : Grammar) (sections : List LayoutSection) :
    Option CatalogueError :=
  match selfProduction? g.records with
  | some name => some ⟨{ file := source, symbol := some name }, .selfProduction⟩
  | none =>
    (sectionsFault? g [] sections).map fun (title, fault) =>
      ⟨{ file := source, table := some title }, fault⟩

/-- A catalogue whose layout obeys the rules. -/
def checked (c : Catalogue) : Except LoadError Catalogue :=
  match layoutFault? c.source c.grammar c.sections with
  | some e => .error (.catalogue e)
  | none => .ok c

/-- The grammar of a list of records, as part of reading a catalogue. -/
def readGrammar (records : List SymbolRecord) : Except LoadError Grammar :=
  match Grammar.ofRecords records with
  | .ok g => .ok g
  | .error e => failure {} (.grammar e)

/-! ### Reading -/

/-- A descriptive value of a catalogue. -/
def infoValue (info : Entries Data) (key : String) (absent : String) : Data :=
  (info.get? key).getD (.string absent)

/-- The name of a catalogue that gives none itself. -/
def nameFor (source : Option FilePath) : String :=
  match source with
  | some p => p.stem
  | none => "catalogue"

/-- The grammar of decoded data. -/
def readDataGrammar (data : Data) (source : Option FilePath) : Except LoadError Grammar := do
  let some entries := data.entries? | .error .tableExpected
  let records ← readSymbols source ((entries.get? "symbols").getD (.table []))
  readGrammar records

/-- The catalogue of decoded data with a given grammar. -/
def withGrammar (grammar : Grammar) (data : Data) (source : Option FilePath) :
    Except LoadError Catalogue := do
  let some info := ((data.get? "catalogue").getD (.table [])).entries? | .error .tableExpected
  let sections ← readSections source ((data.get? "sections").getD (.array []))
  checked
    { name := infoValue info "name" (nameFor source)
      title := infoValue info "title" ""
      description := infoValue info "description" ""
      grammar
      sections
      source }

/-- The catalogue of decoded data, read from a file if there is a source. -/
def ofData (data : Data) (source : Option FilePath) : Except LoadError Catalogue := do
  let grammar ← readDataGrammar data source
  withGrammar grammar data source

/-- The notice that a catalogue was loaded. -/
def loadedNotice (c : Catalogue) : Notice :=
  .catalogueLoaded c.name c.grammar.records.length c.sections.length

/-- What is reported while a catalogue is read, also if reading fails in the end. -/
def readingNotices (data : Data) (source : Option FilePath) : List Notice :=
  match readDataGrammar data source with
  | .error _ => []
  | .ok grammar =>
    grammar.notices ++
      (match withGrammar grammar data source with
        | .ok c => [c.loadedNotice]
        | .error _ => [])

end Catalogue

end GrammarForm
