import GrammarForm.Json.Reader
import GrammarForm.Program.Screen

/-!
# Runs of the program

The program serves the form of a catalogue, renders a configuration from saved values, explains
symbols, lists the commands of a catalogue and checks a single value.

## Main definitions

* `Program.render`, `Program.serve`, `Program.explain`, `Program.listCommands`, `Program.check` :
  the commands.
* `Program.run` : a whole run.
-/

namespace GrammarForm.Program

variable {m : Type → Type} [Monad m] [Storage m]

open Run

/-- What every command of a run can rely on. -/
structure Setting where
  settings : Settings
  /-- The digest used in form keys. -/
  digest : String → String
  /-- The time that is written to the log file. -/
  stamp : String

/-! ### Setting up -/

/-- Report that a settings file is wrong, and end. -/
def refuseSettings {α : Type} (e : SettingsError) : Run m α := do
  match e.message? with
  | some message =>
    noteMarked ("[red]Configuration error:[/red] " ++ Markup.escaped message)
    finish (.status 1)
  | none => fail (.settings e)

/-- The settings of a run, with the log level of the command line. -/
def obtainSettings (s : Surroundings) (call : ProgramCall) : Run m Settings := do
  match ← stored (Settings.load s call.settings) with
  | .error e => refuseSettings e
  | .ok settings =>
    match call.logLevel.filter (· != "") with
    | none => return settings
    | some name =>
      match readLogLevel none (.string name) with
      | .ok logLevel => return { settings with logLevel }
      | .error e => refuseSettings e

/-- Prepare the reports of a run. -/
def prepareLogs (stamp : String) (settings : Settings) : Run m Unit := do
  let directory := if settings.logsToFile.isGiven then settings.logDirectory else none
  let (result, reports, logs) ←
    stored ((← screen).logs.setup (.string settings.logLevel.name) directory)
  change fun screen => { screen with logs }
  make stamp reports
  match result with
  | .ok _ => pure ()
  | .error e => fail (.logs e)

/-! ### Catalogues and saved values -/

/-- The catalogue of a run.  A wrong catalogue is reported under a heading. -/
def obtainCatalogue (c : Setting) (heading : String) (path : Option FilePath)
    (more : Run m Unit) : Run m Catalogue := do
  let (result, notices) ← stored (Catalogue.load (path.or c.settings.catalogue))
  announce c.stamp notices
  match result with
  | .ok catalogue => return catalogue
  | .error (.catalogue e) =>
    noteMarked (s!"[red]{heading}:[/red] " ++ Markup.escaped e.message)
    more
    finish (.status 1)
  | .error e => fail (.catalogue e)

/-- The catalogue of a command that only reads it. -/
def commandCatalogue (c : Setting) (path : Option FilePath) : Run m Catalogue :=
  obtainCatalogue c "Catalogue error" path
    (note ("Shipped catalogues: " ++ ", ".intercalate Catalogue.shippedNames))

/-- Why no values are read from a file. -/
inductive StateFault where
  | unreadable
  | notTable
  | notText
  | numberTooLong
  | tooDeep
deriving DecidableEq, Repr

/-- The values in a file, from what was found at its path.  Values that are no texts are taken as
they are shown. -/
def stateOf (content : Except FileFault ByteArray) : Except StateFault FormState :=
  match Storage.text content with
  | .error .notText => .error .notText
  | .error _ => .error .unreadable
  | .ok text =>
    match Json.read (Text.unifyLineEnds text) with
    | .ok (.table entries) => .ok (entries.map fun (k, v) => (k, v.text))
    | .ok _ => .error .notTable
    | .error .malformed => .error .unreadable
    | .error .integerTooLong => .error .numberTooLong
    | .error .tooDeep => .error .tooDeep

/-- The values in a file. -/
def loadValues (path : FilePath) : Run m FormState := do
  match stateOf (← stored (Storage.read path)) with
  | .ok state => return state
  | .error .unreadable =>
    noteMarked s!"[red]Cannot read state file {path}:[/red]"
    finish (.status 1)
  | .error .notTable =>
    noteMarked s!"[red]State file {path} must contain a JSON object[/red]"
    finish (.status 1)
  | .error .notText => fail (.file .notText)
  | .error .numberTooLong => fail .numberTooLong
  | .error .tooDeep => fail .tooDeep

/-- Write a text to a file.  The file is made empty before the text is encoded. -/
def writeFile (path : FilePath) (s : String) : Run m Unit := do
  let content := if Text.isEncodable s then s.toUTF8 else ByteArray.empty
  match ← stored (Storage.write path content) with
  | .ok () => if Text.isEncodable s then pure () else fail .unencodable
  | .error fault => fail (.file fault)

/-! ### Rendering -/

/-- The document for submitted values. -/
def assemble (c : Setting) (catalogue : Catalogue) (state : FormState) : Run m Document := do
  match Assembler.ofCatalogue catalogue c.settings.form with
  | .error e => fail (.assembly e)
  | .ok (assembler, notices) =>
    announce c.stamp notices
    match assembler.assemble c.digest state with
    | .error e => fail (.assembly e)
    | .ok (d, notices) =>
      announce c.stamp notices
      return d

/-- The content of a file with saved values. -/
def savedState (state : FormState) : String :=
  Json.writeTexts state ++ "\n"

/-- Hand out the configuration of a document. -/
def deliver (r : RenderRequest) (d : Document) : Run m Unit := do
  match r.output with
  | none => write (Console.withoutSequences (d.text ++ "\n"))
  | some path =>
    writeFile path (d.text ++ "\n")
    noteMarked s!"Wrote {d.lines.length} line(s) to {path}"

/-- Report the invalid lines of a document. -/
def reportInvalid (strict : Bool) (d : Document) : Run m Unit := do
  let invalid := d.invalidLines
  if !invalid.isEmpty then
    note s!"{invalid.length} invalid line(s):"
    invalid.forM fun l => note ("  " ++ l.text)
    if strict then finish (.status 1)

/-- Render a configuration. -/
def render (c : Setting) (r : RenderRequest) : Run m Unit := do
  let catalogue ← commandCatalogue c r.catalogue
  let state ←
    match r.state with
    | none => pure []
    | some path => loadValues path
  let d ← assemble c catalogue state
  deliver r d
  match r.savedState with
  | none => pure ()
  | some path => writeFile path (savedState d.formState)
  reportInvalid r.strict d

/-! ### Serving -/

/-- Hand the form of a catalogue over to a server. -/
def serve (c : Setting) (host : Option String) (port : Option Int)
    (catalogue : Option FilePath) : Run m Unit := do
  let catalogue ← obtainCatalogue c "Cannot start" catalogue (pure ())
  match Site.ofCatalogue catalogue c.settings.form with
  | .error e => fail (.assembly e)
  | .ok (site, notices) =>
    announce c.stamp notices
    log c.stamp
      { logger := "swarmconf.web"
        level := LogLevel.info.number
        message := s!"Catalogue '{catalogue.name.text}' ready: " ++
          s!"{catalogue.commandNames.length} commands in {catalogue.sections.length} sections" }
    let host : Data := ((host.filter (· != "")).map .string).getD c.settings.host
    let port := (port.filter (· != 0)).getD c.settings.port
    log c.stamp
      { logger := "swarmconf.cli"
        level := LogLevel.info.number
        message := s!"Serving on http://{host.text}:{port}" }
    match (← screen).logs.file with
    | none => pure ()
    | some path =>
      log c.stamp
        { logger := "swarmconf.cli"
          level := LogLevel.info.number
          message := s!"JSONL log: {path}" }
    change fun screen =>
      { screen with
        served := screen.served ++ [{ site, host, port, logLevel := c.settings.logLevel }] }

/-! ### Explaining -/

/-- The explanation of an alternative: the one under the symbol at the end of the alias chain, or
else the one under the symbol itself. -/
def productionExplanation (g : Grammar) (symbol production : String) : String :=
  let text := g.alternativeExplanation (g.startSymbol symbol) production
  if text = "" then g.alternativeExplanation symbol production else text

/-- A text as a cell of a table. -/
def cellText (s : String) : String :=
  String.ofList (Console.cleaned s.toList)

/-- The alternatives of a symbol with their explanations. -/
def alternativesTable (g : Grammar) (symbol : String) : Console.Table :=
  let start := g.startSymbol symbol
  let isDefault (p : Production) : Bool :=
    match g.defaultOf symbol with
    | some (.alternative names) => p.names == names
    | _ => false
  { title := some "Alternatives"
    header := ["Alternative", "Explanation"]
    rows := (g.alternatives start).map fun p =>
      [cellText ((if p.id = "" then "(no parameter)" else p.id) ++
          (if isDefault p then " (default)" else "")),
        cellText (g.alternativeExplanation start p.id)] }

/-- Say a text unless it is empty. -/
def sayGiven (s : String) : Run m Unit :=
  if s = "" then pure () else say s

/-- Explain a symbol. -/
def explainSymbol (g : Grammar) (symbol : String) : Run m Unit := do
  sayMarked s!"[bold]{symbol}[/bold]"
  sayGiven (g.explanation symbol)
  sayGiven (g.repeatExplanation symbol)
  match ValueKind.ofPlaceholder? (g.startSymbol symbol) with
  | some leaf => say ("Value: " ++ leaf.placeholder)
  | none =>
    let table := alternativesTable g symbol
    if !table.rows.isEmpty then write table.text

/-- Explain a symbol or one of its alternatives. -/
def explain (c : Setting) (symbol : String) (production : Option String)
    (catalogue : Option FilePath) : Run m Unit := do
  let g := (← commandCatalogue c catalogue).grammar
  if !g.has symbol && (ValueKind.ofPlaceholder? symbol).isNone then
    noteMarked s!"[red]Unknown symbol:[/red] {symbol}"
    finish (.status 1)
  match production with
  | none => explainSymbol g symbol
  | some production =>
    let text := productionExplanation g symbol production
    if text = "" then
      noteMarked s!"[yellow]No explanation for '{symbol}' → '{production}'[/yellow]"
      finish (.status 1)
    else say text

/-! ### Listing -/

/-- How often a command may occur. -/
def repeatText : Option Int → String
  | none => ""
  | some n => if n < 0 then "0..n" else s!"0..{n}"

/-- A default as it is listed. -/
def defaultText : Option DefaultValue → String
  | none => ""
  | some (.text s) => s
  | some (.alternative names) => joinedNames names

/-- The commands of a catalogue in the order of the form. -/
def commandsTable (catalogue : Catalogue) (title : Option String) : Console.Table :=
  let entries := catalogue.sections.flatMap fun s => s.commands.map fun e => (s.title, e)
  { title
    header := ["#", "Command", "Section", "Repeat", "Default"]
    rows := entries.mapIdx fun i (title, e) =>
      [toString (i + 1), cellText e.name, cellText title, repeatText e.repeatLimit,
        cellText (defaultText (catalogue.grammar.defaultOf e.name))] }

/-- The title above the commands: the one of the catalogue, or else its name. -/
def listTitle (catalogue : Catalogue) : Run m (Option String) := do
  let title := if catalogue.title.isGiven then catalogue.title else catalogue.name
  if !title.isGiven then return none
  match title with
  | .string s => return some (String.ofList (Console.cleaned (← unmarked s)))
  | _ => fail .titleNotText

/-- List the commands of a catalogue. -/
def listCommands (c : Setting) (catalogue : Option FilePath) : Run m Unit := do
  let catalogue ← commandCatalogue c catalogue
  write (commandsTable catalogue (← listTitle catalogue)).text

/-! ### Checking -/

/-- Tell whether a value is accepted. -/
def check (kind : ValueKind) (value : String) : Run m Unit := do
  if kind.accepts value then say ("valid " ++ kind.placeholder)
  else
    say ("invalid " ++ kind.placeholder)
    finish (.status 1)

/-! ### Whole runs -/

/-- Carry out a request. -/
def carryOut (c : Setting) : Request → Run m Unit
  | .serve host port catalogue => serve c host port catalogue
  | .render r => render c r
  | .explain symbol production catalogue => explain c symbol production catalogue
  | .commands catalogue => listCommands c catalogue
  | .check kind value => check kind value

/-- A run with the arguments of a command line. -/
def body (s : Surroundings) (digest : String → String) (stamp : String)
    (arguments : List String) : Run m Unit := do
  match ProgramCall.read arguments with
  | .error .version =>
    write ("swarmconf " ++ version ++ "\n")
    finish (.status 0)
  | .error stop => finish (.stop stop)
  | .ok call =>
    let settings ← obtainSettings s call
    prepareLogs stamp settings
    match Request.read call.command call.arguments with
    | .error stop => finish (.stop stop)
    | .ok request => carryOut ⟨settings, digest, stamp⟩ request

/-- How a run ends, and what it has shown. -/
def run (s : Surroundings) (digest : String → String) (stamp : String)
    (arguments : List String) : m (Ending × Screen) := do
  let (result, screen) ← ((body s digest stamp arguments).run.run {} : m _)
  match result with
  | .ok () => return (.status 0, screen)
  | .error ending => return (ending, screen)

end GrammarForm.Program
