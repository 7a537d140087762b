import GrammarForm.FilePath
import GrammarForm.ValueKind
import GrammarForm.Program.Options
import GrammarForm.Text.FreeInteger
import GrammarForm.Text.Halves
import GrammarForm.Text.Lowercase

/-!
# What a command line asks for

A command line has options for the whole program, the name of a command, and the arguments of that
command.  The arguments of the command are read only when the program is set up.

## Main definitions

* `ProgramCall` : the options for the whole program and the command.
* `Request` : what a command is asked to do.
* `ProgramCall.read`, `Request.read` : reading both.
-/

namespace GrammarForm

/-- Why a command line is not carried out. -/
inductive Stop where
  /-- It is not understood. -/
  | misuse
  /-- It asks how the program is used. -/
  | help
  /-- It asks for the version. -/
  | version
deriving DecidableEq, Repr

/-- The commands of the program. -/
inductive CommandName where
  | serve
  | render
  | explain
  | commands
  | check
deriving DecidableEq, Repr

namespace CommandName

/-- The command with a given name. -/
def ofText? : String → Option CommandName
  | "serve" => some serve
  | "render" => some render
  | "explain" => some explain
  | "commands" => some commands
  | "check" => some check
  | _ => none

end CommandName

/-- The option that asks how something is used. -/
def helpOption : OptionForm :=
  { long := "--help", takesValue := false }

/-- The option for the catalogue. -/
def catalogueOption : OptionForm :=
  { long := "--catalogue", takesValue := true }

/-- The options for the whole program. -/
def programOptions : List OptionForm :=
  [{ long := "--config", short := some 'c', takesValue := true },
    { long := "--log-level", takesValue := true },
    { long := "--version", short := some 'v', takesValue := false },
    helpOption]

/-- The path that is the value of an option, or nothing if the option is not given.  A value that
names no file on any system is an error. -/
def pathOption (a : Arguments) (long : String) : Except Stop (Option FilePath) :=
  match a.value? long with
  | none => .ok none
  | some s =>
    if s.toList.contains '\x00' || !Text.isFileName s then .error .misuse
    else .ok (some (.ofString s))

/-- The options for the whole program with the command that follows them. -/
structure ProgramCall where
  settings : Option FilePath
  logLevel : Option String
  command : CommandName
  arguments : List String
deriving DecidableEq, Repr

namespace ProgramCall

/-- The first option that ends the program at once. -/
def stop? (a : Arguments) : Option Stop :=
  a.options.findSome? fun (long, _) =>
    if long = "--version" then some .version
    else if long = "--help" then some .help
    else none

/-- Why a command line with an unknown command is not carried out.  What stands in the place of the
command may be an option of the program that was taken for a command because it follows two hyphens;
such an option still ends the program. -/
def stopOfUnknown (others : List String) : Stop :=
  match Arguments.read programOptions false others with
  | none => .misuse
  | some a => (stop? a).getD .misuse

/-- The call that a command line makes. -/
def read (arguments : List String) : Except Stop ProgramCall :=
  match Arguments.read programOptions false arguments with
  | none => .error .misuse
  | some a =>
    match stop? a with
    | some stop => .error stop
    | none => do
      let settings ← pathOption a "--config"
      match a.others with
      | [] => .error .misuse
      | name :: rest =>
        match CommandName.ofText? name with
        | none => .error (stopOfUnknown (name :: rest))
        | some command =>
          .ok { settings, logLevel := a.value? "--log-level", command, arguments := rest }

end ProgramCall

/-- What the configuration is rendered from and where it goes. -/
structure RenderRequest where
  /-- The file with submitted values. -/
  state : Option FilePath
  /-- The file that the configuration is written to. -/
  output : Option FilePath
  /-- Whether invalid lines make the run fail. -/
  strict : Bool
  /-- The file that the resulting values are written to. -/
  savedState : Option FilePath
  catalogue : Option FilePath
deriving DecidableEq, Repr

/-- What a command is asked to do. -/
inductive Request where
  | serve (host : Option String) (port : Option Int) (catalogue : Option FilePath)
  | render (r : RenderRequest)
  | explain (symbol : String) (production : Option String) (catalogue : Option FilePath)
  | commands (catalogue : Option FilePath)
  | check (kind : ValueKind) (value : String)
deriving DecidableEq, Repr

namespace CommandName

/-- The options of a command. -/
def options : CommandName → List OptionForm
  | serve =>
    [{ long := "--host", takesValue := true },
      { long := "--port", short := some 'p', takesValue := true },
      catalogueOption, helpOption]
  | render =>
    [{ long := "--state", short := some 's', takesValue := true },
      { long := "--output", short := some 'o', takesValue := true },
      { long := "--strict", takesValue := false },
      { long := "--save-state", takesValue := true },
      catalogueOption, helpOption]
  | explain => [{ long := "--production", takesValue := true }, catalogueOption, helpOption]
  | commands => [catalogueOption, helpOption]
  | check => [helpOption]

end CommandName

namespace Request

/-- The port that is asked for, or nothing if none is; a value that is no integer is an error. -/
def port (a : Arguments) : Except Stop (Option Int) :=
  match a.value? "--port" with
  | none => .ok none
  | some s =>
    match FreeInteger.read s with
    | .ok n => .ok (some n)
    | .error _ => .error .misuse

/-- The kind of leaf with a name in letters of either case. -/
def kind (s : String) : Except Stop ValueKind :=
  match ValueKind.ofName? (Text.folded s) with
  | some k => .ok k
  | none => .error .misuse

/-- The request that the options and arguments of a command make. -/
def ofArguments (command : CommandName) (a : Arguments) : Except Stop Request :=
  match command, a.others with
  | .serve, [] => do
    return .serve (a.value? "--host") (← port a) (← pathOption a "--catalogue")
  | .render, [] => do
    return .render
      { state := ← pathOption a "--state"
        output := ← pathOption a "--output"
        strict := a.has "--strict"
        savedState := ← pathOption a "--save-state"
        catalogue := ← pathOption a "--catalogue" }
  | .explain, [symbol] => do
    return .explain symbol (a.value? "--production") (← pathOption a "--catalogue")
  | .commands, [] => do return .commands (← pathOption a "--catalogue")
  | .check, [name, value] => do return .check (← kind name) value
  | _, _ => .error .misuse

/-- The request that the arguments of a command make. -/
def read (command : CommandName) (arguments : List String) : Except Stop Request :=
  match Arguments.read command.options true arguments with
  | none => .error .misuse
  | some a => if a.has "--help" then .error .help else ofArguments command a

end Request

end GrammarForm
