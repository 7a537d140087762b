import GrammarForm.Data
import GrammarForm.FormKey
import GrammarForm.Grammar.Symbol

/-!
# Notices

Building a grammar and rendering a form can give rise to notices: warnings about defaults and
nesting, and remarks about the progress.

## Main definitions

* `Notice` : the events that are reported.
* `Notice.message` : the text of a notice.
* `Notice.isWarning` : whether a notice is a warning.
* `Notice.logger` : the logger that reports a notice.
-/

namespace GrammarForm

/-- An event worth reporting. -/
inductive Notice where
  /-- The default of a symbol is none of its alternatives. -/
  | unmatchedDefault (names : List String) (symbol : String)
  /-- A node was cut off because it is nested too deeply. -/
  | nestingLimit (limit : Int) (command : String) (path : Path)
  /-- A repeat group was rendered. -/
  | groupRendered (command : String) (path : Path) (count : Int)
  /-- A document with invalid lines was assembled. -/
  | linesAssembled (total invalid : Nat)
  /-- A catalogue was loaded. -/
  | catalogueLoaded (name : Data) (symbols sections : Nat)
deriving Repr

namespace Notice

/-- The text of a notice. -/
def message : Notice → String
  | unmatchedDefault names symbol =>
    s!"Default '{joinedNames names}' of '{symbol}' is not one of its alternatives"
  | nestingLimit limit command path =>
    s!"Nesting limit {limit} reached in '{command}' at {path.label}"
  | groupRendered command path count =>
    s!"Repeat group '{command}' at {path.label} has {count} instance(s)"
  | linesAssembled total invalid => s!"Assembled {total} line(s), {invalid} invalid"
  | catalogueLoaded name symbols sections =>
    s!"Loaded catalogue '{name.text}': {symbols} symbols, {sections} sections"

/-- Whether a notice is a warning. -/
def isWarning : Notice → Bool
  | unmatchedDefault .. => true
  | nestingLimit .. => true
  | _ => false

/-- The logger that reports a notice. -/
def logger : Notice → String
  | unmatchedDefault .. => "swarmconf.core.grammar"
  | nestingLimit .. => "swarmconf.core.render"
  | groupRendered .. => "swarmconf.core.render"
  | linesAssembled .. => "swarmconf.core.assembler"
  | catalogueLoaded .. => "swarmconf.core.catalogue_loader"

end Notice

end GrammarForm
