import GrammarForm.Entries
import GrammarForm.Grammar.Symbol

/-!
# Layouts

The layout of a form lists its commands in titled sections.  A command may be repeated, and a
section may add alternatives to symbols for itself and all later sections.

## Main definitions

* `LayoutCommand` : a command of the layout.
* `LayoutSection` : a section of the layout.
-/

namespace GrammarForm

/-- A command of a layout. -/
structure LayoutCommand where
  /-- The keyword of the command, which is also its symbol. -/
  name : String
  /-- Whether the command is shown on one line with its label. -/
  inline : Bool := false
  /-- Nothing for a single command, `-1` for any number of instances, and otherwise the greatest
  number of instances. -/
  repeatLimit : Option Int := none
  /-- The commands that follow as soon as there is an instance. -/
  dependents : List String := []
  /-- A default that takes the place of the one in the grammar. -/
  defaultValue : Option DefaultValue := none
  /-- An explanation that takes the place of the one in the grammar. -/
  explanation : Option String := none
deriving DecidableEq, Repr

namespace LayoutCommand

/-- Whether a command may have several instances. -/
def isRepeated (e : LayoutCommand) : Bool :=
  e.repeatLimit.isSome

end LayoutCommand

/-- A section of a layout. -/
structure LayoutSection where
  title : String
  commands : List LayoutCommand := []
  /-- Further alternatives of symbols, for this section and all later ones. -/
  extensions : Entries (List (List String)) := []
deriving DecidableEq, Repr

end GrammarForm
