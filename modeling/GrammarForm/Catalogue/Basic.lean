import GrammarForm.FilePath
import GrammarForm.Grammar.Basic
import GrammarForm.Layout

/-!
# Catalogues

A catalogue joins a grammar with the layout of a form.  A section of the layout may extend the
grammar; the extension holds for that section and all later ones.

## Main definitions

* `Catalogue` : grammar, layout and descriptive data.
* `Catalogue.overlay` : the grammars in effect section by section.
-/

namespace GrammarForm

/-- A catalogue.  Name, title and description are kept as they were given. -/
structure Catalogue where
  name : Data
  title : Data
  description : Data
  grammar : Grammar
  sections : List LayoutSection
  source : Option FilePath

namespace Catalogue

/-- The commands of the layout in order. -/
def commands (c : Catalogue) : List LayoutCommand :=
  c.sections.flatMap (·.commands)

/-- The names of the commands in order. -/
def commandNames (c : Catalogue) : List String :=
  c.commands.map (·.name)

/-- A grammar with the extensions of a section, and the notices about the grammars on the way. -/
def extendAll (g : Grammar) :
    Entries (List (List String)) → Except GrammarError (Grammar × List Notice)
  | [] => .ok (g, [])
  | (symbol, productions) :: rest => do
    let extended ← g.extend symbol productions
    let (final, notices) ← extendAll extended rest
    .ok (final, extended.notices ++ notices)

/-- The grammars in effect for a list of sections, starting from a grammar, with the notices about
all grammars on the way. -/
def overlay (g : Grammar) : List LayoutSection → Except GrammarError (List Grammar × List Notice)
  | [] => .ok ([], [])
  | s :: rest => do
    let (current, before) ← extendAll g s.extensions
    let (grammars, after) ← overlay current rest
    .ok (current :: grammars, before ++ after)

/-- The grammar in effect for each section. -/
def sectionGrammars (c : Catalogue) : Except GrammarError (List Grammar × List Notice) :=
  overlay c.grammar c.sections

end Catalogue

end GrammarForm
