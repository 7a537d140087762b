import GrammarForm.Catalogue.Basic
import GrammarForm.Form.Group

/-!
# Documents

A document is the rendering of a whole catalogue: its sections with their commands and groups,
numbered through, and the lines of the configuration that they give.

## Main definitions

* `FormOptions` : title and limits of a form.
* `Document` : a rendered form.
* `Assembler` : a catalogue made ready for rendering.
* `Assembler.assemble` : the document for submitted values.
-/

namespace GrammarForm

/-- The options of a form.  Title and file name are kept as they were given. -/
structure FormOptions where
  /-- The title; the one of the catalogue if none is given. -/
  title : Data := .null
  /-- The upper bound of groups without a maximum of their own. -/
  repeatCap : Int := 1000
  /-- The greatest depth of a node that is not cut off. -/
  maxDepth : Int := 64
  /-- The name under which the configuration is downloaded. -/
  downloadFilename : Data := .string "hippso.conf"

/-- An item of a section. -/
inductive FormItem where
  | command (c : CommandForm)
  | group (g : GroupForm)
deriving Repr

namespace FormItem

/-- The name of the command. -/
def name : FormItem → String
  | command c => c.name
  | group g => g.name

/-- The number shown before the item. -/
def label : FormItem → String
  | command c => c.label
  | group g => g.label

/-- The commands of the item in order. -/
def commands : FormItem → List CommandForm
  | command c => [c]
  | group g => g.commands

/-- The lines of the item. -/
def lines (item : FormItem) : List ConfigLine :=
  item.commands.map (·.line)

/-- The values a browser would submit for the item. -/
def fields : FormItem → List (String × String)
  | command c => c.fields
  | group g => g.fields

/-- Whether all parts of the item have keys. -/
def hasKeys : FormItem → Bool
  | command c => c.hasKeys
  | group g => g.hasKeys

end FormItem

/-- A rendered section. -/
structure FormSection where
  title : String
  items : List FormItem
deriving Repr

namespace FormSection

/-- The lines of the section. -/
def lines (s : FormSection) : List ConfigLine :=
  s.items.flatMap (·.lines)

end FormSection

/-- A rendered form with the configuration it gives. -/
structure Document where
  title : String
  sections : List FormSection
deriving Repr

namespace Document

variable (d : Document)

/-- The items of all sections in order. -/
def items : List FormItem :=
  d.sections.flatMap (·.items)

/-- The lines of the configuration. -/
def lines : List ConfigLine :=
  d.sections.flatMap (·.lines)

/-- The configuration, one command per line. -/
def text : String :=
  "\n".intercalate (d.lines.map (·.text))

/-- Whether all lines are valid. -/
def valid : Bool :=
  d.lines.all (·.valid)

/-- The lines that are not valid. -/
def invalidLines : List ConfigLine :=
  d.lines.filter (!·.valid)

/-- The values a browser would submit for the form. -/
def fields : List (String × String) :=
  d.items.flatMap (·.fields)

/-- Whether all parts of the form have keys. -/
def hasKeys : Bool :=
  d.items.all (·.hasKeys)

/-- The form state: the submitted values by key. -/
def formState : FormState :=
  Entries.distinct d.fields

end Document

namespace RenderContext

/-- The rendering of a command of the layout at a path. -/
def item (ctx : RenderContext) (entry : LayoutCommand) (path : Path) : FormItem × List Notice :=
  if entry.isRepeated then
    let (g, notices) := ctx.group entry path
    (.group g, notices)
  else
    let (c, notices) := ctx.command entry path
    (.command c, notices)

/-- The renderings of commands, the first one numbered `used + 1`. -/
def items (ctx : RenderContext) (used : Nat) (entries : List LayoutCommand) :
    List (FormItem × List Notice) :=
  entries.mapIdx fun i entry => ctx.item entry [(used : Int) + i + 1]

end RenderContext

/-- Why a form cannot be assembled. -/
inductive AssemblyError where
  /-- An extension leads to a faulty grammar. -/
  | grammar (e : GrammarError)
  /-- The title is no text. -/
  | titleNotText
deriving DecidableEq, Repr

/-- A catalogue with its options and the grammar in effect for each section. -/
structure Assembler where
  catalogue : Catalogue
  options : FormOptions
  grammars : List Grammar

namespace Assembler

/-- A catalogue made ready, with the notices about the grammars of its sections. -/
def ofCatalogue (catalogue : Catalogue) (options : FormOptions) :
    Except AssemblyError (Assembler × List Notice) :=
  match catalogue.sectionGrammars with
  | .ok (grammars, notices) => .ok (⟨catalogue, options, grammars⟩, notices)
  | .error e => .error (.grammar e)

variable (a : Assembler) (digest : String → String)

/-- What the commands of a section with a given grammar are rendered with. -/
def context (grammar : Grammar) (state : FormState) : RenderContext :=
  { digest
    grammar
    state
    maxDepth := a.options.maxDepth
    repeatCap := a.options.repeatCap }

/-- The renderings of sections with their grammars, the first command numbered `used + 1`. -/
def renderSections (state : FormState) :
    Nat → List (LayoutSection × Grammar) → List (FormSection × List Notice)
  | _, [] => []
  | used, (s, grammar) :: rest =>
    let items := (a.context digest grammar state).items used s.commands
    (⟨s.title, items.map (·.1)⟩, items.flatMap (·.2)) ::
      renderSections state (used + s.commands.length) rest

/-- The title of the form: the one in the options if given, and otherwise the one of the
catalogue, which must be a text. -/
def title : Except AssemblyError String :=
  match if a.options.title.isGiven then a.options.title else a.catalogue.title with
  | .string s => .ok s
  | _ => .error .titleNotText

/-- The document for submitted values, with the notices of its rendering. -/
def assemble (state : FormState) : Except AssemblyError (Document × List Notice) := do
  let sections := a.renderSections digest state 0 (a.catalogue.sections.zip a.grammars)
  let document : Document := ⟨← a.title, sections.map (·.1)⟩
  let invalid := document.invalidLines.length
  let notices := sections.flatMap (·.2)
  let remark := if invalid = 0 then [] else [.linesAssembled document.lines.length invalid]
  .ok (document, notices ++ remark)

end Assembler

end GrammarForm
