import GrammarForm.Form.Renderer
import GrammarForm.Layout

/-!
# Rendered commands

A command is rendered from its symbol and gives one line of the configuration: its keyword, a
blank and the text of its tree.

## Main definitions

* `ConfigLine` : a line of the configuration.
* `CommandForm` : a rendered command.
* `RenderContext` : what the commands of a section are rendered with.
* `RenderContext.command` : the rendering of a command of the layout.
-/

namespace GrammarForm

/-- A line of the configuration. -/
structure ConfigLine where
  command : String
  text : String
  valid : Bool
deriving DecidableEq, Repr

namespace ConfigLine

/-- The line of a command with a rendered tree. -/
def ofNode (command : String) (root : Node) : ConfigLine :=
  ⟨command, command ++ " " ++ root.text, root.valid⟩

end ConfigLine

/-- A rendered command. -/
structure CommandForm where
  name : String
  path : Path
  inline : Bool
  explanation : String
  root : Node
  line : ConfigLine
deriving Repr

namespace CommandForm

/-- The number shown before the command. -/
def label (c : CommandForm) : String :=
  c.path.label

/-- The values a browser would submit for the command. -/
def fields (c : CommandForm) : List (String × String) :=
  c.root.fields

/-- Whether the nodes of the command have keys. -/
def hasKeys (c : CommandForm) : Bool :=
  c.root.hasKeys c.name

end CommandForm

/-- What the commands of a section are rendered with. -/
structure RenderContext where
  /-- The digest used in form keys. -/
  digest : String → String
  grammar : Grammar
  /-- The submitted values. -/
  state : FormState
  /-- The greatest depth of a node that is not cut off. -/
  maxDepth : Int
  /-- The upper bound of groups without a maximum of their own. -/
  repeatCap : Int

namespace RenderContext

variable (ctx : RenderContext)

/-- The renderer for a command. -/
def renderer (command : String) (inline : Bool) : Renderer :=
  { digest := ctx.digest
    grammar := ctx.grammar
    state := ctx.state
    command
    inline
    maxDepth := ctx.maxDepth }

/-- The default a command starts from: its own, or else the one of the grammar. -/
def entryDefault (entry : LayoutCommand) : Option DefaultValue :=
  match entry.defaultValue with
  | some d => some d
  | none => ctx.grammar.defaultOf entry.name

/-- The explanation of a command: its own, or else the one of the grammar. -/
def entryExplanation (entry : LayoutCommand) : String :=
  match entry.explanation with
  | some s => if s = "" then ctx.grammar.explanation entry.name else s
  | none => ctx.grammar.explanation entry.name

/-- The rendering of a command at a path, with its notices. -/
def commandInline (entry : LayoutCommand) (path : Path) (inline : Bool) :
    CommandForm × List Notice :=
  let (root, notices) :=
    (ctx.renderer entry.name inline).render entry.name path (ctx.entryDefault entry) 0 false
  ({ name := entry.name
     path
     inline
     explanation := ctx.entryExplanation entry
     root
     line := .ofNode entry.name root },
    notices)

/-- The rendering of a command at a path as its entry says, with its notices. -/
def command (entry : LayoutCommand) (path : Path) : CommandForm × List Notice :=
  ctx.commandInline entry path entry.inline

end RenderContext

end GrammarForm
