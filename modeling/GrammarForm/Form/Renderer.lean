import GrammarForm.Form.Node
import GrammarForm.Grammar.Basic
import GrammarForm.Text.Blank

/-!
# Rendering a symbol

A symbol is rendered against the submitted values.  A leaf shows the submitted text or its
default.  Any other symbol shows its alternatives; if one of them is selected, its keywords and
the renderings of its other symbols make up the text.  Nothing fails on bad input: a node that is
incomplete or invalid says so and keeps its text.

A symbol may contain itself, so nodes are rendered down to a limited number of levels and cut off
below.

## Main definitions

* `Renderer` : grammar, submitted values and options of a rendering.
* `Renderer.choose` : the selected alternative of a choice.
* `Renderer.renderLevels` : the node of a symbol, down to a number of levels.
* `Renderer.render` : the node of a symbol at a given depth.
-/

namespace GrammarForm

/-- What a rendering depends on besides symbol and place. -/
structure Renderer where
  /-- The digest used in form keys. -/
  digest : String → String
  grammar : Grammar
  /-- The submitted values. -/
  state : FormState
  /-- The command that the nodes belong to. -/
  command : String
  /-- Whether the labels of nested nodes are left out. -/
  inline : Bool
  /-- The greatest depth of a node that is not cut off. -/
  maxDepth : Int

/-- A piece of a selected alternative: a keyword, or something rendered for another symbol. -/
inductive Piece (α : Type) where
  | keyword (name : String)
  | slot (content : α)
deriving Repr

namespace Piece

variable {α : Type}

/-- What was rendered for a symbol that is no keyword. -/
def content? : Piece α → Option α
  | keyword _ => none
  | slot x => some x

/-- The text of a piece. -/
def text (contentText : α → String) : Piece α → String
  | keyword name => name
  | slot x => contentText x

end Piece

/-- The pieces of a sequence of symbols.  The symbols that are no keywords are numbered from
`used + 1` on, and `fill` renders them from their number and name. -/
def pieces {α : Type} (fill : Nat → String → α) : Nat → List Symbol → List (Piece α)
  | _, [] => []
  | used, s :: rest =>
    if s.isTerminal then .keyword s.name :: pieces fill used rest
    else .slot (fill (used + 1) s.name) :: pieces fill (used + 1) rest

namespace Renderer

variable (r : Renderer)

/-- The key of the node for a symbol at a path. -/
def key (symbol : String) (path : Path) : String :=
  widgetKey r.digest r.command symbol path

/-- The text of a leaf: the submitted one, or the default of the grammar if it is a text, or the
fallback of the kind. -/
def leafText (leaf : ValueKind) (default? : Option DefaultValue) (submitted? : Option String) :
    String :=
  match submitted?, default? with
  | some v, _ => v
  | none, some (.text s) => if s = "" then leaf.fallback else s
  | none, _ => leaf.fallback

/-- The index that a submitted text selects among `count` alternatives. -/
def submittedIndex (submitted : String) (count : Nat) : Option Nat :=
  let s := Text.trim submitted
  if ValueKind.nonnegativeInteger.accepts s && decide (Decimal.value s.toList < count) then
    some (Decimal.value s.toList)
  else none

/-- The selected alternative.  The default and a single alternative count only for a choice that
was never submitted; a submitted text that is no index of an alternative selects nothing. -/
def choose (options : List Production) (default? : Option DefaultValue)
    (submitted? : Option String) : Option Nat :=
  match submitted? with
  | some s => submittedIndex s options.length
  | none =>
    let matching :=
      match default? with
      | some (.alternative names) => options.findIdx? (·.names == names)
      | _ => none
    match matching with
    | some i => some i
    | none => if options.length = 1 then some 0 else none

/-- The offered alternatives of a symbol. -/
def choiceOptions (start : String) (options : List Production) (selected : Option Nat) :
    List Offer :=
  options.mapIdx fun i p =>
    { index := i
      label := p.id
      tooltip := r.grammar.alternativeExplanation start p.id
      selected := selected == some i }

/-- The choice widget of a symbol. -/
def choiceAmong (start : String) (options : List Production) (selected : Option Nat) : Widget :=
  .choice (r.choiceOptions start options selected) selected
    (match selected.bind (options[·]?) with
      | some p => r.grammar.alternativeExplanation start p.id
      | none => unresolvedTooltip)
    (options.length == 1 && selected.isSome)

/-- A node without subtree that is invalid for a reason of its own. -/
def unresolvedNode (symbol : String) (path : Path) (showLabel : Bool) (widget : Option Widget)
    (issue : Node.Issue) : Node :=
  { key := r.key symbol path
    symbol
    path
    tooltip := r.grammar.explanation symbol
    showLabel
    widget
    children := []
    text := unresolvedText
    valid := false
    issue := some issue }

/-- The node of a leaf. -/
def leafNode (symbol : String) (path : Path) (showLabel : Bool) (leaf : ValueKind)
    (default? : Option DefaultValue) : Node :=
  let key := r.key symbol path
  let value := leafText leaf default? (r.state.get? key)
  let valid := leaf.accepts value
  { key
    symbol
    path
    tooltip := r.grammar.explanation symbol
    showLabel
    widget := some (.text value leaf valid)
    children := []
    text := value
    valid
    issue := if valid then none else some .invalidLeaf }

/-- The node of a choice with a selected alternative, from the pieces of that alternative. -/
def resolvedNode (symbol : String) (path : Path) (showLabel : Bool) (widget : Widget)
    (content : List (Piece Node)) : Node :=
  let children := content.filterMap Piece.content?
  { key := r.key symbol path
    symbol
    path
    tooltip := r.grammar.explanation symbol
    showLabel
    widget := some widget
    children
    text := " ".intercalate (content.map (Piece.text (·.text)))
    valid := children.all (·.valid)
    issue := none }

/-- The node of a symbol down to a number of levels, with the notices of the rendering.  On no
level at all the node is cut off.

That the stack of an interpreter is exhausted at several hundred levels is not modelled here, while
`Toml.value` and `Data.textFault?` have a border of that kind: only a depth limit far above the usual
one lets a symbol that contains itself get that far. -/
def renderLevels : Nat → String → Path → Option DefaultValue → Bool → Node × List Notice
  | 0, symbol, path, _, showLabel =>
    (r.unresolvedNode symbol path showLabel none .tooDeep,
      [.nestingLimit r.maxDepth r.command path])
  | levels + 1, symbol, path, default?, showLabel =>
    let start := r.grammar.startSymbol symbol
    match ValueKind.ofPlaceholder? start with
    | some leaf => (r.leafNode symbol path showLabel leaf default?, [])
    | none =>
      let options := r.grammar.alternatives start
      if options.isEmpty then
        (r.unresolvedNode symbol path showLabel
          (some (.choice [] none unresolvedTooltip false)) .unknownSymbol, [])
      else
        let selected := choose options default? (r.state.get? (r.key symbol path))
        let widget := r.choiceAmong start options selected
        match selected.bind (options[·]?) with
        | none => (r.unresolvedNode symbol path showLabel (some widget) .unresolvedChoice, [])
        | some p =>
          let content :=
            pieces
              (fun i name =>
                renderLevels levels name (path ++ [(i : Int)]) (r.grammar.defaultOf name)
                  (!r.inline))
              0 p.symbols
          (r.resolvedNode symbol path showLabel widget
              (content.map fun
                | .keyword name => .keyword name
                | .slot rendered => .slot rendered.1),
            (content.filterMap Piece.content?).flatMap (·.2))

/-- The number of levels from a depth on that are not cut off. -/
def levelsFrom (depth : Int) : Nat :=
  (r.maxDepth + 1 - depth).toNat

/-- The node of a symbol at a depth, with the notices of the rendering. -/
def render (symbol : String) (path : Path) (default? : Option DefaultValue) (depth : Int)
    (showLabel : Bool) : Node × List Notice :=
  r.renderLevels (r.levelsFrom depth) symbol path default? showLabel

end Renderer

end GrammarForm
