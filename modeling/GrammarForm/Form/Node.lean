import GrammarForm.FormKey
import GrammarForm.FormState
import GrammarForm.Text.Halves
import GrammarForm.ValueKind

/-!
# Rendered nodes

A node of a form shows a symbol: a text field for a leaf, a choice among the alternatives of any
other symbol, and below a choice the nodes for the selected alternative.  It carries the text of
its whole subtree and tells whether that text is complete and valid.

## Main definitions

* `Widget` : a text field or a choice.
* `Node` : a node with its subtree.
* `Node.nodes` : the nodes of a subtree, depth first.
* `Node.fields` : the values a browser would submit for a subtree.
-/

namespace GrammarForm

/-- Why a node is invalid on its own account. -/
inductive Node.Issue where
  /-- No alternative is selected. -/
  | unresolvedChoice
  /-- The text is not accepted by the kind of the leaf. -/
  | invalidLeaf
  /-- The symbol has no alternatives. -/
  | unknownSymbol
  /-- The node is nested too deeply. -/
  | tooDeep
deriving DecidableEq, Repr

/-- The text of a node without a selected alternative. -/
def unresolvedText : String := "<Please choose option>"

/-- The tooltip of a choice without a selected alternative. -/
def unresolvedTooltip : String := "Please choose an option."

namespace Node.Issue

/-- The tag of an issue. -/
def tag : Node.Issue → String
  | unresolvedChoice => "unresolved_choice"
  | invalidLeaf => "invalid_leaf"
  | unknownSymbol => "unknown_symbol"
  | tooDeep => "too_deep"

/-- The explanation of an issue. -/
def message : Node.Issue → String
  | unresolvedChoice => unresolvedTooltip
  | invalidLeaf => "Invalid value."
  | unknownSymbol => "Unknown symbol in the grammar."
  | tooDeep => "Nested too deeply."

/-- The issue with a given tag. -/
def ofTag? (s : String) : Option Node.Issue :=
  [unresolvedChoice, invalidLeaf, unknownSymbol, tooDeep].find? (·.tag == s)

end Node.Issue

/-- One alternative as it is offered in a choice. -/
structure Offer where
  index : Nat
  label : String
  tooltip : String
  selected : Bool
deriving DecidableEq, Repr

/-- What the user sees at a node. -/
inductive Widget where
  /-- A text field with its current value. -/
  | text (value : String) (leaf : ValueKind) (valid : Bool)
  /-- A choice among alternatives; it is disabled when there is nothing to choose. -/
  | choice (options : List Offer) (selected : Option Nat) (tooltip : String)
      (disabled : Bool)
deriving DecidableEq, Repr

/-- The value submitted for a choice. -/
def selectionText : Option Nat → String
  | some i => toString i
  | none => "-1"

namespace Widget

/-- The value a browser would submit for a widget. -/
def value : Widget → String
  | text v _ _ => v
  | choice _ selected _ _ => selectionText selected

end Widget

/-- A node of a form. -/
structure Node where
  /-- The key its value is submitted under. -/
  key : String
  /-- The symbol as it stands in the production. -/
  symbol : String
  /-- The place of the node. -/
  path : Path
  /-- The explanation of the symbol. -/
  tooltip : String
  /-- Whether number and symbol are shown before the widget. -/
  showLabel : Bool
  /-- The widget; none for a node that was cut off. -/
  widget : Option Widget
  /-- The nodes for the symbols of the selected alternative that are no keywords. -/
  children : List Node
  /-- The text of the subtree. -/
  text : String
  /-- Whether the subtree is complete and valid. -/
  valid : Bool
  /-- Why the node is invalid on its own account. -/
  issue : Option Node.Issue
deriving Repr

namespace Node

/-- The number shown before the node. -/
def label (n : Node) : String :=
  n.path.label

mutual

/-- The nodes of a subtree, depth first. -/
def nodes : Node → List Node
  | n@⟨_, _, _, _, _, _, children, _, _, _⟩ => n :: nodesOf children

/-- The nodes of several subtrees, depth first. -/
def nodesOf : List Node → List Node
  | [] => []
  | n :: rest => n.nodes ++ nodesOf rest

end

/-- The value submitted for the widget of a single node. -/
def ownField (n : Node) : Option (String × String) :=
  n.widget.map fun w => (n.key, w.value)

/-- The values a browser would submit for a subtree, depth first. -/
def fields (n : Node) : List (String × String) :=
  n.nodes.filterMap ownField

/-- Whether the nodes of a subtree have keys under a command: names without a form in bytes have no
digest. -/
def hasKeys (command : String) (n : Node) : Bool :=
  Text.isEncodable command && n.nodes.all fun m => Text.isEncodable m.symbol

/-- The form state of a subtree. -/
def formState (n : Node) : FormState :=
  Entries.distinct n.fields

end Node

end GrammarForm
