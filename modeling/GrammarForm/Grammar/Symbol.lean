import GrammarForm.Entries
import GrammarForm.ValueKind

/-!
# Symbols and productions

A grammar is given by records, one for each symbol with a meaning of its own.  A record may refer
to another symbol that it stands for, list alternative productions, and carry a default and
explanations.  Productions refer to symbols by name.

## Main definitions

* `SymbolRecord` : the record of a symbol.
* `Symbol`, `Production` : a symbol with its role, and a sequence of symbols.
* `joinedNames` : the identifier of a sequence of names.
-/

namespace GrammarForm

/-- A default: the text of a leaf, or the names of an alternative. -/
inductive DefaultValue where
  | text (s : String)
  | alternative (names : List String)
deriving DecidableEq, Repr

/-- The record of a symbol. -/
structure SymbolRecord where
  /-- The name of the symbol or command. -/
  name : String
  /-- The symbol that the name stands for. -/
  aliasOf : Option String := none
  /-- The alternatives, each a sequence of symbol names. -/
  productions : List (List String) := []
  /-- The value a form starts from. -/
  defaultValue : Option DefaultValue := none
  /-- The explanation of the symbol. -/
  explanation : String := ""
  /-- The explanation shown with a repeated command. -/
  repeatExplanation : String := ""
  /-- The explanations of alternatives by their identifiers. -/
  alternatives : Entries String := []
deriving DecidableEq, Repr

/-- How a symbol is treated when a production is shown. -/
inductive SymbolRole where
  /-- A keyword, written as it is. -/
  | terminal
  /-- A value typed by the user. -/
  | primitive (leaf : ValueKind)
  /-- A symbol with a subtree of its own. -/
  | nonterminal
deriving DecidableEq, Repr

/-- A symbol of a production with its role. -/
structure Symbol where
  name : String
  role : SymbolRole
deriving DecidableEq, Repr

namespace Symbol

/-- Whether a symbol is a keyword. -/
def isTerminal (s : Symbol) : Bool :=
  s.role == .terminal

end Symbol

/-- The identifier of an alternative: the names of its symbols, separated by blanks. -/
def joinedNames (names : List String) : String :=
  " ".intercalate names

/-- An alternative of a symbol. -/
structure Production where
  symbols : List Symbol
deriving DecidableEq, Repr

namespace Production

/-- The names of the symbols. -/
def names (p : Production) : List String :=
  p.symbols.map (·.name)

/-- The identifier, which is also the label shown in a choice. -/
def id (p : Production) : String :=
  joinedNames p.names

end Production

end GrammarForm
