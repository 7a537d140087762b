import GrammarForm.Grammar.Symbol

/-!
# Chains of aliases

A record may stand for another symbol.  Following these references from a name gives a chain of
names; a chain that meets a name twice never ends.

## Main definitions

* `aliasTarget?` : the symbol that a name stands for.
* `aliasChain` : the names met from a name on.
* `firstRepeat?` : the beginning of a list up to its first repeated element.
-/

namespace GrammarForm

/-- The record of a name. -/
def recordOf? (records : List SymbolRecord) (name : String) : Option SymbolRecord :=
  records.find? (·.name == name)

/-- The symbol that a name stands for. -/
def aliasTarget? (records : List SymbolRecord) (name : String) : Option String :=
  (recordOf? records name).bind (·.aliasOf)

/-- The names met by following at most `n` aliases from a name, the name itself first. -/
def aliasChain (records : List SymbolRecord) : Nat → String → List String
  | 0, name => [name]
  | n + 1, name =>
    match aliasTarget? records name with
    | none => [name]
    | some next => name :: aliasChain records n next

/-- The names met from a name on.  A chain without repetition leaves each record at most once, so
the number of records bounds its steps. -/
def fullAliasChain (records : List SymbolRecord) (name : String) : List String :=
  aliasChain records records.length name

/-- The beginning of a list up to and including the first element met before. -/
def firstRepeat? {α : Type} [DecidableEq α] (met : List α) : List α → Option (List α)
  | [] => none
  | x :: rest => if x ∈ met then some (met ++ [x]) else firstRepeat? (met ++ [x]) rest

end GrammarForm
