import GrammarForm.Grammar.Alias
import GrammarForm.Notice

/-!
# Grammars

A grammar is a list of records in which no name occurs twice and no chain of aliases runs into a
cycle.  Everything else is looked up in the records: roles, alternatives, defaults and
explanations.  Symbols refer to each other by name, so a grammar may be recursive.

## Main definitions

* `Grammar.ofRecords` : the grammar of a list of records, or what is wrong with them.
* `Grammar.startSymbol`, `Grammar.alternatives`, `Grammar.defaultOf` : lookups along aliases.
* `Grammar.extend` : a grammar with more alternatives for one symbol.
* `Grammar.notices` : the warnings about defaults that match no alternative.
-/

namespace GrammarForm

/-- What can be wrong with a list of records. -/
inductive GrammarError where
  /-- Two records have the same name. -/
  | definedTwice (name : String)
  /-- Following aliases never ends; the chain up to the first repeated name. -/
  | aliasCycle (chain : List String)
deriving DecidableEq, Repr

namespace GrammarError

/-- The text of an error. -/
def message : GrammarError → String
  | definedTwice name => s!"Symbol '{name}' is defined twice"
  | aliasCycle chain => "Alias cycle: " ++ " -> ".intercalate chain

end GrammarError

/-- The first name that occurs a second time. -/
def duplicateName? : List String → List String → Option String
  | _, [] => none
  | met, name :: rest => if name ∈ met then some name else duplicateName? (name :: met) rest

/-- The first fault of a list of records: a name defined twice, or else an alias cycle. -/
def recordsFault? (records : List SymbolRecord) : Option GrammarError :=
  match duplicateName? [] (records.map (·.name)) with
  | some name => some (.definedTwice name)
  | none =>
    (records.findSome? fun r => firstRepeat? [] (fullAliasChain records r.name)).map .aliasCycle

/-- A grammar: records without a fault. -/
structure Grammar where
  /-- The records, in the order of their definition. -/
  records : List SymbolRecord
  /-- Names are distinct and alias chains end. -/
  faultless : recordsFault? records = none

namespace Grammar

/-- The grammar of a list of records. -/
def ofRecords (records : List SymbolRecord) : Except GrammarError Grammar :=
  match h : recordsFault? records with
  | none => .ok ⟨records, h⟩
  | some e => .error e

variable (g : Grammar)

/-- The record of a name. -/
def record? (name : String) : Option SymbolRecord :=
  recordOf? g.records name

/-- Whether a name has a record. -/
def has (name : String) : Bool :=
  (g.record? name).isSome

/-- The names with a record, in the order of their definition. -/
def names : List String :=
  g.records.map (·.name)

/-- The names met by following aliases from a name. -/
def chain (name : String) : List String :=
  fullAliasChain g.records name

/-- The symbol at the end of the alias chain of a name. -/
def startSymbol (name : String) : String :=
  (g.chain name).getLastD name

/-- The role of a name inside a production. -/
def roleOf (name : String) : SymbolRole :=
  match ValueKind.ofPlaceholder? name with
  | some leaf => .primitive leaf
  | none =>
    match g.record? name with
    | some r => if r.aliasOf.isSome || !r.productions.isEmpty then .nonterminal else .terminal
    | none => .terminal

/-- The production of a sequence of names. -/
def production (names : List String) : Production :=
  ⟨names.map fun name => ⟨name, g.roleOf name⟩⟩

/-- The alternatives of a symbol; none for the leaf symbols and for names without a record. -/
def alternatives (symbol : String) : List Production :=
  if (ValueKind.ofPlaceholder? symbol).isSome then []
  else
    match g.record? symbol with
    | some r => r.productions.map g.production
    | none => []

/-- The first default along the alias chain of a name. -/
def defaultOf (name : String) : Option DefaultValue :=
  (g.chain name).findSome? fun n => (g.record? n).bind (·.defaultValue)

/-- The explanation of a symbol; empty if it has none. -/
def explanation (symbol : String) : String :=
  ((g.record? symbol).map (·.explanation)).getD ""

/-- The explanation of the alternative of a symbol with a given identifier; empty if it has
none. -/
def alternativeExplanation (symbol id : String) : String :=
  ((g.record? symbol).bind fun r => r.alternatives.get? id).getD ""

/-- The explanation shown with a repeated command. -/
def repeatExplanation (name : String) : String :=
  ((g.record? name).map (·.repeatExplanation)).getD ""

/-- The warnings about the grammar: one for each record whose own default is an alternative that
its start symbol does not have. -/
def notices : List Notice :=
  g.records.filterMap fun r =>
    match r.defaultValue with
    | some (.alternative names) =>
      if (g.alternatives (g.startSymbol r.name)).any (·.names == names) then none
      else some (.unmatchedDefault names r.name)
    | _ => none

/-! ### More alternatives -/

/-- Productions with further ones added at the end, each at most once. -/
def mergeProductions (old new : List (List String)) : List (List String) :=
  new.foldl (fun merged p => if p ∈ merged then merged else merged ++ [p]) old

/-- The records with further productions for one symbol, which gets a record if it has none. -/
def extendRecords (records : List SymbolRecord) (symbol : String)
    (productions : List (List String)) : List SymbolRecord :=
  let extended (r : SymbolRecord) : SymbolRecord :=
    { r with productions := mergeProductions r.productions productions }
  if (recordOf? records symbol).isSome then
    records.map fun r => if r.name = symbol then extended r else r
  else records ++ [extended { name := symbol }]

/-- The grammar with further alternatives for one symbol. -/
def extend (symbol : String) (productions : List (List String)) : Except GrammarError Grammar :=
  ofRecords (extendRecords g.records symbol productions)

end Grammar

end GrammarForm
