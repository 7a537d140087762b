import GrammarForm.FilePath

/-!
# Error contexts

An error in a file says where it was found: in which file, in which of its tables and at which
symbol, as far as that is known.

## Main definitions

* `ErrorContext` : the place of an error.
* `ErrorContext.text` : its text on one line.
* `ErrorContext.describe` : an error text with its place above it.
-/

namespace GrammarForm

/-- The place of an error. -/
structure ErrorContext where
  file : Option FilePath := none
  symbol : Option String := none
  table : Option String := none
deriving DecidableEq, Repr, Inhabited

namespace ErrorContext

/-- The parts of a place that are present and not empty. -/
def parts (c : ErrorContext) : List String :=
  (c.file.map (·.toString)).toList ++
    (c.table.filter (· != "")).toList.map (fun s => s!"[{s}]") ++
    (c.symbol.filter (· != "")).toList.map (fun s => s!"symbol '{s}'")

/-- The text of a place; nothing if no part is present. -/
def text? (c : ErrorContext) : Option String :=
  if c.parts.isEmpty then none else some (" ".intercalate c.parts)

/-- An error text with its place on a line above it. -/
def describe (c : ErrorContext) (message : String) : String :=
  match c.text? with
  | some place => place ++ "\n" ++ message
  | none => message

end ErrorContext

end GrammarForm
