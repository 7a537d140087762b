import GrammarForm.Data

/-!
# Building a table

A document builds its table line by line.  A table may come into being on the way to another one,
by a header, or by dotted keys, and this decides how it can be extended later: a header opens a
table at most once, and dotted keys extend only tables without a header and tables that dotted
keys of the same section began.  Values are closed.

## Main definitions

* `Toml.Item`, `Toml.Table` : a table under construction.
* `Toml.openTable?`, `Toml.openEntry?` : the effect of the two kinds of headers.
* `Toml.assign?` : the effect of a key with a value.
-/

namespace GrammarForm.Toml

/-- How a table came into being. -/
inductive Origin where
  /-- On the way to another table. -/
  | passing
  /-- By a header. -/
  | header
  /-- By dotted keys of a section with a given number. -/
  | dotted (number : Nat)
deriving DecidableEq, Repr

/-- An entry of a table under construction. -/
inductive Item where
  /-- A value. -/
  | value (d : Data)
  /-- A table. -/
  | table (origin : Origin) (entries : List (String × Item))
  /-- A list of tables, of which the last one is open. -/
  | tables (done : List Data) (last : List (String × Item))

/-- A table under construction. -/
abbrev Table := Entries Item

mutual

/-- The value of an entry. -/
def Item.toData : Item → Data
  | .value d => d
  | .table _ entries => .table (tableEntries entries)
  | .tables done last => .array (done ++ [.table (tableEntries last)])

/-- The values of the entries of a table. -/
def tableEntries : List (String × Item) → List (String × Data)
  | [] => []
  | (k, item) :: rest => (k, item.toData) :: tableEntries rest

end

/-- The table with a change made to the table at the end of a path.  Missing tables on the way are
created, and a list of tables is entered at its last one. -/
def modifyAt? (change : Table → Option Table) : List String → Table → Option Table
  | [], t => change t
  | k :: path, t =>
    match t.get? k with
    | none => (modifyAt? change path []).map fun sub => Entries.insert k (.table .passing sub) t
    | some (.table origin sub) =>
      (modifyAt? change path sub).map fun sub => Entries.insert k (.table origin sub) t
    | some (.tables done last) =>
      (modifyAt? change path last).map fun last => Entries.insert k (.tables done last) t
    | some (.value _) => none

/-- The table after a header for the table `key` below `path`. -/
def openTable? (path : List String) (key : String) : Table → Option Table :=
  modifyAt?
    (fun t =>
      match t.get? key with
      | none => some (Entries.insert key (.table .header []) t)
      | some (.table .passing sub) => some (Entries.insert key (.table .header sub) t)
      | _ => none)
    path

/-- The table after a header for one more table of the list `key` below `path`. -/
def openEntry? (path : List String) (key : String) : Table → Option Table :=
  modifyAt?
    (fun t =>
      match t.get? key with
      | none => some (Entries.insert key (.tables [] []) t)
      | some (.tables done last) =>
        some (Entries.insert key (.tables (done ++ [.table (tableEntries last)]) []) t)
      | _ => none)
    path

/-- The table with a value under a dotted key, in the section with a given number. -/
def assign? (number : Nat) (d : Data) : List String → Table → Option Table
  | [], _ => none
  | [k], t => if t.has k then none else some (Entries.insert k (.value d) t)
  | k :: path, t =>
    match t.get? k with
    | none =>
      (assign? number d path []).map fun sub =>
        Entries.insert k (.table (.dotted number) sub) t
    | some (.table origin sub) =>
      if origin = .passing ∨ origin = .dotted number then
        (assign? number d path sub).map fun sub =>
          Entries.insert k (.table (.dotted number) sub) t
      else none
    | _ => none

end GrammarForm.Toml
