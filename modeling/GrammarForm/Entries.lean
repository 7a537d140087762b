/-!
# Ordered entries

A list of keys with values, in the order in which the keys were first given.  Giving a key again
replaces its value and keeps its place.

## Main definitions

* `Entries.get?` : the value of a key.
* `Entries.insert` : the entries with the value of a key replaced or added at the end.
* `Entries.distinct` : a list of pairs as entries, each key once.
-/

namespace GrammarForm

/-- Keys with values, in the order of their first appearance. -/
abbrev Entries (α : Type) := List (String × α)

namespace Entries

variable {α : Type}

/-- The value of a key. -/
def get? (entries : Entries α) (key : String) : Option α :=
  entries.lookup key

/-- Whether a key has a value. -/
def has (entries : Entries α) (key : String) : Bool :=
  entries.any (·.1 == key)

/-- The entries with the value of a key replaced in its place, or added at the end. -/
def insert (key : String) (value : α) : Entries α → Entries α
  | [] => [(key, value)]
  | (k, v) :: rest =>
    if k = key then (key, value) :: rest else (k, v) :: insert key value rest

/-- The pairs as entries: every key in its first place and with its last value. -/
def distinct (pairs : List (String × α)) : Entries α :=
  pairs.foldl (fun entries p => insert p.1 p.2 entries) []

/-- The entries without some keys. -/
def without (keys : List String) (entries : Entries α) : Entries α :=
  entries.filter fun p => !keys.contains p.1

end Entries

end GrammarForm
