import GrammarForm.Entries
import GrammarForm.Moment
import GrammarForm.Number.Shortest
import GrammarForm.Text.Quoted

/-!
# Decoded data

Catalogue files, settings files and saved form states decode to the same kind of value.  Tables
keep the order of their entries, and no key occurs twice in a table that a reader produced.

## Main definitions

* `Data` : a decoded value.
* `Data.entries?`, `Data.get?` : the entries of a table.
* `Data.text` : the text a value is shown as.
* `Data.same` : equality of values, which is decided by going through them.
* `Data.textFault?` : why a value cannot be shown.
-/

namespace GrammarForm

/-- A decoded value. -/
inductive Data where
  | null
  | bool (b : Bool)
  | int (n : Int)
  | float (x : Binary64)
  | string (s : String)
  | moment (m : Moment)
  | array (items : List Data)
  | table (entries : List (String × Data))
deriving Repr, Inhabited

namespace Data

/-- The name under which the kind of a value is reported. -/
def kindName : Data → String
  | null => "NoneType"
  | bool _ => "bool"
  | int _ => "int"
  | float _ => "float"
  | string _ => "str"
  | moment m => m.kindName
  | array _ => "list"
  | table _ => "dict"

/-- Whether a value counts as given: false, zero, and empty texts and collections do not. -/
def isGiven : Data → Bool
  | null => false
  | bool b => b
  | int n => n != 0
  | float x => !x.isZero
  | string s => s != ""
  | moment _ => true
  | array items => !items.isEmpty
  | table entries => !entries.isEmpty

/-- Whether a value holds other values. -/
def isCollection : Data → Bool
  | array _ => true
  | table _ => true
  | _ => false

/-- The entries of a table. -/
def entries? : Data → Option (Entries Data)
  | table entries => some entries
  | _ => none

/-- The value of a key in a table; nothing for a missing key and for other values. -/
def get? (d : Data) (key : String) : Option Data :=
  d.entries?.bind (·.get? key)

/-- The text of a value that is a text. -/
def string? : Data → Option String
  | string s => some s
  | _ => none

mutual

/-- The text of a value inside a collection: texts are quoted, and moments are written as
expressions. -/
def quoted : Data → String
  | null => "None"
  | bool b => if b then "True" else "False"
  | int n => toString n
  | float x => x.text
  | string s => Text.quoted s
  | moment m => m.expression
  | array items => "[" ++ quotedItems items ++ "]"
  | table entries => "\x7b" ++ quotedEntries entries ++ "\x7d"

/-- The quoted items of an array, separated by commas. -/
def quotedItems : List Data → String
  | [] => ""
  | [d] => d.quoted
  | d :: e :: rest => d.quoted ++ ", " ++ quotedItems (e :: rest)

/-- The quoted entries of a table, separated by commas. -/
def quotedEntries : List (String × Data) → String
  | [] => ""
  | [(k, d)] => Text.quoted k ++ ": " ++ d.quoted
  | (k, d) :: e :: rest => Text.quoted k ++ ": " ++ d.quoted ++ ", " ++ quotedEntries (e :: rest)

end

/-- The text a value is shown as. -/
def text : Data → String
  | string s => s
  | moment m => m.text
  | d => d.quoted

/-! ### Equality -/

mutual

/-- Whether two values are the same, the entries of tables being in the same order. -/
def same : Data → Data → Bool
  | null, null => true
  | bool b, bool c => b == c
  | int m, int n => m == n
  | float x, float y => x == y
  | string s, string t => s == t
  | moment m, moment n => m == n
  | array items, array others => sameItems items others
  | table entries, table others => sameEntries entries others
  | _, _ => false

/-- Whether two arrays have the same items. -/
def sameItems : List Data → List Data → Bool
  | [], [] => true
  | d :: rest, e :: others => d.same e && sameItems rest others
  | _, _ => false

/-- Whether two tables have the same entries. -/
def sameEntries : List (String × Data) → List (String × Data) → Bool
  | [], [] => true
  | (k, d) :: rest, (l, e) :: others => k == l && d.same e && sameEntries rest others
  | _, _ => false

end

mutual

/-- Values are the same exactly if they are equal. -/
theorem same_iff : (d e : Data) → (d.same e = true ↔ d = e)
  | null, e => by cases e <;> simp [same]
  | bool b, e => by cases e <;> simp [same]
  | int n, e => by cases e <;> simp [same]
  | float x, e => by cases e <;> simp [same]
  | string s, e => by cases e <;> simp [same]
  | moment m, e => by cases e <;> simp [same]
  | array items, e => by cases e <;> simp [same, sameItems_iff items]
  | table entries, e => by cases e <;> simp [same, sameEntries_iff entries]

theorem sameItems_iff : (items others : List Data) →
    (sameItems items others = true ↔ items = others)
  | [], others => by cases others <;> simp [sameItems]
  | d :: rest, others => by cases others <;> simp [sameItems, same_iff d, sameItems_iff rest]

theorem sameEntries_iff : (entries others : List (String × Data)) →
    (sameEntries entries others = true ↔ entries = others)
  | [], others => by cases others <;> simp [sameEntries]
  | (k, d) :: rest, others => by
    cases others <;> simp [sameEntries, same_iff d, sameEntries_iff rest, Prod.ext_iff]

end

instance : DecidableEq Data := fun d e =>
  decidable_of_decidable_of_iff (same_iff d e)

/-! ### Values that are not shown -/

/-- Why a value cannot be shown. -/
inductive TextFault where
  /-- An integer has too many digits. -/
  | numberTooLong
  /-- Too many values stand inside each other. -/
  | tooDeep
deriving DecidableEq, Repr

/-- The number of digits beyond which an integer is not written. -/
def digitLimit : Nat := 4300

/-- The number of values inside each other beyond which a value is not written. -/
def depthLimit : Nat := 10000

mutual

/-- Why a value cannot be shown when it may reach down some number of levels: the first reason that
is met. -/
def textFaultWithin : Nat → Data → Option TextFault
  | 0, _ => some .tooDeep
  | _ + 1, int n => if n.natAbs < 10 ^ digitLimit then none else some .numberTooLong
  | levels + 1, array items => itemsFaultWithin levels items
  | levels + 1, table entries => entriesFaultWithin levels entries
  | _ + 1, _ => none

/-- Why the items of an array cannot be shown. -/
def itemsFaultWithin : Nat → List Data → Option TextFault
  | _, [] => none
  | levels, d :: rest => (textFaultWithin levels d).or (itemsFaultWithin levels rest)

/-- Why the entries of a table cannot be shown. -/
def entriesFaultWithin : Nat → List (String × Data) → Option TextFault
  | _, [] => none
  | levels, (_, d) :: rest => (textFaultWithin levels d).or (entriesFaultWithin levels rest)

end

/-- Why a value cannot be shown. -/
def textFault? (d : Data) : Option TextFault :=
  textFaultWithin depthLimit d

end Data

end GrammarForm
