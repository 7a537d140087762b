import GrammarForm.Data
import GrammarForm.Layout
import GrammarForm.Text.FreeInteger

/-!
# Checking the fields of records

The tables of a catalogue are checked field by field.  All faults of a table are reported
together, each with its place inside the table: first those of the known fields in a fixed order,
then the unknown fields in the order of the table.  Numbers and truth values may also be given in
some other forms, texts may not.

## Main definitions

* `FieldIssue` : a fault of a field.
* `Checked` : a value, or all faults that were found instead.
* `SymbolRecord.ofEntries`, `LayoutCommand.ofData`, `LayoutSection.ofData` : the checked records.
-/

namespace GrammarForm

/-- A step into a table or a list. -/
inductive PlacePart where
  | key (name : String)
  | index (i : Nat)
deriving DecidableEq, Repr

/-- What can be wrong with a field. -/
inductive IssueKind where
  | missing
  | unexpected
  | notText
  | notList
  | notTable
  | notRecord
  | notInteger
  | unreadableInteger
  | fractionalInteger
  | oversizedInteger
  | notFinite
  | notBoolean
  | unreadableBoolean
  | badRepeat
deriving DecidableEq, Repr

namespace IssueKind

/-- The code of an issue. -/
def code : IssueKind → String
  | missing => "missing"
  | unexpected => "extra_forbidden"
  | notText => "string_type"
  | notList => "tuple_type"
  | notTable => "dict_type"
  | notRecord => "model_type"
  | notInteger => "int_type"
  | unreadableInteger => "int_parsing"
  | fractionalInteger => "int_from_float"
  | oversizedInteger => "int_parsing_size"
  | notFinite => "finite_number"
  | notBoolean => "bool_type"
  | unreadableBoolean => "bool_parsing"
  | badRepeat => "value_error"

/-- The remark that goes with a code. -/
def remark? : IssueKind → Option String
  | badRepeat => some "Value error, repeat must be -1 (unbounded) or a positive maximum"
  | _ => none

end IssueKind

/-- A fault of a field with its place. -/
structure FieldIssue where
  place : List PlacePart
  kind : IssueKind
deriving DecidableEq, Repr

/-- A value, or the faults that were found instead. -/
abbrev Checked (α : Type) := Except (List FieldIssue) α

namespace Checked

variable {α : Type}

/-- The faults that were found. -/
def issues : Checked α → List FieldIssue
  | .ok _ => []
  | .error is => is

/-- A fault at the place itself. -/
def fail (kind : IssueKind) : Checked α :=
  .error [⟨[], kind⟩]

/-- The faults seen from one step further out. -/
def inside (part : PlacePart) (c : Checked α) : Checked α :=
  c.mapError (·.map fun i => { i with place := part :: i.place })

/-- All values of a list, or all faults. -/
def collect : List (Checked α) → Checked (List α)
  | [] => .ok []
  | c :: rest =>
    match c, collect rest with
    | .ok x, .ok xs => .ok (x :: xs)
    | c, others => .error (c.issues ++ others.issues)

end Checked

namespace Field

variable {α : Type}

/-- A text. -/
def text : Data → Checked String
  | .string s => .ok s
  | _ => .fail .notText

/-- A text or nothing. -/
def optionalText : Data → Checked (Option String)
  | .null => .ok none
  | d => (text d).map some

/-- A list whose items pass a check. -/
def list (item : Data → Checked α) : Data → Checked (List α)
  | .array items => .collect (items.mapIdx fun i d => (item d).inside (.index i))
  | _ => .fail .notList

/-- A list of texts. -/
def texts : Data → Checked (List String) :=
  list text

/-- A list of lists of texts. -/
def textLists : Data → Checked (List (List String)) :=
  list texts

/-- A table whose values pass a check. -/
def table (value : Data → Checked α) : Data → Checked (Entries α)
  | .table entries =>
    .collect (entries.map fun (k, d) => Checked.inside (.key k) ((value d).map fun x => (k, x)))
  | _ => .fail .notTable

/-- A default: nothing, a text, or a list of texts.  A value that is neither text nor list of
texts is reported for both. -/
def defaultValue : Data → Checked (Option DefaultValue)
  | .null => .ok none
  | .string s => .ok (some (.text s))
  | d =>
    match texts d with
    | .ok names => .ok (some (.alternative names))
    | names =>
      .error ((names.inside (.key "tuple[str, ...]")).issues ++
        ((text d).inside (.key "str")).issues)

/-- The truth value that a text denotes. -/
def booleanWord (s : String) : Option Bool :=
  let word := String.ofList (s.toList.map Char.toLower)
  if ["1", "on", "t", "true", "y", "yes"].contains word then some true
  else if ["0", "off", "f", "false", "n", "no"].contains word then some false
  else none

/-- The integer that a number without fraction is, if its size is below `2 ^ 63`. -/
def wholeNumber (x : Binary64) : Checked Int :=
  if !x.isFinite then .fail .notFinite
  else
    match x.toInt? with
    | none => .fail .fractionalInteger
    | some n => if n.natAbs < 9223372036854775808 then .ok n else .fail .oversizedInteger

/-- A truth value, also given as `0` or `1` or as a word.  A number beyond 64 bits is no truth value
at all. -/
def boolean : Data → Checked Bool
  | .bool b => .ok b
  | .int 0 => .ok false
  | .int 1 => .ok true
  | .int n => .fail (if Decimal.fitsInt64 n then .unreadableBoolean else .notBoolean)
  | .float x =>
    match wholeNumber x with
    | .ok 0 => .ok false
    | .ok 1 => .ok true
    | .ok _ => .fail .unreadableBoolean
    | .error _ => .fail .notBoolean
  | .string s =>
    match booleanWord s with
    | some b => .ok b
    | none => .fail .unreadableBoolean
  | _ => .fail .notBoolean

/-- An integer, also given as a truth value, as a number without fraction or as a text. -/
def integer : Data → Checked Int
  | .int n => .ok n
  | .bool b => .ok (if b then 1 else 0)
  | .float x => wholeNumber x
  | .string s =>
    match FreeInteger.read s with
    | .ok n => .ok n
    | .error .malformed => .fail .unreadableInteger
    | .error .tooLong => .fail .oversizedInteger
  | _ => .fail .notInteger

/-- The limit of a repeated command: nothing, `-1`, or a positive number. -/
def repeatLimit : Data → Checked (Option Int)
  | .null => .ok none
  | d =>
    match integer d with
    | .ok n => if n < -1 ∨ n = 0 then .fail .badRepeat else .ok (some n)
    | .error is => .error is

/-- A field that must be given. -/
def required (entries : Entries Data) (key : String) (check : Data → Checked α) : Checked α :=
  (match entries.get? key with
    | some d => check d
    | none => .fail .missing).inside (.key key)

/-- A field with a value of its own when it is not given. -/
def optional (entries : Entries Data) (key : String) (absent : α) (check : Data → Checked α) :
    Checked α :=
  (match entries.get? key with
    | some d => check d
    | none => .ok absent).inside (.key key)

/-- The faults of all fields with other keys than the known ones. -/
def unexpected (known : List String) (entries : Entries Data) : List FieldIssue :=
  (entries.filter fun p => !known.contains p.1).map fun p => ⟨[.key p.1], .unexpected⟩

end Field

namespace SymbolRecord

/-- The fields of a symbol record. -/
def fieldNames : List String :=
  ["name", "alias", "productions", "default", "explanation", "repeat_explanation", "alternatives"]

/-- The record of a symbol from its fields. -/
def ofEntries (entries : Entries Data) : Checked SymbolRecord :=
  let name := Field.required entries "name" Field.text
  let aliasOf := Field.optional entries "alias" none Field.optionalText
  let productions := Field.optional entries "productions" [] Field.textLists
  let defaultValue := Field.optional entries "default" none Field.defaultValue
  let explanation := Field.optional entries "explanation" "" Field.text
  let repeatExplanation := Field.optional entries "repeat_explanation" "" Field.text
  let alternatives := Field.optional entries "alternatives" [] (Field.table Field.text)
  match name, aliasOf, productions, defaultValue, explanation, repeatExplanation, alternatives,
      Field.unexpected fieldNames entries with
  | .ok name, .ok aliasOf, .ok productions, .ok defaultValue, .ok explanation,
      .ok repeatExplanation, .ok alternatives, [] =>
    .ok { name, aliasOf, productions, defaultValue, explanation, repeatExplanation, alternatives }
  | _, _, _, _, _, _, _, others =>
    .error (name.issues ++ aliasOf.issues ++ productions.issues ++ defaultValue.issues ++
      explanation.issues ++ repeatExplanation.issues ++ alternatives.issues ++ others)

/-- The record of a symbol. -/
def ofData : Data → Checked SymbolRecord
  | .table entries => ofEntries entries
  | _ => .fail .notRecord

end SymbolRecord

namespace LayoutCommand

/-- The fields of a command of the layout. -/
def fieldNames : List String :=
  ["name", "inline", "repeat", "dependents", "default", "explanation"]

/-- A command of the layout from its fields. -/
def ofEntries (entries : Entries Data) : Checked LayoutCommand :=
  let name := Field.required entries "name" Field.text
  let inline := Field.optional entries "inline" false Field.boolean
  let repeatLimit := Field.optional entries "repeat" none Field.repeatLimit
  let dependents := Field.optional entries "dependents" [] Field.texts
  let defaultValue := Field.optional entries "default" none Field.defaultValue
  let explanation := Field.optional entries "explanation" none Field.optionalText
  match name, inline, repeatLimit, dependents, defaultValue, explanation,
      Field.unexpected fieldNames entries with
  | .ok name, .ok inline, .ok repeatLimit, .ok dependents, .ok defaultValue, .ok explanation,
      [] =>
    .ok { name, inline, repeatLimit, dependents, defaultValue, explanation }
  | _, _, _, _, _, _, others =>
    .error (name.issues ++ inline.issues ++ repeatLimit.issues ++ dependents.issues ++
      defaultValue.issues ++ explanation.issues ++ others)

/-- A command of the layout. -/
def ofData : Data → Checked LayoutCommand
  | .table entries => ofEntries entries
  | _ => .fail .notRecord

end LayoutCommand

namespace LayoutSection

/-- The fields of a section of the layout. -/
def fieldNames : List String :=
  ["title", "commands", "extend_productions"]

/-- A section of the layout from its fields. -/
def ofEntries (entries : Entries Data) : Checked LayoutSection :=
  let title := Field.required entries "title" Field.text
  let commands := Field.optional entries "commands" [] (Field.list LayoutCommand.ofData)
  let extensions := Field.optional entries "extend_productions" [] (Field.table Field.textLists)
  match title, commands, extensions, Field.unexpected fieldNames entries with
  | .ok title, .ok commands, .ok extensions, [] => .ok { title, commands, extensions }
  | _, _, _, others =>
    .error (title.issues ++ commands.issues ++ extensions.issues ++ others)

/-- A section of the layout. -/
def ofData : Data → Checked LayoutSection
  | .table entries => ofEntries entries
  | _ => .fail .notRecord

end LayoutSection

end GrammarForm
