import GrammarForm.Proofs.Document
import Mathlib.Data.List.Perm.Basic

/-!
# The keys of a form

Every widget of a form has a key, and every group has three: one for its counter and one for each
of its controls.  All of these keys are distinct, for any digest whose results have one length,
even if it tells no names apart: the paths alone keep the keys apart.  So no value of a form
state takes the place of another one, and the form state consists of the value of each widget and
the counter of each group.

## Main definitions

* `Document.commands`, `Document.nodes`, `Document.groups` : the parts of a document.
* `Document.widgetKeys`, `Document.keys` : the keys of the widgets, and all keys.

## Main results

* `Document.keys_perm` : the keys of a document are those of its items.
* `Document.map_fields_perm` : the values stand under the keys of widgets and counters.
* `Assembler.nodup_keys` : the keys of a document are distinct, and its form state has one value
  for each widget and each counter.
-/

namespace GrammarForm

/-! ### The parts of a document -/

/-- The groups of an item: itself, if it is one. -/
def FormItem.groups : FormItem → List GroupForm
  | .command _ => []
  | .group g => [g]

/-- The keys of the counter and the controls of a group. -/
def GroupForm.controlKeys (g : GroupForm) : List String :=
  [g.countKey, g.plusKey, g.minusKey]

namespace Document

variable (d : Document)

/-- The commands of a document: single ones, instances and dependents. -/
def commands : List CommandForm :=
  d.items.flatMap (·.commands)

/-- The nodes of all commands. -/
def nodes : List Node :=
  d.commands.flatMap (·.root.nodes)

/-- The groups of a document. -/
def groups : List GroupForm :=
  d.items.flatMap (·.groups)

/-- The keys of the widgets. -/
def widgetKeys : List String :=
  (d.nodes.filter (·.widget.isSome)).map (·.key)

/-- The keys of the widgets, the counters and the controls. -/
def keys : List String :=
  d.widgetKeys ++ d.groups.flatMap (·.controlKeys)

end Document

/-! ### Keys and values -/

theorem CommandForm.keys_eq (c : CommandForm) :
    c.keys = (c.root.nodes.filter (·.widget.isSome)).map (·.key) := by
  rw [keys, fields, Node.fields]
  induction c.root.nodes with
  | nil => rfl
  | cons n rest ih =>
    cases hwidget : n.widget <;> simp [Node.ownField, hwidget, ih]

/-- The keys of an item are those of the widgets of its commands and those of its controls. -/
theorem FormItem.keys_perm (item : FormItem) :
    item.keys.Perm (item.commands.flatMap (·.keys) ++ item.groups.flatMap (·.controlKeys)) := by
  cases item with
  | command c => simp [keys, commands, groups]
  | group g =>
    simp only [keys, commands, groups, GroupForm.keys, List.flatMap_singleton, ← List.flatMap_def]
    exact List.perm_append_comm

/-- The keys of a command are among those of its item. -/
theorem FormItem.mem_keys_of_command {item : FormItem} {c : CommandForm} (hc : c ∈ item.commands)
    {key : String} (h : key ∈ c.keys) : key ∈ item.keys :=
  item.keys_perm.mem_iff.mpr (List.mem_append_left _ (List.mem_flatMap_of_mem hc h))

/-- The values of an item stand under the keys of its widgets and of its counter. -/
theorem FormItem.map_fields_perm (item : FormItem) :
    (item.fields.map Prod.fst).Perm
      (item.commands.flatMap (·.keys) ++ item.groups.map (·.countKey)) := by
  cases item with
  | command c => simp [fields, commands, groups, CommandForm.keys]
  | group g =>
    simp only [fields, commands, groups, GroupForm.fields, List.map_cons, List.map_nil,
      List.map_flatMap]
    exact (List.perm_append_singleton _ _).symm

/-- The value of a widget is among those of its tree. -/
theorem Node.mem_fields_of_widget {m n : Node} {w : Widget} (hn : n ∈ m.nodes)
    (hw : n.widget = some w) : (n.key, w.value) ∈ m.fields :=
  List.mem_filterMap.mpr ⟨n, hn, by rw [ownField, hw, Option.map_some]⟩

/-- The value of a widget is among those of its command. -/
theorem CommandForm.mem_fields_of_widget {c : CommandForm} {n : Node} {w : Widget}
    (hn : n ∈ c.root.nodes) (hw : n.widget = some w) : (n.key, w.value) ∈ c.fields :=
  Node.mem_fields_of_widget hn hw

/-- The values of a command are among those of its item. -/
theorem FormItem.mem_fields_of_command {item : FormItem} {c : CommandForm}
    (hc : c ∈ item.commands) {field : String × String} (h : field ∈ c.fields) :
    field ∈ item.fields := by
  cases item with
  | command c' => rwa [List.mem_singleton.mp hc] at h
  | group g => exact List.mem_cons_of_mem _ (List.mem_flatMap_of_mem hc h)

namespace Document

variable {d : Document}

theorem widgetKeys_eq_flatMap (d : Document) :
    d.widgetKeys = d.items.flatMap fun item => item.commands.flatMap (·.keys) := by
  rw [widgetKeys, nodes, commands, List.filter_flatMap, List.map_flatMap, List.flatMap_assoc]
  simp only [CommandForm.keys_eq]

/-- **The keys of a document are those of its items.** -/
theorem keys_perm (d : Document) : d.keys.Perm (d.items.map (·.keys)).flatten := by
  rw [keys, widgetKeys_eq_flatMap, groups, List.flatMap_assoc, ← List.flatMap_def]
  refine (List.flatMap_append_perm ..).trans (List.Perm.flatMap_left _ fun item _ => ?_)
  exact item.keys_perm.symm

/-- **The values of a document stand under the keys of its widgets and counters.** -/
theorem map_fields_perm (d : Document) :
    (d.fields.map Prod.fst).Perm (d.widgetKeys ++ d.groups.map (·.countKey)) := by
  rw [fields, widgetKeys_eq_flatMap, groups, List.map_flatMap, List.map_flatMap]
  refine .trans ?_ (List.flatMap_append_perm ..).symm
  exact List.Perm.flatMap_left _ fun item _ => item.map_fields_perm

/-- The value of a widget is among those of the document. -/
theorem mem_fields_of_widget {n : Node} {w : Widget} (hn : n ∈ d.nodes) (hw : n.widget = some w) :
    (n.key, w.value) ∈ d.fields := by
  obtain ⟨c, hc, hn⟩ := List.mem_flatMap.mp hn
  obtain ⟨item, hitem, hc⟩ := List.mem_flatMap.mp hc
  exact List.mem_flatMap.mpr
    ⟨item, hitem, FormItem.mem_fields_of_command hc (CommandForm.mem_fields_of_widget hn hw)⟩

/-- The counter of a group is among the values of the document. -/
theorem mem_fields_of_group {g : GroupForm} (hg : g ∈ d.groups) :
    (g.countKey, toString g.count) ∈ d.fields := by
  obtain ⟨item, hitem, hg⟩ := List.mem_flatMap.mp hg
  refine List.mem_flatMap.mpr ⟨item, hitem, ?_⟩
  cases item with
  | command c => exact absurd hg List.not_mem_nil
  | group g' =>
    rw [List.mem_singleton.mp hg]
    exact List.mem_cons_self ..

end Document

/-! ### Distinct keys -/

namespace Assembler

variable {a : Assembler} {digest : String → String} {state : FormState} {d : Document}
  {notices : List Notice}

/-- **Keys never clash.** All keys of a document are distinct, whatever digest of a fixed length
goes into them.  So no value overwrites another one: the form state is the list of all values,
its keys are those of the widgets and the counters, each once, and each widget and counter has its
own value in it. -/
theorem nodup_keys (hdigest : HasFixedLength digest)
    (h : a.assemble digest state = .ok (d, notices)) :
    d.keys.Nodup ∧ d.formState = d.fields ∧
      (d.formState.map Prod.fst).Perm (d.widgetKeys ++ d.groups.map (·.countKey)) ∧
      (∀ n ∈ d.nodes, ∀ w, n.widget = some w → d.formState.get? n.key = some w.value) ∧
      ∀ g ∈ d.groups, d.formState.get? g.countKey = some (toString g.count) := by
  refine ⟨d.keys_perm.nodup_iff.mpr (keyBlock_items hdigest h).nodup,
    formState_eq_fields hdigest h, ?_, fun n hn w hw => ?_, fun g hg => ?_⟩
  · rw [formState_eq_fields hdigest h]
    exact d.map_fields_perm
  · exact get?_formState hdigest h (Document.mem_fields_of_widget hn hw)
  · exact get?_formState hdigest h (Document.mem_fields_of_group hg)

/-- Sums of integers. -/
def sumGrammar : Grammar where
  records :=
    [{ name := "total", aliasOf := some "<sum>" },
      { name := "<sum>", productions := [["<integer value>"], ["<sum>", "plus", "<sum>"]] },
      { name := "digits", aliasOf := some "<positive integer value>" }]
  faultless := by decide

/-- A form for any number of sums, followed by a number of digits. -/
def sumForm : Assembler where
  catalogue :=
    { name := .string "sums"
      title := .string "Sums"
      description := .string ""
      grammar := sumGrammar
      sections :=
        [{ title := "Totals"
           commands :=
            [{ name := "total", repeatLimit := some (-1), dependents := ["digits"] }] }]
      source := none }
  options := {}
  grammars := [sumGrammar]

/-- A digest that tells no names apart. -/
def blankDigest (_ : String) : String := "00000000"

/-- Two sums, the first one with an addition, submitted under keys of that digest. -/
def blankSums : FormState :=
  [(controlKey blankDigest "total" [1] .count, "2"),
    (widgetKey blankDigest "total" "total" [1, 1], "1")]

theorem nodup_keys_blankSums : ∃ d notices, HasFixedLength blankDigest ∧
    sumForm.assemble blankDigest blankSums = .ok (d, notices) ∧
    d.widgetKeys.length = 5 ∧ d.groups.length = 1 ∧ d.keys.Nodup ∧ d.formState = d.fields := by
  have hdigest : HasFixedLength blankDigest := fun _ _ => rfl
  have h : sumForm.assemble blankDigest blankSums = .ok (_, _) := rfl
  obtain ⟨hkeys, hfields, -⟩ := nodup_keys hdigest h
  exact ⟨_, _, hdigest, h, by decide, by decide, hkeys, hfields⟩

end Assembler

end GrammarForm
