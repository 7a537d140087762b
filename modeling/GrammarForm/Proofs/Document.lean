import GrammarForm.Form.Document
import GrammarForm.Proofs.Entries
import GrammarForm.Proofs.Rendering

/-!
# The shape of a document

The commands of a document are rendered at paths of their own: an item of the form at its number,
an instance or dependent of a group at the number of the group followed by its own one.  So the
keys of the whole form are distinct, and the form state has one value for each of them.

## Main definitions

* `FormItem.keys` : the keys of the widgets and controls of an item.
* `Assembler.entries` : the commands of the layout with the grammars in effect for them.

## Main results

* `RenderContext.exists_command_of_commands` : each command of a group is rendered in its slot.
* `Assembler.items_renderSections` : each item of a document is rendered in its slot.
* `Assembler.keyBlock_items` : the keys of a document are distinct.
* `Assembler.formState_eq_fields` : the form state has one value for each widget and counter.
-/

namespace GrammarForm

/-! ### The keys of an item -/

/-- The keys of the widgets of a command. -/
def CommandForm.keys (c : CommandForm) : List String :=
  c.fields.map Prod.fst

/-- The keys of the controls of a group and of the widgets of its commands. -/
def GroupForm.keys (g : GroupForm) : List String :=
  [g.countKey, g.plusKey, g.minusKey] ++ (g.commands.map (·.keys)).flatten

/-- The keys of the widgets and controls of an item. -/
def FormItem.keys : FormItem → List String
  | .command c => c.keys
  | .group g => g.keys

private theorem map_flatMap_sublist {α β : Type} {f : α → List (String × β)}
    {keys : α → List String} (l : List α) (h : ∀ a, ((f a).map Prod.fst).Sublist (keys a)) :
    ((l.flatMap f).map Prod.fst).Sublist (l.map keys).flatten := by
  induction l with
  | nil => exact List.Sublist.slnil
  | cons a l ih =>
    rw [List.flatMap_cons, List.map_append, List.map_cons, List.flatten_cons]
    exact (h a).append ih

/-- The values of an item stand under keys of the item. -/
theorem FormItem.map_fields_sublist_keys (item : FormItem) :
    (item.fields.map Prod.fst).Sublist item.keys := by
  cases item with
  | command c => exact List.Sublist.refl _
  | group g =>
    refine List.Sublist.cons_cons _ (List.Sublist.cons _ (List.Sublist.cons _ ?_))
    exact map_flatMap_sublist g.commands fun c => List.Sublist.refl _

/-- The values of a document stand under keys of its items. -/
theorem Document.map_fields_sublist_keys (d : Document) :
    (d.fields.map Prod.fst).Sublist (d.items.map (·.keys)).flatten :=
  map_flatMap_sublist d.items FormItem.map_fields_sublist_keys

/-- The lines of a document are those of its items. -/
theorem Document.lines_eq_flatMap_items (d : Document) :
    d.lines = d.items.flatMap (·.lines) := by
  rw [items, List.flatMap_assoc]
  rfl

/-! ### Commands and groups -/

namespace RenderContext

variable (ctx : RenderContext)

/-- The tree of a command, with the notices of its rendering. -/
def tree (entry : LayoutCommand) (path : Path) : Node × List Notice :=
  (ctx.renderer entry.name entry.inline).render entry.name path (ctx.entryDefault entry) 0 false

/-- The form of a command with a given tree. -/
def formWith (entry : LayoutCommand) (path : Path) (root : Node) : CommandForm :=
  { name := entry.name
    path
    inline := entry.inline
    explanation := ctx.entryExplanation entry
    root
    line := .ofNode entry.name root }

/-- A command is rendered by rendering its tree. -/
theorem command_eq (entry : LayoutCommand) (path : Path) :
    ctx.command entry path =
      (ctx.formWith entry path (ctx.tree entry path).1, (ctx.tree entry path).2) :=
  rfl

/-- The keys of a command are distinct and lie at its path or below. -/
theorem keyBlock_command (hdigest : HasFixedLength ctx.digest) (entry : LayoutCommand)
    (path : Path) : KeyBlock ctx.digest path (ctx.command entry path).1.keys :=
  (ctx.renderer entry.name entry.inline).keyBlock_fields hdigest _ _ _ _ _

/-- The values of a command stand under keys of widgets. -/
theorem exists_widgetKey_of_command {entry : LayoutCommand} {path : Path} {key : String}
    (h : key ∈ (ctx.command entry path).1.keys) :
    ∃ symbol q, key = widgetKey ctx.digest entry.name symbol q := by
  obtain ⟨p, hp, rfl⟩ := List.mem_map.mp h
  obtain ⟨m, hm, hown⟩ := List.mem_filterMap.mp hp
  obtain ⟨levels, default?, showLabel, heq⟩ :=
    Renderer.exists_renderLevels_of_mem_nodes _ _ _ _ _ _ hm
  have hkey := ((ctx.renderer entry.name entry.inline).renderLevels_place levels m.symbol m.path
    default? showLabel).2.2
  rw [← heq] at hkey
  refine ⟨m.symbol, m.path, ?_⟩
  rw [Node.key_of_mem_ownField (List.mem_map_of_mem (Option.mem_toList.mpr hown)), hkey]
  rfl

theorem getElem?_instances {entry : LayoutCommand} {path : Path} {n i : Nat}
    {rendered : CommandForm × List Notice} (h : (ctx.instances entry path n)[i]? = some rendered) :
    rendered = ctx.command { entry with repeatLimit := none } (path ++ [(i : Int) + 1]) := by
  obtain ⟨hi, rfl⟩ := List.getElem?_eq_some_iff.mp h
  simp only [instances, List.getElem_map, List.getElem_range]

theorem length_instances (entry : LayoutCommand) (path : Path) (n : Nat) :
    (ctx.instances entry path n).length = n := by
  rw [instances, List.length_map, List.length_range]

theorem getElem?_dependents {entry : LayoutCommand} {path : Path} {n i : Nat}
    {rendered : CommandForm × List Notice} (h : (ctx.dependents entry path n)[i]? = some rendered) :
    ∃ name, entry.dependents[i]? = some name ∧
      rendered = ctx.command { name := name, inline := true } (path ++ [(n : Int) + i + 1]) := by
  rw [dependents] at h
  split at h
  next => exact absurd h (by simp)
  next =>
    rw [List.getElem?_mapIdx, Option.map_eq_some_iff] at h
    obtain ⟨name, hname, rfl⟩ := h
    exact ⟨name, hname, rfl⟩

/-- The instance in a slot. -/
theorem getElem?_map_instances (entry : LayoutCommand) (path : Path) {n i : Nat} (hi : i < n) :
    ((ctx.instances entry path n).map Prod.fst)[i]? =
      some (ctx.command { entry with repeatLimit := none } (path ++ [(i : Int) + 1])).1 := by
  simp only [instances, List.map_map, List.getElem?_map, List.getElem?_range hi, Option.map_some,
    Function.comp_apply]

/-- Every instance is rendered in its slot. -/
theorem exists_of_mem_instances {entry : LayoutCommand} {path : Path} {n : Nat} {c : CommandForm}
    (h : c ∈ (ctx.instances entry path n).map Prod.fst) : ∃ i < n,
      c = (ctx.command { entry with repeatLimit := none } (path ++ [(i : Int) + 1])).1 := by
  simp only [instances, List.map_map, List.mem_map, List.mem_range, Function.comp_apply] at h
  obtain ⟨i, hi, rfl⟩ := h
  exact ⟨i, hi, rfl⟩

/-- The dependent in a slot after the instances. -/
theorem getElem?_map_dependents {entry : LayoutCommand} (path : Path) {n i : Nat} {name : String}
    (hn : n ≠ 0) (hname : entry.dependents[i]? = some name) :
    ((ctx.dependents entry path n).map Prod.fst)[i]? =
      some (ctx.command { name := name, inline := true } (path ++ [(n : Int) + i + 1])).1 := by
  rw [dependents, if_neg hn, List.getElem?_map, List.getElem?_mapIdx, hname, Option.map_some,
    Option.map_some]

/-- Every dependent is rendered in its slot after the instances. -/
theorem exists_of_mem_dependents {entry : LayoutCommand} {path : Path} {n : Nat} {c : CommandForm}
    (h : c ∈ (ctx.dependents entry path n).map Prod.fst) :
    ∃ (i : Nat) (name : String), n ≠ 0 ∧ entry.dependents[i]? = some name ∧
      c = (ctx.command { name := name, inline := true } (path ++ [(n : Int) + i + 1])).1 := by
  by_cases hn : n = 0
  · rw [dependents, if_pos hn] at h
    exact absurd h List.not_mem_nil
  · obtain ⟨rendered, hrendered, rfl⟩ := List.mem_map.mp h
    obtain ⟨i, hi⟩ := List.getElem?_of_mem hrendered
    obtain ⟨name, hname, rfl⟩ := ctx.getElem?_dependents hi
    exact ⟨i, name, hn, hname, rfl⟩

/-- The counter of a group for the submitted values. -/
def counter (entry : LayoutCommand) (path : Path) : Int :=
  instanceCount ctx.digest ctx.state entry.name path (entry.repeatLimit.getD 1) ctx.repeatCap

/-- The number of instances that a group shows. -/
def instanceNumber (entry : LayoutCommand) (path : Path) : Nat :=
  (ctx.counter entry path).toNat

/-- The form of a group with a given counter and given commands. -/
def groupWith (entry : LayoutCommand) (path : Path) (count : Int)
    (instances dependents : List (CommandForm × List Notice)) : GroupForm × List Notice :=
  ({ name := entry.name
     path
     explanation := ctx.grammar.repeatExplanation entry.name
     count
     maximum := entry.repeatLimit.getD 1
     countKey := controlKey ctx.digest entry.name path .count
     plusKey := controlKey ctx.digest entry.name path .plus
     minusKey := controlKey ctx.digest entry.name path .minus
     canAdd := decide (count < upperBound (entry.repeatLimit.getD 1) ctx.repeatCap)
     canRemove := decide (0 < count)
     instances := instances.map (·.1)
     dependents := dependents.map (·.1) },
    (instances ++ dependents).flatMap (·.2) ++ [.groupRendered entry.name path count])

/-- A group is rendered by rendering its commands. -/
theorem group_eq (entry : LayoutCommand) (path : Path) :
    ctx.group entry path = ctx.groupWith entry path (ctx.counter entry path)
      (ctx.instances entry path (ctx.instanceNumber entry path))
      (ctx.dependents entry path (ctx.instanceNumber entry path)) :=
  rfl

theorem commands_group (entry : LayoutCommand) (path : Path) :
    (ctx.group entry path).1.commands =
      (ctx.instances entry path (ctx.instanceNumber entry path) ++
        ctx.dependents entry path (ctx.instanceNumber entry path)).map Prod.fst := by
  rw [List.map_append]
  rfl

/-- **Each command of a group is rendered in its slot.** -/
theorem exists_command_of_commands {entry : LayoutCommand} {path : Path} {i : Nat}
    {c : CommandForm} (h : (ctx.group entry path).1.commands[i]? = some c) :
    ∃ entry', c = (ctx.command entry' (path ++ [(i : Int) + 1])).1 := by
  rw [commands_group, List.getElem?_map, Option.map_eq_some_iff] at h
  obtain ⟨rendered, h, rfl⟩ := h
  by_cases hi : i < ctx.instanceNumber entry path
  · rw [List.getElem?_append_left (by rwa [length_instances])] at h
    exact ⟨_, congrArg Prod.fst (ctx.getElem?_instances h)⟩
  · rw [List.getElem?_append_right (by rw [length_instances]; omega), length_instances] at h
    obtain ⟨name, -, rfl⟩ := ctx.getElem?_dependents h
    refine ⟨{ name := name, inline := true }, ?_⟩
    have hslot : (ctx.instanceNumber entry path : Int) + (i - ctx.instanceNumber entry path : Nat) +
        1 = (i : Int) + 1 := by omega
    rw [hslot]

/-- The keys of a group are distinct and lie at its path or below. -/
theorem keyBlock_group (hdigest : HasFixedLength ctx.digest) (entry : LayoutCommand)
    (path : Path) : KeyBlock ctx.digest path (ctx.group entry path).1.keys := by
  refine KeyBlock.join hdigest (fun key hkey => ?_) ?_ fun i hi => ?_
  · simp only [List.mem_cons, List.not_mem_nil, or_false] at hkey
    rcases hkey with rfl | rfl | rfl <;> exact isKeyAt_controlKey ..
  · have hne {a b : RepeatControl} (hab : a ≠ b) : controlKey ctx.digest entry.name path a ≠
        controlKey ctx.digest entry.name path b := fun h => hab (controlKey_inj hdigest h).2
    simp only [List.nodup_cons, List.mem_cons, List.not_mem_nil, or_false, not_or]
    exact ⟨⟨hne (by decide), hne (by decide)⟩, hne (by decide), not_false, List.nodup_nil⟩
  · rw [List.length_map] at hi
    obtain ⟨entry', hentry⟩ := ctx.exists_command_of_commands (List.getElem?_eq_getElem hi)
    rw [List.getElem_map, hentry]
    exact ctx.keyBlock_command hdigest entry' _

/-- The item of a repeated command is its group. -/
theorem item_of_isRepeated {entry : LayoutCommand} (h : entry.isRepeated = true) (path : Path) :
    ctx.item entry path = (.group (ctx.group entry path).1, (ctx.group entry path).2) := by
  rw [item, if_pos h]

/-- The item of a single command is its form. -/
theorem item_of_not_isRepeated {entry : LayoutCommand} (h : ¬entry.isRepeated = true)
    (path : Path) :
    ctx.item entry path = (.command (ctx.command entry path).1, (ctx.command entry path).2) := by
  rw [item, if_neg h]

/-- The commands of an item are rendered at places of their own. -/
theorem exists_command_of_item {ctx : RenderContext} {entry : LayoutCommand} {path : Path}
    {c : CommandForm} (h : c ∈ (ctx.item entry path).1.commands) :
    ∃ entry' path', c = (ctx.command entry' path').1 := by
  rw [item] at h
  split at h
  next =>
    obtain ⟨i, hi⟩ := List.getElem?_of_mem h
    obtain ⟨entry', hc⟩ := ctx.exists_command_of_commands hi
    exact ⟨entry', _, hc⟩
  next => exact ⟨entry, path, List.mem_singleton.mp h⟩

/-- The keys of an item are distinct and lie at its path or below. -/
theorem keyBlock_item (hdigest : HasFixedLength ctx.digest) (entry : LayoutCommand)
    (path : Path) : KeyBlock ctx.digest path (ctx.item entry path).1.keys := by
  rw [item]
  split
  next => exact ctx.keyBlock_group hdigest entry path
  next => exact ctx.keyBlock_command hdigest entry path

/-- A control that is no counter has no value among those of an item. -/
theorem controlKey_notMem_fields_item (hdigest : HasFixedLength ctx.digest) {a : RepeatControl}
    (ha : a ≠ .count) (command : String) (q : Path) (entry : LayoutCommand) (path : Path) :
    controlKey ctx.digest command q a ∉ (ctx.item entry path).1.fields.map Prod.fst := by
  have hcommand (entry' : LayoutCommand) (path' : Path) :
      controlKey ctx.digest command q a ∉ (ctx.command entry' path').1.keys := by
    intro hmem
    obtain ⟨symbol, q', h⟩ := ctx.exists_widgetKey_of_command hmem
    exact widgetKey_ne_controlKey _ _ _ _ _ _ h.symm
  rw [item]
  split
  next =>
    intro hmem
    rcases List.mem_cons.mp hmem with h | hmem
    · exact ha (controlKey_inj hdigest h).2
    · obtain ⟨p, hp, hkey⟩ := List.mem_map.mp hmem
      obtain ⟨c, hc, hp⟩ := List.mem_flatMap.mp hp
      obtain ⟨i, hi⟩ := List.getElem?_of_mem hc
      obtain ⟨entry', rfl⟩ := ctx.exists_command_of_commands hi
      exact hcommand _ _ (List.mem_map.mpr ⟨p, hp, hkey⟩)
  next => exact hcommand entry path

end RenderContext

/-! ### The items of a document -/

namespace Assembler

variable (a : Assembler) (digest : String → String)

/-- The commands of sections with the grammars of their sections. -/
def entriesOf (pairs : List (LayoutSection × Grammar)) : List (Grammar × LayoutCommand) :=
  pairs.flatMap fun p => p.1.commands.map (p.2, ·)

/-- The commands of the layout with the grammars in effect for them. -/
def entries : List (Grammar × LayoutCommand) :=
  entriesOf (a.catalogue.sections.zip a.grammars)

/-- The rendered sections of the form. -/
def sectionForms (state : FormState) : List (FormSection × List Notice) :=
  a.renderSections digest state 0 (a.catalogue.sections.zip a.grammars)

/-- A document is made of a title and the rendered sections. -/
theorem assemble_eq_ok_iff {state : FormState} {d : Document} {notices : List Notice} :
    a.assemble digest state = .ok (d, notices) ↔
      a.title = .ok d.title ∧ d.sections = (a.sectionForms digest state).map Prod.fst ∧
        notices = (a.sectionForms digest state).flatMap Prod.snd ++
          (if d.invalidLines.length = 0 then []
            else [.linesAssembled d.lines.length d.invalidLines.length]) := by
  obtain ⟨title, sections⟩ := d
  cases ht : a.title with
  | error e => simp [assemble, ht, bind, Except.bind]
  | ok t =>
    simp only [assemble, ht, bind, Except.bind, Except.ok.injEq, Prod.mk.injEq, Document.mk.injEq,
      and_assoc]
    refine and_congr_right fun htitle => ?_
    constructor
    · rintro ⟨rfl, rfl⟩
      exact ⟨rfl, htitle ▸ rfl⟩
    · rintro ⟨rfl, rfl⟩
      exact ⟨rfl, htitle ▸ rfl⟩

/-- **Each item of a document is rendered in its slot.** -/
theorem items_renderSections (state : FormState) (pairs : List (LayoutSection × Grammar)) :
    ∀ used : Nat, (a.renderSections digest state used pairs).flatMap (·.1.items) =
      (entriesOf pairs).mapIdx fun i e =>
        ((a.context digest e.1 state).item e.2 [(used : Int) + i + 1]).1 := by
  induction pairs with
  | nil => intro used; rfl
  | cons p rest ih =>
    intro used
    obtain ⟨s, g⟩ := p
    have hhead : ((a.context digest g state).items used s.commands).map (·.1) =
        (s.commands.map (g, ·)).mapIdx fun i e =>
          ((a.context digest e.1 state).item e.2 [(used : Int) + i + 1]).1 := by
      refine List.ext_getElem? fun i => ?_
      simp only [RenderContext.items, List.getElem?_map, List.getElem?_mapIdx, Option.map_map]
      rfl
    rw [renderSections, List.flatMap_cons, ih]
    simp only [hhead, entriesOf, List.flatMap_cons, List.mapIdx_append, List.length_map]
    congr 1
    refine congrArg (fun f => List.mapIdx f _) (funext fun i => funext fun e => ?_)
    have hslot : ((used + s.commands.length : Nat) : Int) + i + 1 =
        used + ((i + s.commands.length : Nat) : Int) + 1 := by
      omega
    rw [hslot]

variable {a digest} {state : FormState} {d : Document} {notices : List Notice}

/-- A form whose title is a text is assembled for every state. -/
theorem exists_assemble_of_title {title : String} (h : a.title = .ok title) (state : FormState) :
    ∃ d notices, a.assemble digest state = .ok (d, notices) :=
  ⟨⟨title, _⟩, _, (a.assemble_eq_ok_iff digest).mpr ⟨h, rfl, rfl⟩⟩

/-- **Each item of a document is rendered in its slot.** -/
theorem items_of_assemble (h : a.assemble digest state = .ok (d, notices)) :
    d.items = a.entries.mapIdx fun i e =>
      ((a.context digest e.1 state).item e.2 [(i : Int) + 1]).1 := by
  rw [Document.items, ((a.assemble_eq_ok_iff digest).mp h).2.1, List.flatMap_map, sectionForms,
    items_renderSections, entries]
  simp only [Nat.cast_zero, Int.zero_add]

theorem exists_entry_of_items (h : a.assemble digest state = .ok (d, notices)) {i : Nat}
    {item : FormItem} (hi : d.items[i]? = some item) :
    ∃ e, a.entries[i]? = some e ∧
      item = ((a.context digest e.1 state).item e.2 [(i : Int) + 1]).1 := by
  rw [items_of_assemble h, List.getElem?_mapIdx, Option.map_eq_some_iff] at hi
  obtain ⟨e, he, rfl⟩ := hi
  exact ⟨e, he, rfl⟩

/-- **The keys of a document are distinct.** -/
theorem keyBlock_items (hdigest : HasFixedLength digest)
    (h : a.assemble digest state = .ok (d, notices)) :
    KeyBlock digest [] (d.items.map (·.keys)).flatten := by
  rw [← List.nil_append (List.flatten _)]
  refine KeyBlock.join hdigest (fun _ h => absurd h List.not_mem_nil) List.nodup_nil
    fun i hi => ?_
  rw [List.length_map] at hi
  obtain ⟨e, -, hitem⟩ := exists_entry_of_items h (List.getElem?_eq_getElem hi)
  rw [List.getElem_map, hitem]
  exact (a.context digest e.1 state).keyBlock_item hdigest e.2 _

theorem nodup_keys_fields (hdigest : HasFixedLength digest)
    (h : a.assemble digest state = .ok (d, notices)) : (d.fields.map Prod.fst).Nodup :=
  (keyBlock_items hdigest h).nodup.sublist d.map_fields_sublist_keys

/-- **The form state has one value for each widget and counter.** -/
theorem formState_eq_fields (hdigest : HasFixedLength digest)
    (h : a.assemble digest state = .ok (d, notices)) : d.formState = d.fields :=
  Entries.distinct_eq_self (nodup_keys_fields hdigest h)

/-- The form state has each value of the form under its key. -/
theorem get?_formState (hdigest : HasFixedLength digest)
    (h : a.assemble digest state = .ok (d, notices)) {key value : String}
    (hmem : (key, value) ∈ d.fields) : d.formState.get? key = some value := by
  rw [formState_eq_fields hdigest h]
  exact Entries.get?_eq_some_of_mem (nodup_keys_fields hdigest h) hmem

/-- The form state has no value for a plus or minus control. -/
theorem has_formState_controlKey (hdigest : HasFixedLength digest)
    (h : a.assemble digest state = .ok (d, notices)) (command : String) (q : Path)
    {control : RepeatControl} (hcontrol : control ≠ .count) :
    d.formState.has (controlKey digest command q control) = false := by
  rw [formState_eq_fields hdigest h, Entries.has_eq_false_iff]
  intro hmem
  obtain ⟨p, hp, hkey⟩ := List.mem_map.mp hmem
  obtain ⟨item, hitem, hp⟩ := List.mem_flatMap.mp hp
  obtain ⟨i, hi⟩ := List.getElem?_of_mem hitem
  obtain ⟨e, -, rfl⟩ := exists_entry_of_items h hi
  exact (a.context digest e.1 state).controlKey_notMem_fields_item hdigest hcontrol command q e.2 _
    (List.mem_map.mpr ⟨p, hp, hkey⟩)

end Assembler

end GrammarForm
