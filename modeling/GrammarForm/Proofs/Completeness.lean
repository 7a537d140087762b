import GrammarForm.Proofs.Overlay
import GrammarForm.Proofs.TreeValues

/-!
# Every sentence can be submitted

A form leaves nothing out.  For each item one may choose how many instances there are and a
derivation tree for each command, and there is one state from which all of this is rendered at
once: the values of all trees together with the counters of all groups.  They get along because
the keys of different places differ.

Two faults stand in the way.  The title is handed on as it was given, so that a form whose title
is no text is never assembled; and a name without a form in bytes has no key.  A form shows what
was chosen for it exactly if it has neither fault.

## Main definitions

* `ItemPlan` : what an item of a form is to show.
* `ItemPlan.IsFor` : the plans that suit a command of the layout.
* `FormItem.Follows` : an item shows what was planned.
* `Assembler.plannedState` : the state for the plans of all items.

## Main results

* `RenderContext.follows_of_carries` : an item shows what was planned if its values are submitted.
* `Assembler.keyBlock_plannedState` : the keys of the state are distinct.
* `Assembler.exists_state_iff` : every choice of counts and trees can be submitted at once, unless
  the title is no text or a name has no key.
-/

namespace GrammarForm

/-! ### Plans -/

/-- The line of a tree: the command, a blank and the text of the tree. -/
def Derivation.line (g : Grammar) (t : Derivation) : ConfigLine :=
  ⟨t.symbol, t.symbol ++ " " ++ t.text g, true⟩

/-- What an item of a form is to show: the tree of a command, or the trees of the instances and
dependents of a group. -/
inductive ItemPlan where
  | command (t : Derivation)
  | group (instances dependents : List Derivation)

namespace ItemPlan

/-- The trees of the commands in order. -/
def trees : ItemPlan → List Derivation
  | command t => [t]
  | group instances dependents => instances ++ dependents

/-- The values of a plan for a command at a path: those of its trees, and the counter of a
group. -/
def fields (digest : String → String) (name : String) (path : Path) :
    ItemPlan → List (String × String)
  | command t => t.fields (widgetKey digest t.symbol) path
  | group instances dependents =>
    (controlKey digest name path .count, toString (instances.length : Int)) ::
      ((instances ++ dependents).mapIdx fun i t =>
        t.fields (widgetKey digest t.symbol) (path ++ [(i : Int) + 1])).flatten

/-- The names that go into the keys of a plan. -/
def keyNames (name : String) (plan : ItemPlan) : List String :=
  name :: plan.trees.flatMap fun t => t.subtrees.map Derivation.symbol

/-- The plans that suit a command of the layout with a given grammar.  A group has at most as many
instances as its bound allows and as are read back; its dependents are there as soon as there is an
instance. -/
inductive IsFor (options : FormOptions) (g : Grammar) (entry : LayoutCommand) : ItemPlan → Prop
  | command {t : Derivation} (hsingle : entry.isRepeated = false)
      (ht : t.IsTreeOf g options.maxDepth entry.name) : IsFor options g entry (.command t)
  | group {instances dependents : List Derivation} (hrepeated : entry.isRepeated = true)
      (hbound : (instances.length : Int) ≤
        upperBound (entry.repeatLimit.getD 1) options.repeatCap)
      (hfits : (instances.length : Int) ≤ 9223372036854775807)
      (hinstances : ∀ t ∈ instances, t.IsTreeOf g options.maxDepth entry.name)
      (hdependents : List.Forall₂ (fun t name => t.IsTreeOf g options.maxDepth name) dependents
        (if instances = [] then [] else entry.dependents)) :
      IsFor options g entry (.group instances dependents)

variable {digest : String → String}

/-- **The keys of a plan** are distinct and lie at its path or below. -/
theorem keyBlock_fields (hdigest : HasFixedLength digest) (name : String) (path : Path)
    (plan : ItemPlan) : KeyBlock digest path ((plan.fields digest name path).map Prod.fst) := by
  cases plan with
  | command t => exact t.keyBlock_fields hdigest _ _
  | group instances dependents =>
    rw [fields, List.map_cons, List.map_flatten, ← List.singleton_append]
    refine KeyBlock.join hdigest (fun key hkey => ?_) (List.nodup_singleton _) fun i hi => ?_
    · rw [List.mem_singleton.mp hkey]
      exact isKeyAt_controlKey ..
    · simp only [List.getElem_map, List.getElem_mapIdx]
      exact Derivation.keyBlock_fields hdigest _ _ _

/-- The values of a plan stand under keys of widgets and counters, so they press no control. -/
theorem controlKey_ne_of_mem_fields (hdigest : HasFixedLength digest) {name : String}
    {path : Path} {plan : ItemPlan} {field : String × String}
    (h : field ∈ plan.fields digest name path) (command : String) (q : Path)
    {control : RepeatControl} (hcontrol : control ≠ .count) :
    field.1 ≠ controlKey digest command q control := by
  have hwidget {t : Derivation} {q' : Path}
      (ht : field ∈ t.fields (widgetKey digest t.symbol) q') :
      field.1 ≠ controlKey digest command q control := by
    obtain ⟨s, q'', hkey⟩ := t.exists_key_of_mem_fields _ _ ht
    rw [hkey]
    exact widgetKey_ne_controlKey _ _ _ _ _ _
  cases plan with
  | command t => exact hwidget h
  | group instances dependents =>
    rcases List.mem_cons.mp h with rfl | h
    · exact fun hkey => hcontrol (controlKey_inj hdigest hkey).2.symm
    · obtain ⟨_, hblock, h⟩ := List.mem_flatten.mp h
      obtain ⟨i, hi, rfl⟩ := List.mem_mapIdx.mp hblock
      exact hwidget h

end ItemPlan

/-- A command shows a tree: its node does, and its line is the one of the tree. -/
structure CommandForm.Shows (g : Grammar) (c : CommandForm) (t : Derivation) : Prop where
  root : c.root.Shows g t
  line : c.line = t.line g

/-- An item shows what was planned: each of its commands shows its tree, and a group has as many
instances as planned. -/
inductive FormItem.Follows (g : Grammar) : FormItem → ItemPlan → Prop
  | command {c : CommandForm} {t : Derivation} (h : c.Shows g t) :
      Follows g (.command c) (.command t)
  | group {form : GroupForm} {instances dependents : List Derivation}
      (hcount : form.count = instances.length)
      (hinstances : List.Forall₂ (CommandForm.Shows g) form.instances instances)
      (hdependents : List.Forall₂ (CommandForm.Shows g) form.dependents dependents) :
      Follows g (.group form) (.group instances dependents)

namespace FormItem.Follows

variable {g : Grammar} {item : FormItem} {plan : ItemPlan}

/-- The commands of an item show the planned trees in order. -/
theorem forall₂_commands (h : item.Follows g plan) :
    List.Forall₂ (CommandForm.Shows g) item.commands plan.trees := by
  cases h with
  | command h => exact .cons h .nil
  | group _ hinstances hdependents => exact List.rel_append hinstances hdependents

/-- The lines of an item are those of the planned trees. -/
theorem lines_eq (h : item.Follows g plan) : item.lines = plan.trees.map (·.line g) :=
  map_eq_map_of_forall₂ (h.forall₂_commands.imp fun _ _ hshows => hshows.line)

/-- Each part of a planned tree is shown by a node of some command. -/
theorem exists_node (h : item.Follows g plan) {t u : Derivation} (ht : t ∈ plan.trees)
    (hu : u ∈ t.subtrees) :
    ∃ f ∈ item.commands, ∃ m ∈ f.root.nodes, m.derivation? = some u := by
  obtain ⟨f, hf, hshows⟩ := exists_rel_of_mem h.forall₂_commands ht
  exact ⟨f, hf, Node.exists_mem_nodes_of_mem_subtrees hshows.root.tree hu⟩

end FormItem.Follows

/-! ### Items from their values -/

namespace RenderContext

variable {ctx : RenderContext} {entry : LayoutCommand} {path : Path}

/-- **A command shows a tree** if the values of the tree are submitted. -/
theorem shows_of_carries {t : Derivation} (ht : t.IsTreeOf ctx.grammar ctx.maxDepth entry.name)
    (hstate : ctx.state.Carries (t.fields (widgetKey ctx.digest t.symbol) path)) :
    (ctx.command entry path).1.Shows ctx.grammar t := by
  have hdepth : t.depth < (ctx.renderer entry.name entry.inline).levelsFrom 0 := by
    have hle := ht.depth_le
    simp only [Renderer.levelsFrom, renderer]
    omega
  have hfields : ctx.state.Carries (t.fields (ctx.renderer entry.name entry.inline).key path) := by
    rw [ht.symbol_eq] at hstate
    exact hstate
  obtain ⟨hvalid, hshows⟩ := Renderer.shows_of_carries
    (r := ctx.renderer entry.name entry.inline) ht.valid _ path (ctx.entryDefault entry) false
    hdepth ht.index_lt hfields
  rw [ht.symbol_eq] at hshows hvalid
  refine ⟨hshows, ?_⟩
  have htext : t.text ctx.grammar = (ctx.tree entry path).1.text := hshows.text
  have htree : (ctx.tree entry path).1.valid = true := hvalid
  rw [Derivation.line, ht.symbol_eq, htext, ← htree]
  rfl

/-- The number of instances of a group is the submitted one, if no control was pressed. -/
theorem counter_of_submitted {n : Nat}
    (hcount : ctx.state.get? (controlKey ctx.digest entry.name path .count) =
      some (toString (n : Int)))
    (hplus : ctx.state.has (controlKey ctx.digest entry.name path .plus) = false)
    (hminus : ctx.state.has (controlKey ctx.digest entry.name path .minus) = false)
    (hbound : (n : Int) ≤ upperBound (entry.repeatLimit.getD 1) ctx.repeatCap)
    (hfits : (n : Int) ≤ 9223372036854775807) : ctx.counter entry path = n := by
  have hfits64 : Decimal.fitsInt64 (n : Int) = true := by
    rw [Decimal.fitsInt64, Bool.and_eq_true, decide_eq_true_eq, decide_eq_true_eq]
    omega
  rw [counter, instanceCount_of_submitted hcount hplus hminus hfits64]
  omega

/-- The instances of a group show trees if the values of the trees are submitted slot by slot. -/
theorem shows_instances (path : Path) {trees : List Derivation}
    (htrees : ∀ t ∈ trees, t.IsTreeOf ctx.grammar ctx.maxDepth entry.name)
    (hstate : ∀ (i : Nat) (t : Derivation), trees[i]? = some t →
      ctx.state.Carries (t.fields (widgetKey ctx.digest t.symbol) (path ++ [(i : Int) + 1]))) :
    List.Forall₂ (CommandForm.Shows ctx.grammar)
      ((ctx.instances entry path trees.length).map Prod.fst) trees := by
  refine forall₂_of_getElem? (by rw [List.length_map, length_instances]) fun i c t hc ht => ?_
  rw [List.getElem?_map, Option.map_eq_some_iff] at hc
  obtain ⟨rendered, hc, rfl⟩ := hc
  rw [ctx.getElem?_instances hc]
  exact shows_of_carries (htrees t (List.mem_of_getElem? ht)) (hstate i t ht)

/-- The dependents of a group show trees if the values of the trees are submitted in the slots
after the instances. -/
theorem shows_dependents (path : Path) {n : Nat} {trees : List Derivation}
    (htrees : List.Forall₂ (fun t name => t.IsTreeOf ctx.grammar ctx.maxDepth name) trees
      (if n = 0 then [] else entry.dependents))
    (hstate : ∀ (i : Nat) (t : Derivation), trees[i]? = some t →
      ctx.state.Carries
        (t.fields (widgetKey ctx.digest t.symbol) (path ++ [(n : Int) + i + 1]))) :
    List.Forall₂ (CommandForm.Shows ctx.grammar)
      ((ctx.dependents entry path n).map Prod.fst) trees := by
  by_cases hn : n = 0
  · rw [if_pos hn] at htrees
    cases htrees
    rw [RenderContext.dependents, if_pos hn]
    exact .nil
  · rw [if_neg hn] at htrees
    refine forall₂_of_getElem? ?_ fun i c t hc ht => ?_
    · rw [List.length_map, RenderContext.dependents, if_neg hn, List.length_mapIdx,
        htrees.length_eq]
    · rw [List.getElem?_map, Option.map_eq_some_iff] at hc
      obtain ⟨rendered, hc, rfl⟩ := hc
      obtain ⟨name, hname, rfl⟩ := ctx.getElem?_dependents hc
      exact shows_of_carries (rel_of_getElem? htrees ht hname) (hstate i t ht)

/-- **An item shows what was planned** if its values are submitted and no control was pressed. -/
theorem follows_of_carries (ctx : RenderContext) {options : FormOptions} {plan : ItemPlan}
    (hdepth : ctx.maxDepth = options.maxDepth) (hcap : ctx.repeatCap = options.repeatCap)
    (hplan : plan.IsFor options ctx.grammar entry)
    (hstate : ctx.state.Carries (plan.fields ctx.digest entry.name path))
    (hplus : ctx.state.has (controlKey ctx.digest entry.name path .plus) = false)
    (hminus : ctx.state.has (controlKey ctx.digest entry.name path .minus) = false) :
    (ctx.item entry path).1.Follows ctx.grammar plan := by
  cases hplan with
  | command hsingle ht =>
    rw [item, if_neg (by rw [hsingle]; exact Bool.false_ne_true)]
    exact .command (shows_of_carries (hdepth ▸ ht) hstate)
  | @group instances dependents hrepeated hbound hfits hinstances hdependents =>
    have hcounter : ctx.counter entry path = instances.length :=
      counter_of_submitted (hstate _ _ (List.mem_cons_self ..)) hplus hminus (hcap ▸ hbound) hfits
    have hnumber : ctx.instanceNumber entry path = instances.length := by
      rw [instanceNumber, hcounter, Int.toNat_natCast]
    have hslot (i : Nat) (t : Derivation) (ht : (instances ++ dependents)[i]? = some t) :
        ctx.state.Carries
          (t.fields (widgetKey ctx.digest t.symbol) (path ++ [(i : Int) + 1])) :=
      hstate.mono fun field hfield => by
        refine List.mem_cons_of_mem _ (List.mem_flatten.mpr ⟨_, ?_, hfield⟩)
        refine List.mem_of_getElem? (i := i) ?_
        rw [List.getElem?_mapIdx, ht, Option.map_some]
    rw [item, if_pos hrepeated, group_eq, hnumber]
    refine .group hcounter (shows_instances path (hdepth ▸ hinstances) fun i t ht => ?_)
      (shows_dependents path ?_ fun i t ht => ?_)
    · refine hslot i t ?_
      rw [List.getElem?_append_left (List.getElem?_eq_some_iff.mp ht).1, ht]
    · simpa only [List.length_eq_zero_iff, hdepth] using hdependents
    · rw [← Nat.cast_add]
      refine hslot _ t ?_
      rw [List.getElem?_append_right (Nat.le_add_right ..), Nat.add_sub_cancel_left, ht]

/-- An item shows what was planned if nothing but its values is submitted. -/
theorem follows_of_state_eq (ctx : RenderContext) {options : FormOptions} {plan : ItemPlan}
    (hdigest : HasFixedLength ctx.digest) (hdepth : ctx.maxDepth = options.maxDepth)
    (hcap : ctx.repeatCap = options.repeatCap) (hplan : plan.IsFor options ctx.grammar entry)
    (hstate : ctx.state = plan.fields ctx.digest entry.name path) :
    (ctx.item entry path).1.Follows ctx.grammar plan := by
  have hcarries : ctx.state.Carries (plan.fields ctx.digest entry.name path) := by
    rw [hstate]
    exact fun _ _ => Entries.get?_eq_some_of_mem (ItemPlan.keyBlock_fields hdigest _ _ _).nodup
  have hreleased (control : RepeatControl) (hcontrol : control ≠ .count) :
      ctx.state.has (controlKey ctx.digest entry.name path control) = false := by
    rw [hstate, Entries.has_eq_false_iff]
    intro hmem
    obtain ⟨field, hfield, hkey⟩ := List.mem_map.mp hmem
    exact ItemPlan.controlKey_ne_of_mem_fields hdigest hfield _ _ hcontrol hkey
  exact ctx.follows_of_carries hdepth hcap hplan hcarries (hreleased .plus (by decide))
    (hreleased .minus (by decide))

/-! ### Names with keys -/

/-- A command that shows a tree has keys exactly if the symbols of the tree have a form in
bytes. -/
theorem hasKeys_command_iff {t : Derivation} (h : (ctx.command entry path).1.Shows ctx.grammar t) :
    (ctx.command entry path).1.hasKeys = true ↔
      ∀ name ∈ t.subtrees.map Derivation.symbol, Text.isEncodable name = true := by
  have hsymbols : (ctx.tree entry path).1.nodes.map (·.symbol) =
      t.subtrees.map Derivation.symbol :=
    (ctx.renderer entry.name entry.inline).map_symbol_nodes _ _ _ _ _ h.root.tree
  have hsymbol : (ctx.tree entry path).1.symbol = entry.name :=
    ((ctx.renderer entry.name entry.inline).renderLevels_place _ _ _ _ _).1
  change (Text.isEncodable entry.name &&
    (ctx.tree entry path).1.nodes.all fun m => Text.isEncodable m.symbol) = true ↔ _
  rw [← hsymbols, Bool.and_eq_true, List.all_eq_true, List.forall_mem_map]
  exact ⟨fun hkeys => hkeys.2, fun hkeys => ⟨hsymbol ▸ hkeys _ (Node.self_mem_nodes _), hkeys⟩⟩

/-- **An item that shows what was planned has keys** exactly if all names of the plan have a form
in bytes. -/
theorem hasKeys_item_iff {plan : ItemPlan} (h : (ctx.item entry path).1.Follows ctx.grammar plan) :
    (ctx.item entry path).1.hasKeys = true ↔
      ∀ name ∈ plan.keyNames entry.name, Text.isEncodable name = true := by
  have hcommands : (∀ c ∈ (ctx.item entry path).1.commands, c.hasKeys = true) ↔
      ∀ t ∈ plan.trees, ∀ name ∈ t.subtrees.map Derivation.symbol,
        Text.isEncodable name = true := by
    refine forall_mem_iff_of_forall₂ h.forall₂_commands fun c hc t hshows => ?_
    obtain ⟨entry', path', rfl⟩ := exists_command_of_item hc
    exact hasKeys_command_iff hshows
  have hitem : (ctx.item entry path).1.hasKeys = true ↔ Text.isEncodable entry.name = true ∧
      ∀ c ∈ (ctx.item entry path).1.commands, c.hasKeys = true := by
    rw [item]
    split
    next => exact (Bool.and_eq_true_iff).trans (and_congr_right' List.all_eq_true)
    next =>
      refine ⟨fun hkeys => ⟨(Bool.and_eq_true_iff.mp hkeys).1, fun c hc => ?_⟩, fun hkeys => ?_⟩
      · rwa [List.mem_singleton.mp hc]
      · exact hkeys.2 _ (List.mem_singleton_self _)
  rw [hitem, hcommands, ItemPlan.keyNames, List.forall_mem_cons]
  simp only [List.mem_flatMap, forall_exists_index, and_imp]
  exact and_congr_right' ⟨fun hkeys name t ht hname => hkeys t ht name hname,
    fun hkeys t ht name hname => hkeys name t ht hname⟩

end RenderContext

/-! ### The state for all plans -/

namespace Assembler

variable (a : Assembler) (digest : String → String) (plans : List ItemPlan)

/-- The state for the plans of all items. -/
def plannedState : FormState :=
  ((a.entries.zip plans).mapIdx fun i q =>
    q.2.fields digest q.1.2.name [(i : Int) + 1]).flatten

/-- A document shows what was planned: each item follows its plan, and the lines are those of the
planned trees in the order of the layout. -/
structure ShowsPlans (d : Document) : Prop where
  items : List.Forall₂ (fun item q => item.Follows q.1.1 q.2) d.items (a.entries.zip plans)
  lines : d.lines = (a.entries.zip plans).flatMap fun q => q.2.trees.map (·.line q.1.1)

variable {a digest plans}

/-- **The keys of the state are distinct.** -/
theorem keyBlock_plannedState (hdigest : HasFixedLength digest) :
    KeyBlock digest [] ((a.plannedState digest plans).map Prod.fst) := by
  rw [plannedState, List.map_flatten, ← List.nil_append (List.flatten _)]
  refine KeyBlock.join hdigest (fun _ h => absurd h List.not_mem_nil) List.nodup_nil
    fun i hi => ?_
  simp only [List.getElem_map, List.getElem_mapIdx]
  exact ItemPlan.keyBlock_fields hdigest _ _ _

/-- The values of each plan are among those of all plans. -/
theorem mem_plannedState {i : Nat} {q : (Grammar × LayoutCommand) × ItemPlan}
    (hq : (a.entries.zip plans)[i]? = some q) {field : String × String}
    (h : field ∈ q.2.fields digest q.1.2.name [(i : Int) + 1]) :
    field ∈ a.plannedState digest plans := by
  refine List.mem_flatten.mpr ⟨_, List.mem_of_getElem? (i := i) ?_, h⟩
  rw [List.getElem?_mapIdx, hq, Option.map_some]

/-- The state has its values, each under its key. -/
theorem carries_plannedState (hdigest : HasFixedLength digest) :
    FormState.Carries (a.plannedState digest plans) (a.plannedState digest plans) :=
  fun _ _ => Entries.get?_eq_some_of_mem (keyBlock_plannedState hdigest).nodup

/-- No control is pressed in the state. -/
theorem has_plannedState_controlKey (hdigest : HasFixedLength digest) (command : String)
    (path : Path) {control : RepeatControl} (hcontrol : control ≠ .count) :
    (a.plannedState digest plans).has (controlKey digest command path control) = false := by
  rw [Entries.has_eq_false_iff]
  intro hmem
  obtain ⟨field, hfield, hkey⟩ := List.mem_map.mp hmem
  obtain ⟨_, hblock, hfield⟩ := List.mem_flatten.mp hfield
  obtain ⟨i, hi, rfl⟩ := List.mem_mapIdx.mp hblock
  exact ItemPlan.controlKey_ne_of_mem_fields hdigest hfield command path hcontrol hkey

/-- Each item of a document, with the command of the layout that it is rendered for. -/
theorem forall₂_items {state : FormState} {d : Document} {notices : List Notice}
    (hlength : a.entries.length = plans.length)
    (h : a.assemble digest state = .ok (d, notices)) {R : FormItem →
      (Grammar × LayoutCommand) × ItemPlan → Prop}
    (hR : ∀ (i : Nat) (q : (Grammar × LayoutCommand) × ItemPlan) (item : FormItem),
      (a.entries.zip plans)[i]? = some q → d.items[i]? = some item →
        item = ((a.context digest q.1.1 state).item q.1.2 [(i : Int) + 1]).1 → R item q) :
    List.Forall₂ R d.items (a.entries.zip plans) := by
  refine forall₂_of_getElem? ?_ fun i item q hitem hq => ?_
  · rw [items_of_assemble h, List.length_mapIdx, List.length_zip, hlength, Nat.min_self]
  · obtain ⟨e, he, hslot⟩ := exists_entry_of_items h hitem
    cases he.symm.trans (List.getElem?_zip_eq_some.mp hq).1
    exact hR i q item hq hitem hslot

/-- If each section has a grammar, no command of the layout is left out. -/
theorem map_snd_entries (h : a.grammars.length = a.catalogue.sections.length) :
    a.entries.map Prod.snd = a.catalogue.commands := by
  have hsections : (a.catalogue.sections.zip a.grammars).map Prod.fst = a.catalogue.sections :=
    List.map_fst_zip h.ge
  have hpair (p : LayoutSection × Grammar) :
      (p.1.commands.map (p.2, ·)).map Prod.snd = p.1.commands := by
    rw [List.map_map]
    exact List.map_id _
  conv_rhs => rw [Catalogue.commands, ← hsections, List.flatMap_map]
  rw [entries, entriesOf, List.map_flatMap]
  simp only [hpair]

/-- **A document shows what was planned** if the values of all plans are submitted and no control
was pressed, whatever else is submitted. -/
theorem showsPlans_of_carries {state : FormState} {d : Document} {notices : List Notice}
    (hplans : List.Forall₂ (fun e plan => ItemPlan.IsFor a.options e.1 e.2 plan) a.entries plans)
    (hstate : state.Carries (a.plannedState digest plans))
    (hreleased : ∀ (command : String) (path : Path) (control : RepeatControl),
      control ≠ .count → state.has (controlKey digest command path control) = false)
    (h : a.assemble digest state = .ok (d, notices)) : a.ShowsPlans plans d := by
  have hitems : List.Forall₂ (fun item q => item.Follows q.1.1 q.2) d.items
      (a.entries.zip plans) := by
    refine forall₂_items hplans.length_eq h fun i q item hq _ hitem => ?_
    obtain ⟨hentry, hplan⟩ := List.getElem?_zip_eq_some.mp hq
    have hsuits : ItemPlan.IsFor a.options q.1.1 q.1.2 q.2 := rel_of_getElem? hplans hentry hplan
    rw [hitem]
    exact (a.context digest q.1.1 state).follows_of_carries rfl rfl hsuits
      (hstate.mono fun _ => mem_plannedState hq) (hreleased _ _ .plus (by decide))
      (hreleased _ _ .minus (by decide))
  refine ⟨hitems, ?_⟩
  have hlines : d.items.map (·.lines) =
      (a.entries.zip plans).map fun q => q.2.trees.map (·.line q.1.1) :=
    map_eq_map_of_forall₂ (hitems.imp fun _ _ hfollows => hfollows.lines_eq)
  rw [Document.lines_eq_flatMap_items, List.flatMap_def, List.flatMap_def, hlines]

/-- **A document that shows what was planned has keys** exactly if all names of the plans have a
form in bytes. -/
theorem hasKeys_iff_of_showsPlans (hlength : a.entries.length = plans.length) {state : FormState}
    {d : Document} {notices : List Notice} (h : a.assemble digest state = .ok (d, notices))
    (hshows : a.ShowsPlans plans d) :
    d.hasKeys = true ↔ ∀ q ∈ a.entries.zip plans, ∀ name ∈ q.2.keyNames q.1.2.name,
      Text.isEncodable name = true := by
  have hitems : List.Forall₂ (fun item q => item.hasKeys = true ↔
      ∀ name ∈ q.2.keyNames q.1.2.name, Text.isEncodable name = true) d.items
      (a.entries.zip plans) :=
    forall₂_items hlength h fun i q item hq hi hitem => by
      have hfollows : item.Follows q.1.1 q.2 := rel_of_getElem? hshows.items hi hq
      rw [hitem] at hfollows ⊢
      exact RenderContext.hasKeys_item_iff hfollows
  rw [Document.hasKeys, List.all_eq_true]
  exact forall_mem_iff_of_forall₂ hitems fun _ _ _ hiff => hiff

/-- **Completeness.** A catalogue that is accepted can be made ready, with all its commands.  Then
any choice of counts and trees for the items of the form can be submitted at once, so that the form
shows just these counts and trees and has the lines of the trees, all of them valid: exactly if the
title is a text and all names of the plans have a form in bytes. -/
theorem exists_state_iff {data : Data} {source : Option FilePath} {c : Catalogue}
    (hdata : Catalogue.ofData data source = .ok c) (options : FormOptions) :
    ∃ a notices, ofCatalogue c options = .ok (a, notices) ∧
      a.entries.map Prod.snd = c.commands ∧
      ∀ plans : List ItemPlan,
        List.Forall₂ (fun e plan => ItemPlan.IsFor options e.1 e.2 plan) a.entries plans →
        ((∃ state d notices', a.assemble shortDigest state = .ok (d, notices') ∧
            d.hasKeys = true ∧ a.ShowsPlans plans d) ↔
          (∃ title, a.title = .ok title) ∧
            ∀ q ∈ a.entries.zip plans, ∀ name ∈ q.2.keyNames q.1.2.name,
              Text.isEncodable name = true) := by
  obtain ⟨a, notices, hready, hcatalogue, hoptions, hgrammars, -⟩ :=
    exists_ofCatalogue (Catalogue.layoutFault?_of_ofData hdata) options
  subst hcatalogue hoptions
  refine ⟨a, notices, hready, map_snd_entries hgrammars, fun plans hplans => ?_⟩
  have hlength := hplans.length_eq
  constructor
  · rintro ⟨state, d, notices', h, hkeys, hshows⟩
    exact ⟨⟨d.title, ((a.assemble_eq_ok_iff shortDigest).mp h).1⟩,
      (hasKeys_iff_of_showsPlans hlength h hshows).mp hkeys⟩
  · rintro ⟨⟨title, htitle⟩, hnames⟩
    have hdigest := hasFixedLength_shortDigest
    obtain ⟨d, notices', h⟩ := exists_assemble_of_title htitle (a.plannedState shortDigest plans)
    have hshows := showsPlans_of_carries hplans (carries_plannedState hdigest)
      (fun _ _ _ => has_plannedState_controlKey hdigest _ _) h
    exact ⟨_, d, notices', h, (hasKeys_iff_of_showsPlans hlength h hshows).mpr hnames, hshows⟩

/-- A catalogue with a given title and a single command, which takes an integer. -/
def sizeData (title : Data) : Data :=
  .table
    [("catalogue", .table [("title", title)]),
      ("symbols", .table [("size", .table [("alias", .string "<integer value>")])]),
      ("sections", .array
        [.table
          [("title", .string "Main"),
            ("commands", .array [.table [("name", .string "size")]])]])]

/-- The form of this catalogue. -/
def sizeForm (title : Data) : Assembler :=
  let grammar : Grammar :=
    { records := [{ name := "size", aliasOf := some "<integer value>" }]
      faultless := by decide }
  { catalogue :=
      { name := .string "catalogue"
        title
        description := .string ""
        grammar
        sections := [{ title := "Main", commands := [{ name := "size" }] }]
        source := none }
    options := {}
    grammars := [grammar] }

/-- The size `7`. -/
def seven : ItemPlan :=
  .command (.leaf "size" "7")

theorem ofData_sizeData (title : Data) :
    Catalogue.ofData (sizeData title) none = .ok (sizeForm title).catalogue :=
  rfl

theorem ofCatalogue_sizeForm (title : Data) :
    ofCatalogue (sizeForm title).catalogue {} = .ok (sizeForm title, []) :=
  rfl

theorem isFor_seven (g : Grammar) (h : g.startSymbol "size" = "<integer value>") :
    seven.IsFor {} g { name := "size" } :=
  .command rfl ⟨rfl, .leaf (by rw [h]; rfl) (by decide), by decide, nofun⟩

/-- The size `7` can be shown under a title that is a text, but not if the title is a number. -/
theorem exists_state_iff_size :
    (∃ state d notices,
        (sizeForm (.string "Size")).assemble shortDigest state = .ok (d, notices) ∧
          d.hasKeys = true ∧ (sizeForm (.string "Size")).ShowsPlans [seven] d) ∧
      ¬∃ state d notices, (sizeForm (.int 5)).assemble shortDigest state = .ok (d, notices) ∧
        d.hasKeys = true ∧ (sizeForm (.int 5)).ShowsPlans [seven] d := by
  constructor
  · obtain ⟨a, _, ha, -, hplans⟩ := exists_state_iff (ofData_sizeData (.string "Size")) {}
    cases (ofCatalogue_sizeForm _).symm.trans ha
    refine (hplans [seven] (.cons (isFor_seven _ rfl) .nil)).mpr ⟨⟨"Size", rfl⟩, ?_⟩
    decide
  · obtain ⟨a, _, ha, -, hplans⟩ := exists_state_iff (ofData_sizeData (.int 5)) {}
    cases (ofCatalogue_sizeForm _).symm.trans ha
    rw [hplans [seven] (.cons (isFor_seven _ rfl) .nil)]
    exact fun h => nomatch h.1.choose_spec

end Assembler

end GrammarForm
