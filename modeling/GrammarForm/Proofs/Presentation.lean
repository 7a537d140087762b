import GrammarForm.Proofs.DistinctKeys
import GrammarForm.Proofs.Overlay

/-!
# Presentation and configuration

Some data of a catalogue only say how a form looks: the titles of sections, the explanations of
symbols, alternatives and commands, and whether a command is shown on one line.  They stand in the
same records as the data that make up the configuration, and they are looked up while a form is
rendered, but nothing of them gets beyond tooltips, explanations, titles and labels.

To say so, these data are left out.  What is left of a catalogue decides what is left of every
document: two catalogues with the same rest are rendered in step, and at each node the same becomes
of a symbol.

## Main definitions

* `SymbolRecord.plain`, `LayoutSection.plain` : a record and a section without presentation.
* `Grammar.Alike`, `Catalogue.Alike` : grammars and catalogues that differ in presentation only.
* `Node.plain`, `Document.plain` : a node and a document without presentation.
* `Renderer.dressed` : a renderer with another presentation.

## Main results

* `Grammar.Alike.extendAll` : extensions keep grammars alike.
* `Renderer.plain_dressed` : a rendering with another presentation.
* `RenderContext.plain_item` : an item with another presentation.
* `Assembler.plain_assemble` : the documents of catalogues that differ in presentation only.
-/

namespace GrammarForm

/-! ### Catalogues without presentation -/

/-- A record without explanations. -/
def SymbolRecord.plain (r : SymbolRecord) : SymbolRecord :=
  { r with explanation := "", repeatExplanation := "", alternatives := [] }

/-- A command of a layout without explanation, not shown on one line. -/
def LayoutCommand.plain (e : LayoutCommand) : LayoutCommand :=
  { e with inline := false, explanation := none }

/-- A section of a layout without a title, and with plain commands. -/
def LayoutSection.plain (s : LayoutSection) : LayoutSection :=
  { s with title := "", commands := s.commands.map LayoutCommand.plain }

/-- Two grammars differ in explanations only. -/
def Grammar.Alike (g g' : Grammar) : Prop :=
  g.records.map SymbolRecord.plain = g'.records.map SymbolRecord.plain

/-- Two catalogues differ only in titles, explanations, what is shown on one line, and in where
they come from. -/
structure Catalogue.Alike (c c' : Catalogue) : Prop where
  grammar : c.grammar.Alike c'.grammar
  sections : c.sections.map LayoutSection.plain = c'.sections.map LayoutSection.plain

/-! ### Lookups in alike grammars -/

section Records

variable {records records' : List SymbolRecord}
  (h : records.map SymbolRecord.plain = records'.map SymbolRecord.plain)

/-- The record of a name without explanations. -/
theorem recordOf?_map_plain (records : List SymbolRecord) (name : String) :
    recordOf? (records.map SymbolRecord.plain) name = (recordOf? records name).map .plain := by
  rw [recordOf?, List.find?_map]
  rfl

include h

theorem map_plain_recordOf? (name : String) :
    (recordOf? records name).map SymbolRecord.plain =
      (recordOf? records' name).map SymbolRecord.plain := by
  rw [← recordOf?_map_plain, h, recordOf?_map_plain]

/-- What is said of the record of a name without its explanations is the same. -/
theorem apply_recordOf?_congr {α : Type} {F : Option SymbolRecord → α}
    (hF : ∀ r?, F (r?.map SymbolRecord.plain) = F r?) (name : String) :
    F (recordOf? records name) = F (recordOf? records' name) := by
  rw [← hF, map_plain_recordOf? h, hF]

theorem fullAliasChain_congr (name : String) :
    fullAliasChain records name = fullAliasChain records' name := by
  have hlength : records.length = records'.length := by
    rw [← List.length_map SymbolRecord.plain, h, List.length_map]
  have htarget (name : String) : aliasTarget? records name = aliasTarget? records' name :=
    apply_recordOf?_congr h (F := (·.bind (·.aliasOf))) (fun r? => by cases r? <;> rfl) name
  rw [fullAliasChain, fullAliasChain, hlength, aliasChain_congr htarget]

/-- Extensions leave records alike. -/
theorem map_plain_extendRecords (symbol : String) (productions : List (List String)) :
    (Grammar.extendRecords records symbol productions).map SymbolRecord.plain =
      (Grammar.extendRecords records' symbol productions).map SymbolRecord.plain := by
  have hextend (records : List SymbolRecord) :
      (Grammar.extendRecords records symbol productions).map SymbolRecord.plain =
        Grammar.extendRecords (records.map SymbolRecord.plain) symbol productions := by
    simp only [Grammar.extendRecords, recordOf?_map_plain, Option.isSome_map]
    split
    · rw [List.map_map, List.map_map]
      refine List.map_congr_left fun r _ => ?_
      simp only [Function.comp_apply]
      rw [apply_ite SymbolRecord.plain]
      rfl
    · rw [List.map_append]
      rfl
  rw [hextend, h, ← hextend]

end Records

namespace Grammar.Alike

variable {g g' : Grammar} (h : g.Alike g')

include h

theorem startSymbol_eq (name : String) : g.startSymbol name = g'.startSymbol name := by
  rw [startSymbol, startSymbol, chain, chain, fullAliasChain_congr h]

theorem roleOf_eq (name : String) : g.roleOf name = g'.roleOf name := by
  have hexpanded : isExpanded g.records name = isExpanded g'.records name :=
    apply_recordOf?_congr h (F := (·.any _)) (fun r? => by cases r? <;> rfl) name
  rw [Grammar.roleOf_eq, Grammar.roleOf_eq, hexpanded]

theorem production_eq (names : List String) : g.production names = g'.production names := by
  simp only [production, h.roleOf_eq]

theorem alternatives_eq (symbol : String) : g.alternatives symbol = g'.alternatives symbol := by
  have hproductions : ((g.record? symbol).map (·.productions)).getD [] =
      ((g'.record? symbol).map (·.productions)).getD [] :=
    apply_recordOf?_congr h (F := fun r? => (r?.map (·.productions)).getD [])
      (fun r? => by cases r? <;> rfl) symbol
  have heq (g : Grammar) : g.alternatives symbol =
      if (ValueKind.ofPlaceholder? symbol).isSome then []
      else (((g.record? symbol).map (·.productions)).getD []).map g.production := by
    rw [alternatives]
    cases g.record? symbol <;> rfl
  rw [heq, heq, hproductions, funext h.production_eq]

theorem defaultOf_eq (name : String) : g.defaultOf name = g'.defaultOf name := by
  have hdefault (n : String) : (g.record? n).bind (·.defaultValue) =
      (g'.record? n).bind (·.defaultValue) :=
    apply_recordOf?_congr h (F := (·.bind (·.defaultValue))) (fun r? => by cases r? <;> rfl) n
  simp only [defaultOf, chain, fullAliasChain_congr h, hdefault]

omit h in
/-- **Extensions keep grammars alike.** -/
theorem extendAll {extensions : Entries (List (List String))} :
    ∀ {g g' : Grammar} (_ : g.Alike g') {g₁ g₁' : Grammar} {notices notices' : List Notice},
      Catalogue.extendAll g extensions = .ok (g₁, notices) →
      Catalogue.extendAll g' extensions = .ok (g₁', notices') → g₁.Alike g₁' := by
  induction extensions with
  | nil =>
    intro g g' h g₁ g₁' notices notices' hg₁ hg₁'
    cases hg₁
    cases hg₁'
    exact h
  | cons e rest ih =>
    intro g g' h g₁ g₁' notices notices' hg₁ hg₁'
    obtain ⟨g₂, _, hextension, hrest⟩ := Catalogue.exists_of_extendAll_cons hg₁
    obtain ⟨g₂', _, hextension', hrest'⟩ := Catalogue.exists_of_extendAll_cons hg₁'
    refine ih ?_ hrest hrest'
    rw [Alike, hextension, hextension', map_plain_extendRecords h]

end Grammar.Alike

/-- Two sections with the grammars in effect for them differ in presentation only. -/
def SectionsAlike (p p' : LayoutSection × Grammar) : Prop :=
  p.1.plain = p'.1.plain ∧ p.2.Alike p'.2

/-- **The grammars of sections are alike** if the first grammars and the sections are. -/
theorem Catalogue.forall₂_sectionsAlike {sections : List LayoutSection} :
    ∀ {sections' : List LayoutSection} {g g' : Grammar} {grammars grammars' : List Grammar}
      {notices notices' : List Notice}, g.Alike g' →
      sections.map LayoutSection.plain = sections'.map LayoutSection.plain →
      overlay g sections = .ok (grammars, notices) →
      overlay g' sections' = .ok (grammars', notices') →
      List.Forall₂ SectionsAlike (sections.zip grammars) (sections'.zip grammars') := by
  induction sections with
  | nil =>
    intro sections' g g' grammars grammars' notices notices' _ hsections _ _
    rw [List.map_nil, eq_comm, List.map_eq_nil_iff] at hsections
    rw [hsections]
    exact .nil
  | cons s rest ih =>
    intro sections' g g' grammars grammars' notices notices' hg hsections h h'
    obtain ⟨s', rest', rfl, hs, hrest⟩ := List.map_eq_cons_iff.mp hsections.symm
    obtain ⟨current, _, later, _, hcurrent, hlater, rfl⟩ := exists_of_overlay_cons h
    obtain ⟨current', _, later', _, hcurrent', hlater', rfl⟩ := exists_of_overlay_cons h'
    have hextensions : s'.extensions = s.extensions :=
      show s'.plain.extensions = s.plain.extensions from congrArg _ hs
    rw [hextensions] at hcurrent'
    have hcurrents := Grammar.Alike.extendAll hg hcurrent hcurrent'
    exact .cons ⟨hs.symm, hcurrents⟩ (ih hcurrents hrest.symm hlater hlater')

/-! ### Nodes without presentation -/

/-- An offer without a tooltip. -/
def Offer.plain (o : Offer) : Offer :=
  { o with tooltip := "" }

/-- A widget without tooltips. -/
def Widget.plain : Widget → Widget
  | .text value kind valid => .text value kind valid
  | .choice offers selected _ disabled => .choice (offers.map Offer.plain) selected "" disabled

namespace Node

mutual

/-- A tree without tooltips and labels. -/
def plain : Node → Node
  | ⟨key, symbol, path, _, _, widget, children, text, valid, issue⟩ =>
    ⟨key, symbol, path, "", false, widget.map Widget.plain, plainOf children, text, valid, issue⟩

/-- Several trees without tooltips and labels. -/
def plainOf : List Node → List Node
  | [] => []
  | n :: rest => n.plain :: plainOf rest

end

theorem plainOf_eq_map : (ns : List Node) → plainOf ns = ns.map plain
  | [] => rfl
  | n :: rest => by rw [plainOf, plainOf_eq_map rest, List.map_cons]

theorem plain_eq (n : Node) : n.plain =
    { n with
      tooltip := ""
      showLabel := false
      widget := n.widget.map Widget.plain
      children := n.children.map plain } := by
  rw [← plainOf_eq_map]
  cases n
  rfl

theorem text_plain (n : Node) : n.plain.text = n.text := by
  rw [plain_eq]

theorem valid_plain (n : Node) : n.plain.valid = n.valid := by
  rw [plain_eq]

theorem children_plain (n : Node) : n.plain.children = n.children.map plain := by
  rw [plain_eq]

/-- The texts and the validity of trees do not depend on presentation. -/
theorem map_congr_of_map_plain {α : Type} {f : Node → α} (hf : ∀ n, f n.plain = f n)
    {ns ns' : List Node} (h : ns.map plain = ns'.map plain) : ns.map f = ns'.map f := by
  have hplain (ns : List Node) : ns.map f = (ns.map plain).map f := by
    rw [List.map_map]
    exact List.map_congr_left fun n _ => (hf n).symm
  rw [hplain, h, ← hplain]

/-- The nodes of a plain tree are those of the tree. -/
theorem nodes_plain (n : Node) : n.plain.nodes = n.nodes.map plain := by
  induction n using Node.induct with
  | h n ih =>
    rw [nodes_eq n.plain, nodes_eq n, children_plain, List.flatMap_map, List.map_cons,
      List.map_flatMap]
    exact congrArg (n.plain :: ·) (List.flatMap_congr ih)

/-- A plain tree has the values of the tree. -/
theorem fields_plain (n : Node) : n.plain.fields = n.fields := by
  rw [fields, fields, nodes_plain, List.filterMap_map]
  refine List.filterMap_congr fun m _ => ?_
  rw [Function.comp_apply, ownField, ownField, plain_eq, Option.map_map]
  refine congrArg (Option.map · m.widget) (funext fun w => ?_)
  cases w <;> rfl

end Node

/-! ### Renderings without presentation -/

/-- Lists of renderings that are the same apart from presentation give the same plain parts, and the
same notices. -/
theorem of_map_plain_eq {α β : Type} {f : α → β} {l l' : List (α × List Notice)}
    (h : l.map (Prod.map f id) = l'.map (Prod.map f id)) :
    (l.map Prod.fst).map f = (l'.map Prod.fst).map f ∧
      l.flatMap Prod.snd = l'.flatMap Prod.snd := by
  have hfst (l : List (α × List Notice)) :
      (l.map Prod.fst).map f = (l.map (Prod.map f id)).map Prod.fst := by
    rw [List.map_map, List.map_map]
    rfl
  have hsnd (l : List (α × List Notice)) :
      l.flatMap Prod.snd = (l.map (Prod.map f id)).flatMap Prod.snd := by
    rw [List.flatMap_map]
    rfl
  exact ⟨by rw [hfst, h, ← hfst], by rw [hsnd, h, ← hsnd]⟩

namespace Renderer

variable (r : Renderer) (g' : Grammar) (inline : Bool)

/-- The renderer with another presentation: over another grammar, and on one line or not. -/
def dressed : Renderer :=
  { r with grammar := g', inline }

variable {r g' inline} (hg : r.grammar.Alike g') {symbol : String} {path : Path}
  {default? : Option DefaultValue}

include hg

theorem options_dressed (symbol : String) :
    (r.dressed g' inline).options symbol = r.options symbol := by
  rw [options, options, hg.alternatives_eq, hg.startSymbol_eq]
  rfl

/-- The same becomes of a symbol with another presentation. -/
theorem resolution_dressed : (r.dressed g' inline).resolution symbol path default? =
    r.resolution symbol path default? := by
  have hstart : (r.dressed g' inline).grammar.startSymbol symbol =
      r.grammar.startSymbol symbol := (hg.startSymbol_eq symbol).symm
  have hselection : (r.dressed g' inline).selection symbol path default? =
      r.selection symbol path default? := by
    rw [selection, selection, options_dressed hg]
    rfl
  rw [resolution, resolution, hstart, options_dressed hg, hselection]

omit hg in
/-- A choice is the same but for tooltips. -/
theorem plain_choiceAmong (start start' : String) (options : List Production)
    (selected : Option Nat) :
    ((r.dressed g' inline).choiceAmong start options selected).plain =
      (r.choiceAmong start' options selected).plain := by
  have hoffers : ((r.dressed g' inline).choiceOptions start options selected).map Offer.plain =
      (r.choiceOptions start' options selected).map Offer.plain := by
    refine List.ext_getElem (by simp only [choiceOptions, List.length_map, List.length_mapIdx])
      fun i hi hi' => ?_
    simp only [choiceOptions, List.getElem_map, List.getElem_mapIdx]
    rfl
  simp only [choiceAmong, Widget.plain, hoffers]

/-- A node with a selected alternative is the same but for presentation if its children are. -/
theorem plain_selectedNode (showLabel showLabel' : Bool) {i : Nat} {p : Production}
    {children children' : List Node}
    (hchildren : children'.map Node.plain = children.map Node.plain) :
    ((r.dressed g' inline).selectedNode symbol path showLabel' i p children').plain =
      (r.selectedNode symbol path showLabel i p children).plain := by
  have htexts := Node.map_congr_of_map_plain Node.text_plain hchildren
  have hvalid := Node.map_congr_of_map_plain Node.valid_plain hchildren
  have hall (ns : List Node) : ns.all (·.valid) = (ns.map (·.valid)).all id := by
    rw [List.all_map]
    rfl
  rw [Node.plain_eq, Node.plain_eq]
  simp only [selectedNode, options_dressed hg, Option.map_some, hchildren, htexts, hall, hvalid,
    plain_choiceAmong _ (r.grammar.startSymbol symbol)]
  rfl

/-- **A rendering with another presentation** is the same apart from it, with the same notices. -/
theorem plain_dressed (levels : Nat) :
    ∀ (symbol : String) (path : Path) (default? : Option DefaultValue)
      (showLabel showLabel' : Bool),
      ((r.dressed g' inline).renderLevels levels symbol path default? showLabel').map
          Node.plain id =
        (r.renderLevels levels symbol path default? showLabel).map Node.plain id := by
  induction levels with
  | zero => intro symbol path default? showLabel showLabel'; rfl
  | succ levels ih =>
    intro symbol path default? showLabel showLabel'
    rw [renderLevels_succ, renderLevels_succ, resolution_dressed hg]
    cases hres : r.resolution symbol path default? with
    | leaf | unknown => rfl
    | unresolved =>
      refine Prod.ext ?_ rfl
      simp only [Prod.map_fst, Node.plain_eq, openNode, unresolvedNode, options_dressed hg,
        Option.map_some, plain_choiceAmong _ (r.grammar.startSymbol symbol)]
      rfl
    | selected i p =>
      have hslots : ((r.dressed g' inline).slotNodes levels path p).map (Prod.map Node.plain id) =
          (r.slotNodes levels path p).map (Prod.map Node.plain id) := by
        refine List.ext_getElem (by simp only [List.length_map, slotNodes_length])
          fun j hj hj' => ?_
        have hdefault : (r.dressed g' inline).grammar.defaultOf = r.grammar.defaultOf :=
          (funext hg.defaultOf_eq).symm
        simp only [List.getElem_map, getElem_slotNodes, hdefault]
        exact ih _ _ _ _ _
      obtain ⟨hnodes, hnotices⟩ := of_map_plain_eq hslots
      exact Prod.ext (plain_selectedNode hg showLabel showLabel' hnodes) hnotices

end Renderer

/-! ### Commands and groups without presentation -/

/-- A command without explanation, not shown on one line. -/
def CommandForm.plain (c : CommandForm) : CommandForm :=
  { c with inline := false, explanation := "", root := c.root.plain }

/-- A group without explanations. -/
def GroupForm.plain (g : GroupForm) : GroupForm :=
  { g with
    explanation := ""
    instances := g.instances.map CommandForm.plain
    dependents := g.dependents.map CommandForm.plain }

/-- An item without presentation. -/
def FormItem.plain : FormItem → FormItem
  | .command c => .command c.plain
  | .group g => .group g.plain

/-- A command of a layout with another presentation. -/
def LayoutCommand.dressed (entry : LayoutCommand) (inline : Bool) (explanation : Option String) :
    LayoutCommand :=
  { entry with inline, explanation }

/-- A command that differs in presentation only has another presentation. -/
theorem LayoutCommand.exists_eq_dressed {entry entry' : LayoutCommand}
    (h : entry'.plain = entry.plain) :
    ∃ inline explanation, entry' = entry.dressed inline explanation := by
  refine ⟨entry'.inline, entry'.explanation, ?_⟩
  cases entry
  cases entry'
  cases h
  rfl

namespace RenderContext

/-- The context over another grammar. -/
def dressed (ctx : RenderContext) (g' : Grammar) : RenderContext :=
  { ctx with grammar := g' }

variable {ctx : RenderContext} {g' : Grammar} (hg : ctx.grammar.Alike g') (entry : LayoutCommand)
  (inline : Bool) (explanation : Option String) (path : Path)

include hg

/-- A command with another presentation. -/
theorem plain_command :
    ((ctx.dressed g').command (entry.dressed inline explanation) path).map CommandForm.plain id =
      (ctx.command entry path).map CommandForm.plain id := by
  have hdefault : (ctx.dressed g').entryDefault (entry.dressed inline explanation) =
      ctx.entryDefault entry := by
    rw [entryDefault, entryDefault, hg.defaultOf_eq]
    rfl
  have htree : ((ctx.dressed g').tree (entry.dressed inline explanation) path).map Node.plain id =
      (ctx.tree entry path).map Node.plain id := by
    rw [tree, tree, hdefault]
    exact Renderer.plain_dressed (r := ctx.renderer entry.name entry.inline) hg _ _ _ _ _ _
  obtain ⟨hroot, hnotices⟩ := Prod.ext_iff.mp htree
  have hline : ConfigLine.ofNode entry.name
      ((ctx.dressed g').tree (entry.dressed inline explanation) path).1 =
        ConfigLine.ofNode entry.name (ctx.tree entry path).1 := by
    have htext := congrArg Node.text hroot
    have hvalid := congrArg Node.valid hroot
    simp only [Prod.map_fst, Node.text_plain, Node.valid_plain] at htext hvalid
    rw [ConfigLine.ofNode, ConfigLine.ofNode, htext, hvalid]
  rw [command_eq, command_eq]
  refine Prod.ext ?_ hnotices
  simp only [Prod.map_fst] at hroot ⊢
  simp only [CommandForm.plain, formWith, hroot]
  exact congrArg (CommandForm.mk entry.name path false "" _) hline

/-- Instances with another presentation. -/
theorem plain_instances (n : Nat) :
    ((ctx.dressed g').instances (entry.dressed inline explanation) path n).map
        (Prod.map CommandForm.plain id) =
      (ctx.instances entry path n).map (Prod.map CommandForm.plain id) := by
  rw [instances, instances, List.map_map, List.map_map]
  exact List.map_congr_left fun i _ =>
    plain_command hg { entry with repeatLimit := none } inline explanation _

/-- Dependents with another presentation. -/
theorem plain_dependents (n : Nat) :
    ((ctx.dressed g').dependents (entry.dressed inline explanation) path n).map
        (Prod.map CommandForm.plain id) =
      (ctx.dependents entry path n).map (Prod.map CommandForm.plain id) := by
  by_cases hn : n = 0
  · simp only [dependents, hn, if_true]
  · have hnames : (entry.dressed inline explanation).dependents = entry.dependents := rfl
    simp only [dependents, hn, if_false, hnames]
    refine List.ext_getElem (by simp only [List.length_map, List.length_mapIdx]) fun i hi hi' => ?_
    simp only [List.getElem_map, List.getElem_mapIdx]
    exact plain_command hg { name := _, inline := true } true none _

/-- **A group with another presentation** has the same count, and the same commands apart from
presentation. -/
theorem plain_group :
    ((ctx.dressed g').group (entry.dressed inline explanation) path).map GroupForm.plain id =
      (ctx.group entry path).map GroupForm.plain id := by
  have hcount : (ctx.dressed g').instanceNumber (entry.dressed inline explanation) path =
      ctx.instanceNumber entry path := rfl
  obtain ⟨hinstances, hnotices⟩ := of_map_plain_eq
    (plain_instances hg entry inline explanation path (ctx.instanceNumber entry path))
  obtain ⟨hdependents, hnotices'⟩ := of_map_plain_eq
    (plain_dependents hg entry inline explanation path (ctx.instanceNumber entry path))
  rw [group_eq, group_eq, hcount]
  refine Prod.ext ?_ ?_
  · simp only [Prod.map_fst, GroupForm.plain, groupWith, hinstances, hdependents]
    rfl
  · simp only [Prod.map_snd, groupWith, List.flatMap_append, hnotices, hnotices']
    rfl

/-- **An item with another presentation** is the same apart from it. -/
theorem plain_item :
    ((ctx.dressed g').item (entry.dressed inline explanation) path).map FormItem.plain id =
      (ctx.item entry path).map FormItem.plain id := by
  by_cases hrepeated : entry.isRepeated = true
  · have hrepeated' : (entry.dressed inline explanation).isRepeated = true := hrepeated
    obtain ⟨hgroup, hnotices⟩ := Prod.ext_iff.mp (plain_group hg entry inline explanation path)
    rw [item_of_isRepeated _ hrepeated, item_of_isRepeated _ hrepeated']
    exact Prod.ext (congrArg FormItem.group hgroup) hnotices
  · have hrepeated' : ¬(entry.dressed inline explanation).isRepeated = true := hrepeated
    obtain ⟨hcommand, hnotices⟩ := Prod.ext_iff.mp (plain_command hg entry inline explanation path)
    rw [item_of_not_isRepeated _ hrepeated, item_of_not_isRepeated _ hrepeated']
    exact Prod.ext (congrArg FormItem.command hcommand) hnotices

/-- The items of a section with another presentation. -/
theorem plain_items (used : Nat) {entries entries' : List LayoutCommand}
    (h : entries'.map LayoutCommand.plain = entries.map LayoutCommand.plain) :
    ((ctx.dressed g').items used entries').map (Prod.map FormItem.plain id) =
      (ctx.items used entries).map (Prod.map FormItem.plain id) := by
  have hlength : entries'.length = entries.length := by
    simpa only [List.length_map] using congrArg List.length h
  refine List.ext_getElem (by simp only [items, List.length_map, List.length_mapIdx, hlength])
    fun i hi hi' => ?_
  simp only [items, List.getElem_map, List.getElem_mapIdx, List.length_map, List.length_mapIdx]
    at hi hi' ⊢
  have hentry : entries'[i].plain = entries[i].plain := by
    have hi'' := List.getElem_of_eq h (by rwa [List.length_map])
    simpa only [List.getElem_map] using hi''
  obtain ⟨inline, explanation, heq⟩ := LayoutCommand.exists_eq_dressed hentry
  rw [heq]
  exact plain_item hg _ inline explanation _

end RenderContext

/-! ### Documents without presentation -/

/-- A section without a title. -/
def FormSection.plain (s : FormSection) : FormSection :=
  { title := "", items := s.items.map FormItem.plain }

/-- A document without titles, explanations, tooltips and labels. -/
def Document.plain (d : Document) : Document :=
  { title := "", sections := d.sections.map FormSection.plain }

theorem FormItem.commands_plain (item : FormItem) :
    item.plain.commands = item.commands.map CommandForm.plain := by
  cases item with
  | command c => rfl
  | group g => exact List.map_append.symm

theorem FormItem.lines_plain (item : FormItem) : item.plain.lines = item.lines := by
  rw [lines, commands_plain, List.map_map]
  rfl

theorem FormItem.fields_plain (item : FormItem) : item.plain.fields = item.fields := by
  have hcommand (c : CommandForm) : c.plain.fields = c.fields := c.root.fields_plain
  cases item with
  | command c => exact hcommand c
  | group g =>
    have hcommands : g.plain.commands = g.commands.map CommandForm.plain := List.map_append.symm
    simp only [plain, fields, GroupForm.fields, hcommands, List.flatMap_map, hcommand]
    rfl

namespace Document

variable (d : Document)

theorem items_plain : d.plain.items = d.items.map FormItem.plain := by
  rw [items, items, plain, List.flatMap_map, List.map_flatMap]
  rfl

/-- A plain document has the lines of the document. -/
theorem lines_plain : d.plain.lines = d.lines := by
  rw [lines_eq_flatMap_items, lines_eq_flatMap_items, items_plain, List.flatMap_map]
  exact List.flatMap_congr fun item _ => item.lines_plain

/-- A plain document has the form state of the document. -/
theorem formState_plain : d.plain.formState = d.formState := by
  rw [formState, formState, fields, fields, items_plain, List.flatMap_map]
  exact congrArg Entries.distinct (List.flatMap_congr fun item _ => item.fields_plain)

/-- A plain document has the groups of the document, without explanations. -/
theorem groups_plain : d.plain.groups = d.groups.map GroupForm.plain := by
  rw [groups, groups, items_plain, List.flatMap_map, List.map_flatMap]
  refine List.flatMap_congr fun item _ => ?_
  cases item <;> rfl

/-- A plain document has the nodes of the document, without presentation. -/
theorem nodes_plain : d.plain.nodes = d.nodes.map Node.plain := by
  have hcommands : d.plain.commands = d.commands.map CommandForm.plain := by
    rw [commands, commands, items_plain, List.flatMap_map, List.map_flatMap]
    exact List.flatMap_congr fun item _ => item.commands_plain
  rw [nodes, nodes, hcommands, List.flatMap_map, List.map_flatMap]
  exact List.flatMap_congr fun c _ => c.root.nodes_plain

end Document

namespace Assembler

variable {a a' : Assembler}

/-- Sections with another presentation. -/
theorem plain_renderSections (hoptions : a'.options = a.options) (digest : String → String)
    (state : FormState)
    {pairs pairs' : List (LayoutSection × Grammar)} (h : List.Forall₂ SectionsAlike pairs pairs') :
    ∀ used : Nat,
      (a'.renderSections digest state used pairs').map (Prod.map FormSection.plain id) =
        (a.renderSections digest state used pairs).map (Prod.map FormSection.plain id) := by
  induction h with
  | nil => exact fun _ => rfl
  | @cons p p' rest rest' hp _ ih =>
    intro used
    obtain ⟨s, g⟩ := p
    obtain ⟨s', g'⟩ := p'
    obtain ⟨hs, hg⟩ := hp
    have hcommands : s'.commands.map LayoutCommand.plain = s.commands.map LayoutCommand.plain :=
      congrArg LayoutSection.commands hs.symm
    have hlength : s'.commands.length = s.commands.length := by
      simpa only [List.length_map] using congrArg List.length hcommands
    have hcontext : a'.context digest g' state = (a.context digest g state).dressed g' := by
      rw [context, hoptions]
      rfl
    have hplain : (((a.context digest g state).dressed g').items used s'.commands).map
        (Prod.map FormItem.plain id) =
        ((a.context digest g state).items used s.commands).map (Prod.map FormItem.plain id) :=
      RenderContext.plain_items hg used hcommands
    obtain ⟨hitems, hnotices⟩ := of_map_plain_eq hplain
    rw [renderSections, renderSections, List.map_cons, List.map_cons, hlength, ih, hcontext]
    congr 1
    refine Prod.ext ?_ hnotices
    exact congrArg (FormSection.mk "") hitems

/-- **Presentation never reaches the configuration.**  Two catalogues that differ only in titles,
explanations and in what is shown on one line are made ready with the same options.  If a document
is assembled from the first one for some state, and the title of the second form is a text, then a
document is assembled from the second one as well, with the same notices.  The two documents are the
same apart from titles, explanations, tooltips, labels and what is shown on one line; in particular
they have the same lines, the same form state and the same counts. -/
theorem plain_assemble {c c' : Catalogue} (hc : c.Alike c') {options : FormOptions}
    {loaded loaded' : List Notice} (ha : ofCatalogue c options = .ok (a, loaded))
    (ha' : ofCatalogue c' options = .ok (a', loaded')) {title' : String}
    (htitle : a'.title = .ok title') {digest : String → String} {state : FormState} {d : Document}
    {notices : List Notice}
    (h : a.assemble digest state = .ok (d, notices)) :
    ∃ d', a'.assemble digest state = .ok (d', notices) ∧ d'.plain = d.plain ∧
      d'.lines = d.lines ∧ d'.text = d.text ∧ d'.formState = d.formState ∧
      d'.groups.map (·.count) = d.groups.map (·.count) ∧
      d'.nodes.map Node.plain = d.nodes.map Node.plain := by
  obtain ⟨hcatalogue, hgrammars⟩ := sectionGrammars_of_ofCatalogue ha
  obtain ⟨hcatalogue', hgrammars'⟩ := sectionGrammars_of_ofCatalogue ha'
  have hoptions : a'.options = a.options :=
    (options_of_ofCatalogue ha').trans (options_of_ofCatalogue ha).symm
  have hpairs := Catalogue.forall₂_sectionsAlike hc.grammar hc.sections hgrammars hgrammars'
  rw [← hcatalogue, ← hcatalogue'] at hpairs
  have hforms := plain_renderSections hoptions digest state hpairs 0
  obtain ⟨hsections, hnotices⟩ := of_map_plain_eq hforms
  obtain ⟨-, hd, rfl⟩ := (assemble_eq_ok_iff ..).mp h
  let d' : Document := ⟨title', (a'.sectionForms digest state).map Prod.fst⟩
  have hplain : d'.plain = d.plain := by
    rw [Document.plain, Document.plain, hd]
    exact congrArg (Document.mk "") hsections
  have hlines : d'.lines = d.lines := by
    rw [← d'.lines_plain, hplain, d.lines_plain]
  have hassembled : a'.assemble digest state = .ok (d', _) :=
    (assemble_eq_ok_iff ..).mpr ⟨htitle, rfl, rfl⟩
  refine ⟨d', ?_, hplain, hlines, ?_, ?_, ?_, ?_⟩
  · rw [hassembled, Document.invalidLines, Document.invalidLines, hlines]
    exact congrArg (fun notices => Except.ok (d', notices ++ _)) hnotices
  · rw [Document.text, Document.text, hlines]
  · rw [← d'.formState_plain, hplain, d.formState_plain]
  · have hcount (d : Document) : d.groups.map (·.count) = d.plain.groups.map (·.count) := by
      rw [d.groups_plain, List.map_map]
      rfl
    rw [hcount, hplain, ← hcount]
  · rw [← d'.nodes_plain, hplain, d.nodes_plain]

/-- The grammar of sums with explanations. -/
def explainedGrammar : Grammar where
  records :=
    [{ name := "total", aliasOf := some "<sum>", explanation := "A total.",
       repeatExplanation := "Any number of totals." },
      { name := "<sum>", productions := [["<integer value>"], ["<sum>", "plus", "<sum>"]],
        explanation := "A sum.", alternatives := [("<sum> plus <sum>", "An addition.")] },
      { name := "digits", aliasOf := some "<positive integer value>" }]
  faultless := by decide

/-- The form for sums with explanations, and with its commands on one line. -/
def explainedSums : Assembler where
  catalogue :=
    { name := .string "explained"
      title := .string "Explained sums"
      description := .string "Sums with explanations."
      grammar := explainedGrammar
      sections :=
        [{ title := "All sums"
           commands :=
            [{ name := "total", inline := true, repeatLimit := some (-1), dependents := ["digits"],
               explanation := some "A sum in full." }] }]
      source := none }
  options := {}
  grammars := [explainedGrammar]

theorem plain_assemble_explainedSums : ∃ d notices d',
    sumForm.catalogue.Alike explainedSums.catalogue ∧
    ofCatalogue sumForm.catalogue {} = .ok (sumForm, []) ∧
    ofCatalogue explainedSums.catalogue {} = .ok (explainedSums, []) ∧
    explainedSums.title = .ok "Explained sums" ∧
    sumForm.assemble blankDigest blankSums = .ok (d, notices) ∧
    explainedSums.assemble blankDigest blankSums = .ok (d', notices) ∧
    d'.plain = d.plain ∧ d'.lines = d.lines ∧
    d.nodes.map (·.tooltip) = ["", "", "", "", ""] ∧
    d'.nodes.map (·.tooltip) = ["A total.", "A sum.", "A sum.", "A total.", ""] := by
  have halike : sumForm.catalogue.Alike explainedSums.catalogue := ⟨rfl, rfl⟩
  have hready : ofCatalogue sumForm.catalogue {} = .ok (sumForm, []) := rfl
  have hready' : ofCatalogue explainedSums.catalogue {} = .ok (explainedSums, []) := rfl
  have htitle : explainedSums.title = .ok "Explained sums" := rfl
  have h : sumForm.assemble blankDigest blankSums = .ok (_, _) := rfl
  obtain ⟨d', h', hplain, hlines, -⟩ := plain_assemble halike hready hready' htitle h
  refine ⟨_, _, d', halike, hready, hready', htitle, h, h', hplain, hlines, by decide, ?_⟩
  cases h'
  decide

end Assembler

end GrammarForm
