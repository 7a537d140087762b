import GrammarForm.Proofs.Overlay
import GrammarForm.Proofs.SavedState

/-!
# What sections offer

A section of a layout may list further alternatives for a symbol, for itself and all later
sections.  A choice offers the alternatives of the symbol at the end of its chain of aliases.  So an
alternative that is listed for a symbol is offered if the symbol stands for itself, by every choice
for it or for one of its aliases.  An alternative that is listed for an alias is not offered, nor is
one that is listed for a placeholder: such an extension changes no rendering at all.

The grammars of the sections grow from one to the next.  Aliases stay, and the alternatives come to
be exactly those that the sections list, so what a choice offers follows from how one extension
grows a grammar.

## Main definitions

* `Grammar.Grows` : a grammar has the aliases of another one, and its alternatives with some more.
* `Catalogue.Lists` : an alternative is listed for a symbol up to a section.
* `FormSection.nodes` : the nodes of a section.

## Main results

* `Renderer.renderLevels_withGrammar_of_hides` : extensions that change no rendering.
* `Catalogue.grows_of_overlay` : the grammar of a section.
* `Assembler.exists_offered` : what the choices of a section offer.
-/

namespace GrammarForm

/-! ### Extensions without effect -/

namespace Renderer

section Hidden

variable {r : Renderer} {g' : Grammar} {added : String} {productions : List (List String)}
  (h : r.grammar.IsExtension added productions g') (hhidden : r.grammar.Hides added)

include h hhidden

/-- An extension of an alias or a placeholder does not change what is offered. -/
theorem options_withGrammar_of_hides (symbol : String) :
    (r.withGrammar g').options symbol = r.options symbol := by
  rw [options_withGrammar h, options]
  cases hleaf : ValueKind.ofPlaceholder? (r.grammar.startSymbol symbol) with
  | some kind =>
    rw [Grammar.alternatives, Grammar.alternatives, hleaf]
    rfl
  | none =>
    obtain ⟨more, hmore, hadded⟩ := h.exists_alternatives_eq
      (Grammar.roleOf_ne_terminal_of_hides hhidden) (r.grammar.startSymbol symbol)
    have hnil : more = [] := by_contra fun hne =>
      Grammar.not_hides_startSymbol hleaf (hadded hne ▸ hhidden)
    rw [hmore, hnil, List.append_nil]

/-- **An extension of an alias or a placeholder changes no rendering.** -/
theorem renderLevels_withGrammar_of_hides (levels : Nat) :
    ∀ (symbol : String) (path : Path) (default? : Option DefaultValue) (showLabel : Bool),
      (r.withGrammar g').renderLevels levels symbol path default? showLabel =
        r.renderLevels levels symbol path default? showLabel := by
  have hstart : (r.withGrammar g').grammar.startSymbol = r.grammar.startSymbol :=
    funext h.startSymbol_eq
  have htooltip : (r.withGrammar g').grammar.explanation = r.grammar.explanation :=
    funext h.explanation_eq
  have hdefault : (r.withGrammar g').grammar.defaultOf = r.grammar.defaultOf :=
    funext h.defaultOf_eq
  have hoptions : (r.withGrammar g').options = r.options :=
    funext (options_withGrammar_of_hides h hhidden)
  -- All that a level looks up is the same, and the slots are one level further down.
  induction levels with
  | zero =>
    intro symbol path default? showLabel
    simp only [renderLevels_zero, deepNode, unresolvedNode, htooltip]
    rfl
  | succ levels ih =>
    intro symbol path default? showLabel
    have hselection : (r.withGrammar g').selection symbol path default? =
        r.selection symbol path default? := by
      rw [selection, selection, hoptions]
      rfl
    have hresolution : (r.withGrammar g').resolution symbol path default? =
        r.resolution symbol path default? := by
      rw [resolution, resolution, hstart, hoptions, hselection]
    have hslots (p : Production) :
        (r.withGrammar g').slotNodes levels path p = r.slotNodes levels path p := by
      rw [slotNodes, slotNodes, hdefault]
      simp only [ih]
      rfl
    rw [renderLevels_succ, renderLevels_succ, hresolution]
    cases r.resolution symbol path default? with
    | leaf kind =>
      simp only [leafNode, htooltip]
      rfl
    | unknown =>
      simp only [unknownNode, unresolvedNode, htooltip]
      rfl
    | unresolved =>
      simp only [openNode, unresolvedNode, htooltip, hstart, hoptions, choiceAmong_withGrammar h]
      rfl
    | selected i p =>
      simp only [selectedNode, htooltip, hstart, hoptions, choiceAmong_withGrammar h, hslots]
      rfl

end Hidden

end Renderer

/-! ### Grammars that grow -/

/-- A grammar has the aliases of another one, and its alternatives together with some further
ones. -/
structure Grammar.Grows (g g' : Grammar) (Added : String → List String → Prop) : Prop where
  startSymbol_eq : ∀ name, g'.startSymbol name = g.startSymbol name
  mem_alternatives_iff : ∀ name names, ValueKind.ofPlaceholder? name = none →
    (names ∈ (g'.alternatives name).map (·.names) ↔
      names ∈ (g.alternatives name).map (·.names) ∨ Added name names)

namespace Grammar

variable {g g₁ g₂ : Grammar}

theorem grows_refl (g : Grammar) : g.Grows g fun _ _ => False where
  startSymbol_eq _ := rfl
  mem_alternatives_iff _ _ _ := (or_iff_left not_false).symm

theorem Grows.trans {Added Added' : String → List String → Prop} (h : g.Grows g₁ Added)
    (h' : g₁.Grows g₂ Added') :
    g.Grows g₂ fun name names => Added name names ∨ Added' name names where
  startSymbol_eq name := (h'.startSymbol_eq name).trans (h.startSymbol_eq name)
  mem_alternatives_iff name names hname := by
    rw [h'.mem_alternatives_iff name names hname, h.mem_alternatives_iff name names hname, or_assoc]

theorem Grows.congr {Added Added' : String → List String → Prop} (h : g.Grows g₁ Added)
    (hiff : ∀ name names, Added name names ↔ Added' name names) : g.Grows g₁ Added' where
  startSymbol_eq := h.startSymbol_eq
  mem_alternatives_iff name names hname :=
    (h.mem_alternatives_iff name names hname).trans (or_congr_right (hiff name names))

/-- An extension adds its productions to its symbol. -/
theorem IsExtension.grows {symbol : String} {productions : List (List String)}
    (h : g.IsExtension symbol productions g₁) :
    g.Grows g₁ fun name names => name = symbol ∧ names ∈ productions where
  startSymbol_eq := h.startSymbol_eq
  mem_alternatives_iff name names hname := by
    rw [h.mem_names_alternatives_iff]
    simp only [hname, true_and]

end Grammar

namespace LayoutSection

/-- A section lists an alternative for a symbol. -/
def Lists (s : LayoutSection) (name : String) (names : List String) : Prop :=
  ∃ productions, (name, productions) ∈ s.extensions ∧ names ∈ productions

end LayoutSection

namespace Catalogue

/-- The extensions of a section add what they list. -/
theorem grows_of_extendAll {extensions : Entries (List (List String))} :
    ∀ {g g' : Grammar} {notices : List Notice}, extendAll g extensions = .ok (g', notices) →
      g.Grows g' fun name names => ∃ productions, (name, productions) ∈ extensions ∧
        names ∈ productions := by
  induction extensions with
  | nil =>
    intro g g' notices h
    cases h
    exact g.grows_refl.congr fun _ _ => by simp
  | cons e rest ih =>
    intro g g' notices h
    obtain ⟨g₁, after, hextension, hrest⟩ := exists_of_extendAll_cons h
    refine (hextension.grows.trans (ih hrest)).congr fun name names => ?_
    constructor
    · rintro (⟨rfl, hnames⟩ | ⟨productions, hmem, hnames⟩)
      · exact ⟨e.2, List.mem_cons_self .., hnames⟩
      · exact ⟨productions, List.mem_cons_of_mem _ hmem, hnames⟩
    · rintro ⟨productions, hmem, hnames⟩
      rcases List.mem_cons.mp hmem with rfl | hmem
      · exact Or.inl ⟨rfl, hnames⟩
      · exact Or.inr ⟨productions, hmem, hnames⟩

/-- **The grammar of a section** has what this section and all earlier ones list. -/
theorem grows_of_overlay {sections : List LayoutSection} :
    ∀ {g g' : Grammar} {grammars : List Grammar} {notices : List Notice} {l : Nat},
      overlay g sections = .ok (grammars, notices) → grammars[l]? = some g' →
      g.Grows g' fun name names => ∃ s ∈ sections.take (l + 1), s.Lists name names := by
  induction sections with
  | nil =>
    intro g g' grammars notices l h hl
    cases h
    cases hl
  | cons s rest ih =>
    intro g g' grammars notices l h hl
    obtain ⟨current, before, later, after, hcurrent, hrest, rfl⟩ := exists_of_overlay_cons h
    have hgrows : g.Grows current s.Lists := grows_of_extendAll hcurrent
    cases l with
    | zero =>
      cases hl
      exact hgrows.congr fun _ _ => by simp
    | succ l => exact (hgrows.trans (ih hrest hl)).congr fun _ _ => by simp

end Catalogue

/-! ### The choices of a section -/

/-- An alternative is listed for a symbol up to a section: by the grammar of the catalogue, or by an
extension of that section or an earlier one. -/
def Catalogue.Lists (c : Catalogue) (l : Nat) (symbol : String) (names : List String) : Prop :=
  names ∈ (c.grammar.alternatives symbol).map (·.names) ∨
    ∃ s ∈ c.sections.take (l + 1), s.Lists symbol names

/-- The nodes of a section. -/
def FormSection.nodes (f : FormSection) : List Node :=
  f.items.flatMap fun item => item.commands.flatMap (·.root.nodes)

/-- The labels of a choice are those of the alternatives of its symbol. -/
theorem Renderer.labels_of_widget_eq_choice {r : Renderer} {levels : Nat} {symbol : String}
    {path : Path} {default? : Option DefaultValue} {showLabel : Bool} {offers : List Offer}
    {selected : Option Nat} {tip : String} {off : Bool}
    (h : (r.renderLevels levels symbol path default? showLabel).1.widget =
      some (.choice offers selected tip off)) :
    offers.map (·.label) = ((r.options symbol).map (·.names)).map joinedNames := by
  rw [(Widget.choice.inj (eq_choiceAmong_of_widget h).2.1).1, choiceOptions, List.map_map]
  refine List.ext_getElem (by simp) fun i hi hi' => ?_
  simp only [List.getElem_map, List.getElem_mapIdx]
  rfl

namespace Assembler

variable {a : Assembler} {digest : String → String} {state : FormState}

/-- The items of a section are rendered with the grammar of the section. -/
theorem getElem?_renderSections {pairs : List (LayoutSection × Grammar)} :
    ∀ {used l : Nat} {rendered : FormSection × List Notice},
      (a.renderSections digest state used pairs)[l]? = some rendered →
      ∃ p, pairs[l]? = some p ∧ ∀ item ∈ rendered.1.items,
        ∃ entry path, item = ((a.context digest p.2 state).item entry path).1 := by
  induction pairs with
  | nil => exact nofun
  | cons p rest ih =>
    intro used l rendered h
    obtain ⟨s, g⟩ := p
    cases l with
    | zero =>
      cases h
      refine ⟨(s, g), rfl, fun item hitem => ?_⟩
      obtain ⟨x, hx, rfl⟩ := List.mem_map.mp hitem
      obtain ⟨i, hi, rfl⟩ := List.mem_mapIdx.mp hx
      exact ⟨_, _, rfl⟩
    | succ l => exact ih h

/-- Every node of a section is rendered with the grammar of the section. -/
theorem exists_renderLevels_of_mem_section {d : Document} {notices : List Notice}
    (h : a.assemble digest state = .ok (d, notices)) {l : Nat} {f : FormSection}
    (hf : d.sections[l]? = some f) {m : Node} (hm : m ∈ f.nodes) :
    ∃ r : Renderer, a.grammars[l]? = some r.grammar ∧ ∃ levels path default? showLabel,
      m = (r.renderLevels levels m.symbol path default? showLabel).1 := by
  rw [((a.assemble_eq_ok_iff digest).mp h).2.1, List.getElem?_map, Option.map_eq_some_iff] at hf
  obtain ⟨rendered, hrendered, rfl⟩ := hf
  obtain ⟨p, hp, hitems⟩ := getElem?_renderSections hrendered
  obtain ⟨item, hitem, hm⟩ := List.mem_flatMap.mp hm
  obtain ⟨c, hc, hm⟩ := List.mem_flatMap.mp hm
  obtain ⟨entry, path, rfl⟩ := hitems item hitem
  obtain ⟨entry', path', rfl⟩ := RenderContext.exists_command_of_item hc
  obtain ⟨levels, default?, showLabel, heq⟩ :=
    Renderer.exists_renderLevels_of_mem_nodes _ _ _ _ _ _ hm
  have hgrammar : a.grammars[l]? = some p.2 := (List.getElem?_zip_eq_some.mp hp).2
  exact ⟨_, hgrammar, levels, m.path, default?, showLabel, heq⟩

/-- **What the choices of a section offer.** An accepted catalogue can be made ready, and in all its
documents a choice of a section offers, by their names, exactly the alternatives that are listed up
to that section for the end of the chain of aliases of its symbol.  If the symbol is no alias, these
are the alternatives that are listed for the symbol itself. -/
theorem exists_offered {data : Data} {source : Option FilePath} {c : Catalogue}
    (h : Catalogue.ofData data source = .ok c) (options : FormOptions) :
    ∃ a notices, ofCatalogue c options = .ok (a, notices) ∧
      ∀ digest state d notices', a.assemble digest state = .ok (d, notices') →
      ∀ l f, d.sections[l]? = some f → ∀ m ∈ f.nodes, ∀ offers selected tip off,
        m.widget = some (.choice offers selected tip off) →
        ∃ alternatives : List (List String), offers.map (·.label) = alternatives.map joinedNames ∧
          (∀ names, names ∈ alternatives ↔ c.Lists l (c.grammar.startSymbol m.symbol) names) ∧
          (aliasTarget? c.grammar.records m.symbol = none →
            ∀ names, names ∈ alternatives ↔ c.Lists l m.symbol names) := by
  obtain ⟨a, notices, ha, -⟩ := exists_ofCatalogue (Catalogue.layoutFault?_of_ofData h) options
  obtain ⟨-, hgrammars⟩ := sectionGrammars_of_ofCatalogue ha
  refine ⟨a, notices, ha, fun digest state d notices' hd l f hf m hm offers selected tip off => ?_⟩
  obtain ⟨r, hg, levels, path, default?, showLabel, heq⟩ :=
    exists_renderLevels_of_mem_section hd hf hm
  intro hw
  rw [heq] at hw
  obtain ⟨hleaf, -⟩ := Renderer.eq_choiceAmong_of_widget hw
  have hgrows := Catalogue.grows_of_overlay hgrammars hg
  rw [hgrows.startSymbol_eq] at hleaf
  have halternatives (names : List String) : names ∈ (r.options m.symbol).map (·.names) ↔
      c.Lists l (c.grammar.startSymbol m.symbol) names := by
    rw [Renderer.options, hgrows.startSymbol_eq]
    exact hgrows.mem_alternatives_iff _ names hleaf
  refine ⟨_, Renderer.labels_of_widget_eq_choice hw, halternatives, fun halias names => ?_⟩
  rw [halternatives, c.grammar.startSymbol_of_aliasTarget?_eq_none halias]

/-- A catalogue with a tool of two kinds.  Its section lists a third one for the tool, which is an
alias. -/
def toolData : Data :=
  .table
    [("catalogue", .table [("title", .string "Tools")]),
      ("symbols", .table
        [("tool", .table [("alias", .string "<kind>")]),
          ("<kind>", .table
            [("productions", .array [.array [.string "a"], .array [.string "b"]])])]),
      ("sections", .array
        [.table
          [("title", .string "Main"),
            ("commands", .array [.table [("name", .string "tool")]]),
            ("extend_productions", .table [("tool", .array [.array [.string "c"]])])]])]

/-- The form of this catalogue. -/
def toolForm : Assembler where
  catalogue :=
    { name := .string "catalogue"
      title := .string "Tools"
      description := .string ""
      grammar :=
        { records :=
            [{ name := "tool", aliasOf := some "<kind>" },
              { name := "<kind>", productions := [["a"], ["b"]] }]
          faultless := by decide }
      sections :=
        [{ title := "Main"
           commands := [{ name := "tool" }]
           extensions := [("tool", [["c"]])] }]
      source := none }
  options := {}
  grammars :=
    [{ records :=
         [{ name := "tool", aliasOf := some "<kind>", productions := [["c"]] },
           { name := "<kind>", productions := [["a"], ["b"]] }]
       faultless := by decide }]

theorem exists_offered_tool : ∃ d notices f m offers selected tip off,
    ∃ alternatives : List (List String),
    Catalogue.ofData toolData none = .ok toolForm.catalogue ∧
    toolForm.assemble blankDigest [] = .ok (d, notices) ∧ d.sections[0]? = some f ∧
    m ∈ f.nodes ∧ m.symbol = "tool" ∧ m.widget = some (.choice offers selected tip off) ∧
    offers.map (·.label) = alternatives.map joinedNames ∧ ["a"] ∈ alternatives ∧
    toolForm.catalogue.Lists 0 "tool" ["c"] ∧ ["c"] ∉ alternatives := by
  have hdata : Catalogue.ofData toolData none = .ok toolForm.catalogue := rfl
  have hready : ofCatalogue toolForm.catalogue {} = .ok (toolForm, []) := rfl
  have hd : toolForm.assemble blankDigest [] = .ok (_, _) := rfl
  obtain ⟨a, _, ha, hoffered⟩ := exists_offered hdata {}
  cases hready.symm.trans ha
  obtain ⟨alternatives, hlabels, hlists, -⟩ :=
    hoffered _ _ _ _ hd 0 _ rfl _ (List.mem_cons_self ..) _ _ _ _ rfl
  have hc : ¬toolForm.catalogue.Lists 0 "<kind>" ["c"] := by
    rintro (h | ⟨s, hs, productions, hmem, -⟩)
    · exact absurd h (by decide)
    · cases List.mem_singleton.mp hs
      have hname : "<kind>" = "tool" := congrArg Prod.fst (List.mem_singleton.mp hmem)
      exact absurd hname (by decide)
  refine ⟨_, _, _, _, _, _, _, _, alternatives, hdata, hd, rfl, List.mem_cons_self .., rfl, rfl,
    hlabels, (hlists _).mpr (Or.inl (by decide)), Or.inr ?_, fun h => hc ((hlists _).mp h)⟩
  exact ⟨_, List.mem_cons_self .., _, List.mem_cons_self .., List.mem_cons_self ..⟩

end Assembler

end GrammarForm
