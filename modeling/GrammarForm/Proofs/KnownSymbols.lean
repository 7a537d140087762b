import GrammarForm.Proofs.Offers
import GrammarForm.Proofs.Tokens

/-!
# Forms without unknown symbols

A symbol is unknown if its chain of aliases ends neither at a kind of value nor at a record with an
alternative.  The names in the slots of alternatives are no keywords, so they are kinds of values,
have alternatives of their own, or are aliases.  Hence nothing is unknown in a form if the aliases
of the catalogue and the commands of its layout are known.

Such a catalogue is closed.  The extensions of its sections keep what is known, since chains of
aliases stay and alternatives only get more; and a keyword that an extension gives alternatives,
and that is rendered from then on, is known by them.

## Main definitions

* `Grammar.IsKnown` : the chain of aliases of a name ends at a kind of value or an alternative.
* `Catalogue.IsClosed` : the aliases and the commands of a catalogue are known.

## Main results

* `Renderer.issue_eq_unknownSymbol_iff` : which nodes are unknown.
* `Grammar.Grows.isKnown_of_roleOf_ne_terminal` : in the grammar of a section of a closed catalogue
  every name that is no keyword is known.
* `Assembler.issue_ne_unknownSymbol` : the forms of closed catalogues have no unknown symbols.
-/

namespace GrammarForm

/-! ### Known names -/

namespace Grammar

/-- The chain of aliases of a name ends at a kind of value or at a record with an alternative. -/
def IsKnown (g : Grammar) (name : String) : Prop :=
  (ValueKind.ofPlaceholder? (g.startSymbol name)).isSome = true ∨
    ∃ r ∈ g.record? (g.startSymbol name), r.productions ≠ []

instance (g : Grammar) (name : String) : Decidable (g.IsKnown name) :=
  inferInstanceAs (Decidable (_ ∨ _))

variable {g g' : Grammar} {name : String} {Added : String → List String → Prop}

theorem isKnown_of_ofPlaceholder? {kind : ValueKind}
    (h : ValueKind.ofPlaceholder? (g.startSymbol name) = some kind) : g.IsKnown name :=
  Or.inl (h ▸ rfl)

/-- A name that does not lead to a kind of value is known exactly if it leads to alternatives. -/
theorem isKnown_iff_alternatives_ne_nil
    (h : ValueKind.ofPlaceholder? (g.startSymbol name) = none) :
    g.IsKnown name ↔ g.alternatives (g.startSymbol name) ≠ [] := by
  rw [IsKnown, alternatives, h]
  cases g.record? (g.startSymbol name) <;> simp

/-- What is known stays known in a grammar with more alternatives. -/
theorem Grows.isKnown (h : g.Grows g' Added) (hknown : g.IsKnown name) : g'.IsKnown name := by
  cases hleaf : ValueKind.ofPlaceholder? (g.startSymbol name) with
  | some kind => exact isKnown_of_ofPlaceholder? (h.startSymbol_eq name ▸ hleaf)
  | none =>
    rw [isKnown_iff_alternatives_ne_nil hleaf] at hknown
    rw [isKnown_iff_alternatives_ne_nil (h.startSymbol_eq name ▸ hleaf), h.startSymbol_eq]
    obtain ⟨p, hp⟩ := List.exists_mem_of_ne_nil _ hknown
    have hp' : p.names ∈ (g'.alternatives (g.startSymbol name)).map (·.names) :=
      (h.mem_alternatives_iff _ _ hleaf).mpr (Or.inl (List.mem_map_of_mem hp))
    obtain ⟨p', hp', -⟩ := List.mem_map.mp hp'
    exact List.ne_nil_of_mem hp'

/-- **What is no keyword is known**, in a grammar with more alternatives than one whose aliases are
known: a name without an alias that is no keyword has alternatives of its own. -/
theorem Grows.isKnown_of_roleOf_ne_terminal (h : g.Grows g' Added)
    (haliases : ∀ r ∈ g.records, r.aliasOf ≠ none → g.IsKnown r.name)
    (hrole : g'.roleOf name ≠ .terminal) : g'.IsKnown name := by
  by_cases halias : aliasTarget? g.records name = none
  · have hstart : g'.startSymbol name = name :=
      (h.startSymbol_eq name).trans (g.startSymbol_of_aliasTarget?_eq_none halias)
    cases hleaf : ValueKind.ofPlaceholder? name with
    | some kind => exact isKnown_of_ofPlaceholder? (hstart.symm ▸ hleaf)
    | none =>
      rw [isKnown_iff_alternatives_ne_nil (hstart.symm ▸ hleaf), hstart]
      exact alternatives_ne_nil hrole hleaf (hstart ▸ g'.aliasTarget?_startSymbol name)
  · obtain ⟨next, hnext⟩ := Option.ne_none_iff_exists'.mp halias
    obtain ⟨r, hr, hown⟩ := Option.bind_eq_some_iff.mp hnext
    obtain ⟨hmem, rfl⟩ := name_of_recordOf? hr
    exact h.isKnown (haliases r hmem (hown ▸ Option.some_ne_none next))

end Grammar

/-! ### Unknown nodes -/

namespace Renderer

/-- **A node is unknown** exactly if its symbol is, unless the symbol is nested too deeply to be
looked at. -/
theorem issue_eq_unknownSymbol_iff (r : Renderer) (levels : Nat) (symbol : String) (path : Path)
    (default? : Option DefaultValue) (showLabel : Bool) :
    (r.renderLevels levels symbol path default? showLabel).1.issue = some .unknownSymbol ↔
      levels ≠ 0 ∧ ¬r.grammar.IsKnown symbol := by
  cases levels with
  | zero => simp [renderLevels_zero, deepNode, unresolvedNode]
  | succ levels =>
    rw [renderLevels_succ]
    cases hres : r.resolution symbol path default? with
    | leaf kind =>
      have hknown := Grammar.isKnown_of_ofPlaceholder? (resolution_eq_leaf_iff.mp hres)
      simp [leafNode, hknown]
    | unknown =>
      obtain ⟨hleaf, hnil⟩ := resolution_eq_unknown_iff.mp hres
      simp [unknownNode, unresolvedNode, Grammar.isKnown_iff_alternatives_ne_nil hleaf,
        show r.grammar.alternatives _ = [] from hnil]
    | unresolved =>
      obtain ⟨hleaf, hne, -⟩ := resolution_eq_unresolved_iff.mp hres
      have hknown := (Grammar.isKnown_iff_alternatives_ne_nil hleaf).mpr hne
      simp [openNode, unresolvedNode, hknown]
    | selected i p =>
      obtain ⟨hleaf, -, hp⟩ := resolution_eq_selected_iff.mp hres
      have hknown := (Grammar.isKnown_iff_alternatives_ne_nil hleaf).mpr
        (List.ne_nil_of_mem (List.mem_of_getElem? hp))
      simp [selectedNode, hknown]

/-- Nothing is unknown below a known symbol if all is known that is no keyword. -/
theorem issue_ne_unknownSymbol_of_mem_nodes {r : Renderer}
    (hg : ∀ name, r.grammar.roleOf name ≠ .terminal → r.grammar.IsKnown name) {levels : Nat}
    {symbol : String} (hsymbol : r.grammar.IsKnown symbol) {path : Path}
    {default? : Option DefaultValue} {showLabel : Bool} {n : Node}
    (hn : n ∈ (r.renderLevels levels symbol path default? showLabel).1.nodes) :
    n.issue ≠ some .unknownSymbol := by
  have hknown : r.grammar.IsKnown n.symbol := by
    rcases r.symbol_of_mem_nodes _ _ _ _ _ hn with heq | hrole
    · rwa [heq]
    · exact hg _ hrole
  obtain ⟨levels', default', showLabel', heq⟩ :=
    r.exists_renderLevels_of_mem_nodes _ _ _ _ _ hn
  rw [heq, ne_eq, issue_eq_unknownSymbol_iff]
  exact fun hunknown => hunknown.2 hknown

end Renderer

/-! ### Closed catalogues -/

/-- The aliases of a catalogue, and the commands and dependents of its layout, are known. -/
structure Catalogue.IsClosed (c : Catalogue) : Prop where
  aliases : ∀ r ∈ c.grammar.records, r.aliasOf ≠ none → c.grammar.IsKnown r.name
  commands : ∀ s ∈ c.sections, ∀ entry ∈ s.commands, ∀ name ∈ entry.name :: entry.dependents,
    c.grammar.IsKnown name

namespace Shipped

private theorem isKnown_of_alias :
    ∀ r ∈ grammar.records, r.aliasOf ≠ none → grammar.IsKnown r.name := by
  decide +kernel

private theorem isKnown_of_command : ∀ s ∈ sections, ∀ entry ∈ s.commands,
    ∀ name ∈ entry.name :: entry.dependents, grammar.IsKnown name := by
  decide +kernel

/-- **The shipped catalogue is closed.** -/
theorem exists_isClosed (source : Option FilePath) :
    ∃ c, catalogue source = .ok c ∧ c.IsClosed :=
  ⟨_, catalogue_eq source {}, isKnown_of_alias, isKnown_of_command⟩

end Shipped

namespace Assembler

/-- **Forms without unknown symbols.**  The shipped catalogue is closed.  In a form of a closed
catalogue no node is unknown, in any section, whatever the options of the form are and whatever is
submitted. -/
theorem issue_ne_unknownSymbol :
    (∀ source, ∃ c, Shipped.catalogue source = .ok c ∧ c.IsClosed) ∧
    ∀ (c : Catalogue) (options : FormOptions) (a : Assembler) (notices : List Notice),
      c.IsClosed → ofCatalogue c options = .ok (a, notices) →
      ∀ (digest : String → String) (state : FormState) (d : Document) (notices' : List Notice),
        a.assemble digest state = .ok (d, notices') →
        ∀ n ∈ d.nodes, n.issue ≠ some .unknownSymbol := by
  refine ⟨Shipped.exists_isClosed, fun c options a notices hclosed ha digest state d notices' hd
    n hn => ?_⟩
  obtain ⟨rfl, hgrammars⟩ := sectionGrammars_of_ofCatalogue ha
  obtain ⟨f, hf, hn⟩ := List.mem_flatMap.mp hn
  obtain ⟨item, hitem, hf⟩ := List.mem_flatMap.mp hf
  obtain ⟨k, hk⟩ := List.getElem?_of_mem hitem
  obtain ⟨⟨g, entry⟩, he, rfl⟩ := exists_entry_of_items hd hk
  obtain ⟨hg, hentry⟩ := mem_of_mem_entries (List.mem_of_getElem? he)
  obtain ⟨s, hs, hentry⟩ := List.mem_flatMap.mp hentry
  obtain ⟨l, hl⟩ := List.getElem?_of_mem hg
  have hgrows := Catalogue.grows_of_overlay hgrammars hl
  obtain ⟨entry', path, hname, rfl⟩ := RenderContext.exists_named_command_of_item hf
  exact Renderer.issue_ne_unknownSymbol_of_mem_nodes
    (fun name => hgrows.isKnown_of_roleOf_ne_terminal hclosed.aliases)
    (hgrows.isKnown (hclosed.commands s hs entry hentry _ hname)) hn

/-- A catalogue with a command that is an alias.  Its section gives alternatives to one of the
keywords. -/
def pickData : Data :=
  .table
    [("catalogue", .table [("title", .string "Picks")]),
      ("symbols", .table
        [("pick", .table [("alias", .string "<kind>")]),
          ("<kind>", .table
            [("productions", .array [.array [.string "a"], .array [.string "b"]])]),
          ("a", .table [])]),
      ("sections", .array
        [.table
          [("title", .string "Main"),
            ("commands", .array [.table [("name", .string "pick")]]),
            ("extend_productions", .table
              [("a", .array [.array [.string "c"], .array [.string "<integer value>"]])])]])]

/-- The form of this catalogue. -/
def pickForm : Assembler where
  catalogue :=
    { name := .string "catalogue"
      title := .string "Picks"
      description := .string ""
      grammar :=
        { records :=
            [{ name := "pick", aliasOf := some "<kind>" },
              { name := "<kind>", productions := [["a"], ["b"]] }, { name := "a" }]
          faultless := by decide }
      sections :=
        [{ title := "Main"
           commands := [{ name := "pick" }]
           extensions := [("a", [["c"], ["<integer value>"]])] }]
      source := none }
  options := {}
  grammars :=
    [{ records :=
         [{ name := "pick", aliasOf := some "<kind>" },
           { name := "<kind>", productions := [["a"], ["b"]] },
           { name := "a", productions := [["c"], ["<integer value>"]] }]
       faultless := by decide }]

/-- The keyword is picked, and then a number for it. -/
def pickedNumber : FormState :=
  [(widgetKey blankDigest "pick" "pick" [1], "0"), (widgetKey blankDigest "pick" "a" [1, 1], "1")]

theorem issue_ne_unknownSymbol_pick : ∃ d notices,
    Catalogue.ofData pickData none = .ok pickForm.catalogue ∧ pickForm.catalogue.IsClosed ∧
    pickForm.catalogue.grammar.roleOf "a" = .terminal ∧
    ofCatalogue pickForm.catalogue {} = .ok (pickForm, []) ∧
    pickForm.assemble blankDigest pickedNumber = .ok (d, notices) ∧
    d.nodes.map (·.symbol) = ["pick", "a", "<integer value>"] ∧
    ∀ n ∈ d.nodes, n.issue ≠ some .unknownSymbol := by
  have hdata : Catalogue.ofData pickData none = .ok pickForm.catalogue := rfl
  have hclosed : pickForm.catalogue.IsClosed := ⟨by decide, by decide⟩
  have hready : ofCatalogue pickForm.catalogue {} = .ok (pickForm, []) := rfl
  have hd : pickForm.assemble blankDigest pickedNumber = .ok (_, _) := rfl
  exact ⟨_, _, hdata, hclosed, by decide, hready, hd, rfl,
    issue_ne_unknownSymbol.2 _ _ _ _ hclosed hready _ _ _ _ hd⟩

end Assembler

end GrammarForm
