import GrammarForm.Proofs.Extension
import GrammarForm.Proofs.Resubmission

/-!
# Saved values in an extended grammar

A form that was saved is shown again as it was after alternatives were added to one of its symbols,
which are then offered as well.

For a choice that was never submitted the new alternatives may matter.  A single alternative is
selected of itself, but not if there are others; and a default that matched no alternative may
match a new one.  In a form state every choice is submitted, though.  It is submitted as an index,
which stands for the same alternative as before since the new ones stand behind the old ones, or
as the mark for no index, which selects nothing among any number of alternatives.  So every symbol
becomes what it was, and the renderings over both grammars are followed in step.

## Main definitions

* `Widget.Widened` : a choice with further offers.
* `Node.Widened` : a tree that differs from another one in such choices only.
* `Renderer.withGrammar` : the same renderer over another grammar.

## Main results

* `Renderer.resolution_withGrammar` : every submitted symbol becomes the same.
* `Renderer.widened_withGrammar` : a submitted rendering over the extended grammar.
* `Renderer.exists_extend_widened` : the rendering of a form state over the extended grammar.
-/

namespace GrammarForm

/-! ### Choices with further offers -/

/-- A choice has further offers at its end, none of them selected.  It is disabled only if it was
before and there are no further offers. -/
inductive Widget.Widened : Widget → Widget → Prop
  | choice {offers : List Offer} {selected : Option Nat} {tooltip : String} {disabled : Bool}
      (more : List Offer) (hmore : ∀ o ∈ more, o.selected = false) :
      Widened (.choice offers selected tooltip disabled)
        (.choice (offers ++ more) selected tooltip (disabled && more.isEmpty))

/-- A tree differs from another one only in choices with further offers, and these stand at symbols
with a given property.  Shape, keys, symbols, paths, texts, validity, issues and everything else
are the same. -/
inductive Node.Widened (IsGrown : String → Prop) : Node → Node → Prop
  | intro {n : Node} {widget : Option Widget} {children : List Node}
      (hwidget : widget = n.widget ∨
        IsGrown n.symbol ∧ Option.Rel Widget.Widened n.widget widget)
      (hchildren : List.Forall₂ (Widened IsGrown) n.children children) :
      Widened IsGrown n { n with widget, children }

namespace Node

variable {IsGrown : String → Prop}

theorem Widened.text_eq {n n' : Node} (h : Widened IsGrown n n') : n'.text = n.text := by
  cases h
  rfl

theorem Widened.valid_eq {n n' : Node} (h : Widened IsGrown n n') : n'.valid = n.valid := by
  cases h
  rfl

theorem map_text_of_widened {ns ns' : List Node} (h : List.Forall₂ (Widened IsGrown) ns ns') :
    ns'.map (·.text) = ns.map (·.text) := by
  induction h with
  | nil => rfl
  | cons hn _ ih => rw [List.map_cons, List.map_cons, hn.text_eq, ih]

theorem all_valid_of_widened {ns ns' : List Node} (h : List.Forall₂ (Widened IsGrown) ns ns') :
    ns'.all (·.valid) = ns.all (·.valid) := by
  induction h with
  | nil => rfl
  | cons hn _ ih => rw [List.all_cons, List.all_cons, hn.valid_eq, ih]

/-- A node shows what is submitted for it. -/
def IsSubmitted (state : FormState) (n : Node) : Prop :=
  ∀ w, n.widget = some w → state.get? n.key = some w.value ∧ w.IsReadBack

theorem IsSubmitted.isKept {state : FormState} {n : Node} (h : n.IsSubmitted state)
    (before : FormState) : n.IsKept before state :=
  fun w hw => Or.inr (h w hw)

end Node

namespace Renderer

variable (r : Renderer) (g' : Grammar)

/-- The renderer over another grammar. -/
def withGrammar : Renderer :=
  { r with grammar := g' }

@[simp]
theorem grammar_withGrammar : (r.withGrammar g').grammar = g' :=
  rfl

variable {r g'} {added : String} {productions : List (List String)}

/-- A choice among more alternatives has further offers. -/
theorem widened_choiceAmong (start : String) {options : List Production} {selected : Option Nat}
    (more : List Production) (hne : options ≠ [])
    (hselected : ∀ i, selected = some i → i < options.length) :
    (r.choiceAmong start options selected).Widened
      (r.choiceAmong start (options ++ more) selected) := by
  let offers : List Offer := more.mapIdx fun i p =>
    { index := i + options.length
      label := p.id
      tooltip := r.grammar.alternativeExplanation start p.id
      selected := selected == some (i + options.length) }
  have hoffers : r.choiceOptions start (options ++ more) selected =
      r.choiceOptions start options selected ++ offers := List.mapIdx_append
  have hshown : selected.bind ((options ++ more)[·]?) = selected.bind (options[·]?) := by
    cases selected with
    | none => rfl
    | some i => exact List.getElem?_append_left (hselected i rfl)
  have hdisabled : ((options ++ more).length == 1 && selected.isSome) =
      (options.length == 1 && selected.isSome && offers.isEmpty) := by
    have hpos := List.length_pos_of_ne_nil hne
    cases more with
    | nil => simp [offers]
    | cons p rest => simp [offers]; omega
  rw [choiceAmong, choiceAmong, hoffers, hshown, hdisabled]
  refine .choice offers fun o ho => ?_
  obtain ⟨i, hi, rfl⟩ := List.mem_mapIdx.mp ho
  refine beq_eq_false_iff_ne.mpr fun heq => ?_
  have hlt := hselected _ heq
  omega

/-! ### Renderings over both grammars -/

section Extended

variable {symbol : String} {path : Path} {default? : Option DefaultValue} {showLabel : Bool}
  (h : r.grammar.IsExtension added productions g')

include h

/-- Over the extended grammar, chains of aliases end where they did. -/
theorem options_withGrammar (symbol : String) :
    (r.withGrammar g').options symbol = g'.alternatives (r.grammar.startSymbol symbol) := by
  rw [options, grammar_withGrammar, h.startSymbol_eq]

/-- The alternatives of a symbol are offered again, and further ones behind. -/
theorem exists_options_withGrammar (hrole : r.grammar.roleOf added ≠ .terminal) (symbol : String) :
    ∃ more, (r.withGrammar g').options symbol = r.options symbol ++ more ∧
      (more ≠ [] → r.grammar.startSymbol symbol = added) ∧
      (r.options symbol = [] → more = []) := by
  obtain ⟨more, hmore, hadded⟩ := h.exists_alternatives_eq hrole (r.grammar.startSymbol symbol)
  refine ⟨more, (options_withGrammar h symbol).trans hmore, hadded, fun hnil => ?_⟩
  have hnil' := h.alternatives_startSymbol_eq_nil hrole hnil
  rw [hmore] at hnil'
  exact (List.append_eq_nil_iff.mp hnil').2

/-- A choice among the same alternatives is the same. -/
theorem choiceAmong_withGrammar (start : String) (options : List Production)
    (selected : Option Nat) :
    (r.withGrammar g').choiceAmong start options selected =
      r.choiceAmong start options selected := by
  simp only [choiceAmong, choiceOptions, grammar_withGrammar, h.alternativeExplanation_eq]

/-- The widget of a choice is the same, or has further offers. -/
theorem widget_withGrammar (hrole : r.grammar.roleOf added ≠ .terminal) {selected : Option Nat}
    (hne : r.options symbol ≠ [])
    (hselected : ∀ i, selected = some i → i < (r.options symbol).length) :
    let w := r.choiceAmong (r.grammar.startSymbol symbol) (r.options symbol) selected
    let w' := (r.withGrammar g').choiceAmong (g'.startSymbol symbol)
      ((r.withGrammar g').options symbol) selected
    w' = w ∨ r.grammar.startSymbol symbol = added ∧ w.Widened w' := by
  obtain ⟨more, hoptions, hadded, -⟩ := exists_options_withGrammar h hrole symbol
  rw [h.startSymbol_eq, hoptions, choiceAmong_withGrammar h]
  by_cases hmore : more = []
  · rw [hmore, List.append_nil]
    exact Or.inl rfl
  · exact Or.inr ⟨hadded hmore, widened_choiceAmong _ more hne hselected⟩

/-- **Every submitted symbol becomes the same** over the extended grammar. -/
theorem resolution_withGrammar (hrole : r.grammar.roleOf added ≠ .terminal) {levels : Nat}
    (hn : (r.renderLevels (levels + 1) symbol path default? showLabel).1.IsSubmitted r.state) :
    (r.withGrammar g').resolution symbol path default? = r.resolution symbol path default? := by
  have hstart := h.startSymbol_eq symbol
  obtain ⟨more, hoptions, -, hnil⟩ := exists_options_withGrammar h hrole symbol
  have hselection {s : String} (hget : r.state.get? (r.key symbol path) = some s) :
      (r.withGrammar g').selection symbol path default? =
        submittedIndex s (r.options symbol ++ more).length := by
    rw [← hoptions]
    exact selection_withState (r := r.withGrammar g') hget
  rw [renderLevels_succ] at hn
  cases hres : r.resolution symbol path default? with
  | leaf kind =>
    have hleaf := resolution_eq_leaf_iff.mp hres
    exact resolution_eq_leaf_iff.mpr (hstart ▸ hleaf)
  | unknown =>
    obtain ⟨hleaf, hempty⟩ := resolution_eq_unknown_iff.mp hres
    refine resolution_eq_unknown_iff.mpr ⟨hstart ▸ hleaf, ?_⟩
    rw [hoptions, hempty, hnil hempty, List.append_nil]
  | unresolved =>
    obtain ⟨hleaf, hne, -⟩ := resolution_eq_unresolved_iff.mp hres
    rw [hres] at hn
    -- The mark for no index was submitted, so no default and no single alternative counts.
    have hget := (hn _ rfl).1
    refine resolution_eq_unresolved_iff.mpr ⟨hstart ▸ hleaf, ?_, ?_⟩
    · rw [hoptions]
      exact List.append_ne_nil_of_left_ne_nil hne more
    · exact (hselection hget).trans (submittedIndex_unresolved _)
  | selected i p =>
    obtain ⟨hleaf, -, hp⟩ := resolution_eq_selected_iff.mp hres
    rw [hres] at hn
    -- The submitted index stands for the same alternative, as the new ones are behind it.
    obtain ⟨hget, hlimit⟩ := hn _ rfl
    have hi : i < (r.options symbol).length := (List.getElem?_eq_some_iff.mp hp).1
    have hp' : (r.options symbol ++ more)[i]? = some p := (List.getElem?_append_left hi).trans hp
    have hi' : i < (r.options symbol ++ more).length := (List.getElem?_eq_some_iff.mp hp').1
    refine resolution_eq_selected_iff.mpr ⟨hstart ▸ hleaf, ?_, hoptions ▸ hp'⟩
    exact (hselection hget).trans (submittedIndex_toString hi' hlimit)

/-- A node without subtree keeps everything but its widget. -/
theorem widened_unresolvedNode {IsGrown : String → Prop} {widget widget' : Option Widget}
    {issue : Node.Issue}
    (hwidget : widget' = widget ∨ IsGrown symbol ∧ Option.Rel Widget.Widened widget widget') :
    (r.unresolvedNode symbol path showLabel widget issue).Widened IsGrown
      ((r.withGrammar g').unresolvedNode symbol path showLabel widget' issue) := by
  simp only [unresolvedNode, grammar_withGrammar, h.explanation_eq]
  exact .intro hwidget .nil

/-- A leaf keeps everything. -/
theorem widened_leafNode {IsGrown : String → Prop} {kind : ValueKind} :
    (r.leafNode symbol path showLabel kind default?).Widened IsGrown
      ((r.withGrammar g').leafNode symbol path showLabel kind default?) := by
  simp only [leafNode, grammar_withGrammar, h.explanation_eq]
  exact .intro (Or.inl rfl) .nil

/-- A node with a selected alternative keeps everything but its widget and what is below. -/
theorem widened_selectedNode (hrole : r.grammar.roleOf added ≠ .terminal) {i : Nat}
    {p : Production} {children children' : List Node} (hp : (r.options symbol)[i]? = some p)
    (hchildren : List.Forall₂ (Node.Widened (r.grammar.startSymbol · = added)) children
      children') :
    (r.selectedNode symbol path showLabel i p children).Widened
      (r.grammar.startSymbol · = added)
      ((r.withGrammar g').selectedNode symbol path showLabel i p children') := by
  have hi : i < (r.options symbol).length := (List.getElem?_eq_some_iff.mp hp).1
  have hwidget := widget_withGrammar h hrole (List.ne_nil_of_mem (List.mem_of_getElem? hp))
    (fun j (hj : some i = some j) => Option.some.inj hj ▸ hi)
  simp only [selectedNode, grammar_withGrammar, h.explanation_eq, Node.map_text_of_widened hchildren,
    Node.all_valid_of_widened hchildren]
  exact .intro (hwidget.imp (congrArg some) (And.imp_right .some)) hchildren

/-- **A submitted rendering over the extended grammar** has further offers at the added symbol, and
is the same otherwise. -/
theorem widened_withGrammar (hrole : r.grammar.roleOf added ≠ .terminal) (levels : Nat) :
    ∀ (symbol : String) (path : Path) (default? : Option DefaultValue) (showLabel : Bool),
      (∀ n ∈ (r.renderLevels levels symbol path default? showLabel).1.nodes,
        n.IsSubmitted r.state) →
      (r.renderLevels levels symbol path default? showLabel).1.Widened
        (r.grammar.startSymbol · = added)
        ((r.withGrammar g').renderLevels levels symbol path default? showLabel).1 := by
  induction levels with
  | zero =>
    intro symbol path default? showLabel _
    exact widened_unresolvedNode h (Or.inl rfl)
  | succ levels ih =>
    intro symbol path default? showLabel hn
    obtain ⟨hroot, hbelow⟩ := Node.forall_mem_nodes_iff.mp hn
    have hresolution := resolution_withGrammar h hrole hroot
    rw [renderLevels_succ] at hbelow
    rw [renderLevels_succ, renderLevels_succ, hresolution]
    cases hres : r.resolution symbol path default? with
    | leaf kind => exact widened_leafNode h
    | unknown => exact widened_unresolvedNode h (Or.inl rfl)
    | unresolved =>
      have hne := (resolution_eq_unresolved_iff.mp hres).2.1
      have hwidget := widget_withGrammar h hrole hne (nofun : ∀ i, none = some i → _)
      exact widened_unresolvedNode h (hwidget.imp (congrArg some) (And.imp_right .some))
    | selected i p =>
      rw [hres] at hbelow
      refine widened_selectedNode h hrole (resolution_eq_selected_iff.mp hres).2.2 ?_
      refine List.forall₂_iff_get.mpr ⟨by simp only [List.length_map, slotNodes_length], ?_⟩
      intro j hj hj'
      have hj : j < (r.slotNodes levels path p).length := by rwa [List.length_map] at hj
      have hchild := hbelow _ (List.mem_map_of_mem (List.getElem_mem hj))
      rw [getElem_slotNodes] at hchild
      simp only [List.get_eq_getElem, List.getElem_map, getElem_slotNodes, grammar_withGrammar,
        h.defaultOf_eq]
      exact ih _ _ _ _ hchild

end Extended

/-! ### Saved values -/

/-- Every node of a rendering shows what is submitted for it in the form state, if its widget is
shown again from its own value. -/
theorem isSubmitted_of_isReadBack (hdigest : HasFixedLength r.digest) {levels : Nat}
    {symbol : String} {path : Path} {default? : Option DefaultValue} {showLabel : Bool}
    (hread : ∀ m ∈ (r.renderLevels levels symbol path default? showLabel).1.nodes,
      ∀ w, m.widget = some w → w.IsReadBack) :
    let n := (r.renderLevels levels symbol path default? showLabel).1
    ∀ m ∈ n.nodes, m.IsSubmitted n.formState := by
  intro n m hm w hw
  have hkeys : (n.fields.map Prod.fst).Nodup :=
    (r.keyBlock_fields hdigest levels symbol path default? showLabel).nodup
  refine ⟨?_, hread m hm w hw⟩
  rw [Node.formState, Entries.distinct_eq_self hkeys]
  exact Entries.get?_eq_some_of_mem hkeys (Node.mem_fields_of_widget hm hw)

/-- **Saved values survive an extension.** If alternatives are added to a symbol that is no
keyword, the form state of a rendering gives the same tree again over the extended grammar: only
the choices whose chain of aliases ends at that symbol have further offers. -/
theorem exists_extend_widened (hdigest : HasFixedLength r.digest)
    (hrole : r.grammar.roleOf added ≠ .terminal)
    (hlimit : ∀ symbol, (r.grammar.alternatives symbol).length ≤ 10 ^ ValueKind.digitLimit)
    (productions : List (List String)) :
    ∃ g', r.grammar.extend added productions = .ok g' ∧
      ∀ (symbol : String) (path : Path) (default? : Option DefaultValue) (depth : Int)
        (showLabel : Bool),
        let n := (r.render symbol path default? depth showLabel).1
        n.Widened (r.grammar.startSymbol · = added)
          (((r.withState n.formState).withGrammar g').render symbol path default? depth
            showLabel).1 := by
  obtain ⟨g', hg', hextension⟩ := r.grammar.exists_extend added productions
  refine ⟨g', hg', fun symbol path default? depth showLabel => ?_⟩
  -- First the form state gives the same tree over the old grammar, then the grammar is exchanged.
  intro n
  have hsubmitted : ∀ m ∈ n.nodes, m.IsSubmitted n.formState :=
    isSubmitted_of_isReadBack hdigest fun m hm w hw =>
      isReadBack_of_length_alternatives hlimit hm hw
  have hsame : (r.withState n.formState).renderLevels (r.levelsFrom depth) symbol path default?
      showLabel = r.renderLevels (r.levelsFrom depth) symbol path default? showLabel :=
    renderLevels_withState _ _ _ _ _ fun m hm => (hsubmitted m hm).isKept r.state
  have hwidened := widened_withGrammar (r := r.withState n.formState) hextension hrole
    (r.levelsFrom depth) symbol path default? showLabel
  rw [hsame] at hwidened
  exact hwidened hsubmitted

/-- A rendering of sums, the first one an addition. -/
def sumRenderer : Renderer where
  digest := shortDigest
  grammar := Assembler.sumGrammar
  state := [(widgetKey shortDigest "total" "total" [1], "1")]
  command := "total"
  inline := false
  maxDepth := 20

theorem exists_extend_widened_differences : HasFixedLength sumRenderer.digest ∧
    sumRenderer.grammar.roleOf "<sum>" ≠ .terminal ∧
    (∀ symbol, (sumRenderer.grammar.alternatives symbol).length ≤ 10 ^ ValueKind.digitLimit) ∧
    ∃ g', sumRenderer.grammar.extend "<sum>" [["<sum>", "minus", "<sum>"]] = .ok g' ∧
      let n := (sumRenderer.render "total" [1] none 1 true).1
      n.Widened (sumRenderer.grammar.startSymbol · = "<sum>")
        (((sumRenderer.withState n.formState).withGrammar g').render "total" [1] none 1
          true).1 := by
  have hdigest : HasFixedLength sumRenderer.digest := hasFixedLength_shortDigest
  have hrole : sumRenderer.grammar.roleOf "<sum>" ≠ .terminal := by decide
  have hlimit (symbol : String) :
      (sumRenderer.grammar.alternatives symbol).length ≤ 10 ^ ValueKind.digitLimit :=
    Assembler.length_alternatives_le (fun r hr => le_trans
      ((by decide : ∀ r ∈ Assembler.sumGrammar.records, r.productions.length ≤ 2) r hr)
      (by decide)) symbol
  obtain ⟨g', hg', hwidened⟩ :=
    exists_extend_widened hdigest hrole hlimit [["<sum>", "minus", "<sum>"]]
  exact ⟨hdigest, hrole, hlimit, g', hg', hwidened "total" [1] none 1 true⟩

end Renderer

end GrammarForm
