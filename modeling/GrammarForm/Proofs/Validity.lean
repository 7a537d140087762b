import GrammarForm.Proofs.Derivation

/-!
# Valid nodes are complete derivations

A node is valid exactly if no node of its tree has an issue.  A tree without issues is complete:
each leaf holds a text of its kind, and each other node has a selected alternative, a child for
each symbol of it that is no keyword, and the text that keywords and children make up.  Such a
tree shows a derivation tree of its symbol, so that the text of a valid node is always a text of
the language of its symbol.

## Main definitions

* `Grammar.language` : the texts of the derivation trees of a symbol.

## Main results

* `Renderer.valid_iff_forall_issue` : a node is valid exactly if its tree has no issues.
* `Renderer.exists_shows_of_valid` : a valid node shows a derivation tree.
* `Renderer.valid_render` : both for every rendering, with the steps of the derivation.
-/

namespace GrammarForm

/-- The texts of the derivation trees of a symbol. -/
def Grammar.language (g : Grammar) (symbol : String) : Set String :=
  { s | ∃ t : Derivation, t.symbol = symbol ∧ t.ValidFor g ∧ t.text g = s }

namespace Renderer

variable {r : Renderer}

/-- A node with a selected alternative has the children and the text of that alternative. -/
theorem widget_selectedNode (symbol : String) (path : Path) (showLabel : Bool) (i : Nat)
    (p : Production) (children : List Node) : ∃ offers tip off,
      (r.selectedNode symbol path showLabel i p children).widget =
        some (.choice offers (some i) tip off) :=
  ⟨_, _, _, rfl⟩

/-- A rendered node without an issue of its own is a step of a derivation. -/
theorem isComplete_of_issue_eq_none {levels : Nat} {symbol : String} {path : Path}
    {default? : Option DefaultValue} {showLabel : Bool}
    (h : (r.renderLevels levels symbol path default? showLabel).1.issue = none) :
    (r.renderLevels levels symbol path default? showLabel).1.IsComplete r.grammar := by
  have hsymbol := (r.renderLevels_place levels symbol path default? showLabel).1
  rw [Node.IsComplete, hsymbol]
  cases levels with
  | zero => exact absurd h (by simp [renderLevels_zero, deepNode, unresolvedNode])
  | succ levels =>
    rw [renderLevels_succ] at h ⊢
    cases hres : r.resolution symbol path default? with
    | leaf kind =>
      rw [resolution_eq_leaf_iff.mp hres]
      rw [hres] at h
      have haccepts : kind.accepts (leafText kind default? (r.state.get? (r.key symbol path))) := by
        by_contra hnot
        simp [leafNode, hnot] at h
      refine ⟨?_, haccepts, rfl⟩
      simp only [leafNode, haccepts]
    | selected i p =>
      obtain ⟨hleaf, -, hp⟩ := resolution_eq_selected_iff.mp hres
      rw [hleaf]
      obtain ⟨offers, tip, off, hwidget⟩ :=
        r.widget_selectedNode symbol path showLabel i p ((r.slotNodes levels path p).map Prod.fst)
      exact ⟨offers, i, tip, off, p, hwidget, hp,
        r.map_symbol_slotNodes levels path p, rfl⟩
    | unknown | unresolved =>
      rw [hres] at h
      simp [unknownNode, openNode, unresolvedNode] at h

/-- A rendered node is valid exactly if it has no issue of its own and its children are valid. -/
theorem valid_iff_issue_and_children (levels : Nat) (symbol : String) (path : Path)
    (default? : Option DefaultValue) (showLabel : Bool) :
    (r.renderLevels levels symbol path default? showLabel).1.valid = true ↔
      (r.renderLevels levels symbol path default? showLabel).1.issue = none ∧
        ∀ c ∈ (r.renderLevels levels symbol path default? showLabel).1.children,
          c.valid = true := by
  cases levels with
  | zero => simp [renderLevels_zero, deepNode, unresolvedNode]
  | succ levels =>
    rw [renderLevels_succ]
    cases r.resolution symbol path default? with
    | leaf kind => simp [leafNode]
    | unknown | unresolved => simp [unknownNode, openNode, unresolvedNode]
    | selected i p => simp [selectedNode]

/-- **A node is valid exactly if its tree has no issues.** -/
theorem valid_iff_forall_issue (levels : Nat) :
    ∀ (symbol : String) (path : Path) (default? : Option DefaultValue) (showLabel : Bool),
      (r.renderLevels levels symbol path default? showLabel).1.valid = true ↔
        ∀ m ∈ (r.renderLevels levels symbol path default? showLabel).1.nodes, m.issue = none := by
  induction levels with
  | zero =>
    intro symbol path default? showLabel
    rw [Node.forall_mem_nodes_iff]
    simp [renderLevels_zero, deepNode, unresolvedNode]
  | succ levels ih =>
    intro symbol path default? showLabel
    rw [valid_iff_issue_and_children, Node.forall_mem_nodes_iff]
    refine and_congr_right' (forall₂_congr fun c hc => ?_)
    obtain ⟨i, hi⟩ := List.getElem?_of_mem hc
    obtain ⟨name, -, rfl⟩ := r.exists_renderLevels_of_children hi
    exact ih _ _ _ _

/-- **A valid node shows a derivation tree.** -/
theorem exists_shows_of_valid (levels : Nat) :
    ∀ (symbol : String) (path : Path) (default? : Option DefaultValue) (showLabel : Bool),
      let n := (r.renderLevels levels symbol path default? showLabel).1
      n.valid = true → ∃ t, n.Shows r.grammar t := by
  induction levels with
  | zero =>
    intro symbol path default? showLabel n hn
    exact absurd hn (by simp [n, renderLevels_zero, deepNode, unresolvedNode])
  | succ levels ih =>
    intro symbol path default? showLabel n hn
    obtain ⟨hissue, hchildren⟩ := (valid_iff_issue_and_children ..).mp hn
    refine Node.exists_shows_of_isComplete (isComplete_of_issue_eq_none hissue) fun c hc => ?_
    obtain ⟨i, hi⟩ := List.getElem?_of_mem hc
    obtain ⟨name, -, rfl⟩ := r.exists_renderLevels_of_children hi
    exact ih _ _ _ _ (hchildren _ hc)

/-- **Soundness of validity.** A rendered node is valid exactly if no node of its tree has an
issue.  Each node of a valid tree is a step of a derivation, and the tree shows a derivation tree
of the symbol; in particular its text is one of the language of the symbol. -/
theorem valid_render (r : Renderer) (symbol : String) (path : Path)
    (default? : Option DefaultValue) (depth : Int) (showLabel : Bool) :
    let n := (r.render symbol path default? depth showLabel).1
    (n.valid = true ↔ ∀ m ∈ n.nodes, m.issue = none) ∧
      (n.valid = true → n.symbol = symbol ∧ (∀ m ∈ n.nodes, m.IsComplete r.grammar) ∧
        (∃ t, n.Shows r.grammar t) ∧ n.text ∈ r.grammar.language symbol) := by
  intro n
  have hissue : n.valid = true ↔ ∀ m ∈ n.nodes, m.issue = none :=
    valid_iff_forall_issue (r.levelsFrom depth) symbol path default? showLabel
  refine ⟨hissue, fun hvalid => ?_⟩
  have hsymbol : n.symbol = symbol :=
    (r.renderLevels_place (r.levelsFrom depth) symbol path default? showLabel).1
  have hcomplete : ∀ m ∈ n.nodes, m.IsComplete r.grammar := by
    intro m hm
    have hm' := hissue.mp hvalid m hm
    obtain ⟨levels, default', showLabel', heq⟩ := r.exists_renderLevels_of_mem_nodes _ _ _ _ _ hm
    rw [heq] at hm' ⊢
    exact isComplete_of_issue_eq_none hm'
  obtain ⟨t, ht⟩ := exists_shows_of_valid (r.levelsFrom depth) symbol path default? showLabel hvalid
  exact ⟨hsymbol, hcomplete, ⟨t, ht⟩, t, ht.symbol.trans hsymbol, ht.valid, ht.text⟩

end Renderer

end GrammarForm
