import GrammarForm.Proofs.Derivation
import GrammarForm.Proofs.Resubmission

/-!
# The values of a derivation tree

A derivation tree can be submitted: a leaf as its text, a choice as its index, each under the key
of its symbol and its place.  Whatever else is submitted, a symbol is then rendered as this tree,
provided that the tree is one of the grammar, that none of its nodes is cut off and that its
indices have no more digits than are read.  No default gets in the way, because a default counts
only for a value that was never submitted.

## Main definitions

* `Derivation.fields` : the values of a tree by key.
* `Derivation.IsTreeOf` : the trees that a form can show for a symbol.

## Main results

* `Derivation.keyBlock_fields` : the keys of a tree are distinct and lie at its path or below.
* `Renderer.shows_of_carries` : a tree is rendered from its values.
* `Renderer.map_symbol_nodes` : a rendered tree has the symbols of the tree that it shows.
-/

namespace GrammarForm

namespace Derivation

mutual

/-- The values of a tree at a path, under keys of symbols and paths. -/
def fields (key : String → Path → String) : Derivation → Path → List (String × String)
  | leaf s text, path => [(key s path, text)]
  | choice s i parts, path => (key s path, toString i) :: fieldsBelow key path 0 parts

/-- The values of several trees in the slots below a path, the first one numbered `used + 1`. -/
def fieldsBelow (key : String → Path → String) (path : Path) :
    Nat → List Derivation → List (String × String)
  | _, [] => []
  | used, t :: rest =>
    t.fields key (path ++ [(used : Int) + 1]) ++ fieldsBelow key path (used + 1) rest

end

variable {key : String → Path → String} {path : Path}

theorem fieldsBelow_eq_flatten (ts : List Derivation) : ∀ used, fieldsBelow key path used ts =
    (ts.mapIdx fun i t => t.fields key (path ++ [((used + i : Nat) : Int) + 1])).flatten := by
  induction ts with
  | nil => intro used; rfl
  | cons t rest ih =>
    intro used
    rw [fieldsBelow, ih, List.mapIdx_cons, List.flatten_cons]
    simp only [Nat.add_comm, Nat.add_left_comm]
    rfl

/-- The values of a choice: its index, and the values of its parts slot by slot. -/
theorem fields_choice (s : String) (i : Nat) (parts : List Derivation) :
    (choice s i parts).fields key path = (key s path, toString i) ::
      (parts.mapIdx fun j t => t.fields key (path ++ [(j : Int) + 1])).flatten := by
  rw [fields, fieldsBelow_eq_flatten]
  simp only [Nat.zero_add]

/-- The values of a part of a choice are among those of the choice. -/
theorem mem_fields_choice {s : String} {i j : Nat} {parts : List Derivation} {t : Derivation}
    {field : String × String} (hj : parts[j]? = some t)
    (h : field ∈ t.fields key (path ++ [(j : Int) + 1])) :
    field ∈ (choice s i parts).fields key path := by
  have hblock : (parts.mapIdx fun j t => t.fields key (path ++ [(j : Int) + 1]))[j]? =
      some (t.fields key (path ++ [(j : Int) + 1])) := by
    rw [List.getElem?_mapIdx, hj, Option.map_some]
  rw [fields_choice]
  exact List.mem_cons_of_mem _ (List.mem_flatten.mpr ⟨_, List.mem_of_getElem? hblock, h⟩)

/-- **The keys of a tree** are distinct and lie at its path or below. -/
theorem keyBlock_fields {digest : String → String} (hdigest : HasFixedLength digest)
    (command : String) (t : Derivation) : ∀ path : Path,
      KeyBlock digest path ((t.fields (widgetKey digest command) path).map Prod.fst) := by
  induction t with
  | leaf s text =>
    intro path
    refine ⟨fun key hkey => ⟨path, List.prefix_rfl, ?_⟩, List.nodup_singleton _⟩
    rw [List.mem_singleton.mp hkey]
    exact isKeyAt_widgetKey ..
  | choice s i parts ih =>
    intro path
    rw [fields_choice, List.map_cons, List.map_flatten, ← List.singleton_append]
    refine KeyBlock.join hdigest (fun key hkey => ?_) (List.nodup_singleton _) fun j hj => ?_
    · rw [List.mem_singleton.mp hkey]
      exact isKeyAt_widgetKey ..
    · simp only [List.getElem_map, List.getElem_mapIdx]
      exact ih _ (List.getElem_mem _) _

/-- Every value of a tree stands under a key of a widget. -/
theorem exists_key_of_mem_fields (t : Derivation) : ∀ (path : Path) (field : String × String),
    field ∈ t.fields key path → ∃ symbol q, field.1 = key symbol q := by
  induction t with
  | leaf s text =>
    intro path field h
    cases List.mem_singleton.mp h
    exact ⟨s, path, rfl⟩
  | choice s i parts ih =>
    intro path field h
    rw [fields_choice] at h
    rcases List.mem_cons.mp h with rfl | h
    · exact ⟨s, path, rfl⟩
    · obtain ⟨_, hblock, h⟩ := List.mem_flatten.mp h
      obtain ⟨j, hj, rfl⟩ := List.mem_mapIdx.mp hblock
      exact ih _ (List.getElem_mem _) _ _ h

/-- A tree that a form can show for a symbol: a derivation tree whose nodes are not cut off and
whose indices are short enough to be read back. -/
structure IsTreeOf (g : Grammar) (maxDepth : Int) (symbol : String) (t : Derivation) : Prop where
  symbol_eq : t.symbol = symbol
  valid : t.ValidFor g
  depth_le : (t.depth : Int) ≤ maxDepth
  index_lt : ∀ s i parts, choice s i parts ∈ t.subtrees → i < 10 ^ ValueKind.digitLimit

end Derivation

/-! ### Rendering a tree from its values -/

/-- A symbol that stands for a kind of value has no alternatives. -/
theorem Grammar.ofPlaceholder?_eq_none {g : Grammar} {s : String} {i : Nat} {p : Production}
    (h : (g.alternatives s)[i]? = some p) : ValueKind.ofPlaceholder? s = none := by
  by_contra hne
  rw [alternatives, if_pos (Option.isSome_iff_ne_none.mpr hne)] at h
  simp at h

namespace Renderer

variable {r : Renderer}

/-- A selected alternative shows a tree if its children show the parts. -/
theorem shows_selectedNode {symbol : String} {path : Path} {showLabel : Bool} {i : Nat}
    {p : Production} {children : List Node} {parts : List Derivation}
    (hp : (r.options symbol)[i]? = some p) (hsymbols : parts.map Derivation.symbol = p.slotNames)
    (h : List.Forall₂ (Node.Shows r.grammar) children parts) :
    (r.selectedNode symbol path showLabel i p children).Shows r.grammar
      (.choice symbol i parts) := by
  obtain ⟨htrees, -, htexts, hvalid⟩ := Node.forall₂_shows h
  refine ⟨?_, rfl, .choice hp hsymbols hvalid, ?_⟩
  · rw [Node.derivation?_choice rfl]
    simp only [selectedNode, htrees, Option.map_some]
  · rw [Derivation.text_choice hp, htexts, selectedNode]

/-- A submitted index selects its alternative, whatever the default is. -/
theorem resolution_of_submitted {symbol : String} {path : Path} {i : Nat} {p : Production}
    (hstate : r.state.get? (r.key symbol path) = some (toString i))
    (hi : i < 10 ^ ValueKind.digitLimit) (hp : (r.options symbol)[i]? = some p)
    (default? : Option DefaultValue) : r.resolution symbol path default? = .selected i p := by
  have hsel : r.selection symbol path default? = some i := by
    rw [selection, hstate, choose]
    exact submittedIndex_toString (List.getElem?_eq_some_iff.mp hp).1 hi
  exact resolution_eq_selected_iff.mpr ⟨Grammar.ofPlaceholder?_eq_none hp, hsel, hp⟩

/-- The nodes in the slots of an alternative are related to some trees if each symbol of a tree is
rendered in its slot to a node that is. -/
theorem forall₂_slotNodes {levels : Nat} {path : Path} {p : Production}
    {parts : List Derivation} {R : Node → Derivation → Prop}
    (hsymbols : parts.map Derivation.symbol = p.slotNames)
    (h : ∀ (j : Nat) (t : Derivation), parts[j]? = some t →
      R (r.renderLevels levels t.symbol (path ++ [(j : Int) + 1])
        (r.grammar.defaultOf t.symbol) (!r.inline)).1 t) :
    List.Forall₂ R ((r.slotNodes levels path p).map Prod.fst) parts := by
  refine forall₂_of_getElem? ?_ fun j m t hm ht => ?_
  · rw [List.length_map, slotNodes_length, ← hsymbols, List.length_map]
  · rw [slotNodes, List.getElem?_map, List.getElem?_mapIdx, ← hsymbols, List.getElem?_map,
      ht] at hm
    cases hm
    exact h j t ht

/-- **A tree is rendered from its values**, at any path and with any default. -/
theorem shows_of_carries {t : Derivation} (ht : t.ValidFor r.grammar) :
    ∀ (levels : Nat) (path : Path) (default? : Option DefaultValue) (showLabel : Bool),
      t.depth < levels →
      (∀ s i parts, .choice s i parts ∈ t.subtrees → i < 10 ^ ValueKind.digitLimit) →
      r.state.Carries (t.fields r.key path) →
      let n := (r.renderLevels levels t.symbol path default? showLabel).1
      n.valid = true ∧ n.Shows r.grammar t := by
  induction ht with
  | @leaf s text kind hkind haccepts =>
    intro levels path default? showLabel hdepth _ hstate n
    obtain ⟨levels, rfl⟩ := Nat.exists_eq_succ_of_ne_zero (Nat.ne_zero_of_lt hdepth)
    have hget : r.state.get? (r.key s path) = some text := hstate _ _ (List.mem_cons_self ..)
    have hn : n = r.leafNode s path showLabel kind default? := by
      simp only [n, renderLevels_succ, Derivation.symbol, resolution_eq_leaf_iff.mpr hkind]
    rw [hn, leafNode, hget]
    simp only [leafText, haccepts]
    exact ⟨trivial, Node.derivation?_text rfl, rfl, .leaf hkind haccepts, rfl⟩
  | @choice s i p parts hp hsymbols hparts ih =>
    intro levels path default? showLabel hdepth hindex hstate n
    obtain ⟨levels, rfl⟩ := Nat.exists_eq_succ_of_ne_zero (Nat.ne_zero_of_lt hdepth)
    rw [Derivation.subtrees_choice] at hindex
    have hres : r.resolution s path default? = .selected i p := by
      refine resolution_of_submitted (hstate _ _ ?_) (hindex s i parts ?_) hp default?
      · rw [Derivation.fields_choice]
        exact List.mem_cons_self ..
      · exact List.mem_cons_self ..
    have hn : n = r.selectedNode s path showLabel i p
        ((r.slotNodes levels path p).map Prod.fst) := by
      simp only [n, renderLevels_succ, Derivation.symbol, hres]
    -- A slot is rendered with one level less, and the part in it has its values in the state.
    have hchildren : List.Forall₂ (fun n t => n.valid = true ∧ n.Shows r.grammar t)
        ((r.slotNodes levels path p).map Prod.fst) parts := by
      refine forall₂_slotNodes hsymbols fun j t ht => ?_
      have hmem : t ∈ parts := List.mem_of_getElem? ht
      refine ih t hmem levels _ _ _ ?_ (fun s' i' parts' h => hindex s' i' parts' ?_)
        (hstate.mono fun q hq => Derivation.mem_fields_choice ht hq)
      · exact Nat.lt_of_lt_of_le (Derivation.depth_lt_of_mem hmem) (Nat.le_of_lt_succ hdepth)
      · exact List.mem_cons_of_mem _ (List.mem_flatMap_of_mem hmem h)
    obtain ⟨hvalid, hshows⟩ := (List.forall₂_and_left _ _).mp hchildren
    refine ⟨?_, hn ▸ shows_selectedNode hp hsymbols hshows⟩
    rw [hn]
    exact List.all_eq_true.mpr hvalid

/-- **A rendered tree has the symbols of the tree that it shows.** -/
theorem map_symbol_nodes (levels : Nat) : ∀ (symbol : String) (path : Path)
    (default? : Option DefaultValue) (showLabel : Bool) {t : Derivation},
    let n := (r.renderLevels levels symbol path default? showLabel).1
    n.derivation? = some t → n.nodes.map (·.symbol) = t.subtrees.map Derivation.symbol := by
  induction levels with
  | zero => exact fun _ _ _ _ _ h => nomatch h
  | succ levels ih =>
    intro symbol path default? showLabel t
    dsimp only
    rw [renderLevels_succ]
    cases hres : r.resolution symbol path default? with
    | unknown | unresolved => exact fun h => nomatch h
    | leaf kind =>
      intro h
      cases (Node.derivation?_text rfl).symm.trans h
      rfl
    | selected i p =>
      intro h
      rw [Node.derivation?_choice rfl, Option.map_eq_some_iff] at h
      obtain ⟨parts, hparts, rfl⟩ := h
      have hshown := Node.derivationsOf?_eq_some_iff.mp hparts
      have hbelow : List.Forall₂
          (fun c u => c.nodes.map (·.symbol) = u.subtrees.map Derivation.symbol)
          ((r.slotNodes levels path p).map Prod.fst) parts := by
        refine forall₂_of_getElem? hshown.length_eq fun j c u hc hu => ?_
        have htree : c.derivation? = some u := rel_of_getElem? hshown hc hu
        rw [slotNodes, List.getElem?_map, List.getElem?_mapIdx, Option.map_map,
          Option.map_eq_some_iff] at hc
        obtain ⟨name, -, rfl⟩ := hc
        exact ih _ _ _ _ htree
      rw [Node.nodes_eq, Derivation.subtrees_choice, List.map_cons, List.map_cons, List.map_flatMap,
        List.map_flatMap, List.flatMap_def, List.flatMap_def, ← map_eq_map_of_forall₂ hbelow]
      rfl

end Renderer

end GrammarForm
