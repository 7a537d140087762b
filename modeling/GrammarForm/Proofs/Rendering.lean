import GrammarForm.Form.Renderer
import GrammarForm.Proofs.Extension
import GrammarForm.Proofs.FormKey

/-!
# The shape of a rendering

What becomes of a symbol is decided by its record and by the one value that is submitted under its
key: it is a leaf, it is unknown, its choice is unresolved, or one of its alternatives is selected.
Each of these cases gives one node, and only the last one goes on, to the symbols of the selected
alternative that are no keywords.  All statements about renderings rest on this case distinction.

## Main definitions

* `Production.slotNames` : the symbols of an alternative that are no keywords.
* `Production.words` : the words of an alternative, with texts in place of these symbols.
* `Resolution`, `Renderer.resolution` : what becomes of a symbol.
* `Renderer.slotNodes` : what is rendered below a selected alternative.

## Main results

* `Renderer.renderLevels_succ` : the node of a symbol, case by case.
* `Renderer.exists_renderLevels_of_mem_nodes` : every node below a rendering is a rendering.
* `Renderer.symbol_of_mem_nodes` : the symbols below a rendering are no keywords.
* `Renderer.keyBlock_fields` : the keys of a rendering are distinct and lie at its path or below.
-/

namespace GrammarForm

/-! ### Alternatives with their slots filled -/

/-- The names of the symbols that are no keywords. -/
def slotNamesOf (symbols : List Symbol) : List String :=
  (symbols.filter (!·.isTerminal)).map (·.name)

/-- The words of a sequence of symbols: a keyword stands for itself, any other symbol for the next
one of the texts. -/
def wordsOf : List Symbol → List String → List String
  | [], _ => []
  | s :: rest, texts =>
    if s.isTerminal then s.name :: wordsOf rest texts
    else texts.headD "" :: wordsOf rest texts.tail

namespace Production

/-- The names of the symbols that are no keywords. -/
def slotNames (p : Production) : List String :=
  slotNamesOf p.symbols

/-- The words of an alternative, the texts standing for the symbols that are no keywords. -/
def words (p : Production) (texts : List String) : List String :=
  wordsOf p.symbols texts

end Production

/-- The symbols in the slots of an alternative are no keywords. -/
theorem Grammar.roleOf_ne_terminal_of_mem_slotNames {g : Grammar} {symbol name : String}
    {p : Production} (hp : p ∈ g.alternatives symbol) (hname : name ∈ p.slotNames) :
    g.roleOf name ≠ .terminal := by
  obtain ⟨r, -, -, names, -, rfl⟩ := exists_of_mem_alternatives hp
  obtain ⟨s, hs, rfl⟩ := List.mem_map.mp hname
  obtain ⟨hs, hrole⟩ := List.mem_filter.mp hs
  obtain ⟨name, -, rfl⟩ := List.mem_map.mp hs
  intro hterminal
  simp [Symbol.isTerminal, hterminal] at hrole

section Pieces

variable {α : Type} (fill : Nat → String → α)

theorem slotNamesOf_cons (s : Symbol) (rest : List Symbol) :
    slotNamesOf (s :: rest) =
      if s.isTerminal then slotNamesOf rest else s.name :: slotNamesOf rest := by
  cases h : s.isTerminal <;> simp [slotNamesOf, h]

/-- What is rendered for the pieces of an alternative, slot by slot. -/
theorem filterMap_content_pieces (symbols : List Symbol) :
    ∀ used, (pieces fill used symbols).filterMap Piece.content? =
      (slotNamesOf symbols).mapIdx fun i name => fill (used + i + 1) name := by
  induction symbols with
  | nil => intro used; rfl
  | cons s rest ih =>
    intro used
    rw [pieces, slotNamesOf_cons]
    cases s.isTerminal with
    | true => exact ih used
    | false =>
      simp only [Bool.false_eq_true, if_false, List.filterMap_cons, Piece.content?, ih (used + 1),
        List.mapIdx_cons, Nat.add_zero]
      simp only [Nat.add_comm, Nat.add_left_comm]

/-- The texts of the pieces of an alternative are its words. -/
theorem map_text_pieces (text : α → String) (symbols : List Symbol) :
    ∀ used, (pieces fill used symbols).map (Piece.text text) =
      wordsOf symbols (((pieces fill used symbols).filterMap Piece.content?).map text) := by
  induction symbols with
  | nil => intro used; rfl
  | cons s rest ih =>
    intro used
    rw [pieces, wordsOf]
    cases s.isTerminal with
    | true => exact congrArg (s.name :: ·) (ih used)
    | false => exact congrArg (text (fill (used + 1) s.name) :: ·) (ih (used + 1))

end Pieces

/-! ### Trees of nodes -/

namespace Node

/-- What holds of a node if it holds of its children holds of every node. -/
theorem induct {P : Node → Prop} (h : ∀ n : Node, (∀ c ∈ n.children, P c) → P n) (n : Node) :
    P n :=
  h n fun c _hc => induct h c
termination_by n
decreasing_by
  cases n
  have hlt := List.sizeOf_lt_of_mem _hc
  simp only [mk.sizeOf_spec] at hlt ⊢
  omega

theorem nodesOf_eq_flatMap : (ns : List Node) → nodesOf ns = ns.flatMap nodes
  | [] => rfl
  | n :: rest => by rw [nodesOf, nodesOf_eq_flatMap rest, List.flatMap_cons]

theorem nodes_eq (n : Node) : n.nodes = n :: n.children.flatMap nodes := by
  rw [← nodesOf_eq_flatMap]
  cases n
  rfl

theorem self_mem_nodes (n : Node) : n ∈ n.nodes := by
  rw [nodes_eq]
  exact List.mem_cons_self ..

/-- What holds of the nodes of a tree holds of its root and of the nodes below. -/
theorem forall_mem_nodes_iff {n : Node} {P : Node → Prop} :
    (∀ m ∈ n.nodes, P m) ↔ P n ∧ ∀ c ∈ n.children, ∀ m ∈ c.nodes, P m := by
  rw [nodes_eq, List.forall_mem_cons]
  simp only [List.mem_flatMap, forall_exists_index, and_imp]
  exact and_congr_right' ⟨fun h c hc m hm => h m c hc hm, fun h m c hc hm => h c hc m hm⟩

/-- The values of a subtree are the own one and those of the subtrees below. -/
theorem fields_eq (n : Node) : n.fields = n.ownField.toList ++ n.children.flatMap fields := by
  rw [fields, nodes_eq, List.filterMap_cons, List.filterMap_flatMap]
  cases n.ownField <;> rfl

theorem keys_fields_eq (n : Node) : n.fields.map Prod.fst =
    n.ownField.toList.map Prod.fst ++ (n.children.map fun c => c.fields.map Prod.fst).flatten := by
  rw [fields_eq, List.map_append, List.map_flatMap, List.flatMap_def]

/-- The own value of a node stands under the key of the node. -/
theorem key_of_mem_ownField {n : Node} {k : String} (h : k ∈ n.ownField.toList.map Prod.fst) :
    k = n.key := by
  cases hw : n.widget <;> simp_all [ownField]

end Node

/-! ### What becomes of a symbol -/

/-- What becomes of a symbol when it is rendered. -/
inductive Resolution where
  /-- A text field for a kind of value. -/
  | leaf (kind : ValueKind)
  /-- A symbol without alternatives. -/
  | unknown
  /-- A choice in which nothing is selected. -/
  | unresolved
  /-- A choice in which an alternative is selected. -/
  | selected (index : Nat) (p : Production)

namespace Renderer

variable (r : Renderer)

/-- The selected alternative is one of the alternatives. -/
theorem lt_length_of_choose {options : List Production} {default? : Option DefaultValue}
    {submitted? : Option String} {i : Nat} (h : choose options default? submitted? = some i) :
    i < options.length := by
  unfold choose at h
  split at h
  next => exact lt_of_submittedIndex h
  next =>
    dsimp only at h
    split at h
    next j hj =>
      cases h
      split at hj
      next => exact (List.findIdx?_eq_some_iff_getElem.mp hj).1
      next => exact absurd hj (Option.some_ne_none _).symm
    next =>
      split at h
      next hlength => cases h; omega
      next => exact absurd h (Option.some_ne_none _).symm

/-- The alternatives offered for a symbol: those at the end of its chain of aliases. -/
def options (symbol : String) : List Production :=
  r.grammar.alternatives (r.grammar.startSymbol symbol)

/-- The selected index in the choice for a symbol. -/
def selection (symbol : String) (path : Path) (default? : Option DefaultValue) : Option Nat :=
  choose (r.options symbol) default? (r.state.get? (r.key symbol path))

/-- What becomes of a symbol at a path. -/
def resolution (symbol : String) (path : Path) (default? : Option DefaultValue) : Resolution :=
  match ValueKind.ofPlaceholder? (r.grammar.startSymbol symbol) with
  | some kind => .leaf kind
  | none =>
    if (r.options symbol).isEmpty then .unknown
    else
      match (r.selection symbol path default?).bind fun i => (r.options symbol)[i]?.map (i, ·) with
      | none => .unresolved
      | some (i, p) => .selected i p

section Cases

variable {r} {symbol : String} {path : Path} {default? : Option DefaultValue}

/-- The selected index is the index of an alternative. -/
theorem exists_getElem?_of_selection {i : Nat} (h : r.selection symbol path default? = some i) :
    ∃ p, (r.options symbol)[i]? = some p :=
  ⟨_, List.getElem?_eq_getElem (lt_length_of_choose h)⟩

/-- A symbol is a leaf exactly if its chain of aliases ends at a kind of value. -/
theorem resolution_eq_leaf_iff {kind : ValueKind} :
    r.resolution symbol path default? = .leaf kind ↔
      ValueKind.ofPlaceholder? (r.grammar.startSymbol symbol) = some kind := by
  unfold resolution
  split
  next h => simp [h]
  next h =>
    rw [h]
    split
    next => simp
    next => split <;> simp

/-- A symbol is unknown exactly if its chain of aliases ends at a symbol without alternatives. -/
theorem resolution_eq_unknown_iff :
    r.resolution symbol path default? = .unknown ↔
      ValueKind.ofPlaceholder? (r.grammar.startSymbol symbol) = none ∧ r.options symbol = [] := by
  unfold resolution
  split
  next h => simp [h]
  next h =>
    split
    next hempty => simp [h, List.isEmpty_iff.mp hempty]
    next hempty =>
      rw [List.isEmpty_iff] at hempty
      split <;> simp [hempty]

/-- A choice is unresolved exactly if there are alternatives and none is selected. -/
theorem resolution_eq_unresolved_iff :
    r.resolution symbol path default? = .unresolved ↔
      ValueKind.ofPlaceholder? (r.grammar.startSymbol symbol) = none ∧ r.options symbol ≠ [] ∧
        r.selection symbol path default? = none := by
  unfold resolution
  split
  next h => simp [h]
  next h =>
    split
    next hempty => simp [List.isEmpty_iff.mp hempty]
    next hempty =>
      rw [List.isEmpty_iff] at hempty
      cases hsel : r.selection symbol path default? with
      | none => simp [h, hempty]
      | some i =>
        obtain ⟨p, hp⟩ := exists_getElem?_of_selection hsel
        simp [hp]

/-- An alternative is selected exactly if it stands at the selected index. -/
theorem resolution_eq_selected_iff {i : Nat} {p : Production} :
    r.resolution symbol path default? = .selected i p ↔
      ValueKind.ofPlaceholder? (r.grammar.startSymbol symbol) = none ∧
        r.selection symbol path default? = some i ∧ (r.options symbol)[i]? = some p := by
  unfold resolution
  split
  next h => simp [h]
  next h =>
    split
    next hempty => simp [List.isEmpty_iff.mp hempty]
    next =>
      cases hsel : r.selection symbol path default? with
      | none => simp
      | some j =>
        obtain ⟨q, hq⟩ := exists_getElem?_of_selection hsel
        simp only [Option.bind_some, hq, Option.map_some, Resolution.selected.injEq, h, true_and,
          Option.some.injEq]
        exact and_congr_right fun hj => by rw [← hj, hq, Option.some.injEq]

end Cases

/-! ### The node of a symbol -/

/-- What is rendered below a selected alternative, slot by slot. -/
def slotNodes (levels : Nat) (path : Path) (p : Production) : List (Node × List Notice) :=
  p.slotNames.mapIdx fun i name =>
    r.renderLevels levels name (path ++ [(i : Int) + 1]) (r.grammar.defaultOf name) (!r.inline)

/-- The node of a choice with a selected alternative, from the nodes in its slots. -/
def selectedNode (symbol : String) (path : Path) (showLabel : Bool) (i : Nat) (p : Production)
    (children : List Node) : Node :=
  { key := r.key symbol path
    symbol
    path
    tooltip := r.grammar.explanation symbol
    showLabel
    widget := some (r.choiceAmong (r.grammar.startSymbol symbol) (r.options symbol) (some i))
    children
    text := " ".intercalate (p.words (children.map (·.text)))
    valid := children.all (·.valid)
    issue := none }

/-- The node of a choice in which nothing is selected. -/
def openNode (symbol : String) (path : Path) (showLabel : Bool) : Node :=
  r.unresolvedNode symbol path showLabel
    (some (r.choiceAmong (r.grammar.startSymbol symbol) (r.options symbol) none)) .unresolvedChoice

/-- The node of a symbol without alternatives. -/
def unknownNode (symbol : String) (path : Path) (showLabel : Bool) : Node :=
  r.unresolvedNode symbol path showLabel (some (.choice [] none unresolvedTooltip false))
    .unknownSymbol

/-- The node of a symbol that is nested too deeply. -/
def deepNode (symbol : String) (path : Path) (showLabel : Bool) : Node :=
  r.unresolvedNode symbol path showLabel none .tooDeep

theorem renderLevels_zero (symbol : String) (path : Path) (default? : Option DefaultValue)
    (showLabel : Bool) : r.renderLevels 0 symbol path default? showLabel =
      (r.deepNode symbol path showLabel, [.nestingLimit r.maxDepth r.command path]) :=
  rfl

private theorem resolvedNode_pieces (symbol : String) (path : Path) (showLabel : Bool) (i : Nat)
    (p : Production) (fill : Nat → String → Node × List Notice) :
    r.resolvedNode symbol path showLabel
        (r.choiceAmong (r.grammar.startSymbol symbol) (r.options symbol) (some i))
        ((pieces fill 0 p.symbols).map fun
          | .keyword name => .keyword name
          | .slot rendered => .slot rendered.1) =
      r.selectedNode symbol path showLabel i p
        (((pieces fill 0 p.symbols).filterMap Piece.content?).map Prod.fst) := by
  have hcontent (ps : List (Piece (Node × List Notice))) :
      (ps.map fun
        | .keyword name => (.keyword name : Piece Node)
        | .slot rendered => .slot rendered.1).filterMap Piece.content? =
      (ps.filterMap Piece.content?).map Prod.fst := by
    rw [List.filterMap_map, List.map_filterMap]
    refine List.filterMap_congr fun q _ => ?_
    cases q <;> rfl
  have htext (ps : List (Piece (Node × List Notice))) :
      (ps.map fun
        | .keyword name => (.keyword name : Piece Node)
        | .slot rendered => .slot rendered.1).map (Piece.text (·.text)) =
      ps.map (Piece.text (·.1.text)) := by
    rw [List.map_map]
    refine List.map_congr_left fun q _ => ?_
    cases q <;> rfl
  rw [resolvedNode, selectedNode, hcontent, htext, map_text_pieces, List.map_map, Production.words]
  rfl

/-- **The node of a symbol**, case by case. -/
theorem renderLevels_succ (levels : Nat) (symbol : String) (path : Path)
    (default? : Option DefaultValue) (showLabel : Bool) :
    r.renderLevels (levels + 1) symbol path default? showLabel =
      match r.resolution symbol path default? with
      | .leaf kind => (r.leafNode symbol path showLabel kind default?, [])
      | .unknown => (r.unknownNode symbol path showLabel, [])
      | .unresolved => (r.openNode symbol path showLabel, [])
      | .selected i p =>
        (r.selectedNode symbol path showLabel i p ((r.slotNodes levels path p).map Prod.fst),
          (r.slotNodes levels path p).flatMap Prod.snd) := by
  rw [renderLevels]
  cases hres : r.resolution symbol path default? with
  | leaf kind => simp only [resolution_eq_leaf_iff.mp hres]
  | unknown =>
    obtain ⟨hleaf, hnil⟩ := resolution_eq_unknown_iff.mp hres
    rw [options] at hnil
    simp only [hleaf, hnil, List.isEmpty_nil, if_true]
    rfl
  | unresolved =>
    obtain ⟨hleaf, hne, hsel⟩ := resolution_eq_unresolved_iff.mp hres
    rw [selection] at hsel
    rw [options] at hne hsel
    simp only [hleaf, List.isEmpty_iff, hne, if_false, hsel, Option.bind_none]
    rfl
  | selected i p =>
    obtain ⟨hleaf, hsel, hp⟩ := resolution_eq_selected_iff.mp hres
    have hne : r.options symbol ≠ [] := List.ne_nil_of_mem (List.mem_of_getElem? hp)
    rw [selection] at hsel
    rw [options] at hne hsel hp
    simp only [hleaf, List.isEmpty_iff, hne, if_false, hsel, Option.bind_some, hp]
    have hslots : (pieces (fun i name => r.renderLevels levels name (path ++ [(i : Int)])
        (r.grammar.defaultOf name) (!r.inline)) 0 p.symbols).filterMap Piece.content? =
        r.slotNodes levels path p := by
      rw [filterMap_content_pieces, slotNodes, Production.slotNames]
      simp only [Nat.zero_add, Nat.cast_add, Nat.cast_one]
    rw [← hslots, ← resolvedNode_pieces]
    rfl

/-! ### The tree of a rendering -/

theorem slotNodes_length (levels : Nat) (path : Path) (p : Production) :
    (r.slotNodes levels path p).length = p.slotNames.length := by
  rw [slotNodes, List.length_mapIdx]

theorem getElem_slotNodes {levels : Nat} {path : Path} {p : Production} {i : Nat}
    (h : i < (r.slotNodes levels path p).length) :
    have hi : i < p.slotNames.length := r.slotNodes_length levels path p ▸ h
    (r.slotNodes levels path p)[i] =
      r.renderLevels levels p.slotNames[i] (path ++ [(i : Int) + 1])
        (r.grammar.defaultOf p.slotNames[i]) (!r.inline) := by
  simp only [slotNodes, List.getElem_mapIdx]

/-- The node of a symbol at a path carries the symbol, the path and their key. -/
theorem renderLevels_place (levels : Nat) (symbol : String) (path : Path)
    (default? : Option DefaultValue) (showLabel : Bool) :
    let n := (r.renderLevels levels symbol path default? showLabel).1
    n.symbol = symbol ∧ n.path = path ∧ n.key = r.key symbol path := by
  cases levels with
  | zero => exact ⟨rfl, rfl, rfl⟩
  | succ levels =>
    rw [renderLevels_succ]
    cases r.resolution symbol path default? <;> exact ⟨rfl, rfl, rfl⟩

theorem map_symbol_slotNodes (levels : Nat) (path : Path) (p : Production) :
    ((r.slotNodes levels path p).map Prod.fst).map (·.symbol) = p.slotNames := by
  refine List.ext_getElem (by simp [slotNodes_length]) fun i hi hi' => ?_
  simp only [List.getElem_map, getElem_slotNodes]
  exact (r.renderLevels_place ..).1

/-- The child in a slot of a rendering is a rendering one level further down, of a symbol that is no
keyword, and it starts from the default of its symbol in the grammar. -/
theorem exists_renderLevels_of_children {levels i : Nat} {symbol : String} {path : Path}
    {default? : Option DefaultValue} {showLabel : Bool} {c : Node}
    (h : (r.renderLevels (levels + 1) symbol path default? showLabel).1.children[i]? = some c) :
    ∃ name, r.grammar.roleOf name ≠ .terminal ∧
      c = (r.renderLevels levels name (path ++ [(i : Int) + 1]) (r.grammar.defaultOf name)
        (!r.inline)).1 := by
  rw [renderLevels_succ] at h
  cases hres : r.resolution symbol path default? with
  | selected j p =>
    rw [hres] at h
    obtain ⟨hi, rfl⟩ := List.getElem?_eq_some_iff.mp h
    simp only [selectedNode, List.getElem_map, getElem_slotNodes]
    exact ⟨_, Grammar.roleOf_ne_terminal_of_mem_slotNames
      (List.mem_of_getElem? (resolution_eq_selected_iff.mp hres).2.2) (List.getElem_mem _), rfl⟩
  | leaf | unknown | unresolved =>
    rw [hres] at h
    exact absurd h (Option.some_ne_none c).symm

/-- **Every node below a rendering is a rendering**, of its own symbol at its own path. -/
theorem exists_renderLevels_of_mem_nodes {m : Node} (levels : Nat) :
    ∀ (symbol : String) (path : Path) (default? : Option DefaultValue) (showLabel : Bool),
      m ∈ (r.renderLevels levels symbol path default? showLabel).1.nodes →
      ∃ levels' default' showLabel',
        m = (r.renderLevels levels' m.symbol m.path default' showLabel').1 := by
  induction levels with
  | zero =>
    intro symbol path default? showLabel hm
    cases List.mem_singleton.mp hm
    exact ⟨0, default?, showLabel, rfl⟩
  | succ levels ih =>
    intro symbol path default? showLabel hm
    obtain ⟨hsymbol, hpath, -⟩ := r.renderLevels_place (levels + 1) symbol path default? showLabel
    rw [Node.nodes_eq] at hm
    rcases List.mem_cons.mp hm with rfl | hm
    · exact ⟨levels + 1, default?, showLabel, by rw [hsymbol, hpath]⟩
    · obtain ⟨c, hc, hm⟩ := List.mem_flatMap.mp hm
      obtain ⟨i, hi⟩ := List.getElem?_of_mem hc
      obtain ⟨name, -, rfl⟩ := r.exists_renderLevels_of_children hi
      exact ih _ _ _ _ hm

/-- **Below its root a rendering has no keywords**, but the symbols in the slots of selected
alternatives. -/
theorem symbol_of_mem_nodes {m : Node} (levels : Nat) :
    ∀ (symbol : String) (path : Path) (default? : Option DefaultValue) (showLabel : Bool),
      m ∈ (r.renderLevels levels symbol path default? showLabel).1.nodes →
      m.symbol = symbol ∨ r.grammar.roleOf m.symbol ≠ .terminal := by
  induction levels with
  | zero =>
    intro symbol path default? showLabel hm
    cases List.mem_singleton.mp hm
    exact Or.inl rfl
  | succ levels ih =>
    intro symbol path default? showLabel hm
    rw [Node.nodes_eq] at hm
    rcases List.mem_cons.mp hm with rfl | hm
    · exact Or.inl (r.renderLevels_place (levels + 1) symbol path default? showLabel).1
    obtain ⟨c, hc, hm⟩ := List.mem_flatMap.mp hm
    obtain ⟨i, hi⟩ := List.getElem?_of_mem hc
    obtain ⟨name, hrole, rfl⟩ := r.exists_renderLevels_of_children hi
    refine (ih _ _ _ _ hm).elim (fun hsymbol => Or.inr ?_) Or.inr
    rwa [hsymbol]

/-- Below its root a rendering starts from the defaults of the grammar. -/
theorem exists_renderLevels_of_mem_children {m : Node} (levels : Nat) :
    ∀ (symbol : String) (path : Path) (default? : Option DefaultValue) (showLabel : Bool),
      m ∈ (r.renderLevels levels symbol path default? showLabel).1.children.flatMap Node.nodes →
      ∃ levels' showLabel', m = (r.renderLevels levels' m.symbol m.path
        (r.grammar.defaultOf m.symbol) showLabel').1 := by
  induction levels with
  | zero => exact fun _ _ _ _ hm => absurd hm List.not_mem_nil
  | succ levels ih =>
    intro symbol path default? showLabel hm
    obtain ⟨c, hc, hm⟩ := List.mem_flatMap.mp hm
    obtain ⟨i, hi⟩ := List.getElem?_of_mem hc
    obtain ⟨name, -, rfl⟩ := r.exists_renderLevels_of_children hi
    rw [Node.nodes_eq] at hm
    rcases List.mem_cons.mp hm with rfl | hm
    · obtain ⟨hsymbol, hpath, -⟩ := r.renderLevels_place levels name (path ++ [(i : Int) + 1])
        (r.grammar.defaultOf name) (!r.inline)
      exact ⟨levels, !r.inline, by rw [hsymbol, hpath]⟩
    · exact ih _ _ _ _ hm

/-- **The keys of a rendering** are distinct and lie at its path or below. -/
theorem keyBlock_fields (hdigest : HasFixedLength r.digest) (levels : Nat) :
    ∀ (symbol : String) (path : Path) (default? : Option DefaultValue) (showLabel : Bool),
      KeyBlock r.digest path
        ((r.renderLevels levels symbol path default? showLabel).1.fields.map Prod.fst) := by
  induction levels with
  | zero =>
    intro symbol path default? showLabel
    exact ⟨fun _ h => absurd h List.not_mem_nil, List.nodup_nil⟩
  | succ levels ih =>
    intro symbol path default? showLabel
    have hkey := (r.renderLevels_place (levels + 1) symbol path default? showLabel).2.2
    rw [Node.keys_fields_eq]
    refine KeyBlock.join hdigest (fun k hk => ?_) ?_ fun i hi => ?_
    · rw [Node.key_of_mem_ownField hk, hkey]
      exact isKeyAt_widgetKey ..
    · cases (r.renderLevels (levels + 1) symbol path default? showLabel).1.ownField <;> simp
    · rw [List.length_map] at hi
      obtain ⟨name, -, hc⟩ := r.exists_renderLevels_of_children (List.getElem?_eq_getElem hi)
      rw [List.getElem_map, hc]
      exact ih _ _ _ _

end Renderer

end GrammarForm
