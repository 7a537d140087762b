import GrammarForm.Proofs.Reading

/-!
# The nesting limit

A symbol may contain itself, so a rendering goes down to a limited depth only.  The nodes one level
below the limit are cut off: they have no widget and nothing below them, and each of them gives one
warning.  A node is addressed by the slots that lead to it from the root, so its level is the length
of its address, and its path comes from its address.

If nothing was cut off, the limit had no influence, and a greater one gives the same rendering.

## Main definitions

* `Path.ofSlots` : the path that slots lead to.
* `Node.nodeAt?` : the node at an address.
* `Node.cutOff` : the nodes of a tree that were cut off.
* `Renderer.IsNested` : a node has the place of its address and is cut off below the limit only.

## Main results

* `Node.mem_nodes_iff_exists_nodeAt?` : every node of a tree has an address.
* `Renderer.exists_renderLevels_of_nodeAt?` : what is rendered at an address.
* `Renderer.renderLevels_withMaxDepth` : a rendering without cut off nodes ignores the limit.
* `Renderer.isNested_render` : the nodes, the notices and the limit of a rendering.
-/

namespace GrammarForm

/-! ### Addresses -/

/-- The part of a path that leads through some slots: they are counted from zero, and numbered from
one. -/
def Path.ofSlots (slots : List Nat) : Path :=
  slots.map fun (i : Nat) => (i : Int) + 1

theorem Path.ofSlots_cons (i : Nat) (slots : List Nat) :
    ofSlots (i :: slots) = [(i : Int) + 1] ++ ofSlots slots :=
  rfl

namespace Node

/-- The node that is reached through the children in some slots, counted from zero. -/
def nodeAt? : Node → List Nat → Option Node
  | n, [] => some n
  | n, i :: slots => n.children[i]?.bind (nodeAt? · slots)

theorem nodeAt?_cons_eq_some_iff {n m : Node} {i : Nat} {slots : List Nat} :
    n.nodeAt? (i :: slots) = some m ↔ ∃ c, n.children[i]? = some c ∧ c.nodeAt? slots = some m := by
  rw [nodeAt?, Option.bind_eq_some_iff]

/-- **Every node of a tree has an address**, and what has one is a node of the tree. -/
theorem mem_nodes_iff_exists_nodeAt? {n m : Node} :
    m ∈ n.nodes ↔ ∃ slots, n.nodeAt? slots = some m := by
  induction n using Node.induct with
  | h n ih =>
    rw [nodes_eq, List.mem_cons, List.mem_flatMap]
    constructor
    · rintro (rfl | ⟨c, hc, hm⟩)
      · exact ⟨[], rfl⟩
      · obtain ⟨i, hi⟩ := List.getElem?_of_mem hc
        obtain ⟨slots, hslots⟩ := (ih c hc).mp hm
        exact ⟨i :: slots, nodeAt?_cons_eq_some_iff.mpr ⟨c, hi, hslots⟩⟩
    · rintro ⟨_ | ⟨i, slots⟩, hm⟩
      · exact .inl (Option.some.inj hm).symm
      · obtain ⟨c, hi, hslots⟩ := nodeAt?_cons_eq_some_iff.mp hm
        have hc := List.mem_of_getElem? hi
        exact .inr ⟨c, hc, (ih c hc).mpr ⟨slots, hslots⟩⟩

/-! ### Nodes that were cut off -/

/-- The nodes of a tree that were cut off, depth first. -/
def cutOff (n : Node) : List Node :=
  n.nodes.filter (·.issue = some .tooDeep)

theorem cutOff_eq (n : Node) :
    n.cutOff = (if n.issue = some .tooDeep then [n] else []) ++ n.children.flatMap cutOff := by
  rw [cutOff, nodes_eq, List.filter_cons, List.filter_flatMap]
  by_cases h : n.issue = some .tooDeep
  · simp only [h, decide_true, if_true]
    rfl
  · simp only [h, decide_false, Bool.false_eq_true, if_false]
    rfl

end Node

namespace Renderer

variable (r : Renderer)

/-- What is rendered at an address: as many levels less as the address has slots, and at the path
that these slots lead to. -/
theorem exists_renderLevels_of_nodeAt? {m : Node} (slots : List Nat) :
    ∀ (levels : Nat) (symbol : String) (path : Path) (default? : Option DefaultValue)
      (showLabel : Bool),
      (r.renderLevels levels symbol path default? showLabel).1.nodeAt? slots = some m →
      slots.length ≤ levels ∧ ∃ symbol' default' showLabel',
        m = (r.renderLevels (levels - slots.length) symbol'
          (path ++ Path.ofSlots slots) default' showLabel').1 := by
  induction slots with
  | nil =>
    intro levels symbol path default? showLabel h
    refine ⟨Nat.zero_le _, symbol, default?, showLabel, (Option.some.inj h).symm.trans ?_⟩
    rw [Path.ofSlots, List.map_nil, List.append_nil, List.length_nil, Nat.sub_zero]
  | cons i slots ih =>
    intro levels symbol path default? showLabel h
    obtain ⟨c, hi, hslots⟩ := Node.nodeAt?_cons_eq_some_iff.mp h
    cases levels with
    | zero => exact nomatch hi
    | succ levels =>
      obtain ⟨name, -, rfl⟩ := r.exists_renderLevels_of_children hi
      obtain ⟨hle, symbol', default', showLabel', rfl⟩ := ih _ _ _ _ _ hslots
      refine ⟨Nat.succ_le_succ hle, symbol', default', showLabel', ?_⟩
      rw [List.length_cons, Nat.add_sub_add_right, Path.ofSlots_cons, List.append_assoc]

/-- A node that is not nested too deeply is rendered on at least one level. -/
theorem exists_levelsFrom {depth : Int} (hdepth : depth ≤ r.maxDepth) :
    ∃ levels, r.levelsFrom depth = levels + 1 :=
  ⟨(r.maxDepth - depth).toNat, by rw [levelsFrom]; omega⟩

section Levels

variable {r} {levels : Nat} {symbol : String} {path : Path} {default? : Option DefaultValue}
  {showLabel : Bool}

/-- A node is cut off exactly if it is on no level at all. -/
theorem issue_renderLevels_eq_tooDeep_iff :
    (r.renderLevels levels symbol path default? showLabel).1.issue = some .tooDeep ↔
      levels = 0 := by
  cases levels with
  | zero => exact iff_of_true rfl rfl
  | succ levels =>
    refine iff_of_false (fun h => ?_) (Nat.succ_ne_zero levels)
    rw [renderLevels_succ] at h
    cases hres : r.resolution symbol path default? with
    | unknown | unresolved | selected => rw [hres] at h; cases h
    | leaf kind =>
      rw [hres] at h
      simp only [leafNode] at h
      split at h <;> cases h

/-- The cut off nodes of a rendering on at least one level are those below its root. -/
theorem cutOff_renderLevels_succ :
    (r.renderLevels (levels + 1) symbol path default? showLabel).1.cutOff =
      (r.renderLevels (levels + 1) symbol path default? showLabel).1.children.flatMap
        Node.cutOff := by
  have hissue : (r.renderLevels (levels + 1) symbol path default? showLabel).1.issue ≠
      some .tooDeep :=
    issue_renderLevels_eq_tooDeep_iff.not.mpr (Nat.succ_ne_zero levels)
  rw [Node.cutOff_eq, if_neg hissue, List.nil_append]

end Levels

/-- **The notices of a rendering** are one for each node that was cut off, depth first. -/
theorem notices_renderLevels (levels : Nat) :
    ∀ (symbol : String) (path : Path) (default? : Option DefaultValue) (showLabel : Bool),
      (r.renderLevels levels symbol path default? showLabel).2 =
        (r.renderLevels levels symbol path default? showLabel).1.cutOff.map
          fun m => .nestingLimit r.maxDepth r.command m.path := by
  induction levels with
  | zero => intro symbol path default? showLabel; rfl
  | succ levels ih =>
    intro symbol path default? showLabel
    rw [cutOff_renderLevels_succ, renderLevels_succ]
    cases hres : r.resolution symbol path default? with
    | leaf | unknown | unresolved => rfl
    | selected i p =>
      simp only [selectedNode, List.flatMap_map, List.map_flatMap]
      refine List.flatMap_congr fun c hc => ?_
      obtain ⟨j, hj, rfl⟩ := List.getElem_of_mem hc
      rw [getElem_slotNodes]
      exact ih _ _ _ _

/-! ### Greater limits -/

/-- The renderer with another limit. -/
def withMaxDepth (limit : Int) : Renderer :=
  { r with maxDepth := limit }

/-- **A rendering without cut off nodes ignores the limit**: with more levels it is the same. -/
theorem renderLevels_withMaxDepth (limit : Int) (more levels : Nat) :
    ∀ (symbol : String) (path : Path) (default? : Option DefaultValue) (showLabel : Bool),
      (r.renderLevels levels symbol path default? showLabel).1.cutOff = [] →
      (r.withMaxDepth limit).renderLevels (levels + more) symbol path default? showLabel =
        r.renderLevels levels symbol path default? showLabel := by
  induction levels with
  | zero => exact fun _ _ _ _ h => absurd h (List.cons_ne_nil _ _)
  | succ levels ih =>
    intro symbol path default? showLabel h
    have hresolution : (r.withMaxDepth limit).resolution symbol path default? =
        r.resolution symbol path default? := rfl
    rw [cutOff_renderLevels_succ, renderLevels_succ] at h
    rw [Nat.add_right_comm, renderLevels_succ, renderLevels_succ, hresolution]
    cases hres : r.resolution symbol path default? with
    | leaf | unknown | unresolved => rfl
    | selected i p =>
      rw [hres] at h
      have hslots : (r.withMaxDepth limit).slotNodes (levels + more) path p =
          r.slotNodes levels path p := by
        refine List.ext_getElem (by simp only [slotNodes_length]) fun j hj hj' => ?_
        have hchild := List.flatMap_eq_nil_iff.mp h _ (List.mem_map_of_mem (List.getElem_mem hj'))
        rw [getElem_slotNodes] at hchild
        rw [getElem_slotNodes, getElem_slotNodes]
        exact ih _ _ _ _ hchild
      simp only [hslots]
      rfl

/-! ### Rendering at a depth -/

/-- What is asked of a node that some slots lead to from the root of a rendering at a depth: its
place comes from the slots, and it is cut off exactly if its depth is one more than the limit, the
greatest depth at which there is a node. -/
structure IsNested (path : Path) (depth : Int) (slots : List Nat) (m : Node) : Prop where
  path_eq : m.path = path ++ Path.ofSlots slots
  path_children : ∀ (i : Nat) (c : Node), m.children[i]? = some c →
    c.path = m.path ++ [(i : Int) + 1]
  depth_le : depth + slots.length ≤ r.maxDepth + 1
  issue_iff : m.issue = some .tooDeep ↔ depth + slots.length = r.maxDepth + 1
  bare : m.issue = some .tooDeep → m.widget = none ∧ m.children = []

variable {r} {symbol : String} {path : Path} {default? : Option DefaultValue} {depth : Int}
  {showLabel : Bool}

/-- A node with an address is nested as its address says. -/
theorem isNested_of_nodeAt? (hdepth : depth ≤ r.maxDepth) {slots : List Nat} {m : Node}
    (h : (r.render symbol path default? depth showLabel).1.nodeAt? slots = some m) :
    r.IsNested path depth slots m := by
  obtain ⟨hle, symbol', default', showLabel', rfl⟩ :=
    r.exists_renderLevels_of_nodeAt? slots _ _ _ _ _ h
  have hlevels : (r.levelsFrom depth : Int) = r.maxDepth + 1 - depth :=
    Int.toNat_of_nonneg (by omega)
  have hpath := (r.renderLevels_place (r.levelsFrom depth - slots.length) symbol'
    (path ++ Path.ofSlots slots) default' showLabel').2.1
  refine ⟨hpath, fun i c hc => ?_, by omega, ?_, fun hissue => ?_⟩
  · rw [hpath]
    cases hrest : r.levelsFrom depth - slots.length with
    | zero => rw [hrest] at hc; exact nomatch hc
    | succ levels =>
      rw [hrest] at hc
      obtain ⟨name, -, rfl⟩ := r.exists_renderLevels_of_children hc
      exact (r.renderLevels_place ..).2.1
  · rw [issue_renderLevels_eq_tooDeep_iff]
    omega
  · rw [issue_renderLevels_eq_tooDeep_iff.mp hissue]
    exact ⟨rfl, rfl⟩

/-- **The nesting limit.**  In a rendering at a depth within the limit, every node has an address,
and it is nested as its address says.  The notices are one for each node that was cut off, depth
first and with the label of the node.  If no node was cut off, then the rendering is the same for
every greater limit. -/
theorem isNested_render (r : Renderer) (symbol : String) (path : Path)
    (default? : Option DefaultValue) {depth : Int} (showLabel : Bool)
    (hdepth : depth ≤ r.maxDepth) :
    let rendered := r.render symbol path default? depth showLabel
    (∀ m ∈ rendered.1.nodes, ∃ slots, rendered.1.nodeAt? slots = some m) ∧
    (∀ slots m, rendered.1.nodeAt? slots = some m → r.IsNested path depth slots m) ∧
    rendered.2 = rendered.1.cutOff.map (fun m => .nestingLimit r.maxDepth r.command m.path) ∧
    rendered.2.map Notice.message = rendered.1.cutOff.map (fun m =>
      s!"Nesting limit {r.maxDepth} reached in '{r.command}' at {m.label}") ∧
    (rendered.1.cutOff = [] → ∀ limit, r.maxDepth ≤ limit →
      (r.withMaxDepth limit).render symbol path default? depth showLabel = rendered) := by
  have hnotices := r.notices_renderLevels (r.levelsFrom depth) symbol path default? showLabel
  refine ⟨fun m hm => Node.mem_nodes_iff_exists_nodeAt?.mp hm,
    fun slots m h => isNested_of_nodeAt? hdepth h, hnotices, ?_, fun hnone limit hlimit => ?_⟩
  · rw [render, hnotices, List.map_map]
    rfl
  · obtain ⟨more, hmore⟩ : ∃ more, (r.withMaxDepth limit).levelsFrom depth =
        r.levelsFrom depth + more := by
      refine Nat.exists_eq_add_of_le (Int.toNat_le_toNat ?_)
      change r.maxDepth + 1 - depth ≤ limit + 1 - depth
      omega
    rw [render, hmore]
    exact r.renderLevels_withMaxDepth limit more _ _ _ _ _ hnone

/-- An addition whose first summand is an addition again, cut off below the outer one. -/
def shallowSums : Renderer where
  digest := Assembler.blankDigest
  grammar := Assembler.sumGrammar
  state := [(widgetKey Assembler.blankDigest "total" "total" [1], "1"),
    (widgetKey Assembler.blankDigest "total" "<sum>" [1, 1], "1")]
  command := "total"
  inline := false
  maxDepth := 1

theorem isNested_render_shallowSums : ∃ m, (0 : Int) ≤ shallowSums.maxDepth ∧
    (shallowSums.render "total" [1] none 0 true).1.nodeAt? [0, 1] = some m ∧
    shallowSums.IsNested [1] 0 [0, 1] m ∧ m.issue = some .tooDeep ∧
    (shallowSums.render "total" [1] none 0 true).2.map Notice.message =
      ["Nesting limit 1 reached in 'total' at 1.1.1",
        "Nesting limit 1 reached in 'total' at 1.1.2"] ∧
    (shallowSums.withMaxDepth 5).render "total" [1] none 0 true =
      (shallowSums.withMaxDepth 2).render "total" [1] none 0 true := by
  have hdepth : (0 : Int) ≤ shallowSums.maxDepth := by decide
  have hdepth' : (0 : Int) ≤ (shallowSums.withMaxDepth 2).maxDepth := by decide
  obtain ⟨-, hnested, -, hmessages, -⟩ := isNested_render shallowSums "total" [1] none true hdepth
  obtain ⟨-, -, -, -, hlimit⟩ :=
    isNested_render (shallowSums.withMaxDepth 2) "total" [1] none true hdepth'
  exact ⟨_, hdepth, rfl, hnested _ _ rfl, rfl, hmessages.trans (by decide),
    hlimit rfl 5 (by decide)⟩

end Renderer

end GrammarForm
