import GrammarForm.Proofs.DistinctKeys

/-!
# What a form reads

A form reads the values of the widgets, counters and controls that it shows, and nothing else.
Which ones these are is decided by the values read before: a selection brings up the nodes below
it, and a counter brings up instances.  So the renderings for two states are followed in step,
from the root of a tree to its leaves, and as long as each node on the way keeps what it shows,
the next level is the same, too.

A node keeps what it shows in another state in two ways.  The state has the old value under the
key of the node, or none if there was none; or the state has the value that the node shows, which
is what a browser would submit for it.

## Main definitions

* `Renderer.withState`, `RenderContext.withState` : the same with other submitted values.
* `Node.IsKept` : a node keeps what it shows in another state.
* `Document.ReadsAlike` : two states agree on all that a document reads.

## Main results

* `Renderer.renderLevels_withState` : a rendering stays the same if all its nodes are kept.
* `RenderContext.item_withState` : so does an item, if its counter stays the same.
* `Assembler.assemble_of_readsAlike` : a document depends only on what it reads.
-/

namespace GrammarForm

/-! ### Nodes that are kept -/

/-- A widget is shown again from its own value: an index has no more digits than are read. -/
def Widget.IsReadBack : Widget → Prop
  | .choice _ (some i) _ _ => i < 10 ^ ValueKind.digitLimit
  | _ => True

/-- A node keeps what it shows in another state: its key has the same value there or none as
before, or it has the value that is shown. -/
def Node.IsKept (state state' : FormState) (n : Node) : Prop :=
  ∀ w, n.widget = some w →
    state'.get? n.key = state.get? n.key ∨ state'.get? n.key = some w.value ∧ w.IsReadBack

/-- A command keeps what it shows if its nodes do. -/
def CommandForm.IsKept (state state' : FormState) (c : CommandForm) : Prop :=
  ∀ n ∈ c.root.nodes, n.IsKept state state'

/-! ### Renderings in step -/

namespace Renderer

variable (r : Renderer) (state : FormState)

/-- The renderer with other submitted values. -/
def withState : Renderer :=
  { r with state := state }

variable {r state} {symbol : String} {path : Path} {default? : Option DefaultValue}
  {showLabel : Bool}

theorem selection_withState {s : String}
    (hstate : state.get? (r.key symbol path) = some s) :
    (r.withState state).selection symbol path default? =
      submittedIndex s (r.options symbol).length := by
  change choose (r.options symbol) default? (state.get? (r.key symbol path)) = _
  rw [hstate, choose]

theorem selection_withState_of_get?_eq
    (hstate : state.get? (r.key symbol path) = r.state.get? (r.key symbol path)) :
    (r.withState state).selection symbol path default? = r.selection symbol path default? := by
  change choose (r.options symbol) default? (state.get? (r.key symbol path)) = _
  rw [hstate, selection]

/-- What becomes of a symbol is the same if its node is kept. -/
theorem resolution_withState {levels : Nat}
    (h : (r.renderLevels (levels + 1) symbol path default? showLabel).1.IsKept r.state state) :
    (r.withState state).resolution symbol path default? = r.resolution symbol path default? := by
  rw [renderLevels_succ] at h
  cases hres : r.resolution symbol path default? with
  | leaf kind =>
    have hleaf := resolution_eq_leaf_iff.mp hres
    exact resolution_eq_leaf_iff.mpr hleaf
  | unknown =>
    have hunknown := resolution_eq_unknown_iff.mp hres
    exact resolution_eq_unknown_iff.mpr hunknown
  | unresolved =>
    obtain ⟨hleaf, hne, hsel⟩ := resolution_eq_unresolved_iff.mp hres
    refine resolution_eq_unresolved_iff.mpr ⟨hleaf, hne, ?_⟩
    rw [hres] at h
    rcases h _ rfl with hget | ⟨hget, -⟩
    · exact (selection_withState_of_get?_eq hget).trans hsel
    · exact (selection_withState hget).trans (submittedIndex_unresolved _)
  | selected i p =>
    obtain ⟨hleaf, hsel, hp⟩ := resolution_eq_selected_iff.mp hres
    refine resolution_eq_selected_iff.mpr ⟨hleaf, ?_, hp⟩
    rw [hres] at h
    rcases h _ rfl with hget | ⟨hget, hlimit⟩
    · exact (selection_withState_of_get?_eq hget).trans hsel
    · have hi : i < (r.options symbol).length := (List.getElem?_eq_some_iff.mp hp).1
      exact (selection_withState hget).trans (submittedIndex_toString hi hlimit)

/-- The text of a leaf is the same if its node is kept. -/
theorem leafNode_withState {kind : ValueKind}
    (h : (r.leafNode symbol path showLabel kind default?).IsKept r.state state) :
    (r.withState state).leafNode symbol path showLabel kind default? =
      r.leafNode symbol path showLabel kind default? := by
  have htext : leafText kind default? (state.get? (r.key symbol path)) =
      leafText kind default? (r.state.get? (r.key symbol path)) := by
    rcases h _ rfl with hget | ⟨hget, -⟩
    · exact congrArg (leafText kind default?) hget
    · have hshown := congrArg (leafText kind default?) hget
      exact hshown
  simp only [leafNode, ← htext]
  rfl

/-- **A rendering stays the same if all its nodes are kept**, with the same notices. -/
theorem renderLevels_withState (levels : Nat) :
    ∀ (symbol : String) (path : Path) (default? : Option DefaultValue) (showLabel : Bool),
      (∀ n ∈ (r.renderLevels levels symbol path default? showLabel).1.nodes,
        n.IsKept r.state state) →
      (r.withState state).renderLevels levels symbol path default? showLabel =
        r.renderLevels levels symbol path default? showLabel := by
  induction levels with
  | zero => intro symbol path default? showLabel _; rfl
  | succ levels ih =>
    intro symbol path default? showLabel h
    obtain ⟨hroot, hbelow⟩ := Node.forall_mem_nodes_iff.mp h
    have hresolution := resolution_withState hroot
    rw [renderLevels_succ] at hroot hbelow
    rw [renderLevels_succ, renderLevels_succ, hresolution]
    cases hres : r.resolution symbol path default? with
    | unknown | unresolved => rfl
    | leaf kind =>
      rw [hres] at hroot
      exact congrArg (·, []) (leafNode_withState hroot)
    | selected i p =>
      rw [hres] at hbelow
      have hslots : (r.withState state).slotNodes levels path p = r.slotNodes levels path p := by
        refine List.ext_getElem (by simp only [slotNodes_length]) fun j hj hj' => ?_
        have hchild := hbelow _ (List.mem_map_of_mem (List.getElem_mem hj'))
        rw [getElem_slotNodes] at hchild
        rw [getElem_slotNodes, getElem_slotNodes]
        exact ih _ _ _ _ hchild
      simp only [hslots]
      rfl

/-- The choice of a symbol is one among the alternatives of the symbol, which is no leaf then, and
its selected index is one of theirs. -/
theorem eq_choiceAmong_of_widget {levels : Nat} {offers : List Offer} {selected : Option Nat}
    {tip : String} {off : Bool}
    (h : (r.renderLevels levels symbol path default? showLabel).1.widget =
      some (.choice offers selected tip off)) :
    ValueKind.ofPlaceholder? (r.grammar.startSymbol symbol) = none ∧
      .choice offers selected tip off =
        r.choiceAmong (r.grammar.startSymbol symbol) (r.options symbol) selected ∧
      ∀ i, selected = some i → i < (r.options symbol).length := by
  cases levels with
  | zero => exact nomatch h
  | succ levels =>
    rw [renderLevels_succ] at h
    cases hres : r.resolution symbol path default? with
    | leaf kind => rw [hres] at h; exact nomatch h
    | unknown =>
      obtain ⟨hleaf, hnil⟩ := resolution_eq_unknown_iff.mp hres
      rw [hres] at h
      cases h
      rw [hnil]
      exact ⟨hleaf, rfl, nofun⟩
    | unresolved =>
      rw [hres] at h
      cases h
      exact ⟨(resolution_eq_unresolved_iff.mp hres).1, rfl, nofun⟩
    | selected i p =>
      obtain ⟨hleaf, -, hp⟩ := resolution_eq_selected_iff.mp hres
      rw [hres] at h
      cases h
      refine ⟨hleaf, rfl, fun j hj => ?_⟩
      cases hj
      exact (List.getElem?_eq_some_iff.mp hp).1

/-- A choice offers all alternatives of its symbol, and its selected index is one of theirs. -/
theorem of_widget_eq_choice {levels : Nat} {offers : List Offer} {selected : Option Nat}
    {tip : String} {off : Bool}
    (h : (r.renderLevels levels symbol path default? showLabel).1.widget =
      some (.choice offers selected tip off)) :
    offers.length = (r.options symbol).length ∧ ∀ i, selected = some i → i < offers.length := by
  obtain ⟨-, heq, hselected⟩ := eq_choiceAmong_of_widget h
  have hlength : offers.length = (r.options symbol).length := by
    rw [(Widget.choice.inj heq).1, choiceOptions, List.length_mapIdx]
  exact ⟨hlength, hlength ▸ hselected⟩

end Renderer

/-! ### Commands and groups in step -/

namespace RenderContext

variable (ctx : RenderContext) (state : FormState)

/-- The context with other submitted values. -/
def withState : RenderContext :=
  { ctx with state := state }

variable {ctx state} {entry : LayoutCommand} {path : Path}

/-- A command stays the same if its nodes are kept. -/
theorem command_withState (h : (ctx.command entry path).1.IsKept ctx.state state) :
    (ctx.withState state).command entry path = ctx.command entry path := by
  have htree : (ctx.withState state).tree entry path = ctx.tree entry path :=
    Renderer.renderLevels_withState (r := ctx.renderer entry.name entry.inline) _ _ _ _ _ h
  rw [command_eq, command_eq, htree]
  rfl

/-- Instances stay the same if their nodes are kept. -/
theorem instances_withState {n : Nat}
    (h : ∀ c ∈ (ctx.instances entry path n).map Prod.fst, c.IsKept ctx.state state) :
    (ctx.withState state).instances entry path n = ctx.instances entry path n :=
  List.map_congr_left fun _ hi =>
    command_withState (h _ (List.mem_map_of_mem (List.mem_map_of_mem hi)))

/-- Dependents stay the same if their nodes are kept. -/
theorem dependents_withState {n : Nat}
    (h : ∀ c ∈ (ctx.dependents entry path n).map Prod.fst, c.IsKept ctx.state state) :
    (ctx.withState state).dependents entry path n = ctx.dependents entry path n := by
  by_cases hzero : n = 0
  · simp only [dependents, hzero, if_true]
  · simp only [dependents, hzero, if_false] at h ⊢
    refine List.mapIdx_eq_mapIdx_iff.mpr fun i hi => command_withState (h _ ?_)
    exact List.mem_map_of_mem (List.mem_mapIdx.mpr ⟨i, hi, rfl⟩)

/-- The counter of a group stays the same if its submitted number and the controls that were
pressed do. -/
theorem counter_withState
    (hcount : state.get? (controlKey ctx.digest entry.name path .count) =
      ctx.state.get? (controlKey ctx.digest entry.name path .count))
    (hpressed : ∀ control, control ≠ .count →
      state.has (controlKey ctx.digest entry.name path control) =
        ctx.state.has (controlKey ctx.digest entry.name path control)) :
    (ctx.withState state).counter entry path = ctx.counter entry path := by
  simp only [counter, withState, instanceCount, hcount, hpressed .plus (by decide),
    hpressed .minus (by decide)]

/-- **A group stays the same** if its counter does and the nodes of its commands are kept. -/
theorem group_withState
    (hcounter : (ctx.withState state).counter entry path = ctx.counter entry path)
    (h : ∀ c ∈ (ctx.group entry path).1.commands, c.IsKept ctx.state state) :
    (ctx.withState state).group entry path = ctx.group entry path := by
  have hnumber : (ctx.withState state).instanceNumber entry path =
      ctx.instanceNumber entry path := congrArg Int.toNat hcounter
  rw [commands_group, List.map_append] at h
  have hinstances := instances_withState fun c hc => h c (List.mem_append_left _ hc)
  have hdependents := dependents_withState fun c hc => h c (List.mem_append_right _ hc)
  rw [group_eq, group_eq, hnumber, hinstances, hdependents, hcounter]
  rfl

/-- **An item stays the same** if its counter does and the nodes of its commands are kept. -/
theorem item_withState
    (hcounter : entry.isRepeated = true →
      (ctx.withState state).counter entry path = ctx.counter entry path)
    (h : ∀ c ∈ (ctx.item entry path).1.commands, c.IsKept ctx.state state) :
    (ctx.withState state).item entry path = ctx.item entry path := by
  by_cases hrepeated : entry.isRepeated = true
  · rw [ctx.item_of_isRepeated hrepeated] at h
    rw [item_of_isRepeated _ hrepeated, item_of_isRepeated _ hrepeated,
      group_withState (hcounter hrepeated) h]
  · rw [ctx.item_of_not_isRepeated hrepeated] at h
    rw [item_of_not_isRepeated _ hrepeated, item_of_not_isRepeated _ hrepeated,
      command_withState (h _ (List.mem_singleton_self _))]

end RenderContext

/-! ### Documents in step -/

/-- Two states agree on all that a document reads: on the value of each widget and counter that
it shows, and on which of the controls that it shows were pressed. -/
structure Document.ReadsAlike (d : Document) (state state' : FormState) : Prop where
  widgets : ∀ n ∈ d.nodes, n.widget.isSome = true → state'.get? n.key = state.get? n.key
  counters : ∀ g ∈ d.groups, state'.get? g.countKey = state.get? g.countKey
  plus : ∀ g ∈ d.groups, state'.has g.plusKey = state.has g.plusKey
  minus : ∀ g ∈ d.groups, state'.has g.minusKey = state.has g.minusKey

namespace Assembler

variable {a : Assembler} {digest : String → String}

/-- Sections are rendered alike for two states if their items are. -/
theorem renderSections_congr {state state' : FormState} (pairs : List (LayoutSection × Grammar)) :
    ∀ used : Nat,
      (∀ (i : Nat) (e : Grammar × LayoutCommand), (entriesOf pairs)[i]? = some e →
        (a.context digest e.1 state').item e.2 [(used : Int) + i + 1] =
          (a.context digest e.1 state).item e.2 [(used : Int) + i + 1]) →
      a.renderSections digest state' used pairs = a.renderSections digest state used pairs := by
  induction pairs with
  | nil => intro used _; rfl
  | cons p rest ih =>
    intro used hitems
    obtain ⟨s, g⟩ := p
    have hhead : (a.context digest g state').items used s.commands =
        (a.context digest g state).items used s.commands := by
      refine List.mapIdx_eq_mapIdx_iff.mpr fun i hi => hitems i (g, s.commands[i]) ?_
      rw [entriesOf, List.flatMap_cons, List.getElem?_append_left (by rwa [List.length_map]),
        List.getElem?_map, List.getElem?_eq_getElem hi, Option.map_some]
    have htail := ih (used + s.commands.length) fun i e hi => by
      have hslot : ((used + s.commands.length : Nat) : Int) + i + 1 =
          used + ((s.commands.length + i : Nat) : Int) + 1 := by
        omega
      rw [hslot]
      refine hitems _ e ?_
      have hle : (s.commands.map (g, ·)).length ≤ s.commands.length + i := by
        rw [List.length_map]
        omega
      rw [entriesOf, List.flatMap_cons, List.getElem?_append_right hle, List.length_map,
        Nat.add_sub_cancel_left]
      exact hi
    rw [renderSections, renderSections, hhead, htail]

variable {state state' : FormState} {d : Document} {notices : List Notice}

/-- The item of a document in a slot. -/
theorem getElem?_items (h : a.assemble digest state = .ok (d, notices)) {i : Nat}
    {e : Grammar × LayoutCommand} (he : a.entries[i]? = some e) :
    d.items[i]? = some ((a.context digest e.1 state).item e.2 [(i : Int) + 1]).1 := by
  rw [items_of_assemble h, List.getElem?_mapIdx, he, Option.map_some]

/-- **A document stays the same if its items do**, with the same notices. -/
theorem assemble_withState (h : a.assemble digest state = .ok (d, notices))
    (hitems : ∀ (i : Nat) (e : Grammar × LayoutCommand), a.entries[i]? = some e →
      ((a.context digest e.1 state).withState state').item e.2 [(i : Int) + 1] =
        (a.context digest e.1 state).item e.2 [(i : Int) + 1]) :
    a.assemble digest state' = .ok (d, notices) := by
  have hsections : a.sectionForms digest state' = a.sectionForms digest state := by
    refine renderSections_congr _ 0 fun i e he => ?_
    rw [Nat.cast_zero, Int.zero_add]
    exact hitems i e he
  rw [assemble_eq_ok_iff] at h ⊢
  rwa [hsections]

/-- **Stale and foreign values are irrelevant.** A document depends only on what it reads: for any
state that agrees on the values of the widgets and counters shown and on which of the controls
shown were pressed, the same document is assembled, with the same notices. -/
theorem assemble_of_readsAlike (h : a.assemble digest state = .ok (d, notices))
    (hread : d.ReadsAlike state state') : a.assemble digest state' = .ok (d, notices) := by
  refine assemble_withState h fun i e he => ?_
  have hitem := List.mem_of_getElem? (getElem?_items h he)
  refine RenderContext.item_withState (fun hrepeated => ?_) fun c hc n hn w hw => Or.inl ?_
  · have hg : ((a.context digest e.1 state).group e.2 [(i : Int) + 1]).1 ∈ d.groups := by
      refine List.mem_flatMap.mpr ⟨_, hitem, ?_⟩
      rw [RenderContext.item, if_pos hrepeated]
      exact List.mem_singleton_self _
    refine RenderContext.counter_withState (hread.counters _ hg) fun control hcontrol => ?_
    cases control with
    | count => exact absurd rfl hcontrol
    | plus => exact hread.plus _ hg
    | minus => exact hread.minus _ hg
  · refine hread.widgets n ?_ (hw ▸ rfl)
    exact List.mem_flatMap.mpr ⟨c, List.mem_flatMap.mpr ⟨_, hitem, hc⟩, hn⟩

/-- The two sums with a value for a branch that is not shown, one for an instance that was
removed, and one that belongs to no form at all. -/
def staleSums : FormState :=
  blankSums ++
    [(widgetKey blankDigest "total" "<sum>" [1, 2, 1], "0"),
      (widgetKey blankDigest "total" "total" [1, 4], "1"), ("language", "en")]

theorem assemble_of_readsAlike_staleSums : ∃ d notices,
    sumForm.assemble blankDigest blankSums = .ok (d, notices) ∧
    d.ReadsAlike blankSums staleSums ∧
    sumForm.assemble blankDigest staleSums = .ok (d, notices) := by
  have h : sumForm.assemble blankDigest blankSums = .ok (_, _) := rfl
  refine ⟨_, _, h, ?read, assemble_of_readsAlike h ?read⟩
  exact ⟨by decide, by decide, by decide, by decide⟩

end Assembler

end GrammarForm
