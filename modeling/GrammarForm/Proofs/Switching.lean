import GrammarForm.Proofs.Editing
import GrammarForm.Proofs.NestingLimit
import GrammarForm.Proofs.SavedState

/-!
# Switching to another alternative

A form is submitted with all its values, and one choice is switched to another alternative.  The
nodes above the choice keep their selections, so the choice stands at the same address again and
shows the new alternative.  The slots of an alternative are numbered among themselves, whatever
keywords stand between them.  So a slot that has the same number and the same symbol in both
alternatives has the same path, the same keys and the same default, and it is filled with the same
tree: none of the keys in it is the one of the switched choice.

## Main definitions

* `Node.Switched` : a choice before and after it is switched.

## Main results

* `Renderer.switched_renderLevels` : the switched choice itself.
* `Renderer.exists_switched_of_nodeAt?` : a choice at any address of a rendering.
* `Renderer.exists_switched_render` : a choice in a rendering that is submitted.
-/

namespace GrammarForm

/-- A choice with the selected alternative `p` is switched to the alternative `p'` with the index
`j`: it keeps its place, has a child for each slot of the new alternative, and the children in
slots of the same number and name are the same. -/
structure Node.Switched (p : Production) (j : Nat) (p' : Production) (x x' : Node) : Prop where
  key_eq : x'.key = x.key
  symbol_eq : x'.symbol = x.symbol
  path_eq : x'.path = x.path
  selected : ∃ offers tooltip disabled, x'.widget = some (.choice offers (some j) tooltip disabled)
  symbols : x.children.map (·.symbol) = p.slotNames
  symbols' : x'.children.map (·.symbol) = p'.slotNames
  children : ∀ (t : Nat) (name : String), p.slotNames[t]? = some name →
    p'.slotNames[t]? = some name → ∃ c, x.children[t]? = some c ∧ x'.children[t]? = some c

namespace Renderer

variable {r : Renderer} {state : FormState} {x : Node} {offers : List Offer} {i j : Nat}
  {tip : String} {off : Bool}

/-- The rendering in a slot of an alternative. -/
theorem getElem?_map_slotNodes {levels t : Nat} {path : Path} {p : Production} {name : String}
    (h : p.slotNames[t]? = some name) :
    ((r.slotNodes levels path p).map Prod.fst)[t]? =
      some (r.renderLevels levels name (path ++ [(t : Int) + 1]) (r.grammar.defaultOf name)
        (!r.inline)).1 := by
  rw [slotNodes, List.getElem?_map, List.getElem?_mapIdx, h]
  rfl

section Switched

variable (hdigest : HasFixedLength r.digest)
  (hagree : ∀ k, k ≠ x.key → state.get? k = r.state.get? k)
  (hget : state.get? x.key = some (toString j))
  (hw : x.widget = some (.choice offers (some i) tip off)) (hj : j < offers.length)
  (hlimit : j < 10 ^ ValueKind.digitLimit)

include hdigest hagree hget hw hj hlimit

/-- **The switched choice** shows the new alternative, and keeps what stands in matching slots. -/
theorem switched_renderLevels {levels : Nat} {symbol : String} {path : Path}
    {default? : Option DefaultValue} {showLabel : Bool}
    (hx : (r.renderLevels levels symbol path default? showLabel).1 = x) :
    ∃ p p', (r.options x.symbol)[i]? = some p ∧ (r.options x.symbol)[j]? = some p' ∧
      Node.Switched p j p' x
        ((r.withState state).renderLevels levels symbol path default? showLabel).1 := by
  subst hx
  obtain ⟨hsymbol, hpath, hkey⟩ := r.renderLevels_place levels symbol path default? showLabel
  obtain ⟨hlength, -⟩ := of_widget_eq_choice hw
  rw [hkey] at hagree hget
  cases levels with
  | zero => exact nomatch hw
  | succ levels =>
    rw [hsymbol]
    rw [renderLevels_succ] at hw ⊢
    cases hres : r.resolution symbol path default? with
    | leaf | unknown | unresolved => rw [hres] at hw; exact nomatch hw
    | selected i' p =>
      rw [hres] at hw
      cases hw
      obtain ⟨hleaf, -, hp⟩ := resolution_eq_selected_iff.mp hres
      rw [hlength] at hj
      have hp' : (r.options symbol)[j]? = some (r.options symbol)[j] := List.getElem?_eq_getElem hj
      have hres' : (r.withState state).resolution symbol path default? =
          .selected j (r.options symbol)[j] := by
        refine resolution_eq_selected_iff.mpr ⟨hleaf, ?_, hp'⟩
        exact (selection_withState hget).trans (submittedIndex_toString hj hlimit)
      refine ⟨p, _, hp, hp', ?_⟩
      rw [renderLevels_succ, hres']
      refine ⟨rfl, rfl, rfl, ⟨_, _, _, rfl⟩, r.map_symbol_slotNodes levels path p,
        (r.withState state).map_symbol_slotNodes levels path _, fun t name ht ht' => ?_⟩
      refine ⟨_, getElem?_map_slotNodes ht, (getElem?_map_slotNodes ht').trans (congrArg some ?_)⟩
      -- The key of the choice is the one at its own path, which no key in a slot is.
      have hnot := KeyBlock.notMem_slot hdigest (isKeyAt_widgetKey r.command symbol path)
        (r.keyBlock_fields hdigest levels name (path ++ [(t : Int) + 1])
          (r.grammar.defaultOf name) (!r.inline))
      exact congrArg Prod.fst
        (renderLevels_withState _ _ _ _ _ (Node.isKept_of_key_notMem hagree hnot))

/-- **A choice at any address** is switched where it stands. -/
theorem exists_switched_of_nodeAt? (slots : List Nat) :
    ∀ (levels : Nat) (symbol : String) (path : Path) (default? : Option DefaultValue)
      (showLabel : Bool),
      (r.renderLevels levels symbol path default? showLabel).1.nodeAt? slots = some x →
      ∃ p p' x', (r.options x.symbol)[i]? = some p ∧ (r.options x.symbol)[j]? = some p' ∧
        ((r.withState state).renderLevels levels symbol path default? showLabel).1.nodeAt? slots =
          some x' ∧ Node.Switched p j p' x x' := by
  induction slots with
  | nil =>
    intro levels symbol path default? showLabel hx
    obtain ⟨p, p', hp, hp', hswitched⟩ :=
      switched_renderLevels hdigest hagree hget hw hj hlimit (Option.some.inj hx)
    exact ⟨p, p', _, hp, hp', rfl, hswitched⟩
  | cons t slots ih =>
    intro levels symbol path default? showLabel hx
    obtain ⟨c, hc, hslots⟩ := Node.nodeAt?_cons_eq_some_iff.mp hx
    cases levels with
    | zero => exact nomatch hc
    | succ levels =>
      have hn : x ∈ c.nodes := Node.mem_nodes_iff_exists_nodeAt?.mpr ⟨slots, hslots⟩
      obtain ⟨_, _, children, name, default', ht, rfl, -, hrendered⟩ :=
        exists_selectedNode_of_children hdigest hagree (hw ▸ rfl) hc hn
      obtain ⟨p, p', x', hp, hp', hx', hswitched⟩ := ih _ _ _ _ _ hslots
      refine ⟨p, p', x', hp, hp', ?_, hswitched⟩
      rw [hrendered]
      refine Node.nodeAt?_cons_eq_some_iff.mpr ⟨_, ?_, hx'⟩
      exact List.getElem?_set_self (List.getElem?_eq_some_iff.mp ht).1

end Switched

/-! ### Submitted renderings -/

/-- **Switching an alternative keeps matching slots.**  The values of a rendering are submitted,
with another index in range for one of its choices.  That choice stands at the same address again,
shows the alternative with the index, and the trees in slots of the same number and name are the
same in all their parts.  An index that is not read back, here or among the other choices, would be
the one of a list of at least `10 ^ 19` alternatives. -/
theorem exists_switched_render (hdigest : HasFixedLength r.digest) {symbol : String} {path : Path}
    {default? : Option DefaultValue} {depth : Int} {showLabel : Bool} {n : Node}
    (hn : (r.render symbol path default? depth showLabel).1 = n)
    (hread : ∀ m ∈ n.nodes, ∀ w, m.widget = some w → w.IsReadBack) (hx : x ∈ n.nodes)
    (hw : x.widget = some (.choice offers (some i) tip off)) (hj : j < offers.length)
    (hlimit : j < 10 ^ ValueKind.digitLimit) :
    let n' := ((r.withState (Entries.insert x.key (toString j) n.formState)).render symbol path
      default? depth showLabel).1
    ∃ slots x' p p', n.nodeAt? slots = some x ∧ n'.nodeAt? slots = some x' ∧
      (r.options x.symbol)[i]? = some p ∧ (r.options x.symbol)[j]? = some p' ∧
      Node.Switched p j p' x x' := by
  obtain ⟨slots, hslots⟩ := Node.mem_nodes_iff_exists_nodeAt?.mp hx
  -- The form state gives the same rendering again, and then one of its values is another one.
  have hsubmitted : ∀ m ∈ n.nodes, m.IsSubmitted n.formState := by
    subst hn
    exact isSubmitted_of_isReadBack hdigest hread
  have hsame : ((r.withState n.formState).render symbol path default? depth showLabel).1 = n := by
    subst hn
    exact congrArg Prod.fst <|
      renderLevels_withState _ _ _ _ _ fun m hm => (hsubmitted m hm).isKept r.state
  have hagree : ∀ k, k ≠ x.key →
      (Entries.insert x.key (toString j) n.formState).get? k = n.formState.get? k := by
    intro k hk
    rw [Entries.get?_insert, if_neg hk]
  have hget : (Entries.insert x.key (toString j) n.formState).get? x.key = some (toString j) := by
    rw [Entries.get?_insert, if_pos rfl]
  obtain ⟨p, p', x', hp, hp', hx', hswitched⟩ :=
    exists_switched_of_nodeAt? (r := r.withState n.formState) hdigest hagree hget hw hj hlimit slots
      _ _ _ _ _ ((congrArg (·.nodeAt? slots) hsame).trans hslots)
  exact ⟨slots, x', p, p', hslots, hx', hp, hp', hswitched⟩

/-- A rule for a size, which has a lower bound or two of them. -/
def sizeRule : Renderer where
  digest := Assembler.blankDigest
  grammar :=
    { records :=
        [{ name := "rule", productions := [["size", "<bounds>"]] },
          { name := "<bounds>",
            productions := [["at", "least", "<integer value>"],
              ["between", "<integer value>", "and", "<integer value>"]] }]
      faultless := by decide }
  state := [(widgetKey Assembler.blankDigest "rule" "<bounds>" [1, 1], "0"),
    (widgetKey Assembler.blankDigest "rule" "<integer value>" [1, 1, 1], "7")]
  command := "rule"
  inline := false
  maxDepth := 64

/-- The rendering of that rule. -/
def sizeNode : Node :=
  (sizeRule.render "rule" [1] none 0 true).1

theorem exists_switched_render_sizeRule : ∃ x x' slots p p' c,
    HasFixedLength sizeRule.digest ∧
    (∀ m ∈ sizeNode.nodes, ∀ w, m.widget = some w → w.IsReadBack) ∧ x ∈ sizeNode.nodes ∧
    x.text = "at least 7" ∧
    ((sizeRule.withState (Entries.insert x.key (toString 1) sizeNode.formState)).render "rule" [1]
      none 0 true).1.nodeAt? slots = some x' ∧
    Node.Switched p 1 p' x x' ∧ x.children[0]? = some c ∧ x'.children[0]? = some c ∧
    c.text = "7" := by
  have hdigest : HasFixedLength sizeRule.digest := fun _ _ => rfl
  have hlimit (symbol : String) :
      (sizeRule.grammar.alternatives symbol).length ≤ 10 ^ ValueKind.digitLimit :=
    Assembler.length_alternatives_le (fun r hr => le_trans
      ((by decide : ∀ r ∈ sizeRule.grammar.records, r.productions.length ≤ 2) r hr)
      (by decide)) symbol
  have hread : ∀ m ∈ sizeNode.nodes, ∀ w, m.widget = some w → w.IsReadBack :=
    fun m hm w hw => isReadBack_of_length_alternatives hlimit hm hw
  have hx : sizeNode.nodes[1]? = some _ := rfl
  obtain ⟨slots, x', p, p', -, hx', hp, hp', hswitched⟩ :=
    exists_switched_render hdigest (n := sizeNode) rfl hread (List.mem_of_getElem? hx) rfl
      (j := 1) (by decide) (by decide)
  cases hp
  cases hp'
  obtain ⟨c, hc, hc'⟩ := hswitched.children 0 "<integer value>" rfl rfl
  cases hc
  exact ⟨_, x', slots, _, _, _, hdigest, hread, List.mem_of_getElem? hx, rfl, hx', hswitched, rfl,
    hc', rfl⟩

end Renderer

end GrammarForm
