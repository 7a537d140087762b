import GrammarForm.Proofs.Reading
import GrammarForm.Proofs.Validity

/-!
# Editing one value

Giving the widget of a node another value changes the subtree of that node and what the nodes
above it make of it: their texts, their validity and the line of the command.  Nothing else of
the form changes.  For no other widget reads the edited key, since no other place of the form has
it, so every node that is neither below the edited one nor above it is kept; and the nodes above
keep their selections.

## Main definitions

* `Node.Replaces`, `CommandForm.Replaces`, `FormItem.Replaces` : a subtree in its place is
  replaced by another one.
* `Document.ReplacesItem` : an item of a document is replaced by another one.

## Main results

* `Node.Replaces.nodes_eq` : the nodes before and after a replaced subtree.
* `Renderer.exists_replaces` : an edited rendering differs in one subtree.
* `Assembler.exists_replaces_insert` : an edited document differs in one subtree, and a text field
  that was the only fault of its command makes the command valid.
-/

namespace GrammarForm

/-! ### Replaced subtrees -/

/-- A list that differs from another one in one slot only. -/
theorem eq_set_of_getElem_eq {α : Type} {l l' : List α} {i : Nat} {x : α}
    (hlength : l'.length = l.length) (hx : ∀ hi : i < l'.length, l'[i] = x)
    (hne : ∀ j (hj' : j < l'.length) (hj : j < l.length), j ≠ i → l'[j] = l[j]) :
    l' = l.set i x := by
  refine List.ext_getElem (by rw [hlength, List.length_set]) fun j hj' hj => ?_
  rw [List.getElem_set]
  split
  next hij => subst hij; exact hx hj'
  next hij => exact hne j hj' _ (Ne.symm hij)

/-- In a tree, the subtree of one node is replaced by another one.  In the nodes above it, the
text and the validity may change, and nothing else. -/
inductive Node.Replaces (n n' : Node) : Node → Node → Prop
  | root : Replaces n n' n n'
  | child {m c c' : Node} {i : Nat} (text : String) (valid : Bool)
      (hc : m.children[i]? = some c) (h : Replaces n n' c c') :
      Replaces n n' m { m with children := m.children.set i c', text, valid }

/-- In a command, the subtree of one node is replaced.  This changes its tree and its line. -/
inductive CommandForm.Replaces (n n' : Node) : CommandForm → CommandForm → Prop
  | root {c : CommandForm} {root : Node} (h : Node.Replaces n n' c.root root) :
      Replaces n n' c { c with root, line := .ofNode c.name root }

/-- In an item, one command is replaced by another one: the single one, an instance or a
dependent.  All other parts of a group stay the same. -/
inductive FormItem.Replaces (c c' : CommandForm) : FormItem → FormItem → Prop
  | command : Replaces c c' (.command c) (.command c')
  | instance {g : GroupForm} {i : Nat} (hc : g.instances[i]? = some c) :
      Replaces c c' (.group g) (.group { g with instances := g.instances.set i c' })
  | dependent {g : GroupForm} {i : Nat} (hc : g.dependents[i]? = some c) :
      Replaces c c' (.group g) (.group { g with dependents := g.dependents.set i c' })

/-- In a document, the item in one slot is replaced by another one.  The title, the titles of the
sections and their lengths, and all other items stay the same. -/
structure Document.ReplacesItem (d : Document) (i : Nat) (item : FormItem) (d' : Document) :
    Prop where
  title : d'.title = d.title
  sections : d'.sections.map (fun s => (s.title, s.items.length)) =
    d.sections.map fun s => (s.title, s.items.length)
  items : d'.items = d.items.set i item

/-- The other item stands in the slot. -/
theorem Document.ReplacesItem.getElem?_items {d d' : Document} {i : Nat} {item item' : FormItem}
    (h : d.ReplacesItem i item' d') (hitem : d.items[i]? = some item) :
    d'.items[i]? = some item' := by
  rw [h.items]
  exact List.getElem?_set_self (List.getElem?_eq_some_iff.mp hitem).1

namespace Node

/-- The key of a node with a widget is among those of the tree. -/
theorem key_mem_of_mem_nodes {m n : Node} (hn : n ∈ m.nodes) (hw : n.widget.isSome = true) :
    n.key ∈ m.fields.map Prod.fst := by
  obtain ⟨w, hw⟩ := Option.isSome_iff_exists.mp hw
  refine List.mem_map.mpr ⟨(n.key, w.value), List.mem_filterMap.mpr ⟨n, hn, ?_⟩, rfl⟩
  rw [ownField, hw, Option.map_some]

private theorem eq_take_append_cons_drop {l : List Node} {i : Nat} {c : Node}
    (hc : l[i]? = some c) : l = l.take i ++ c :: l.drop (i + 1) := by
  obtain ⟨hi, rfl⟩ := List.getElem?_eq_some_iff.mp hc
  rw [← List.drop_eq_getElem_cons hi, List.take_append_drop]

/-- **Around a replaced subtree** the nodes stay the same, apart from the nodes above it, which
keep their issues. -/
theorem Replaces.nodes_eq {n n' m m' : Node} (h : Replaces n n' m m') :
    ∃ before before' after, m.nodes = before ++ n.nodes ++ after ∧
      m'.nodes = before' ++ n'.nodes ++ after ∧ before'.map (·.issue) = before.map (·.issue) := by
  induction h with
  | root => exact ⟨[], [], [], by simp, by simp, rfl⟩
  | @child m c c' i text valid hc _ ih =>
    obtain ⟨before, before', after, hbefore, hbefore', hissue⟩ := ih
    have hi : i < m.children.length := (List.getElem?_eq_some_iff.mp hc).1
    have hset : m.children.set i c' = m.children.take i ++ c' :: m.children.drop (i + 1) := by
      rw [List.set_eq_take_append_cons_drop, if_pos hi]
    refine ⟨m :: (m.children.take i).flatMap nodes ++ before,
      { m with children := m.children.set i c', text, valid } ::
        (m.children.take i).flatMap nodes ++ before',
      after ++ (m.children.drop (i + 1)).flatMap nodes, ?_, ?_, ?_⟩
    · rw [Node.nodes_eq]
      conv_lhs => rw [eq_take_append_cons_drop hc]
      simp only [List.flatMap_append, List.flatMap_cons, hbefore, List.cons_append,
        List.append_assoc]
    · rw [Node.nodes_eq]
      simp only [hset, List.flatMap_append, List.flatMap_cons, hbefore', List.cons_append,
        List.append_assoc]
    · simp only [List.map_cons, List.map_append, hissue, List.cons_append]

/-- With distinct keys, a node with a widget occurs once in a tree. -/
theorem notMem_of_nodes_eq {m n : Node} {before after : List Node}
    (h : m.nodes = before ++ [n] ++ after) (hkeys : (m.fields.map Prod.fst).Nodup)
    (hw : n.widget.isSome = true) : n ∉ before ++ after := by
  obtain ⟨w, hw⟩ := Option.isSome_iff_exists.mp hw
  have hown : n.ownField = some (n.key, w.value) := by rw [ownField, hw, Option.map_some]
  rw [fields, h, List.append_assoc, List.singleton_append] at hkeys
  have hmiddle : (before ++ n :: after).Perm (n :: (before ++ after)) := List.perm_middle
  have hperm := (hmiddle.filterMap ownField).map Prod.fst
  rw [hperm.nodup_iff, List.filterMap_cons_some hown, List.map_cons, List.nodup_cons] at hkeys
  exact fun hn => hkeys.1 (List.mem_map.mpr ⟨_, List.mem_filterMap.mpr ⟨n, hn, hown⟩, rfl⟩)

/-- A leaf that is replaced by one without an issue leaves the issues of all other nodes. -/
theorem Replaces.forall_issue_iff {n n' m m' : Node} (h : Replaces n n' m m')
    (hn : n.children = []) (hn' : n'.children = []) (hissue : n'.issue = none)
    (hkeys : (m.fields.map Prod.fst).Nodup) (hw : n.widget.isSome = true) :
    (∀ x ∈ m'.nodes, x.issue = none) ↔ ∀ x ∈ m.nodes, x ≠ n → x.issue = none := by
  obtain ⟨before, before', after, hnodes, hnodes', hissues⟩ := h.nodes_eq
  rw [Node.nodes_eq n, hn, List.flatMap_nil] at hnodes
  rw [Node.nodes_eq n', hn', List.flatMap_nil] at hnodes'
  have hnot := notMem_of_nodes_eq hnodes hkeys hw
  have hmap (l : List Node) : (∀ x ∈ l, x.issue = none) ↔ ∀ i ∈ l.map (·.issue), i = none :=
    (List.forall_mem_map (P := (· = none))).symm
  have hbefore : (∀ x ∈ before', x.issue = none) ↔ ∀ x ∈ before, x.issue = none := by
    rw [hmap, hissues, ← hmap]
  have hleft : (∀ x ∈ m'.nodes, x.issue = none) ↔ ∀ x ∈ before ++ after, x.issue = none := by
    simp only [hnodes', List.forall_mem_append, hbefore, List.forall_mem_singleton, hissue,
      and_true]
  rw [hleft, hnodes]
  constructor
  · intro hothers x hx hne
    rw [List.append_assoc, List.mem_append, List.mem_append, List.mem_singleton] at hx
    rcases hx with hx | rfl | hx
    · exact hothers x (List.mem_append_left _ hx)
    · exact absurd rfl hne
    · exact hothers x (List.mem_append_right _ hx)
  · intro hothers x hx
    refine hothers x ?_ fun heq => hnot (heq ▸ hx)
    rcases List.mem_append.mp hx with hx | hx
    · exact List.mem_append_left _ (List.mem_append_left _ hx)
    · exact List.mem_append_right _ hx

end Node

theorem CommandForm.Replaces.forall_issue_iff {n n' : Node} {c c' : CommandForm}
    (h : c.Replaces n n' c') (hn : n.children = []) (hn' : n'.children = [])
    (hissue : n'.issue = none) (hkeys : c.keys.Nodup) (hw : n.widget.isSome = true) :
    (∀ x ∈ c'.root.nodes, x.issue = none) ↔ ∀ x ∈ c.root.nodes, x ≠ n → x.issue = none := by
  obtain ⟨hroot⟩ := h
  exact hroot.forall_issue_iff hn hn' hissue hkeys hw

/-- The node of a text field with another text. -/
def Node.withText (n : Node) (kind : ValueKind) (text : String) : Node :=
  { n with
    widget := some (.text text kind (kind.accepts text))
    children := []
    text
    valid := kind.accepts text
    issue := if kind.accepts text then none else some .invalidLeaf }

/-- What becomes of a node when its widget is given another value: it keeps its place, and a text
field shows the value. -/
structure Node.Edited (v : String) (n n' : Node) : Prop where
  key : n'.key = n.key
  symbol : n'.symbol = n.symbol
  path : n'.path = n.path
  text : ∀ value kind valid, n.widget = some (.text value kind valid) → n' = n.withText kind v

/-! ### Edited renderings -/

/-- A tree that does not have an edited key keeps what it shows. -/
theorem Node.isKept_of_key_notMem {state state' : FormState} {key : String} {m : Node}
    (hagree : ∀ k, k ≠ key → state'.get? k = state.get? k) (h : key ∉ m.fields.map Prod.fst) :
    ∀ n ∈ m.nodes, n.IsKept state state' := by
  intro n hn w hw
  refine Or.inl (hagree _ fun heq => h ?_)
  rw [← heq]
  exact key_mem_of_mem_nodes hn (hw ▸ rfl)

namespace Renderer

variable {r : Renderer} {state : FormState} {n : Node}

/-- A text field has no nodes below it, and it has an issue if its text is not accepted. -/
theorem of_widget_eq_text {levels : Nat} {symbol : String} {path : Path}
    {default? : Option DefaultValue} {showLabel : Bool} {value : String} {kind : ValueKind}
    {valid : Bool} (h : (r.renderLevels levels symbol path default? showLabel).1.widget =
      some (.text value kind valid)) :
    (r.renderLevels levels symbol path default? showLabel).1.children = [] ∧
      (r.renderLevels levels symbol path default? showLabel).1.issue =
        if valid then none else some .invalidLeaf := by
  cases levels with
  | zero => exact nomatch h
  | succ levels =>
    rw [renderLevels_succ] at h ⊢
    cases hres : r.resolution symbol path default? with
    | unknown | unresolved | selected => rw [hres] at h; exact nomatch h
    | leaf kind' =>
      rw [hres] at h
      cases h
      exact ⟨rfl, rfl⟩

/-- A node is edited by giving its key another value. -/
theorem edited_renderLevels {v : String} {symbol : String} {path : Path}
    (hget : state.get? (r.key symbol path) = some v) (levels : Nat)
    (default? : Option DefaultValue) (showLabel : Bool) :
    Node.Edited v (r.renderLevels levels symbol path default? showLabel).1
      ((r.withState state).renderLevels levels symbol path default? showLabel).1 := by
  obtain ⟨hsymbol, hpath, hkey⟩ := r.renderLevels_place levels symbol path default? showLabel
  obtain ⟨hsymbol', hpath', hkey'⟩ :=
    (r.withState state).renderLevels_place levels symbol path default? showLabel
  refine ⟨hkey'.trans hkey.symm, hsymbol'.trans hsymbol.symm, hpath'.trans hpath.symm,
    fun value kind valid hw => ?_⟩
  cases levels with
  | zero => exact nomatch hw
  | succ levels =>
    rw [renderLevels_succ] at hw ⊢
    rw [renderLevels_succ]
    cases hres : r.resolution symbol path default? with
    | unknown | unresolved | selected => rw [hres] at hw; exact nomatch hw
    | leaf kind =>
      have hleaf := resolution_eq_leaf_iff.mp hres
      have hres' : (r.withState state).resolution symbol path default? = .leaf kind :=
        resolution_eq_leaf_iff.mpr hleaf
      rw [hres] at hw
      cases hw
      have htext : leafText kind default? ((r.withState state).state.get?
          ((r.withState state).key symbol path)) = v :=
        congrArg (leafText kind default?) hget
      simp only [hres', leafNode, htext]
      rfl

section Edited

variable (hdigest : HasFixedLength r.digest)
  (hagree : ∀ k, k ≠ n.key → state.get? k = r.state.get? k) (hw : n.widget.isSome = true)

include hdigest hagree hw

/-- Among the slots of an alternative, only the one with the edited node changes. -/
theorem exists_map_slotNodes_eq_set {levels i : Nat} {path : Path} {p : Production} {c : Node}
    (hc : ((r.slotNodes levels path p).map Prod.fst)[i]? = some c) (hn : n ∈ c.nodes) :
    ∃ name default',
      c = (r.renderLevels levels name (path ++ [(i : Int) + 1]) default' (!r.inline)).1 ∧
      ((r.withState state).slotNodes levels path p).map Prod.fst =
        ((r.slotNodes levels path p).map Prod.fst).set i
          ((r.withState state).renderLevels levels name (path ++ [(i : Int) + 1]) default'
            (!r.inline)).1 := by
  obtain ⟨hi, rfl⟩ := List.getElem?_eq_some_iff.mp hc
  simp only [List.getElem_map, getElem_slotNodes] at hn ⊢
  refine ⟨_, _, rfl, eq_set_of_getElem_eq ?_ (fun _ => ?_) fun k hk' hk hki => ?_⟩
  · simp only [List.length_map, slotNodes_length]
  · simp only [List.getElem_map, getElem_slotNodes]
    rfl
  · simp only [List.getElem_map, getElem_slotNodes]
    rw [List.length_map, slotNodes_length] at hi hk
    have hslot (l : Nat) (hl : l < p.slotNames.length) :=
      r.keyBlock_fields hdigest levels p.slotNames[l] (path ++ [(l : Int) + 1])
        (r.grammar.defaultOf p.slotNames[l]) (!r.inline)
    -- The edited key lies in slot `i`, so that no node in slot `k` has it.
    have hnot := KeyBlock.slots_disjoint hdigest (by omega) (hslot i hi) (hslot k hk)
      (Node.key_mem_of_mem_nodes hn hw)
    exact congrArg Prod.fst
      (renderLevels_withState _ _ _ _ _ (Node.isKept_of_key_notMem hagree hnot))

/-- **Above an edited node**, a node keeps its selection and all children but one. -/
theorem exists_selectedNode_of_children {levels i : Nat} {symbol : String} {path : Path}
    {default? : Option DefaultValue} {showLabel : Bool} {c : Node}
    (hc : (r.renderLevels (levels + 1) symbol path default? showLabel).1.children[i]? = some c)
    (hn : n ∈ c.nodes) :
    ∃ j p children name default', children[i]? = some c ∧
      c = (r.renderLevels levels name (path ++ [(i : Int) + 1]) default' (!r.inline)).1 ∧
      (r.renderLevels (levels + 1) symbol path default? showLabel).1 =
        r.selectedNode symbol path showLabel j p children ∧
      ((r.withState state).renderLevels (levels + 1) symbol path default? showLabel).1 =
        r.selectedNode symbol path showLabel j p (children.set i
          ((r.withState state).renderLevels levels name (path ++ [(i : Int) + 1]) default'
            (!r.inline)).1) := by
  rw [renderLevels_succ] at hc
  rw [renderLevels_succ, renderLevels_succ]
  cases hres : r.resolution symbol path default? with
  | leaf kind | unknown | unresolved =>
    rw [hres] at hc
    exact absurd hc (Option.some_ne_none c).symm
  | selected j p =>
    rw [hres] at hc
    obtain ⟨name, default', hchild, hslots⟩ :=
      exists_map_slotNodes_eq_set hdigest hagree hw hc hn
    have hroot : n.key ≠ r.key symbol path := by
      intro heq
      have hmem := Node.key_mem_of_mem_nodes hn hw
      rw [heq, hchild] at hmem
      exact KeyBlock.notMem_slot hdigest (isKeyAt_widgetKey r.command symbol path)
        (r.keyBlock_fields hdigest levels _ _ _ _) hmem
    have hres' : (r.withState state).resolution symbol path default? = .selected j p := by
      obtain ⟨hleaf, hsel, hp⟩ := resolution_eq_selected_iff.mp hres
      refine resolution_eq_selected_iff.mpr ⟨hleaf, ?_, hp⟩
      exact (selection_withState_of_get?_eq (hagree _ hroot.symm)).trans hsel
    refine ⟨j, p, (r.slotNodes levels path p).map Prod.fst, name, default', hc, hchild, rfl, ?_⟩
    simp only [hres', hslots]
    rfl

/-- **An edited rendering differs in one subtree**: the node with the edited key is rendered anew,
and all that is neither below nor above it stays the same. -/
theorem exists_replaces {v : String} (hget : state.get? n.key = some v) (levels : Nat) :
    ∀ (symbol : String) (path : Path) (default? : Option DefaultValue) (showLabel : Bool),
      n ∈ (r.renderLevels levels symbol path default? showLabel).1.nodes →
      ∃ n', n.Edited v n' ∧
        Node.Replaces n n' (r.renderLevels levels symbol path default? showLabel).1
          ((r.withState state).renderLevels levels symbol path default? showLabel).1 := by
  induction levels with
  | zero =>
    intro symbol path default? showLabel hn
    cases List.mem_singleton.mp hn
    exact absurd hw Bool.false_ne_true
  | succ levels ih =>
    intro symbol path default? showLabel hn
    rw [Node.nodes_eq] at hn
    rcases List.mem_cons.mp hn with rfl | hn
    · -- The edited node is the root: it is rendered anew.
      rw [(r.renderLevels_place ..).2.2] at hget
      exact ⟨_, edited_renderLevels hget (levels + 1) default? showLabel, .root⟩
    · -- It lies below the root, which keeps its selection, so the induction goes into one child.
      obtain ⟨c, hc, hn⟩ := List.mem_flatMap.mp hn
      obtain ⟨i, hi⟩ := List.getElem?_of_mem hc
      obtain ⟨j, p, children, name, default', hchild, rfl, hold, hnew⟩ :=
        exists_selectedNode_of_children hdigest hagree hw hi hn
      obtain ⟨n', hedited, hreplaces⟩ := ih _ _ _ _ hn
      refine ⟨n', hedited, ?_⟩
      rw [hold, hnew]
      exact .child _ _ hchild hreplaces

end Edited

end Renderer

/-! ### Edited items -/

namespace RenderContext

variable {ctx : RenderContext} {state : FormState} {n : Node} {v : String} {entry : LayoutCommand}
  {path : Path}

/-- The key of a node is none of the keys of counters and controls. -/
theorem key_ne_controlKey (hw : n.widget.isSome = true)
    (hn : n ∈ (ctx.command entry path).1.root.nodes) (command : String) (q : Path)
    (control : RepeatControl) : n.key ≠ controlKey ctx.digest command q control := by
  obtain ⟨symbol, q', hkey⟩ :=
    ctx.exists_widgetKey_of_command (Node.key_mem_of_mem_nodes hn hw)
  rw [hkey]
  exact widgetKey_ne_controlKey _ _ _ _ _ _

/-- The group for another state in which the counter is the same. -/
theorem fst_group_withState
    (hcounter : (ctx.withState state).counter entry path = ctx.counter entry path) :
    ((ctx.withState state).group entry path).1 =
      { (ctx.group entry path).1 with
        instances := ((ctx.withState state).instances entry path
          (ctx.instanceNumber entry path)).map Prod.fst
        dependents := ((ctx.withState state).dependents entry path
          (ctx.instanceNumber entry path)).map Prod.fst } := by
  have hnumber : (ctx.withState state).instanceNumber entry path =
      ctx.instanceNumber entry path := congrArg Int.toNat hcounter
  rw [group_eq, group_eq, hnumber, hcounter]
  rfl

/-- The counter of a group is not affected by a key that is none of its own. -/
theorem counter_of_ne {key : String} (hagree : ∀ k, k ≠ key → state.get? k = ctx.state.get? k)
    (hne : ∀ control, key ≠ controlKey ctx.digest entry.name path control) :
    (ctx.withState state).counter entry path = ctx.counter entry path := by
  refine counter_withState (hagree _ (hne .count).symm) fun control _ => ?_
  rw [Entries.has_eq_isSome_get?, Entries.has_eq_isSome_get?, hagree _ (hne control).symm]

/-- An item that does not have an edited key stays the same. -/
theorem item_of_key_notMem {key : String} (hagree : ∀ k, k ≠ key → state.get? k = ctx.state.get? k)
    (h : key ∉ (ctx.item entry path).1.keys) :
    (ctx.withState state).item entry path = ctx.item entry path := by
  refine item_withState (fun hrepeated => counter_of_ne hagree fun control heq => h ?_)
    fun c hc => Node.isKept_of_key_notMem hagree fun hmem =>
      h (FormItem.mem_keys_of_command hc hmem)
  rw [item_of_isRepeated _ hrepeated, heq]
  refine List.mem_append_left _ ?_
  cases control with
  | count => exact List.mem_cons_self ..
  | plus => exact List.mem_cons_of_mem _ (List.mem_cons_self ..)
  | minus => exact List.mem_cons_of_mem _ (List.mem_cons_of_mem _ (List.mem_cons_self ..))

/-- The keys of each command of an item are distinct. -/
theorem nodup_keys_of_item (hdigest : HasFixedLength ctx.digest) {c : CommandForm}
    (h : c ∈ (ctx.item entry path).1.commands) : c.keys.Nodup := by
  obtain ⟨entry', path', rfl⟩ := exists_command_of_item h
  exact (ctx.keyBlock_command hdigest entry' path').nodup

/-- A command is valid exactly if its tree has no issues. -/
theorem valid_iff_forall_issue_of_item {c : CommandForm}
    (h : c ∈ (ctx.item entry path).1.commands) :
    c.line.valid = true ↔ ∀ m ∈ c.root.nodes, m.issue = none := by
  obtain ⟨entry', path', rfl⟩ := exists_command_of_item h
  exact Renderer.valid_iff_forall_issue _ _ _ _ _

/-- A text field in an item has no nodes below it, and it has an issue if its text is not
accepted. -/
theorem of_widget_eq_text {c : CommandForm} (hc : c ∈ (ctx.item entry path).1.commands)
    (hn : n ∈ c.root.nodes) {value : String} {kind : ValueKind} {valid : Bool}
    (hw : n.widget = some (.text value kind valid)) :
    n.children = [] ∧ n.issue = if valid then none else some .invalidLeaf := by
  obtain ⟨entry', path', rfl⟩ := exists_command_of_item hc
  obtain ⟨levels, default?, showLabel, heq⟩ :=
    Renderer.exists_renderLevels_of_mem_nodes _ _ _ _ _ _ hn
  rw [heq] at hw ⊢
  exact Renderer.of_widget_eq_text hw

section Edited

variable (hdigest : HasFixedLength ctx.digest)
  (hagree : ∀ k, k ≠ n.key → state.get? k = ctx.state.get? k) (hw : n.widget.isSome = true)

include hdigest hagree hw

/-- An edited command differs in one subtree. -/
theorem exists_replaces_command (hget : state.get? n.key = some v)
    (hn : n ∈ (ctx.command entry path).1.root.nodes) :
    ∃ n', n.Edited v n' ∧ (ctx.command entry path).1.Replaces n n'
      ((ctx.withState state).command entry path).1 := by
  obtain ⟨n', hedited, hreplaces⟩ := Renderer.exists_replaces
    (r := ctx.renderer entry.name entry.inline) hdigest hagree hw hget _ _ _ _ _ hn
  exact ⟨n', hedited, .root hreplaces⟩

/-- A command in another slot than the edited node keeps what it shows. -/
theorem isKept_of_slot_ne {i j : Int} (hij : i ≠ j)
    (hn : n ∈ (ctx.command entry (path ++ [i])).1.root.nodes) (entry' : LayoutCommand) :
    (ctx.command entry' (path ++ [j])).1.IsKept ctx.state state :=
  Node.isKept_of_key_notMem hagree <|
    KeyBlock.slots_disjoint hdigest hij (ctx.keyBlock_command hdigest entry _)
      (ctx.keyBlock_command hdigest entry' _) (Node.key_mem_of_mem_nodes hn hw)

/-- Among instances, only the one with the edited node changes. -/
theorem map_instances_eq_set {i : Nat} (count : Nat)
    (hn : n ∈ (ctx.command { entry with repeatLimit := none }
      (path ++ [(i : Int) + 1])).1.root.nodes) :
    ((ctx.withState state).instances entry path count).map Prod.fst =
      ((ctx.instances entry path count).map Prod.fst).set i
        ((ctx.withState state).command { entry with repeatLimit := none }
          (path ++ [(i : Int) + 1])).1 := by
  refine eq_set_of_getElem_eq (by simp only [List.length_map, length_instances]) (fun _ => ?_)
    fun j _ _ hji => ?_
  · simp only [instances, List.getElem_map, List.getElem_range]
  · simp only [instances, List.getElem_map, List.getElem_range]
    exact congrArg Prod.fst
      (command_withState (isKept_of_slot_ne hdigest hagree hw (by omega) hn _))

/-- Among dependents, only the one with the edited node changes. -/
theorem map_dependents_eq_set {i count : Nat} {name : String} (hcount : count ≠ 0)
    (hname : entry.dependents[i]? = some name)
    (hn : n ∈ (ctx.command { name := name, inline := true }
      (path ++ [(count : Int) + i + 1])).1.root.nodes) :
    ((ctx.withState state).dependents entry path count).map Prod.fst =
      ((ctx.dependents entry path count).map Prod.fst).set i
        ((ctx.withState state).command { name := name, inline := true }
          (path ++ [(count : Int) + i + 1])).1 := by
  simp only [dependents, if_neg hcount]
  refine eq_set_of_getElem_eq (by simp only [List.length_map, List.length_mapIdx]) (fun _ => ?_)
    fun j _ _ hji => ?_
  · simp only [List.getElem_map, List.getElem_mapIdx, (List.getElem?_eq_some_iff.mp hname).2]
  · simp only [List.getElem_map, List.getElem_mapIdx]
    exact congrArg Prod.fst
      (command_withState (isKept_of_slot_ne hdigest hagree hw (by omega) hn _))

/-- **An edited group differs in one subtree** of an instance or a dependent. -/
theorem exists_replaces_group (hget : state.get? n.key = some v) {c : CommandForm}
    (hc : c ∈ (ctx.group entry path).1.commands) (hn : n ∈ c.root.nodes) :
    ∃ n' c', n.Edited v n' ∧ c.Replaces n n' c' ∧
      FormItem.Replaces c c' (.group (ctx.group entry path).1)
        (.group ((ctx.withState state).group entry path).1) := by
  have hcounter {entry' : LayoutCommand} {path' : Path}
      (hn : n ∈ (ctx.command entry' path').1.root.nodes) :=
    fst_group_withState (counter_of_ne hagree fun control => key_ne_controlKey hw hn entry.name path
      control)
  rw [commands_group, List.map_append] at hc
  rcases List.mem_append.mp hc with hinstance | hdependent
  · obtain ⟨i, hi, rfl⟩ := ctx.exists_of_mem_instances hinstance
    obtain ⟨n', hedited, hreplaces⟩ := exists_replaces_command hdigest hagree hw hget hn
    have hdependents : (ctx.withState state).dependents entry path (ctx.instanceNumber entry path) =
        ctx.dependents entry path (ctx.instanceNumber entry path) := by
      refine dependents_withState fun c' hc' => ?_
      obtain ⟨j, name, -, -, rfl⟩ := ctx.exists_of_mem_dependents hc'
      exact isKept_of_slot_ne hdigest hagree hw (by omega) hn _
    refine ⟨n', _, hedited, hreplaces, ?_⟩
    rw [hcounter hn, hdependents, map_instances_eq_set hdigest hagree hw _ hn]
    exact .instance (ctx.getElem?_map_instances entry path hi)
  · obtain ⟨i, name, hcount, hname, rfl⟩ := ctx.exists_of_mem_dependents hdependent
    obtain ⟨n', hedited, hreplaces⟩ := exists_replaces_command hdigest hagree hw hget hn
    have hinstances : (ctx.withState state).instances entry path (ctx.instanceNumber entry path) =
        ctx.instances entry path (ctx.instanceNumber entry path) := by
      refine instances_withState fun c' hc' => ?_
      obtain ⟨j, hj, rfl⟩ := ctx.exists_of_mem_instances hc'
      exact isKept_of_slot_ne hdigest hagree hw (by omega) hn _
    refine ⟨n', _, hedited, hreplaces, ?_⟩
    rw [hcounter hn, hinstances, map_dependents_eq_set hdigest hagree hw hcount hname hn]
    exact .dependent (ctx.getElem?_map_dependents path hcount hname)

/-- **An edited item differs in one subtree** of one of its commands. -/
theorem exists_replaces_item (hget : state.get? n.key = some v) {c : CommandForm}
    (hc : c ∈ (ctx.item entry path).1.commands) (hn : n ∈ c.root.nodes) :
    ∃ n' c', n.Edited v n' ∧ c.Replaces n n' c' ∧
      (ctx.item entry path).1.Replaces c c' ((ctx.withState state).item entry path).1 := by
  by_cases hrepeated : entry.isRepeated = true
  · rw [ctx.item_of_isRepeated hrepeated] at hc ⊢
    rw [item_of_isRepeated _ hrepeated]
    exact exists_replaces_group hdigest hagree hw hget hc hn
  · rw [ctx.item_of_not_isRepeated hrepeated] at hc ⊢
    rw [item_of_not_isRepeated _ hrepeated]
    cases List.mem_singleton.mp hc
    obtain ⟨n', hedited, hreplaces⟩ := exists_replaces_command hdigest hagree hw hget hn
    exact ⟨n', _, hedited, hreplaces, .command⟩

end Edited

end RenderContext

/-! ### Edited documents -/

/-- The commands of an item in which one is replaced. -/
theorem FormItem.Replaces.commands_eq {c c' : CommandForm} {item item' : FormItem}
    (h : item.Replaces c c' item') :
    ∃ k, item.commands[k]? = some c ∧ item'.commands = item.commands.set k c' := by
  cases h with
  | command => exact ⟨0, rfl, rfl⟩
  | @«instance» g i hc =>
    have hi := (List.getElem?_eq_some_iff.mp hc).1
    exact ⟨i, (List.getElem?_append_left hi).trans hc, (List.set_append_left _ _ hi).symm⟩
  | @dependent g i hc =>
    refine ⟨g.instances.length + i, ?_, ?_⟩
    · exact (List.getElem?_append_right (Nat.le_add_right ..)).trans
        ((congrArg (g.dependents[·]?) (Nat.add_sub_cancel_left ..)).trans hc)
    · refine ((List.set_append_right _ _ (Nat.le_add_right ..)).trans ?_).symm
      rw [Nat.add_sub_cancel_left]
      rfl

theorem FormItem.Replaces.mem_commands {c c' : CommandForm} {item item' : FormItem}
    (h : item.Replaces c c' item') : c' ∈ item'.commands := by
  obtain ⟨k, hk, hset⟩ := h.commands_eq
  rw [hset]
  exact List.mem_set (List.getElem?_eq_some_iff.mp hk).1 c'

/-- The lines of a document in which one command is replaced. -/
theorem Document.ReplacesItem.forall₂_lines {d d' : Document} {i : Nat} {item item' : FormItem}
    {c c' : CommandForm} {S : ConfigLine → ConfigLine → Prop} (h : d.ReplacesItem i item' d')
    (hitem : d.items[i]? = some item) (hreplaces : item.Replaces c c' item') (hrefl : ∀ l, S l l)
    (hline : S c.line c'.line) : List.Forall₂ S d.lines d'.lines := by
  have hlines (item : FormItem) : List.Forall₂ S item.lines item.lines :=
    List.forall₂_same.mpr fun l _ => hrefl l
  have hitemLines : List.Forall₂ S item.lines item'.lines := by
    obtain ⟨k, hk, hset⟩ := hreplaces.commands_eq
    rw [FormItem.lines, FormItem.lines, hset, List.map_set]
    exact forall₂_set hrefl (by rw [List.getElem?_map, hk, Option.map_some]) hline
  rw [lines_eq_flatMap_items, lines_eq_flatMap_items, h.items]
  exact List.rel_flatMap (forall₂_set (S := fun item item' => List.Forall₂ S item.lines item'.lines)
    hlines hitem hitemLines) fun _ _ h => h

namespace Assembler

variable {a : Assembler} {digest : String → String} {state state' : FormState} {d : Document}
  {notices : List Notice}

/-- The titles and lengths of sections do not depend on submitted values. -/
theorem map_shape_renderSections (state : FormState) (pairs : List (LayoutSection × Grammar)) :
    ∀ used : Nat, (a.renderSections digest state used pairs).map
        (fun s => (s.1.title, s.1.items.length)) =
      pairs.map fun p => (p.1.title, p.1.commands.length) := by
  induction pairs with
  | nil => intro used; rfl
  | cons p rest ih =>
    intro used
    rw [renderSections, List.map_cons, List.map_cons, ih, List.length_map, RenderContext.items,
      List.length_mapIdx]

/-- **A document differs in one item** if all other items stay the same. -/
theorem exists_replacesItem (h : a.assemble digest state = .ok (d, notices)) {i : Nat}
    {e : Grammar × LayoutCommand} (he : a.entries[i]? = some e)
    (hothers : ∀ j e', j ≠ i → a.entries[j]? = some e' →
      ((a.context digest e'.1 state).withState state').item e'.2 [(j : Int) + 1] =
        (a.context digest e'.1 state).item e'.2 [(j : Int) + 1]) :
    ∃ d' notices', a.assemble digest state' = .ok (d', notices') ∧
      d.ReplacesItem i (((a.context digest e.1 state).withState state').item e.2
        [(i : Int) + 1]).1 d' := by
  obtain ⟨htitle, hsections, -⟩ := (assemble_eq_ok_iff ..).mp h
  have h' : a.assemble digest state' =
      .ok (⟨d.title, (a.sectionForms digest state').map Prod.fst⟩, _) :=
    (assemble_eq_ok_iff ..).mpr ⟨htitle, rfl, rfl⟩
  refine ⟨_, _, h', rfl, ?_, ?_⟩
  · rw [hsections, List.map_map, List.map_map]
    exact (map_shape_renderSections state' _ 0).trans (map_shape_renderSections state _ 0).symm
  · rw [items_of_assemble h', items_of_assemble h]
    refine eq_set_of_getElem_eq (by simp only [List.length_mapIdx]) (fun _ => ?_)
      fun j _ hj hji => ?_
    · rw [List.getElem_mapIdx, (List.getElem?_eq_some_iff.mp he).2]
      rfl
    · rw [List.length_mapIdx] at hj
      rw [List.getElem_mapIdx, List.getElem_mapIdx]
      exact congrArg Prod.fst (hothers j _ hji (List.getElem?_eq_getElem hj))

/-- **An edited document differs in one subtree.** Giving the widget of a node any other value
changes one item of the document, in it one command, and in it the subtree of the node.  Apart from
that, only the texts and the validity of the nodes above it and the line of the command may change.
If the node is a text field whose text was not accepted and now is, then all valid lines stay as
they are, and the line of the command is valid exactly if no other node of it has an issue. -/
theorem exists_replaces_insert (hdigest : HasFixedLength digest)
    (h : a.assemble digest state = .ok (d, notices)) {i : Nat} {item : FormItem}
    (hitem : d.items[i]? = some item) {c : CommandForm} (hc : c ∈ item.commands) {n : Node}
    (hn : n ∈ c.root.nodes) (hw : n.widget.isSome = true) (v : String) :
    ∃ d' notices' item' c' n',
      a.assemble digest (Entries.insert n.key v state) = .ok (d', notices') ∧
      d.ReplacesItem i item' d' ∧ item.Replaces c c' item' ∧ c.Replaces n n' c' ∧ n.Edited v n' ∧
      ∀ value kind, n.widget = some (.text value kind false) → kind.accepts v = true →
        List.Forall₂ (fun l l' => l.valid = true → l' = l) d.lines d'.lines ∧
        (c'.line.valid = true ↔ ∀ m ∈ c.root.nodes, m ≠ n → m.issue = none) := by
  obtain ⟨e, he, rfl⟩ := exists_entry_of_items h hitem
  have hget : (Entries.insert n.key v state).get? n.key = some v := by
    rw [Entries.get?_insert, if_pos rfl]
  have hagree : ∀ k, k ≠ n.key → (Entries.insert n.key v state).get? k = state.get? k := by
    intro k hk
    rw [Entries.get?_insert, if_neg hk]
  have hblock (j : Nat) (e : Grammar × LayoutCommand) : KeyBlock digest ([] ++ [(j : Int) + 1])
      ((a.context digest e.1 state).item e.2 [(j : Int) + 1]).1.keys :=
    (a.context digest e.1 state).keyBlock_item hdigest e.2 _
  have hkey := Node.key_mem_of_mem_nodes hn hw
  -- The edited key lies in slot `i` of the document, so that no item in another slot has it.
  obtain ⟨d', notices', h', hd'⟩ := exists_replacesItem h he fun j e' hji _ =>
    RenderContext.item_of_key_notMem hagree
      (KeyBlock.slots_disjoint hdigest (by omega) (hblock i e) (hblock j e')
        (FormItem.mem_keys_of_command hc hkey))
  obtain ⟨n', c', hedited, hcommand, hitem'⟩ :=
    RenderContext.exists_replaces_item hdigest hagree hw hget hc hn
  refine ⟨d', notices', _, c', n', h', hd', hitem', hcommand, hedited,
    fun value kind htext hok => ?_⟩
  obtain ⟨hleaf, hissue⟩ := RenderContext.of_widget_eq_text hc hn htext
  rw [if_neg Bool.false_ne_true] at hissue
  have hvalid := RenderContext.valid_iff_forall_issue_of_item hc
  have hvalid' := RenderContext.valid_iff_forall_issue_of_item hitem'.mem_commands
  constructor
  · refine hd'.forall₂_lines hitem hitem' (fun _ _ => rfl) fun hline => ?_
    exact absurd (hissue.symm.trans (hvalid.mp hline n hn)) (by simp)
  · have hnew := hedited.text _ _ _ htext
    have hleaf' : n'.children = [] := by rw [hnew, Node.withText]
    have hissue' : n'.issue = none := by rw [hnew, Node.withText, if_pos hok]
    rw [hvalid']
    exact hcommand.forall_issue_iff hleaf hleaf' hissue'
      (RenderContext.nodup_keys_of_item hdigest hc) hw

/-- A sum of two numbers, of which the first one is misspelt. -/
def misspeltSum : FormState :=
  [(controlKey blankDigest "total" [1] .count, "1"),
    (widgetKey blankDigest "total" "total" [1, 1], "1"),
    (widgetKey blankDigest "total" "<sum>" [1, 1, 1], "0"),
    (widgetKey blankDigest "total" "<integer value>" [1, 1, 1, 1], "tree"),
    (widgetKey blankDigest "total" "<sum>" [1, 1, 2], "0"),
    (widgetKey blankDigest "total" "<integer value>" [1, 1, 2, 1], "4")]

theorem exists_replaces_insert_misspeltSum : ∃ d notices d' notices' item item' c c' n n',
    HasFixedLength blankDigest ∧ sumForm.assemble blankDigest misspeltSum = .ok (d, notices) ∧
    d.items[0]? = some item ∧ c ∈ item.commands ∧ n ∈ c.root.nodes ∧
    n.widget = some (.text "tree" .integer false) ∧
    sumForm.assemble blankDigest (Entries.insert n.key "3" misspeltSum) = .ok (d', notices') ∧
    d.ReplacesItem 0 item' d' ∧ item.Replaces c c' item' ∧ c.Replaces n n' c' ∧
    n'.text = "3" ∧ c'.line.valid = true := by
  have hdigest : HasFixedLength blankDigest := fun _ _ => rfl
  have h : sumForm.assemble blankDigest misspeltSum = .ok (_, _) := rfl
  obtain ⟨d', notices', item', c', n', h', hd, hitem, hc, hn, htext⟩ :=
    exists_replaces_insert hdigest h (i := 0) rfl (List.mem_of_getElem? (i := 0) rfl)
      (List.mem_of_getElem? (i := 2) rfl) rfl "3"
  obtain ⟨-, hvalid⟩ := htext "tree" .integer rfl (by decide)
  refine ⟨_, _, d', notices', _, item', _, c', _, n', hdigest, h, rfl,
    List.mem_of_getElem? (i := 0) rfl, List.mem_of_getElem? (i := 2) rfl, rfl, h', hd, hitem, hc,
    ?_, hvalid.mpr ?_⟩
  · rw [hn.text _ _ _ rfl]
    rfl
  · intro m hm hne
    obtain ⟨j, hj⟩ := List.getElem?_of_mem hm
    match j, hj with
    | 0, rfl | 1, rfl | 3, rfl | 4, rfl => rfl
    | 2, rfl => exact absurd rfl hne

end Assembler

end GrammarForm
