import GrammarForm.Proofs.Editing
import GrammarForm.Proofs.Resubmission

/-!
# The controls of a group

A group is changed by submitting the form with one of its controls pressed.  The plus control
adds an instance after the others, the minus control takes the last one away, and both together
cancel.  All that was typed into the other instances and into the rest of the form comes back.

The keys of an added instance are new, since its path is.  So no value of the form is found for
it, and it starts from its defaults, as in an empty form.  If it is taken away again, the form is
the one from before.

## Main definitions

* `Document.pressed` : what is submitted when controls of a group are pressed.
* `GroupForm.resized` : a group with another number of instances.
* `Document.FitsMemory` : the lists of a document are no longer than lists can be.

## Main results

* `Assembler.item_of_pressed` : the items that do not belong to a pressed control come back.
* `Assembler.counter_of_pressed` : the counter after controls were pressed.
* `Assembler.command_of_slot` : a command is rendered from what stood in its slot before.
* `Assembler.command_of_pressed` : an added instance is rendered as for the empty state.
* `Assembler.assemble_pressed` : the effect of the controls on a document.
-/

namespace GrammarForm

/-! ### Pressed controls -/

/-- What a browser submits when controls of a group are pressed: the form state of the document,
and the values of the pressed controls. -/
def Document.pressed (d : Document) (g : GroupForm) (plus minus : Option String) : FormState :=
  let state := plus.elim d.formState fun v => Entries.insert g.plusKey v d.formState
  minus.elim state fun v => Entries.insert g.minusKey v state

namespace Document

variable {d : Document} {g : GroupForm} {plus minus : Option String}

/-- Pressed controls leave all other values. -/
theorem get?_pressed {key : String} (hplus : key ≠ g.plusKey) (hminus : key ≠ g.minusKey) :
    (d.pressed g plus minus).get? key = d.formState.get? key := by
  cases plus <;> cases minus <;>
    simp only [pressed, Option.elim, Entries.get?_insert, if_neg hplus, if_neg hminus]

theorem has_plusKey_pressed (hno : d.formState.has g.plusKey = false)
    (hne : g.plusKey ≠ g.minusKey) :
    (d.pressed g plus minus).has g.plusKey = plus.isSome := by
  cases plus <;> cases minus <;>
    simp [pressed, Entries.has_insert, hno, hne]

theorem has_minusKey_pressed (hno : d.formState.has g.minusKey = false)
    (hne : g.plusKey ≠ g.minusKey) :
    (d.pressed g plus minus).has g.minusKey = minus.isSome := by
  cases plus <;> cases minus <;>
    simp [pressed, Entries.has_insert, hno, hne.symm]

end Document

/-- A group with another number of instances. -/
def GroupForm.resized (g : GroupForm) (cap count : Int) (instances dependents : List CommandForm) :
    GroupForm :=
  { g with
    count
    canAdd := decide (count < upperBound g.maximum cap)
    canRemove := decide (0 < count)
    instances
    dependents }

/-- The counter of a group after controls were pressed. -/
def GroupForm.countAfter (g : GroupForm) (cap : Int) (plus minus : Bool) : Int :=
  max 0 (min (g.count + (if plus then 1 else 0) - if minus then 1 else 0)
    (upperBound g.maximum cap))

namespace GroupForm

/-- The values in a slot of a group: those of the command that stands there, if there is one. -/
def slotFields (g : GroupForm) (slot : Nat) : FormState :=
  (g.commands[slot]?).elim [] (·.fields)

variable {g : GroupForm} {cap : Int}

/-- Both controls cancel. -/
theorem countAfter_both (hnonneg : 0 ≤ g.count) (hle : g.count ≤ max 0 (upperBound g.maximum cap)) :
    g.countAfter cap true true = g.count := by
  simp only [countAfter, if_true]
  omega

theorem countAfter_plus (hnonneg : 0 ≤ g.count) (hlt : g.count < upperBound g.maximum cap) :
    g.countAfter cap true false = g.count + 1 := by
  simp only [countAfter, Bool.false_eq_true, if_true, if_false]
  omega

/-- At the upper bound, the plus control does nothing. -/
theorem countAfter_plus_of_ge (hnonneg : 0 ≤ g.count)
    (hle : g.count ≤ max 0 (upperBound g.maximum cap)) (hge : upperBound g.maximum cap ≤ g.count) :
    g.countAfter cap true false = g.count := by
  simp only [countAfter, Bool.false_eq_true, if_true, if_false]
  omega

theorem countAfter_minus (hpos : 0 < g.count)
    (hle : g.count ≤ max 0 (upperBound g.maximum cap)) :
    g.countAfter cap false true = g.count - 1 := by
  simp only [countAfter, Bool.false_eq_true, if_true, if_false]
  omega

/-- At zero, the minus control does nothing. -/
theorem countAfter_minus_of_eq_zero (hzero : g.count = 0) :
    g.countAfter cap false true = g.count := by
  simp only [countAfter, Bool.false_eq_true, if_true, if_false]
  omega

end GroupForm

/-! ### Lists that fit into memory -/

/-- The alternatives that a widget offers. -/
def Widget.offers : Widget → List Offer
  | .text .. => []
  | .choice offers .. => offers

/-- The lists of an item have fewer than 2^63 elements.  This is true of every list that is held in
the memory of a computer, so it excludes no form that can be shown; but in a longer list, an index
or a counter would not be read back. -/
structure FormItem.FitsMemory (item : FormItem) : Prop where
  /-- The alternatives of a choice. -/
  offers : ∀ c ∈ item.commands, ∀ n ∈ c.root.nodes, ∀ w ∈ n.widget, w.offers.length < 2 ^ 63
  /-- The instances of a group. -/
  instances : ∀ g ∈ item.groups, g.instances.length < 2 ^ 63

instance (item : FormItem) : Decidable item.FitsMemory :=
  decidable_of_iff
    ((∀ c ∈ item.commands, ∀ n ∈ c.root.nodes, ∀ w ∈ n.widget, w.offers.length < 2 ^ 63) ∧
      ∀ g ∈ item.groups, g.instances.length < 2 ^ 63)
    ⟨fun h => ⟨h.1, h.2⟩, fun h => ⟨h.offers, h.instances⟩⟩

/-- The lists of a document fit into memory. -/
def Document.FitsMemory (d : Document) : Prop :=
  ∀ item ∈ d.items, item.FitsMemory

instance (d : Document) : Decidable d.FitsMemory :=
  inferInstanceAs (Decidable (∀ item ∈ d.items, item.FitsMemory))

namespace RenderContext

variable {ctx : RenderContext} {state : FormState} {entry : LayoutCommand} {path : Path}

/-- The indices in an item that fits into memory are read back. -/
theorem isReadBack_of_fitsMemory (hfits : (ctx.item entry path).1.FitsMemory) {c : CommandForm}
    (hc : c ∈ (ctx.item entry path).1.commands) :
    ∀ n ∈ c.root.nodes, ∀ w, n.widget = some w → w.IsReadBack := by
  intro n hn w hw
  have hlength := hfits.offers c hc n hn
  obtain ⟨entry', path', rfl⟩ := exists_command_of_item hc
  refine Renderer.isReadBack_of_length_offers hn hw fun offers selected tip off hchoice => ?_
  exact (hlength _ hchoice).le.trans (by decide)

theorem length_instances_group :
    (ctx.group entry path).1.instances.length = ctx.instanceNumber entry path := by
  rw [group_eq]
  exact (List.length_map ..).trans (ctx.length_instances entry path _)

/-- The counter of a group that fits into memory is read back. -/
theorem counter_le_of_fitsMemory (hfits : (ctx.item entry path).1.FitsMemory)
    (hrepeated : entry.isRepeated = true) : ctx.counter entry path ≤ 9223372036854775807 := by
  rw [item_of_isRepeated _ hrepeated] at hfits
  have hlength := hfits.instances _ (List.mem_singleton_self _)
  rw [length_instances_group, instanceNumber] at hlength
  omega

/-- One more instance stands after the others. -/
theorem instances_succ (n : Nat) :
    ctx.instances entry path (n + 1) = ctx.instances entry path n ++
      [ctx.command { entry with repeatLimit := none } (path ++ [(n : Int) + 1])] := by
  simp only [instances, List.range_succ, List.map_append, List.map_cons, List.map_nil]

/-- Fewer instances are the first ones of them. -/
theorem map_instances_eq_take {m n : Nat} (hmn : m ≤ n) :
    (ctx.instances entry path m).map Prod.fst =
      ((ctx.instances entry path n).map Prod.fst).take m := by
  simp only [instances, ← List.map_take, List.take_range, Nat.min_eq_left hmn]

/-- Instances come back from their own values. -/
theorem instances_of_carries {n : Nat} (hn : n ≤ ctx.instanceNumber entry path)
    (hfits : (ctx.item entry path).1.FitsMemory) (hrepeated : entry.isRepeated = true)
    (hstate : ∀ c ∈ (ctx.group entry path).1.instances, state.Carries c.fields) :
    (ctx.withState state).instances entry path n = ctx.instances entry path n := by
  refine instances_withState fun c hc => ?_
  rw [map_instances_eq_take hn] at hc
  have hmem : c ∈ (ctx.group entry path).1.instances := List.mem_of_mem_take hc
  refine CommandForm.isKept_of_carries (isReadBack_of_fitsMemory hfits ?_) (hstate c hmem)
  rw [item_of_isRepeated _ hrepeated]
  exact List.mem_append_left _ hmem

/-- The group for a state with another counter. -/
theorem group_of_counter {n : Nat}
    (hcounter : (ctx.withState state).counter entry path = n) :
    ((ctx.withState state).group entry path).1 =
      (ctx.group entry path).1.resized ctx.repeatCap n
        (((ctx.withState state).instances entry path n).map Prod.fst)
        (((ctx.withState state).dependents entry path n).map Prod.fst) := by
  have hnumber : (ctx.withState state).instanceNumber entry path = n := by
    rw [instanceNumber, hcounter, Int.toNat_natCast]
  rw [group_eq, group_eq, hnumber, hcounter]
  rfl

end RenderContext

/-! ### Documents with pressed controls -/

namespace Assembler

variable {a : Assembler} {digest : String → String} {state : FormState} {d : Document}
  {notices : List Notice} {i : Nat} {g : GroupForm} {e : Grammar × LayoutCommand}
  {plus minus : Option String}

/-- The group in a slot of a document is that of a repeated command. -/
theorem exists_group_of_items (h : a.assemble digest state = .ok (d, notices))
    (hitem : d.items[i]? = some (.group g)) :
    ∃ e, a.entries[i]? = some e ∧ e.2.isRepeated = true ∧
      g = ((a.context digest e.1 state).group e.2 [(i : Int) + 1]).1 := by
  obtain ⟨e, he, heq⟩ := exists_entry_of_items h hitem
  by_cases hrepeated : e.2.isRepeated = true
  · rw [RenderContext.item_of_isRepeated _ hrepeated] at heq
    exact ⟨e, he, hrepeated, FormItem.group.inj heq⟩
  · rw [RenderContext.item_of_not_isRepeated _ hrepeated] at heq
    exact nomatch heq

/-- A group has as many instances as its counter says, within its bounds. -/
theorem count_of_group (h : a.assemble digest state = .ok (d, notices))
    (hitem : d.items[i]? = some (.group g)) :
    g.count = g.instances.length ∧ g.count ≤ max 0 (upperBound g.maximum a.options.repeatCap) ∧
      g.canAdd = decide (g.count < upperBound g.maximum a.options.repeatCap) ∧
      g.canRemove = decide (0 < g.count) := by
  obtain ⟨e, -, -, rfl⟩ := exists_group_of_items h hitem
  obtain ⟨hnonneg, hle⟩ := (a.context digest e.1 state).counter_bounds e.2 [(i : Int) + 1]
  refine ⟨?_, hle, rfl, rfl⟩
  rw [RenderContext.length_instances_group]
  exact (Int.toNat_of_nonneg hnonneg).symm

section Pressed

variable (hdigest : HasFixedLength digest) (h : a.assemble digest state = .ok (d, notices))
  (hg : g = ((a.context digest e.1 state).group e.2 [(i : Int) + 1]).1)

include hdigest h hg

/-- The values of a document are submitted with pressed controls. -/
theorem carries_pressed : (d.pressed g plus minus).Carries d.fields := by
  intro key value hmem
  have hne {control : RepeatControl} (hcontrol : control ≠ .count) :
      key ≠ controlKey digest e.2.name [(i : Int) + 1] control := by
    rintro rfl
    have hno := has_formState_controlKey hdigest h e.2.name [(i : Int) + 1] hcontrol
    rw [formState_eq_fields hdigest h, Entries.has_eq_false_iff] at hno
    exact hno (List.mem_map.mpr ⟨_, hmem, rfl⟩)
  subst hg
  rw [Document.get?_pressed (hne (by decide)) (hne (by decide))]
  exact get?_formState hdigest h hmem

/-- The values of a command are submitted with pressed controls. -/
theorem carries_pressed_command {j : Nat} {item : FormItem} {c : CommandForm}
    (hj : d.items[j]? = some item) (hc : c ∈ item.commands) :
    (d.pressed g plus minus).Carries c.fields :=
  (carries_pressed hdigest h hg).mono fun _ hp =>
    List.mem_flatMap.mpr ⟨_, List.mem_of_getElem? hj, FormItem.mem_fields_of_command hc hp⟩

/-- **The items that do not belong to a pressed control come back.** -/
theorem item_of_pressed {j : Nat} {e' : Grammar × LayoutCommand} (hji : j ≠ i)
    (he' : a.entries[j]? = some e')
    (hfits : ((a.context digest e'.1 state).item e'.2 [(j : Int) + 1]).1.FitsMemory) :
    ((a.context digest e'.1 state).withState (d.pressed g plus minus)).item e'.2 [(j : Int) + 1] =
      (a.context digest e'.1 state).item e'.2 [(j : Int) + 1] := by
  have hcarries : (d.pressed g plus minus).Carries
      ((a.context digest e'.1 state).item e'.2 [(j : Int) + 1]).1.fields :=
    (carries_pressed hdigest h hg).mono fun _ hp =>
      List.mem_flatMap.mpr ⟨_, List.mem_of_getElem? (getElem?_items h he'), hp⟩
  have hno {control : RepeatControl} (hcontrol : control ≠ .count) :
      (d.pressed g plus minus).has (controlKey digest e'.2.name [(j : Int) + 1] control) =
        false := by
    have hne (control' : RepeatControl) : controlKey digest e'.2.name [(j : Int) + 1] control ≠
        controlKey digest e.2.name [(i : Int) + 1] control' := by
      intro heq
      have hslot := (List.cons.inj (controlKey_inj hdigest heq).1).1
      omega
    subst hg
    rw [Entries.has_eq_isSome_get?, Document.get?_pressed (hne _) (hne _),
      ← Entries.has_eq_isSome_get?]
    exact has_formState_controlKey hdigest h _ _ hcontrol
  exact RenderContext.item_of_isReadBack
    (fun c hc => RenderContext.isReadBack_of_fitsMemory hfits hc)
    (RenderContext.counter_le_of_fitsMemory hfits) hcarries (hno (by decide)) (hno (by decide))

variable (hitem : d.items[i]? = some (.group g))

include hitem

/-- **The counter after controls were pressed.** -/
theorem counter_of_pressed (hcount : g.count ≤ 9223372036854775807) :
    ((a.context digest e.1 state).withState (d.pressed g plus minus)).counter e.2 [(i : Int) + 1] =
      g.countAfter a.options.repeatCap plus.isSome minus.isSome := by
  have hcarries : (d.pressed g plus minus).Carries g.fields :=
    (carries_pressed hdigest h hg).mono fun _ hp =>
      List.mem_flatMap.mpr ⟨_, List.mem_of_getElem? hitem, hp⟩
  subst hg
  have hno {control : RepeatControl} (hcontrol : control ≠ .count) :=
    has_formState_controlKey hdigest h e.2.name [(i : Int) + 1] hcontrol
  have hne : controlKey digest e.2.name [(i : Int) + 1] .plus ≠
      controlKey digest e.2.name [(i : Int) + 1] .minus := fun heq =>
    absurd (controlKey_inj hdigest heq).2 (by decide)
  exact RenderContext.counter_of_carries hcount hcarries
    (Document.has_plusKey_pressed (hno (by decide)) hne)
    (Document.has_minusKey_pressed (hno (by decide)) hne)

/-! ### The slots of a group -/

/-- What a document submits in a slot of a group is a value of the command that stands there. -/
theorem mem_slotFields {slot : Nat} {key value : String} {keys : List String}
    (hblock : KeyBlock digest ([(i : Int) + 1] ++ [(slot : Int) + 1]) keys) (hkey : key ∈ keys)
    (hcount : key ≠ g.countKey) (hmem : (key, value) ∈ d.fields) :
    (key, value) ∈ g.slotFields slot := by
  obtain ⟨item, hitem', hp⟩ := List.mem_flatMap.mp hmem
  obtain ⟨j, hj⟩ := List.getElem?_of_mem hitem'
  by_cases hji : j = i
  · subst hji
    cases hitem.symm.trans hj
    rcases List.mem_cons.mp hp with heq | hp
    · exact absurd (congrArg Prod.fst heq) hcount
    obtain ⟨c, hc, hp⟩ := List.mem_flatMap.mp hp
    obtain ⟨k, hk⟩ := List.getElem?_of_mem hc
    by_cases hslot : k = slot
    · subst hslot
      rw [GroupForm.slotFields, hk]
      exact hp
    · subst hg
      obtain ⟨entry', rfl⟩ := RenderContext.exists_command_of_commands _ hk
      have hother := (a.context digest e.1 state).keyBlock_command hdigest entry'
        ([(j : Int) + 1] ++ [(k : Int) + 1])
      exact absurd hkey
        (KeyBlock.slots_disjoint hdigest (by omega) hother hblock (List.mem_map_of_mem hp))
  · obtain ⟨e', -, rfl⟩ := exists_entry_of_items h hj
    have hbelow : KeyBlock digest ([] ++ [(i : Int) + 1]) keys :=
      hblock.above (List.prefix_append ..)
    have hother : KeyBlock digest ([] ++ [(j : Int) + 1])
        ((a.context digest e'.1 state).item e'.2 [(j : Int) + 1]).1.keys :=
      (a.context digest e'.1 state).keyBlock_item hdigest _ _
    exact absurd hkey (KeyBlock.slots_disjoint hdigest (by omega) hother hbelow
      ((FormItem.map_fields_sublist_keys _).subset (List.mem_map_of_mem hp)))

/-- The form state has in a slot of a group the values of the command that stands there. -/
theorem get?_formState_of_slot {slot : Nat} {key : String} {keys : List String}
    (hblock : KeyBlock digest ([(i : Int) + 1] ++ [(slot : Int) + 1]) keys) (hkey : key ∈ keys)
    (hcount : key ≠ g.countKey) : d.formState.get? key = (g.slotFields slot).get? key := by
  have hslot : ((g.slotFields slot).map Prod.fst).Nodup ∧ g.slotFields slot ⊆ d.fields := by
    rw [GroupForm.slotFields]
    cases hc : g.commands[slot]? with
    | none => exact ⟨List.nodup_nil, List.nil_subset _⟩
    | some c =>
      have hfields : c.fields ⊆ d.fields := fun p hp => List.mem_flatMap.mpr
        ⟨_, List.mem_of_getElem? hitem,
          FormItem.mem_fields_of_command (List.mem_of_getElem? hc) hp⟩
      subst hg
      obtain ⟨entry', rfl⟩ := RenderContext.exists_command_of_commands _ hc
      exact ⟨((a.context digest e.1 state).keyBlock_command hdigest entry' _).nodup, hfields⟩
  rw [formState_eq_fields hdigest h]
  exact Entries.get?_eq_get?_of_forall_mem_iff (nodup_keys_fields hdigest h) hslot.1 fun value =>
    ⟨mem_slotFields hdigest h hg hitem hblock hkey hcount, fun hmem => hslot.2 hmem⟩

/-- **A command in a slot of a group with pressed controls is rendered from the values of the
command that stood there before.** -/
theorem command_of_slot (slot : Nat) (entry : LayoutCommand) :
    (a.context digest e.1 (d.pressed g plus minus)).command entry
        ([(i : Int) + 1] ++ [(slot : Int) + 1]) =
      (a.context digest e.1 (g.slotFields slot)).command entry
        ([(i : Int) + 1] ++ [(slot : Int) + 1]) := by
  have hkept : ((a.context digest e.1 (g.slotFields slot)).command entry
      ([(i : Int) + 1] ++ [(slot : Int) + 1])).1.IsKept (g.slotFields slot)
        (d.pressed g plus minus) := by
    intro n hn w hw
    have hwidget : n.widget.isSome = true := hw ▸ rfl
    have hcontrol (control : RepeatControl) :
        n.key ≠ controlKey digest e.2.name [(i : Int) + 1] control :=
      RenderContext.key_ne_controlKey hwidget hn _ _ _
    have hget : d.formState.get? n.key = (g.slotFields slot).get? n.key :=
      get?_formState_of_slot hdigest h hg hitem
        ((a.context digest e.1 (g.slotFields slot)).keyBlock_command hdigest entry _)
        (Node.key_mem_of_mem_nodes hn hwidget) (hg ▸ hcontrol .count)
    exact Or.inl ((Document.get?_pressed (hg ▸ hcontrol .plus) (hg ▸ hcontrol .minus)).trans hget)
  exact RenderContext.command_withState hkept

/-- **An added instance is rendered as for the empty state**, if the group has no dependents: no
value stands in the slot after the last instance. -/
theorem command_of_pressed (hdependents : g.dependents = []) (entry : LayoutCommand) :
    (a.context digest e.1 (d.pressed g plus minus)).command entry
        ([(i : Int) + 1] ++ [g.count + 1]) =
      (a.context digest e.1 []).command entry ([(i : Int) + 1] ++ [g.count + 1]) := by
  have hlength : g.count = g.instances.length := (count_of_group h hitem).1
  have hslot : g.slotFields g.instances.length = [] := by
    rw [GroupForm.slotFields, GroupForm.commands, hdependents, List.append_nil,
      List.getElem?_eq_none le_rfl]
    rfl
  rw [hlength, command_of_slot hdigest h hg hitem, hslot]

/-! ### Documents with another number of instances -/

variable (hfits : d.FitsMemory)

include hfits

/-- The instances of a group with pressed controls, as far as they were there before. -/
theorem instances_of_pressed (hrepeated : e.2.isRepeated = true) {n : Nat}
    (hn : (n : Int) ≤ g.count) :
    ((a.context digest e.1 (d.pressed g plus minus)).instances e.2 [(i : Int) + 1] n).map Prod.fst =
      g.instances.take n := by
  have hcarries (c : CommandForm) (hc : c ∈ g.instances) :
      (d.pressed g plus minus).Carries c.fields :=
    carries_pressed_command hdigest h hg hitem (List.mem_append_left _ hc)
  have hitemFits : ((a.context digest e.1 state).item e.2 [(i : Int) + 1]).1.FitsMemory := by
    rw [RenderContext.item_of_isRepeated _ hrepeated, ← hg]
    exact hfits _ (List.mem_of_getElem? hitem)
  subst hg
  have hle : n ≤ (a.context digest e.1 state).instanceNumber e.2 [(i : Int) + 1] :=
    (Int.le_toNat (RenderContext.counter_bounds ..).1).mpr hn
  refine (congrArg (List.map Prod.fst)
    (RenderContext.instances_of_carries hle hitemFits hrepeated hcarries)).trans ?_
  exact RenderContext.map_instances_eq_take hle

/-- A document whose counter changes is the same with another number of instances in the group. -/
theorem exists_assemble_pressed (he : a.entries[i]? = some e) (hrepeated : e.2.isRepeated = true)
    (hbound : g.count ≤ 9223372036854775807) {n : Nat}
    (hcount : g.countAfter a.options.repeatCap plus.isSome minus.isSome = n) :
    ∃ d' notices' dependents, a.assemble digest (d.pressed g plus minus) = .ok (d', notices') ∧
      d.ReplacesItem i (.group (g.resized a.options.repeatCap n
        (((a.context digest e.1 (d.pressed g plus minus)).instances e.2 [(i : Int) + 1] n).map
          Prod.fst) dependents)) d' := by
  obtain ⟨d', notices', h', hd'⟩ := exists_replacesItem h he fun j e' hji he' =>
    item_of_pressed hdigest h hg hji he' (hfits _ (List.mem_of_getElem? (getElem?_items h he')))
  have hcounter := (counter_of_pressed hdigest h hg hitem hbound).trans hcount
  rw [RenderContext.item_of_isRepeated _ hrepeated, RenderContext.group_of_counter hcounter,
    ← hg] at hd'
  exact ⟨d', notices', _, h', hd'⟩

end Pressed

/-! ### The effect of the controls -/

section Effect

variable (hdigest : HasFixedLength digest) (h : a.assemble digest state = .ok (d, notices))
  (hfits : d.FitsMemory) (hitem : d.items[i]? = some (.group g))

include hdigest h hfits hitem

/-- A document whose counter stays the same comes back. -/
theorem assemble_pressed_of_countAfter_eq (hbound : g.count ≤ 9223372036854775807)
    (hcount : g.countAfter a.options.repeatCap plus.isSome minus.isSome = g.count) :
    a.assemble digest (d.pressed g plus minus) = .ok (d, notices) := by
  obtain ⟨e, he, hrepeated, hg⟩ := exists_group_of_items h hitem
  refine assemble_withState h fun j e' he' => ?_
  have hj := getElem?_items h he'
  have hjFits := hfits _ (List.mem_of_getElem? hj)
  by_cases hji : j = i
  · subst hji
    cases he.symm.trans he'
    refine RenderContext.item_withState (fun _ => ?_) fun c hc => ?_
    · rw [counter_of_pressed hdigest h hg hitem hbound, hcount, hg]
      rfl
    · exact CommandForm.isKept_of_carries (RenderContext.isReadBack_of_fitsMemory hjFits hc)
        (carries_pressed_command hdigest h hg hj hc)
  · exact item_of_pressed hdigest h hg hji he' hjFits

/-- **An enabled plus control adds an instance.** -/
theorem exists_assemble_pressed_plus (he : a.entries[i]? = some e)
    (hrepeated : e.2.isRepeated = true)
    (hg : g = ((a.context digest e.1 state).group e.2 [(i : Int) + 1]).1)
    (hbound : g.count ≤ 9223372036854775807)
    (hadd : g.count < upperBound g.maximum a.options.repeatCap) (v : String) :
    ∃ d' notices' dependents, a.assemble digest (d.pressed g (some v) none) = .ok (d', notices') ∧
      d.ReplacesItem i (.group (g.resized a.options.repeatCap (g.count + 1)
        (g.instances ++ [((a.context digest e.1 (d.pressed g (some v) none)).command
          { e.2 with repeatLimit := none } ([(i : Int) + 1] ++ [g.count + 1])).1])
        dependents)) d' := by
  obtain ⟨hlength, -⟩ := count_of_group h hitem
  have hcount : g.countAfter a.options.repeatCap (some v).isSome (none : Option String).isSome =
      ((g.instances.length + 1 : Nat) : Int) := by
    rw [Nat.cast_add_one, ← hlength]
    exact GroupForm.countAfter_plus (by omega) hadd
  obtain ⟨d', notices', dependents, h', hd'⟩ :=
    exists_assemble_pressed hdigest h hg hitem hfits he hrepeated hbound hcount
  rw [RenderContext.instances_succ, List.map_append,
    instances_of_pressed hdigest h hg hitem hfits hrepeated hlength.ge, List.take_length,
    Nat.cast_add_one, ← hlength] at hd'
  exact ⟨d', notices', dependents, h', hd'⟩

/-- **An enabled minus control takes the last instance away.** -/
theorem exists_assemble_pressed_minus (hbound : g.count ≤ 9223372036854775807)
    (hremove : 0 < g.count) (w : String) :
    ∃ d' notices' dependents, a.assemble digest (d.pressed g none (some w)) = .ok (d', notices') ∧
      d.ReplacesItem i (.group (g.resized a.options.repeatCap (g.count - 1)
        g.instances.dropLast dependents)) d' := by
  obtain ⟨e, he, hrepeated, hg⟩ := exists_group_of_items h hitem
  obtain ⟨hlength, hle, -⟩ := count_of_group h hitem
  have hcast : ((g.instances.length - 1 : Nat) : Int) = g.count - 1 := by omega
  have hcount : g.countAfter a.options.repeatCap (none : Option String).isSome (some w).isSome =
      ((g.instances.length - 1 : Nat) : Int) :=
    (GroupForm.countAfter_minus hremove hle).trans hcast.symm
  obtain ⟨d', notices', dependents, h', hd'⟩ :=
    exists_assemble_pressed hdigest h hg hitem hfits he hrepeated hbound hcount
  rw [instances_of_pressed hdigest h hg hitem hfits hrepeated (by omega), hcast,
    ← List.dropLast_eq_take] at hd'
  exact ⟨d', notices', dependents, h', hd'⟩

/-- **Taking an added instance away again restores the document**, if its group has no
dependents. -/
theorem assemble_pressed_minus_of_plus (hdependents : g.dependents = []) {v w : String}
    {d' : Document} {notices' : List Notice} {g' : GroupForm} {c : CommandForm}
    (h' : a.assemble digest (d.pressed g (some v) none) = .ok (d', notices'))
    (hitem' : d'.items[i]? = some (.group g')) (hcount : g'.count = g.count + 1)
    (hinstances : g'.instances = g.instances ++ [c]) (hbound : g'.count ≤ 9223372036854775807) :
    a.assemble digest (d'.pressed g' none (some w)) = .ok (d, notices) := by
  obtain ⟨e, he, hrepeated, hg⟩ := exists_group_of_items h hitem
  obtain ⟨f, hf, -, hg'⟩ := exists_group_of_items h' hitem'
  cases he.symm.trans hf
  obtain ⟨hlength, -⟩ := count_of_group h hitem
  obtain ⟨-, hle', -⟩ := count_of_group h' hitem'
  refine assemble_withState h fun j e' he' => ?_
  have hj := getElem?_items h he'
  have hjFits := hfits _ (List.mem_of_getElem? hj)
  by_cases hji : j = i
  · subst hji
    cases he.symm.trans he'
    refine RenderContext.item_withState (fun _ => ?_) fun c' hc' => ?_
    · have hcounter : g'.countAfter a.options.repeatCap false true = g.count := by
        rw [GroupForm.countAfter_minus (by omega) hle', hcount, Int.add_sub_cancel]
      exact (counter_of_pressed hdigest h' hg' hitem' hbound).trans
        (hcounter.trans (congrArg GroupForm.count hg))
    · have hcommand : c' ∈ FormItem.commands (.group g') := by
        rw [RenderContext.item_of_isRepeated _ hrepeated, ← hg, FormItem.commands,
          GroupForm.commands, hdependents, List.append_nil] at hc'
        rw [FormItem.commands, GroupForm.commands, hinstances]
        exact List.mem_append_left _ (List.mem_append_left _ hc')
      exact CommandForm.isKept_of_carries (RenderContext.isReadBack_of_fitsMemory hjFits hc')
        (carries_pressed_command hdigest h' hg' hitem' hcommand)
  · -- The other items are the same after the first control, and so after the second one.
    have hsame : ((a.context digest e'.1 state).withState (d.pressed g (some v) none)).item e'.2
        [(j : Int) + 1] = (a.context digest e'.1 state).item e'.2 [(j : Int) + 1] :=
      item_of_pressed hdigest h hg hji he' hjFits
    refine (item_of_pressed hdigest h' hg' hji he' ?_).trans hsame
    exact (congrArg (fun rendered => rendered.1.FitsMemory) hsame).mpr hjFits

/-- **The effect of the controls of a group.** Let the bound of a group fit into 64 bits.  If both
controls are pressed, or one that is disabled, the document stays the same.  An enabled plus
control adds one instance to the others, and an enabled minus control takes the last one away;
nothing changes outside of the group.  In a group without dependents the added instance is
rendered as for the empty state, and pressing the minus control then restores the document. -/
theorem assemble_pressed
    (hbound : upperBound g.maximum a.options.repeatCap ≤ 9223372036854775807) (v w : String) :
    a.assemble digest (d.pressed g (some v) (some w)) = .ok (d, notices) ∧
    (g.canAdd = false → a.assemble digest (d.pressed g (some v) none) = .ok (d, notices)) ∧
    (g.canRemove = false → a.assemble digest (d.pressed g none (some w)) = .ok (d, notices)) ∧
    (g.canAdd = true → ∃ d' notices' c dependents,
      a.assemble digest (d.pressed g (some v) none) = .ok (d', notices') ∧
      d.ReplacesItem i (.group (g.resized a.options.repeatCap (g.count + 1)
        (g.instances ++ [c]) dependents)) d' ∧
      (g.dependents = [] →
        (∃ e, a.entries[i]? = some e ∧ c = ((a.context digest e.1 []).command
          { e.2 with repeatLimit := none } (g.path ++ [g.count + 1])).1) ∧
        a.assemble digest (d'.pressed (g.resized a.options.repeatCap (g.count + 1)
          (g.instances ++ [c]) dependents) none (some w)) = .ok (d, notices))) ∧
    (g.canRemove = true → ∃ d' notices' dependents,
      a.assemble digest (d.pressed g none (some w)) = .ok (d', notices') ∧
      d.ReplacesItem i (.group (g.resized a.options.repeatCap (g.count - 1)
        g.instances.dropLast dependents)) d') := by
  obtain ⟨hlength, hle, hcanAdd, hcanRemove⟩ := count_of_group h hitem
  obtain ⟨e, he, hrepeated, hg⟩ := exists_group_of_items h hitem
  have hnonneg : 0 ≤ g.count := by omega
  have hcount : g.count ≤ 9223372036854775807 := by omega
  rw [hcanAdd, hcanRemove, decide_eq_false_iff_not, decide_eq_false_iff_not, decide_eq_true_eq,
    decide_eq_true_eq]
  refine ⟨?_, fun hfull => ?_, fun hempty => ?_, fun hadd => ?_, fun hremove =>
    exists_assemble_pressed_minus hdigest h hfits hitem hcount hremove w⟩
  · exact assemble_pressed_of_countAfter_eq hdigest h hfits hitem hcount
      (GroupForm.countAfter_both hnonneg hle)
  · exact assemble_pressed_of_countAfter_eq hdigest h hfits hitem hcount
      (GroupForm.countAfter_plus_of_ge hnonneg hle (not_lt.mp hfull))
  · exact assemble_pressed_of_countAfter_eq hdigest h hfits hitem hcount
      (GroupForm.countAfter_minus_of_eq_zero (le_antisymm (not_lt.mp hempty) hnonneg))
  · obtain ⟨d', notices', dependents, h', hd'⟩ :=
      exists_assemble_pressed_plus hdigest h hfits hitem he hrepeated hg hcount hadd v
    refine ⟨d', notices', _, dependents, h', hd', fun hdependents => ⟨⟨e, he, ?_⟩, ?_⟩⟩
    · rw [command_of_pressed hdigest h hg hitem hdependents, congrArg GroupForm.path hg]
      rfl
    · exact assemble_pressed_minus_of_plus hdigest h hfits hitem hdependents h'
        (hd'.getElem?_items hitem) rfl rfl (le_trans (Int.add_one_le_of_lt hadd) hbound)

end Effect

/-- A form for any number of sums. -/
def sumsForm : Assembler where
  catalogue :=
    { sumForm.catalogue with
      sections :=
        [{ title := "Totals", commands := [{ name := "total", repeatLimit := some (-1) }] }] }
  options := {}
  grammars := [sumGrammar]

theorem assemble_pressed_blankSums : ∃ d notices g d' notices' g',
    HasFixedLength blankDigest ∧ sumsForm.assemble blankDigest blankSums = .ok (d, notices) ∧
    d.FitsMemory ∧ d.items[0]? = some (.group g) ∧
    upperBound g.maximum sumsForm.options.repeatCap ≤ 9223372036854775807 ∧
    g.canAdd = true ∧ g.canRemove = true ∧ g.dependents = [] ∧
    sumsForm.assemble blankDigest (d.pressed g (some "+") none) = .ok (d', notices') ∧
    d.ReplacesItem 0 (.group g') d' ∧ g.count = 2 ∧ g'.count = 3 ∧
    sumsForm.assemble blankDigest (d'.pressed g' none (some "-")) = .ok (d, notices) := by
  have hdigest : HasFixedLength blankDigest := fun _ _ => rfl
  have h : sumsForm.assemble blankDigest blankSums = .ok (_, _) := rfl
  obtain ⟨-, -, -, hplus, -⟩ :=
    assemble_pressed (i := 0) hdigest h (by decide) rfl (by decide) "+" "-"
  obtain ⟨d', notices', c, dependents, h', hd', hrestore⟩ := hplus (by decide)
  exact ⟨_, _, _, d', notices', _, hdigest, h, by decide, rfl, by decide, by decide, by decide, rfl,
    h', hd', by decide, rfl, (hrestore rfl).2⟩

end Assembler

end GrammarForm
