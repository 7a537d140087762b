import GrammarForm.Proofs.Reading

/-!
# Submitting a form unchanged

A form that is submitted as it was shown comes back as it was shown.  Every widget finds its own
value in the form state again: a leaf its text, a choice its index, an unresolved choice the mark
for no index, and a group its number of instances.  None of them falls back on a default then, so
defaults do not get in the way: each node is kept, and with it the whole tree.

Numbers are read back only within the digits that a form reads, which is a condition on the
number of alternatives of a symbol and on the bounds of groups.

## Main definitions

* `FormState.Carries` : a state has given values under given keys.
* `Assembler.WithinLimits` : the numbers of a form keep within what is read back.

## Main results

* `RenderContext.counter_of_carries` : a counter comes back, changed by the pressed controls.
* `RenderContext.item_of_isReadBack` : an item comes back from its own values.
* `Assembler.assemble_of_carries`, `Assembler.assemble_formState` : so does a document.
-/

namespace GrammarForm

/-- A state has each of some values under its key. -/
def FormState.Carries (state : FormState) (fields : List (String × String)) : Prop :=
  ∀ key value, (key, value) ∈ fields → state.get? key = some value

namespace FormState.Carries

variable {state : FormState}

theorem mono {fields fewer : List (String × String)} (h : Carries state fields)
    (hsub : ∀ p ∈ fewer, p ∈ fields) : Carries state fewer :=
  fun key value hmem => h key value (hsub _ hmem)

end FormState.Carries

/-! ### Values that are read back -/

/-- A command keeps what it shows in a state that has its values, if its indices are short enough
to be read back. -/
theorem CommandForm.isKept_of_carries {state state' : FormState} {c : CommandForm}
    (hread : ∀ n ∈ c.root.nodes, ∀ w, n.widget = some w → w.IsReadBack)
    (hstate : state'.Carries c.fields) : c.IsKept state state' := by
  intro n hn w hw
  exact Or.inr ⟨hstate _ _ (CommandForm.mem_fields_of_widget hn hw), hread n hn w hw⟩

namespace Renderer

variable {r : Renderer}

/-- The selected index of a node is read back if there are not too many alternatives. -/
theorem isReadBack_of_length_offers {levels : Nat} {symbol : String} {path : Path}
    {default? : Option DefaultValue} {showLabel : Bool} {n : Node} {w : Widget}
    (hn : n ∈ (r.renderLevels levels symbol path default? showLabel).1.nodes)
    (hw : n.widget = some w)
    (hlength : ∀ offers selected tip off, n.widget = some (.choice offers selected tip off) →
      offers.length ≤ 10 ^ ValueKind.digitLimit) : w.IsReadBack := by
  rcases w with ⟨value, kind, ok⟩ | ⟨offers, _ | i, tip, off⟩
  · trivial
  · trivial
  · obtain ⟨levels', default', showLabel', heq⟩ := r.exists_renderLevels_of_mem_nodes _ _ _ _ _ hn
    have hi := (of_widget_eq_choice (heq ▸ hw)).2 i rfl
    exact hi.trans_le (hlength _ _ _ _ hw)

/-- All selected indexes are read back if no symbol has too many alternatives. -/
theorem isReadBack_of_length_alternatives
    (hlimit : ∀ symbol, (r.grammar.alternatives symbol).length ≤ 10 ^ ValueKind.digitLimit)
    {levels : Nat} {symbol : String} {path : Path} {default? : Option DefaultValue}
    {showLabel : Bool} {n : Node} {w : Widget}
    (hn : n ∈ (r.renderLevels levels symbol path default? showLabel).1.nodes)
    (hw : n.widget = some w) : w.IsReadBack := by
  refine isReadBack_of_length_offers hn hw fun offers selected tip off hchoice => ?_
  obtain ⟨levels', default', showLabel', heq⟩ := r.exists_renderLevels_of_mem_nodes _ _ _ _ _ hn
  rw [(of_widget_eq_choice (heq ▸ hchoice)).1]
  exact hlimit _

end Renderer

/-- The number of instances lies between zero and the bound of the group, if that is not
negative. -/
theorem instanceCount_bounds (digest : String → String) (state : FormState) (command : String)
    (path : Path) (maximum cap : Int) :
    0 ≤ instanceCount digest state command path maximum cap ∧
      instanceCount digest state command path maximum cap ≤ max 0 (upperBound maximum cap) := by
  simp only [instanceCount]
  omega

/-- The number of instances is the submitted counter, changed by the controls that were pressed and
kept within its bounds. -/
theorem instanceCount_of_controls {digest : String → String} {state : FormState}
    {command : String} {path : Path} {maximum cap : Int} {plus minus : Bool}
    (hplus : state.has (controlKey digest command path .plus) = plus)
    (hminus : state.has (controlKey digest command path .minus) = minus) :
    instanceCount digest state command path maximum cap =
      max 0 (min (submittedCount (state.get? (controlKey digest command path .count)) +
        (if plus then 1 else 0) - if minus then 1 else 0) (upperBound maximum cap)) := by
  simp only [instanceCount, hplus, hminus]
  cases plus <;> cases minus <;> simp

/-- **A counter comes back**, changed by the controls that were pressed. -/
theorem instanceCount_of_submitted {digest : String → String} {state : FormState}
    {command : String} {path : Path} {maximum cap c : Int} {plus minus : Bool}
    (hcount : state.get? (controlKey digest command path .count) = some (toString c))
    (hplus : state.has (controlKey digest command path .plus) = plus)
    (hminus : state.has (controlKey digest command path .minus) = minus)
    (hfits : Decimal.fitsInt64 c = true) :
    instanceCount digest state command path maximum cap =
      max 0 (min (c + (if plus then 1 else 0) - if minus then 1 else 0)
        (upperBound maximum cap)) := by
  rw [instanceCount_of_controls hplus hminus, hcount, submittedCount_toString hfits]

namespace RenderContext

variable {ctx : RenderContext} {state : FormState} {entry : LayoutCommand} {path : Path}

/-- The indices of a command are read back if no symbol has too many alternatives. -/
theorem isReadBack_command
    (hlimit : ∀ symbol, (ctx.grammar.alternatives symbol).length ≤ 10 ^ ValueKind.digitLimit) :
    ∀ n ∈ (ctx.command entry path).1.root.nodes, ∀ w, n.widget = some w → w.IsReadBack :=
  fun _ hn _ hw => Renderer.isReadBack_of_length_alternatives hlimit hn hw

/-- The counter of a group lies between zero and the bound of the group. -/
theorem counter_bounds (ctx : RenderContext) (entry : LayoutCommand) (path : Path) :
    0 ≤ ctx.counter entry path ∧
      ctx.counter entry path ≤ max 0 (upperBound (entry.repeatLimit.getD 1) ctx.repeatCap) :=
  instanceCount_bounds ..

/-- The number of instances comes back, changed by the controls that were pressed, if it fits into
64 bits. -/
theorem counter_of_carries {plus minus : Bool}
    (hfits : ctx.counter entry path ≤ 9223372036854775807)
    (hstate : state.Carries (ctx.group entry path).1.fields)
    (hplus : state.has (controlKey ctx.digest entry.name path .plus) = plus)
    (hminus : state.has (controlKey ctx.digest entry.name path .minus) = minus) :
    (ctx.withState state).counter entry path =
      max 0 (min (ctx.counter entry path + (if plus then 1 else 0) - if minus then 1 else 0)
        (upperBound (entry.repeatLimit.getD 1) ctx.repeatCap)) := by
  have hfits64 : Decimal.fitsInt64 (ctx.counter entry path) = true := by
    have hbounds := ctx.counter_bounds entry path
    rw [Decimal.fitsInt64, Bool.and_eq_true, decide_eq_true_eq, decide_eq_true_eq]
    omega
  exact instanceCount_of_submitted (hstate _ _ (List.mem_cons_self ..)) hplus hminus hfits64

/-- **An item comes back from its own values**, if its numbers are read back and no control was
pressed. -/
theorem item_of_isReadBack
    (hread : ∀ c ∈ (ctx.item entry path).1.commands,
      ∀ n ∈ c.root.nodes, ∀ w, n.widget = some w → w.IsReadBack)
    (hfits : entry.isRepeated = true → ctx.counter entry path ≤ 9223372036854775807)
    (hstate : state.Carries (ctx.item entry path).1.fields)
    (hplus : state.has (controlKey ctx.digest entry.name path .plus) = false)
    (hminus : state.has (controlKey ctx.digest entry.name path .minus) = false) :
    (ctx.withState state).item entry path = ctx.item entry path := by
  refine item_withState (fun hrepeated => ?_) fun c hc => ?_
  · rw [item, if_pos hrepeated] at hstate
    rw [counter_of_carries (hfits hrepeated) hstate hplus hminus]
    have hbounds := ctx.counter_bounds entry path
    simp only [Bool.false_eq_true, if_false]
    omega
  · exact CommandForm.isKept_of_carries (hread c hc)
      (hstate.mono fun _ => FormItem.mem_fields_of_command hc)

/-- **An item comes back from its own values**, if no symbol has too many alternatives, the bound
of a group fits into 64 bits and no control was pressed. -/
theorem item_of_carries
    (hlimit : ∀ symbol, (ctx.grammar.alternatives symbol).length ≤ 10 ^ ValueKind.digitLimit)
    (hbound : upperBound (entry.repeatLimit.getD 1) ctx.repeatCap ≤ 9223372036854775807)
    (hstate : state.Carries (ctx.item entry path).1.fields)
    (hplus : state.has (controlKey ctx.digest entry.name path .plus) = false)
    (hminus : state.has (controlKey ctx.digest entry.name path .minus) = false) :
    (ctx.withState state).item entry path = ctx.item entry path := by
  refine item_of_isReadBack (fun c hc => ?_) (fun _ => ?_) hstate hplus hminus
  · obtain ⟨entry', path', rfl⟩ := exists_command_of_item hc
    exact isReadBack_command hlimit
  · have hbounds := ctx.counter_bounds entry path
    omega

end RenderContext

/-! ### Documents -/

namespace Assembler

variable {a : Assembler} {digest : String → String}

/-- The numbers of a form keep within what is read back from submitted texts: an index has at most
so many digits, and a counter fits into 64 bits. -/
structure WithinLimits (a : Assembler) : Prop where
  /-- Every index of an alternative is read back. -/
  alternatives : ∀ g ∈ a.grammars, ∀ symbol,
    (g.alternatives symbol).length ≤ 10 ^ ValueKind.digitLimit
  /-- The bound of groups without a maximum is read back. -/
  cap : a.options.repeatCap ≤ 9223372036854775807
  /-- Every other bound of a group is read back. -/
  maximum : ∀ entry ∈ a.catalogue.commands, ∀ n, entry.repeatLimit = some n →
    n ≤ 9223372036854775807

/-- A command of the layout stands in the layout, and its grammar is one of the form. -/
theorem mem_of_mem_entries {e : Grammar × LayoutCommand} (h : e ∈ a.entries) :
    e.1 ∈ a.grammars ∧ e.2 ∈ a.catalogue.commands := by
  obtain ⟨p, hp, he⟩ := List.mem_flatMap.mp h
  obtain ⟨entry, hentry, rfl⟩ := List.mem_map.mp he
  obtain ⟨hsection, hgrammar⟩ := List.of_mem_zip hp
  exact ⟨hgrammar, List.mem_flatMap.mpr ⟨p.1, hsection, hentry⟩⟩

/-- A symbol has no more alternatives than a record lists. -/
theorem length_alternatives_le {g : Grammar} {n : Nat}
    (h : ∀ r ∈ g.records, r.productions.length ≤ n) (symbol : String) :
    (g.alternatives symbol).length ≤ n := by
  rw [Grammar.alternatives]
  split
  next => exact Nat.zero_le n
  next =>
    cases hr : g.record? symbol with
    | none => exact Nat.zero_le n
    | some r =>
      rw [List.length_map]
      exact h r (List.mem_of_find?_eq_some hr)

/-- The bound of each group is read back. -/
theorem WithinLimits.upperBound_le (ha : a.WithinLimits) {e : Grammar × LayoutCommand}
    (h : e ∈ a.entries) :
    upperBound (e.2.repeatLimit.getD 1) a.options.repeatCap ≤ 9223372036854775807 := by
  have hmaximum := ha.maximum e.2 (mem_of_mem_entries h).2
  have hcap := ha.cap
  rw [upperBound]
  split
  next => exact hcap
  next =>
    cases hlimit : e.2.repeatLimit with
    | none => exact (by decide : (1 : Int) ≤ 9223372036854775807)
    | some n => exact hmaximum n hlimit

/-- A document comes back from every state that has its values and in which no control was
pressed. -/
theorem assemble_of_carries {state state' : FormState} {d : Document} {notices : List Notice}
    (ha : a.WithinLimits) (h : a.assemble shortDigest state = .ok (d, notices))
    (hstate : state'.Carries d.fields)
    (hcontrols : ∀ (command : String) (q : Path) (control : RepeatControl), control ≠ .count →
      state'.has (controlKey shortDigest command q control) = false) :
    a.assemble shortDigest state' = .ok (d, notices) := by
  have hsections : a.sectionForms shortDigest state' = a.sectionForms shortDigest state := by
    refine renderSections_congr _ 0 fun i e hi => ?_
    change a.entries[i]? = some e at hi
    have hmem : e ∈ a.entries := List.mem_of_getElem? hi
    have hcarries : FormState.Carries state'
        ((a.context shortDigest e.1 state).item e.2 [((0 : Nat) : Int) + i + 1]).1.fields := by
      refine hstate.mono fun field hfield => ?_
      have hitem : d.items[i]? =
          some ((a.context shortDigest e.1 state).item e.2 [((0 : Nat) : Int) + i + 1]).1 := by
        rw [items_of_assemble h, List.getElem?_mapIdx, hi, Option.map_some, Nat.cast_zero,
          Int.zero_add]
      exact List.mem_flatMap.mpr ⟨_, List.mem_of_getElem? hitem, hfield⟩
    have hitem : ((a.context shortDigest e.1 state).withState state').item e.2 _ =
        (a.context shortDigest e.1 state).item e.2 _ := RenderContext.item_of_carries
      (ha.alternatives e.1 (mem_of_mem_entries hmem).1) (ha.upperBound_le hmem) hcarries
      (hcontrols _ _ _ (by decide)) (hcontrols _ _ _ (by decide))
    exact hitem
  rw [assemble_eq_ok_iff] at h ⊢
  rwa [hsections]

/-- **A document comes back from its own form state.** What is assembled for some submitted values
is assembled again, with the same notices, when the values of the assembled form are submitted;
so the form state is the same again, too. -/
theorem assemble_formState {state : FormState} {d : Document} {notices : List Notice}
    (ha : a.WithinLimits) (h : a.assemble shortDigest state = .ok (d, notices)) :
    a.assemble shortDigest d.formState = .ok (d, notices) := by
  have hdigest := hasFixedLength_shortDigest
  exact assemble_of_carries ha h (fun _ _ hfield => get?_formState hdigest h hfield)
    fun _ _ _ hcontrol => has_formState_controlKey hdigest h _ _ hcontrol

/-- Two sums, the first one with an addition. -/
def twoSums : FormState :=
  [(controlKey shortDigest "total" [1] .count, "2"),
    (widgetKey shortDigest "total" "total" [1, 1], "1")]

theorem assemble_formState_twoSums : ∃ d notices, sumForm.WithinLimits ∧
    sumForm.assemble shortDigest twoSums = .ok (d, notices) ∧
    sumForm.assemble shortDigest d.formState = .ok (d, notices) := by
  have hlimits : sumForm.WithinLimits :=
    { alternatives := fun g hg =>
        length_alternatives_le fun r hr => by
          cases List.mem_singleton.mp hg
          exact le_trans ((by decide : ∀ r ∈ sumGrammar.records, r.productions.length ≤ 2) r hr)
            (by decide)
      cap := by decide
      maximum := fun entry hentry n hn => by
        cases List.mem_singleton.mp hentry
        cases hn
        decide }
  exact ⟨_, _, hlimits, rfl, assemble_formState hlimits rfl⟩

end Assembler

end GrammarForm
