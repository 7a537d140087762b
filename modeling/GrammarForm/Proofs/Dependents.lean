import GrammarForm.Proofs.Controls

/-!
# Dependents and the controls of a group

The dependents of a group are numbered after its instances, so their keys change with the number
of instances.  When a control of the group is pressed, a dependent is rendered in a new slot, from
the values of the command that stood there before: another dependent, the last instance, or none
at all.  Keys contain the digest of the name of the command, so these values are found only if the
names agree; otherwise the dependent starts over from its defaults.  What was typed into the
dependents is kept only as long as the counter stays the same.

Instances are numbered from one on and keep their slots.

## Main results

* `Renderer.text_renderLevels_of_state_eq_nil` : for the empty state, the text of a symbol does
  not depend on its path.
* `RenderContext.command_of_digest_ne` : values of a command with another name are not read.
* `Assembler.dependents_of_pressed` : the dependents of a group after controls were pressed.
-/

namespace GrammarForm

/-! ### Renderings for the empty state -/

namespace Renderer

variable {r : Renderer}

/-- What becomes of a symbol for the empty state does not depend on its path. -/
theorem resolution_of_state_eq_nil (hstate : r.state = []) (symbol : String) (path path' : Path)
    (default? : Option DefaultValue) :
    r.resolution symbol path default? = r.resolution symbol path' default? := by
  have hselection : r.selection symbol path default? = r.selection symbol path' default? := by
    rw [selection, selection, hstate]
    rfl
  rw [resolution, resolution, hselection]

/-- What is taken from the nodes in the slots of an alternative is the same below two paths if it
is so for each symbol. -/
theorem map_slotNodes_congr {α : Type} (take : Node → α) {levels : Nat} {path path' : Path}
    (p : Production)
    (h : ∀ (i : Int) (name : String) (default? : Option DefaultValue) (showLabel : Bool),
      take (r.renderLevels levels name (path ++ [i]) default? showLabel).1 =
        take (r.renderLevels levels name (path' ++ [i]) default? showLabel).1) :
    ((r.slotNodes levels path p).map Prod.fst).map take =
      ((r.slotNodes levels path' p).map Prod.fst).map take := by
  refine List.ext_getElem (by simp only [List.length_map, slotNodes_length]) fun i _ _ => ?_
  simp only [List.getElem_map, getElem_slotNodes]
  exact h _ _ _ _

/-- **For the empty state, the text of a symbol does not depend on its path**, nor does its
validity. -/
theorem text_renderLevels_of_state_eq_nil (hstate : r.state = []) (levels : Nat) :
    ∀ (symbol : String) (path path' : Path) (default? : Option DefaultValue) (showLabel : Bool),
      let n := (r.renderLevels levels symbol path default? showLabel).1
      let n' := (r.renderLevels levels symbol path' default? showLabel).1
      n.text = n'.text ∧ n.valid = n'.valid := by
  induction levels with
  | zero => exact fun _ _ _ _ _ => ⟨rfl, rfl⟩
  | succ levels ih =>
    intro symbol path path' default? showLabel
    dsimp only
    rw [renderLevels_succ, renderLevels_succ,
      resolution_of_state_eq_nil hstate symbol path path' default?]
    cases r.resolution symbol path' default? with
    | unknown | unresolved => exact ⟨rfl, rfl⟩
    | leaf kind =>
      simp only [leafNode, hstate]
      exact ⟨rfl, rfl⟩
    | selected i p =>
      have htexts := r.map_slotNodes_congr (·.text) p fun j name default' label =>
        (ih name (path ++ [j]) (path' ++ [j]) default' label).1
      have hvalid := r.map_slotNodes_congr (·.valid) p fun j name default' label =>
        (ih name (path ++ [j]) (path' ++ [j]) default' label).2
      refine ⟨congrArg (fun texts => " ".intercalate (p.words texts)) htexts, ?_⟩
      simpa only [selectedNode, List.all_map, Function.comp_def, id] using
        congrArg (List.all · id) hvalid

end Renderer

namespace RenderContext

variable {ctx : RenderContext}

/-- For the empty state, the line of a command does not depend on its path. -/
theorem line_of_state_eq_nil (hstate : ctx.state = []) (entry : LayoutCommand)
    (path path' : Path) : (ctx.command entry path).1.line = (ctx.command entry path').1.line := by
  obtain ⟨htext, hvalid⟩ :=
    (ctx.renderer entry.name entry.inline).text_renderLevels_of_state_eq_nil hstate
      ((ctx.renderer entry.name entry.inline).levelsFrom 0) entry.name path path'
      (ctx.entryDefault entry) false
  rw [command_eq, command_eq]
  simp only [formWith, tree, Renderer.render, ConfigLine.ofNode, htext, hvalid]

/-- **Values of a command with another name are not read.** -/
theorem command_of_digest_ne (ctx : RenderContext) (hdigest : HasFixedLength ctx.digest)
    (entry other : LayoutCommand) (hne : ctx.digest other.name ≠ ctx.digest entry.name)
    (path path' : Path) :
    (ctx.withState (ctx.command other path').1.fields).command entry path =
      (ctx.withState []).command entry path := by
  have hkept : ((ctx.withState []).command entry path).1.IsKept []
      (ctx.command other path').1.fields := by
    intro n hn w hw
    obtain ⟨symbol, q, hkey⟩ := (ctx.withState []).exists_widgetKey_of_command
      (Node.key_mem_of_mem_nodes hn (hw ▸ rfl))
    refine Or.inl (Entries.get?_eq_none_iff.mpr fun hmem => ?_)
    obtain ⟨symbol', q', hkey'⟩ := ctx.exists_widgetKey_of_command hmem
    exact hne (widgetKey_digest_eq hdigest (hkey'.symm.trans hkey))
  exact command_withState hkept

/-! ### The dependents of a group -/

/-- Each dependent of a group is rendered in its slot after the instances. -/
theorem exists_of_getElem?_dependents {entry : LayoutCommand} {path : Path} {j : Nat}
    {c : CommandForm} (h : (ctx.group entry path).1.dependents[j]? = some c) :
    ∃ name, entry.dependents[j]? = some name ∧
      c = (ctx.command { name := name, inline := true }
        (path ++ [(ctx.instanceNumber entry path : Int) + j + 1])).1 := by
  rw [group_eq, groupWith, List.getElem?_map, Option.map_eq_some_iff] at h
  obtain ⟨rendered, h, rfl⟩ := h
  obtain ⟨name, hname, rfl⟩ := ctx.getElem?_dependents h
  exact ⟨name, hname, rfl⟩

/-- A group with an instance has all its dependents. -/
theorem length_dependents_group {entry : LayoutCommand} {path : Path}
    (h : 0 < (ctx.group entry path).1.count) :
    (ctx.group entry path).1.dependents.length = entry.dependents.length := by
  have hne : ctx.instanceNumber entry path ≠ 0 := fun hzero =>
    absurd (Int.toNat_eq_zero.mp hzero) (not_le.mpr h)
  rw [group_eq, groupWith, List.length_map, dependents, if_neg hne, List.length_mapIdx]

end RenderContext

namespace Assembler

variable {a : Assembler} {digest : String → String} {state : FormState} {d : Document}
  {notices : List Notice} {i : Nat} {g : GroupForm}

section Slots

variable {e : Grammar × LayoutCommand} {plus minus : Option String}
  (hdigest : HasFixedLength digest) (h : a.assemble digest state = .ok (d, notices))
  (hg : g = ((a.context digest e.1 state).group e.2 [(i : Int) + 1]).1)

include hdigest hg

/-- A command is rendered from the values of a slot as for the empty state, unless a command of
its name stands in the slot. -/
theorem line_of_slotFields {slot : Nat} {entry : LayoutCommand}
    (hother : ∀ b, g.commands[slot]? = some b → digest b.name ≠ digest entry.name)
    (path path' : Path) :
    ((a.context digest e.1 (g.slotFields slot)).command entry path).1.line =
      ((a.context digest e.1 []).command entry path').1.line := by
  rw [GroupForm.slotFields]
  cases hb : g.commands[slot]? with
  | none => exact RenderContext.line_of_state_eq_nil rfl _ _ _
  | some b =>
    have hne := hother b hb
    rw [hg] at hb
    obtain ⟨entry', rfl⟩ := RenderContext.exists_command_of_commands _ hb
    have hread := (a.context digest e.1 state).command_of_digest_ne hdigest entry entry' hne path
      ([(i : Int) + 1] ++ [(slot : Int) + 1])
    refine (congrArg (fun rendered => rendered.1.line) hread).trans ?_
    exact RenderContext.line_of_state_eq_nil rfl _ _ _

include h

/-- **A dependent is rendered in its new slot from the values that stood there before.** -/
theorem dependent_of_pressed (hitem : d.items[i]? = some (.group g)) {j slot : Nat}
    {c c' : CommandForm} {g' : GroupForm}
    (hg' : g' = ((a.context digest e.1 (d.pressed g plus minus)).group e.2 [(i : Int) + 1]).1)
    (hslot : (slot : Int) = g'.count + j) (hc : g.dependents[j]? = some c)
    (hc' : g'.dependents[j]? = some c') :
    c' = ((a.context digest e.1 (g.slotFields slot)).command
      { name := c.name, inline := true } (g.path ++ [(slot : Int) + 1])).1 := by
  have hnumber : (((a.context digest e.1 (d.pressed g plus minus)).instanceNumber e.2
      [(i : Int) + 1] : Nat) : Int) = g'.count :=
    hg' ▸ Int.toNat_of_nonneg (RenderContext.counter_bounds ..).1
  rw [hg] at hc
  rw [hg'] at hc'
  obtain ⟨name, hname, rfl⟩ := RenderContext.exists_of_getElem?_dependents hc
  obtain ⟨name', hname', rfl⟩ := RenderContext.exists_of_getElem?_dependents hc'
  cases hname.symm.trans hname'
  rw [hnumber, ← hslot, congrArg GroupForm.path hg]
  exact congrArg Prod.fst (command_of_slot hdigest h hg hitem slot _)

end Slots

/-- **The dependents of a group after controls were pressed.**  As long as there is an instance,
the group has the same dependents, each rendered in its new slot from the values of the command
that stood in this slot before.  Unless the digests of the names agree, these values are not read,
so that the dependent has the line of the empty state.  All dependents come back if the counter
stays the same. -/
theorem dependents_of_pressed (hdigest : HasFixedLength digest)
    (h : a.assemble digest state = .ok (d, notices)) (hitem : d.items[i]? = some (.group g))
    (plus minus : Option String) :
    ∃ e d' notices' g', a.entries[i]? = some e ∧
      a.assemble digest (d.pressed g plus minus) = .ok (d', notices') ∧
      d'.items[i]? = some (.group g') ∧
      (g.count ≤ 9223372036854775807 →
        g'.count = g.countAfter a.options.repeatCap plus.isSome minus.isSome) ∧
      (0 < g.count → 0 < g'.count → g'.dependents.length = g.dependents.length ∧
        ∀ (j slot : Nat) (c c' : CommandForm), slot = g'.count + j →
          g.dependents[j]? = some c → g'.dependents[j]? = some c' →
          c' = ((a.context digest e.1 (g.slotFields slot)).command
            { name := c.name, inline := true } (g.path ++ [(slot : Int) + 1])).1 ∧
          ((∀ b, g.commands[slot]? = some b → digest b.name ≠ digest c.name) →
            c'.line = ((a.context digest e.1 []).command
              { name := c.name, inline := true } c.path).1.line) ∧
          (d.FitsMemory → g'.count = g.count → c' = c)) := by
  obtain ⟨e, he, hrepeated, hg⟩ := exists_group_of_items h hitem
  obtain ⟨d', notices', h'⟩ : ∃ d' notices',
      a.assemble digest (d.pressed g plus minus) = .ok (d', notices') :=
    exists_assemble_of_title ((assemble_eq_ok_iff ..).mp h).1 _
  obtain ⟨g', hg'⟩ : ∃ g', g' = ((a.context digest e.1 (d.pressed g plus minus)).group e.2
      [(i : Int) + 1]).1 := ⟨_, rfl⟩
  have hitem' : d'.items[i]? = some (.group g') := by
    rw [getElem?_items h' he, RenderContext.item_of_isRepeated _ hrepeated, hg']
  have hcount (hbound : g.count ≤ 9223372036854775807) :
      g'.count = g.countAfter a.options.repeatCap plus.isSome minus.isSome :=
    hg' ▸ counter_of_pressed hdigest h hg hitem hbound
  refine ⟨e, d', notices', g', he, h', hitem', hcount, fun hpos hpos' => ⟨?_, ?_⟩⟩
  · subst hg hg'
    exact (RenderContext.length_dependents_group hpos').trans
      (RenderContext.length_dependents_group hpos).symm
  intro j slot c c' hslot hc hc'
  have hrender := dependent_of_pressed hdigest h hg hitem hg' hslot hc hc'
  refine ⟨hrender, fun hother => ?_, fun hfits hsame => ?_⟩
  · exact hrender ▸ line_of_slotFields hdigest hg hother _ _
  · have hlength := (hfits _ (List.mem_of_getElem? hitem)).instances g (List.mem_singleton_self g)
    have hbound : g.count ≤ 9223372036854775807 := by
      have heq := (count_of_group h hitem).1
      omega
    have hback := assemble_pressed_of_countAfter_eq hdigest h hfits hitem hbound
      ((hcount hbound).symm.trans hsame)
    cases h'.symm.trans hback
    cases hitem'.symm.trans hitem
    exact Option.some.inj (hc'.symm.trans hc)

/-- A digest that tells the dependents of the form of sums from the sums. -/
def digitsDigest (s : String) : String :=
  if s = "digits" then "00000001" else "00000000"

/-- One sum and the number of digits, which is nine. -/
def nineDigits : FormState :=
  [(controlKey digitsDigest "total" [1] .count, "1"),
    (widgetKey digitsDigest "digits" "digits" [1, 2], "9")]

theorem dependents_of_pressed_nineDigits : ∃ d notices g c d' notices' g' c',
    HasFixedLength digitsDigest ∧ sumForm.assemble digitsDigest nineDigits = .ok (d, notices) ∧
    d.items[0]? = some (.group g) ∧ g.count = 1 ∧ g.dependents[0]? = some c ∧
    sumForm.assemble digitsDigest (d.pressed g (some "+") none) = .ok (d', notices') ∧
    d'.items[0]? = some (.group g') ∧ g'.count = 2 ∧ g'.dependents[0]? = some c' ∧
    c.line.text = "digits 9" ∧ c'.line.text = "digits 1" := by
  have hdigest : HasFixedLength digitsDigest := fun s t => by
    rw [digitsDigest, digitsDigest]
    split <;> split <;> decide
  have h : sumForm.assemble digitsDigest nineDigits = .ok (_, _) := rfl
  obtain ⟨e, d', notices', g', he, h', hitem', hcount, hdependents⟩ :=
    dependents_of_pressed (i := 0) hdigest h rfl (some "+") none
  have hcount' : g'.count = 2 := (hcount (by decide)).trans (by decide)
  obtain ⟨hlength, hlines⟩ := hdependents (by decide) (by omega)
  have hpos : 0 < g'.dependents.length := hlength.symm ▸ Nat.one_pos
  have hc' := List.getElem?_eq_getElem hpos
  obtain ⟨-, hline, -⟩ := hlines 0 2 _ _ (by rw [hcount']; rfl) rfl hc'
  cases he
  refine ⟨_, _, _, _, d', notices', g', _, hdigest, h, rfl, rfl, rfl, h', hitem', hcount', hc',
    rfl, ?_⟩
  rw [hline (fun b hb => nomatch hb)]
  rfl

end Assembler

end GrammarForm
