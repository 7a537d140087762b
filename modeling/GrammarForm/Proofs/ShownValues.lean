import GrammarForm.Proofs.Document
import GrammarForm.Proofs.Encoding

/-!
# Shown values with a form in bytes

Everything that a user can enter in a text field appears in the configuration: the text of a field
is a part of the text of every node above it, of the line of its command and of the configuration.
So if the configuration has a form in bytes, every shown value has one.  All other shown values
are numbers, and the keys are made of digits, letters, dashes and underscores.

## Main results

* `Renderer.infix_text_of_mem_nodes` : the text of a node is a part of the text of the tree.
* `Assembler.isEncodable_fields` : keys and values of a form whose configuration has a form in
  bytes.
-/

namespace GrammarForm

open Text (isEncodable IsEncodableEntry halfMark)

/-! ### Keys -/

namespace Digest

theorem hexDigit_ne_halfMark : ∀ n < 16, hexDigit n ≠ halfMark := by
  decide

end Digest

theorem halfMark_notMem_shortDigest (s : String) : halfMark ∉ (shortDigest s).toList := by
  intro hmem
  rw [shortDigest, Digest.hexWord, String.toList_ofList, List.mem_flatMap] at hmem
  obtain ⟨b, -, hmem⟩ := hmem
  have hbyte : b.toNat < 256 := b.toNat_lt
  simp only [Digest.hexByte, List.mem_cons, List.not_mem_nil, or_false] at hmem
  rcases hmem with h | h
  · exact Digest.hexDigit_ne_halfMark _ (by omega) h.symm
  · exact Digest.hexDigit_ne_halfMark _ (by omega) h.symm

theorem halfMark_notMem_toString (i : Int) : halfMark ∉ (toString i).toList :=
  Decimal.notMem_toString (by decide) (by decide) i

namespace Path

theorem halfMark_notMem_keyText (path : Path) : halfMark ∉ path.keyText.toList := by
  rw [toList_keyText]
  intro hmem
  refine Text.forall_mem_intercalate (P := (· ≠ halfMark))
    (List.forall_mem_singleton.mpr (by decide)) (fun l hl c hc => ?_) _ hmem rfl
  obtain ⟨i, -, rfl⟩ := List.mem_map.mp hl
  exact fun heq => halfMark_notMem_toString i (heq ▸ hc)

end Path

/-- The key of a widget has a form in bytes. -/
theorem isEncodable_widgetKey (command symbol : String) (path : Path) :
    isEncodable (widgetKey shortDigest command symbol path) = true := by
  refine Text.isEncodable_of_notMem ?_
  simp only [widgetKey, String.toList_append, List.mem_append, not_or]
  exact ⟨⟨⟨⟨⟨by decide, halfMark_notMem_shortDigest command⟩, by decide⟩,
    halfMark_notMem_shortDigest symbol⟩, by decide⟩, path.halfMark_notMem_keyText⟩

/-- The key of a control has a form in bytes. -/
theorem isEncodable_controlKey (command : String) (path : Path) (control : RepeatControl) :
    isEncodable (controlKey shortDigest command path control) = true := by
  refine Text.isEncodable_of_notMem ?_
  have hname : halfMark ∉ control.name.toList := by cases control <;> decide
  simp only [controlKey, groupKey, String.toList_append, List.mem_append, not_or]
  exact ⟨⟨⟨⟨⟨by decide, halfMark_notMem_shortDigest command⟩, by decide⟩,
    path.halfMark_notMem_keyText⟩, by decide⟩, hname⟩

/-! ### Texts of trees -/

/-- Every text that is put into a slot is a word. -/
theorem mem_wordsOf {s : String} (symbols : List Symbol) :
    ∀ {texts : List String}, texts.length ≤ (slotNamesOf symbols).length → s ∈ texts →
      s ∈ wordsOf symbols texts := by
  induction symbols with
  | nil =>
    intro texts hlength hs
    rw [List.length_eq_zero_iff.mp (Nat.le_zero.mp hlength)] at hs
    exact absurd hs List.not_mem_nil
  | cons first rest ih =>
    intro texts hlength hs
    rw [slotNamesOf_cons] at hlength
    rw [wordsOf]
    split
    next hterminal =>
      rw [if_pos hterminal] at hlength
      exact List.mem_cons_of_mem _ (ih hlength hs)
    next hterminal =>
      rw [if_neg hterminal] at hlength
      obtain ⟨t, texts, rfl⟩ := List.exists_cons_of_ne_nil (List.ne_nil_of_mem hs)
      rcases List.mem_cons.mp hs with rfl | hs
      · exact List.mem_cons_self ..
      · exact List.mem_cons_of_mem _ (ih (Nat.le_of_succ_le_succ hlength) hs)

namespace Renderer

variable {r : Renderer}

/-- **The text of a node is a part of the text of the tree.** -/
theorem infix_text_of_mem_nodes {m : Node} (levels : Nat) :
    ∀ {symbol : String} {path : Path} {default? : Option DefaultValue} {showLabel : Bool},
      m ∈ (r.renderLevels levels symbol path default? showLabel).1.nodes →
      m.text.toList <:+:
        (r.renderLevels levels symbol path default? showLabel).1.text.toList := by
  induction levels with
  | zero =>
    intro symbol path default? showLabel hm
    rw [List.mem_singleton.mp hm]
    exact List.infix_rfl
  | succ levels ih =>
    intro symbol path default? showLabel hm
    rw [renderLevels_succ] at hm ⊢
    cases hres : r.resolution symbol path default? with
    | leaf | unknown | unresolved =>
      rw [hres] at hm
      rw [List.mem_singleton.mp hm]
      exact List.infix_rfl
    | selected i p =>
      rw [hres, Node.nodes_eq] at hm
      rcases List.mem_cons.mp hm with rfl | hm
      · exact List.infix_rfl
      · -- The text of the slot that the node stands in is one of the words.
        obtain ⟨c, hc, hm⟩ := List.mem_flatMap.mp hm
        have hslot : m.text.toList <:+: c.text.toList := by
          obtain ⟨rendered, hrendered, rfl⟩ := List.mem_map.mp hc
          obtain ⟨j, hj, rfl⟩ := List.mem_iff_getElem.mp hrendered
          rw [getElem_slotNodes] at hm ⊢
          exact ih hm
        have hword : c.text ∈ p.words (((r.slotNodes levels path p).map Prod.fst).map (·.text)) := by
          refine mem_wordsOf p.symbols ?_ (List.mem_map_of_mem hc)
          rw [List.length_map, List.length_map, slotNodes_length]
          exact le_rfl
        exact hslot.trans (Text.toList_infix_intercalate hword)

/-- The text of a field is the text of its node. -/
theorem text_of_widget_eq_text {levels : Nat} {symbol : String} {path : Path}
    {default? : Option DefaultValue} {showLabel : Bool} {value : String} {kind : ValueKind}
    {valid : Bool} (h : (r.renderLevels levels symbol path default? showLabel).1.widget =
      some (.text value kind valid)) :
    (r.renderLevels levels symbol path default? showLabel).1.text = value := by
  cases levels with
  | zero => exact nomatch h
  | succ levels =>
    rw [renderLevels_succ] at h ⊢
    cases hres : r.resolution symbol path default? with
    | unknown | unresolved | selected => rw [hres] at h; exact nomatch h
    | leaf kind' =>
      rw [hres] at h
      cases h
      rfl

/-- The values of a tree have forms in bytes if its text has one. -/
theorem isEncodable_value {levels : Nat} {symbol : String} {path : Path}
    {default? : Option DefaultValue} {showLabel : Bool} {m : Node} {w : Widget}
    (h : isEncodable (r.renderLevels levels symbol path default? showLabel).1.text = true)
    (hm : m ∈ (r.renderLevels levels symbol path default? showLabel).1.nodes)
    (hw : m.widget = some w) : isEncodable w.value = true := by
  cases w with
  | choice offers selected tip off =>
    cases selected with
    | none => exact (by decide : isEncodable "-1" = true)
    | some i => exact Text.isEncodable_of_notMem (halfMark_notMem_toString i)
  | text value kind valid =>
    have hpart := infix_text_of_mem_nodes levels hm
    obtain ⟨levels', default', showLabel', heq⟩ := r.exists_renderLevels_of_mem_nodes _ _ _ _ _ hm
    have htext : m.text = value := by
      rw [heq] at hw ⊢
      exact text_of_widget_eq_text hw
    rw [htext] at hpart
    exact Text.isEncodable_of_infix hpart h

end Renderer

/-! ### Documents -/

namespace RenderContext

variable {ctx : RenderContext} {entry : LayoutCommand} {path : Path}

/-- Keys and values of a command have forms in bytes if its line has one. -/
theorem isEncodable_command (hdigest : ctx.digest = shortDigest)
    (h : isEncodable (ctx.command entry path).1.line.text = true) :
    ∀ e ∈ (ctx.command entry path).1.fields, IsEncodableEntry e := by
  intro e he
  refine ⟨?_, ?_⟩
  · obtain ⟨symbol, q, hkey⟩ := ctx.exists_widgetKey_of_command (List.mem_map_of_mem he)
    rw [hkey, hdigest]
    exact isEncodable_widgetKey ..
  · obtain ⟨m, hm, hown⟩ := List.mem_filterMap.mp he
    obtain ⟨w, hw, rfl⟩ := Option.map_eq_some_iff.mp hown
    have hroot : isEncodable (ctx.tree entry path).1.text = true :=
      Text.isEncodable_of_infix (by
        rw [command_eq]
        simp only [formWith, ConfigLine.ofNode, String.toList_append]
        exact (List.suffix_append ..).isInfix) h
    exact Renderer.isEncodable_value hroot hm hw

/-- Keys and values of an item have forms in bytes if its lines have. -/
theorem isEncodable_item (hdigest : ctx.digest = shortDigest)
    (h : ∀ l ∈ (ctx.item entry path).1.lines, isEncodable l.text = true) :
    ∀ e ∈ (ctx.item entry path).1.fields, IsEncodableEntry e := by
  have hcommands : ∀ c ∈ (ctx.item entry path).1.commands, ∀ e ∈ c.fields,
      IsEncodableEntry e := by
    intro c hc
    have hline := h c.line (List.mem_map_of_mem hc)
    obtain ⟨entry', path', rfl⟩ := exists_command_of_item hc
    exact isEncodable_command hdigest hline
  intro e he
  by_cases hrepeated : entry.isRepeated = true
  · rw [item_of_isRepeated _ hrepeated] at hcommands he
    rcases List.mem_cons.mp he with rfl | he
    · refine ⟨?_, Text.isEncodable_of_notMem (halfMark_notMem_toString _)⟩
      rw [group_eq, groupWith, hdigest]
      exact isEncodable_controlKey ..
    · obtain ⟨c, hc, he⟩ := List.mem_flatMap.mp he
      exact hcommands c hc e he
  · rw [item_of_not_isRepeated _ hrepeated] at hcommands he
    exact hcommands _ (List.mem_singleton_self _) e he

end RenderContext

namespace Assembler

variable {a : Assembler} {state : FormState} {d : Document} {notices : List Notice}

/-- **Keys and values have forms in bytes** if the configuration has one. -/
theorem isEncodable_fields (h : a.assemble shortDigest state = .ok (d, notices))
    (htext : isEncodable d.text = true) : ∀ e ∈ d.fields, IsEncodableEntry e := by
  intro e he
  obtain ⟨item, hitem, he⟩ := List.mem_flatMap.mp he
  have hlines : ∀ l ∈ item.lines, isEncodable l.text = true := by
    intro l hl
    have hmem : l ∈ d.lines := by
      rw [d.lines_eq_flatMap_items]
      exact List.mem_flatMap.mpr ⟨item, hitem, hl⟩
    exact Text.isEncodable_of_infix (Text.toList_infix_intercalate (List.mem_map_of_mem hmem)) htext
  obtain ⟨i, hi⟩ := List.getElem?_of_mem hitem
  obtain ⟨entry, -, rfl⟩ := exists_entry_of_items h hi
  exact RenderContext.isEncodable_item rfl hlines e he

end Assembler

end GrammarForm
