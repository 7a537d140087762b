import GrammarForm.Html.Form
import GrammarForm.Proofs.Markup
import GrammarForm.Proofs.Reading

/-!
# Submitting the form

A browser reads the form as a page and submits its controls in their order: every text and hidden
input with its value, and every choice that is not disabled with the value of the option that is
marked as selected.  The form state describes the same values without any page, from the nodes
and counters of the document.

Both descriptions agree.  A choice marks exactly one option, the selected one or the one for an
unresolved choice; if the choice is disabled, a hidden input follows that submits the selection in
its place.  All other parts of the form are no controls, and no text or value of the form is taken
for a tag.

## Main definitions

* `Html.controls`, `Html.submission` : what a browser submits when no button is pressed.
* `Html.Yields` : pieces of a page whose tags are read in the same way whatever follows them.
* `Widget.IsConsistent` : choices that mark their selection and are disabled only with one.

## Main results

* `Widget.submits_html` : a widget submits one value under its key.
* `Node.submits_html` : a node submits the values of its subtree.
* `Assembler.submission_fragment` : the form submits the form state.
-/

namespace GrammarForm

namespace Html

/-! ### What a page submits -/

/-- The text of an attribute; a switch has the empty text. -/
def textOf? (attributes : Entries (Option String)) (name : String) : Option String :=
  (attributes.get? name).map (·.getD "")

/-- The values of the options that are marked as selected, up to the end of the choice. -/
def markedOptions : List Tag → List String
  | [] => []
  | .closing name :: rest => if name = "select" then [] else markedOptions rest
  | .opening name attributes :: rest =>
    (if name = "option" ∧ attributes.has "selected" = true then
      (textOf? attributes "value").toList
    else []) ++ markedOptions rest

/-- The value submitted by the element that a tag opens, if it is a control.  A choice is read on
to its end, and submits nothing unless exactly one option is marked. -/
def controlText? (name : String) (attributes : Entries (Option String)) (following : List Tag) :
    Option String :=
  if name = "input" then
    if textOf? attributes "type" = some "text" ∨ textOf? attributes "type" = some "hidden" then
      some ((textOf? attributes "value").getD "")
    else none
  else if name = "select" ∧ attributes.has "disabled" = false then
    match markedOptions following with
    | [v] => some v
    | _ => none
  else none

/-- The values submitted by the controls among some tags, under their names and in their order. -/
def controls : List Tag → List (String × String)
  | [] => []
  | .closing _ :: rest => controls rest
  | .opening name attributes :: rest =>
    ((textOf? attributes "name").bind fun key =>
      (controlText? name attributes rest).map (key, ·)).toList ++ controls rest

/-- What a browser submits for a page when no button is pressed. -/
def submission (page : String) : List (String × String) :=
  controls (readTags page)

/-! ### Pieces that are read independently of what follows -/

theorem tagsOf_element (name : String) (attributes : List Attribute) (hs : List Html)
    (rest : List Tag) : tagsOf [.element name attributes hs] ++ rest =
      .opening name (attributes.map (·.entry)) :: (tagsOf hs ++ .closing name :: rest) := by
  simp only [tagsOf, tags, List.append_nil, List.cons_append, List.append_assoc, List.nil_append]

/-- Well-formed pieces of a page whose tags contribute the same to a reading whatever follows. -/
structure Yields {β : Type} (read : List Tag → List β) (hs : List Html) (out : List β) :
    Prop where
  isWellFormed : ∀ h ∈ hs, h.IsWellFormed
  read_append : ∀ rest, read (tagsOf hs ++ rest) = out ++ read rest

namespace Yields

variable {α β : Type} {read : List Tag → List β} {hs hs' : List Html} {out out' : List β}

theorem nil : Yields read [] [] :=
  ⟨fun _ h => absurd h List.not_mem_nil, fun _ => rfl⟩

theorem text (s : String) : Yields read [.text s] [] :=
  ⟨fun _ h => List.mem_singleton.mp h ▸ .text s, fun _ => rfl⟩

theorem reference {name : String} (h : '<' ∉ name.toList) : Yields read [.reference name] [] :=
  ⟨fun _ hx => List.mem_singleton.mp hx ▸ .reference h, fun _ => rfl⟩

theorem append (h : Yields read hs out) (h' : Yields read hs' out') :
    Yields read (hs ++ hs') (out ++ out') := by
  refine ⟨fun x hx => (List.mem_append.mp hx).elim (h.isWellFormed x) (h'.isWellFormed x),
    fun rest => ?_⟩
  rw [tagsOf_eq_flatMap, List.flatMap_append, ← tagsOf_eq_flatMap, ← tagsOf_eq_flatMap,
    List.append_assoc, h.read_append, h'.read_append, List.append_assoc]

/-- A text may stand before some pieces. -/
theorem cons_text (s : String) (h : Yields read hs out) : Yields read (.text s :: hs) out :=
  (text s).append h

/-- Pieces without contribution may stand after others. -/
theorem append_nil (h : Yields read hs out) (h' : Yields read hs' []) :
    Yields read (hs ++ hs') out :=
  List.append_nil out ▸ h.append h'

theorem ownLine {x : Html} (indent : String) (h : Yields read [x] out) :
    Yields read (Html.ownLine indent x) out :=
  (h.append_nil (text "\n")).cons_text indent

theorem block {x : Html} (indent : String) (h : Yields read [x] out) :
    Yields read (GrammarForm.block indent x) out :=
  (h.append_nil (text "\n\n")).cons_text indent

theorem flatMap {l : List α} {pieces : α → List Html} {outs : α → List β}
    (h : ∀ x ∈ l, Yields read (pieces x) (outs x)) :
    Yields read (l.flatMap pieces) (l.flatMap outs) := by
  induction l with
  | nil => exact nil
  | cons x l ih =>
    obtain ⟨hx, hl⟩ := List.forall_mem_cons.mp h
    rw [List.flatMap_cons, List.flatMap_cons]
    exact hx.append (ih hl)

theorem flatMap_nil {l : List α} {pieces : α → List Html}
    (h : ∀ x ∈ l, Yields read (pieces x) []) : Yields read (l.flatMap pieces) [] := by
  have hnil : l.flatMap (fun _ => ([] : List β)) = [] := List.flatMap_eq_nil_iff.mpr fun _ _ => rfl
  exact hnil ▸ flatMap h

/-- The element around some pieces contributes what its own tag does, before them. -/
theorem element {name : String} {attributes : List Attribute} {own : List β}
    (hname : IsWord name) (hattributes : ∀ a ∈ attributes, a.IsWellFormed)
    (hopening : ∀ rest, read (.opening name (attributes.map (·.entry)) :: rest) = own ++ read rest)
    (hclosing : ∀ rest, read (.closing name :: rest) = read rest) (h : Yields read hs out) :
    Yields read [.element name attributes hs] (own ++ out) := by
  refine ⟨fun x hx => List.mem_singleton.mp hx ▸ .element hname hattributes h.isWellFormed,
    fun rest => ?_⟩
  rw [tagsOf_element, hopening, h.read_append, hclosing, List.append_assoc]

end Yields

/-- Pieces of a page that submit given values. -/
abbrev Submits (hs : List Html) (values : List (String × String)) : Prop :=
  Yields controls hs values

/-- The name of an element that is no control. -/
def IsPlain (name : String) : Prop :=
  IsWord name ∧ name ≠ "input" ∧ name ≠ "select"

instance (name : String) : Decidable (IsPlain name) :=
  inferInstanceAs (Decidable (_ ∧ _))

theorem controls_opening_of_isPlain {name : String} (h : IsPlain name)
    (attributes : Entries (Option String)) (rest : List Tag) :
    controls (.opening name attributes :: rest) = controls rest := by
  have hnone : controlText? name attributes rest = none := by
    rw [controlText?, if_neg h.2.1, if_neg fun hselect => h.2.2 hselect.1]
  rw [controls, hnone]
  cases textOf? attributes "name" <;> rfl

/-- An element that is no control submits what its content submits. -/
theorem Submits.element {name : String} {attributes : List Attribute} {hs : List Html}
    {values : List (String × String)} (hname : IsPlain name)
    (hattributes : ∀ a ∈ attributes, a.IsWellFormed) (h : Submits hs values) :
    Submits [.element name attributes hs] values := by
  have hopening (rest : List Tag) :
      controls (.opening name (attributes.map (·.entry)) :: rest) = [] ++ controls rest :=
    controls_opening_of_isPlain hname _ rest
  exact Yields.element hname.1 hattributes hopening (fun _ => rfl) h

/-- A well-formed tree that submits given values is read so from its text. -/
theorem submission_write {h : Html} {values : List (String × String)} (hs : Submits [h] values) :
    submission h.write = values := by
  have hread := hs.read_append []
  rw [List.append_nil, tagsOf, tagsOf, List.append_nil, controls, List.append_nil] at hread
  rw [submission, readTags_write (hs.isWellFormed h (List.mem_singleton_self h)), hread]

end Html

open Html

/-! ### Choices -/

/-- A choice marks its selection alone, and is disabled only with a selection. -/
def Widget.IsConsistent : Widget → Prop
  | text .. => True
  | choice options selected _ disabled =>
    (options.filter (·.selected)).map (·.index) = selected.toList ∧
      (disabled = true → selected.isSome = true)

namespace Renderer

variable (r : Renderer)

/-- The offers of a choice mark the selected alternative alone. -/
theorem filter_selected_choiceOptions (start : String) {options : List Production}
    {selected : Option Nat} (h : ∀ i ∈ selected, i < options.length) :
    ((r.choiceOptions start options selected).filter (·.selected)).map (·.index) =
      selected.toList := by
  have hindices : ((r.choiceOptions start options selected).filter (·.selected)).map (·.index) =
      (List.range' 0 options.length).filter fun i => selected == some i := by
    rw [← List.zipIdx_map_snd 0 options, List.filter_map, choiceOptions,
      List.mapIdx_eq_zipIdx_map, List.filter_map, List.map_map]
    rfl
  rw [hindices]
  cases selected with
  | none => exact List.filter_eq_nil_iff.mpr fun i _ => by simp
  | some i =>
    have hmem : i ∈ List.range' 0 options.length := by simpa using h i rfl
    have hsome : ∀ j ∈ List.range' 0 options.length, (some i == some j) = (j == i) := by
      simp [eq_comm]
    rw [List.filter_congr hsome, List.filter_beq, List.count_eq_one_of_mem List.nodup_range' hmem]
    rfl

theorem isConsistent_choiceAmong (start : String) {options : List Production}
    {selected : Option Nat} (h : ∀ i ∈ selected, i < options.length) :
    (r.choiceAmong start options selected).IsConsistent :=
  ⟨r.filter_selected_choiceOptions start h, fun hdisabled => (Bool.and_eq_true_iff.mp hdisabled).2⟩

/-- **Every widget of a rendering is consistent.** -/
theorem isConsistent_of_mem_nodes {levels : Nat} {symbol : String} {path : Path}
    {default? : Option DefaultValue} {showLabel : Bool} {m : Node}
    (hm : m ∈ (r.renderLevels levels symbol path default? showLabel).1.nodes) :
    ∀ w ∈ m.widget, w.IsConsistent := by
  intro w hw
  obtain ⟨levels', default', showLabel', heq⟩ := r.exists_renderLevels_of_mem_nodes _ _ _ _ _ hm
  rw [heq] at hw
  cases w with
  | text value leaf valid => trivial
  | choice offers selected tip off =>
    obtain ⟨-, hchoice, hselected⟩ := eq_choiceAmong_of_widget (Option.mem_def.mp hw)
    rw [hchoice]
    exact r.isConsistent_choiceAmong _ hselected

end Renderer

/-! ### The controls of the form -/

namespace Html

/-- An option contributes its value if it is marked. -/
theorem yields_optionElement (value : String) {more : List Attribute} (selected : Bool)
    (label : String) (hmore : ∀ a ∈ more, a.IsWellFormed)
    (hmarks : Entries.has (more.map (·.entry)) "selected" = false) :
    Yields markedOptions [optionElement (attr "value" value :: more) selected label]
      (if selected then [value] else []) := by
  have hattributes : ∀ a ∈ attr "value" value :: more ++ switch selected "selected",
      a.IsWellFormed := by
    rw [List.forall_mem_append, List.forall_mem_cons]
    exact ⟨⟨by simp [IsWord], hmore⟩, isWellFormed_of_mem_switch (by decide)⟩
  refine List.append_nil (if selected then [value] else []) ▸
    Yields.element (by decide) hattributes (fun rest => ?_) (fun _ => rfl) (.text label)
  have hselected : Entries.has
      ((attr "value" value :: more ++ switch selected "selected").map (·.entry)) "selected" =
        selected := by
    rw [Entries.has] at hmarks ⊢
    rw [List.map_append, List.map_cons, List.any_append, List.any_cons, hmarks]
    cases selected <;> rfl
  rw [markedOptions, hselected]
  cases selected <;> rfl

/-- An option alone submits nothing. -/
theorem submits_optionElement {attributes : List Attribute} (selected : Bool) (label : String)
    (h : ∀ a ∈ attributes, a.IsWellFormed) :
    Submits [optionElement attributes selected label] [] := by
  refine Submits.element (by decide) ?_ (.text label)
  exact List.forall_mem_append.mpr ⟨h, isWellFormed_of_mem_switch (by decide)⟩

/-- A choice submits the value of its marked option unless it is disabled. -/
theorem submits_select (key tooltip : String) {value : String} (disabled : Bool)
    {hs : List Html} (hcontent : Submits hs []) (hmarked : Yields markedOptions hs [value]) :
    Submits [.element "select"
      ([attr "id" (controlId key), attr "name" key, attr "title" tooltip] ++
        switch disabled "disabled") hs] (if disabled then [] else [(key, value)]) := by
  have hattributes : ∀ a ∈ [attr "id" (controlId key), attr "name" key, attr "title" tooltip] ++
      switch disabled "disabled", a.IsWellFormed := by
    rw [List.forall_mem_append]
    exact ⟨by simp [IsWord], isWellFormed_of_mem_switch (by decide)⟩
  refine ⟨fun x hx => List.mem_singleton.mp hx ▸ .element (by decide) hattributes
    hcontent.isWellFormed, fun rest => ?_⟩
  have hdisabled : Entries.has
      (([attr "id" (controlId key), attr "name" key, attr "title" tooltip] ++
        switch disabled "disabled").map (·.entry)) "disabled" = disabled := by
    cases disabled <;> rfl
  have hname : textOf?
      (([attr "id" (controlId key), attr "name" key, attr "title" tooltip] ++
        switch disabled "disabled").map (·.entry)) "name" = some key := by
    cases disabled <;> rfl
  rw [tagsOf_element, controls, hname, hcontent.read_append, controlText?, hdisabled,
    hmarked.read_append]
  cases disabled <;> rfl

/-- A hidden control submits its value. -/
theorem submits_hiddenControl (key value : String) :
    Submits [hiddenControl key value] [(key, value)] := by
  exact ⟨fun x hx => List.mem_singleton.mp hx ▸ .void (by decide) (by simp [IsWord]),
    fun rest => rfl⟩

end Html

namespace Widget

/-- The options of a choice, the one for an unresolved choice first. -/
def optionsHtml (options : List Offer) (selected : Option Nat) : List Html :=
  .text "\n" :: ownLine "    " (optionElement [attr "value" "-1"] selected.isNone unresolvedText) ++
    options.flatMap (fun o => ownLine "    " o.html) ++ [.text "  "]

theorem submits_optionsHtml (options : List Offer) (selected : Option Nat) :
    Submits (optionsHtml options selected) [] := by
  have hunresolved :
      Submits [optionElement [attr "value" "-1"] selected.isNone unresolvedText] [] :=
    submits_optionElement _ _ (by simp [IsWord])
  have hoffers : Submits (options.flatMap fun o => ownLine "    " o.html) [] := by
    exact Yields.flatMap_nil fun o _ =>
      (submits_optionElement _ _ (by simp [IsWord])).ownLine "    "
  exact (((hunresolved.ownLine "    ").cons_text "\n").append_nil hoffers).append_nil (.text "  ")

/-- One option of a choice is marked, the one for its selection. -/
theorem yields_optionsHtml {options : List Offer} {selected : Option Nat}
    (h : (options.filter (·.selected)).map (·.index) = selected.toList) :
    Yields markedOptions (optionsHtml options selected) [selectionText selected] := by
  have hvalues (os : List Offer) :
      os.flatMap (fun o => if o.selected then [toString o.index] else []) =
        ((os.filter (·.selected)).map (·.index)).map toString := by
    induction os with
    | nil => rfl
    | cons o os ih =>
      rw [List.flatMap_cons, ih, List.filter_cons]
      cases o.selected <;> rfl
  have hunresolved := yields_optionElement "-1" selected.isNone unresolvedText
    (fun _ h => absurd h List.not_mem_nil) rfl
  have hoffers : Yields markedOptions (options.flatMap fun o => ownLine "    " o.html)
      (options.flatMap fun o => if o.selected then [toString o.index] else []) :=
    Yields.flatMap fun o _ =>
      (yields_optionElement _ o.selected o.label (by simp [IsWord]) rfl).ownLine "    "
  have hall := ((hunresolved.ownLine "    ").cons_text "\n").append
    (hoffers.append_nil (.text "  "))
  rw [hvalues, h] at hall
  cases selected <;> exact hall

/-- **A widget submits its value under its key.** -/
theorem submits_html {w : Widget} (hw : w.IsConsistent) (key tooltip : String) :
    Submits (w.html key tooltip) [(key, w.value)] := by
  cases w with
  | text value leaf valid =>
    refine Yields.ownLine "  " ⟨fun x hx => List.mem_singleton.mp hx ▸ .void (by decide) ?_,
      fun rest => ?_⟩
    · cases valid <;> simp [IsWord, IsGap]
    · cases valid <;> rfl
  | choice options selected choiceTooltip disabled =>
    obtain ⟨hmarks, hdisabled⟩ := hw
    have hselect := (submits_select key choiceTooltip disabled
      (submits_optionsHtml options selected) (yields_optionsHtml hmarks)).ownLine "  "
    cases selected with
    | none =>
      have henabled : disabled = false := by simpa using hdisabled
      subst henabled
      exact hselect.append_nil .nil
    | some i =>
      cases disabled with
      | false => exact hselect.append_nil .nil
      | true => exact hselect.append ((submits_hiddenControl key (toString i)).ownLine "  ")

/-- The explanation of a selection is no control. -/
theorem submits_explanationHtml (w : Widget) : Submits w.explanationHtml [] := by
  unfold explanationHtml
  split
  next =>
    split
    next => exact .nil
    next => exact (Submits.element (by decide) (by simp [IsWord])
      (.text _)).ownLine "  "
  next => exact .nil

end Widget

namespace Html

/-- A plain element whose content is no control. -/
theorem submits_line {name : String} {attributes : List Attribute} (indent : String)
    {hs : List Html} (hname : IsPlain name) (hattributes : ∀ a ∈ attributes, a.IsWellFormed)
    (h : Submits hs []) : Submits (ownLine indent (.element name attributes hs)) [] :=
  (Submits.element hname hattributes h).ownLine indent

end Html

namespace Node

theorem htmlOf_eq_map : (ns : List Node) → htmlOf ns = ns.map html
  | [] => rfl
  | n :: rest => by rw [htmlOf, htmlOf_eq_map rest, List.map_cons]

/-- The part of the form for a node surrounds those of its children. -/
theorem html_eq (n : Node) :
    n.html = n.frame (n.headHtml ++ childrenHtml (n.children.map html)) := by
  rw [← htmlOf_eq_map]
  cases n
  rfl

theorem submits_labelHtml (n : Node) : Submits n.labelHtml [] := by
  unfold labelHtml
  split
  next => exact submits_line "  " (by decide) (by simp [IsWord]) (.text _)
  next => exact .nil

theorem submits_issueHtml (n : Node) : Submits n.issueHtml [] := by
  unfold issueHtml
  split
  next => exact .nil
  next => exact submits_line "  " (by decide) (by simp [IsWord]) (.text _)

theorem submits_tooltipHtml (n : Node) : Submits n.tooltipHtml [] := by
  unfold tooltipHtml
  split
  next => exact submits_line "  " (by decide) (by simp [IsWord]) (.text _)
  next => exact .nil

/-- The part of a node above its children submits the value of the node. -/
theorem submits_headHtml {n : Node} (h : ∀ w ∈ n.widget, w.IsConsistent) :
    Submits n.headHtml n.ownField.toList := by
  rw [headHtml, ownField]
  cases hw : n.widget with
  | none =>
    exact (((n.submits_labelHtml.append .nil).append_nil n.submits_issueHtml).append_nil
      n.submits_tooltipHtml).append_nil .nil
  | some w =>
    exact (((n.submits_labelHtml.append (w.submits_html (h w hw) n.key n.tooltip)).append_nil
      n.submits_issueHtml).append_nil n.submits_tooltipHtml).append_nil w.submits_explanationHtml

/-- The part of a node below it submits the values of its children. -/
theorem submits_childrenHtml {children : List Node}
    (h : ∀ c ∈ children, Submits [c.html] c.fields) :
    Submits (childrenHtml (children.map html)) (children.flatMap fields) := by
  unfold childrenHtml
  split
  next hempty =>
    rw [List.isEmpty_iff, List.map_eq_nil_iff] at hempty
    exact hempty ▸ .nil
  next =>
    have hchildren : Submits ((children.map html).flatMap fun c =>
        ownLine "    " (.element "div" [] [c, .text "\n"])) (children.flatMap fields) := by
      rw [List.flatMap_map]
      exact Yields.flatMap fun c hc => (Submits.element (by decide) (by simp)
        ((h c hc).append_nil (.text "\n"))).ownLine "    "
    exact (Submits.element (by decide) (by simp [IsWord])
      ((hchildren.cons_text "\n").append_nil (.text "  "))).ownLine "  "

/-- **A node submits the values of its subtree.** -/
theorem submits_html (n : Node) :
    (∀ m ∈ n.nodes, ∀ w ∈ m.widget, w.IsConsistent) → Submits [n.html] n.fields := by
  induction n using Node.induct with
  | h n ih =>
    intro h
    obtain ⟨hroot, hbelow⟩ := forall_mem_nodes_iff.mp h
    have hchildren := submits_childrenHtml fun c hc => ih c hc (hbelow c hc)
    rw [html_eq, fields_eq, frame]
    exact Submits.element (by decide) (by simp [IsWord])
      (((submits_headHtml hroot).append hchildren).cons_text "\n")

end Node

theorem submits_explanationLine (explanation : String) :
    Submits (explanationLine explanation) [] := by
  unfold explanationLine
  split
  next => exact .nil
  next => exact submits_line "  " (by decide) (by simp [IsWord]) (.text _)

theorem submits_validityMark (valid : Bool) : Submits [validityMark valid] [] := by
  unfold validityMark
  split
  next => exact Submits.element (by decide) (by simp [IsWord]) (.reference (by decide))
  next => exact Submits.element (by decide) (by simp [IsWord]) (.reference (by decide))

namespace CommandForm

/-- **A command submits the values of its tree**, which stands in its head or below it. -/
theorem submits_html {c : CommandForm} (h : ∀ m ∈ c.root.nodes, ∀ w ∈ m.widget, w.IsConsistent) :
    Submits [c.html] c.fields := by
  have hroot := c.root.submits_html h
  have hname : Submits [.element "b" [] [.text (c.label ++ ". " ++ c.name ++ ":")]] [] :=
    Submits.element (by decide) (by simp) (.text _)
  have hmark : Submits (.text "\n" :: [.text "    ", validityMark c.line.valid, .text " ",
      .element "b" [] [.text (c.label ++ ". " ++ c.name ++ ":")], .text "\n"]) [] :=
    (((submits_validityMark c.line.valid).append_nil
      ((hname.append_nil (.text "\n")).cons_text " ")).cons_text "    ").cons_text "\n"
  have hhead {hs : List Html} {values : List (String × String)} (hvalues : Submits hs values) :
      Submits (ownLine "  " (.element "div" [attr "class" "command-head"]
        (.text "\n" :: [.text "    ", validityMark c.line.valid, .text " ",
          .element "b" [] [.text (c.label ++ ". " ++ c.name ++ ":")], .text "\n"] ++ hs ++
          [.text "  "]))) values :=
    (Submits.element (by decide) (by simp [IsWord])
      ((hmark.append hvalues).append_nil (.text "  "))).ownLine "  "
  have hexplanation := submits_explanationLine c.explanation
  have hcode : Submits (ownLine "  " (.element "code" [attr "class" "line"] [.text c.line.text]))
      [] := submits_line "  " (by decide) (by simp [IsWord]) (.text _)
  refine Submits.element (by decide) (by simp [IsWord]) ?_
  cases c.inline with
  | true =>
    exact ((((hhead (hroot.block "    ")).cons_text "\n").append_nil hexplanation).append_nil
      .nil).append_nil hcode
  | false =>
    exact ((((hhead .nil).cons_text "\n").append_nil hexplanation).append
      (hroot.block "  ")).append_nil hcode

end CommandForm

namespace GroupForm

theorem submits_button (key title : String) (enabled : Bool) {label : Html}
    (h : Submits [label] []) : Submits [button key title enabled label] [] := by
  refine Submits.element (by decide) ?_ h
  rw [List.forall_mem_append]
  exact ⟨by simp [IsWord, IsGap], isWellFormed_of_mem_switch (by decide)⟩

/-- **A group submits its count and the values of its commands.** -/
theorem submits_html {g : GroupForm}
    (h : ∀ c ∈ g.commands, ∀ m ∈ c.root.nodes, ∀ w ∈ m.widget, w.IsConsistent) :
    Submits [g.html] g.fields := by
  have hname : Submits (ownLine "    " (.element "b" [] [.text (g.label ++ ". " ++ g.name)])) [] :=
    submits_line "    " (by decide) (by simp) (.text _)
  have hcount := (submits_hiddenControl g.countKey (toString g.count)).ownLine "    "
  have hplus := (submits_button g.plusKey ("Add one " ++ g.name) g.canAdd (.text "+")).ownLine
    "    "
  have hsign : Submits [.reference "minus"] [] := .reference (by decide)
  have hminus := (submits_button g.minusKey ("Remove the last " ++ g.name) g.canRemove
    hsign).ownLine "    "
  have hcommands : Submits (g.commands.flatMap fun c => block "  " c.html)
      (g.commands.flatMap (·.fields)) :=
    Yields.flatMap fun c hc => (CommandForm.submits_html (h c hc)).block "  "
  have hhead (bound : String) :=
    (((((hname.cons_text "\n").append_nil (.text bound)).append hcount).append_nil
      hplus).append_nil hminus).append_nil (.text "  ")
  exact Submits.element (by decide) (by simp [IsWord])
    (((((Submits.element (by decide) (by simp [IsWord]) (hhead _)).ownLine "  ").cons_text
      "\n").append_nil (submits_explanationLine g.explanation)).append hcommands)

end GroupForm

/-- **An item submits its values.** -/
theorem FormItem.submits_html {item : FormItem}
    (h : ∀ c ∈ item.commands, ∀ m ∈ c.root.nodes, ∀ w ∈ m.widget, w.IsConsistent) :
    Submits [item.html] item.fields := by
  cases item with
  | command c => exact CommandForm.submits_html (h c (List.mem_singleton_self c))
  | group g => exact GroupForm.submits_html h

theorem submits_actionsHtml : Submits [actionsHtml] [] := by
  have hupdate : Submits (ownLine "    " (.element "button" [attr "type" "submit"]
      [.text "Update"])) [] := submits_line "    " (by decide) (by simp [IsWord]) (.text _)
  have hdownload : Submits (ownLine "    " (.element "button"
      [attr "type" "submit", attr "formaction" "/document"]
      [.text "Download configuration file"])) [] :=
    submits_line "    " (by decide) (by simp [IsWord]) (.text _)
  exact Submits.element (by decide) (by simp [IsWord])
    (((hupdate.cons_text "\n").append_nil hdownload).append_nil (.text "  "))

namespace Document

theorem submits_configurationHtml (d : Document) : Submits [d.configurationHtml] [] := by
  have hhead : Submits (ownLine "    " (.element "h2" [] [.text "Configuration File"])) [] :=
    submits_line "    " (by decide) (by simp) (.text _)
  have hremark : Submits (if d.invalidLines.length = 0 then []
      else ownLine "    " (.element "p" [attr "class" "issue"]
        [.text s!"{d.invalidLines.length} line(s) still need attention."])) [] := by
    split
    next => exact .nil
    next => exact submits_line "    " (by decide) (by simp [IsWord]) (.text _)
  have hlines : Submits (d.lines.flatMap fun l => ownLine "" l.html) [] :=
    Yields.flatMap_nil fun l _ => submits_line "" (by decide) (by simp [IsWord]) (.text _)
  have hpre : Submits (ownLine "    " (.element "pre" [attr "id" "config-document"]
      (.text "\n" :: d.lines.flatMap fun l => ownLine "" l.html))) [] :=
    submits_line "    " (by decide) (by simp [IsWord]) (hlines.cons_text "\n")
  exact Submits.element (by decide) (by simp [IsWord])
    ((((hhead.cons_text "\n").append_nil hremark).append_nil hpre).append_nil (.text "  "))

/-- **The form submits the values of its items in their order.** -/
theorem submits_formHtml {d : Document} (h : ∀ item ∈ d.items, ∀ c ∈ item.commands,
    ∀ m ∈ c.root.nodes, ∀ w ∈ m.widget, w.IsConsistent) : Submits [d.formHtml] d.fields := by
  have hsection {s : FormSection} (hs : s ∈ d.sections) :
      Submits [s.html] (s.items.flatMap (·.fields)) := by
    have hitems : Submits (s.items.flatMap fun i => block "    " i.html)
        (s.items.flatMap (·.fields)) :=
      Yields.flatMap fun item hitem =>
        (FormItem.submits_html (h item (List.mem_flatMap.mpr ⟨s, hs, hitem⟩))).block "    "
    have htitle : Submits (ownLine "    " (.element "h2" [] [.text s.title])) [] :=
      submits_line "    " (by decide) (by simp) (.text _)
    exact Submits.element (by decide) (by simp [IsWord])
      (((htitle.cons_text "\n").append hitems).append_nil (.text "  "))
  have hsections : Submits (d.sections.flatMap fun s => ownLine "  " s.html) d.fields := by
    rw [fields, items, List.flatMap_assoc]
    exact Yields.flatMap fun s hs => (hsection hs).ownLine "  "
  exact Submits.element (by decide) (by simp [IsWord, IsGap])
    (((hsections.cons_text "\n").append_nil (submits_actionsHtml.ownLine "  ")).append_nil
      (d.submits_configurationHtml.ownLine "  "))

end Document

namespace Assembler

variable {a : Assembler} {digest : String → String} {state : FormState} {d : Document}
  {notices : List Notice}

/-- **The form submits the form state.**  What a browser reads from the text of the form and
submits is the form state of the document, in the same order. -/
theorem submission_fragment (hdigest : HasFixedLength digest)
    (h : a.assemble digest state = .ok (d, notices)) :
    Html.submission d.fragment = d.formState := by
  rw [formState_eq_fields hdigest h]
  refine submission_write (Document.submits_formHtml fun item hitem c hc m hm => ?_)
  obtain ⟨i, hi⟩ := List.getElem?_of_mem hitem
  obtain ⟨e, -, rfl⟩ := exists_entry_of_items h hi
  obtain ⟨entry, path, rfl⟩ := RenderContext.exists_command_of_item hc
  exact Renderer.isConsistent_of_mem_nodes _ hm

/-- One instance of the repeated command whose numeral would close its field and open others. -/
def markupSum : FormState :=
  [(controlKey blankDigest "total" [1] .count, "1"),
    (widgetKey blankDigest "total" "total" [1, 1], "0"),
    (widgetKey blankDigest "total" "<integer value>" [1, 1, 1],
      "\"><input type='hidden' name=\"x\" value=\"1\">&lt;")]

theorem submission_fragment_markupSum : ∃ d notices, HasFixedLength blankDigest ∧
    sumForm.assemble blankDigest markupSum = .ok (d, notices) ∧
    Html.submission d.fragment = d.formState := by
  have hdigest : HasFixedLength blankDigest := fun _ _ => rfl
  have h : sumForm.assemble blankDigest markupSum = .ok (_, _) := rfl
  exact ⟨_, _, hdigest, h, submission_fragment hdigest h⟩

end Assembler

end GrammarForm
