import GrammarForm.Proofs.Completeness
import GrammarForm.Proofs.Resubmission
import GrammarForm.Proofs.Validity

/-!
# The outline of a document

What stands in a document, and where, is given by the layout and the counters alone.  Each section
of the layout has one section of the form, and each command one item, numbered through all
sections.  Below a repeated command stand its instances, numbered from one, and once there is one,
the dependents behind them.  Every command gives one line, so the configuration lists the commands
in this order, and it is valid exactly if no node of the form has an issue.

A catalogue that is accepted has such a document for every state, provided that its title is a text
and that its names have a form in bytes.

## Main definitions

* `LayoutCommand.instanceSlots`, `LayoutCommand.dependentSlots` : names and places below a repeated
  command.
* `FormItem.StandsFor` : what the item of a command looks like.
* `Document.HasOutline` : what a document of a layout looks like.

## Main results

* `RenderContext.standsFor_item` : every rendered item stands for its command.
* `Renderer.isNamed_of_mem_nodes` : the symbols below a named symbol are names or kinds of values.
* `Assembler.hasOutline_of_assemble` : every document has the outline of its layout.
* `Assembler.exists_hasOutline_iff` : an accepted catalogue has such a document for every state
  exactly if its title is a text.
-/

namespace GrammarForm

/-! ### Slots -/

namespace LayoutCommand

/-- The names and places of the instances of a repeated command. -/
def instanceSlots (entry : LayoutCommand) (path : Path) (count : Nat) : List (String × Path) :=
  (List.range count).map fun (i : Nat) => (entry.name, path ++ [(i : Int) + 1])

/-- The names and places of the dependents of a repeated command, which are there as soon as there
is an instance. -/
def dependentSlots (entry : LayoutCommand) (path : Path) (count : Nat) : List (String × Path) :=
  if count = 0 then []
  else entry.dependents.mapIdx fun i name => (name, path ++ [(count : Int) + i + 1])

end LayoutCommand

/-- A command at its place.  Its line is its name, a blank and the text of its tree, and the line is
valid exactly if no node of the tree has an issue. -/
structure CommandForm.StandsAt (c : CommandForm) (slot : String × Path) : Prop where
  name_eq : c.name = slot.1
  path_eq : c.path = slot.2
  command_eq : c.line.command = slot.1
  text_eq : c.line.text = slot.1 ++ " " ++ c.root.text
  valid_iff : c.line.valid = true ↔ ∀ n ∈ c.root.nodes, n.issue = none

/-- The group of a repeated command at its place.  Its counter is not negative and not above the
bound, unless the bound itself is negative, and the instances and dependents stand in the slots
below the group. -/
structure GroupForm.StandsFor (g : GroupForm) (cap : Int) (entry : LayoutCommand) (path : Path) :
    Prop where
  name_eq : g.name = entry.name
  path_eq : g.path = path
  count_nonneg : 0 ≤ g.count
  count_le : g.count ≤ max 0 (upperBound (entry.repeatLimit.getD 1) cap)
  instances : List.Forall₂ CommandForm.StandsAt g.instances
    (entry.instanceSlots path g.count.toNat)
  dependents : List.Forall₂ CommandForm.StandsAt g.dependents
    (entry.dependentSlots path g.count.toNat)

/-- The item of a command of the layout at its place: a group for a repeated command, and
otherwise the command itself. -/
inductive FormItem.StandsFor (cap : Int) (entry : LayoutCommand) (path : Path) : FormItem → Prop
  | command {c : CommandForm} (hsingle : entry.isRepeated = false)
      (h : c.StandsAt (entry.name, path)) : StandsFor cap entry path (.command c)
  | group {g : GroupForm} (hrepeated : entry.isRepeated = true)
      (h : g.StandsFor cap entry path) : StandsFor cap entry path (.group g)

/-- The commands of sections with their places: they are numbered through. -/
def numberedCommands (sections : List LayoutSection) : List (LayoutCommand × Path) :=
  (sections.flatMap (·.commands)).mapIdx fun i entry => (entry, [(i : Int) + 1])

/-- The outline of a document of a layout, with a given cap for groups without a maximum. -/
structure Document.HasOutline (cap : Int) (layout : List LayoutSection) (d : Document) :
    Prop where
  sections : List.Forall₂ (fun s section' =>
    s.title = section'.title ∧ s.items.length = section'.commands.length) d.sections layout
  items : List.Forall₂ (fun item slot => item.StandsFor cap slot.1 slot.2) d.items
    (numberedCommands layout)
  lines_eq : d.lines = d.commands.map (·.line)
  text_eq : d.text = "\n".intercalate (d.commands.map (·.line.text))
  valid_iff : d.valid = true ↔ ∀ n ∈ d.nodes, n.issue = none

/-! ### Items in their slots -/

namespace RenderContext

variable (ctx : RenderContext)

/-- Every rendered command stands at its place. -/
theorem standsAt_command (entry : LayoutCommand) (path : Path) :
    (ctx.command entry path).1.StandsAt (entry.name, path) where
  name_eq := rfl
  path_eq := rfl
  command_eq := rfl
  text_eq := rfl
  valid_iff := Renderer.valid_iff_forall_issue _ _ _ _ _

theorem standsAt_instances (entry : LayoutCommand) (path : Path) (n : Nat) :
    List.Forall₂ CommandForm.StandsAt ((ctx.instances entry path n).map Prod.fst)
      (entry.instanceSlots path n) := by
  rw [instances, LayoutCommand.instanceSlots, List.map_map, List.forall₂_map_left_iff,
    List.forall₂_map_right_iff, List.forall₂_same]
  exact fun i _ => ctx.standsAt_command { entry with repeatLimit := none } _

theorem standsAt_dependents (entry : LayoutCommand) (path : Path) (n : Nat) :
    List.Forall₂ CommandForm.StandsAt ((ctx.dependents entry path n).map Prod.fst)
      (entry.dependentSlots path n) := by
  rw [dependents, LayoutCommand.dependentSlots]
  split
  next => exact .nil
  next =>
    refine forall₂_of_getElem? (by simp only [List.length_map, List.length_mapIdx])
      fun i c slot hc hslot => ?_
    simp only [List.getElem?_map, List.getElem?_mapIdx, Option.map_eq_some_iff] at hc hslot
    obtain ⟨name, hname, rfl⟩ := hslot
    obtain ⟨_, ⟨name', hname', rfl⟩, rfl⟩ := hc
    cases hname.symm.trans hname'
    exact ctx.standsAt_command { name := name, inline := true } _

/-- **Every rendered item stands for its command.** -/
theorem standsFor_item (entry : LayoutCommand) (path : Path) :
    (ctx.item entry path).1.StandsFor ctx.repeatCap entry path := by
  by_cases hrepeated : entry.isRepeated = true
  · rw [item_of_isRepeated _ hrepeated]
    obtain ⟨hnonneg, hle⟩ := ctx.counter_bounds entry path
    exact .group hrepeated
      { name_eq := rfl
        path_eq := rfl
        count_nonneg := hnonneg
        count_le := hle
        instances := ctx.standsAt_instances entry path _
        dependents := ctx.standsAt_dependents entry path _ }
  · rw [item_of_not_isRepeated _ hrepeated]
    exact .command (Bool.eq_false_of_not_eq_true hrepeated) (ctx.standsAt_command entry path)

end RenderContext

/-! ### Names with keys -/

namespace ValueKind

theorem eq_placeholder_of_ofPlaceholder? {name : String} {kind : ValueKind}
    (h : ofPlaceholder? name = some kind) : name = kind.placeholder :=
  (beq_iff_eq.mp (List.find?_some (p := fun k : ValueKind => k.placeholder == name) h)).symm

theorem isEncodable_placeholder (kind : ValueKind) :
    Text.isEncodable kind.placeholder = true := by
  cases kind <;> decide

end ValueKind

namespace Grammar

/-- A name has a record or stands for a kind of value. -/
def IsNamed (g : Grammar) (name : String) : Prop :=
  name ∈ g.names ∨ (ValueKind.ofPlaceholder? name).isSome = true

/-- A name that is no keyword has a record or stands for a kind of value. -/
theorem isNamed_of_roleOf_ne_terminal {g : Grammar} {name : String}
    (h : g.roleOf name ≠ .terminal) : g.IsNamed name := by
  rw [roleOf] at h
  cases hleaf : ValueKind.ofPlaceholder? name with
  | some kind => exact Or.inr (hleaf ▸ rfl)
  | none =>
    cases hr : g.record? name with
    | none =>
      rw [hleaf, hr] at h
      exact absurd rfl h
    | some r => exact Or.inl (has_iff_mem_names.mp (by rw [has, hr]; rfl))

theorem IsNamed.isEncodable {g : Grammar} {name : String} (h : g.IsNamed name)
    (hnames : ∀ n ∈ g.names, Text.isEncodable n = true) : Text.isEncodable name = true := by
  rcases h with h | h
  · exact hnames name h
  · obtain ⟨kind, hkind⟩ := Option.isSome_iff_exists.mp h
    rw [ValueKind.eq_placeholder_of_ofPlaceholder? hkind]
    exact kind.isEncodable_placeholder

end Grammar

namespace Renderer

variable {r : Renderer}

/-- **The symbols below a named symbol** have records or stand for kinds of values. -/
theorem isNamed_of_mem_nodes {m : Node} {levels : Nat} {symbol : String} {path : Path}
    {default? : Option DefaultValue} {showLabel : Bool} (hsymbol : r.grammar.IsNamed symbol)
    (hm : m ∈ (r.renderLevels levels symbol path default? showLabel).1.nodes) :
    r.grammar.IsNamed m.symbol := by
  rcases r.symbol_of_mem_nodes _ _ _ _ _ hm with heq | hrole
  · rwa [heq]
  · exact Grammar.isNamed_of_roleOf_ne_terminal hrole

end Renderer

namespace RenderContext

variable (ctx : RenderContext) (hnames : ∀ n ∈ ctx.grammar.names, Text.isEncodable n = true)

include hnames

/-- A command whose name has a record has keys. -/
theorem hasKeys_command (entry : LayoutCommand) (hentry : entry.name ∈ ctx.grammar.names)
    (path : Path) : (ctx.command entry path).1.hasKeys = true := by
  refine Bool.and_eq_true_iff.mpr ⟨hnames _ hentry, List.all_eq_true.mpr fun m hm => ?_⟩
  exact (Renderer.isNamed_of_mem_nodes (r := ctx.renderer entry.name entry.inline)
    (Or.inl hentry) hm).isEncodable hnames

/-- An item has keys if its command and the dependents have records. -/
theorem hasKeys_item {entry : LayoutCommand}
    (hentry : ∀ name ∈ entry.name :: entry.dependents, name ∈ ctx.grammar.names) (path : Path) :
    (ctx.item entry path).1.hasKeys = true := by
  obtain ⟨hname, hdependents⟩ := List.forall_mem_cons.mp hentry
  by_cases hrepeated : entry.isRepeated = true
  · rw [item_of_isRepeated _ hrepeated]
    refine Bool.and_eq_true_iff.mpr ⟨hnames _ hname, List.all_eq_true.mpr fun c hc => ?_⟩
    rcases List.mem_append.mp hc with hc | hc
    · obtain ⟨i, -, rfl⟩ := exists_of_mem_instances _ hc
      exact ctx.hasKeys_command hnames { entry with repeatLimit := none } hname _
    · obtain ⟨i, name, -, hi, rfl⟩ := exists_of_mem_dependents _ hc
      exact ctx.hasKeys_command hnames { name := name, inline := true }
        (hdependents name (List.mem_of_getElem? hi)) _
  · rw [item_of_not_isRepeated _ hrepeated]
    exact ctx.hasKeys_command hnames entry hname path

end RenderContext

/-! ### Documents -/

namespace FormItem

/-- The commands of an item are valid exactly if their trees have no issues. -/
theorem StandsFor.valid_iff {cap : Int} {entry : LayoutCommand} {path : Path} {item : FormItem}
    (h : item.StandsFor cap entry path) {c : CommandForm} (hc : c ∈ item.commands) :
    c.line.valid = true ↔ ∀ n ∈ c.root.nodes, n.issue = none := by
  cases h with
  | command _ h =>
    cases List.mem_singleton.mp hc
    exact h.valid_iff
  | group _ h =>
    rcases List.mem_append.mp hc with hc | hc
    · obtain ⟨slot, -, hslot⟩ := exists_rel_of_mem h.instances.flip hc
      exact hslot.valid_iff
    · obtain ⟨slot, -, hslot⟩ := exists_rel_of_mem h.dependents.flip hc
      exact hslot.valid_iff

end FormItem

namespace Document

variable {d : Document}

theorem lines_eq_map_commands (d : Document) : d.lines = d.commands.map (·.line) := by
  rw [lines_eq_flatMap_items, commands, List.map_flatMap]
  rfl

end Document

namespace Assembler

variable (a : Assembler) (digest : String → String)

/-- Each rendered section has the title of its section of the layout and an item for each
command. -/
theorem forall₂_renderSections (state : FormState) (pairs : List (LayoutSection × Grammar)) :
    ∀ used : Nat, List.Forall₂ (fun s pair =>
      s.1.title = pair.1.title ∧ s.1.items.length = pair.1.commands.length)
      (a.renderSections digest state used pairs) pairs := by
  induction pairs with
  | nil => exact fun _ => .nil
  | cons p rest ih =>
    intro used
    refine .cons ⟨rfl, ?_⟩ (ih _)
    rw [List.length_map, RenderContext.items, List.length_mapIdx]

variable {a digest} {state : FormState} {d : Document} {notices : List Notice}

/-- **Every document has the outline of its layout.** -/
theorem hasOutline_of_assemble (hgrammars : a.grammars.length = a.catalogue.sections.length)
    (h : a.assemble digest state = .ok (d, notices)) :
    d.HasOutline a.options.repeatCap a.catalogue.sections := by
  have hsections : (a.catalogue.sections.zip a.grammars).map Prod.fst = a.catalogue.sections :=
    List.map_fst_zip hgrammars.ge
  have hitems : List.Forall₂ (fun item slot =>
      item.StandsFor a.options.repeatCap slot.1 slot.2) d.items
      (numberedCommands a.catalogue.sections) := by
    have hcommands : a.catalogue.sections.flatMap (·.commands) = a.entries.map Prod.snd :=
      (map_snd_entries hgrammars).symm
    rw [items_of_assemble h, numberedCommands, hcommands]
    refine forall₂_of_getElem? (by simp only [List.length_mapIdx, List.length_map])
      fun i item slot hitem hslot => ?_
    simp only [List.getElem?_mapIdx, List.getElem?_map, Option.map_eq_some_iff] at hitem hslot
    obtain ⟨e, he, rfl⟩ := hitem
    obtain ⟨_, ⟨e', he', rfl⟩, rfl⟩ := hslot
    cases he.symm.trans he'
    exact (a.context digest e.1 state).standsFor_item e.2 _
  refine ⟨?_, hitems, d.lines_eq_map_commands, ?_, ?_⟩
  · rw [((a.assemble_eq_ok_iff digest).mp h).2.1, ← hsections, List.forall₂_map_left_iff,
      List.forall₂_map_right_iff]
    exact a.forall₂_renderSections digest state _ 0
  · rw [Document.text, d.lines_eq_map_commands, List.map_map]
    rfl
  · rw [Document.valid, d.lines_eq_map_commands, List.all_map, List.all_eq_true]
    have hcommand : ∀ c ∈ d.commands,
        (c.line.valid = true ↔ ∀ n ∈ c.root.nodes, n.issue = none) := by
      intro c hc
      obtain ⟨item, hitem, hc⟩ := List.mem_flatMap.mp hc
      obtain ⟨slot, -, hslot⟩ := exists_rel_of_mem hitems.flip hitem
      exact hslot.valid_iff hc
    rw [Document.nodes, List.forall_mem_flatMap]
    exact forall₂_congr hcommand

/-- **A document has keys** if the names of the grammar have a form in bytes. -/
theorem hasKeys_of_assemble (hnamed : ∀ e ∈ a.entries, ∀ name ∈ e.2.name :: e.2.dependents,
      name ∈ e.1.names)
    (hnames : ∀ e ∈ a.entries, ∀ name ∈ e.1.names, Text.isEncodable name = true)
    (h : a.assemble digest state = .ok (d, notices)) : d.hasKeys = true := by
  refine List.all_eq_true.mpr fun item hitem => ?_
  obtain ⟨i, hi⟩ := List.getElem?_of_mem hitem
  obtain ⟨e, he, rfl⟩ := exists_entry_of_items h hi
  have hmem := List.mem_of_getElem? he
  exact (a.context digest e.1 state).hasKeys_item (hnames e hmem) (hnamed e hmem) _

/-- **Every state has a document with the outline of the layout.**  An accepted catalogue can be
made ready, with a grammar for each section.  A state has a document exactly if the title in effect
is a text; the document then has the outline of the layout, and it has keys if the names of the
catalogue have a form in bytes. -/
theorem exists_hasOutline_iff {data : Data} {source : Option FilePath} {c : Catalogue}
    (hdata : Catalogue.ofData data source = .ok c) (options : FormOptions) :
    ∃ a notices, ofCatalogue c options = .ok (a, notices) ∧ a.catalogue = c ∧
      a.options = options ∧ a.grammars.length = c.sections.length ∧
      ∀ state : FormState,
        ((∃ d notices', a.assemble shortDigest state = .ok (d, notices')) ↔
          ∃ title, a.title = .ok title) ∧
        ∀ d notices', a.assemble shortDigest state = .ok (d, notices') →
          d.HasOutline options.repeatCap c.sections ∧
            ((∀ name ∈ c.grammar.names, Text.isEncodable name = true) → d.hasKeys = true) := by
  have hlayout := Catalogue.layoutFault?_of_ofData hdata
  have hnamed := Catalogue.has_command_of_sectionsFault?
    (Catalogue.layoutFault?_eq_none_iff.mp hlayout).2
  obtain ⟨a, notices, hready, hcatalogue, hoptions, hlength, hnames⟩ :=
    exists_ofCatalogue hlayout options
  subst hcatalogue hoptions
  refine ⟨a, notices, hready, rfl, rfl, hlength, fun state => ⟨⟨?_, ?_⟩, fun d notices' h => ?_⟩⟩
  · rintro ⟨d, notices', h⟩
    exact ⟨d.title, ((a.assemble_eq_ok_iff shortDigest).mp h).1⟩
  · rintro ⟨title, htitle⟩
    exact exists_assemble_of_title htitle state
  · refine ⟨hasOutline_of_assemble hlength h, fun hencodable => ?_⟩
    refine hasKeys_of_assemble (fun e he name hname => ?_) (fun e he name hname => ?_) h
    · obtain ⟨hgrammar, hcommand⟩ := mem_of_mem_entries he
      obtain ⟨s, hs, hentry⟩ := List.mem_flatMap.mp hcommand
      rw [hnames _ hgrammar]
      exact Grammar.has_iff_mem_names.mp (hnamed s hs _ hentry name hname)
    · rw [hnames _ (mem_of_mem_entries he).1] at hname
      exact hencodable name hname

/-- The catalogue of the form of sums. -/
def sumData : Data :=
  .table
    [("catalogue", .table [("name", .string "sums"), ("title", .string "Sums")]),
      ("symbols", .table
        [("total", .table [("alias", .string "<sum>")]),
          ("<sum>", .table
            [("productions", .array
              [.array [.string "<integer value>"],
                .array [.string "<sum>", .string "plus", .string "<sum>"]])]),
          ("digits", .table [("alias", .string "<positive integer value>")])]),
      ("sections", .array
        [.table
          [("title", .string "Totals"),
            ("commands", .array
              [.table
                [("name", .string "total"), ("repeat", .int (-1)),
                  ("dependents", .array [.string "digits"])]])]])]

/-- Two sums have a document with the outline of their layout; a size under a title that is a
number has none. -/
theorem exists_hasOutline_iff_twoSums :
    (Catalogue.ofData sumData none = .ok sumForm.catalogue ∧
      ∃ d notices, sumForm.assemble shortDigest twoSums = .ok (d, notices) ∧
        d.HasOutline 1000 sumForm.catalogue.sections ∧ d.hasKeys = true) ∧
    Catalogue.ofData (sizeData (.int 5)) none = .ok (sizeForm (.int 5)).catalogue ∧
      ¬∃ d notices, (sizeForm (.int 5)).assemble shortDigest [] = .ok (d, notices) := by
  constructor
  · have hdata : Catalogue.ofData sumData none = .ok sumForm.catalogue := rfl
    obtain ⟨a, _, hready, -, -, -, hstates⟩ := exists_hasOutline_iff hdata {}
    have hsums : ofCatalogue sumForm.catalogue {} = .ok (sumForm, []) := rfl
    cases hsums.symm.trans hready
    obtain ⟨htitle, houtline⟩ := hstates twoSums
    obtain ⟨d, notices, h⟩ := htitle.mpr ⟨"Sums", rfl⟩
    obtain ⟨hshape, hkeys⟩ := houtline d notices h
    exact ⟨hdata, d, notices, h, hshape, hkeys (by decide)⟩
  · obtain ⟨a, _, hready, -, -, -, hstates⟩ := exists_hasOutline_iff (ofData_sizeData (.int 5)) {}
    cases (ofCatalogue_sizeForm _).symm.trans hready
    refine ⟨ofData_sizeData _, fun hdocument => ?_⟩
    exact nomatch ((hstates []).1.mp hdocument).choose_spec

end Assembler

end GrammarForm
