import GrammarForm.Program.Run
import GrammarForm.Proofs.Completeness
import GrammarForm.Proofs.DefaultNotices
import GrammarForm.Proofs.ExtensionLaws
import GrammarForm.Proofs.NestingLimit

/-!
# Listed defaults

The listing of the commands of a catalogue shows the default that the grammar of the catalogue has
for each command.  The form finds the default of a command in the grammar of its section, and then
looks for it among the alternatives, or takes it as the text of a leaf.  Extensions of sections keep
defaults, so both find the same default, and the form starts from it if it suits the command: if it
is a text and the command has a kind of value, or if it is one of the alternatives of the command.

A default that does not suit a command is as good as none.  If it is an alternative, there was a
warning about it when the catalogue was loaded.  A command whose layout has another default than
the grammar is listed with that of the grammar, and starts from its own.

## Main definitions

* `Node.StartsFrom` : what a node shows at the beginning, as the label of the selected alternative
  or as the text of a field.
* `Grammar.Suits` : the defaults that a symbol can start from.
* `Console.Table.cell?` : a cell of a table by row and column.

## Main results

* `Renderer.startsFrom_renderLevels` : a symbol starts from a default that suits it.
* `Renderer.renderLevels_of_not_suits` : a default that does not suit a symbol is as good as none.
* `Program.startsFrom_of_listed` : the default that is listed for a command is the one that its form
  starts from.
-/

namespace GrammarForm

/-- The node starts from a text: it is a choice in which the alternative with this label is
selected, or a text field with this value. -/
def Node.StartsFrom (n : Node) (t : String) : Prop :=
  (∃ offers i tip off o, n.widget = some (.choice offers (some i) tip off) ∧
    offers[i]? = some o ∧ o.label = t) ∨
  ∃ kind valid, n.widget = some (.text t kind valid)

/-- A default suits a symbol: it is a text for a kind of value, or an alternative that the symbol
has. -/
def Grammar.Suits (g : Grammar) (symbol : String) : DefaultValue → Prop
  | .text _ => (ValueKind.ofPlaceholder? (g.startSymbol symbol)).isSome = true
  | .alternative names => names ∈ (g.alternatives (g.startSymbol symbol)).map (·.names)

instance (g : Grammar) (symbol : String) : DecidablePred (g.Suits symbol)
  | .text _ => inferInstanceAs (Decidable (_ = true))
  | .alternative _ => inferInstanceAs (Decidable (_ ∈ _))

/-- The cell of a table in a row, numbered from `0`, and in the column with a heading. -/
def Console.Table.cell? (t : Console.Table) (row : Nat) (column : String) : Option String :=
  t.rows[row]?.bind fun cells => (t.header.zip cells).lookup column

/-! ### Symbols and their defaults -/

namespace Renderer

variable (r : Renderer) {symbol : String} {path : Path} {showLabel : Bool}

/-- A symbol that has alternatives has no kind of value. -/
theorem ofPlaceholder?_eq_none_of_mem {p : Production} (hp : p ∈ r.options symbol) :
    ValueKind.ofPlaceholder? (r.grammar.startSymbol symbol) = none := by
  by_contra hleaf
  rw [options, Grammar.alternatives, if_pos (Option.isSome_iff_ne_none.mpr hleaf)] at hp
  exact absurd hp List.not_mem_nil

/-- **A symbol starts from a default that suits it**, where nothing was submitted and the node is
not cut off. -/
theorem startsFrom_renderLevels (levels : Nat) {v : DefaultValue}
    (hsuits : r.grammar.Suits symbol v) (hgiven : Program.defaultText (some v) ≠ "")
    (hstate : r.state.get? (r.key symbol path) = none) :
    (r.renderLevels (levels + 1) symbol path (some v) showLabel).1.StartsFrom
      (Program.defaultText (some v)) := by
  rw [renderLevels_succ]
  cases v with
  | text s =>
    obtain ⟨kind, hkind⟩ := Option.isSome_iff_exists.mp hsuits
    have htext : leafText kind (some (.text s)) (r.state.get? (r.key symbol path)) = s := by
      rw [hstate]
      exact if_neg hgiven
    rw [resolution_eq_leaf_iff.mpr hkind]
    refine Or.inr ⟨kind, kind.accepts s, ?_⟩
    change some (Widget.text (leafText kind (some (.text s)) _) kind (kind.accepts _)) = _
    rw [htext]
    rfl
  | alternative names =>
    obtain ⟨i, p, hchoose, hp, rfl⟩ := exists_choose_iff.mpr hsuits
    have hres : r.resolution symbol path (some (.alternative p.names)) = .selected i p := by
      refine resolution_eq_selected_iff.mpr
        ⟨r.ofPlaceholder?_eq_none_of_mem (List.mem_of_getElem? hp), ?_, hp⟩
      rw [selection, hstate]
      exact hchoose
    obtain ⟨o, ho, hlabel⟩ : ∃ o, (r.choiceOptions (r.grammar.startSymbol symbol)
        (r.options symbol) (some i))[i]? = some o ∧ o.label = joinedNames p.names := by
      rw [choiceOptions, List.getElem?_mapIdx, options, hp]
      exact ⟨_, rfl, rfl⟩
    rw [hres]
    exact Or.inl ⟨_, i, _, _, o, rfl, ho, hlabel⟩

/-- A default that does not suit a symbol leaves its choice as it is without a default. -/
theorem choose_of_not_suits {v : DefaultValue} (hsuits : ¬r.grammar.Suits symbol v)
    (submitted? : Option String) :
    choose (r.options symbol) (some v) submitted? = choose (r.options symbol) none submitted? := by
  cases submitted? with
  | some s => rfl
  | none =>
    cases v with
    | text s => rfl
    | alternative names =>
      have hfind : (r.options symbol).findIdx? (·.names == names) = none := by
        refine List.findIdx?_eq_none_iff.mpr fun p hp => ?_
        exact beq_eq_false_iff_ne.mpr fun h => hsuits (h ▸ List.mem_map_of_mem hp)
      simp only [choose, hfind]

/-- **A default that does not suit a symbol is as good as none.** -/
theorem renderLevels_of_not_suits (levels : Nat) {v : DefaultValue}
    (hsuits : ¬r.grammar.Suits symbol v) :
    r.renderLevels levels symbol path (some v) showLabel =
      r.renderLevels levels symbol path none showLabel := by
  cases levels with
  | zero => rfl
  | succ levels =>
    have hres : r.resolution symbol path (some v) = r.resolution symbol path none := by
      rw [resolution, resolution, selection, selection, r.choose_of_not_suits hsuits]
    rw [renderLevels_succ, renderLevels_succ, hres]
    cases hkind : r.resolution symbol path none with
    | leaf kind =>
      -- The default is an alternative: a text would suit a kind of value.
      cases v with
      | text s => exact absurd (by rw [Grammar.Suits, resolution_eq_leaf_iff.mp hkind]; rfl) hsuits
      | alternative names =>
        have htext (submitted? : Option String) : leafText kind (some (.alternative names))
            submitted? = leafText kind none submitted? := by
          cases submitted? <;> rfl
        simp only [leafNode, htext]
    | unknown => rfl
    | unresolved => rfl
    | selected i p => rfl

end Renderer

/-! ### Defaults in the sections of a layout -/

namespace Grammar

/-- Another grammar has the same start symbols and defaults, and at least the same alternatives. -/
structure KeepsDefaults (g g' : Grammar) : Prop where
  startSymbol_eq : ∀ name, g'.startSymbol name = g.startSymbol name
  defaultOf_eq : ∀ name, g'.defaultOf name = g.defaultOf name
  alternatives : ∀ name, ∀ names ∈ (g.alternatives name).map (·.names),
    names ∈ (g'.alternatives name).map (·.names)

theorem KeepsDefaults.refl (g : Grammar) : g.KeepsDefaults g :=
  ⟨fun _ => rfl, fun _ => rfl, fun _ _ h => h⟩

theorem KeepsDefaults.trans {g₁ g₂ g₃ : Grammar} (h : g₁.KeepsDefaults g₂)
    (h' : g₂.KeepsDefaults g₃) : g₁.KeepsDefaults g₃ where
  startSymbol_eq name := (h'.startSymbol_eq name).trans (h.startSymbol_eq name)
  defaultOf_eq name := (h'.defaultOf_eq name).trans (h.defaultOf_eq name)
  alternatives name names hnames := h'.alternatives name names (h.alternatives name names hnames)

theorem IsExtension.keepsDefaults {g g' : Grammar} {symbol : String}
    {productions : List (List String)} (h : g.IsExtension symbol productions g') :
    g.KeepsDefaults g' where
  startSymbol_eq := h.startSymbol_eq
  defaultOf_eq := h.defaultOf_eq
  alternatives _ _ hnames := h.mem_names_alternatives_iff.mpr (Or.inl hnames)

/-- What suits a symbol still suits it in a grammar with more alternatives. -/
theorem KeepsDefaults.suits {g g' : Grammar} (h : g.KeepsDefaults g') {symbol : String}
    {v : DefaultValue} (hsuits : g.Suits symbol v) : g'.Suits symbol v := by
  cases v with
  | text s => rwa [Suits, h.startSymbol_eq]
  | alternative names =>
    rw [Suits, h.startSymbol_eq]
    exact h.alternatives _ names hsuits

/-- There is a warning about a default that is an alternative and does not suit its symbol. -/
theorem exists_unmatchedDefault {g : Grammar} {symbol : String} {names : List String}
    (hdefault : g.defaultOf symbol = some (.alternative names))
    (hsuits : ¬g.Suits symbol (.alternative names)) :
    ∃ name, .unmatchedDefault names name ∈ g.notices := by
  obtain ⟨r, hr, hown, hstart⟩ := exists_record_of_defaultOf hdefault
  exact ⟨r.name, (mem_notices_iff hr hown).mpr (hstart.symm ▸ hsuits)⟩

end Grammar

/-- The grammars of the sections keep the defaults of the catalogue. -/
theorem Assembler.keepsDefaults_of_mem_entries {c : Catalogue} {options : FormOptions}
    {a : Assembler} {notices : List Notice} (ha : ofCatalogue c options = .ok (a, notices))
    {e : Grammar × LayoutCommand} (he : e ∈ a.entries) : c.grammar.KeepsDefaults e.1 := by
  obtain ⟨-, hgrammars⟩ := sectionGrammars_of_ofCatalogue ha
  have hpairwise := Catalogue.pairwise_of_overlay Grammar.KeepsDefaults.refl
    Grammar.KeepsDefaults.trans Grammar.IsExtension.keepsDefaults hgrammars
  exact (List.pairwise_cons.mp hpairwise).1 e.1 (mem_of_mem_entries he).1

/-! ### The listing -/

namespace Program

/-- The listing shows the defaults that the grammar of the catalogue has for the commands. -/
theorem cell?_commandsTable (c : Catalogue) (title : Option String) (k : Nat) :
    (commandsTable c title).cell? k "Default" =
      c.commands[k]?.map fun e => cellText (defaultText (c.grammar.defaultOf e.name)) := by
  have hentries : (c.sections.flatMap fun s => s.commands.map fun e => (s.title, e)).map Prod.snd =
      c.commands := by
    rw [Catalogue.commands, List.map_flatMap]
    refine List.flatMap_congr fun s _ => ?_
    rw [List.map_map]
    exact List.map_id _
  rw [← hentries, Console.Table.cell?, commandsTable, List.getElem?_mapIdx, List.getElem?_map,
    Option.map_map]
  cases (c.sections.flatMap fun s => s.commands.map fun e => (s.title, e))[k]? <;> rfl

/-- **The listing tells the default that a form starts from.**  Take an accepted catalogue and a
form of it, with any options, in which nothing was submitted.  Where a default is listed for a
single command, and the command has no other default of its own, it starts from exactly what is
listed if this suits the command, in the section where it stands.

Otherwise it starts as without a default.  If the default is an alternative, it was warned about;
if it is a text, the command has no kind of value.  A cell of the listing shows a text without its
control characters. -/
theorem startsFrom_of_listed {data : Data} {source : Option FilePath} {c : Catalogue}
    (hdata : Catalogue.ofData data source = .ok c) (options : FormOptions)
    (hdepth : 0 ≤ options.maxDepth) (digest : String → String) (listTitle : Option String) :
    ∃ a notices, Assembler.ofCatalogue c options = .ok (a, notices) ∧
      ((∃ title, a.title = .ok title) → ∃ d notices', a.assemble digest [] = .ok (d, notices')) ∧
      ∀ d notices', a.assemble digest [] = .ok (d, notices') →
        ∀ k entry shown, c.commands[k]? = some entry → entry.isRepeated = false →
          (∀ v, entry.defaultValue = some v → c.grammar.defaultOf entry.name = some v) →
          (commandsTable c listTitle).cell? k "Default" = some shown → shown ≠ "" →
          ∃ g v f, a.entries[k]? = some (g, entry) ∧ d.items[k]? = some (.command f) ∧
            c.grammar.defaultOf entry.name = some v ∧ cellText (defaultText (some v)) = shown ∧
            (g.Suits entry.name v → f.root.StartsFrom (defaultText (some v))) ∧
            (¬g.Suits entry.name v →
              f.root = (((a.context digest g []).renderer entry.name entry.inline).render
                entry.name [(k : Int) + 1] none 0 false).1 ∧
              ∀ names, v = .alternative names →
                ∃ name, .unmatchedDefault names name ∈ c.grammar.notices) := by
  obtain ⟨a, notices, ha, rfl, rfl, hlength, -⟩ :=
    Assembler.exists_ofCatalogue (Catalogue.layoutFault?_of_ofData hdata) options
  refine ⟨a, notices, ha, fun ⟨title, htitle⟩ => Assembler.exists_assemble_of_title htitle [],
    fun d notices' hd k entry shown hentry hsingle hown hshown hgiven => ?_⟩
  -- The command in the layout and the grammar of its section.
  obtain ⟨⟨g, entry'⟩, he, rfl⟩ : ∃ e, a.entries[k]? = some e ∧ e.2 = entry := by
    rw [← Assembler.map_snd_entries hlength, List.getElem?_map, Option.map_eq_some_iff] at hentry
    exact hentry
  have hkeeps := Assembler.keepsDefaults_of_mem_entries ha (List.mem_of_getElem? he)
  -- What is listed is a default of the grammar of the catalogue.
  rw [cell?_commandsTable, hentry, Option.map_some, Option.some.injEq] at hshown
  cases hv : a.catalogue.grammar.defaultOf entry'.name with
  | none =>
    rw [hv] at hshown
    exact absurd hshown.symm hgiven
  | some v =>
    rw [hv] at hshown
    have hstart : (a.context digest g []).entryDefault entry' = some v := by
      rw [RenderContext.entryDefault]
      split
      next w hw => rw [← hown w hw, hv]
      next => exact (hkeeps.defaultOf_eq _).trans hv
    have hitem : d.items[k]? = some (.command ((a.context digest g []).command entry'
        [(k : Int) + 1]).1) := by
      rw [Assembler.items_of_assemble hd, List.getElem?_mapIdx, he, Option.map_some,
        RenderContext.item_of_not_isRepeated _ (by rw [hsingle]; decide)]
    have htext : defaultText (some v) ≠ "" := fun hempty => hgiven (by rw [← hshown, hempty]; rfl)
    obtain ⟨levels, hlevels⟩ : ∃ levels, ((a.context digest g []).renderer entry'.name
        entry'.inline).levelsFrom 0 = levels + 1 :=
      Renderer.exists_levelsFrom _ hdepth
    refine ⟨g, v, _, he, hitem, rfl, hshown, fun hsuits => ?_, fun hsuits => ⟨?_, ?_⟩⟩
    · change ((a.context digest g []).tree entry' _).1.StartsFrom _
      rw [RenderContext.tree, hstart, Renderer.render, hlevels]
      exact Renderer.startsFrom_renderLevels _ levels hsuits htext rfl
    · change ((a.context digest g []).tree entry' _).1 = _
      rw [RenderContext.tree, hstart, Renderer.render, Renderer.render,
        Renderer.renderLevels_of_not_suits _ _ hsuits]
    · rintro names rfl
      exact Grammar.exists_unmatchedDefault hv fun h => hsuits (hkeeps.suits h)

/-- A catalogue in which some commands have a default.  The alternative that is the default of the
color does not exist, and the shape has a text although it is a choice. -/
def paintData : Data :=
  .table
    [("catalogue", .table [("title", .string "Paint")]),
      ("symbols", .table
        [("size", .table
            [("alias", .string "<integer value>"), ("default", .string "3")]),
          ("tool", .table
            [("alias", .string "<kind>"), ("default", .array [.string "wide", .string "brush"])]),
          ("<kind>", .table
            [("productions", .array
              [.array [.string "pen"], .array [.string "wide", .string "brush"]])]),
          ("color", .table
            [("productions", .array [.array [.string "red"], .array [.string "blue"]]),
              ("default", .array [.string "green"])]),
          ("shape", .table
            [("productions", .array [.array [.string "dot"], .array [.string "line"]]),
              ("default", .string "line")])]),
      ("sections", .array
        [.table
          [("title", .string "Main"),
            ("commands", .array
              [.table [("name", .string "size")], .table [("name", .string "tool")],
                .table [("name", .string "color")], .table [("name", .string "shape")]])]])]

/-- The form of this catalogue. -/
def paintForm : Assembler :=
  let records : List SymbolRecord :=
    [{ name := "size", aliasOf := some "<integer value>", defaultValue := some (.text "3") },
      { name := "tool", aliasOf := some "<kind>",
        defaultValue := some (.alternative ["wide", "brush"]) },
      { name := "<kind>", productions := [["pen"], ["wide", "brush"]] },
      { name := "color", productions := [["red"], ["blue"]],
        defaultValue := some (.alternative ["green"]) },
      { name := "shape", productions := [["dot"], ["line"]], defaultValue := some (.text "line") }]
  { catalogue :=
      { name := .string "catalogue"
        title := .string "Paint"
        description := .string ""
        grammar := ⟨records, by decide⟩
        sections :=
          [{ title := "Main"
             commands := [{ name := "size" }, { name := "tool" }, { name := "color" },
               { name := "shape" }] }]
        source := none }
    options := {}
    grammars := [⟨records, by decide⟩] }

theorem ofData_paintData : Catalogue.ofData paintData none = .ok paintForm.catalogue :=
  rfl

theorem ofCatalogue_paintForm :
    Assembler.ofCatalogue paintForm.catalogue {} = .ok (paintForm, []) :=
  rfl

/-- The tool starts from the alternative that is listed for it.  The color has no such alternative,
so there is a warning, and it starts without a default. -/
theorem startsFrom_of_listed_paint :
    Catalogue.ofData paintData none = .ok paintForm.catalogue ∧ (0 : Int) ≤ 64 ∧
    ∃ d notices, paintForm.assemble shortDigest [] = .ok (d, notices) ∧
      (∃ f, d.items[1]? = some (.command f) ∧
        (commandsTable paintForm.catalogue none).cell? 1 "Default" = some "wide brush" ∧
        f.root.StartsFrom "wide brush") ∧
      ∃ f, d.items[2]? = some (.command f) ∧
        (commandsTable paintForm.catalogue none).cell? 2 "Default" = some "green" ∧
        f.root.issue = some .unresolvedChoice ∧
        ∃ name, .unmatchedDefault ["green"] name ∈ paintForm.catalogue.grammar.notices := by
  obtain ⟨a, notices, ha, htitle, hstarts⟩ :=
    startsFrom_of_listed ofData_paintData {} (by decide) shortDigest none
  cases ofCatalogue_paintForm.symm.trans ha
  obtain ⟨d, notices', hd⟩ := htitle ⟨"Paint", rfl⟩
  refine ⟨ofData_paintData, by decide, d, notices', hd, ?_, ?_⟩
  · have hshown : (commandsTable paintForm.catalogue none).cell? 1 "Default" =
        some "wide brush" := by
      decide
    obtain ⟨g, v, f, he, hf, hv, -, hsuits, -⟩ :=
      hstarts d notices' hd 1 _ _ rfl rfl nofun hshown (by decide)
    cases he
    cases hv
    exact ⟨f, hf, hshown, hsuits (by decide)⟩
  · have hshown : (commandsTable paintForm.catalogue none).cell? 2 "Default" = some "green" := by
      decide
    obtain ⟨g, v, f, he, hf, hv, -, -, hnot⟩ :=
      hstarts d notices' hd 2 _ _ rfl rfl nofun hshown (by decide)
    cases he
    cases hv
    obtain ⟨hroot, hwarned⟩ := hnot (by decide)
    exact ⟨f, hf, hshown, hroot ▸ rfl, hwarned _ rfl⟩

/-- The defaults that are listed for the color and the shape are not what these start from. -/
theorem not_startsFrom_of_listed_paint :
    Catalogue.ofData paintData none = .ok paintForm.catalogue ∧
    Assembler.ofCatalogue paintForm.catalogue {} = .ok (paintForm, []) ∧
    ∃ d notices, paintForm.assemble shortDigest [] = .ok (d, notices) ∧
      ((commandsTable paintForm.catalogue none).cell? 2 "Default" = some "green" ∧
        ∃ f, d.items[2]? = some (.command f) ∧ f.name = "color" ∧
          ∀ t, cellText t = "green" → ¬f.root.StartsFrom t) ∧
      (commandsTable paintForm.catalogue none).cell? 3 "Default" = some "line" ∧
        ∃ f, d.items[3]? = some (.command f) ∧ f.name = "shape" ∧
          ∀ t, cellText t = "line" → ¬f.root.StartsFrom t := by
  have hopen {n : Node} {offers : List Offer} {tip : String} {off : Bool}
      (hwidget : n.widget = some (.choice offers none tip off)) (t : String) :
      ¬n.StartsFrom t := by
    rintro (⟨_, _, _, _, _, hchoice, -⟩ | ⟨_, _, htext⟩)
    · exact nomatch hwidget.symm.trans hchoice
    · exact nomatch hwidget.symm.trans htext
  exact ⟨ofData_paintData, ofCatalogue_paintForm, _, _, rfl,
    ⟨by decide, _, rfl, rfl, fun t _ => hopen rfl t⟩, by decide, _, rfl, rfl,
    fun t _ => hopen rfl t⟩

/-- A catalogue with a size whose default is another one in the layout than in the grammar. -/
def resizedData : Data :=
  .table
    [("catalogue", .table [("title", .string "Paint")]),
      ("symbols", .table
        [("size", .table
          [("alias", .string "<integer value>"), ("default", .string "3")])]),
      ("sections", .array
        [.table
          [("title", .string "Main"),
            ("commands", .array
              [.table [("name", .string "size"), ("default", .string "7")]])]])]

/-- The form of this catalogue. -/
def resizedForm : Assembler :=
  let records : List SymbolRecord :=
    [{ name := "size", aliasOf := some "<integer value>", defaultValue := some (.text "3") }]
  { catalogue :=
      { name := .string "catalogue"
        title := .string "Paint"
        description := .string ""
        grammar := ⟨records, by decide⟩
        sections :=
          [{ title := "Main"
             commands := [{ name := "size", defaultValue := some (.text "7") }] }]
        source := none }
    options := {}
    grammars := [⟨records, by decide⟩] }

/-- A command that has a default of its own does not start from the one that is listed for it. -/
theorem not_startsFrom_listed_of_own :
    Catalogue.ofData resizedData none = .ok resizedForm.catalogue ∧
    Assembler.ofCatalogue resizedForm.catalogue {} = .ok (resizedForm, []) ∧
    (commandsTable resizedForm.catalogue none).cell? 0 "Default" = some "3" ∧
    ∃ d notices f, resizedForm.assemble shortDigest [] = .ok (d, notices) ∧
      d.items[0]? = some (.command f) ∧ f.root.StartsFrom "7" ∧ ¬f.root.StartsFrom "3" := by
  refine ⟨rfl, rfl, by decide, _, _, _, rfl, rfl, .inr ⟨_, _, rfl⟩, ?_⟩
  rintro (⟨_, _, _, _, _, hchoice, -⟩ | ⟨_, _, htext⟩)
  · cases hchoice
  · exact absurd (Widget.text.inj (Option.some.inj htext)).1 (by decide)

end Program

end GrammarForm
