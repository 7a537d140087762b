import GrammarForm.Form.Document
import GrammarForm.Proofs.LayoutRules

/-!
# Grammars of sections

A catalogue that is accepted can always be made ready: every extension of a grammar is a grammar
again, so that no section is left without one.  A section of an accepted catalogue extends only
symbols that have a record, so all these grammars have the same names.

## Main results

* `Catalogue.exists_overlay` : every section has a grammar.
* `Catalogue.layoutFault?_of_ofData` : an accepted catalogue obeys the rules for layouts.
* `Assembler.exists_ofCatalogue` : a catalogue that obeys the rules can be made ready.
-/

namespace GrammarForm

/-! ### Extensions of sections -/

namespace Catalogue

theorem exists_extendAll {extensions : Entries (List (List String))} :
    ∀ {g : Grammar}, (∀ e ∈ extensions, g.has e.1 = true) →
      ∃ g' notices, extendAll g extensions = .ok (g', notices) ∧ g'.names = g.names := by
  induction extensions with
  | nil => exact fun {g} _ => ⟨g, [], rfl, rfl⟩
  | cons e rest ih =>
    intro g h
    obtain ⟨hhead, hrest⟩ := List.forall_mem_cons.mp h
    obtain ⟨g₁, hg₁, hextension⟩ := g.exists_extend e.1 e.2
    have hnames₁ := hextension.names_eq hhead
    obtain ⟨g', notices, hg', hnames⟩ := ih fun e' he' =>
      Grammar.has_iff_mem_names.mpr (hnames₁ ▸ Grammar.has_iff_mem_names.mp (hrest e' he'))
    refine ⟨g', g₁.notices ++ notices, ?_, hnames.trans hnames₁⟩
    rw [extendAll]
    simp only [hg₁, hg', bind, Except.bind]

/-- Sections that extend only symbols with a record have a grammar each, with the same names. -/
theorem exists_overlay {sections : List LayoutSection} :
    ∀ {g : Grammar}, (∀ s ∈ sections, ∀ e ∈ s.extensions, g.has e.1 = true) →
      ∃ grammars notices, overlay g sections = .ok (grammars, notices) ∧
        grammars.length = sections.length ∧ ∀ g' ∈ grammars, g'.names = g.names := by
  induction sections with
  | nil => exact fun _ => ⟨[], [], rfl, rfl, nofun⟩
  | cons s rest ih =>
    intro g h
    obtain ⟨hhead, hrest⟩ := List.forall_mem_cons.mp h
    obtain ⟨current, before, hcurrent, hnames⟩ := exists_extendAll hhead
    obtain ⟨grammars, after, hgrammars, hlength, hall⟩ := ih fun s' hs' e he =>
      Grammar.has_iff_mem_names.mpr (hnames ▸ Grammar.has_iff_mem_names.mp (hrest s' hs' e he))
    refine ⟨current :: grammars, before ++ after, ?_, congrArg (· + 1) hlength,
      List.forall_mem_cons.mpr ⟨hnames, fun g' hg' => (hall g' hg').trans hnames⟩⟩
    rw [overlay]
    simp only [hcurrent, hgrammars, bind, Except.bind]

/-- The first extension of a section is made, and the others start from its result. -/
theorem exists_of_extendAll_cons {g g' : Grammar} {e : String × List (List String)}
    {rest : Entries (List (List String))} {notices : List Notice}
    (h : extendAll g (e :: rest) = .ok (g', notices)) :
    ∃ g₁ after, g.IsExtension e.1 e.2 g₁ ∧ extendAll g₁ rest = .ok (g', after) := by
  obtain ⟨g₁, hg₁, hextension⟩ := g.exists_extend e.1 e.2
  simp only [extendAll, hg₁, bind, Except.bind] at h
  cases hrest : extendAll g₁ rest with
  | error error => rw [hrest] at h; cases h
  | ok result =>
    rw [hrest] at h
    cases h
    exact ⟨g₁, result.2, hextension, hrest⟩

/-- The first section extends the grammar, and the later ones start from its result. -/
theorem exists_of_overlay_cons {g : Grammar} {s : LayoutSection} {rest : List LayoutSection}
    {grammars : List Grammar} {notices : List Notice}
    (h : overlay g (s :: rest) = .ok (grammars, notices)) :
    ∃ current before later after, extendAll g s.extensions = .ok (current, before) ∧
      overlay current rest = .ok (later, after) ∧ grammars = current :: later := by
  rw [overlay] at h
  cases hcurrent : extendAll g s.extensions with
  | error error => rw [hcurrent] at h; cases h
  | ok current =>
    simp only [hcurrent, bind, Except.bind] at h
    cases hrest : overlay current.1 rest with
    | error error => rw [hrest] at h; cases h
    | ok later =>
      rw [hrest] at h
      cases h
      exact ⟨current.1, current.2, later.1, later.2, rfl, hrest, rfl⟩

/-- A section without extensions keeps the grammar. -/
theorem overlay_cons_of_extensions_eq_nil {g : Grammar} {s : LayoutSection}
    (hs : s.extensions = []) (rest : List LayoutSection) :
    overlay g (s :: rest) = (overlay g rest).map fun q => (g :: q.1, q.2) := by
  rw [overlay, hs]
  rfl

/-- A section with a single extension has the extended grammar, and so have all later ones. -/
theorem overlay_cons_of_extend {g g' : Grammar} {symbol : String}
    {productions : List (List String)} (h : g.extend symbol productions = .ok g')
    {s : LayoutSection} (hs : s.extensions = [(symbol, productions)]) (rest : List LayoutSection) :
    overlay g (s :: rest) = (overlay g' rest).map fun q => (g' :: q.1, g'.notices ++ q.2) := by
  rw [overlay, hs]
  simp only [extendAll, h, bind, Except.bind, List.append_nil]
  cases overlay g' rest <;> rfl

/-! ### Accepted catalogues -/

theorem readGrammar_eq_ok {records : List SymbolRecord} (h : recordsFault? records = none) :
    readGrammar records = .ok ⟨records, h⟩ := by
  rw [readGrammar, Grammar.ofRecords_eq_ok h]

theorem layoutFault?_of_checked {c c' : Catalogue} (h : checked c' = .ok c) :
    layoutFault? c.source c.grammar c.sections = none := by
  rw [checked] at h
  split at h
  next => cases h
  next hfault =>
    cases h
    exact hfault

/-- The layout of an accepted catalogue obeys the rules. -/
theorem layoutFault?_of_ofData {data : Data} {source : Option FilePath} {c : Catalogue}
    (h : ofData data source = .ok c) : layoutFault? c.source c.grammar c.sections = none := by
  rw [ofData] at h
  cases hgrammar : readDataGrammar data source with
  | error e => rw [hgrammar] at h; exact nomatch h
  | ok g =>
    rw [hgrammar] at h
    change withGrammar g data source = .ok c at h
    rw [withGrammar] at h
    split at h
    next info _ =>
      cases hsections : readSections source ((data.get? "sections").getD (.array [])) with
      | error e => rw [hsections] at h; exact nomatch h
      | ok sections =>
        rw [hsections] at h
        exact layoutFault?_of_checked h
    next => exact nomatch h

end Catalogue

theorem Assembler.ofCatalogue_eq_ok {a : Assembler} {notices : List Notice}
    (h : a.catalogue.sectionGrammars = .ok (a.grammars, notices)) :
    ofCatalogue a.catalogue a.options = .ok (a, notices) := by
  rw [ofCatalogue, h]

theorem Assembler.sectionGrammars_of_ofCatalogue {c : Catalogue} {a : Assembler}
    {options : FormOptions} {notices : List Notice} (h : ofCatalogue c options = .ok (a, notices)) :
    a.catalogue = c ∧ c.sectionGrammars = .ok (a.grammars, notices) := by
  rw [ofCatalogue] at h
  split at h
  next grammars notices' hgrammars =>
    cases h
    exact ⟨rfl, hgrammars⟩
  next => cases h

theorem Assembler.options_of_ofCatalogue {c : Catalogue} {a : Assembler}
    {options : FormOptions} {notices : List Notice}
    (h : ofCatalogue c options = .ok (a, notices)) : a.options = options := by
  rw [ofCatalogue] at h
  split at h
  next =>
    cases h
    rfl
  next => cases h

/-- **A catalogue that obeys the rules can be made ready**, with a grammar for each section, which
has the names of the catalogue. -/
theorem Assembler.exists_ofCatalogue {c : Catalogue}
    (h : Catalogue.layoutFault? c.source c.grammar c.sections = none) (options : FormOptions) :
    ∃ a notices, ofCatalogue c options = .ok (a, notices) ∧ a.catalogue = c ∧
      a.options = options ∧ a.grammars.length = c.sections.length ∧
      ∀ g ∈ a.grammars, g.names = c.grammar.names := by
  obtain ⟨grammars, notices, hoverlay, hlength, hnames⟩ := Catalogue.exists_overlay
    (Catalogue.has_of_sectionsFault? (Catalogue.layoutFault?_eq_none_iff.mp h).2)
  let a : Assembler := ⟨c, options, grammars⟩
  have hgrammars : a.catalogue.sectionGrammars = .ok (a.grammars, notices) := hoverlay
  exact ⟨a, notices, ofCatalogue_eq_ok hgrammars, rfl, rfl, hlength, hnames⟩

end GrammarForm
