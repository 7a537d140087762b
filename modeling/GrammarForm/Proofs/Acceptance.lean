import GrammarForm.Proofs.AliasChains
import GrammarForm.Proofs.LayoutRules
import Mathlib.Data.List.Nodup

/-!
# Accepted catalogues

Once the symbols and sections of a catalogue have been read, only a handful of rules decide whether
it is accepted: aliases end, no symbol is its own alternative, everything the layout refers to has a
record, and no command stands twice in the layout.  The rules are exactly these.  A catalogue that
breaks one is refused with a fault it really has, at the symbol or in the section where this fault
lies.

## Main definitions

* `Catalogue.ReadsAs` : the records and sections that are read from the entries of a catalogue.
* `Catalogue.ObeysRules` : the rules for records and sections.
* `CatalogueError.HoldsOf` : an error names a rule that is broken, and where.

## Main results

* `Catalogue.map_name_of_readSymbols` : records have the names under which they stand.
* `Catalogue.ofData_table` : a catalogue is read step by step, and the first failure decides.
* `Catalogue.exists_ofData_iff_obeysRules` : a catalogue is accepted exactly if it obeys the rules.
-/

namespace GrammarForm

/-- An error names a rule that records and sections break, at the symbol or in the section where
they break it. -/
inductive CatalogueError.HoldsOf (source : Option FilePath) (records : List SymbolRecord)
    (sections : List LayoutSection) : CatalogueError → Prop
  /-- Aliases run into a cycle; no place is given. -/
  | aliasCycle {names : List String} (h : (GrammarError.aliasCycle names).HoldsOf records) :
      HoldsOf source records sections ⟨{}, .grammar (.aliasCycle names)⟩
  /-- A symbol is its own alternative. -/
  | selfProduction {r : SymbolRecord} (hr : r ∈ records) (hself : [r.name] ∈ r.productions) :
      HoldsOf source records sections ⟨{ file := source, symbol := some r.name }, .selfProduction⟩
  /-- A section extends a symbol without a record. -/
  | unknownExtension {s : LayoutSection} {e : String × List (List String)} (hs : s ∈ sections)
      (he : e ∈ s.extensions) (hnot : e.1 ∉ records.map (·.name)) :
      HoldsOf source records sections
        ⟨{ file := source, table := some s.title }, .unknownExtension e.1⟩
  /-- A section has a command or a dependent without a record. -/
  | unknownCommand {s : LayoutSection} {e : LayoutCommand} {name : String} (hs : s ∈ sections)
      (he : e ∈ s.commands) (hname : name ∈ e.name :: e.dependents)
      (hnot : name ∉ records.map (·.name)) :
      HoldsOf source records sections
        ⟨{ file := source, table := some s.title }, .unknownCommand name⟩
  /-- A section has a command that stands in an earlier section or further up in it. -/
  | repeatedCommand {before after : List LayoutSection} {s : LayoutSection}
      {above below : List LayoutCommand} {e : LayoutCommand}
      (hsections : sections = before ++ s :: after) (hcommands : s.commands = above ++ e :: below)
      (he : e.name ∈ (before.flatMap (·.commands) ++ above).map (·.name)) :
      HoldsOf source records sections
        ⟨{ file := source, table := some s.title }, .repeatedCommand e.name⟩

namespace Catalogue

/-- The rules for records and sections. -/
structure ObeysRules (records : List SymbolRecord) (sections : List LayoutSection) : Prop where
  /-- The aliases of every record end. -/
  aliases_end : ∀ r ∈ records, ¬NeverEnds records r.name
  /-- No symbol is its own alternative. -/
  notMem_productions : ∀ r ∈ records, [r.name] ∉ r.productions
  /-- The symbols that are extended have records. -/
  mem_of_extensions : ∀ s ∈ sections, ∀ e ∈ s.extensions, e.1 ∈ records.map (·.name)
  /-- The commands and their dependents have records. -/
  mem_of_commands : ∀ s ∈ sections, ∀ e ∈ s.commands, ∀ name ∈ e.name :: e.dependents,
    name ∈ records.map (·.name)
  /-- No command stands twice in the sections together. -/
  nodup_commands : ((sections.flatMap (·.commands)).map (·.name)).Nodup

/-- The entry for the symbols of a catalogue. -/
def symbolsIn (entries : Entries Data) : Data :=
  (entries.get? "symbols").getD (.table [])

/-- The entry for the descriptive data of a catalogue. -/
def infoIn (entries : Entries Data) : Data :=
  (entries.get? "catalogue").getD (.table [])

/-- The entry for the sections of a catalogue. -/
def sectionsIn (entries : Entries Data) : Data :=
  (entries.get? "sections").getD (.array [])

/-- The symbols and sections among the entries of a catalogue have no faulty fields: they are read
as these records and sections.  No symbol stands there twice, and the descriptive data are a
table. -/
structure ReadsAs (source : Option FilePath) (entries : Entries Data)
    (records : List SymbolRecord) (sections : List LayoutSection) : Prop where
  nodup_symbols : ∀ symbols, symbolsIn entries = .table symbols → (symbols.map Prod.fst).Nodup
  readSymbols_eq : readSymbols source (symbolsIn entries) = .ok records
  exists_info : ∃ info, infoIn entries = .table info
  readSections_eq : readSections source (sectionsIn entries) = .ok sections

/-! ### Names of records -/

theorem required_name_of_ofEntries {entries : Entries Data} {r : SymbolRecord}
    (h : SymbolRecord.ofEntries entries = .ok r) :
    Field.required entries "name" Field.text = .ok r.name := by
  rw [SymbolRecord.ofEntries] at h
  split at h
  next hname _ _ _ _ _ _ _ =>
    cases h
    exact hname
  next => exact nomatch h

/-- A record has the name under which it stands. -/
theorem name_of_readSymbol {source : Option FilePath} {name : String} {body : Data}
    {r : SymbolRecord} (h : readSymbol source name body = .ok r) : r.name = name := by
  cases body with
  | table entries =>
    rw [readSymbol] at h
    split at h
    next => exact nomatch h
    next =>
      split at h
      next hr =>
        cases h
        exact (Except.ok.inj (required_name_of_ofEntries hr)).symm
      next => exact nomatch h
  | null | bool | int | float | string | moment | array => exact nomatch h

theorem map_eq_map_of_mapM {α β γ ε : Type} {f : α → Except ε β} {key : α → γ} {key' : β → γ}
    (hf : ∀ a b, f a = .ok b → key' b = key a) {l : List α} : ∀ {l' : List β},
      l.mapM f = .ok l' → l'.map key' = l.map key := by
  induction l with
  | nil =>
    intro l' h
    cases h
    rfl
  | cons a rest ih =>
    intro l' h
    rw [List.mapM_cons] at h
    cases ha : f a with
    | error e => rw [ha] at h; exact nomatch h
    | ok b =>
      cases hrest : rest.mapM f with
      | error e => rw [ha, hrest] at h; exact nomatch h
      | ok bs =>
        rw [ha, hrest] at h
        cases h
        rw [List.map_cons, List.map_cons, hf a b ha, ih hrest]

/-- **Records have the names under which they stand.** -/
theorem map_name_of_readSymbols {source : Option FilePath} {symbols : Entries Data}
    {records : List SymbolRecord} (h : readSymbols source (.table symbols) = .ok records) :
    records.map (·.name) = symbols.map Prod.fst :=
  map_eq_map_of_mapM (fun _ _ => name_of_readSymbol) h

/-! ### Reading step by step -/

/-- A catalogue with the descriptive data of a table. -/
def described (source : Option FilePath) (info : Entries Data) (g : Grammar)
    (sections : List LayoutSection) : Catalogue :=
  { name := infoValue info "name" (nameFor source)
    title := infoValue info "title" ""
    description := infoValue info "description" ""
    grammar := g
    sections
    source }

/-- A catalogue with a given grammar: first the descriptive data, then the sections, and then the
rules between layout and grammar. -/
theorem withGrammar_table (source : Option FilePath) (entries : Entries Data) (g : Grammar) :
    withGrammar g (.table entries) source =
      match infoIn entries with
      | .table info =>
        match readSections source (sectionsIn entries) with
        | .error e => .error e
        | .ok sections => checked (described source info g sections)
      | _ => .error .tableExpected := by
  have hinfo : ((Data.table entries).get? "catalogue").getD (.table []) = infoIn entries := rfl
  have hsections : ((Data.table entries).get? "sections").getD (.array []) = sectionsIn entries :=
    rfl
  rw [withGrammar, hinfo, hsections]
  cases infoIn entries with
  | table info => cases readSections source (sectionsIn entries) <;> rfl
  | null | bool | int | float | string | moment | array => rfl

/-- **How a catalogue is read**: its symbols and the grammar of their records, and then the rest.
The first step that fails decides. -/
theorem ofData_table (source : Option FilePath) (entries : Entries Data) :
    ofData (.table entries) source =
      match readSymbols source (symbolsIn entries) with
      | .error e => .error e
      | .ok records =>
        match Grammar.ofRecords records with
        | .error e => .error (.catalogue ⟨{}, .grammar e⟩)
        | .ok g => withGrammar g (.table entries) source := by
  change (readSymbols source (symbolsIn entries) >>= readGrammar >>= fun g =>
    withGrammar g (.table entries) source) = _
  cases readSymbols source (symbolsIn entries) with
  | error e => rfl
  | ok records =>
    dsimp only
    change (readGrammar records >>= fun g => withGrammar g (.table entries) source) = _
    rw [readGrammar]
    cases Grammar.ofRecords records <;> rfl

section Reading

variable {source : Option FilePath} {entries : Entries Data} {records : List SymbolRecord}
  {sections : List LayoutSection}

/-- The rules are checked once the symbols and sections have been read. -/
theorem ReadsAs.exists_ofData_eq (h : ReadsAs source entries records sections) :
    ∃ info, ofData (.table entries) source =
      match Grammar.ofRecords records with
      | .error e => .error (.catalogue ⟨{}, .grammar e⟩)
      | .ok g => checked (described source info g sections) := by
  obtain ⟨info, hinfo⟩ := h.exists_info
  refine ⟨info, ?_⟩
  simp only [ofData_table, h.readSymbols_eq, withGrammar_table, hinfo, h.readSections_eq]

theorem ReadsAs.nodup_names (h : ReadsAs source entries records sections) :
    (records.map (·.name)).Nodup := by
  have hrecords := h.readSymbols_eq
  cases hsymbols : symbolsIn entries with
  | table symbols =>
    rw [hsymbols] at hrecords
    rw [map_name_of_readSymbols hrecords]
    exact h.nodup_symbols symbols hsymbols
  | null | bool | int | float | string | moment | array =>
    rw [hsymbols] at hrecords
    exact nomatch hrecords

/-- Records without endless aliases obey the rules exactly if the layout has no fault. -/
theorem obeysRules_iff (source : Option FilePath) {g : Grammar} :
    ObeysRules g.records sections ↔ layoutFault? source g sections = none := by
  have hhas (name : String) : g.has name = true ↔ name ∈ g.records.map (·.name) :=
    Grammar.has_iff_mem_names
  have hends := (recordsFault?_eq_none_iff_forall_not_neverEnds.mp g.faultless).2
  rw [layoutFault?_eq_none_iff, selfProduction?_eq_none_iff, sectionsFault?_eq_none_iff,
    commandsFault?_eq_none_iff]
  simp only [hhas]
  constructor
  · intro h
    refine ⟨h.notMem_productions, h.mem_of_extensions, fun e he => ?_, h.nodup_commands,
      fun _ _ => List.not_mem_nil⟩
    obtain ⟨s, hs, he⟩ := List.mem_flatMap.mp he
    exact h.mem_of_commands s hs e he
  · rintro ⟨hself, hextensions, hcommands, hnodup, -⟩
    exact ⟨hends, hself, hextensions, fun s hs e he =>
      hcommands e (List.mem_flatMap.mpr ⟨s, hs, he⟩), hnodup⟩

/-- **The fault of a layout** is a rule that is broken, and it is reported where it lies. -/
theorem holdsOf_of_layoutFault? {g : Grammar} {e : CatalogueError}
    (h : layoutFault? source g sections = some e) : e.HoldsOf source g.records sections := by
  rw [layoutFault?] at h
  split at h
  next name hself =>
    cases h
    obtain ⟨r, hr, hmem, rfl⟩ := exists_of_selfProduction? hself
    exact .selfProduction hr hmem
  next =>
    obtain ⟨⟨title, fault⟩, hfault, rfl⟩ := Option.map_eq_some_iff.mp h
    have hmet (name : String) : name ∈ ([] : List String) ↔
        name ∈ (([] : List LayoutSection).flatMap (·.commands)).map (·.name) := Iff.rfl
    cases isLayoutFault_of_sectionsFault? hmet hfault with
    | unknownExtension hs he hnot => exact .unknownExtension hs he hnot
    | unknownCommand hs he hname hnot => exact .unknownCommand hs he hname hnot
    | repeatedCommand hsections hcommands he => exact .repeatedCommand hsections hcommands he

/-- **Which catalogues are accepted.** Data whose symbols and sections have no faulty fields are
accepted exactly if they obey the rules.  Otherwise they are refused with an error that names a rule
they break, at the symbol or in the section where they break it. -/
theorem exists_ofData_iff_obeysRules (h : ReadsAs source entries records sections) :
    ((∃ c, ofData (.table entries) source = .ok c) ↔ ObeysRules records sections) ∧
      (¬ObeysRules records sections → ∃ e,
        ofData (.table entries) source = .error (.catalogue e) ∧
          e.HoldsOf source records sections) := by
  obtain ⟨info, hread⟩ := h.exists_ofData_eq
  cases hg : Grammar.ofRecords records with
  | error e =>
    rw [hg] at hread
    have hholds := holdsOf_of_recordsFault? (Grammar.ofRecords_eq_error_iff.mp hg)
    cases e with
    | definedTwice name =>
      -- The symbols of a table have different names.
      have hcount := List.nodup_iff_count_le_one.mp h.nodup_names name
      exact absurd hholds (Nat.not_lt.mpr hcount)
    | aliasCycle names =>
      obtain ⟨before, r, after, hrecords, -, hnever, -⟩ := id hholds
      have hr : r ∈ records := by simp [hrecords]
      have hbroken : ¬ObeysRules records sections := fun hrules => hrules.aliases_end r hr hnever
      refine ⟨iff_of_false ?_ hbroken, fun _ => ⟨_, hread, .aliasCycle hholds⟩⟩
      rintro ⟨c, hc⟩
      exact nomatch hread.symm.trans hc
  | ok g =>
    cases Grammar.ofRecords_eq_ok_iff.mp hg
    rw [hg] at hread
    rw [obeysRules_iff source]
    cases hfault : layoutFault? source g sections with
    | none =>
      have hc : ofData (.table entries) source = .ok (described source info g sections) :=
        hread.trans (checked_eq_ok hfault)
      exact ⟨iff_of_true ⟨_, hc⟩ rfl, fun h => absurd rfl h⟩
    | some e =>
      have he : ofData (.table entries) source = .error (.catalogue e) :=
        hread.trans (checked_eq_error hfault)
      refine ⟨iff_of_false ?_ nofun, fun _ => ⟨e, he, holdsOf_of_layoutFault? hfault⟩⟩
      rintro ⟨c, hc⟩
      exact nomatch he.symm.trans hc

end Reading

/-- Two symbols, a section that uses both, and a section with one more command. -/
def depthEntries (command : String) : Entries Data :=
  [("symbols", .table
      [("size", .table [("alias", .string "<integer value>")]),
        ("depth", .table [("alias", .string "size")])]),
    ("sections", .array
      [.table
        [("title", .string "Main"),
          ("commands", .array
            [.table
              [("name", .string "size"), ("repeat", .int 2),
                ("dependents", .array [.string "depth", .string "depth"])]])],
        .table
          [("title", .string "More"),
            ("commands", .array [.table [("name", .string command)]])]])]

/-- The records of these entries. -/
def depthRecords : List SymbolRecord :=
  [{ name := "size", aliasOf := some "<integer value>" },
    { name := "depth", aliasOf := some "size" }]

/-- The sections of these entries. -/
def depthSections (command : String) : List LayoutSection :=
  [{ title := "Main",
     commands := [{ name := "size", repeatLimit := some 2, dependents := ["depth", "depth"] }] },
    { title := "More", commands := [{ name := command }] }]

theorem readsAs_depthEntries (command : String) :
    ReadsAs none (depthEntries command) depthRecords (depthSections command) where
  nodup_symbols symbols h := by
    cases h
    decide
  readSymbols_eq := rfl
  exists_info := ⟨[], rfl⟩
  readSections_eq := rfl

theorem exists_ofData_iff_obeysRules_depth :
    ReadsAs none (depthEntries "depth") depthRecords (depthSections "depth") ∧
      ObeysRules depthRecords (depthSections "depth") ∧
    ReadsAs none (depthEntries "size") depthRecords (depthSections "size") ∧
      ¬ObeysRules depthRecords (depthSections "size") ∧
      ofData (.table (depthEntries "size")) none =
        .error (.catalogue ⟨{ table := some "More" }, .repeatedCommand "size"⟩) ∧
      (CatalogueError.mk { table := some "More" } (.repeatedCommand "size")).HoldsOf none
        depthRecords (depthSections "size") := by
  obtain ⟨haccepted, -⟩ := exists_ofData_iff_obeysRules (readsAs_depthEntries "depth")
  obtain ⟨-, hrefused⟩ := exists_ofData_iff_obeysRules (readsAs_depthEntries "size")
  have hbroken : ¬ObeysRules depthRecords (depthSections "size") := fun h =>
    absurd h.nodup_commands (by decide)
  have herror : ofData (.table (depthEntries "size")) none =
    .error (.catalogue ⟨{ table := some "More" }, .repeatedCommand "size"⟩) := rfl
  obtain ⟨e, he, hholds⟩ := hrefused hbroken
  cases herror.symm.trans he
  exact ⟨readsAs_depthEntries _, haccepted.mp ⟨_, rfl⟩, readsAs_depthEntries _, hbroken, herror,
    hholds⟩

end Catalogue

end GrammarForm
