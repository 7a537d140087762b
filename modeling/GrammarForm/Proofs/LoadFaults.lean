import GrammarForm.Proofs.Acceptance
import GrammarForm.Proofs.Course
import GrammarForm.Proofs.EscapedMarkup
import GrammarForm.Proofs.StateFile

/-!
# Catalogues that are not read to the end

A catalogue that is structurally wrong should be refused with a catalogue error, which the commands
report before they end with status 1.  Reading keeps to this except in five places: the symbols, the
descriptive data and the sections are taken to be tables and a list without a look, a name inside
the table of a symbol clashes with the name of the symbol, and the title of a faulty section is
written even if this is not possible.  There reading breaks off, and a command has no answer for it.

## Main definitions

* `Catalogue.Escapes` : reading breaks off in one of these places.
* `Program.IsRefusal` : the messages about a catalogue error.

## Main results

* `Catalogue.escapes_iff` : reading breaks off in these places and nowhere else.
* `Program.exists_outcome_refusal` : a catalogue error is always reported.
* `Program.outcome_commandCatalogue_of_table` : what becomes of any file that is decoded.
-/

namespace GrammarForm

/-- The fault of a text that cannot be shown, as a reason why no catalogue is read. -/
def LoadError.ofTextFault : Data.TextFault → LoadError
  | .numberTooLong => .numberTooLong
  | .tooDeep => .tooDeep

theorem LoadError.ofTextFault_ne (fault : Data.TextFault) (e : CatalogueError) :
    ofTextFault fault ≠ .catalogue e := by
  cases fault <;> exact nofun

section Except

variable {α β ε : Type} {e : ε}

/-- Two steps fail if one of them does. -/
theorem bind_eq_error_iff {x : Except ε α} {f : α → Except ε β} :
    x >>= f = .error e ↔ x = .error e ∨ ∃ a, x = .ok a ∧ f a = .error e := by
  cases x with
  | error e' =>
    change Except.error e' = .error e ↔ _
    simp
  | ok a =>
    change f a = .error e ↔ _
    simp

/-- A list is not mapped because of the first item that fails. -/
theorem mapM_eq_error_iff {f : α → Except ε β} {l : List α} :
    l.mapM f = .error e ↔ ∃ (i : Nat) (a : α), l[i]? = some a ∧ f a = .error e ∧
      ∀ (j : Nat) (b : α), j < i → l[j]? = some b → ∃ x, f b = .ok x := by
  induction l with
  | nil => exact iff_of_false nofun fun ⟨i, a, h, _⟩ => nomatch h
  | cons a rest ih =>
    rw [List.mapM_cons, bind_eq_error_iff]
    constructor
    · rintro (ha | ⟨x, ha, hrest⟩)
      · exact ⟨0, a, rfl, ha, fun j b hj => absurd hj (Nat.not_lt_zero j)⟩
      · rcases bind_eq_error_iff.mp hrest with hrest | ⟨xs, -, hpure⟩
        · obtain ⟨i, b, hi, hb, hbefore⟩ := ih.mp hrest
          refine ⟨i + 1, b, hi, hb, fun j c hj hc => ?_⟩
          cases j with
          | zero => exact ⟨x, Option.some.inj hc ▸ ha⟩
          | succ j => exact hbefore j c (Nat.lt_of_succ_lt_succ hj) hc
        · exact nomatch hpure
    · rintro ⟨i, b, hi, hb, hbefore⟩
      cases i with
      | zero => exact .inl (Option.some.inj hi ▸ hb)
      | succ i =>
        obtain ⟨x, hx⟩ := hbefore 0 a (Nat.succ_pos i) rfl
        refine .inr ⟨x, hx, bind_eq_error_iff.mpr (.inl (ih.mpr ⟨i, b, hi, hb, ?_⟩))⟩
        exact fun j c hj => hbefore (j + 1) c (Nat.succ_lt_succ hj)

end Except

namespace Catalogue

/-- Reading the entries of a catalogue breaks off for another reason than a catalogue error. -/
inductive Escapes (source : Option FilePath) (entries : Entries Data) : LoadError → Prop
  /-- The symbols are no table. -/
  | symbols (hsymbols : ∀ symbols, symbolsIn entries ≠ .table symbols) :
      Escapes source entries .tableExpected
  /-- The table of a symbol has a name, and the symbols before it are read. -/
  | name {symbols body : Entries Data} {i : Nat} {name : String}
      (hsymbols : symbolsIn entries = .table symbols) (hi : symbols[i]? = some (name, .table body))
      (hname : body.has "name" = true)
      (hbefore : ∀ j p, j < i → symbols[j]? = some p → ∃ r, readSymbol source p.1 p.2 = .ok r) :
      Escapes source entries .nameGiven
  /-- The descriptive data are no table, and the symbols make a grammar. -/
  | info {g : Grammar} (hg : readDataGrammar (.table entries) source = .ok g)
      (hinfo : ∀ info, infoIn entries ≠ .table info) : Escapes source entries .tableExpected
  /-- The sections are neither a list nor a table or a text, and all before them is in order. -/
  | sections {g : Grammar} {info : Entries Data}
      (hg : readDataGrammar (.table entries) source = .ok g) (hinfo : infoIn entries = .table info)
      (hsections : ∀ bodies, sectionBodies (sectionsIn entries) ≠ .ok bodies) :
      Escapes source entries .listExpected
  /-- A section is faulty and its title cannot be shown, and all before it is in order. -/
  | title {g : Grammar} {info : Entries Data} {bodies : List Data} {i : Nat} {body : Data}
      {issues : List FieldIssue} {fault : Data.TextFault}
      (hg : readDataGrammar (.table entries) source = .ok g) (hinfo : infoIn entries = .table info)
      (hbodies : sectionBodies (sectionsIn entries) = .ok bodies) (hi : bodies[i]? = some body)
      (hbody : LayoutSection.ofData body = .error issues)
      (hfault : headingFault? body = some fault)
      (hbefore : ∀ j b, j < i → bodies[j]? = some b → ∃ s, LayoutSection.ofData b = .ok s) :
      Escapes source entries (.ofTextFault fault)

theorem readSection_eq_ok_iff {source : Option FilePath} {number : Nat} {body : Data}
    {s : LayoutSection} :
    readSection source number body = .ok s ↔ LayoutSection.ofData body = .ok s := by
  rw [readSection]
  split
  next h => simp only [h, Except.ok.injEq]
  next h =>
    rw [h]
    refine iff_of_false ?_ nofun
    split <;> exact nofun

theorem sectionBodies_eq_error_iff {d : Data} {e : LoadError} :
    sectionBodies d = .error e ↔ e = .listExpected ∧ ∀ bodies, sectionBodies d ≠ .ok bodies := by
  cases d with
  | array | table | string =>
    exact iff_of_false nofun fun h => h.2 _ rfl
  | null | bool | int | float | moment =>
    exact ⟨fun h => ⟨(Except.error.inj h).symm, nofun⟩, fun h => congrArg Except.error h.1.symm⟩

section Reading

variable {source : Option FilePath} {entries : Entries Data} {e : LoadError}
  (he : ∀ fault, e ≠ .catalogue fault)
include he

theorem failure_ne {α : Type} {context : ErrorContext} {fault : CatalogueFault} :
    (failure context fault : Except LoadError α) ≠ .error e := by
  intro h
  cases h
  exact he _ rfl

/-- A symbol breaks off the reading exactly if it is a table with a name. -/
theorem readSymbol_eq_error_iff {name : String} {body : Data} :
    readSymbol source name body = .error e ↔
      e = .nameGiven ∧ ∃ entries, body = .table entries ∧ Entries.has entries "name" = true := by
  cases body with
  | table entries =>
    rw [readSymbol]
    split
    next h =>
      exact ⟨fun herror => ⟨(Except.error.inj herror).symm, entries, rfl, h⟩,
        fun hname => congrArg Except.error hname.1.symm⟩
    next h =>
      refine iff_of_false ?_ ?_
      · split
        next =>
          intro hok
          cases hok
        next => exact failure_ne he
      · rintro ⟨-, _, heq, hname⟩
        exact h (Data.table.inj heq ▸ hname)
  | null | bool | int | float | string | moment | array =>
    refine iff_of_false (failure_ne he) ?_
    rintro ⟨-, _, heq, -⟩
    cases heq

/-- A section breaks off the reading exactly if it is faulty and its title cannot be shown. -/
theorem readSection_eq_error_iff {number : Nat} {body : Data} :
    readSection source number body = .error e ↔
      ∃ issues fault, LayoutSection.ofData body = .error issues ∧
        headingFault? body = some fault ∧ e = .ofTextFault fault := by
  rw [readSection]
  cases hbody : LayoutSection.ofData body with
  | ok s => exact iff_of_false nofun fun ⟨_, _, h, _⟩ => nomatch h
  | error issues =>
    dsimp only
    cases hfault : headingFault? body with
    | none => exact iff_of_false (failure_ne he) fun ⟨_, _, _, h, _⟩ => nomatch h
    | some fault => cases fault <;> simp [LoadError.ofTextFault, eq_comm]

/-- The first symbol with a name in its table breaks off the reading. -/
theorem readSymbols_eq_error_iff {d : Data} : readSymbols source d = .error e ↔
    (e = .tableExpected ∧ ∀ symbols, d ≠ .table symbols) ∨
      e = .nameGiven ∧ ∃ (symbols body : Entries Data) (i : Nat) (name : String),
        d = .table symbols ∧ symbols[i]? = some (name, .table body) ∧ body.has "name" = true ∧
          ∀ (j : Nat) (p : String × Data), j < i → symbols[j]? = some p →
            ∃ r, readSymbol source p.1 p.2 = .ok r := by
  cases d with
  | table symbols =>
    rw [readSymbols, mapM_eq_error_iff, or_iff_right fun h => h.2 symbols rfl]
    constructor
    · rintro ⟨i, ⟨name, d⟩, hi, hd, hbefore⟩
      obtain ⟨rfl, body, rfl, hname⟩ := (readSymbol_eq_error_iff he).mp hd
      exact ⟨rfl, symbols, body, i, name, rfl, hi, hname, hbefore⟩
    · rintro ⟨rfl, _, body, i, name, ⟨⟩, hi, hname, hbefore⟩
      exact ⟨i, (name, .table body), hi,
        (readSymbol_eq_error_iff he).mpr ⟨rfl, body, rfl, hname⟩, hbefore⟩
  | null | bool | int | float | string | moment | array =>
    constructor
    · intro h
      exact .inl ⟨(Except.error.inj h).symm, nofun⟩
    · rintro (⟨rfl, -⟩ | ⟨-, _, _, _, _, h, -⟩)
      · rfl
      · exact nomatch h

/-- The first section that is faulty and has a title that cannot be shown breaks off the reading. -/
theorem readSections_eq_error_iff {d : Data} : readSections source d = .error e ↔
    (e = .listExpected ∧ ∀ bodies, sectionBodies d ≠ .ok bodies) ∨
      ∃ (bodies : List Data) (i : Nat) (body : Data) (issues : List FieldIssue)
        (fault : Data.TextFault), sectionBodies d = .ok bodies ∧ bodies[i]? = some body ∧
          LayoutSection.ofData body = .error issues ∧ headingFault? body = some fault ∧
          e = .ofTextFault fault ∧ ∀ (j : Nat) (b : Data), j < i → bodies[j]? = some b →
            ∃ s, LayoutSection.ofData b = .ok s := by
  rw [readSections, bind_eq_error_iff, sectionBodies_eq_error_iff]
  refine or_congr_right ?_
  simp only [mapM_eq_error_iff, List.getElem?_mapIdx]
  constructor
  · rintro ⟨bodies, hbodies, i, _, hi, hbody, hbefore⟩
    obtain ⟨body, hget, rfl⟩ := Option.map_eq_some_iff.mp hi
    obtain ⟨issues, fault, hissues, hfault, heq⟩ := (readSection_eq_error_iff he).mp hbody
    refine ⟨bodies, i, body, issues, fault, hbodies, hget, hissues, hfault, heq,
      fun j b hj hb => ?_⟩
    obtain ⟨s, hs⟩ := hbefore j (j + 1, b) hj (Option.map_eq_some_iff.mpr ⟨b, hb, rfl⟩)
    exact ⟨s, readSection_eq_ok_iff.mp hs⟩
  · rintro ⟨bodies, i, body, issues, fault, hbodies, hi, hissues, hfault, rfl, hbefore⟩
    refine ⟨bodies, hbodies, i, (i + 1, body), Option.map_eq_some_iff.mpr ⟨body, hi, rfl⟩,
      (readSection_eq_error_iff he).mpr ⟨issues, fault, hissues, hfault, rfl⟩, fun j p hj hp => ?_⟩
    obtain ⟨b, hb, rfl⟩ := Option.map_eq_some_iff.mp hp
    obtain ⟨s, hs⟩ := hbefore j b hj hb
    exact ⟨s, readSection_eq_ok_iff.mpr hs⟩

/-- The records of the symbols make a grammar, or else there is a catalogue error. -/
theorem readDataGrammar_eq_error_iff : readDataGrammar (.table entries) source = .error e ↔
    readSymbols source (symbolsIn entries) = .error e := by
  change readSymbols source (symbolsIn entries) >>= readGrammar = .error e ↔ _
  rw [bind_eq_error_iff]
  refine or_iff_left ?_
  rintro ⟨records, -, hrecords⟩
  rw [readGrammar] at hrecords
  split at hrecords
  next => cases hrecords
  next => exact absurd hrecords (failure_ne he)

/-- With a grammar only the descriptive data and the sections can break off the reading. -/
theorem withGrammar_eq_error_iff {g : Grammar} : withGrammar g (.table entries) source = .error e ↔
    (e = .tableExpected ∧ ∀ info, infoIn entries ≠ .table info) ∨
      ∃ info, infoIn entries = .table info ∧
        readSections source (sectionsIn entries) = .error e := by
  rw [withGrammar_table]
  split
  next info hinfo =>
    rw [or_iff_right fun h => h.2 info hinfo]
    simp only [hinfo, Data.table.injEq, exists_eq_left']
    split
    next e' hsections => simp only [hsections, Except.error.injEq]
    next sections hsections =>
      refine iff_of_false ?_ (by simp only [hsections, reduceCtorEq, not_false_eq_true])
      rw [checked]
      split
      next fault _ => exact fun h => absurd (Except.error.inj h).symm (he fault)
      next =>
        intro hok
        cases hok
  next hinfo =>
    have hnone : ¬∃ info, infoIn entries = .table info ∧
        readSections source (sectionsIn entries) = .error e :=
      fun h => h.elim fun info h => hinfo info h.1
    rw [or_iff_left hnone, Except.error.injEq, eq_comm]
    exact (and_iff_left hinfo).symm

end Reading

/-- The error of an escape is no catalogue error. -/
theorem Escapes.ne_catalogue {source : Option FilePath} {entries : Entries Data} {e : LoadError}
    (h : Escapes source entries e) (fault : CatalogueError) : e ≠ .catalogue fault := by
  cases h with
  | title => exact LoadError.ofTextFault_ne _ fault
  | symbols | name | info | sections => exact nofun

/-- **Where reading breaks off**: for another reason than a catalogue error it fails in the places
that are listed, and nowhere else. -/
theorem escapes_iff {source : Option FilePath} {entries : Entries Data} {e : LoadError} :
    Escapes source entries e ↔
      ofData (.table entries) source = .error e ∧ ∀ fault, e ≠ .catalogue fault := by
  have hwhole : ofData (.table entries) source = (readDataGrammar (.table entries) source >>=
    fun g => withGrammar g (.table entries) source) := rfl
  rw [hwhole, bind_eq_error_iff]
  constructor
  · intro h
    have he := h.ne_catalogue
    refine ⟨?_, he⟩
    simp only [readDataGrammar_eq_error_iff he, readSymbols_eq_error_iff he,
      withGrammar_eq_error_iff he, readSections_eq_error_iff he]
    cases h with
    | symbols hsymbols => exact .inl (.inl ⟨rfl, hsymbols⟩)
    | name hsymbols hi hname hbefore =>
      exact .inl (.inr ⟨rfl, _, _, _, _, hsymbols, hi, hname, hbefore⟩)
    | info hg hinfo => exact .inr ⟨_, hg, .inl ⟨rfl, hinfo⟩⟩
    | sections hg hinfo hsections => exact .inr ⟨_, hg, .inr ⟨_, hinfo, .inl ⟨rfl, hsections⟩⟩⟩
    | title hg hinfo hbodies hi hbody hfault hbefore =>
      exact .inr ⟨_, hg, .inr ⟨_, hinfo,
        .inr ⟨_, _, _, _, _, hbodies, hi, hbody, hfault, rfl, hbefore⟩⟩⟩
  · rintro ⟨h, he⟩
    simp only [readDataGrammar_eq_error_iff he, readSymbols_eq_error_iff he,
      withGrammar_eq_error_iff he, readSections_eq_error_iff he] at h
    rcases h with (⟨rfl, hsymbols⟩ | ⟨rfl, symbols, body, i, name, hsymbols, hi, hname, hbefore⟩) |
      ⟨g, hg, ⟨rfl, hinfo⟩ | ⟨info, hinfo, ⟨rfl, hbodies⟩ |
        ⟨bodies, i, body, issues, fault, hbodies, hi, hbody, hfault, rfl, hbefore⟩⟩⟩
    · exact .symbols hsymbols
    · exact .name hsymbols hi hname hbefore
    · exact .info hg hinfo
    · exact .sections hg hinfo hbodies
    · exact .title hg hinfo hbodies hi hbody hfault hbefore

end Catalogue

/-! ### Catalogues of commands -/

namespace Program

open Run

/-- The messages about a catalogue error: the error itself behind its heading, and the catalogues
that can be used instead. -/
def IsRefusal (e : CatalogueError) (messages : List ScreenMessage) : Prop :=
  ∃ cs, Markup.plain ("[red]Catalogue error:[/red] " ++ Markup.escaped e.message) =
      .ok ("Catalogue error:".toList ++ cs) ∧
    messages = [.line (Console.laidOut ("Catalogue error:".toList ++ cs)),
      .line (Console.shown ("Shipped catalogues: " ++ ", ".intercalate Catalogue.shippedNames))]

/-- **A catalogue error is always reported**, and the run ends with status 1. -/
theorem exists_outcome_refusal (e : CatalogueError) (before : Stage) :
    ∃ messages, IsRefusal e messages ∧
      outcome (answer "Catalogue error"
        (note ("Shipped catalogues: " ++ ", ".intercalate Catalogue.shippedNames))
        (.error (.catalogue e))) before = (.error (.status 1), before.withMessages messages) := by
  have hmarks : ∀ c ∈ "Catalogue error:".toList, c ≠ '[' ∧ c ≠ '\\' := by simp
  have hdecode : Console.Emoji.decode "Catalogue error:".toList = "Catalogue error:".toList := rfl
  have hheading : "[red]" ++ "Catalogue error:" ++ "[/red] " = "[red]Catalogue error:[/red] " := by
    decide
  -- Whatever the message says, it is escaped and shown behind the heading.
  obtain ⟨cs, hplain⟩ := Markup.exists_plain_heading hmarks e.message
  rw [hdecode, hheading] at hplain
  refine ⟨_, ⟨cs, hplain, rfl⟩, ?_⟩
  have hanswer (more : FileRun Unit) : answer "Catalogue error" more (.error (.catalogue e)) =
      (noteMarked ("[red]Catalogue error:[/red] " ++ Markup.escaped e.message) >>= fun _ =>
        more >>= fun _ => finish (.status 1)) := by
    have htext : toString "[red]" ++ toString "Catalogue error" ++ toString ":[/red] " =
        "[red]Catalogue error:[/red] " := by
      decide
    rw [answer, htext]
  rw [hanswer, outcome_bind_of_ok (outcome_noteMarked_eq_ok_iff.mpr ⟨_, hplain, rfl⟩),
    outcome_bind_of_ok (outcome_note ..), outcome_finish, Stage.withMessages_withMessages]
  rfl

/-- **What becomes of a catalogue file** that is decoded to a table.  For another reason than a
catalogue error reading breaks off in the places that are listed, and nowhere else.  A command gets
the catalogue if it is read to the end; a catalogue error is reported, and the command ends with
status 1; where reading breaks off, the command has no answer. -/
theorem outcome_commandCatalogue_of_table (entries : Entries Data) :
    (∀ source e, Catalogue.Escapes source entries e ↔
      Catalogue.ofData (.table entries) source = .error e ∧ ∀ fault, e ≠ .catalogue fault) ∧
    ∀ (c : Setting) (path : Option FilePath) (before : Stage) (file : FilePath) (text : String),
      path.or c.settings.catalogue = some file → before.files.read file = .ok text.toUTF8 →
      Toml.read text = .ok (.table entries) →
      ∃ stage, Reported before stage ∧
        ((∃ catalogue, Catalogue.ofData (.table entries) (some file) = .ok catalogue ∧
            outcome (commandCatalogue c path : FileRun Catalogue) before = (.ok catalogue, stage)) ∨
          (∃ e messages, Catalogue.ofData (.table entries) (some file) = .error (.catalogue e) ∧
            IsRefusal e messages ∧ outcome (commandCatalogue c path : FileRun Catalogue) before =
              (.error (.status 1), stage.withMessages messages)) ∨
          ∃ e, Catalogue.Escapes (some file) entries e ∧
            outcome (commandCatalogue c path : FileRun Catalogue) before =
              (.error (.trouble (.catalogue e)), stage)) := by
  refine ⟨fun _ _ => Catalogue.escapes_iff, fun c path before file text hpath hread hdata => ?_⟩
  obtain ⟨stage, hreported, hcourse⟩ := exists_stage_obtainCatalogue c "Catalogue error" path
    (note ("Shipped catalogues: " ++ ", ".intercalate Catalogue.shippedNames)) before
  refine ⟨stage, hreported, ?_⟩
  rw [commandCatalogue, hcourse, hpath, catalogue_of_read hread hdata]
  cases hcatalogue : Catalogue.ofData (.table entries) (some file) with
  | ok catalogue =>
    refine .inl ⟨catalogue, rfl, ?_⟩
    rw [answer, outcome_pure]
  | error e =>
    by_cases he : ∃ fault, e = .catalogue fault
    · obtain ⟨fault, rfl⟩ := he
      obtain ⟨messages, hrefusal, houtcome⟩ := exists_outcome_refusal fault stage
      exact .inr (.inl ⟨fault, messages, rfl, hrefusal, houtcome⟩)
    · have he' (fault : CatalogueError) : e ≠ .catalogue fault := fun h => he ⟨fault, h⟩
      refine .inr (.inr ⟨e, Catalogue.escapes_iff.mpr ⟨hcatalogue, he'⟩, ?_⟩)
      rw [answer, outcome_fail]
      exact he'

/-- A catalogue with a symbol that has one key. -/
def keyText (key : String) : String :=
  "[symbols.size]\n" ++ key ++ " = \"size\"\n"

/-- The entries of this catalogue. -/
def keyEntries (key : String) : Entries Data :=
  [("symbols", .table [("size", .table [(key, .string "size")])])]

/-- The catalogue in a file. -/
def keyStage (key : String) : Stage :=
  ⟨{}, { workingDirectory := .ofString "/"
         tree := ⟨[(["size.toml"], .file (keyText key).toUTF8)]⟩ }⟩

theorem read_keyStage (key : String) :
    (keyStage key).files.read (.ofString "/size.toml") = .ok (keyText key).toUTF8 := by
  have hplace : (keyStage key).files.place (.ofString "/size.toml") = .ok ["size.toml"] := rfl
  exact FileTree.read_eq_ok_iff.mpr ⟨_, hplace, rfl⟩

theorem outcome_commandCatalogue_of_table_size :
    let c : Setting := ⟨{}, id, ""⟩
    let path : FilePath := .ofString "/size.toml"
    (Catalogue.Escapes (some path) (keyEntries "name") .nameGiven ∧
      ∃ stage, outcome (commandCatalogue c (some path) : FileRun Catalogue) (keyStage "name") =
        (.error (.trouble (.catalogue .nameGiven)), stage)) ∧
    ∃ messages stage,
      IsRefusal ⟨{ file := some path, symbol := some "size" },
        .fields [⟨[.key "title"], .unexpected⟩]⟩ messages ∧
      outcome (commandCatalogue c (some path) : FileRun Catalogue) (keyStage "title") =
        (.error (.status 1), stage) := by
  intro c path
  have hreadName : Toml.read (keyText "name") = .ok (.table (keyEntries "name")) := by
    decide +kernel
  have hreadTitle : Toml.read (keyText "title") = .ok (.table (keyEntries "title")) := by
    decide +kernel
  have hname : Catalogue.ofData (.table (keyEntries "name")) (some path) = .error .nameGiven := rfl
  have htitle : Catalogue.ofData (.table (keyEntries "title")) (some path) =
      .error (.catalogue ⟨{ file := some path, symbol := some "size" },
        .fields [⟨[.key "title"], .unexpected⟩]⟩) := rfl
  obtain ⟨hescapes, hcourse⟩ := outcome_commandCatalogue_of_table (keyEntries "name")
  obtain ⟨-, hcourse'⟩ := outcome_commandCatalogue_of_table (keyEntries "title")
  have hother (fault : CatalogueError) : LoadError.nameGiven ≠ .catalogue fault := by
    intro h
    cases h
  refine ⟨⟨(hescapes ..).mpr ⟨hname, hother⟩, ?_⟩, ?_⟩
  · obtain ⟨stage, -, ⟨catalogue, h, -⟩ | ⟨e, messages, h, -⟩ | ⟨e, h, houtcome⟩⟩ :=
      hcourse c (some path) _ path _ rfl (read_keyStage _) hreadName
    · cases hname.symm.trans h
    · cases hname.symm.trans h
    · cases hname.symm.trans ((hescapes ..).mp h).1
      exact ⟨stage, houtcome⟩
  · obtain ⟨stage, -, ⟨catalogue, h, -⟩ | ⟨e, messages, h, hrefusal, houtcome⟩ | ⟨e, h, -⟩⟩ :=
      hcourse' c (some path) _ path _ rfl (read_keyStage _) hreadTitle
    · cases htitle.symm.trans h
    · cases htitle.symm.trans h
      exact ⟨messages, _, hrefusal, houtcome⟩
    · exact absurd (Except.error.inj (htitle.symm.trans (Catalogue.escapes_iff.mp h).1)).symm
        (h.ne_catalogue _)

end Program

end GrammarForm
