import GrammarForm.Catalogue.Shipped
import GrammarForm.Proofs.Completeness
import GrammarForm.Proofs.TextBytes

/-!
# Keywords of the shipped catalogue

A name in an alternative stands for itself unless its record says what it stands for.  By
convention the names that stand for something are written in angle brackets, and any other name is
a keyword of the configuration.  But a command has a record of its own, so a keyword that is also
the name of a command is expanded as if it were that command.

In the shipped catalogue this happens to one keyword, the statistic `precision`: the form shows a
field for a number in its place.  Every other keyword is written out, in every section, for every
state and at every node.  The section for statistics adds an alternative to a symbol that has some
already; such an extension leaves the roles of all names as they are.

## Main definitions

* `Symbol.isPlain` : a name without angle brackets.
* `Production.slotAt?`, `Production.WritesOut` : what is at a place of an alternative.
* `ExpandsOnly` : the names that stand for something else.

## Main results

* `Production.writesOut_iff` : the keywords are written out, and nothing else is.
* `expandsOnly_extendRecords` : further alternatives change no roles.
* `Shipped.expandsOnly_records` : the shipped catalogue expands a single keyword.
* `Shipped.writesOut_keyword_iff` : which keywords of the shipped catalogue are written out.
-/

namespace GrammarForm

/-! ### Places of an alternative -/

/-- The slot at a place of a sequence of symbols; none if the place holds a keyword. -/
def slotAtOf? : List Symbol → Nat → Option Nat
  | [], _ => none
  | s :: _, 0 => if s.isTerminal then none else some 0
  | s :: rest, j + 1 =>
    if s.isTerminal then slotAtOf? rest j else (slotAtOf? rest j).map (· + 1)

theorem slotAtOf?_eq_none_iff {symbols : List Symbol} :
    ∀ {j : Nat} {s : Symbol}, symbols[j]? = some s →
      (slotAtOf? symbols j = none ↔ s.isTerminal = true) := by
  induction symbols with
  | nil => exact fun h => nomatch h
  | cons t rest ih =>
    intro j s h
    cases j with
    | zero =>
      cases h
      rw [slotAtOf?]
      split <;> simp_all
    | succ j =>
      rw [slotAtOf?]
      split
      next => exact ih h
      next => exact Option.map_eq_none_iff.trans (ih h)

/-- At each place of an alternative stands a keyword or the text of a slot. -/
theorem getElem?_wordsOf {symbols : List Symbol} : ∀ {j : Nat} {s : Symbol} (texts : List String),
    symbols[j]? = some s → (wordsOf symbols texts)[j]? =
      some (match slotAtOf? symbols j with
        | none => s.name
        | some k => texts.getD k "") := by
  induction symbols with
  | nil => exact fun _ h => nomatch h
  | cons t rest ih =>
    intro j s texts h
    rw [wordsOf]
    cases j with
    | zero =>
      cases h
      rw [slotAtOf?]
      split
      next => rfl
      next => cases texts <;> rfl
    | succ j =>
      have hrest : rest[j]? = some s := h
      rw [slotAtOf?]
      split
      next => exact ih texts hrest
      next =>
        rw [List.getElem?_cons_succ, ih texts.tail hrest]
        cases slotAtOf? rest j with
        | none => rfl
        | some k => cases texts <;> rfl

/-- The symbol in a slot is the one at its place. -/
theorem getElem?_slotNamesOf {symbols : List Symbol} : ∀ {j k : Nat} {s : Symbol},
    symbols[j]? = some s → slotAtOf? symbols j = some k →
      (slotNamesOf symbols)[k]? = some s.name := by
  induction symbols with
  | nil => exact fun h => nomatch h
  | cons t rest ih =>
    intro j k s h hk
    rw [slotNamesOf_cons]
    cases j with
    | zero =>
      cases h
      rw [slotAtOf?] at hk
      split at hk
      next => exact nomatch hk
      next hterminal =>
        cases hk
        rw [if_neg hterminal]
        rfl
    | succ j =>
      have hrest : rest[j]? = some s := h
      rw [slotAtOf?] at hk
      split at hk
      next hterminal =>
        rw [if_pos hterminal]
        exact ih hrest hk
      next hterminal =>
        obtain ⟨k', hk', rfl⟩ := Option.map_eq_some_iff.mp hk
        rw [if_neg hterminal]
        exact ih hrest hk'

namespace Production

variable (p : Production)

/-- The slot at a place of an alternative; none if the place holds a keyword. -/
def slotAt? (j : Nat) : Option Nat :=
  slotAtOf? p.symbols j

/-- The name at a place is written out: it is the word at this place, whatever the texts of the
slots are, and no slot belongs to the place. -/
def WritesOut (j : Nat) (texts : List String) : Prop :=
  p.slotAt? j = none ∧ (p.words texts)[j]? = p.names[j]?

variable {p}

/-- **A symbol that is no keyword is replaced** by the text of its slot. -/
theorem exists_slot_of_not_isTerminal {j : Nat} {s : Symbol} (h : p.symbols[j]? = some s)
    (hs : s.isTerminal = false) (texts : List String) : ∃ k, p.slotAt? j = some k ∧
      p.slotNames[k]? = some s.name ∧ (p.words texts)[j]? = some (texts.getD k "") := by
  obtain ⟨k, hk⟩ : ∃ k, p.slotAt? j = some k := by
    refine Option.ne_none_iff_exists'.mp fun hnone => ?_
    rw [(slotAtOf?_eq_none_iff h).mp hnone] at hs
    exact nomatch hs
  have hslot : slotAtOf? p.symbols j = some k := hk
  refine ⟨k, hk, getElem?_slotNamesOf h hslot, ?_⟩
  rw [words, getElem?_wordsOf texts h, hslot]

/-- **The keywords are written out, and nothing else is.** -/
theorem writesOut_iff {j : Nat} {s : Symbol} (h : p.symbols[j]? = some s) (texts : List String) :
    p.WritesOut j texts ↔ s.isTerminal = true := by
  refine ⟨fun hout => (slotAtOf?_eq_none_iff h).mp hout.1, fun hterminal => ?_⟩
  have hslot : slotAtOf? p.symbols j = none := (slotAtOf?_eq_none_iff h).mpr hterminal
  refine ⟨hslot, ?_⟩
  rw [words, getElem?_wordsOf texts h, hslot, names, List.getElem?_map, h, Option.map_some]

end Production

/-! ### Names that stand for something else -/

/-- Whether a name is written without angle brackets. -/
def isPlain (name : String) : Bool :=
  !(name.toList.head? == some '<' && name.toList.getLast? == some '>')

/-- Among the plain names in the alternatives of some records, a single one is expanded. -/
def ExpandsOnly (records : List SymbolRecord) (keyword : String) : Prop :=
  ∀ r ∈ records, ∀ names ∈ r.productions, ∀ name ∈ names, isPlain name = true →
    (isExpanded records name = true ↔ name = keyword)

/-- A plain name is no kind of value. -/
theorem ofPlaceholder?_of_isPlain {name : String} (h : isPlain name = true) :
    ValueKind.ofPlaceholder? name = none := by
  rw [ValueKind.ofPlaceholder?, List.find?_eq_none]
  intro kind _ hkind
  rw [← beq_iff_eq.mp hkind] at h
  revert h
  cases kind <;> decide

/-- A plain name is a keyword exactly if it is not expanded. -/
theorem roleOf_eq_terminal_iff {g : Grammar} {name : String} (h : isPlain name = true) :
    g.roleOf name = .terminal ↔ isExpanded g.records name = false := by
  rw [Grammar.roleOf_eq, ofPlaceholder?_of_isPlain h]
  cases isExpanded g.records name <;> decide

section Extension

variable {records : List SymbolRecord} {symbol : String} {productions : List (List String)}

/-- An expanded symbol has a record. -/
theorem isSome_of_isExpanded (h : isExpanded records symbol = true) :
    (recordOf? records symbol).isSome = true := by
  rw [isExpanded] at h
  cases hr : recordOf? records symbol with
  | none => simp [hr] at h
  | some r => rfl

/-- The alternatives of the extended records are those of the records and the further ones. -/
theorem mem_productions_of_extendRecords (hsymbol : isExpanded records symbol = true)
    {r : SymbolRecord} (hr : r ∈ Grammar.extendRecords records symbol productions)
    {names : List String} (hnames : names ∈ r.productions) :
    (∃ r₀ ∈ records, names ∈ r₀.productions) ∨ names ∈ productions := by
  rw [Grammar.extendRecords, if_pos (isSome_of_isExpanded hsymbol), List.mem_map] at hr
  obtain ⟨r₀, hr₀, rfl⟩ := hr
  split at hnames
  next => exact (mem_mergeProductions.mp hnames).imp_left fun hold => ⟨r₀, hr₀, hold⟩
  next => exact Or.inl ⟨r₀, hr₀, hnames⟩

/-- **Further alternatives change no roles**, if their symbol has some already; so what is
expanded stays the same if the new alternatives keep to it. -/
theorem expandsOnly_extendRecords {keyword : String} (h : ExpandsOnly records keyword)
    (hsymbol : isExpanded records symbol = true)
    (hnew : ∀ names ∈ productions, ∀ name ∈ names, isPlain name = true →
      (isExpanded records name = true ↔ name = keyword)) :
    ExpandsOnly (Grammar.extendRecords records symbol productions) keyword := by
  intro r hr names hnames name hname hplain
  rw [isExpanded_extendRecords productions hsymbol]
  rcases mem_productions_of_extendRecords hsymbol hr hnames with ⟨r₀, hr₀, hold⟩ | hadded
  · exact h r₀ hr₀ names hold name hname hplain
  · exact hnew names hadded name hname hplain

end Extension

/-- A plain name in an alternative is a keyword unless it is the one that is expanded. -/
theorem isTerminal_iff_of_expandsOnly {g : Grammar} {keyword : String}
    (h : ExpandsOnly g.records keyword) {symbol : String} {i j : Nat} {p : Production} {s : Symbol}
    (hp : (g.alternatives symbol)[i]? = some p) (hs : p.symbols[j]? = some s)
    (hplain : isPlain s.name = true) : s.isTerminal = true ↔ s.name ≠ keyword := by
  obtain ⟨r, hr, -, names, hnames, rfl⟩ :=
    Grammar.exists_of_mem_alternatives (List.mem_of_getElem? hp)
  obtain ⟨name, hname, rfl⟩ := List.mem_map.mp (List.mem_of_getElem? hs)
  have hexpanded := h r hr names hnames name hname hplain
  rw [Symbol.isTerminal, beq_iff_eq, roleOf_eq_terminal_iff hplain, ne_eq, ← hexpanded,
    Bool.not_eq_true]

/-! ### Nodes with a selected alternative -/

/-- A node is resolved to an alternative of its symbol: it has a child for each slot, and the
alternative makes up its text. -/
structure Node.IsResolved (g : Grammar) (n : Node) (i : Nat) (p : Production) : Prop where
  alternative : (g.alternatives (g.startSymbol n.symbol))[i]? = some p
  symbols : n.children.map (·.symbol) = p.slotNames
  text : n.text = " ".intercalate (p.words (n.children.map (·.text)))

/-- **A choice with a selected index is resolved** to the alternative with that index. -/
theorem Renderer.exists_isResolved {r : Renderer} {levels : Nat} {symbol : String} {path : Path}
    {default? : Option DefaultValue} {showLabel : Bool} {offers : List Offer} {i : Nat}
    {tip : String} {off : Bool}
    (h : (r.renderLevels levels symbol path default? showLabel).1.widget =
      some (.choice offers (some i) tip off)) :
    ∃ p, (r.renderLevels levels symbol path default? showLabel).1.IsResolved r.grammar i p := by
  cases levels with
  | zero => exact nomatch h
  | succ levels =>
    rw [renderLevels_succ] at h ⊢
    cases hres : r.resolution symbol path default? with
    | leaf kind | unknown | unresolved =>
      rw [hres] at h
      exact nomatch h
    | selected i' p =>
      rw [hres] at h
      cases h
      obtain ⟨-, -, hp⟩ := resolution_eq_selected_iff.mp hres
      exact ⟨p, hp, r.map_symbol_slotNodes levels path p, rfl⟩

/-! ### The shipped catalogue -/

namespace Shipped

/-- Whether bytes are those of a name in angle brackets. -/
private def hasBrackets (bytes : List UInt8) : Bool :=
  bytes.all (fun b => Nat.ble b.toNat 127) && bytes.head? == some 60 && bytes.getLast? == some 62

private theorem isPlain_of_hasBrackets {name : String}
    (h : hasBrackets (Text.bytesOf name) = true) : isPlain name = false := by
  rw [hasBrackets, Bool.and_eq_true, Bool.and_eq_true, beq_iff_eq, beq_iff_eq] at h
  obtain ⟨⟨hascii, hfirst⟩, hlast⟩ := h
  have hchars := Text.toList_eq_map_bytesOf fun b hb =>
    Nat.le_of_ble_eq_true (List.all_eq_true.mp hascii b hb)
  rw [isPlain, hchars, List.head?_map, List.getLast?_map, hfirst, hlast]
  rfl

/-- What has to be evaluated for the records of the shipped catalogue.  Names are compared as
numbers, which takes a fraction of the time, and all together, so that the number of a name is
found only once. -/
private theorem records_checked : (records.map fun r => Text.number r.name).Nodup ∧
    (∀ r ∈ records, (numberChain (numberTable records) records.length
      (Text.number r.name)).Nodup) ∧
    Catalogue.selfProduction? records = none ∧
    (records.all fun r => r.productions.all fun names => names.all fun name =>
      hasBrackets (Text.bytesOf name) ||
        (records.all fun r' => !Nat.beq (Text.number r'.name) (Text.number name)) ||
        name == "precision") = true ∧
    isExpanded records "precision" = true ∧ isExpanded records "<reduce type>" = true ∧
    isExpanded records "objectiveFunctionEvaluation" = false := by
  decide +kernel

theorem recordsFault?_records : recordsFault? records = none := by
  refine recordsFault?_eq_none_iff.mpr ⟨?_, fun r hr => ?_⟩
  · have hnumbers : ((records.map (·.name)).map Text.number).Nodup := by
      rw [List.map_map]
      exact records_checked.1
    exact hnumbers.of_map _
  · have hchain := records_checked.2.1 r hr
    rw [← map_number_aliasChain] at hchain
    exact hchain.of_map _

/-- The grammar of the first sections. -/
def grammar : Grammar where
  records := records
  faultless := recordsFault?_records

theorem isExpanded_reduceType : isExpanded records "<reduce type>" = true :=
  records_checked.2.2.2.2.2.1

/-- The grammar from the section for statistics on. -/
def statisticsGrammar : Grammar where
  records := Grammar.extendRecords grammar.records "<reduce type>" [["objectiveFunctionEvaluation"]]
  faultless := grammar.recordsFault?_extendRecords _ _

/-- The form of the shipped catalogue. -/
def form (source : Option FilePath) (options : FormOptions) : Assembler where
  catalogue :=
    { name := .string name
      title := .string title
      description := .string description
      grammar
      sections
      source }
  options
  grammars := [grammar, grammar, grammar, statisticsGrammar, statisticsGrammar]

theorem sectionsFault?_sections : Catalogue.sectionsFault? grammar [] sections = none := by
  decide +kernel

theorem selfProduction?_records : Catalogue.selfProduction? records = none :=
  records_checked.2.2.1

theorem catalogue_eq_checked {g : Grammar} (h : Catalogue.readGrammar records = .ok g)
    (source : Option FilePath) : catalogue source =
      Catalogue.checked
        { name := .string name
          title := .string title
          description := .string description
          grammar := g
          sections
          source } := by
  rw [catalogue, h]
  rfl

/-- **The shipped catalogue is accepted.** -/
theorem catalogue_eq (source : Option FilePath) (options : FormOptions) :
    catalogue source = .ok (form source options).catalogue :=
  (catalogue_eq_checked (Catalogue.readGrammar_eq_ok recordsFault?_records) source).trans <|
    Catalogue.checked_eq_ok <|
      Catalogue.layoutFault?_eq_none_iff.mpr ⟨selfProduction?_records, sectionsFault?_sections⟩

/-- **The shipped catalogue can be made ready.** -/
theorem exists_ofCatalogue (source : Option FilePath) (options : FormOptions) :
    ∃ notices, Assembler.ofCatalogue (form source options).catalogue options =
      .ok (form source options, notices) := by
  have hextend : grammar.extend "<reduce type>" [["objectiveFunctionEvaluation"]] =
      .ok statisticsGrammar :=
    grammar.extend_eq_ok _ _
  have hoverlay : ∃ notices, Catalogue.overlay grammar sections =
      .ok ([grammar, grammar, grammar, statisticsGrammar, statisticsGrammar], notices) := by
    rw [sections, Catalogue.overlay_cons_of_extensions_eq_nil rfl,
      Catalogue.overlay_cons_of_extensions_eq_nil rfl,
      Catalogue.overlay_cons_of_extensions_eq_nil rfl,
      Catalogue.overlay_cons_of_extend hextend rfl,
      Catalogue.overlay_cons_of_extensions_eq_nil rfl]
    simp only [Catalogue.overlay, Except.map]
    exact ⟨_, rfl⟩
  obtain ⟨notices, hoverlay⟩ := hoverlay
  have hgrammars : (form source options).catalogue.sectionGrammars =
      .ok ((form source options).grammars, notices) := hoverlay
  exact ⟨notices, Assembler.ofCatalogue_eq_ok hgrammars⟩

theorem isExpanded_precision : isExpanded records "precision" = true :=
  records_checked.2.2.2.2.1

theorem isExpanded_objectiveFunctionEvaluation :
    isExpanded records "objectiveFunctionEvaluation" = false :=
  records_checked.2.2.2.2.2.2

/-- **The shipped catalogue expands a single keyword**, the statistic `precision`. -/
theorem expandsOnly_records : ExpandsOnly records "precision" := by
  intro r hr names hnames name hname hplain
  refine ⟨fun hexpanded => ?_, fun heq => heq ▸ isExpanded_precision⟩
  have hchecked := List.all_eq_true.mp
    (List.all_eq_true.mp (List.all_eq_true.mp records_checked.2.2.2.1 r hr) names hnames) name hname
  obtain ⟨r', hr'⟩ := Option.isSome_iff_exists.mp (isSome_of_isExpanded hexpanded)
  obtain ⟨hmem, rfl⟩ := name_of_recordOf? hr'
  rw [Bool.or_eq_true, Bool.or_eq_true] at hchecked
  rcases hchecked with (hbrackets | hnone) | hname
  · rw [isPlain_of_hasBrackets hbrackets] at hplain
    cases hplain
  · have hother := List.all_eq_true.mp hnone r' hmem
    rw [Nat.beq_refl] at hother
    cases hother
  · exact beq_iff_eq.mp hname

/-- The extension for statistics adds a keyword. -/
theorem expandsOnly_statisticsGrammar : ExpandsOnly statisticsGrammar.records "precision" := by
  refine expandsOnly_extendRecords expandsOnly_records isExpanded_reduceType ?_
  intro names hnames name hname _
  rw [List.mem_singleton.mp hnames, List.mem_singleton] at hname
  have hname' : name = "objectiveFunctionEvaluation" := hname
  rw [hname', isExpanded_objectiveFunctionEvaluation]
  decide

/-- In every section, the shipped catalogue expands only the keyword `precision`. -/
theorem expandsOnly_grammars (source : Option FilePath) (options : FormOptions) :
    ∀ g ∈ (form source options).grammars, ExpandsOnly g.records "precision" := by
  intro g hg
  simp only [form, List.mem_cons, List.not_mem_nil, or_false] at hg
  rcases hg with rfl | rfl | rfl | rfl | rfl
  exacts [expandsOnly_records, expandsOnly_records, expandsOnly_records,
    expandsOnly_statisticsGrammar, expandsOnly_statisticsGrammar]

/-- **Keywords of the shipped catalogue.** At every node of a form with a selected alternative, in
every section and for every state, a plain name of the alternative is written out in its place and
has no field of its own, unless it is the name `precision`; in the place of that one stands the
text of a child for the command of this name. -/
theorem writesOut_keyword_iff {source : Option FilePath} {c : Catalogue} {options : FormOptions}
    {a : Assembler} {notices : List Notice} (hc : catalogue source = .ok c)
    (ha : Assembler.ofCatalogue c options = .ok (a, notices)) {digest : String → String}
    {state : FormState} {d : Document} {notices' : List Notice}
    (h : a.assemble digest state = .ok (d, notices')) {k : Nat} {item : FormItem}
    (hitem : d.items[k]? = some item) :
    ∃ e, a.entries[k]? = some e ∧
      ∀ f ∈ item.commands, ∀ m ∈ f.root.nodes, ∀ offers i tip off,
        m.widget = some (.choice offers (some i) tip off) →
        ∃ p, m.IsResolved e.1 i p ∧
          ∀ j name, p.names[j]? = some name → isPlain name = true →
            (p.WritesOut j (m.children.map (·.text)) ↔ name ≠ "precision") ∧
            (name = "precision" → ∃ l child, p.slotAt? j = some l ∧
              m.children[l]? = some child ∧ child.symbol = name ∧
              (p.words (m.children.map (·.text)))[j]? = some child.text) := by
  cases (catalogue_eq source options).symm.trans hc
  obtain ⟨_, hready⟩ := exists_ofCatalogue source options
  cases hready.symm.trans ha
  obtain ⟨e, he, rfl⟩ := Assembler.exists_entry_of_items h hitem
  refine ⟨e, he, fun f hf m hm offers i tip off hwidget => ?_⟩
  have hexpands : ExpandsOnly e.1.records "precision" :=
    expandsOnly_grammars source options _ (Assembler.mem_of_mem_entries (List.mem_of_getElem? he)).1
  obtain ⟨entry, path, rfl⟩ := RenderContext.exists_command_of_item hf
  obtain ⟨levels, default?, showLabel, hrendered⟩ :=
    Renderer.exists_renderLevels_of_mem_nodes _ _ _ _ _ _ hm
  obtain ⟨p, hp⟩ : ∃ p, m.IsResolved e.1 i p := by
    rw [hrendered] at hwidget ⊢
    exact Renderer.exists_isResolved hwidget
  refine ⟨p, hp, fun j name hname hplain => ?_⟩
  obtain ⟨s, hs, rfl⟩ : ∃ s, p.symbols[j]? = some s ∧ s.name = name := by
    rwa [Production.names, List.getElem?_map, Option.map_eq_some_iff] at hname
  have hterminal := isTerminal_iff_of_expandsOnly hexpands hp.alternative hs hplain
  refine ⟨(Production.writesOut_iff hs _).trans hterminal, fun hprecision => ?_⟩
  have hslot : s.isTerminal = false := by
    rw [← Bool.not_eq_true, hterminal]
    exact not_not.mpr hprecision
  obtain ⟨l, hl, hsymbol, hword⟩ := Production.exists_slot_of_not_isTerminal hs hslot
    (m.children.map (·.text))
  rw [← hp.symbols, List.getElem?_map, Option.map_eq_some_iff] at hsymbol
  obtain ⟨child, hchild, hsymbol⟩ := hsymbol
  refine ⟨l, child, hl, hchild, hsymbol, hword.trans ?_⟩
  rw [List.getD_eq_getElem?_getD, List.getElem?_map, hchild]
  rfl

/-- A statistic for the precision of the calculations, as the form shows it: with a number. -/
def precisionStatistic : Derivation :=
  .choice "showStatistic" 0
    [.choice "<statistic type>" 0
      [.choice "<direct statistic type>" 5 [.leaf "precision" "128"]]]

private theorem names_directStatistic :
    ((statisticsGrammar.alternatives
      (statisticsGrammar.startSymbol "<direct statistic type>"))[5]?).map Production.names =
        some ["precision"] := by
  decide +kernel

theorem validFor_precisionStatistic : precisionStatistic.ValidFor statisticsGrammar := by
  have hleaf : ValueKind.ofPlaceholder? (statisticsGrammar.startSymbol "precision") =
      some .positiveInteger := by
    decide +kernel
  refine .choice_of_slotNames (by decide +kernel) fun t ht => ?_
  cases List.mem_singleton.mp ht
  refine .choice_of_slotNames (by decide +kernel) fun t ht => ?_
  cases List.mem_singleton.mp ht
  refine .choice_of_slotNames (by decide +kernel) fun t ht => ?_
  cases List.mem_singleton.mp ht
  exact .leaf hleaf (by decide)

/-- The values of this statistic as the only one of its command. -/
def precisionState : FormState :=
  (ItemPlan.group [precisionStatistic] []).fields shortDigest "showStatistic" [24]

/-- What the command for statistics is rendered with. -/
def precisionContext : RenderContext :=
  (form none {}).context shortDigest statisticsGrammar precisionState

theorem follows_precisionStatistic :
    (precisionContext.item { name := "showStatistic", repeatLimit := some (-1) } [24]).1.Follows
      statisticsGrammar (.group [precisionStatistic] []) := by
  have htree : precisionStatistic.IsTreeOf statisticsGrammar 64 "showStatistic" := by
    refine ⟨rfl, validFor_precisionStatistic, by decide, fun s i parts h => ?_⟩
    simp only [precisionStatistic, Derivation.subtrees, Derivation.subtreesBelow,
      List.mem_cons, List.append_nil, List.not_mem_nil, or_false] at h
    rcases h with h | h | h | h <;> cases h <;> decide
  have hplan : (ItemPlan.group [precisionStatistic] []).IsFor {} statisticsGrammar
      { name := "showStatistic", repeatLimit := some (-1) } :=
    .group rfl (by decide) (by decide) (List.forall_mem_singleton.mpr htree) .nil
  exact precisionContext.follows_of_state_eq hasFixedLength_shortDigest rfl rfl hplan rfl

/-- The statistic `precision` is not written out: in its place stands a field for a number. -/
theorem not_writesOut_precision :
    catalogue none = .ok (form none {}).catalogue ∧
      (∃ notices, Assembler.ofCatalogue (form none {}).catalogue {} =
        .ok (form none {}, notices)) ∧
      ∃ d notices, (form none {}).assemble shortDigest precisionState = .ok (d, notices) ∧
        ∃ item ∈ d.items, ∃ f ∈ item.commands, ∃ m ∈ f.root.nodes, ∃ p,
          m.IsResolved statisticsGrammar 5 p ∧ p.names[0]? = some "precision" ∧
            ¬p.WritesOut 0 (m.children.map (·.text)) := by
  have hcatalogue := catalogue_eq none {}
  obtain ⟨notices, hready⟩ := exists_ofCatalogue none {}
  have htitle : (form none {}).title = .ok title := rfl
  obtain ⟨d, notices', h⟩ := Assembler.exists_assemble_of_title htitle precisionState
  have hentry : (form none {}).entries[23]? =
      some (statisticsGrammar, { name := "showStatistic", repeatLimit := some (-1) }) := rfl
  have hitem : d.items[23]? = some (precisionContext.item
      { name := "showStatistic", repeatLimit := some (-1) } [24]).1 := by
    rw [Assembler.items_of_assemble h, List.getElem?_mapIdx, hentry, Option.map_some]
    rfl
  have hfollows := follows_precisionStatistic
  obtain ⟨e, he, hkeywords⟩ := writesOut_keyword_iff hcatalogue hready h hitem
  cases hentry.symm.trans he
  -- The item is the result of a whole rendering, which no later step should evaluate.
  generalize (precisionContext.item _ _).1 = item at hitem hfollows hkeywords
  obtain ⟨f, hf, m, hm, hstatistic⟩ := hfollows.exists_node (List.mem_singleton_self _)
    (u := .choice "<direct statistic type>" 5 [.leaf "precision" "128"]) (by
      simp [precisionStatistic, Derivation.subtrees, Derivation.subtreesBelow])
  obtain ⟨hsymbol, ⟨offers, tip, off, hwidget⟩, -⟩ := Node.of_derivation?_eq_choice hstatistic
  obtain ⟨p, hp, hplaces⟩ := hkeywords f hf m hm offers 5 tip off hwidget
  have hname : p.names[0]? = some "precision" := by
    have halternative := hp.alternative
    rw [hsymbol] at halternative
    have hnames := names_directStatistic
    rw [halternative] at hnames
    rw [Option.some.inj hnames]
    rfl
  refine ⟨hcatalogue, ⟨notices, hready⟩, d, notices', h, item, List.mem_of_getElem? hitem, f, hf,
    m, hm, p, hp, hname, fun hout => ?_⟩
  exact (hplaces 0 "precision" hname (by decide)).1.mp hout rfl

end Shipped

end GrammarForm
