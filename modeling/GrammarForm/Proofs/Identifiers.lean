import GrammarForm.Proofs.DefaultNotices
import GrammarForm.Proofs.Keywords
import GrammarForm.Proofs.Presentation

/-!
# Identifiers of alternatives

The identifier of an alternative joins its names by spaces.  A name may have spaces of its own, so
joining is not injective in general.  It is if every name is a symbol name: a text in angle brackets
without brackets inside, or a text that is not empty and has neither spaces nor angle brackets.

The first name can then be read off the joined text.  If the text begins with a bracket, the name
goes up to the first closing bracket, and otherwise up to the first space.  What follows is either
nothing or a space with the names that are left, so the list of names is read off by induction.

Hence two alternatives with different names have different identifiers, and the explanation that is
recorded under the identifier of one of them explains no other one.

## Main definitions

* `Text.IsBracketed`, `Text.IsBare`, `Text.IsSymbolName` : how the names of symbols are written.
* `firstName` : the name at the beginning of a joined text.
* `Grammar.HasSymbolNames` : the names in the alternatives of a grammar are symbol names.
* `Grammar.withExplanation` : a grammar with a text as the explanation of an alternative.

## Main results

* `firstName_append` : the first name is read off whatever follows it.
* `eq_of_joinedNames_eq` : lists of symbol names with the same identifier are equal.
* `Grammar.alternativeExplanation_withExplanation` : what one more explanation changes.
* `Grammar.id_distinguishes` : identifiers tell the alternatives of a grammar apart.
-/

namespace GrammarForm

/-! ### Names of symbols -/

namespace Text

/-- A text in angle brackets, without brackets inside. -/
def IsBracketed (s : String) : Prop :=
  ∃ inner : String, s = "<" ++ inner ++ ">" ∧ ∀ c ∈ inner.toList, c ≠ '<' ∧ c ≠ '>'

/-- A text that is not empty and has neither spaces nor angle brackets. -/
def IsBare (s : String) : Prop :=
  s ≠ "" ∧ ∀ c ∈ s.toList, c ≠ ' ' ∧ c ≠ '<' ∧ c ≠ '>'

/-- A name of a symbol. -/
def IsSymbolName (s : String) : Prop :=
  IsBracketed s ∨ IsBare s

end Text

/-! ### Reading a joined text -/

/-- The name at the beginning of a joined text. -/
def firstName : List Char → List Char
  | '<' :: cs => '<' :: cs.takeWhile (· != '>') ++ ['>']
  | cs => cs.takeWhile (· != ' ')

/-- Names with a space in front of each. -/
def spacedNames (names : List String) : List Char :=
  names.flatMap fun name => ' ' :: name.toList

theorem toList_joinedNames_cons (name : String) (rest : List String) :
    (joinedNames (name :: rest)).toList = name.toList ++ spacedNames rest := by
  induction rest generalizing name with
  | nil => simp [joinedNames, spacedNames, String.intercalate_singleton]
  | cons next rest ih =>
    have hnext : (" ".intercalate (next :: rest)).toList = next.toList ++ spacedNames rest :=
      ih next
    simp [joinedNames, String.intercalate_cons_cons, hnext, spacedNames]

/-- **The first name is read off** whatever follows it after a space. -/
theorem firstName_append {name : String} (h : Text.IsSymbolName name) (rest : List String) :
    firstName (name.toList ++ spacedNames rest) = name.toList := by
  rcases h with ⟨inner, rfl, hinner⟩ | ⟨hne, hbare⟩
  · have hbefore : ∀ c ∈ inner.toList, (c != '>') = true := fun c hc =>
      bne_iff_ne.mpr (hinner c hc).2
    simp [firstName, List.takeWhile_append_of_pos hbefore]
  · obtain ⟨c, cs, hcs⟩ := List.exists_cons_of_ne_nil (mt String.toList_eq_nil_iff.mp hne)
    have hbefore : ∀ c ∈ name.toList, (c != ' ') = true := fun c hc => bne_iff_ne.mpr (hbare c hc).1
    have hopen : c ≠ '<' := (hbare c (hcs ▸ List.mem_cons_self ..)).2.1
    have hread : firstName (name.toList ++ spacedNames rest) =
        (name.toList ++ spacedNames rest).takeWhile (· != ' ') := by
      rw [hcs, List.cons_append, firstName]
      exact fun _ heq => hopen (List.cons.inj heq).1
    rw [hread, List.takeWhile_append_of_pos hbefore]
    cases rest <;> simp [spacedNames]

/-- The first of two joined lists of names is the same if the texts are. -/
theorem eq_and_eq_of_append_eq {name name' : String} (h : Text.IsSymbolName name)
    (h' : Text.IsSymbolName name') {rest rest' : List String}
    (heq : name.toList ++ spacedNames rest = name'.toList ++ spacedNames rest') :
    name = name' ∧ spacedNames rest = spacedNames rest' := by
  have hname : name.toList = name'.toList := by
    rw [← firstName_append h rest, heq, firstName_append h' rest']
  exact ⟨String.toList_inj.mp hname, List.append_cancel_left (hname ▸ heq)⟩

theorem eq_of_spacedNames_eq {names : List String} (h : ∀ name ∈ names, Text.IsSymbolName name) :
    ∀ {names' : List String}, (∀ name ∈ names', Text.IsSymbolName name) →
      spacedNames names = spacedNames names' → names = names' := by
  induction names with
  | nil =>
    intro names' _ heq
    cases names' with
    | nil => rfl
    | cons name' rest' => exact nomatch heq
  | cons name rest ih =>
    intro names' h' heq
    obtain ⟨hname, hrest⟩ := List.forall_mem_cons.mp h
    cases names' with
    | nil => exact nomatch heq
    | cons name' rest' =>
      obtain ⟨hname', hrest'⟩ := List.forall_mem_cons.mp h'
      obtain ⟨rfl, hspaced⟩ := eq_and_eq_of_append_eq hname hname' (List.cons.inj heq).2
      rw [ih hrest hrest' hspaced]

theorem Text.IsSymbolName.ne_empty {name : String} (h : IsSymbolName name) : name ≠ "" := by
  rcases h with ⟨inner, rfl, -⟩ | ⟨hne, -⟩
  · intro hempty
    simpa using congrArg String.toList hempty
  · exact hne

/-- **Lists of symbol names with the same identifier are equal.** -/
theorem eq_of_joinedNames_eq {names names' : List String}
    (h : ∀ name ∈ names, Text.IsSymbolName name) (h' : ∀ name ∈ names', Text.IsSymbolName name)
    (heq : joinedNames names = joinedNames names') : names = names' := by
  have hnil {name : String} {rest : List String} (hname : Text.IsSymbolName name) :
      joinedNames (name :: rest) ≠ joinedNames [] := by
    intro hjoined
    have hchars := congrArg String.toList hjoined
    rw [toList_joinedNames_cons] at hchars
    exact hname.ne_empty (String.toList_eq_nil_iff.mp (List.append_eq_nil_iff.mp hchars).1)
  cases names with
  | nil =>
    cases names' with
    | nil => rfl
    | cons name' rest' => exact absurd heq.symm (hnil (h' name' (List.mem_cons_self ..)))
  | cons name rest =>
    cases names' with
    | nil => exact absurd heq (hnil (h name (List.mem_cons_self ..)))
    | cons name' rest' =>
      obtain ⟨hname, hrest⟩ := List.forall_mem_cons.mp h
      obtain ⟨hname', hrest'⟩ := List.forall_mem_cons.mp h'
      have hchars := congrArg String.toList heq
      rw [toList_joinedNames_cons, toList_joinedNames_cons] at hchars
      obtain ⟨rfl, hspaced⟩ := eq_and_eq_of_append_eq hname hname' hchars
      rw [eq_of_spacedNames_eq hrest hrest' hspaced]

-- Without brackets, a name with a space is not told apart from two names.
example : joinedNames ["low value"] = joinedNames ["low", "value"] := by decide

/-! ### Explanations of alternatives -/

namespace Grammar

/-- The names in the alternatives of a grammar are symbol names. -/
def HasSymbolNames (g : Grammar) : Prop :=
  ∀ r ∈ g.records, ∀ names ∈ r.productions, ∀ name ∈ names, Text.IsSymbolName name

variable {g : Grammar} {symbol : String}

theorem HasSymbolNames.of_mem_alternatives (hg : g.HasSymbolNames) {p : Production}
    (hp : p ∈ g.alternatives symbol) : ∀ name ∈ p.names, Text.IsSymbolName name := by
  obtain ⟨r, hr, -, names, hnames, rfl⟩ := exists_of_mem_alternatives hp
  rw [names_production]
  exact hg r hr names hnames

/-- Alternatives of a grammar have the same identifier only if they have the same names. -/
theorem HasSymbolNames.id_eq_iff (hg : g.HasSymbolNames) {p q : Production} {symbol' : String}
    (hp : p ∈ g.alternatives symbol) (hq : q ∈ g.alternatives symbol') :
    p.id = q.id ↔ p.names = q.names :=
  ⟨eq_of_joinedNames_eq (hg.of_mem_alternatives hp) (hg.of_mem_alternatives hq),
    fun hnames => congrArg joinedNames hnames⟩

end Grammar

/-- Records with a text as the explanation of an alternative of one symbol. -/
def explained (records : List SymbolRecord) (symbol id text : String) : List SymbolRecord :=
  records.map fun r =>
    if r.name = symbol then { r with alternatives := Entries.insert id text r.alternatives } else r

theorem map_plain_explained (records : List SymbolRecord) (symbol id text : String) :
    (explained records symbol id text).map SymbolRecord.plain =
      records.map SymbolRecord.plain := by
  rw [explained, List.map_map]
  refine List.map_congr_left fun r _ => ?_
  rw [Function.comp_apply]
  split
  · rfl
  · rfl

theorem recordOf?_explained (records : List SymbolRecord) (symbol id text name : String) :
    recordOf? (explained records symbol id text) name =
      (recordOf? records name).map fun r =>
        if r.name = symbol then { r with alternatives := Entries.insert id text r.alternatives }
        else r := by
  have hname : ((·.name == name) ∘ fun r : SymbolRecord => if r.name = symbol then
      { r with alternatives := Entries.insert id text r.alternatives } else r) =
        (·.name == name) := by
    funext r
    rw [Function.comp_apply]
    split
    · rfl
    · rfl
  rw [recordOf?, explained, List.find?_map, hname]
  rfl

namespace Grammar

/-- A grammar with a text as the explanation of an alternative of one symbol. -/
def withExplanation (g : Grammar) (symbol id text : String) : Grammar where
  records := explained g.records symbol id text
  faultless := by
    have hplain := map_plain_explained g.records symbol id text
    have hnames : (explained g.records symbol id text).map (·.name) = g.names := by
      have hname (records : List SymbolRecord) :
          (records.map SymbolRecord.plain).map (·.name) = records.map (·.name) :=
        List.map_map
      rw [← hname, hplain, hname, names]
    refine recordsFault?_eq_none_iff.mpr ⟨hnames ▸ g.nodup_names, fun r _ => ?_⟩
    rw [fullAliasChain_congr hplain]
    exact g.nodup_chain r.name

variable (g : Grammar) {symbol : String}

/-- **What one more explanation changes**: only the one under its symbol and identifier. -/
theorem alternativeExplanation_withExplanation (h : g.has symbol = true)
    (id text symbol' id' : String) :
    (g.withExplanation symbol id text).alternativeExplanation symbol' id' =
      if symbol' = symbol ∧ id' = id then text else g.alternativeExplanation symbol' id' := by
  have hrecord : (g.withExplanation symbol id text).record? symbol' =
      (g.record? symbol').map fun r => if r.name = symbol then
        { r with alternatives := Entries.insert id text r.alternatives } else r :=
    recordOf?_explained ..
  rw [alternativeExplanation, alternativeExplanation, hrecord]
  cases hr : g.record? symbol' with
  | none =>
    have hne : symbol' ≠ symbol := by
      rintro rfl
      rw [has, hr] at h
      cases h
    rw [if_neg fun hboth => hne hboth.1]
    rfl
  | some r =>
    rw [Option.map_some, Option.bind_some, Option.bind_some, (name_of_recordOf? hr).2]
    by_cases hsymbol : symbol' = symbol
    · simp only [hsymbol, if_true, true_and, Entries.get?_insert]
      split
      · rfl
      · rfl
    · rw [if_neg hsymbol, if_neg fun hboth => hsymbol hboth.1]

/-- The explanation of an alternative is the text that is recorded under its identifier. -/
theorem alternativeExplanation_of_mem {r : SymbolRecord} (hr : g.record? symbol = some r)
    (hkeys : (r.alternatives.map Prod.fst).Nodup) {id text : String}
    (h : (id, text) ∈ r.alternatives) : g.alternativeExplanation symbol id = text := by
  rw [alternativeExplanation, hr, Option.bind_some, Entries.get?_eq_some_of_mem hkeys h,
    Option.getD_some]

theorem alternativeExplanation_of_notMem {r : SymbolRecord} (hr : g.record? symbol = some r)
    {id : String} (h : ∀ text, (id, text) ∉ r.alternatives) :
    g.alternativeExplanation symbol id = "" := by
  have hnone : r.alternatives.get? id = none :=
    Option.eq_none_iff_forall_ne_some.mpr fun text heq => h text (Entries.mem_of_get?_eq_some heq)
  rw [alternativeExplanation, hr, Option.bind_some, hnone, Option.getD_none]

end Grammar

/-! ### The shipped catalogue -/

namespace Shipped

/-- Whether a text is written as the name of a symbol.  Its bytes are looked at, since many names
are checked and decoding them takes much longer. -/
def isSymbolName (s : String) : Bool :=
  (Text.bytesOf s).all (fun b => Nat.ble b.toNat 127) &&
    match (Text.bytesOf s).map fun b => Char.ofNat b.toNat with
    | [] => false
    | '<' :: cs =>
      cs.getLast? == some '>' && cs.dropLast.all fun c => c != '<' && c != '>'
    | cs => cs.all fun c => c != ' ' && c != '<' && c != '>'

theorem isSymbolName_of_isSymbolName {s : String} (h : isSymbolName s = true) :
    Text.IsSymbolName s := by
  rw [isSymbolName, Bool.and_eq_true] at h
  obtain ⟨hascii, h⟩ := h
  have hbytes (b : UInt8) (hb : b ∈ Text.bytesOf s) : b.toNat ≤ 127 :=
    Nat.le_of_ble_eq_true (List.all_eq_true.mp hascii b hb)
  rw [← Text.toList_eq_map_bytesOf hbytes] at h
  split at h
  next => exact nomatch h
  next cs hcs =>
    rw [Bool.and_eq_true, beq_iff_eq, List.all_eq_true] at h
    obtain ⟨hlast, hinner⟩ := h
    obtain ⟨inner, rfl⟩ := List.getLast?_eq_some_iff.mp hlast
    rw [List.dropLast_concat] at hinner
    refine Or.inl ⟨String.ofList inner, String.toList_inj.mp (by simp [hcs]), fun c hc => ?_⟩
    rw [String.toList_ofList] at hc
    simpa using hinner c hc
  next hnil _ =>
    refine Or.inr ⟨fun hempty => hnil (hempty ▸ rfl), fun c hc => ?_⟩
    simpa [and_assoc] using List.all_eq_true.mp h c hc

private theorem all_symbolNames : (records.all fun r => isSymbolName r.name &&
    r.productions.all fun names => names.all isSymbolName) = true := by
  decide +kernel

theorem hasSymbolNames_grammar :
    grammar.HasSymbolNames ∧ ∀ name ∈ grammar.names, Text.IsSymbolName name := by
  have hchecked (r : SymbolRecord) (hr : r ∈ records) :=
    Bool.and_eq_true _ _ ▸ List.all_eq_true.mp all_symbolNames r hr
  constructor
  · intro r hr names hnames name hname
    exact isSymbolName_of_isSymbolName <|
      List.all_eq_true.mp (List.all_eq_true.mp (hchecked r hr).2 names hnames) name hname
  · intro name hname
    obtain ⟨r, hr, rfl⟩ := List.mem_map.mp hname
    exact isSymbolName_of_isSymbolName (hchecked r hr).1

theorem hasSymbolNames_statisticsGrammar : statisticsGrammar.HasSymbolNames ∧
    ∀ name ∈ statisticsGrammar.names, Text.IsSymbolName name := by
  constructor
  · intro r hr names hnames name hname
    rcases mem_productions_of_extendRecords isExpanded_reduceType hr hnames with
      ⟨r₀, hr₀, hold⟩ | hadded
    · exact hasSymbolNames_grammar.1 r₀ hr₀ names hold name hname
    · rw [List.mem_singleton.mp hadded] at hname
      exact isSymbolName_of_isSymbolName (List.mem_singleton.mp hname ▸ by decide)
  · have hextension : grammar.IsExtension "<reduce type>" [["objectiveFunctionEvaluation"]]
        statisticsGrammar := rfl
    rw [hextension.names_eq (isSome_of_isExpanded isExpanded_reduceType)]
    exact hasSymbolNames_grammar.2

/-- **The names of the shipped catalogue are symbol names**, in every section. -/
theorem hasSymbolNames_of_mem_grammars (source : Option FilePath) (options : FormOptions) :
    ∀ g ∈ (form source options).catalogue.grammar :: (form source options).grammars,
      g.HasSymbolNames ∧ ∀ name ∈ g.names, Text.IsSymbolName name := by
  intro g hg
  simp only [form, List.mem_cons, List.not_mem_nil, or_false] at hg
  rcases hg with rfl | rfl | rfl | rfl | rfl | rfl
  exacts [hasSymbolNames_grammar, hasSymbolNames_grammar, hasSymbolNames_grammar,
    hasSymbolNames_grammar, hasSymbolNames_statisticsGrammar, hasSymbolNames_statisticsGrammar]

end Shipped

/-! ### Identifiers tell alternatives apart -/

namespace Grammar

/-- **Identifiers tell alternatives apart.**  Lists of symbol names are equal if they have the same
identifier.  The names in the shipped catalogue are symbol names, in every section.  In every
grammar with symbol names, alternatives of a symbol with different names have different identifiers.
The explanation of an alternative is the text recorded for its symbol under its identifier, and
empty without one; and recording a text there makes it the explanation of this alternative and
leaves the explanations of all others. -/
theorem id_distinguishes :
    (∀ names names' : List String, (∀ name ∈ names, Text.IsSymbolName name) →
      (∀ name ∈ names', Text.IsSymbolName name) → joinedNames names = joinedNames names' →
      names = names') ∧
    (∀ source c options a notices, Shipped.catalogue source = .ok c →
      Assembler.ofCatalogue c options = .ok (a, notices) →
      ∀ g ∈ c.grammar :: a.grammars,
        g.HasSymbolNames ∧ ∀ name ∈ g.names, Text.IsSymbolName name) ∧
    ∀ (g : Grammar) (symbol : String) (q : Production), g.HasSymbolNames →
      q ∈ g.alternatives symbol →
      (∀ p ∈ g.alternatives symbol, p.names ≠ q.names → p.id ≠ q.id) ∧
      (∀ r ∈ g.record? symbol, (r.alternatives.map Prod.fst).Nodup →
        (∀ text, (q.id, text) ∈ r.alternatives → g.alternativeExplanation symbol q.id = text) ∧
        ((∀ text, (q.id, text) ∉ r.alternatives) → g.alternativeExplanation symbol q.id = "")) ∧
      ∀ (text symbol' : String) (p : Production), p ∈ g.alternatives symbol' →
        (g.withExplanation symbol q.id text).alternativeExplanation symbol' p.id =
          if symbol' = symbol ∧ p.names = q.names then text
          else g.alternativeExplanation symbol' p.id := by
  refine ⟨fun names names' h h' heq => eq_of_joinedNames_eq h h' heq,
    fun source c options a notices hc ha => ?_, fun g symbol q hg hq => ⟨fun p hp hne => ?_,
      fun r hr hkeys => ⟨fun text hmem => g.alternativeExplanation_of_mem hr hkeys hmem,
        fun hnone => g.alternativeExplanation_of_notMem hr hnone⟩, fun text symbol' p hp => ?_⟩⟩
  · cases (Shipped.catalogue_eq source options).symm.trans hc
    obtain ⟨_, hready⟩ := Shipped.exists_ofCatalogue source options
    cases hready.symm.trans ha
    exact Shipped.hasSymbolNames_of_mem_grammars source options
  · exact fun hid => hne ((hg.id_eq_iff hp hq).mp hid)
  · have hhas : g.has symbol = true := by
      obtain ⟨r, hr, rfl, -⟩ := exists_of_mem_alternatives hq
      rw [has, record?_of_mem hr]
      rfl
    rw [g.alternativeExplanation_withExplanation hhas]
    simp only [hg.id_eq_iff hp hq]

/-- A grammar in which one alternative has the words of another one, in brackets. -/
def boundGrammar : Grammar where
  records :=
    [{ name := "bound"
       productions := [["<low value>"], ["low", "value"], ["<low value>", "value"]]
       alternatives := [("low value", "Two keywords."), ("<low value>", "One number.")] },
      { name := "<low value>", aliasOf := some "<integer value>" }]
  faultless := by decide

theorem id_distinguishes_boundGrammar : boundGrammar.HasSymbolNames ∧
    boundGrammar.production ["low", "value"] ∈ boundGrammar.alternatives "bound" ∧
    boundGrammar.production ["<low value>"] ∈ boundGrammar.alternatives "bound" ∧
    (boundGrammar.production ["low", "value"]).id ≠
      (boundGrammar.production ["<low value>"]).id ∧
    boundGrammar.alternativeExplanation "bound" "<low value>" = "One number." ∧
    (boundGrammar.withExplanation "bound" "<low value>" "A bound.").alternativeExplanation "bound"
      "low value" = "Two keywords." := by
  have hnames : boundGrammar.HasSymbolNames := fun r hr names hnames name hname =>
    Shipped.isSymbolName_of_isSymbolName <|
      (by decide : ∀ r ∈ boundGrammar.records, ∀ names ∈ r.productions, ∀ name ∈ names,
        Shipped.isSymbolName name = true) r hr names hnames name hname
  have hwords : boundGrammar.production ["low", "value"] ∈ boundGrammar.alternatives "bound" := by
    decide
  have hnumber : boundGrammar.production ["<low value>"] ∈ boundGrammar.alternatives "bound" := by
    decide
  obtain ⟨hid, hrecorded, hothers⟩ := id_distinguishes.2.2 boundGrammar "bound" _ hnames hnumber
  have hrecord : boundGrammar.record? "bound" = some _ := rfl
  exact ⟨hnames, hwords, hnumber, hid _ hwords (by decide),
    (hrecorded _ hrecord (by decide)).1 _ (List.mem_cons_of_mem _ (List.mem_cons_self ..)),
    (hothers "A bound." "bound" _ hwords).trans rfl⟩

end Grammar

end GrammarForm
