import GrammarForm.Form.Renderer
import GrammarForm.Proofs.Numeral
import GrammarForm.Proofs.Overlay

/-!
# Laws of extensions

Extending a grammar merges productions into one record.  The new ones stand behind the old ones,
each once and in the order in which they first occur, so that merging twice is the same as merging
once, and merging one list after the other is the same as merging both in a row.  Extensions of two
symbols work on two records and can be exchanged.  Roles and everything else are looked up in the
records, so these laws hold for whole grammars.

Along the sections of a layout the alternatives of a symbol only become more, behind those that are
there already.  So an index that selects an alternative in one section selects the same one in all
later sections.

## Main definitions

* `SymbolRecord.extendedAt` : a record after an extension of a symbol.
* `Grammar.Gains` : what an extension changes, and that it changes nothing else.
* `Grammar.IsInitial` : the alternatives of a grammar are the first ones of another.

## Main results

* `Grammar.mergeProductions_eq` : the merged productions in order.
* `Catalogue.pairwise_of_overlay` : what holds across each extension holds across sections.
* `Grammar.extend_laws` : the laws of extensions, and the alternatives along the sections.
-/

namespace GrammarForm

/-! ### Merged productions -/

namespace Grammar

/-- **The merged productions**: behind the old ones stand those of the new ones that are not among
them, each once and in the order in which they first occur. -/
theorem mergeProductions_eq (old new : List (List String)) :
    mergeProductions old new = old ++ (new.filter (· ∉ old)).eraseDups := by
  rw [mergeProductions]
  induction new generalizing old with
  | nil => exact (List.append_nil old).symm
  | cons p rest ih =>
    rw [List.foldl_cons]
    by_cases hp : p ∈ old
    · rw [if_pos hp, ih, List.filter_cons_of_neg (by simpa using hp)]
    · -- From now on `p` counts as old, so that its later occurrences are passed over.
      have hlater : rest.filter (· ∉ old ++ [p]) =
          (rest.filter (· ∉ old)).filter fun q => !q == p := by
        rw [List.filter_filter]
        refine List.filter_congr fun q _ => ?_
        by_cases hq : q = p <;> by_cases hold : q ∈ old <;> simp [hq, hold]
      rw [if_neg hp, ih, List.filter_cons_of_pos (by simpa using hp), List.eraseDups_cons, hlater,
        List.append_assoc, List.singleton_append]

theorem mergeProductions_append (old ps qs : List (List String)) :
    mergeProductions (mergeProductions old ps) qs = mergeProductions old (ps ++ qs) := by
  rw [mergeProductions, mergeProductions, mergeProductions, List.foldl_append]

/-- Merging productions that are there already changes nothing. -/
theorem mergeProductions_of_subset {old new : List (List String)} (h : ∀ p ∈ new, p ∈ old) :
    mergeProductions old new = old := by
  have hnone : new.filter (· ∉ old) = [] :=
    List.filter_eq_nil_iff.mpr fun p hp => by simpa using h p hp
  rw [mergeProductions_eq, hnone]
  exact List.append_nil old

theorem mergeProductions_self (old new : List (List String)) :
    mergeProductions (mergeProductions old new) new = mergeProductions old new :=
  mergeProductions_of_subset fun _ hp => mem_mergeProductions.mpr (Or.inr hp)

end Grammar

/-! ### Extended records -/

namespace SymbolRecord

/-- A record after an extension of a symbol. -/
def extendedAt (symbol : String) (productions : List (List String)) (r : SymbolRecord) :
    SymbolRecord :=
  if r.name = symbol then r.extended productions else r

variable {a b : String} {ps qs : List (List String)}

theorem extendedAt_self (r : SymbolRecord) :
    (r.extendedAt a ps).extendedAt a ps = r.extendedAt a ps := by
  by_cases h : r.name = a
  · simp only [extendedAt, if_pos h, extended, Grammar.mergeProductions_self]
  · simp only [extendedAt, if_neg h]

theorem extendedAt_append (r : SymbolRecord) :
    (r.extendedAt a ps).extendedAt a qs = r.extendedAt a (ps ++ qs) := by
  by_cases h : r.name = a
  · simp only [extendedAt, if_pos h, extended, Grammar.mergeProductions_append]
  · simp only [extendedAt, if_neg h]

/-- Extensions of two symbols do not concern the same record. -/
theorem extendedAt_comm (hab : a ≠ b) (r : SymbolRecord) :
    (r.extendedAt a ps).extendedAt b qs = (r.extendedAt b qs).extendedAt a ps := by
  by_cases ha : r.name = a
  · have hb : r.name ≠ b := ha ▸ hab
    simp only [extendedAt, if_pos ha, extended, if_neg hb]
  · by_cases hb : r.name = b
    · simp only [extendedAt, if_pos hb, if_neg ha, extended]
    · simp only [extendedAt, if_neg ha, if_neg hb]

end SymbolRecord

/-! ### Extended grammars -/

namespace Grammar

/-- A grammar is given by its records. -/
theorem eq_of_records_eq {g g' : Grammar} (h : g.records = g'.records) : g = g' := by
  cases g
  cases g'
  cases h
  rfl

theorem extend_eq_ok_of_isExtension {g g' : Grammar} {symbol : String}
    {productions : List (List String)} (h : g.IsExtension symbol productions g') :
    g.extend symbol productions = .ok g' := by
  obtain ⟨g₁, hg₁, hextension⟩ := g.exists_extend symbol productions
  rw [hg₁, eq_of_records_eq (hextension.trans h.symm)]

/-- A change of the records that an extension makes is that extension. -/
theorem extend_eq_ok_of_records_eq {g g' : Grammar} {symbol : String}
    {productions : List (List String)} (hsymbol : g.has symbol = true)
    (h : g'.records = g.records.map (·.extendedAt symbol productions)) :
    g.extend symbol productions = .ok g' := by
  refine extend_eq_ok_of_isExtension ?_
  rw [IsExtension, h, extendRecords]
  exact (if_pos hsymbol).symm

namespace IsExtension

variable {g g' : Grammar} {a b : String} {ps qs : List (List String)}
  (h : g.IsExtension a ps g') (ha : g.has a = true)

include h ha

/-- A symbol with a record is extended by changing that record. -/
theorem records_eq : g'.records = g.records.map (·.extendedAt a ps) := by
  rw [h, extendRecords]
  exact if_pos ha

theorem has_eq_true {name : String} (hname : g.has name = true) : g'.has name = true :=
  has_iff_mem_names.mpr (h.names_eq ha ▸ has_iff_mem_names.mp hname)

/-- Extending twice by the same productions is extending once. -/
theorem extend_self : g'.extend a ps = .ok g' := by
  refine extend_eq_ok_of_records_eq (h.has_eq_true ha ha) ?_
  rw [h.records_eq ha, List.map_map]
  exact List.map_congr_left fun r _ => r.extendedAt_self.symm

/-- Extending by one list after the other is extending by both in a row. -/
theorem extend_append : g'.extend a qs = g.extend a (ps ++ qs) := by
  obtain ⟨g₁, hg₁, hextension⟩ := g.exists_extend a (ps ++ qs)
  rw [hg₁]
  refine extend_eq_ok_of_records_eq (h.has_eq_true ha ha) ?_
  rw [hextension.records_eq ha, h.records_eq ha, List.map_map]
  exact List.map_congr_left fun r _ => r.extendedAt_append.symm

/-- Extensions of two symbols can be exchanged. -/
theorem extend_comm (hb : g.has b = true) (hab : a ≠ b) :
    g'.extend b qs = (g.extend b qs).bind (·.extend a ps) := by
  obtain ⟨g₁, hg₁, hextension⟩ := g.exists_extend b qs
  obtain ⟨g₂, hg₂, hextension₂⟩ := g₁.exists_extend a ps
  rw [hg₁, Except.bind, hg₂]
  refine extend_eq_ok_of_records_eq (h.has_eq_true ha hb) ?_
  rw [hextension₂.records_eq (hextension.has_eq_true hb ha), hextension.records_eq hb,
    h.records_eq ha, List.map_map, List.map_map]
  exact List.map_congr_left fun r _ => (r.extendedAt_comm hab).symm

end IsExtension

/-- What an extension of a symbol changes.  Behind the productions of its record stand the new ones
that are not among them, each once and in the order in which they first occur; all the rest of the
record, all other records and their order, and what is found along chains of aliases stay. -/
structure Gains (g : Grammar) (symbol : String) (productions : List (List String))
    (g' : Grammar) : Prop where
  record_self : ∃ r, g.record? symbol = some r ∧ g'.record? symbol =
    some { r with
      productions := r.productions ++ (productions.filter (· ∉ r.productions)).eraseDups }
  record_of_ne : ∀ name, name ≠ symbol → g'.record? name = g.record? name
  roleOf_of_ne : ∀ name, name ≠ symbol → g'.roleOf name = g.roleOf name
  names_eq : g'.names = g.names
  startSymbol_eq : ∀ name, g'.startSymbol name = g.startSymbol name
  defaultOf_eq : ∀ name, g'.defaultOf name = g.defaultOf name
  explanation_eq : ∀ name, g'.explanation name = g.explanation name
  alternativeExplanation_eq : ∀ name id,
    g'.alternativeExplanation name id = g.alternativeExplanation name id
  repeatExplanation_eq : ∀ name, g'.repeatExplanation name = g.repeatExplanation name

/-- **What an extension changes** is the productions of its symbol. -/
theorem IsExtension.gains {g g' : Grammar} {a : String} {ps : List (List String)}
    (h : g.IsExtension a ps g') (ha : g.has a = true) : g.Gains a ps g' where
  record_self := by
    obtain ⟨r, hr⟩ := Option.isSome_iff_exists.mp ha
    refine ⟨r, hr, ?_⟩
    rw [h.record?_eq, if_pos rfl, hr, Option.getD_some, SymbolRecord.extended,
      mergeProductions_eq]
  record_of_ne name hname := by rw [h.record?_eq, if_neg hname]
  roleOf_of_ne name hname := by rw [roleOf, h.record?_eq, if_neg hname, roleOf]
  names_eq := h.names_eq ha
  startSymbol_eq := h.startSymbol_eq
  defaultOf_eq := h.defaultOf_eq
  explanation_eq := h.explanation_eq
  alternativeExplanation_eq := h.alternativeExplanation_eq
  repeatExplanation_eq name :=
    h.look_record?_eq (fun r? => (r?.map SymbolRecord.repeatExplanation).getD "") (fun _ => rfl)
      rfl name

end Grammar

/-! ### Along the sections -/

namespace Catalogue

section Across

variable {R : Grammar → Grammar → Prop} (hrefl : ∀ g, R g g)
  (htrans : ∀ {g₁ g₂ g₃}, R g₁ g₂ → R g₂ g₃ → R g₁ g₃)
  (hextend : ∀ {g symbol productions g'}, g.IsExtension symbol productions g' → R g g')

include hrefl htrans hextend

/-- What holds across each extension holds across those of a section. -/
theorem rel_of_extendAll {extensions : Entries (List (List String))} :
    ∀ {g g' : Grammar} {notices : List Notice},
      extendAll g extensions = .ok (g', notices) → R g g' := by
  induction extensions with
  | nil =>
    intro g g' notices h
    cases h
    exact hrefl g
  | cons e rest ih =>
    intro g g' notices h
    obtain ⟨g₁, after, hextension, hrest⟩ := exists_of_extendAll_cons h
    exact htrans (hextend hextension) (ih hrest)

/-- **What holds across each extension holds across sections**: between the grammar at the
beginning and each later one, and between any two of the later ones. -/
theorem pairwise_of_overlay {sections : List LayoutSection} :
    ∀ {g : Grammar} {grammars : List Grammar} {notices : List Notice},
      overlay g sections = .ok (grammars, notices) → (g :: grammars).Pairwise R := by
  induction sections with
  | nil =>
    intro g grammars notices h
    cases h
    exact List.pairwise_singleton R g
  | cons s rest ih =>
    intro g grammars notices h
    obtain ⟨current, before, later, after, hcurrent, hrest, rfl⟩ := exists_of_overlay_cons h
    have hfirst : R g current := rel_of_extendAll hrefl htrans hextend hcurrent
    have hlater := ih hrest
    refine List.pairwise_cons.mpr ⟨fun g' hg' => ?_, hlater⟩
    rcases List.mem_cons.mp hg' with rfl | hg'
    · exact hfirst
    · exact htrans hfirst ((List.pairwise_cons.mp hlater).1 g' hg')

end Across

end Catalogue

namespace Grammar

/-- The alternatives of a grammar are, by their names, the first ones of another grammar. -/
def IsInitial (g g' : Grammar) : Prop :=
  ∀ symbol, (g.alternatives symbol).map (·.names) <+: (g'.alternatives symbol).map (·.names)

theorem IsExtension.isInitial {g g' : Grammar} {symbol : String}
    {productions : List (List String)} (h : g.IsExtension symbol productions g') :
    g.IsInitial g' := by
  intro name
  rw [map_names_alternatives, map_names_alternatives]
  split
  next => exact List.prefix_rfl
  next =>
    rw [h.record?_eq]
    split_ifs with hname
    · subst hname
      cases g.record? name with
      | none => exact List.nil_prefix
      | some r => exact prefix_mergeProductions r.productions productions
    · exact List.prefix_rfl

/-- An index that is submitted for a choice selects the same alternative when there are more. -/
theorem IsInitial.submittedIndex_eq {g g' : Grammar} (h : g.IsInitial g') {symbol : String}
    {submitted : String} {i : Nat}
    (hi : Renderer.submittedIndex submitted (g.alternatives symbol).length = some i) :
    Renderer.submittedIndex submitted (g'.alternatives symbol).length = some i ∧
      ((g'.alternatives symbol)[i]?).map (·.names) =
        ((g.alternatives symbol)[i]?).map (·.names) := by
  have hlt : i < (g.alternatives symbol).length := Renderer.lt_of_submittedIndex hi
  have hlength : (g.alternatives symbol).length ≤ (g'.alternatives symbol).length := by
    simpa only [List.length_map] using (h symbol).length_le
  constructor
  · simp only [Renderer.submittedIndex] at hi ⊢
    split_ifs at hi with haccepts
    cases hi
    rw [Bool.and_eq_true, decide_eq_true_eq] at haccepts
    rw [if_pos (by rw [Bool.and_eq_true, decide_eq_true_eq]; exact ⟨haccepts.1, by omega⟩)]
  · rw [← List.getElem?_map, ← List.getElem?_map]
    obtain ⟨more, hmore⟩ := h symbol
    rw [← hmore, List.getElem?_append_left (by rwa [List.length_map])]

/-- **The laws of extensions.** A symbol of a grammar can always be extended, which changes its
productions alone.  Doing so again changes nothing, one extension after another of the same symbol
is the extension by both lists in a row, and extensions of two symbols give the same grammar in
either order.

So along the sections of an accepted catalogue the alternatives of a symbol, by their names, are
always the first ones of those in a later section, and a submitted index keeps its meaning. -/
theorem extend_laws (g : Grammar) {a b : String} (ha : g.has a = true) (hb : g.has b = true)
    (ps qs : List (List String)) {data : Data} {source : Option FilePath} {c : Catalogue}
    (hdata : Catalogue.ofData data source = .ok c) :
    (∃ g', g.extend a ps = .ok g' ∧ g.Gains a ps g' ∧ g'.extend a ps = .ok g' ∧
      g'.extend a qs = g.extend a (ps ++ qs) ∧
      (a ≠ b → g'.extend b qs = (g.extend b qs).bind (·.extend a ps))) ∧
    ∃ grammars notices, c.sectionGrammars = .ok (grammars, notices) ∧
      grammars.length = c.sections.length ∧
      ∀ (i j : Nat) (gᵢ gⱼ : Grammar), i ≤ j → grammars[i]? = some gᵢ → grammars[j]? = some gⱼ →
        ∀ symbol,
          (gᵢ.alternatives symbol).map (·.names) <+: (gⱼ.alternatives symbol).map (·.names) ∧
          ∀ submitted k,
            Renderer.submittedIndex submitted (gᵢ.alternatives symbol).length = some k →
            Renderer.submittedIndex submitted (gⱼ.alternatives symbol).length = some k ∧
              ((gⱼ.alternatives symbol)[k]?).map (·.names) =
                ((gᵢ.alternatives symbol)[k]?).map (·.names) := by
  constructor
  · obtain ⟨g', hg', hextension⟩ := g.exists_extend a ps
    exact ⟨g', hg', hextension.gains ha, hextension.extend_self ha, hextension.extend_append ha,
      hextension.extend_comm ha hb⟩
  · have hlayout := Catalogue.layoutFault?_of_ofData hdata
    obtain ⟨grammars, notices, hgrammars, hlength, -⟩ := Catalogue.exists_overlay
      (Catalogue.has_of_sectionsFault? (Catalogue.layoutFault?_eq_none_iff.mp hlayout).2)
    have hpairwise : (c.grammar :: grammars).Pairwise IsInitial :=
      Catalogue.pairwise_of_overlay (fun _ _ => List.prefix_rfl)
        (fun h h' symbol => (h symbol).trans (h' symbol)) IsExtension.isInitial hgrammars
    refine ⟨grammars, notices, hgrammars, hlength, fun i j gᵢ gⱼ hij hi hj symbol => ?_⟩
    have hinitial : gᵢ.IsInitial gⱼ := by
      obtain ⟨hi', rfl⟩ := List.getElem?_eq_some_iff.mp hi
      obtain ⟨hj', rfl⟩ := List.getElem?_eq_some_iff.mp hj
      rcases hij.eq_or_lt with rfl | hlt
      · exact fun _ => List.prefix_rfl
      · exact List.pairwise_iff_getElem.mp hpairwise.of_cons i j hi' hj' hlt
    exact ⟨hinitial symbol, fun submitted k => hinitial.submittedIndex_eq⟩

/-- A kind with an alternative that is listed twice, and the keyword of this alternative, which has
a record without alternatives. -/
def kindGrammar : Grammar where
  records := [{ name := "<kind>", productions := [["a"], ["a"]] }, { name := "a" }]
  faultless := by decide

/-- A catalogue with this grammar.  One section extends the kind, and a later one the keyword. -/
def kindData : Data :=
  .table
    [("symbols", .table
        [("<kind>", .table
            [("productions", .array [.array [.string "a"], .array [.string "a"]])]),
          ("a", .table [])]),
      ("sections", .array
        [.table
          [("title", .string "Kinds"),
            ("extend_productions", .table
              [("<kind>", .array
                [.array [.string "b"], .array [.string "a"], .array [.string "b"]])])],
          .table
            [("title", .string "Words"),
              ("extend_productions", .table [("a", .array [.array [.string "c"]])])]])]

/-- The catalogue of this data. -/
def kindCatalogue : Catalogue where
  name := .string "catalogue"
  title := .string ""
  description := .string ""
  grammar := kindGrammar
  sections :=
    [{ title := "Kinds", extensions := [("<kind>", [["b"], ["a"], ["b"]])] },
      { title := "Words", extensions := [("a", [["c"]])] }]
  source := none

theorem extend_laws_kind : kindGrammar.has "<kind>" = true ∧ kindGrammar.has "a" = true ∧
    Catalogue.ofData kindData none = .ok kindCatalogue ∧
    ∃ g', kindGrammar.extend "<kind>" [["b"], ["a"], ["b"]] = .ok g' ∧
      (g'.record? "<kind>").map (·.productions) = some [["a"], ["a"], ["b"]] ∧
      g'.extend "<kind>" [["b"], ["a"], ["b"]] = .ok g' ∧
      g'.extend "a" [["c"]] =
        (kindGrammar.extend "a" [["c"]]).bind (·.extend "<kind>" [["b"], ["a"], ["b"]]) ∧
      ∃ g₁ g₂ notices, kindCatalogue.sectionGrammars = .ok ([g₁, g₂], notices) ∧
        (g₁.alternatives "<kind>").map (·.names) <+: (g₂.alternatives "<kind>").map (·.names) := by
  have hkind : kindGrammar.has "<kind>" = true := by decide
  have hword : kindGrammar.has "a" = true := by decide
  have hdata : Catalogue.ofData kindData none = .ok kindCatalogue := rfl
  obtain ⟨⟨g', hg', hgains, hself, -, hcomm⟩, grammars, notices, hgrammars, hlength, hsections⟩ :=
    extend_laws kindGrammar hkind hword [["b"], ["a"], ["b"]] [["c"]] hdata
  obtain ⟨r, hr, hr'⟩ := hgains.record_self
  cases hr
  obtain ⟨g₁, g₂, rfl⟩ := List.length_eq_two.mp hlength
  refine ⟨hkind, hword, hdata, g', hg', ?_, hself, hcomm (by decide), g₁, g₂, notices, hgrammars,
    (hsections 0 1 g₁ g₂ (by decide) rfl rfl "<kind>").1⟩
  rw [hr']
  decide

end Grammar

end GrammarForm
