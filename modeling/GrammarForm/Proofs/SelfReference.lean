import GrammarForm.Proofs.Offers

/-!
# Symbols with themselves as an alternative

A symbol that has itself as an alternative leads nowhere: selecting that alternative shows the same
choice again, one level further down.  A catalogue whose own records list such an alternative is
refused.  The alternatives that sections add are not looked at, so that a section of an accepted
catalogue can still list a symbol as its own alternative.  This is the only way in: in the grammar
of a section a symbol has itself as an alternative exactly if this section or an earlier one says
so.

## Main definitions

* `Grammar.RefersToItself` : a symbol is one of its own alternatives.

## Main results

* `Catalogue.not_refersToItself_of_ofData` : the records of an accepted catalogue are free of it.
* `Catalogue.refersToItself_iff` : the symbols with themselves as an alternative, section by
  section.
-/

namespace GrammarForm

/-- One of the alternatives of a symbol is the symbol itself. -/
def Grammar.RefersToItself (g : Grammar) (symbol : String) : Prop :=
  [symbol] ∈ (g.alternatives symbol).map (·.names)

namespace Catalogue

/-- A grammar whose records do not list themselves has no symbol among its own alternatives. -/
theorem not_refersToItself_of_selfProduction? {g : Grammar}
    (h : selfProduction? g.records = none) (symbol : String) : ¬g.RefersToItself symbol := by
  intro hself
  obtain ⟨p, hp, hnames⟩ := List.mem_map.mp hself
  obtain ⟨r, hr, rfl, names, hmem, rfl⟩ := Grammar.exists_of_mem_alternatives hp
  rw [g.names_production] at hnames
  exact selfProduction?_eq_none_iff.mp h r hr (hnames ▸ hmem)

/-- **The records of an accepted catalogue** list no symbol as its own alternative. -/
theorem not_refersToItself_of_ofData {data : Data} {source : Option FilePath} {c : Catalogue}
    (h : ofData data source = .ok c) (symbol : String) : ¬c.grammar.RefersToItself symbol :=
  not_refersToItself_of_selfProduction?
    (layoutFault?_eq_none_iff.mp (layoutFault?_of_ofData h)).1 symbol

/-- In the grammar of a section a symbol has itself as an alternative exactly if it is no
placeholder and is listed so up to that section, provided that the grammar at the beginning is free
of it. -/
theorem refersToItself_iff_of_overlay {g g' : Grammar} {sections : List LayoutSection}
    {grammars : List Grammar} {notices : List Notice} {l : Nat}
    (hg : ∀ symbol, ¬g.RefersToItself symbol) (h : overlay g sections = .ok (grammars, notices))
    (hl : grammars[l]? = some g') (symbol : String) :
    g'.RefersToItself symbol ↔ ValueKind.ofPlaceholder? symbol = none ∧
      ∃ s ∈ sections.take (l + 1), s.Lists symbol [symbol] := by
  by_cases hleaf : ValueKind.ofPlaceholder? symbol = none
  · have hbefore : [symbol] ∉ (g.alternatives symbol).map (·.names) := hg symbol
    rw [Grammar.RefersToItself, (grows_of_overlay h hl).mem_alternatives_iff symbol [symbol] hleaf,
      or_iff_right hbefore, and_iff_right hleaf]
  · refine iff_of_false (fun hself => ?_) fun hlisted => hleaf hlisted.1
    rw [Grammar.RefersToItself, Grammar.alternatives,
      if_pos (Option.isSome_iff_ne_none.mpr hleaf)] at hself
    exact absurd hself List.not_mem_nil

/-- **Where symbols have themselves as an alternative.** An accepted catalogue can be made ready,
and its own grammar has no such symbol.  In the grammar of a section a symbol has itself as an
alternative exactly if it is no placeholder and this section or an earlier one lists it so.  Hence
the grammars of all sections are free of such symbols exactly if no section lists one. -/
theorem refersToItself_iff {data : Data} {source : Option FilePath} {c : Catalogue}
    (h : ofData data source = .ok c) :
    ∃ grammars notices, c.sectionGrammars = .ok (grammars, notices) ∧
      grammars.length = c.sections.length ∧
      (∀ symbol, ¬c.grammar.RefersToItself symbol) ∧
      (∀ (l : Nat) (g : Grammar), grammars[l]? = some g → ∀ symbol,
        g.RefersToItself symbol ↔ ValueKind.ofPlaceholder? symbol = none ∧
          ∃ s ∈ c.sections.take (l + 1), s.Lists symbol [symbol]) ∧
      ((∀ g ∈ grammars, ∀ symbol, ¬g.RefersToItself symbol) ↔
        ∀ s ∈ c.sections, ∀ symbol, ValueKind.ofPlaceholder? symbol = none →
          ¬s.Lists symbol [symbol]) := by
  obtain ⟨grammars, notices, hgrammars, hlength, -⟩ := exists_overlay
    (has_of_sectionsFault? (layoutFault?_eq_none_iff.mp (layoutFault?_of_ofData h)).2)
  have hbase := not_refersToItself_of_ofData h
  have hsection {l : Nat} {g : Grammar} (hl : grammars[l]? = some g) (symbol : String) :=
    refersToItself_iff_of_overlay hbase hgrammars hl symbol
  refine ⟨grammars, notices, hgrammars, hlength, hbase, fun l g => hsection, ?_⟩
  constructor
  · intro hfree s hs symbol hleaf hlists
    obtain ⟨l, hl, rfl⟩ := List.mem_iff_getElem.mp hs
    have hl' : l < grammars.length := hlength ▸ hl
    have hmem : c.sections[l] ∈ c.sections.take (l + 1) :=
      List.mem_take_iff_getElem.mpr ⟨l, by omega, rfl⟩
    exact hfree grammars[l] (List.getElem_mem hl') symbol
      ((hsection (List.getElem?_eq_getElem hl') symbol).mpr ⟨hleaf, _, hmem, hlists⟩)
  · intro hfree g hg symbol hself
    obtain ⟨l, hl⟩ := List.getElem?_of_mem hg
    obtain ⟨hleaf, s, hs, hlists⟩ := (hsection hl symbol).mp hself
    exact hfree s (List.mem_of_mem_take hs) symbol hleaf hlists

/-- A catalogue with a kind that its section lists as an alternative of itself. -/
def loopData : Data :=
  .table
    [("catalogue", .table [("title", .string "Loops")]),
      ("symbols", .table
        [("tool", .table [("alias", .string "<kind>")]),
          ("<kind>", .table [("productions", .array [.array [.string "a"]])])]),
      ("sections", .array
        [.table
          [("title", .string "Main"),
            ("commands", .array [.table [("name", .string "tool")]]),
            ("extend_productions", .table [("<kind>", .array [.array [.string "<kind>"]])])]])]

/-- The catalogue of this data. -/
def loopCatalogue : Catalogue where
  name := .string "catalogue"
  title := .string "Loops"
  description := .string ""
  grammar :=
    { records :=
        [{ name := "tool", aliasOf := some "<kind>" }, { name := "<kind>", productions := [["a"]] }]
      faultless := by decide }
  sections :=
    [{ title := "Main"
       commands := [{ name := "tool" }]
       extensions := [("<kind>", [["<kind>"]])] }]
  source := none

theorem refersToItself_loop : ofData loopData none = .ok loopCatalogue ∧
    ¬loopCatalogue.grammar.RefersToItself "<kind>" ∧
    ∃ g notices, loopCatalogue.sectionGrammars = .ok ([g], notices) ∧
      g.RefersToItself "<kind>" := by
  have hdata : ofData loopData none = .ok loopCatalogue := rfl
  obtain ⟨grammars, notices, hgrammars, hlength, hbase, hsections, -⟩ := refersToItself_iff hdata
  obtain ⟨g, rfl⟩ := List.length_eq_one_iff.mp hlength
  refine ⟨hdata, hbase "<kind>", g, notices, hgrammars, (hsections 0 g rfl "<kind>").mpr ?_⟩
  exact ⟨rfl, _, List.mem_cons_self .., _, List.mem_cons_self .., List.mem_cons_self ..⟩

end Catalogue

end GrammarForm
