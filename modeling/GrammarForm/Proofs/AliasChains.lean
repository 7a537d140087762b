import GrammarForm.Proofs.Extension
import Mathlib.Data.List.Chain
import Mathlib.Order.WellFounded

/-!
# Where aliases lead

Following aliases from a name either comes to a name without an alias or goes on for ever.  There
are only so many records, so going on for ever means meeting a name again, and this shows within as
many steps as there are records.  A list of records is a grammar exactly if no name is given twice
and all aliases end; otherwise the first fault is reported, a cycle together with the way into it.

In a grammar the aliases of a name lead to its start symbol, and its default is the first one that
is given on the way.

## Main definitions

* `NeverEnds` : following aliases from a name never ends.
* `IsAliasCycle` : a list of names follows aliases up to the first name that is met again.
* `GrammarError.HoldsOf` : what an error says about the records.
* `Grammar.FollowsAliases`, `Grammar.IsFirstDefault` : the names from a name to its start symbol,
  and the first default on the way.

## Main results

* `nodup_fullAliasChain_iff` : aliases end exactly if no name is met twice.
* `recordsFault?_eq_none_iff_forall_not_neverEnds`, `holdsOf_of_recordsFault?` : when records are
  at fault, and what is reported.
* `Grammar.ofRecords_resolves` : grammars, errors, start symbols and defaults.
-/

namespace GrammarForm

open Relation

/-- The record of a name gives another name as its alias. -/
def IsAliasedTo (records : List SymbolRecord) (name next : String) : Prop :=
  aliasTarget? records name = some next

/-- Following aliases from a name never ends. -/
def NeverEnds (records : List SymbolRecord) (name : String) : Prop :=
  ∃ names : Nat → String, names 0 = name ∧ ∀ n, IsAliasedTo records (names n) (names (n + 1))

/-- A list of names shows a cycle of aliases: each name is the alias of the one before, and the last
one is the first to be met again. -/
structure IsAliasCycle (records : List SymbolRecord) (names : List String) : Prop where
  isChain : names.IsChain (IsAliasedTo records)
  closes : ∃ met last, names = met ++ [last] ∧ last ∈ met ∧ met.Nodup

/-! ### Aliases that end -/

/-- Following aliases from a name comes to an end. -/
def Ends (records : List SymbolRecord) : String → Prop :=
  Acc fun next name => IsAliasedTo records name next

section Chains

variable {records : List SymbolRecord} {name : String}

theorem neverEnds_iff_not_ends : NeverEnds records name ↔ ¬Ends records name :=
  (not_acc_iff_exists_descending_chain (r := fun next name => IsAliasedTo records name next)).symm

theorem head?_aliasChain (n : Nat) (name : String) :
    (aliasChain records n name).head? = some name := by
  cases n with
  | zero => rfl
  | succ n =>
    rw [aliasChain]
    split <;> rfl

/-- Each name of a chain is the alias of the one before. -/
theorem isChain_aliasChain (n : Nat) :
    ∀ name, (aliasChain records n name).IsChain (IsAliasedTo records) := by
  induction n with
  | zero => exact fun _ => List.isChain_singleton _
  | succ n ih =>
    intro name
    rw [aliasChain]
    split
    next => exact List.isChain_singleton _
    next next hnext =>
      refine List.isChain_cons.mpr ⟨fun second hsecond => ?_, ih next⟩
      rw [head?_aliasChain] at hsecond
      cases hsecond
      exact hnext

theorem Ends.not_transGen (h : Ends records name) :
    ¬TransGen (IsAliasedTo records) name name := by
  induction h with
  | intro name _ ih =>
    intro hloop
    obtain ⟨next, hnext, hback⟩ := TransGen.head'_iff.mp hloop
    exact ih next hnext (TransGen.tail' hback hnext)

/-- Aliases that end meet no name twice. -/
theorem Ends.nodup (h : Ends records name) :
    ∀ {names : List String}, names.head? = some name → names.IsChain (IsAliasedTo records) →
      names.Nodup := by
  -- A name that is met again would be reached from itself.
  induction h with
  | intro name hends ih =>
    intro names hhead hchain
    cases names with
    | nil => exact nomatch hhead
    | cons first rest =>
      cases hhead
      have hlater : (name :: rest).Pairwise (TransGen (IsAliasedTo records)) :=
        (hchain.imp fun _ _ => TransGen.single).pairwise
      have hname : name ∉ rest := fun hmem =>
        Ends.not_transGen (.intro name hends) ((List.pairwise_cons.mp hlater).1 name hmem)
      refine List.nodup_cons.mpr ⟨hname, ?_⟩
      cases rest with
      | nil => exact List.nodup_nil
      | cons next rest =>
        obtain ⟨hnext, hrest⟩ := List.isChain_cons_cons.mp hchain
        exact ih next hnext rfl hrest

/-- Aliases that come to a name without an alias end. -/
theorem ends_of_aliasTarget?_eq_none (n : Nat) : ∀ {name d : String},
    aliasTarget? records ((aliasChain records n name).getLastD d) = none → Ends records name := by
  induction n with
  | zero => exact fun {name _} h => .intro name fun next hnext => nomatch h.symm.trans hnext
  | succ n ih =>
    intro name d h
    refine .intro name fun next (hnext : aliasTarget? records name = some next) => ih (d := name) ?_
    rwa [aliasChain, hnext, List.getLastD_cons] at h

/-- **Aliases end exactly if no name is met twice** within as many steps as there are records. -/
theorem nodup_fullAliasChain_iff :
    (fullAliasChain records name).Nodup ↔ ¬NeverEnds records name := by
  rw [neverEnds_iff_not_ends, not_not]
  constructor
  · intro h
    exact ends_of_aliasTarget?_eq_none records.length
      (aliasTarget?_getLastD_aliasChain (aliasChain_length_succ_of_nodup h) name)
  · exact fun h => h.nodup (head?_aliasChain ..) (isChain_aliasChain ..)

/-! ### Faults of records -/

/-- The beginning of a list up to its first repetition. -/
theorem of_firstRepeat?_eq_some {α : Type} [DecidableEq α] {l found : List α} :
    ∀ {met : List α}, met.Nodup → firstRepeat? met l = some found →
      ∃ before last after, l = before ++ last :: after ∧ found = met ++ before ++ [last] ∧
        last ∈ met ++ before ∧ (met ++ before).Nodup := by
  induction l with
  | nil => exact fun _ h => nomatch h
  | cons x rest ih =>
    intro met hmet h
    rw [firstRepeat?] at h
    split at h
    next hx =>
      cases h
      exact ⟨[], x, rest, rfl, by rw [List.append_nil], by rwa [List.append_nil],
        by rwa [List.append_nil]⟩
    next hx =>
      have hnodup : (met ++ [x]).Nodup :=
        List.nodup_append.mpr ⟨hmet, List.pairwise_singleton _ x, fun y hy z hz heq =>
          hx (List.mem_singleton.mp hz ▸ heq ▸ hy)⟩
      obtain ⟨before, last, after, rfl, rfl, hlast, hbefore⟩ := ih hnodup h
      refine ⟨x :: before, last, after, rfl, ?_, ?_, ?_⟩
      · simp only [List.append_assoc, List.singleton_append]
      · simpa only [List.append_assoc, List.singleton_append] using hlast
      · simpa only [List.append_assoc, List.singleton_append] using hbefore

/-- What is found of a chain of aliases that meets a name twice is a cycle with the way into it. -/
theorem isAliasCycle_of_firstRepeat? {names : List String}
    (h : firstRepeat? [] (fullAliasChain records name) = some names) :
    names.head? = some name ∧ IsAliasCycle records names := by
  obtain ⟨before, last, after, hchain, rfl, hlast, hnodup⟩ :=
    of_firstRepeat?_eq_some List.nodup_nil h
  rw [List.nil_append] at hlast hnodup ⊢
  have hwhole : (before ++ [last] ++ after).IsChain (IsAliasedTo records) := by
    rw [List.append_assoc, List.singleton_append, ← hchain]
    exact isChain_aliasChain ..
  refine ⟨?_, hwhole.left_of_append, before, last, rfl, hlast, hnodup⟩
  have hhead : (fullAliasChain records name).head? = some name := head?_aliasChain ..
  rw [hchain] at hhead
  cases before with
  | nil => exact nomatch hlast
  | cons first rest => exact hhead

theorem firstRepeat?_fullAliasChain_eq_none_iff :
    firstRepeat? [] (fullAliasChain records name) = none ↔ ¬NeverEnds records name := by
  rw [firstRepeat?_eq_none_iff, nodup_fullAliasChain_iff]
  exact and_iff_left fun _ _ => List.not_mem_nil

end Chains

/-- What an error says about the records: a name is given twice, or a cycle is reached from the
first record whose aliases never end. -/
def GrammarError.HoldsOf (records : List SymbolRecord) : GrammarError → Prop
  | definedTwice name => 1 < (records.map (·.name)).count name
  | aliasCycle names =>
    ∃ before r after, records = before ++ r :: after ∧
      (∀ q ∈ before, ¬NeverEnds records q.name) ∧ NeverEnds records r.name ∧
      names.head? = some r.name ∧ IsAliasCycle records names

section Faults

variable {records : List SymbolRecord}

theorem one_lt_count_of_duplicateName? {name : String} {names : List String} :
    ∀ {met : List String}, duplicateName? met names = some name →
      1 < names.count name + met.count name := by
  induction names with
  | nil => exact fun h => nomatch h
  | cons first rest ih =>
    intro met h
    rw [duplicateName?] at h
    split at h
    next hfirst =>
      cases h
      have hmet := List.count_pos_iff.mpr hfirst
      rw [List.count_cons_self]
      omega
    next =>
      have hcount := ih h
      rw [List.count_cons] at hcount ⊢
      omega

/-- **Records are without a fault** exactly if no name is given twice and all aliases end. -/
theorem recordsFault?_eq_none_iff_forall_not_neverEnds : recordsFault? records = none ↔
    (records.map (·.name)).Nodup ∧ ∀ r ∈ records, ¬NeverEnds records r.name := by
  rw [recordsFault?_eq_none_iff]
  exact and_congr_right' (forall₂_congr fun r _ => nodup_fullAliasChain_iff)

/-- **The fault that is reported** is one of the records. -/
theorem holdsOf_of_recordsFault? {e : GrammarError} (h : recordsFault? records = some e) :
    e.HoldsOf records := by
  rw [recordsFault?] at h
  split at h
  next name hname =>
    cases h
    simpa [GrammarError.HoldsOf] using one_lt_count_of_duplicateName? hname
  next =>
    obtain ⟨names, hfound, rfl⟩ := Option.map_eq_some_iff.mp h
    obtain ⟨before, r, after, hrecords, hr, hbefore⟩ := List.findSome?_eq_some_iff.mp hfound
    obtain ⟨hhead, hcycle⟩ := isAliasCycle_of_firstRepeat? hr
    refine ⟨before, r, after, hrecords, fun q hq => ?_, ?_, hhead, hcycle⟩
    · exact firstRepeat?_fullAliasChain_eq_none_iff.mp (hbefore q hq)
    · by_contra hends
      cases (firstRepeat?_fullAliasChain_eq_none_iff.mpr hends).symm.trans hr

end Faults

/-! ### Aliases of a grammar -/

namespace Grammar

theorem ofRecords_eq_error_iff {records : List SymbolRecord} {e : GrammarError} :
    ofRecords records = .error e ↔ recordsFault? records = some e := by
  rw [ofRecords]
  split
  next h => simp [h]
  next e' h => simp [h]

theorem ofRecords_eq_ok_iff {records : List SymbolRecord} {g : Grammar} :
    ofRecords records = .ok g ↔ g.records = records := by
  constructor
  · intro h
    rw [ofRecords] at h
    split at h
    next => cases h; rfl
    next => cases h
  · rintro rfl
    exact ofRecords_eq_ok g.faultless

variable (g : Grammar)

/-- The default that the record of a name gives. -/
def ownDefault (name : String) : Option DefaultValue :=
  (g.record? name).bind (·.defaultValue)

/-- A list of names follows the aliases of a name up to its start symbol. -/
structure FollowsAliases (name : String) (names : List String) : Prop where
  head?_eq : names.head? = some name
  isChain : names.IsChain (IsAliasedTo g.records)
  getLast?_eq : names.getLast? = some (g.startSymbol name)

/-- A default is the first one that is given by a list of names; none if no name gives one. -/
def IsFirstDefault (names : List String) : Option DefaultValue → Prop
  | none => ∀ n ∈ names, g.ownDefault n = none
  | some d => ∃ before n after, names = before ++ n :: after ∧ g.ownDefault n = some d ∧
      ∀ m ∈ before, g.ownDefault m = none

theorem followsAliases_chain (name : String) : g.FollowsAliases name (g.chain name) where
  head?_eq := head?_aliasChain ..
  isChain := isChain_aliasChain ..
  getLast?_eq := by
    have hne : g.chain name ≠ [] := fun hnil =>
      nomatch (hnil ▸ head?_aliasChain .. : ([] : List String).head? = some name)
    rw [startSymbol, List.getLastD_eq_getLast?, List.getLast?_eq_getLast_of_ne_nil hne,
      Option.getD_some]

theorem isFirstDefault_defaultOf (name : String) :
    g.IsFirstDefault (g.chain name) (g.defaultOf name) := by
  rw [defaultOf]
  cases h : (g.chain name).findSome? fun n => (g.record? n).bind (·.defaultValue) with
  | none => exact List.findSome?_eq_none_iff.mp h
  | some d => exact List.findSome?_eq_some_iff.mp h

/-- The start symbol has no record, or a record without an alias. -/
theorem aliasOf_record?_startSymbol {name : String} {r : SymbolRecord}
    (hr : g.record? (g.startSymbol name) = some r) : r.aliasOf = none := by
  have hnone := g.aliasTarget?_startSymbol name
  rw [record?] at hr
  rwa [aliasTarget?, hr, Option.bind_some] at hnone

theorem startSymbol_startSymbol (name : String) :
    g.startSymbol (g.startSymbol name) = g.startSymbol name :=
  g.startSymbol_of_aliasTarget?_eq_none (g.aliasTarget?_startSymbol name)

/-- **Where aliases lead.** Records make a grammar unless a name is given twice or following aliases
from a record never ends, and an error says which of these is the case: it names the name, or goes
from the first such record along the aliases up to the first name that is met again.

In a grammar every name, with or without a record, leads along its aliases to its start symbol,
which has no alias and is its own start symbol, and the default of the name is the first one that is
given on this way. -/
theorem ofRecords_resolves (records : List SymbolRecord) :
    ((∃ e, ofRecords records = .error e) ↔
      ¬(records.map (·.name)).Nodup ∨ ∃ r ∈ records, NeverEnds records r.name) ∧
    (∀ e, ofRecords records = .error e → e.HoldsOf records) ∧
    ∀ g, ofRecords records = .ok g → g.records = records ∧ ∀ name,
      (∀ r, g.record? (g.startSymbol name) = some r → r.aliasOf = none) ∧
      g.startSymbol (g.startSymbol name) = g.startSymbol name ∧
      ∃ names, g.FollowsAliases name names ∧ g.IsFirstDefault names (g.defaultOf name) := by
  refine ⟨?_, fun e he => holdsOf_of_recordsFault? (ofRecords_eq_error_iff.mp he), ?_⟩
  · simp only [ofRecords_eq_error_iff, ← Option.isSome_iff_exists]
    rw [Option.isSome_iff_ne_none, ne_eq, recordsFault?_eq_none_iff_forall_not_neverEnds,
      not_and_or]
    exact or_congr_right (by simp only [not_forall, not_not, exists_prop])
  · intro g hg
    exact ⟨ofRecords_eq_ok_iff.mp hg, fun name =>
      ⟨fun r => g.aliasOf_record?_startSymbol, g.startSymbol_startSymbol name, g.chain name,
        g.followsAliases_chain name, g.isFirstDefault_defaultOf name⟩⟩

/-- Two units that stand for each other, and a length that leads to them. -/
def loopingUnits : List SymbolRecord :=
  [{ name := "zero", productions := [["0"]] }, { name := "length", aliasOf := some "inch" },
    { name := "inch", aliasOf := some "thumb", defaultValue := some (.text "1") },
    { name := "thumb", aliasOf := some "inch" }]

/-- The same units with a value at the end, which has no record. -/
def endingUnits : List SymbolRecord :=
  [{ name := "length", aliasOf := some "inch" },
    { name := "inch", aliasOf := some "<integer value>", defaultValue := some (.text "1") }]

theorem ofRecords_resolves_units :
    (∃ e, ofRecords loopingUnits = .error e ∧ e.HoldsOf loopingUnits) ∧
      ofRecords loopingUnits = .error (.aliasCycle ["length", "inch", "thumb", "inch"]) ∧
      (∃ r ∈ loopingUnits, NeverEnds loopingUnits r.name) ∧
    ∃ g, ofRecords endingUnits = .ok g ∧ g.startSymbol "length" = "<integer value>" ∧
      ∃ names, g.FollowsAliases "length" names ∧ g.IsFirstDefault names (some (.text "1")) := by
  have hloop : ofRecords loopingUnits = .error (.aliasCycle ["length", "inch", "thumb", "inch"]) :=
    ofRecords_eq_error_iff.mpr (by decide)
  obtain ⟨hfails, hholds, -⟩ := ofRecords_resolves loopingUnits
  refine ⟨⟨_, hloop, hholds _ hloop⟩, hloop, (hfails.mp ⟨_, hloop⟩).resolve_left (· (by decide)),
    ?_⟩
  have hgood : recordsFault? endingUnits = none := by decide
  obtain ⟨-, -, hresolves⟩ := ofRecords_resolves endingUnits
  obtain ⟨-, hnames⟩ := hresolves _ (ofRecords_eq_ok hgood)
  exact ⟨_, ofRecords_eq_ok hgood, rfl, (hnames "length").2.2⟩

end Grammar

end GrammarForm
