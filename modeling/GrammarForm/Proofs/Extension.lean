import GrammarForm.Grammar.Basic
import Mathlib.Data.List.Perm.Subperm

/-!
# Extended grammars

A grammar that is extended by alternatives for one symbol keeps its aliases and everything else
that its records say.  Only the productions of that symbol grow: the new ones stand after the old
ones.  A symbol without a record gets one, so that there is one record more to follow aliases
through; but a chain of aliases in a grammar meets no name twice, so it has ended before the
records run out, and one more does not make it longer.  So every extension is a grammar again.

A name that had alternatives or an alias, or that is a placeholder, keeps its role, and then so do
all names.

## Main definitions

* `Grammar.Hides` : the alternatives listed for a name are never offered.
* `SymbolRecord.extended` : a record with further productions.
* `Grammar.IsExtension` : a grammar is extended by productions for a symbol.

## Main results

* `Grammar.nodup_chain` : a chain of aliases meets no name twice.
* `Grammar.aliasTarget?_startSymbol` : a chain of aliases ends at a name without an alias.
* `Grammar.exists_extend` : every grammar can be extended.
* `Grammar.IsExtension.exists_alternatives_eq` : alternatives are kept, further ones added behind.
-/

namespace GrammarForm

/-! ### Lists without repetition -/

theorem firstRepeat?_eq_none_iff {α : Type} [DecidableEq α] {l : List α} :
    ∀ {met : List α}, firstRepeat? met l = none ↔ l.Nodup ∧ ∀ x ∈ l, x ∉ met := by
  induction l with
  | nil => exact fun {_} => ⟨fun _ => ⟨List.nodup_nil, nofun⟩, fun _ => rfl⟩
  | cons x rest ih =>
    intro met
    rw [firstRepeat?, List.nodup_cons, List.forall_mem_cons]
    by_cases hx : x ∈ met
    · simp [hx]
    · rw [if_neg hx, ih]
      simp only [List.mem_append, List.mem_singleton, not_or]
      constructor
      · exact fun ⟨hn, h⟩ => ⟨⟨fun hmem => (h x hmem).2 rfl, hn⟩, hx, fun y hy => (h y hy).1⟩
      · rintro ⟨⟨hmem, hn⟩, -, h⟩
        exact ⟨hn, fun y hy => ⟨h y hy, fun heq => hmem (heq ▸ hy)⟩⟩

theorem duplicateName?_eq_none_iff {names : List String} :
    ∀ {met : List String}, duplicateName? met names = none ↔
      names.Nodup ∧ ∀ name ∈ names, name ∉ met := by
  induction names with
  | nil => exact fun {_} => ⟨fun _ => ⟨List.nodup_nil, nofun⟩, fun _ => rfl⟩
  | cons name rest ih =>
    intro met
    rw [duplicateName?, List.nodup_cons, List.forall_mem_cons]
    by_cases hname : name ∈ met
    · simp [hname]
    · rw [if_neg hname, ih]
      simp only [List.mem_cons, not_or]
      constructor
      · exact fun ⟨hn, h⟩ =>
          ⟨⟨fun hmem => (h name hmem).1 rfl, hn⟩, hname, fun y hy => (h y hy).2⟩
      · rintro ⟨⟨hmem, hn⟩, -, h⟩
        exact ⟨hn, fun y hy => ⟨fun heq => hmem (heq ▸ hy), h y hy⟩⟩

/-- Records are without a fault exactly if their names are distinct and no chain of aliases meets a
name twice. -/
theorem recordsFault?_eq_none_iff {records : List SymbolRecord} :
    recordsFault? records = none ↔ (records.map (·.name)).Nodup ∧
      ∀ r ∈ records, (fullAliasChain records r.name).Nodup := by
  have hnames : duplicateName? [] (records.map (·.name)) = none ↔
      (records.map (·.name)).Nodup := by
    rw [duplicateName?_eq_none_iff]
    exact and_iff_left fun _ _ => List.not_mem_nil
  have hchain (r : SymbolRecord) : firstRepeat? [] (fullAliasChain records r.name) = none ↔
      (fullAliasChain records r.name).Nodup := by
    rw [firstRepeat?_eq_none_iff]
    exact and_iff_left fun _ _ => List.not_mem_nil
  rw [recordsFault?, ← hnames]
  split
  next name h => simp [h]
  next h => simp only [h, Option.map_eq_none_iff, List.findSome?_eq_none_iff, hchain, true_and]

/-! ### Chains of aliases -/

section Chains

variable {records records' : List SymbolRecord}

theorem name_of_recordOf? {name : String} {r : SymbolRecord} (h : recordOf? records name = some r) :
    r ∈ records ∧ r.name = name := by
  have hname := List.find?_some h
  exact ⟨List.mem_of_find?_eq_some h, beq_iff_eq.mp hname⟩

theorem mem_names_of_aliasTarget? {name next : String}
    (h : aliasTarget? records name = some next) : name ∈ records.map (·.name) := by
  obtain ⟨r, hr, -⟩ := Option.bind_eq_some_iff.mp h
  obtain ⟨hmem, hname⟩ := name_of_recordOf? hr
  exact List.mem_map.mpr ⟨r, hmem, hname⟩

theorem aliasChain_of_aliasTarget?_eq_none {name : String} (h : aliasTarget? records name = none) :
    ∀ n, aliasChain records n name = [name]
  | 0 => rfl
  | n + 1 => by rw [aliasChain, h]

/-- Chains depend only on the aliases. -/
theorem aliasChain_congr (h : ∀ name, aliasTarget? records name = aliasTarget? records' name)
    (n : Nat) : ∀ name, aliasChain records n name = aliasChain records' n name := by
  induction n with
  | zero => exact fun _ => rfl
  | succ n ih =>
    intro name
    rw [aliasChain, aliasChain, h]
    split
    next => rfl
    next next _ => rw [ih]

/-- A chain that goes on after some steps has met a record in each of them. -/
theorem aliasChain_succ_eq_or (records : List SymbolRecord) (n : Nat) :
    ∀ name, aliasChain records (n + 1) name = aliasChain records n name ∨
      (aliasChain records n name).length = n + 1 ∧
        ∀ x ∈ aliasChain records n name, x ∈ records.map (·.name) := by
  induction n with
  | zero =>
    intro name
    cases htarget : aliasTarget? records name with
    | none => exact Or.inl (aliasChain_of_aliasTarget?_eq_none htarget 1)
    | some next =>
      refine Or.inr ⟨rfl, fun x hx => ?_⟩
      cases List.mem_singleton.mp hx
      exact mem_names_of_aliasTarget? htarget
  | succ n ih =>
    intro name
    rw [aliasChain, aliasChain]
    cases htarget : aliasTarget? records name with
    | none => exact Or.inl rfl
    | some next =>
      rcases ih next with heq | ⟨hlength, hmem⟩
      · exact Or.inl (congrArg (name :: ·) heq)
      · exact Or.inr ⟨congrArg (· + 1) hlength,
          List.forall_mem_cons.mpr ⟨mem_names_of_aliasTarget? htarget, hmem⟩⟩

/-- A chain that meets no name twice has ended before the records run out. -/
theorem aliasChain_length_succ_of_nodup {name : String}
    (h : (fullAliasChain records name).Nodup) :
    aliasChain records (records.length + 1) name = fullAliasChain records name := by
  rcases aliasChain_succ_eq_or records records.length name with heq | ⟨hlength, hmem⟩
  · exact heq
  · have hle := (List.subperm_of_subset h hmem).length_le
    rw [List.length_map, fullAliasChain, hlength] at hle
    omega

/-- A chain that does not go on has ended at a name without an alias. -/
theorem aliasTarget?_getLastD_aliasChain {n : Nat} :
    ∀ {name : String}, aliasChain records (n + 1) name = aliasChain records n name →
      ∀ d, aliasTarget? records ((aliasChain records n name).getLastD d) = none := by
  induction n with
  | zero =>
    intro name h d
    cases htarget : aliasTarget? records name with
    | none => exact htarget
    | some next =>
      simp only [aliasChain, htarget] at h
      exact absurd (List.cons.inj h).2 (List.cons_ne_nil _ _)
  | succ n ih =>
    intro name h d
    rw [aliasChain, aliasChain] at h
    rw [aliasChain]
    cases htarget : aliasTarget? records name with
    | none => exact htarget
    | some next =>
      rw [htarget] at h
      rw [List.getLastD_cons]
      exact ih (List.cons.inj h).2 name

end Chains

namespace Grammar

variable (g : Grammar)

theorem has_iff_mem_names {g : Grammar} {name : String} : g.has name = true ↔ name ∈ g.names := by
  rw [has, record?, recordOf?, List.find?_isSome, names, List.mem_map]
  exact exists_congr fun r => and_congr_right' beq_iff_eq

theorem nodup_names : g.names.Nodup :=
  (recordsFault?_eq_none_iff.mp g.faultless).1

/-- **A chain of aliases meets no name twice.** -/
theorem nodup_chain (name : String) : (g.chain name).Nodup := by
  by_cases hname : name ∈ g.names
  · obtain ⟨r, hr, rfl⟩ := List.mem_map.mp hname
    exact (recordsFault?_eq_none_iff.mp g.faultless).2 r hr
  · have hnone : aliasTarget? g.records name = none :=
      Option.eq_none_iff_forall_ne_some.mpr fun next h => hname (mem_names_of_aliasTarget? h)
    rw [chain, fullAliasChain, aliasChain_of_aliasTarget?_eq_none hnone]
    exact List.pairwise_singleton _ _

/-- A chain of aliases has ended before the records run out. -/
theorem aliasChain_length_succ (name : String) :
    aliasChain g.records (g.records.length + 1) name = g.chain name :=
  aliasChain_length_succ_of_nodup (g.nodup_chain name)

/-- **A chain of aliases ends at a name without an alias.** -/
theorem aliasTarget?_startSymbol (name : String) :
    aliasTarget? g.records (g.startSymbol name) = none :=
  aliasTarget?_getLastD_aliasChain (g.aliasChain_length_succ name) name

/-- A name without an alias stands for itself. -/
theorem startSymbol_of_aliasTarget?_eq_none {name : String}
    (h : aliasTarget? g.records name = none) : g.startSymbol name = name := by
  rw [startSymbol, chain, fullAliasChain, aliasChain_of_aliasTarget?_eq_none h]
  rfl

end Grammar

/-! ### Roles -/

/-- Whether a name stands for something else: its record has an alias or alternatives. -/
def isExpanded (records : List SymbolRecord) (name : String) : Bool :=
  (recordOf? records name).any fun r => r.aliasOf.isSome || !r.productions.isEmpty

namespace Grammar

/-- A name is a kind of value, or a nonterminal if it stands for something else. -/
theorem roleOf_eq (g : Grammar) (name : String) :
    g.roleOf name = match ValueKind.ofPlaceholder? name with
      | some kind => .primitive kind
      | none => if isExpanded g.records name then .nonterminal else .terminal := by
  rw [roleOf, isExpanded, record?]
  cases ValueKind.ofPlaceholder? name with
  | some kind => rfl
  | none => cases recordOf? g.records name <;> rfl

/-- The alternatives that are listed for a name are never offered: the name is an alias or a
placeholder. -/
def Hides (g : Grammar) (name : String) : Prop :=
  aliasTarget? g.records name ≠ none ∨ ValueKind.ofPlaceholder? name ≠ none

/-- A name whose alternatives are hidden is no keyword. -/
theorem roleOf_ne_terminal_of_hides {g : Grammar} {name : String} (h : g.Hides name) :
    g.roleOf name ≠ .terminal := by
  rw [roleOf_eq]
  cases hname : ValueKind.ofPlaceholder? name with
  | some kind => exact nofun
  | none =>
    have halias : aliasTarget? g.records name ≠ none := h.resolve_right (absurd hname)
    rw [aliasTarget?] at halias
    cases hr : recordOf? g.records name with
    | none => exact absurd (by rw [hr]; rfl) halias
    | some r =>
      have hown : r.aliasOf.isSome = true := by
        rw [hr] at halias
        exact Option.isSome_iff_ne_none.mpr halias
      simp [isExpanded, hr, hown]

/-- A chain of aliases ends at a name that is a placeholder or has its alternatives offered. -/
theorem not_hides_startSymbol {g : Grammar} {name : String}
    (h : ValueKind.ofPlaceholder? (g.startSymbol name) = none) : ¬g.Hides (g.startSymbol name) :=
  not_or.mpr ⟨absurd (g.aliasTarget?_startSymbol name), absurd h⟩

theorem names_production (g : Grammar) (names : List String) :
    (g.production names).names = names := by
  rw [production, Production.names, List.map_map]
  exact List.map_id names

/-- The names in the alternatives of a symbol are those of its record. -/
theorem map_names_alternatives (g : Grammar) (symbol : String) :
    (g.alternatives symbol).map (·.names) =
      if (ValueKind.ofPlaceholder? symbol).isSome then []
      else ((g.record? symbol).map (·.productions)).getD [] := by
  rw [alternatives]
  split
  next => rfl
  next =>
    cases g.record? symbol with
    | none => rfl
    | some r =>
      simp only [List.map_map, Function.comp_def, names_production, List.map_id_fun', id,
        Option.map_some, Option.getD_some]

/-- The alternatives of a symbol are those of its record. -/
theorem exists_of_mem_alternatives {g : Grammar} {symbol : String} {p : Production}
    (hp : p ∈ g.alternatives symbol) :
    ∃ r ∈ g.records, r.name = symbol ∧ ∃ names ∈ r.productions, p = g.production names := by
  rw [alternatives] at hp
  split at hp
  next => exact absurd hp List.not_mem_nil
  next =>
    split at hp
    next r hr =>
      obtain ⟨hmem, hname⟩ := name_of_recordOf? hr
      obtain ⟨names, hnames, rfl⟩ := List.mem_map.mp hp
      exact ⟨r, hmem, hname, names, hnames, rfl⟩
    next => exact absurd hp List.not_mem_nil

/-- A name without an alias is a keyword, a placeholder, or has alternatives. -/
theorem alternatives_ne_nil {g : Grammar} {name : String} (hrole : g.roleOf name ≠ .terminal)
    (hleaf : ValueKind.ofPlaceholder? name = none)
    (halias : aliasTarget? g.records name = none) : g.alternatives name ≠ [] := by
  intro hnil
  have hnames := g.map_names_alternatives name
  rw [hnil, hleaf, Option.isSome_none, if_neg Bool.false_ne_true, record?] at hnames
  rw [aliasTarget?] at halias
  rw [roleOf_eq, hleaf, isExpanded] at hrole
  cases hr : recordOf? g.records name with
  | none => simp [hr] at hrole
  | some r =>
    have hproductions : r.productions = [] := by simpa [hr] using hnames.symm
    have hown : r.aliasOf = none := by simpa [hr] using halias
    simp [hr, hproductions, hown] at hrole

end Grammar

/-! ### Extended records -/

theorem mem_mergeProductions {old new : List (List String)} {names : List String} :
    names ∈ Grammar.mergeProductions old new ↔ names ∈ old ∨ names ∈ new := by
  rw [Grammar.mergeProductions]
  induction new generalizing old with
  | nil => simp
  | cons p rest ih =>
    rw [List.foldl_cons, ih, List.mem_cons]
    split
    next hp =>
      refine ⟨fun h => h.imp_right Or.inr, ?_⟩
      rintro (h | rfl | h)
      exacts [.inl h, .inl hp, .inr h]
    next => rw [List.mem_append, List.mem_singleton, or_assoc]

/-- Merged productions begin with the old ones. -/
theorem prefix_mergeProductions (old new : List (List String)) :
    old <+: Grammar.mergeProductions old new := by
  rw [Grammar.mergeProductions]
  induction new generalizing old with
  | nil => exact List.prefix_rfl
  | cons p rest ih =>
    rw [List.foldl_cons]
    refine List.IsPrefix.trans ?_ (ih _)
    split
    next => exact List.prefix_rfl
    next => exact List.prefix_append old [p]

/-- A record with further productions. -/
def SymbolRecord.extended (r : SymbolRecord) (productions : List (List String)) : SymbolRecord :=
  { r with productions := Grammar.mergeProductions r.productions productions }

section Extended

variable (records : List SymbolRecord) (symbol : String) (productions : List (List String))

/-- The record of a name after an extension: that of the symbol has further productions, and is a
new one if there was none; all others are the same. -/
theorem recordOf?_extendRecords (name : String) :
    recordOf? (Grammar.extendRecords records symbol productions) name =
      if name = symbol then
        some (((recordOf? records symbol).getD { name := symbol }).extended productions)
      else recordOf? records name := by
  rw [Grammar.extendRecords]
  split
  next hrecord =>
    have hfind : recordOf? (records.map fun r => if r.name = symbol then r.extended productions
        else r) name = (recordOf? records name).map fun r =>
          if r.name = symbol then r.extended productions else r := by
      rw [recordOf?, recordOf?, List.find?_map]
      congr 2
      funext r
      rw [Function.comp_apply]
      split <;> rfl
    refine hfind.trans ?_
    split
    next heq =>
      obtain ⟨r, hr⟩ := Option.isSome_iff_exists.mp hrecord
      rw [heq, hr, Option.map_some, if_pos (name_of_recordOf? hr).2, Option.getD_some]
    next hne =>
      cases hr : recordOf? records name with
      | none => rfl
      | some r => rw [Option.map_some, if_neg ((name_of_recordOf? hr).2 ▸ hne)]
  next hrecord =>
    rw [Option.not_isSome_iff_eq_none] at hrecord
    rw [recordOf?, List.find?_append, hrecord, Option.getD_none]
    split
    next heq =>
      subst heq
      rw [recordOf?] at hrecord
      rw [hrecord, Option.none_or, List.find?_singleton, if_pos (beq_self_eq_true _)]
      rfl
    next hne =>
      rw [List.find?_singleton, if_neg (by simpa using Ne.symm hne), Option.or_none]
      rfl

theorem aliasTarget?_extendRecords (name : String) :
    aliasTarget? (Grammar.extendRecords records symbol productions) name =
      aliasTarget? records name := by
  rw [aliasTarget?, recordOf?_extendRecords, aliasTarget?]
  split
  next heq =>
    subst heq
    cases recordOf? records name <;> rfl
  next => rfl

/-- The names of the records stay the same, but for the symbol if it had no record. -/
theorem map_name_extendRecords :
    (Grammar.extendRecords records symbol productions).map (·.name) =
      records.map (·.name) ++ if (recordOf? records symbol).isSome then [] else [symbol] := by
  rw [Grammar.extendRecords]
  split
  next =>
    rw [List.append_nil, List.map_map]
    refine List.map_congr_left fun r _ => ?_
    rw [Function.comp_apply]
    split <;> rfl
  next => rw [List.map_append]; rfl

/-- An expanded symbol stays expanded, and no other name becomes so. -/
theorem isExpanded_extendRecords {records : List SymbolRecord} {symbol : String}
    (h : isExpanded records symbol = true) (name : String) :
    isExpanded (Grammar.extendRecords records symbol productions) name =
      isExpanded records name := by
  rw [isExpanded, recordOf?_extendRecords]
  split
  next heq =>
    rw [heq, h]
    rw [isExpanded] at h
    cases hr : recordOf? records symbol with
    | none => simp [hr] at h
    | some r =>
      rw [hr, Option.any_some, Bool.or_eq_true, Bool.not_eq_true',
        List.isEmpty_eq_false_iff_exists_mem] at h
      rw [Option.getD_some, Option.any_some, Bool.or_eq_true, Bool.not_eq_true',
        List.isEmpty_eq_false_iff_exists_mem]
      exact h.imp_right fun ⟨names, hnames⟩ => ⟨names, mem_mergeProductions.mpr (.inl hnames)⟩
  next => rfl

end Extended

/-! ### Extended grammars -/

namespace Grammar

variable (g : Grammar) (symbol : String) (productions : List (List String))

theorem fullAliasChain_extendRecords (name : String) :
    fullAliasChain (extendRecords g.records symbol productions) name = g.chain name := by
  rw [fullAliasChain, aliasChain_congr (aliasTarget?_extendRecords g.records symbol productions)]
  rw [extendRecords]
  split
  next => rw [List.length_map]; rfl
  next => rw [List.length_append, List.length_singleton]; exact g.aliasChain_length_succ name

theorem recordsFault?_extendRecords :
    recordsFault? (extendRecords g.records symbol productions) = none := by
  refine recordsFault?_eq_none_iff.mpr ⟨?_, fun r _ => ?_⟩
  · rw [map_name_extendRecords]
    split
    next => rw [List.append_nil]; exact g.nodup_names
    next hrecord =>
      refine List.nodup_append.mpr ⟨g.nodup_names, List.pairwise_singleton _ _, ?_⟩
      rintro _ hname _ hsymbol rfl
      cases List.mem_singleton.mp hsymbol
      exact hrecord (has_iff_mem_names.mpr hname)
  · rw [fullAliasChain_extendRecords]
    exact g.nodup_chain r.name

theorem ofRecords_eq_ok {records : List SymbolRecord} (h : recordsFault? records = none) :
    ofRecords records = .ok ⟨records, h⟩ := by
  rw [ofRecords]
  split
  next => rfl
  next e he => exact absurd (h.symm.trans he) (Option.some_ne_none e).symm

/-- A grammar is extended by productions for a symbol. -/
def IsExtension (g' : Grammar) : Prop :=
  g'.records = extendRecords g.records symbol productions

theorem extend_eq_ok : g.extend symbol productions =
    .ok ⟨extendRecords g.records symbol productions,
      g.recordsFault?_extendRecords symbol productions⟩ :=
  ofRecords_eq_ok _

/-- **Every grammar can be extended.** -/
theorem exists_extend : ∃ g', g.extend symbol productions = .ok g' ∧
    g.IsExtension symbol productions g' :=
  ⟨_, g.extend_eq_ok symbol productions, rfl⟩

variable {g symbol productions}

namespace IsExtension

variable {g' : Grammar} (h : g.IsExtension symbol productions g')

include h

theorem chain_eq (name : String) : g'.chain name = g.chain name := by
  rw [chain, h, fullAliasChain_extendRecords]

theorem record?_eq (name : String) : g'.record? name =
    if name = symbol then
      some (((g.record? symbol).getD { name := symbol }).extended productions)
    else g.record? name := by
  rw [record?, h, recordOf?_extendRecords]
  rfl

/-- An extension of a symbol with a record has the same names. -/
theorem names_eq (hsymbol : g.has symbol = true) : g'.names = g.names := by
  rw [has] at hsymbol
  rw [names, h, map_name_extendRecords]
  exact (congrArg (_ ++ ·) (if_pos hsymbol)).trans (List.append_nil _)

/-- What does not look at productions, and finds nothing in a new record, finds the same. -/
theorem look_record?_eq {α : Type} (look : Option SymbolRecord → α)
    (hlook : ∀ r : SymbolRecord, look (some (r.extended productions)) = look (some r))
    (hnew : look (some { name := symbol }) = look none) (name : String) :
    look (g'.record? name) = look (g.record? name) := by
  rw [h.record?_eq]
  split
  next heq =>
    rw [heq, hlook]
    cases g.record? symbol with
    | none => exact hnew
    | some r => rfl
  next => rfl

theorem startSymbol_eq (name : String) : g'.startSymbol name = g.startSymbol name := by
  rw [startSymbol, startSymbol, h.chain_eq]

theorem explanation_eq (name : String) : g'.explanation name = g.explanation name :=
  h.look_record?_eq (fun r? => (r?.map SymbolRecord.explanation).getD "") (fun _ => rfl) rfl name

theorem alternativeExplanation_eq (name id : String) :
    g'.alternativeExplanation name id = g.alternativeExplanation name id :=
  h.look_record?_eq (fun r? => (r?.bind fun r => r.alternatives.get? id).getD "") (fun _ => rfl)
    rfl name

theorem defaultOf_eq (name : String) : g'.defaultOf name = g.defaultOf name := by
  have hown (n : String) : (g'.record? n).bind (·.defaultValue) =
      (g.record? n).bind (·.defaultValue) :=
    h.look_record?_eq (fun r? => r?.bind (·.defaultValue)) (fun _ => rfl) rfl n
  simp only [defaultOf, h.chain_eq, hown]

/-- The names in alternatives stay, and those of the new productions come up, unless the symbol is
a placeholder. -/
theorem mem_names_alternatives_iff {name : String} {names : List String} :
    names ∈ (g'.alternatives name).map (·.names) ↔
      names ∈ (g.alternatives name).map (·.names) ∨
        name = symbol ∧ ValueKind.ofPlaceholder? name = none ∧ names ∈ productions := by
  rw [map_names_alternatives, map_names_alternatives]
  split
  next hleaf =>
    have hne : ValueKind.ofPlaceholder? name ≠ none := Option.isSome_iff_ne_none.mp hleaf
    simp [hne]
  next hleaf =>
    rw [Option.not_isSome_iff_eq_none] at hleaf
    rw [h.record?_eq]
    split
    next heq =>
      subst heq
      rw [Option.map_some, Option.getD_some, SymbolRecord.extended, mem_mergeProductions]
      cases g.record? name <;> simp [hleaf]
    next hne => simp [hne]

variable (hrole : g.roleOf symbol ≠ .terminal)

include hrole

/-- If the symbol is no keyword, all names keep their roles. -/
theorem roleOf_eq (name : String) : g'.roleOf name = g.roleOf name := by
  rw [Grammar.roleOf_eq, Grammar.roleOf_eq g]
  cases hname : ValueKind.ofPlaceholder? name with
  | some kind => rfl
  | none =>
    have hexpanded : isExpanded g'.records name = isExpanded g.records name := by
      rw [h]
      by_cases heq : name = symbol
      · rw [Grammar.roleOf_eq, ← heq, hname] at hrole
        refine isExpanded_extendRecords productions ?_ name
        by_contra hnot
        exact hrole (if_neg (heq ▸ hnot))
      · rw [isExpanded, recordOf?_extendRecords, if_neg heq, isExpanded]
    rw [hexpanded]

theorem production_eq (names : List String) : g'.production names = g.production names := by
  simp only [production, h.roleOf_eq hrole]

/-- **Alternatives are kept, and further ones added behind**: for the symbol alone. -/
theorem exists_alternatives_eq (name : String) :
    ∃ more, g'.alternatives name = g.alternatives name ++ more ∧ (more ≠ [] → name = symbol) := by
  have hproduction : g'.production = g.production := funext (h.production_eq hrole)
  rw [alternatives, alternatives, h.record?_eq, hproduction]
  split
  next => exact ⟨[], rfl, fun hmore => absurd rfl hmore⟩
  next =>
    split_ifs with heq
    · subst heq
      cases g.record? name with
      | none => exact ⟨_, (List.nil_append _).symm, fun _ => rfl⟩
      | some r =>
        obtain ⟨more, hmore⟩ := prefix_mergeProductions r.productions productions
        refine ⟨more.map g.production, ?_, fun _ => rfl⟩
        rw [← List.map_append, hmore]
        rfl
    · exact ⟨[], (List.append_nil _).symm, fun hmore => absurd rfl hmore⟩

/-- A chain of aliases that ends without alternatives does so in the extended grammar. -/
theorem alternatives_startSymbol_eq_nil {name : String}
    (hnil : g.alternatives (g.startSymbol name) = []) :
    g'.alternatives (g.startSymbol name) = [] := by
  obtain ⟨more, heq, hmore⟩ := h.exists_alternatives_eq hrole (g.startSymbol name)
  by_cases hleaf : ValueKind.ofPlaceholder? (g.startSymbol name) = none
  · have hne : g.startSymbol name ≠ symbol := fun hstart =>
      alternatives_ne_nil (hstart.symm ▸ hrole) hleaf (g.aliasTarget?_startSymbol name) hnil
    rw [heq, hnil, List.nil_append]
    exact by_contra fun hmore' => hne (hmore hmore')
  · rw [alternatives, if_pos (Option.isSome_iff_ne_none.mpr hleaf)]

end IsExtension

end Grammar

end GrammarForm
