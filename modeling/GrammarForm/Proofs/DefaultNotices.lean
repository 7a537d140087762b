import GrammarForm.Proofs.AliasChains
import GrammarForm.Proofs.Rendering

/-!
# Warnings about defaults

A record may give an alternative as its default.  When a grammar is built, a warning is due if the
start symbol of the record has no such alternative; when the name is rendered, the default is looked
for among the same alternatives.  So the warning is due exactly for the records whose default is not
selected, and in a grammar without warnings every default is, including those that a name inherits
along its aliases.

## Main definitions

* `Node.Selects` : the alternative selected at a node has given names.

## Main results

* `Grammar.mem_notices_iff` : which records are warned about.
* `Renderer.selects_renderLevels_iff` : which defaults are selected.
* `Renderer.mem_notices_iff_not_selects` : warnings and renderings agree.
-/

namespace GrammarForm

/-- The node is a choice, and the alternative selected in it has the given names. -/
def Node.Selects (g : Grammar) (n : Node) (names : List String) : Prop :=
  ∃ offers i tip off p, n.widget = some (.choice offers (some i) tip off) ∧
    (g.alternatives (g.startSymbol n.symbol))[i]? = some p ∧ p.names = names

namespace Grammar

variable {g : Grammar}

/-- A record is the one that is found under its name. -/
theorem record?_of_mem {r : SymbolRecord} (h : r ∈ g.records) : g.record? r.name = some r := by
  rw [record?, recordOf?]
  cases hfound : g.records.find? (·.name == r.name) with
  | none => exact absurd (beq_self_eq_true r.name) (List.find?_eq_none.mp hfound r h)
  | some q =>
    obtain ⟨hq, hname⟩ := name_of_recordOf? hfound
    exact congrArg some (List.inj_on_of_nodup_map g.nodup_names hq h hname)

/-- **A record is warned about** exactly if its default is an alternative that its start symbol does
not have. -/
theorem mem_notices_iff {r : SymbolRecord} {names : List String} (h : r ∈ g.records)
    (hdefault : r.defaultValue = some (.alternative names)) :
    .unmatchedDefault names r.name ∈ g.notices ↔
      names ∉ (g.alternatives (g.startSymbol r.name)).map (·.names) := by
  rw [notices, List.mem_filterMap]
  constructor
  · rintro ⟨q, -, hq⟩
    split at hq
    next names' hnames =>
      split at hq
      next => exact nomatch hq
      next hany =>
        obtain ⟨rfl, hname⟩ := Notice.unmatchedDefault.inj (Option.some.inj hq)
        simpa [hname] using hany
    next => exact nomatch hq
  · intro hnames
    refine ⟨r, h, ?_⟩
    rw [hdefault]
    exact if_neg (by simpa using hnames)

/-! ### Defaults along aliases -/

/-- The chain of an alias goes on with the chain of its target. -/
theorem chain_eq_cons {name next : String} (h : IsAliasedTo g.records name next) :
    g.chain name = name :: g.chain next := by
  have hnext : aliasTarget? g.records name = some next := h
  rw [← g.aliasChain_length_succ name, aliasChain, hnext]
  rfl

/-- An alias has the start symbol of its target. -/
theorem startSymbol_eq_of_isAliasedTo {name next : String} (h : IsAliasedTo g.records name next) :
    g.startSymbol name = g.startSymbol next := by
  have hlast := (g.followsAliases_chain name).getLast?_eq
  obtain ⟨hhead, -, hlast'⟩ := g.followsAliases_chain next
  rw [chain_eq_cons h] at hlast
  cases hchain : g.chain next with
  | nil => exact nomatch (hchain ▸ hhead : ([] : List String).head? = some next)
  | cons first rest =>
    rw [hchain] at hlast hlast'
    rw [List.getLast?_cons_cons] at hlast
    exact Option.some.inj (hlast.symm.trans hlast')

/-- The names on the way to a start symbol have the same start symbol. -/
theorem startSymbol_eq_of_mem {names : List String}
    (hchain : names.IsChain (IsAliasedTo g.records)) : ∀ {name : String},
      names.head? = some name → ∀ n ∈ names, g.startSymbol n = g.startSymbol name := by
  induction hchain with
  | nil => exact fun h => nomatch h
  | singleton first =>
    intro name hhead n hn
    cases hhead
    rw [List.mem_singleton.mp hn]
  | @cons_cons first second rest hstep _ ih =>
    intro name hhead n hn
    cases hhead
    rcases List.mem_cons.mp hn with rfl | hn
    · rfl
    · exact (ih rfl n hn).trans (startSymbol_eq_of_isAliasedTo hstep).symm

/-- The default of a record of its own is the default of its name. -/
theorem defaultOf_of_mem {r : SymbolRecord} {d : DefaultValue} (h : r ∈ g.records)
    (hd : r.defaultValue = some d) : g.defaultOf r.name = some d := by
  obtain ⟨tail, htail⟩ := List.head?_eq_some_iff.mp (g.followsAliases_chain r.name).head?_eq
  rw [defaultOf, htail, List.findSome?_cons, record?_of_mem h, Option.bind_some, hd]

/-- A default comes from a record with the same start symbol. -/
theorem exists_record_of_defaultOf {name : String} {d : DefaultValue}
    (h : g.defaultOf name = some d) :
    ∃ r ∈ g.records, r.defaultValue = some d ∧ g.startSymbol r.name = g.startSymbol name := by
  have hfirst := g.isFirstDefault_defaultOf name
  rw [h] at hfirst
  obtain ⟨before, n, after, hchain, hown, -⟩ := hfirst
  obtain ⟨r, hr, hd⟩ := Option.bind_eq_some_iff.mp hown
  obtain ⟨hmem, rfl⟩ := name_of_recordOf? hr
  obtain ⟨hhead, hsteps, -⟩ := g.followsAliases_chain name
  exact ⟨r, hmem, hd, startSymbol_eq_of_mem hsteps hhead r.name (by simp [hchain])⟩

end Grammar

/-! ### Defaults that are selected -/

namespace Renderer

/-- A default is selected in a choice that was never submitted exactly if it is one of the
alternatives; otherwise the only alternative, if there is just one, takes its place. -/
theorem exists_choose_iff {options : List Production} {names : List String} :
    (∃ i p, choose options (some (.alternative names)) none = some i ∧ options[i]? = some p ∧
      p.names = names) ↔ names ∈ options.map (·.names) := by
  constructor
  · rintro ⟨i, p, -, hp, rfl⟩
    exact List.mem_map_of_mem (List.mem_of_getElem? hp)
  · intro hnames
    obtain ⟨q, hq, hqnames⟩ := List.mem_map.mp hnames
    cases hfind : options.findIdx? (·.names == names) with
    | none => exact absurd hqnames (by simpa using List.findIdx?_eq_none_iff.mp hfind q hq)
    | some i =>
      obtain ⟨hi, hmatch, -⟩ := List.findIdx?_eq_some_iff_getElem.mp hfind
      exact ⟨i, options[i], by simp only [choose, hfind], List.getElem?_eq_getElem hi,
        beq_iff_eq.mp hmatch⟩

variable (r : Renderer) {symbol : String} {path : Path}

/-- **A default is selected** exactly if it is one of the alternatives of the symbol, where nothing
was submitted and the node is not cut off. -/
theorem selects_renderLevels_iff (levels : Nat) {names : List String} {showLabel : Bool}
    (hstate : r.state.get? (r.key symbol path) = none) :
    (r.renderLevels (levels + 1) symbol path (some (.alternative names)) showLabel).1.Selects
        r.grammar names ↔ names ∈ (r.options symbol).map (·.names) := by
  rw [Node.Selects, (r.renderLevels_place ..).1, renderLevels_succ]
  cases hres : r.resolution symbol path (some (.alternative names)) with
  | leaf kind =>
    have hnil : r.options symbol = [] := by
      rw [options, Grammar.alternatives, resolution_eq_leaf_iff.mp hres]
      rfl
    simp [leafNode, hnil]
  | unknown => simp [unknownNode, unresolvedNode, (resolution_eq_unknown_iff.mp hres).2]
  | unresolved =>
    have hsel := (resolution_eq_unresolved_iff.mp hres).2.2
    rw [selection, hstate] at hsel
    rw [← exists_choose_iff, hsel]
    simp [openNode, unresolvedNode, choiceAmong]
  | selected i p =>
    obtain ⟨-, hsel, hp⟩ := resolution_eq_selected_iff.mp hres
    rw [selection, hstate] at hsel
    rw [← exists_choose_iff, hsel]
    simp [selectedNode, choiceAmong, options]

/-- The node is not cut off: it is rendered on at least one level. -/
theorem exists_levels_of_issue_ne {levels : Nat} {default? : Option DefaultValue} {showLabel : Bool}
    (h : (r.renderLevels levels symbol path default? showLabel).1.issue ≠ some .tooDeep) :
    ∃ levels', levels = levels' + 1 := by
  cases levels with
  | zero => exact absurd rfl h
  | succ levels => exact ⟨levels, rfl⟩

/-- In a grammar without warnings a node that starts from the default of its symbol selects it. -/
theorem selects_of_notices_eq_nil {levels : Nat} {names : List String} {showLabel : Bool}
    (hnotices : r.grammar.notices = []) (hstate : r.state.get? (r.key symbol path) = none)
    (hdefault : r.grammar.defaultOf symbol = some (.alternative names)) :
    let n := (r.renderLevels levels symbol path (r.grammar.defaultOf symbol) showLabel).1
    n.issue ≠ some .tooDeep → n.Selects r.grammar names := by
  intro n hissue
  obtain ⟨levels, rfl⟩ := r.exists_levels_of_issue_ne hissue
  -- The default may be inherited: the record that gives it was not warned about.
  obtain ⟨record, hrecord, hown, hstart⟩ := Grammar.exists_record_of_defaultOf hdefault
  have hquiet : .unmatchedDefault names record.name ∉ r.grammar.notices := by
    rw [hnotices]
    exact List.not_mem_nil
  rw [Grammar.mem_notices_iff hrecord hown, not_not, hstart] at hquiet
  simp only [n, hdefault]
  exact (r.selects_renderLevels_iff levels hstate).mpr hquiet

/-- **Warnings about defaults are exact.** A record whose own default is an alternative is warned
about exactly if rendering its name from its default, with nothing submitted and not too deeply
nested, does not select that default.

In a grammar without warnings a node selects the default of its symbol wherever it stands in a
rendering: below the root, or at the root if that starts from the default of the grammar, provided
nothing was submitted for it and it is not cut off. -/
theorem mem_notices_iff_not_selects (r : Renderer) (path : Path) (depth : Int) (showLabel : Bool) :
    (∀ record ∈ r.grammar.records, ∀ names, record.defaultValue = some (.alternative names) →
      depth ≤ r.maxDepth → r.state.get? (r.key record.name path) = none →
      (.unmatchedDefault names record.name ∈ r.grammar.notices ↔
        ¬(r.render record.name path (r.grammar.defaultOf record.name) depth showLabel).1.Selects
          r.grammar names)) ∧
    (r.grammar.notices = [] → ∀ symbol default?,
      let n := (r.render symbol path default? depth showLabel).1
      ∀ m, (m = n ∧ default? = r.grammar.defaultOf symbol) ∨ m ∈ n.children.flatMap Node.nodes →
        r.state.get? m.key = none → m.issue ≠ some .tooDeep →
        ∀ names, r.grammar.defaultOf m.symbol = some (.alternative names) →
          m.Selects r.grammar names) := by
  constructor
  · intro record hrecord names hown hdepth hstate
    obtain ⟨levels, hlevels⟩ : ∃ levels, r.levelsFrom depth = levels + 1 :=
      ⟨(r.maxDepth - depth).toNat, by rw [levelsFrom]; omega⟩
    rw [Grammar.mem_notices_iff hrecord hown, render, hlevels,
      Grammar.defaultOf_of_mem hrecord hown, r.selects_renderLevels_iff levels hstate]
    rfl
  · intro hnotices symbol default? n m hm hstate hissue names hdefault
    rcases hm with ⟨rfl, rfl⟩ | hm
    · obtain ⟨hsymbol, -, hkey⟩ := r.renderLevels_place (r.levelsFrom depth) symbol path
        (r.grammar.defaultOf symbol) showLabel
      exact r.selects_of_notices_eq_nil hnotices (hkey ▸ hstate) (hsymbol ▸ hdefault) hissue
    · obtain ⟨levels, showLabel', hm⟩ := r.exists_renderLevels_of_mem_children _ _ _ _ _ hm
      rw [hm] at hstate hissue ⊢
      rw [(r.renderLevels_place ..).2.2] at hstate
      exact r.selects_of_notices_eq_nil hnotices hstate hdefault hissue

/-- A swarm whose only topology is not the one its default asks for. -/
def forcedTopology : Grammar :=
  ⟨[{ name := "topology", productions := [["all"]], defaultValue := some (.alternative ["ring"]) }],
    by decide⟩

/-- A swarm that gets its topology by way of two aliases, the second of which has the default. -/
def inheritedTopology : Grammar :=
  ⟨[{ name := "swarm", productions := [["near", "neighborhood"]] },
    { name := "neighborhood", aliasOf := some "topology" },
    { name := "topology", aliasOf := some "<graph>", defaultValue := some (.alternative ["ring"]) },
    { name := "<graph>", productions := [["all"], ["ring"]] }], by decide⟩

/-- A form of a grammar in which nothing was submitted. -/
def untouched (g : Grammar) (command : String) : Renderer :=
  { digest := id, grammar := g, state := [], command, inline := false, maxDepth := 64 }

theorem mem_notices_iff_not_selects_topology :
    (∃ n, n = ((untouched forcedTopology "topology").render "topology" [1]
        (forcedTopology.defaultOf "topology") 0 false).1 ∧
      n.text = "all" ∧ ¬n.Selects forcedTopology ["ring"]) ∧
    ∃ n, n = ((untouched inheritedTopology "swarm").render "swarm" [1] none 0 false).1 ∧
      n.text = "near ring" ∧ ∃ m ∈ n.children.flatMap Node.nodes,
        m.symbol = "neighborhood" ∧ m.Selects inheritedTopology ["ring"] := by
  obtain ⟨hforced, -⟩ :=
    (untouched forcedTopology "topology").mem_notices_iff_not_selects [1] 0 false
  obtain ⟨-, hquiet⟩ :=
    (untouched inheritedTopology "swarm").mem_notices_iff_not_selects [1] 0 false
  refine ⟨⟨_, rfl, by decide, ?_⟩, _, rfl, by decide, ?_⟩
  · refine (hforced _ (List.mem_singleton_self _) _ rfl (by decide) rfl).mp ?_
    exact List.mem_singleton_self _
  · obtain ⟨m, hm, hfacts⟩ : ∃ m, ((untouched inheritedTopology "swarm").render "swarm" [1] none 0
        false).1.children.flatMap Node.nodes = [m] ∧ m.symbol = "neighborhood" ∧
          (untouched inheritedTopology "swarm").state.get? m.key = none ∧
          m.issue ≠ some .tooDeep := ⟨_, rfl, rfl, rfl, by decide⟩
    obtain ⟨hsymbol, hstate, hissue⟩ := hfacts
    rw [hm]
    refine ⟨m, List.mem_singleton_self m, hsymbol, ?_⟩
    refine hquiet rfl "swarm" none m (.inr (hm ▸ List.mem_singleton_self m)) hstate hissue _ ?_
    rw [hsymbol]
    rfl

end Renderer

end GrammarForm
