import GrammarForm.Catalogue.Reader
import GrammarForm.Proofs.Extension

/-!
# Rules between layout and grammar

A layout is checked against a grammar command by command, section by section, and the check stops at
the first fault.  The names of the commands met so far are handed on from one section to the next,
so the commands of all sections count together.  This module says what the check amounts to: when it
finds nothing, and what it has found when it stops.

## Main definitions

* `Catalogue.IsLayoutFault` : a fault really lies in a section with a given title.

## Main results

* `Catalogue.commandsFault?_eq_none_iff`, `Catalogue.sectionsFault?_eq_none_iff` : layouts without a
  fault.
* `Catalogue.isLayoutFault_of_sectionsFault?` : the fault that is found is one.
-/

namespace GrammarForm.Catalogue

/-- No symbol lists itself as an alternative. -/
theorem selfProduction?_eq_none_iff {records : List SymbolRecord} :
    selfProduction? records = none ↔ ∀ r ∈ records, [r.name] ∉ r.productions := by
  rw [selfProduction?, Option.map_eq_none_iff, List.find?_eq_none]
  exact forall₂_congr fun r _ => by rw [List.contains_iff_mem]

/-- The symbol that is found lists itself as an alternative. -/
theorem exists_of_selfProduction? {records : List SymbolRecord} {name : String}
    (h : selfProduction? records = some name) :
    ∃ r ∈ records, [r.name] ∈ r.productions ∧ r.name = name := by
  obtain ⟨r, hr, hname⟩ := Option.map_eq_some_iff.mp h
  exact ⟨r, List.mem_of_find?_eq_some hr, by simpa using List.find?_some hr, hname⟩

/-- The rules hold exactly if no symbol lists itself and no section is faulty. -/
theorem layoutFault?_eq_none_iff {source : Option FilePath} {g : Grammar}
    {sections : List LayoutSection} : layoutFault? source g sections = none ↔
      selfProduction? g.records = none ∧ sectionsFault? g [] sections = none := by
  rw [layoutFault?]
  split
  next hself => simp [hself]
  next hself => simp [hself, Option.map_eq_none_iff]

/-- A catalogue that obeys the rules is accepted. -/
theorem checked_eq_ok {c : Catalogue} (h : layoutFault? c.source c.grammar c.sections = none) :
    checked c = .ok c := by
  rw [checked]
  split
  next he => exact nomatch h.symm.trans he
  next => rfl

/-- A catalogue that breaks a rule is refused for it. -/
theorem checked_eq_error {c : Catalogue} {e : CatalogueError}
    (h : layoutFault? c.source c.grammar c.sections = some e) :
    checked c = .error (.catalogue e) := by
  rw [checked]
  split
  next he => rw [Option.some.inj (h.symm.trans he)]
  next he => exact nomatch h.symm.trans he

variable {g : Grammar}

/-! ### Layouts without a fault -/

/-- What is found by looking for names without a record. -/
theorem notMem_names_of_find? {α : Type} (name : α → String) {l : List α} {x : α}
    (h : (l.find? fun y => !g.has (name y)) = some x) : x ∈ l ∧ name x ∉ g.names := by
  have hnot : g.has (name x) = false := by simpa using List.find?_some h
  refine ⟨List.mem_of_find?_eq_some h, fun hmem => ?_⟩
  exact Bool.false_ne_true (hnot.symm.trans (Grammar.has_iff_mem_names.mpr hmem))

/-- Commands are without a fault if they and their dependents have records, and none of them was met
before. -/
theorem commandsFault?_eq_none_iff {entries : List LayoutCommand} :
    ∀ {met : List String}, commandsFault? g met entries = none ↔
      (∀ e ∈ entries, ∀ name ∈ e.name :: e.dependents, g.has name = true) ∧
        (entries.map (·.name)).Nodup ∧ ∀ e ∈ entries, e.name ∉ met := by
  induction entries with
  | nil => exact fun {met} => iff_of_true rfl ⟨nofun, List.nodup_nil, nofun⟩
  | cons e rest ih =>
    intro met
    rw [commandsFault?]
    simp only [List.forall_mem_cons (a := e), List.map_cons, List.nodup_cons]
    split
    next name hname =>
      obtain ⟨hmem, hnot⟩ := notMem_names_of_find? id hname
      exact iff_of_false nofun fun h => hnot (Grammar.has_iff_mem_names.mp (h.1.1 name hmem))
    next hknown =>
      have hhas : ∀ name ∈ e.name :: e.dependents, g.has name = true := by
        simpa using List.find?_eq_none.mp hknown
      split
      next hmet => exact iff_of_false nofun fun h => h.2.2.1 (List.contains_iff_mem.mp hmet)
      next hmet =>
        rw [List.contains_iff_mem] at hmet
        rw [ih]
        simp only [List.mem_map, not_exists, not_and]
        constructor
        · rintro ⟨hrest, hnodup, hfresh⟩
          exact ⟨⟨hhas, hrest⟩, ⟨fun e' he' => List.ne_of_not_mem_cons (hfresh e' he'), hnodup⟩,
            hmet, fun e' he' => List.not_mem_of_not_mem_cons (hfresh e' he')⟩
        · rintro ⟨⟨-, hrest⟩, ⟨hother, hnodup⟩, -, hfresh⟩
          exact ⟨hrest, hnodup, fun e' he' =>
            List.not_mem_cons_of_ne_of_not_mem (hother e' he') (hfresh e' he')⟩

/-- The commands of two lists are checked one list after the other. -/
theorem commandsFault?_append {entries later : List LayoutCommand} :
    ∀ {met : List String}, commandsFault? g met (entries ++ later) =
      (commandsFault? g met entries).or
        (commandsFault? g ((entries.map (·.name)).reverse ++ met) later) := by
  induction entries with
  | nil => exact rfl
  | cons e rest ih =>
    intro met
    rw [List.cons_append, commandsFault?, commandsFault?]
    split
    next => rfl
    next =>
      split
      next => rfl
      next =>
        rw [ih, List.map_cons, List.reverse_cons, List.append_assoc]
        rfl

theorem sectionFault?_eq_none_iff {met : List String} {s : LayoutSection} :
    sectionFault? g met s = none ↔
      (∀ e ∈ s.extensions, g.has e.1 = true) ∧ commandsFault? g met s.commands = none := by
  rw [sectionFault?]
  split
  next symbol _ he =>
    obtain ⟨hmem, hnot⟩ := notMem_names_of_find? Prod.fst he
    exact iff_of_false nofun fun h => hnot (Grammar.has_iff_mem_names.mp (h.1 _ hmem))
  next hknown => exact (and_iff_right (by simpa using List.find?_eq_none.mp hknown)).symm

/-- **Sections are without a fault** if they extend only symbols with records and their commands,
taken together, are without a fault. -/
theorem sectionsFault?_eq_none_iff {sections : List LayoutSection} :
    ∀ {met : List String}, sectionsFault? g met sections = none ↔
      (∀ s ∈ sections, ∀ e ∈ s.extensions, g.has e.1 = true) ∧
        commandsFault? g met (sections.flatMap (·.commands)) = none := by
  induction sections with
  | nil => exact fun {met} => iff_of_true rfl ⟨nofun, rfl⟩
  | cons s rest ih =>
    intro met
    rw [sectionsFault?, List.forall_mem_cons, List.flatMap_cons, commandsFault?_append,
      Option.or_eq_none_iff]
    split
    next fault hfault =>
      refine iff_of_false nofun fun h => ?_
      exact nomatch hfault.symm.trans (sectionFault?_eq_none_iff.mpr ⟨h.1.1, h.2.1⟩)
    next hnone =>
      obtain ⟨hextensions, hcommands⟩ := sectionFault?_eq_none_iff.mp hnone
      rw [ih, and_iff_right hextensions, and_iff_right hcommands]

/-- A section of a layout without a fault extends only symbols with a record. -/
theorem has_of_sectionsFault? {met : List String} {sections : List LayoutSection}
    (h : sectionsFault? g met sections = none) :
    ∀ s ∈ sections, ∀ e ∈ s.extensions, g.has e.1 = true :=
  (sectionsFault?_eq_none_iff.mp h).1

/-- The commands of a layout without a fault, and their dependents, have records. -/
theorem has_command_of_sectionsFault? {met : List String} {sections : List LayoutSection}
    (h : sectionsFault? g met sections = none) :
    ∀ s ∈ sections, ∀ e ∈ s.commands, ∀ name ∈ e.name :: e.dependents, g.has name = true :=
  fun s hs e he => (commandsFault?_eq_none_iff.mp (sectionsFault?_eq_none_iff.mp h).2).1 e
    (List.mem_flatMap.mpr ⟨s, hs, he⟩)

/-! ### Faults that are found -/

/-- A fault really lies in a section with a given title. -/
inductive IsLayoutFault (g : Grammar) (sections : List LayoutSection) :
    String → CatalogueFault → Prop
  /-- The section extends a symbol without a record. -/
  | unknownExtension {s : LayoutSection} {e : String × List (List String)} (hs : s ∈ sections)
      (he : e ∈ s.extensions) (hnot : e.1 ∉ g.names) :
      IsLayoutFault g sections s.title (.unknownExtension e.1)
  /-- The section has a command without a record, or a dependent of such a kind. -/
  | unknownCommand {s : LayoutSection} {e : LayoutCommand} {name : String} (hs : s ∈ sections)
      (he : e ∈ s.commands) (hname : name ∈ e.name :: e.dependents) (hnot : name ∉ g.names) :
      IsLayoutFault g sections s.title (.unknownCommand name)
  /-- The section has a command that stands in an earlier section or further up in it. -/
  | repeatedCommand {before after : List LayoutSection} {s : LayoutSection}
      {above below : List LayoutCommand} {e : LayoutCommand}
      (hsections : sections = before ++ s :: after) (hcommands : s.commands = above ++ e :: below)
      (he : e.name ∈ (before.flatMap (·.commands) ++ above).map (·.name)) :
      IsLayoutFault g sections s.title (.repeatedCommand e.name)

/-- The fault of commands is a name without a record or a command met before. -/
theorem of_commandsFault?_eq_some {fault : CatalogueFault} {entries : List LayoutCommand} :
    ∀ {met : List String}, commandsFault? g met entries = some fault →
      (∃ e ∈ entries, ∃ name ∈ e.name :: e.dependents, name ∉ g.names ∧
        fault = .unknownCommand name) ∨
      ∃ above e below, entries = above ++ e :: below ∧
        (e.name ∈ met ∨ e.name ∈ above.map (·.name)) ∧ fault = .repeatedCommand e.name := by
  induction entries with
  | nil => exact fun h => nomatch h
  | cons e rest ih =>
    intro met h
    rw [commandsFault?] at h
    split at h
    next name hname =>
      cases h
      obtain ⟨hmem, hnot⟩ := notMem_names_of_find? id hname
      exact .inl ⟨e, List.mem_cons_self, name, hmem, hnot, rfl⟩
    next =>
      split at h
      next hmet =>
        cases h
        exact .inr ⟨[], e, rest, rfl, .inl (List.contains_iff_mem.mp hmet), rfl⟩
      next =>
        rcases ih h with ⟨e', he', hname⟩ | ⟨above, e', below, rfl, hmet, rfl⟩
        · exact .inl ⟨e', List.mem_cons_of_mem e he', hname⟩
        · refine .inr ⟨e :: above, e', below, rfl, ?_, rfl⟩
          rw [List.map_cons]
          grind

/-- **The fault that is found in a layout** lies in a section with the title that is reported.  The
induction carries the sections that were checked, whose commands are the names met. -/
theorem isLayoutFault_of_sectionsFault? {title : String} {fault : CatalogueFault}
    {sections : List LayoutSection} : ∀ {before : List LayoutSection} {met : List String},
      (∀ name, name ∈ met ↔ name ∈ (before.flatMap (·.commands)).map (·.name)) →
      sectionsFault? g met sections = some (title, fault) →
      IsLayoutFault g (before ++ sections) title fault := by
  induction sections with
  | nil => exact fun _ h => nomatch h
  | cons s rest ih =>
    intro before met hmet h
    have hs : s ∈ before ++ s :: rest := by simp
    rw [sectionsFault?] at h
    split at h
    next hfault =>
      cases h
      rw [sectionFault?] at hfault
      split at hfault
      next he =>
        cases hfault
        obtain ⟨hmem, hnot⟩ := notMem_names_of_find? Prod.fst he
        exact .unknownExtension hs hmem hnot
      next =>
        rcases of_commandsFault?_eq_some hfault with
          ⟨e, he, name, hname, hnot, rfl⟩ | ⟨above, e, below, hcommands, hmem, rfl⟩
        · exact .unknownCommand hs he hname hnot
        · refine .repeatedCommand rfl hcommands ?_
          rwa [List.map_append, List.mem_append, ← hmet]
    next =>
      -- The section is without a fault, and its commands join the names met.
      have hmet' (name : String) : name ∈ (s.commands.map (·.name)).reverse ++ met ↔
          name ∈ ((before ++ [s]).flatMap (·.commands)).map (·.name) := by
        rw [List.mem_append, List.mem_reverse, hmet, List.flatMap_append, List.map_append,
          List.mem_append, or_comm, List.flatMap_singleton]
      have hlater := ih hmet' h
      rwa [List.append_assoc] at hlater

end GrammarForm.Catalogue
