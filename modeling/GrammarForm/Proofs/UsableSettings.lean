import GrammarForm.Proofs.LoadFaults
import GrammarForm.Proofs.NestingLimit
import GrammarForm.Proofs.Overlay
import GrammarForm.Proofs.Resubmission
import GrammarForm.Settings

/-!
# Usable settings

Settings are read from one file, or are all defaults, and only the log level can be overridden by
the environment.  Whatever the files and the environment hold, settings that were loaded can be
used: port and limits are integers within their bounds.

The limits of a form and the rules for repeated commands then fit together.  A form nests at least
one level deep, so that no command is cut off at its root.  A group may have at least one instance,
by its own maximum or by the cap of the settings, so that an empty group can be extended.

## Main definitions

* `Settings.IsUsable` : port and limits are within their bounds.
* `Settings.IsSource` : the file that settings are from.
* `Settings.IsReadFrom` : each setting is the one of a file, or its default.

## Main results

* `Catalogue.repeatLimit_of_ofData` : the limits of repeated commands in an accepted catalogue.
* `Settings.isUsable_of_load` : settings that were loaded are usable, and so are their forms.
-/

namespace GrammarForm

/-- The two parts of a computation that has a result have one each. -/
theorem exists_of_bind_eq_ok {α β ε : Type} {x : Except ε α} {f : α → Except ε β} {b : β}
    (h : x >>= f = .ok b) : ∃ a, x = .ok a ∧ f a = .ok b := by
  cases x with
  | error e => exact nomatch h
  | ok a => exact ⟨a, rfl, h⟩

/-! ### Settings and their file -/

/-- What stands in a table of decoded data under a key. -/
def Data.setting? (d : Data) (table key : String) : Option Data :=
  (d.get? table).bind (·.get? key)

/-- The value of a setting: what stands in the table under the key, or else the default. -/
def Data.setting (d : Data) (table key : String) (absent : Data) : Data :=
  (d.setting? table key).getD absent

/-- A variable of the environment is missing or empty. -/
def Surroundings.IsUnset (s : Surroundings) (name : String) : Prop :=
  ∀ v, s.environment.lookup name = some v → v = ""

/-- The text that names the log level: the one of the environment, unless it is missing or empty,
and otherwise the one of the decoded data. -/
def Surroundings.levelText (s : Surroundings) (d : Data) : String :=
  (s.environmentValue? "SWARMCONF_LOG_LEVEL").getD
    (d.setting "logging" "level" (.string "INFO")).text

namespace Surroundings

variable {s : Surroundings} {name : String}

theorem environmentValue?_eq_some_iff {v : String} :
    s.environmentValue? name = some v ↔ s.environment.lookup name = some v ∧ v ≠ "" := by
  rw [environmentValue?, Option.filter_eq_some_iff, bne_iff_ne]

theorem environmentValue?_eq_none_iff : s.environmentValue? name = none ↔ s.IsUnset name := by
  rw [Option.eq_none_iff_forall_ne_some]
  refine forall_congr' fun v => ?_
  rw [Ne, environmentValue?_eq_some_iff, not_and_not_right]

end Surroundings

theorem LogLevel.name_mem (l : LogLevel) :
    l.name ∈ ["DEBUG", "INFO", "WARNING", "ERROR", "CRITICAL"] := by
  cases l <;> decide

namespace Settings

/-- Port and limits are within their bounds, and the log level has one of the five names. -/
structure IsUsable (r : Settings) : Prop where
  port : 1 ≤ r.port ∧ r.port ≤ 65535
  repeatCap : 1 ≤ r.form.repeatCap
  maxDepth : 1 ≤ r.form.maxDepth
  logLevel : r.logLevel.name ∈ ["DEBUG", "INFO", "WARNING", "ERROR", "CRITICAL"]

/-- The file that the settings of a run are from: the one that was asked for, or else the one that
the environment names, or else the one in the working directory. -/
inductive IsSource (w : Workspace) (s : Surroundings) (path : Option FilePath) :
    Option FilePath → Prop
  | asked {file : FilePath} (hpath : path = some file) : IsSource w s path (some file)
  | named {name : String} (hpath : path = none)
      (hname : s.environment.lookup "SWARMCONF_CONFIG" = some name) (hgiven : name ≠ "") :
      IsSource w s path (some (.ofString name))
  | here (hpath : path = none) (hunset : s.IsUnset "SWARMCONF_CONFIG")
      (hpresent : Storage.isPresent (w.tree.read w.workingDirectory localFile) = true) :
      IsSource w s path (some localFile)
  | none (hpath : path = none) (hunset : s.IsUnset "SWARMCONF_CONFIG")
      (habsent : ¬Storage.isPresent (w.tree.read w.workingDirectory localFile) = true) :
      IsSource w s path none

/-- The decoded content of the file that settings are from; without a file it is empty. -/
inductive IsContent (w : Workspace) : Option FilePath → Data → Prop
  | file {file : FilePath} {content : ByteArray} {text : String} {d : Data}
      (hread : w.tree.read w.workingDirectory file = .ok content)
      (htext : String.fromUTF8? content = some text)
      (hdata : Toml.read (Text.unifyLineEnds text) = .ok d) : IsContent w (some file) d
  | none : IsContent w none (.table [])

/-- All settings but the log level are those of decoded data, or else their defaults.  Port and
limits stand there as integers, and paths are seen from the directory of the file. -/
structure IsReadFrom (s : Surroundings) (file? : Option FilePath) (d : Data) (r : Settings) :
    Prop where
  host : r.host = d.setting "server" "host" (.string "127.0.0.1")
  port : d.setting "server" "port" (.int 8000) = .int r.port
  title : r.form.title = d.setting "form" "title" .null
  repeatCap : d.setting "form" "repeat_cap" (.int 1000) = .int r.form.repeatCap
  maxDepth : d.setting "form" "max_depth" (.int 64) = .int r.form.maxDepth
  downloadFilename : r.form.downloadFilename =
    d.setting "form" "download_filename" (.string "hippso.conf")
  catalogue : readPath s (file?.getD localFile) (d.setting? "catalogue" "path") = .ok r.catalogue
  logDirectory :
    readPath s (file?.getD localFile) (d.setting? "logging" "log_dir") = .ok r.logDirectory
  logsToFile : r.logsToFile = d.setting "logging" "json_file" (.bool true)
  source : r.source = file?

/-- There is exactly one file that settings can be from, or none. -/
theorem existsUnique_isSource (w : Workspace) (s : Surroundings) (path : Option FilePath) :
    ∃! file?, IsSource w s path file? := by
  cases path with
  | some file =>
    refine ⟨some file, .asked rfl, fun file? h => ?_⟩
    cases h with
    | asked hpath => exact hpath.symm
    | named hpath | here hpath | none hpath => exact nomatch hpath
  | none =>
    cases henv : s.environmentValue? "SWARMCONF_CONFIG" with
    | some name =>
      obtain ⟨hname, hgiven⟩ := Surroundings.environmentValue?_eq_some_iff.mp henv
      refine ⟨some (.ofString name), .named rfl hname hgiven, fun file? h => ?_⟩
      cases h with
      | asked hpath => exact nomatch hpath
      | named _ hname' => rw [Option.some.inj (hname'.symm.trans hname)]
      | here _ hunset | none _ hunset => exact absurd (hunset name hname) hgiven
    | none =>
      have hunset := Surroundings.environmentValue?_eq_none_iff.mp henv
      by_cases hpresent : Storage.isPresent (w.tree.read w.workingDirectory localFile) = true
      · refine ⟨some localFile, .here rfl hunset hpresent, fun file? h => ?_⟩
        cases h with
        | asked hpath => exact nomatch hpath
        | named _ hname hgiven => exact absurd (hunset _ hname) hgiven
        | here => rfl
        | none _ _ habsent => exact absurd hpresent habsent
      · refine ⟨none, .none rfl hunset hpresent, fun file? h => ?_⟩
        cases h with
        | asked hpath => exact nomatch hpath
        | named _ hname hgiven => exact absurd (hunset _ hname) hgiven
        | here _ _ hpresent' => exact absurd hpresent' hpresent
        | none => rfl

section Reading

variable {s : Surroundings} {file : FilePath} {d : Data} {r : Settings}

/-- The entries of a table are the settings under its name. -/
theorem get?_of_settingsTable {table : String} {entries : Entries Data}
    (h : settingsTable d table = .ok entries) (key : String) :
    entries.get? key = d.setting? table key := by
  rw [settingsTable] at h
  rw [Data.setting?]
  split at h
  next hnone =>
    cases h
    rw [hnone]
    rfl
  next entries' hsome =>
    cases h
    rw [hsome]
    rfl
  next => exact nomatch h

/-- A number that was read is an integer and at least one. -/
theorem of_readCount {table key : String} {absent n : Int} {entries : Entries Data}
    (h : readCount file table key absent entries = .ok n) :
    (entries.get? key).getD (.int absent) = .int n ∧ 1 ≤ n := by
  rw [readCount] at h
  split at h
  next m hm =>
    split_ifs at h with hsmall
    cases h
    exact ⟨hm, by omega⟩
  next => exact nomatch h

theorem of_readPort {entries : Entries Data} {n : Int} (h : readPort file entries = .ok n) :
    (entries.get? "port").getD (.int 8000) = .int n ∧ 1 ≤ n ∧ n ≤ 65535 := by
  obtain ⟨m, hm, h⟩ := exists_of_bind_eq_ok h
  split_ifs at h with hlarge
  cases h
  exact ⟨(of_readCount hm).1, (of_readCount hm).2, by omega⟩

theorem ofName?_of_readLogLevel {file? : Option FilePath} {l : LogLevel}
    (h : readLogLevel file? d = .ok l) : LogLevel.ofName? d.text = some l := by
  rw [readLogLevel] at h
  split at h
  next l' hl' =>
    cases h
    exact hl'
  next => exact nomatch h

/-- **What is read from decoded data**: settings within their bounds, each from its own place. -/
theorem isReadFrom_of_ofData (h : ofData s file d = .ok r) :
    r.IsReadFrom s (some file) d ∧ r.IsUsable ∧
      LogLevel.ofName? (d.setting "logging" "level" (.string "INFO")).text = some r.logLevel := by
  obtain ⟨server, hserver, h⟩ := exists_of_bind_eq_ok h
  obtain ⟨port, hport, h⟩ := exists_of_bind_eq_ok h
  obtain ⟨form, hform, h⟩ := exists_of_bind_eq_ok h
  obtain ⟨repeatCap, hcap, h⟩ := exists_of_bind_eq_ok h
  obtain ⟨maxDepth, hdepth, h⟩ := exists_of_bind_eq_ok h
  obtain ⟨logging, hlogging, h⟩ := exists_of_bind_eq_ok h
  obtain ⟨logLevel, hlevel, h⟩ := exists_of_bind_eq_ok h
  obtain ⟨logDirectory, hdirectory, h⟩ := exists_of_bind_eq_ok h
  obtain ⟨catalogue, hcatalogue, h⟩ := exists_of_bind_eq_ok h
  obtain ⟨cataloguePath, hpath, h⟩ := exists_of_bind_eq_ok h
  cases h
  obtain ⟨hport, hbounds⟩ := of_readPort hport
  obtain ⟨hcap, hcapBound⟩ := of_readCount hcap
  obtain ⟨hdepth, hdepthBound⟩ := of_readCount hdepth
  have hlevel := ofName?_of_readLogLevel hlevel
  simp only [get?_of_settingsTable hserver, get?_of_settingsTable hform,
    get?_of_settingsTable hlogging, get?_of_settingsTable hcatalogue] at *
  exact ⟨⟨rfl, hport, rfl, hcap, hdepth, rfl, hpath, hdirectory, rfl, rfl⟩,
    ⟨hbounds, hcapBound, hdepthBound, logLevel.name_mem⟩, hlevel⟩

/-- What is read from a file is read from its decoded content. -/
theorem exists_data_of_ofFile {found : Except FileFault ByteArray}
    (h : ofFile s file found = .ok r) : ∃ content text d, found = .ok content ∧
      String.fromUTF8? content = some text ∧ Toml.read (Text.unifyLineEnds text) = .ok d ∧
      ofData s file d = .ok r := by
  cases found with
  | error fault => cases fault <;> cases h
  | ok content =>
    rw [ofFile, Storage.text] at h
    cases htext : String.fromUTF8? content with
    | none => rw [htext] at h; cases h
    | some text =>
      rw [htext] at h
      change ofText s file (Text.unifyLineEnds text) = .ok r at h
      rw [ofText] at h
      cases hdata : Toml.read (Text.unifyLineEnds text) with
      | error fault => rw [hdata] at h; cases fault <;> cases h
      | ok d =>
        rw [hdata] at h
        exact ⟨content, text, d, rfl, htext, hdata, h⟩

/-- The environment overrides the log level alone. -/
theorem of_overrideLevel {base : Settings} {t : String} (h : overrideLevel s base = .ok r)
    (ht : LogLevel.ofName? t = some base.logLevel) :
    r = { base with logLevel := r.logLevel } ∧
      LogLevel.ofName? ((s.environmentValue? "SWARMCONF_LOG_LEVEL").getD t) =
        some r.logLevel := by
  rw [overrideLevel] at h
  cases henv : s.environmentValue? "SWARMCONF_LOG_LEVEL" with
  | none =>
    rw [henv] at h
    cases h
    exact ⟨rfl, ht⟩
  | some name =>
    rw [henv] at h
    obtain ⟨level, hlevel, h⟩ := exists_of_bind_eq_ok h
    cases h
    have hname := ofName?_of_readLogLevel hlevel
    rw [Data.text] at hname
    exact ⟨rfl, hname⟩

end Reading

/-- The defaults are read from an empty table. -/
theorem isReadFrom_default (s : Surroundings) : ({} : Settings).IsReadFrom s none (.table []) :=
  ⟨rfl, rfl, rfl, rfl, rfl, rfl, rfl, rfl, rfl, rfl⟩

theorem isUsable_default : ({} : Settings).IsUsable :=
  ⟨by decide, by decide, by decide, LogLevel.name_mem _⟩

/-- The files are only read, and the one in the working directory only if no other was requested. -/
theorem ofStorage_eq (s : Surroundings) (path : Option FilePath) (w : Workspace) :
    (ofStorage s path : StateM Workspace (Except SettingsError Settings)) w =
      (match requested s path with
        | some file => ofFile s file (w.tree.read w.workingDirectory file)
        | none =>
          if Storage.isPresent (w.tree.read w.workingDirectory localFile) then
            ofFile s localFile (w.tree.read w.workingDirectory localFile)
          else .ok {}, w) := by
  rw [ofStorage]
  cases requested s path <;> rfl

/-- The environment has its say after the files. -/
theorem load_eq (s : Surroundings) (path : Option FilePath) (w : Workspace) :
    (load s path : StateM Workspace (Except SettingsError Settings)) w =
      (((ofStorage s path : StateM Workspace (Except SettingsError Settings)) w).1.bind
          (overrideLevel s),
        ((ofStorage s path : StateM Workspace (Except SettingsError Settings)) w).2) :=
  rfl

/-- **Settings come from one file, or are all defaults**, before the environment overrides the log
level. -/
theorem exists_isSource_of_ofStorage {w w' : Workspace} {s : Surroundings} {path : Option FilePath}
    {base : Settings}
    (h : (ofStorage s path : StateM Workspace (Except SettingsError Settings)) w =
      (.ok base, w')) :
    w' = w ∧ ∃ file? d, IsSource w s path file? ∧ IsContent w file? d ∧
      base.IsReadFrom s file? d ∧ base.IsUsable ∧
      LogLevel.ofName? (d.setting "logging" "level" (.string "INFO")).text =
        some base.logLevel := by
  have hfile {file : FilePath} (hsource : IsSource w s path (some file))
      (hread : ofFile s file (w.tree.read w.workingDirectory file) = .ok base) :
      ∃ file? d, IsSource w s path file? ∧ IsContent w file? d ∧ base.IsReadFrom s file? d ∧
        base.IsUsable ∧ LogLevel.ofName? (d.setting "logging" "level" (.string "INFO")).text =
          some base.logLevel := by
    obtain ⟨content, text, d, hcontent, htext, hdata, hread⟩ := exists_data_of_ofFile hread
    exact ⟨some file, d, hsource, .file hcontent htext hdata, isReadFrom_of_ofData hread⟩
  rw [ofStorage_eq] at h
  obtain ⟨hresult, rfl⟩ := Prod.mk.inj h
  refine ⟨rfl, ?_⟩
  cases path with
  | some file => exact hfile (.asked rfl) hresult
  | none =>
    rw [requested, Option.none_or] at hresult
    cases henv : s.environmentValue? "SWARMCONF_CONFIG" with
    | some name =>
      obtain ⟨hname, hgiven⟩ := Surroundings.environmentValue?_eq_some_iff.mp henv
      rw [henv] at hresult
      exact hfile (.named rfl hname hgiven) hresult
    | none =>
      have hunset := Surroundings.environmentValue?_eq_none_iff.mp henv
      rw [henv] at hresult
      dsimp only [Option.map_none] at hresult
      split_ifs at hresult with hpresent
      · exact hfile (.here rfl hunset hpresent) hresult
      · cases hresult
        exact ⟨none, .table [], .none rfl hunset hpresent, .none, isReadFrom_default s,
          isUsable_default, rfl⟩

end Settings

/-! ### Limits of repeated commands -/

section Lists

variable {α β ε : Type}

/-- Each value of a list that was mapped comes from an item. -/
theorem exists_of_mem_mapM {f : α → Except ε β} {l : List α} {b : β} :
    ∀ {l' : List β}, l.mapM f = .ok l' → b ∈ l' → ∃ a ∈ l, f a = .ok b := by
  induction l with
  | nil =>
    intro l' h hb
    cases h
    exact absurd hb List.not_mem_nil
  | cons a rest ih =>
    intro l' h hb
    rw [List.mapM_cons] at h
    obtain ⟨b₀, ha, h⟩ := exists_of_bind_eq_ok h
    obtain ⟨bs, hrest, h⟩ := exists_of_bind_eq_ok h
    cases h
    rcases List.mem_cons.mp hb with rfl | hb
    · exact ⟨a, List.mem_cons_self, ha⟩
    · obtain ⟨a', ha', hb⟩ := ih hrest hb
      exact ⟨a', List.mem_cons_of_mem a ha', hb⟩

theorem Checked.inside_eq_ok_iff {part : PlacePart} {c : Checked α} {x : α} :
    c.inside part = .ok x ↔ c = .ok x := by
  cases c with
  | ok y => exact Iff.rfl
  | error issues => exact iff_of_false nofun nofun

/-- Each value of a list of checks was checked. -/
theorem Checked.mem_of_mem_collect {x : α} {cs : List (Checked α)} :
    ∀ {xs : List α}, collect cs = .ok xs → x ∈ xs → .ok x ∈ cs := by
  induction cs with
  | nil =>
    intro xs h hx
    cases h
    exact absurd hx List.not_mem_nil
  | cons c rest ih =>
    intro xs h hx
    unfold collect at h
    split at h
    next y ys hrest =>
      cases h
      rcases List.mem_cons.mp hx with rfl | hx
      · exact List.mem_cons_self
      · exact List.mem_cons_of_mem _ (ih hrest hx)
    next => exact nomatch h

/-- Each value of a checked list passed the check. -/
theorem Field.exists_of_mem_list {item : Data → Checked α} {d : Data} {x : α} {xs : List α}
    (h : list item d = .ok xs) (hx : x ∈ xs) : ∃ d', item d' = .ok x := by
  cases d with
  | array items =>
    obtain ⟨i, hi⟩ := List.getElem?_of_mem (Checked.mem_of_mem_collect h hx)
    rw [List.getElem?_mapIdx, Option.map_eq_some_iff] at hi
    obtain ⟨d', -, hd'⟩ := hi
    exact ⟨d', Checked.inside_eq_ok_iff.mp hd'⟩
  | null | bool | int | float | string | moment | table => exact nomatch h

/-- A field has the value for a missing field, or a value that passed its check. -/
theorem Field.of_optional {entries : Entries Data} {key : String} {absent x : α}
    {check : Data → Checked α} (h : optional entries key absent check = .ok x) :
    x = absent ∨ ∃ d, check d = .ok x := by
  have h := Checked.inside_eq_ok_iff.mp h
  split at h
  next d _ => exact Or.inr ⟨d, h⟩
  next =>
    cases h
    exact Or.inl rfl

end Lists

/-- A limit of a repeated command is `-1` or positive. -/
theorem Field.of_repeatLimit {d : Data} {n : Int} (h : repeatLimit d = .ok (some n)) :
    n = -1 ∨ 1 ≤ n := by
  rw [repeatLimit.eq_def] at h
  split at h
  next => exact nomatch h
  next =>
    split at h
    next m _ =>
      split at h
      next => exact nomatch h
      next hm =>
        cases h
        omega
    next => exact nomatch h

/-- The limit of a command of a layout that was read. -/
theorem LayoutCommand.repeatLimit_of_ofData {d : Data} {e : LayoutCommand} (h : ofData d = .ok e)
    {n : Int} (hn : e.repeatLimit = some n) : n = -1 ∨ 1 ≤ n := by
  cases d with
  | table entries =>
    change ofEntries entries = .ok e at h
    rw [ofEntries] at h
    split at h
    next hlimit _ _ _ _ =>
      cases h
      rcases Field.of_optional hlimit with hnone | ⟨d, hd⟩
      · exact nomatch hn.symm.trans hnone
      · exact Field.of_repeatLimit (hd.trans (congrArg _ hn))
    next => exact nomatch h
  | null | bool | int | float | string | moment | array => exact nomatch h

/-- Each command of a section that was read was itself read. -/
theorem LayoutSection.exists_of_mem_commands {d : Data} {s : LayoutSection} (h : ofData d = .ok s)
    {e : LayoutCommand} (he : e ∈ s.commands) : ∃ d', LayoutCommand.ofData d' = .ok e := by
  cases d with
  | table entries =>
    change ofEntries entries = .ok s at h
    rw [ofEntries] at h
    split at h
    next hcommands _ _ =>
      cases h
      rcases Field.of_optional hcommands with rfl | ⟨d, hd⟩
      · exact absurd he List.not_mem_nil
      · exact Field.exists_of_mem_list hd he
    next => exact nomatch h
  | null | bool | int | float | string | moment | array => exact nomatch h

/-- **The limit of a repeated command** in an accepted catalogue is `-1` or positive. -/
theorem Catalogue.repeatLimit_of_ofData {data : Data} {source : Option FilePath} {c : Catalogue}
    (h : ofData data source = .ok c) {e : LayoutCommand} (he : e ∈ c.commands) {n : Int}
    (hn : e.repeatLimit = some n) : n = -1 ∨ 1 ≤ n := by
  obtain ⟨g, -, h⟩ := exists_of_bind_eq_ok h
  rw [withGrammar] at h
  split at h
  next info _ =>
    obtain ⟨sections, hsections, h⟩ := exists_of_bind_eq_ok h
    obtain ⟨bodies, -, hsections⟩ := exists_of_bind_eq_ok hsections
    have hlayout : c.sections = sections := by
      rw [checked] at h
      split at h
      next => cases h
      next => cases h; rfl
    obtain ⟨s, hs, he⟩ := List.mem_flatMap.mp he
    obtain ⟨⟨i, body⟩, -, hbody⟩ := exists_of_mem_mapM hsections (hlayout ▸ hs)
    obtain ⟨d, hd⟩ := LayoutSection.exists_of_mem_commands (readSection_eq_ok_iff.mp hbody) he
    exact LayoutCommand.repeatLimit_of_ofData hd hn
  next => cases h

/-! ### Forms with usable limits -/

namespace Assembler

variable {a : Assembler} {digest : String → String} {state : FormState} {d : Document}
  {notices : List Notice}

/-- In a form with at least one level no command is cut off at its root. -/
theorem issue_root_ne_tooDeep (hdepth : 0 ≤ a.options.maxDepth)
    (h : a.assemble digest state = .ok (d, notices)) {item : FormItem} (hitem : item ∈ d.items)
    {f : CommandForm} (hf : f ∈ item.commands) : f.root.issue ≠ some .tooDeep := by
  obtain ⟨i, hi⟩ := List.getElem?_of_mem hitem
  obtain ⟨e, -, rfl⟩ := exists_entry_of_items h hi
  obtain ⟨entry, path, rfl⟩ := RenderContext.exists_command_of_item hf
  obtain ⟨levels, hlevels⟩ : ∃ levels, ((a.context digest e.1 state).renderer entry.name
      entry.inline).levelsFrom 0 = levels + 1 :=
    Renderer.exists_levelsFrom _ hdepth
  change ((a.context digest e.1 state).tree entry path).1.issue ≠ _
  rw [RenderContext.tree, Renderer.render, hlevels, Ne, Renderer.issue_renderLevels_eq_tooDeep_iff]
  exact Nat.succ_ne_zero levels

/-- In a form with a positive cap, and with limits that are `-1` or positive, an empty group can be
extended. -/
theorem canAdd_of_count_eq_zero (hcap : 1 ≤ a.options.repeatCap)
    (hlimits : ∀ e ∈ a.catalogue.commands, ∀ n, e.repeatLimit = some n → n = -1 ∨ 1 ≤ n)
    (h : a.assemble digest state = .ok (d, notices)) {g : GroupForm} (hg : .group g ∈ d.items)
    (hcount : g.count = 0) : g.canAdd = true := by
  obtain ⟨i, hi⟩ := List.getElem?_of_mem hg
  obtain ⟨e, he, hitem⟩ := exists_entry_of_items h hi
  have hcommand := (mem_of_mem_entries (List.mem_of_getElem? he)).2
  cases hlimit : e.2.repeatLimit with
  | none =>
    rw [RenderContext.item_of_not_isRepeated _ (by rw [LayoutCommand.isRepeated, hlimit]; decide)]
      at hitem
    exact nomatch hitem
  | some n =>
    rw [RenderContext.item_of_isRepeated _ (by rw [LayoutCommand.isRepeated, hlimit]; rfl)] at hitem
    cases hitem
    have hbound : 0 < upperBound n a.options.repeatCap := by
      have hn := hlimits _ hcommand n hlimit
      rw [upperBound]
      split_ifs <;> omega
    have hcanAdd : ((a.context digest e.1 state).group e.2 [(i : Int) + 1]).1.canAdd =
        decide (((a.context digest e.1 state).group e.2 [(i : Int) + 1]).1.count <
          upperBound (e.2.repeatLimit.getD 1) a.options.repeatCap) :=
      rfl
    rw [hcanAdd, hcount, hlimit]
    exact decide_eq_true hbound

end Assembler

namespace Settings

/-- **Settings that were loaded are usable.**  Whatever the files, the given path and the
environment are, when settings are loaded, nothing is changed, and port and limits are within their
bounds.  There is exactly one file that the settings can be from, or none; each setting has the
value that stands in this file, or else its default, and only the log level is overridden by the
environment.

Every form with these settings, of any accepted catalogue, has a document for each state if its
title is a text.  In a document no command is cut off at its root, and every empty group can be
extended. -/
theorem isUsable_of_load {w w' : Workspace} {s : Surroundings} {path : Option FilePath}
    {r : Settings}
    (h : (load s path : StateM Workspace (Except SettingsError Settings)) w = (.ok r, w')) :
    w' = w ∧ r.IsUsable ∧ (∃! file?, IsSource w s path file?) ∧
      (∃ file? d, IsSource w s path file? ∧ IsContent w file? d ∧ r.IsReadFrom s file? d ∧
        LogLevel.ofName? (s.levelText d) = some r.logLevel) ∧
      ∀ data source c, Catalogue.ofData data source = .ok c →
        ∃ a notices, Assembler.ofCatalogue c r.form = .ok (a, notices) ∧
          ∀ digest state,
            ((∃ title, a.title = .ok title) →
              ∃ d notices', a.assemble digest state = .ok (d, notices')) ∧
            ∀ d notices', a.assemble digest state = .ok (d, notices') →
              (∀ item ∈ d.items, ∀ f ∈ item.commands, f.root.issue ≠ some .tooDeep) ∧
              ∀ g, .group g ∈ d.items → g.count = 0 → g.canAdd = true := by
  rw [load_eq] at h
  obtain ⟨hresult, hw⟩ := Prod.mk.inj h
  obtain ⟨base, hbase, hoverride⟩ := exists_of_bind_eq_ok hresult
  obtain ⟨rfl, file?, d, hsource, hcontent, hread, husable, hlevel⟩ :=
    exists_isSource_of_ofStorage (Prod.ext hbase hw)
  obtain ⟨hsame, hlevel⟩ := of_overrideLevel hoverride hlevel
  -- Only the log level differs from what was read.
  have hread' : r.IsReadFrom s file? d := by
    rw [hsame]
    exact { hread with }
  have husable' : r.IsUsable := by
    rw [hsame]
    exact { husable with logLevel := r.logLevel.name_mem }
  refine ⟨rfl, husable', existsUnique_isSource .., ⟨file?, d, hsource, hcontent, hread', hlevel⟩,
    fun data source c hdata => ?_⟩
  obtain ⟨a, notices, ha, rfl, hoptions, -⟩ :=
    Assembler.exists_ofCatalogue (Catalogue.layoutFault?_of_ofData hdata) r.form
  have hdepth : 0 ≤ a.options.maxDepth := by
    rw [hoptions]
    exact le_trans (by decide) husable'.maxDepth
  have hcap : 1 ≤ a.options.repeatCap := hoptions ▸ husable'.repeatCap
  refine ⟨a, notices, ha, fun digest state => ⟨fun ⟨title, htitle⟩ =>
    Assembler.exists_assemble_of_title htitle state, fun d notices' hd => ⟨?_, ?_⟩⟩⟩
  · exact fun item hitem f hf => Assembler.issue_root_ne_tooDeep hdepth hd hitem hf
  · intro g hg hcount
    exact Assembler.canAdd_of_count_eq_zero hcap
      (fun e he n hn => Catalogue.repeatLimit_of_ofData hdata he hn) hd hg hcount

/-- A settings file with a port and a cap, in which the log level is that for errors. -/
def gardenText : String :=
  "[server]\nport = 8080\n[form]\nrepeat_cap = 3\n[logging]\nlevel = \"error\"\n"

/-- A working directory with this file. -/
def garden : Workspace where
  workingDirectory := .ofString "/garden"
  tree := ⟨[(["garden"], .directory), (["garden", "swarmconf.toml"], .file gardenText.toUTF8)]⟩

/-- An environment that names no file and asks for warnings. -/
def gardener : Surroundings where
  workingDirectory := .ofString "/garden"
  homes := []
  environment := [("SWARMCONF_CONFIG", ""), ("SWARMCONF_LOG_LEVEL", "warning")]

theorem isUsable_of_load_garden : ∃ r,
    (load gardener none : StateM Workspace (Except SettingsError Settings)) garden =
      (.ok r, garden) ∧
    r.port = 8080 ∧ r.form.repeatCap = 3 ∧ r.form.maxDepth = 64 ∧ r.logLevel = .warning ∧
    r.source = some (.ofString "swarmconf.toml") ∧ r.IsUsable := by
  have hplace : garden.tree.place garden.workingDirectory localFile =
      .ok ["garden", "swarmconf.toml"] :=
    rfl
  have hread : garden.tree.read garden.workingDirectory localFile = .ok gardenText.toUTF8 :=
    FileTree.read_eq_ok_iff.mpr ⟨_, hplace, rfl⟩
  have hdata : Toml.read (Text.unifyLineEnds gardenText) = .ok (.table
      [("server", .table [("port", .int 8080)]), ("form", .table [("repeat_cap", .int 3)]),
        ("logging", .table [("level", .string "error")])]) := by
    decide +kernel
  have hfile : ofFile gardener localFile (.ok gardenText.toUTF8) =
      .ok { port := 8080, form := { repeatCap := 3 }, logLevel := .error,
            source := some localFile } := by
    rw [ofFile, Program.text_toUTF8]
    change ofText gardener localFile (Text.unifyLineEnds gardenText) = _
    rw [ofText, hdata]
    rfl
  have hrequested : requested gardener none = none := rfl
  have hpresent : Storage.isPresent (.ok gardenText.toUTF8) = true := rfl
  have hload : (load gardener none : StateM Workspace (Except SettingsError Settings)) garden =
      (.ok { port := 8080, form := { repeatCap := 3 }, logLevel := .warning,
             source := some localFile }, garden) := by
    rw [load_eq, ofStorage_eq, hrequested, hread]
    dsimp only
    rw [if_pos hpresent, hfile]
    rfl
  obtain ⟨-, husable, -⟩ := isUsable_of_load hload
  exact ⟨_, hload, rfl, rfl, rfl, rfl, rfl, husable⟩

end Settings

end GrammarForm
