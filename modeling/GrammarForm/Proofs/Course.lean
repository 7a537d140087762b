import GrammarForm.Proofs.LogFiles
import GrammarForm.Proofs.StateFile

/-!
# The course of a run over files

A part of a run that starts with a screen and a workspace ends with a result, a screen and a
workspace.  Parts are followed one after the other: what two parts give together is what the
second one gives from where the first one leads.  Of each part it is said what it changes.
Reports go to the messages and to the log files; reading changes nothing; a text is written to one
file and leaves all other files as they are.

## Main definitions

* `Workspace.catalogue` : the catalogue that a path asks for.
* `Run.outcome` : what becomes of a part of a run.
* `Run.Reported` : reports were made.
* `Program.answer` : what follows once a catalogue was loaded.

## Main results

* `Run.outcome_bind_eq_ok_iff` : the course of two parts.
* `Program.outcome_writeFile_eq_ok_iff` : the course of writing a file.
* `Program.exists_stage_obtainCatalogue`, `Program.exists_stage_commandCatalogue`,
  `Program.exists_stage_assemble` : the course of obtaining a catalogue and of assembling a
  document.
-/

namespace GrammarForm

/-! ### Catalogues of files -/

namespace Workspace

/-- The catalogue that a path asks for. -/
def catalogue (w : Workspace) (path : Option FilePath) : Except LoadError Catalogue :=
  ((Catalogue.load path : StateM Workspace _).run w).1.1

/-- Loading a catalogue changes no file. -/
theorem run_load (path : Option FilePath) (w : Workspace) :
    ((Catalogue.load path : StateM Workspace _).run w).2 = w := by
  cases path <;> rfl

end Workspace

/-! ### Parts of a run -/

/-- The screen and the files at a moment of a run. -/
structure Stage where
  screen : Screen
  files : Workspace

namespace Stage

/-- The stage with more messages. -/
def withMessages (s : Stage) (more : List ScreenMessage) : Stage :=
  { s with screen := { s.screen with messages := s.screen.messages ++ more } }

/-- The stage with more output. -/
def withOutput (s : Stage) (more : String) : Stage :=
  { s with screen := { s.screen with output := s.screen.output ++ more } }

@[simp]
theorem withMessages_nil (s : Stage) : s.withMessages [] = s := by
  rw [withMessages, List.append_nil]

theorem withMessages_withMessages (s : Stage) (more more' : List ScreenMessage) :
    (s.withMessages more).withMessages more' = s.withMessages (more ++ more') := by
  simp only [withMessages, List.append_assoc]

end Stage

/-- A part of a run over files. -/
abbrev FileRun := Run (StateM Workspace)

namespace Run

variable {α β : Type} {before after : Stage}

/-- What becomes of a part of a run, and where it leads. -/
def outcome (part : FileRun α) (before : Stage) : Except Ending α × Stage :=
  let r := (part.run.run before.screen).run before.files
  (r.1.1, ⟨r.1.2, r.2⟩)

@[simp]
theorem outcome_pure (a : α) (before : Stage) :
    outcome (pure a : FileRun α) before = (.ok a, before) :=
  rfl

@[simp]
theorem outcome_finish (e : Ending) (before : Stage) :
    outcome (finish e : FileRun α) before = (.error e, before) :=
  rfl

@[simp]
theorem outcome_fail (t : Trouble) (before : Stage) :
    outcome (fail t : FileRun α) before = (.error (.trouble t), before) :=
  rfl

@[simp]
theorem outcome_stored (action : StateM Workspace α) (before : Stage) :
    outcome (stored action) before =
      (.ok (action.run before.files).1, ⟨before.screen, (action.run before.files).2⟩) :=
  rfl

@[simp]
theorem outcome_change (f : Screen → Screen) (before : Stage) :
    outcome (change f : FileRun Unit) before = (.ok (), ⟨f before.screen, before.files⟩) :=
  rfl

/-- **The course of two parts**: the second one starts from where the first one leads, unless that
one ends the run. -/
theorem outcome_bind (part : FileRun α) (next : α → FileRun β) (before : Stage) :
    outcome (part >>= next) before =
      match outcome part before with
      | (.ok a, stage) => outcome (next a) stage
      | (.error e, stage) => (.error e, stage) := by
  simp only [outcome, ExceptT.run_bind, StateT.run_bind]
  rcases (part.run.run before.screen).run before.files with ⟨⟨_ | a, screen⟩, workspace⟩ <;> rfl

theorem outcome_bind_of_ok {part : FileRun α} {a : α} {stage : Stage}
    (h : outcome part before = (.ok a, stage)) (next : α → FileRun β) :
    outcome (part >>= next) before = outcome (next a) stage := by
  rw [outcome_bind, h]

theorem outcome_bind_eq_ok_iff {part : FileRun α} {next : α → FileRun β} {b : β} :
    outcome (part >>= next) before = (.ok b, after) ↔
      ∃ a stage, outcome part before = (.ok a, stage) ∧
        outcome (next a) stage = (.ok b, after) := by
  rw [outcome_bind]
  rcases outcome part before with ⟨_ | a, stage⟩
  · simp
  · exact ⟨fun h => ⟨a, stage, rfl, h⟩, by rintro ⟨_, _, ⟨⟩, h⟩; exact h⟩

/-! ### Writing to the screen -/

/-- Only texts with a form in bytes are written to the output. -/
theorem outcome_write_eq_ok_iff {s : String} :
    outcome (write s : FileRun Unit) before = (.ok (), after) ↔
      Text.isEncodable s = true ∧ after = before.withOutput s := by
  rw [write]
  split
  next h => simp [h, Stage.withOutput, eq_comm]
  next h => simp [h]

theorem outcome_note (s : String) (before : Stage) :
    outcome (note s : FileRun Unit) before = (.ok (), before.withMessages [.line (Console.shown s)]) :=
  rfl

/-- A marked-up line is written if its marks are in order. -/
theorem outcome_noteMarked_eq_ok_iff {s : String} :
    outcome (noteMarked s : FileRun Unit) before = (.ok (), after) ↔
      ∃ cs, Markup.plain s = .ok cs ∧
        after = before.withMessages [.line (Console.laidOut cs)] := by
  rw [noteMarked, outcome_bind_eq_ok_iff, unmarked]
  cases Markup.plain s with
  | error fault => simp
  | ok cs => simp [addMessage, Stage.withMessages, eq_comm]

/-! ### Reports -/

end Run

/-- The file that an outlet leads to. -/
def OutletPlace.file? : OutletPlace → Option FilePath
  | .file path => some path
  | _ => none

/-- The files that the records of a session are written to, and their backups. -/
def LogSession.filePaths (s : LogSession) : List FilePath :=
  ((s.core.outlets ++ s.form.outlets).filterMap (·.place.file?)).flatMap LogFile.paths

/-- Every report to a file goes to a file of the session. -/
theorem LogSession.mem_filePaths_of_deliveries {s : LogSession} {call : LogCall} {path : FilePath}
    {r : LogRecord} (h : .file path r ∈ s.deliveries call) :
    ∀ q ∈ LogFile.paths path, q ∈ s.filePaths := by
  obtain ⟨o, ho, hplace⟩ := exists_outlet_of_mem_deliveries h
  have hpath : path ∈ (s.core.outlets ++ s.form.outlets).filterMap (·.place.file?) :=
    List.mem_filterMap.mpr ⟨o, ho, by rw [hplace, OutletPlace.file?]⟩
  exact fun q hq => List.mem_flatMap.mpr ⟨path, hpath, hq⟩

namespace Run

variable {before after : Stage}

/-- Reports were made: the output stays, and of the files only those of the session change. -/
structure Reported (before after : Stage) : Prop where
  logs_eq : after.screen.logs = before.screen.logs
  output_eq : after.screen.output = before.screen.output
  changesOnly : Workspace.ChangesOnly before.screen.logs.filePaths before.files after.files

namespace Reported

theorem refl (s : Stage) : Reported s s where
  logs_eq := rfl
  output_eq := rfl
  changesOnly := .refl _ _

theorem trans {stage : Stage} (h : Reported before stage) (h' : Reported stage after) :
    Reported before after where
  logs_eq := h'.logs_eq.trans h.logs_eq
  output_eq := h'.output_eq.trans h.output_eq
  changesOnly := h.changesOnly.trans (h.logs_eq ▸ h'.changesOnly)

end Reported

/-- A call of a logger is reported. -/
theorem exists_outcome_log (stamp : String) (call : LogCall) (before : Stage) :
    ∃ after, outcome (log stamp call : FileRun Unit) before = (.ok (), after) ∧
      Reported before after := by
  refine ⟨_, rfl, rfl, rfl, ?_⟩
  exact Workspace.changesOnly_stored stamp _
    (fun path r hr => LogSession.mem_filePaths_of_deliveries hr) _

/-- **Notices are reported.** -/
theorem exists_outcome_announce (stamp : String) (notices : List Notice) :
    ∀ before, ∃ after, outcome (announce stamp notices : FileRun Unit) before = (.ok (), after) ∧
      Reported before after := by
  rw [announce]
  induction notices with
  | nil => exact fun before => ⟨before, rfl, .refl before⟩
  | cons n rest ih =>
    intro before
    obtain ⟨stage, hlog, hreported⟩ := exists_outcome_log stamp
      { logger := n.logger, level := (noticeLevel n).number, message := n.message } before
    obtain ⟨after, hrest, hreported'⟩ := ih stage
    refine ⟨after, ?_, hreported.trans hreported'⟩
    rw [List.forM_eq_forM, List.forM_cons, outcome_bind_of_ok hlog, ← List.forM_eq_forM, hrest]

end Run

/-! ### Files, catalogues and documents -/

namespace Program

open Run

variable {before after : Stage}

/-- **The course of reading values** from a file. -/
theorem outcome_loadValues_eq_ok_iff {path : FilePath} {state : FormState} :
    outcome (loadValues path : FileRun FormState) before = (.ok state, after) ↔
      stateOf (before.files.read path) = .ok state ∧ after = before := by
  have hread : outcome (stored (Storage.read path)) before =
      (.ok (before.files.read path), before) := rfl
  rw [loadValues, outcome_bind_of_ok hread]
  rcases stateOf (before.files.read path) with fault | state'
  · cases fault <;> simp [outcome_bind_eq_ok_iff]
  · simp [eq_comm]

/-- **The course of writing a file**: the text has a form in bytes, the path can be written, and no
other file changes. -/
theorem outcome_writeFile_eq_ok_iff {path : FilePath} {s : String} :
    outcome (writeFile path s : FileRun Unit) before = (.ok (), after) ↔
      Text.isEncodable s = true ∧ ∃ l, before.files.target path = .ok l ∧
        after = { before with files := before.files.withFile l s.toUTF8 } := by
  let content := if Text.isEncodable s then s.toUTF8 else ByteArray.empty
  let written := before.files.update
    (before.files.tree.write before.files.workingDirectory path content)
  have hwrite : outcome (stored (Storage.write path content)) before =
      (.ok written.1, ⟨before.screen, written.2⟩) := rfl
  rw [writeFile, outcome_bind_of_ok hwrite]
  cases htarget : before.files.target path with
  | error fault => simp [written, Workspace.update_write_of_error htarget]
  | ok l =>
    simp only [written, Workspace.update_write_of_ok htarget]
    by_cases hs : Text.isEncodable s = true
    · simp [content, hs, eq_comm]
    · simp [hs]

/-- A catalogue is loaded from the text of its file. -/
theorem catalogue_of_read {w : Workspace} {path : FilePath} {text : String} {data : Data}
    (h : w.read path = .ok text.toUTF8) (hdata : Toml.read text = .ok data) :
    w.catalogue (some path) = Catalogue.ofData data (some path) := by
  have hdecoded : Catalogue.decode path (.ok text.toUTF8) = .ok data := by
    simp only [Catalogue.decode, text_toUTF8, hdata]
  have hload : w.catalogue (some path) =
      (if !Storage.isPresent (w.read path) && Catalogue.namesShipped path then Catalogue.shipped
      else Catalogue.ofFile path (w.read path)).1 := rfl
  rw [hload, h, Catalogue.ofFile, hdecoded]
  rfl

/-- What follows once a catalogue was loaded: it is handed on, or else refused under a heading. -/
def answer (heading : String) (more : FileRun Unit) :
    Except LoadError Catalogue → FileRun Catalogue
  | .ok catalogue => pure catalogue
  | .error (.catalogue e) => do
    noteMarked (s!"[red]{heading}:[/red] " ++ Markup.escaped e.message)
    more
    finish (.status 1)
  | .error e => fail (.catalogue e)

/-- **The course of obtaining a catalogue**: what is loaded is reported and then answered. -/
theorem exists_stage_obtainCatalogue (c : Setting) (heading : String) (path : Option FilePath)
    (more : FileRun Unit) (before : Stage) :
    ∃ stage, Reported before stage ∧ outcome (obtainCatalogue c heading path more) before =
      outcome (answer heading more (before.files.catalogue (path.or c.settings.catalogue)))
        stage := by
  let loaded := ((Catalogue.load (path.or c.settings.catalogue) : StateM Workspace _).run
    before.files).1
  have hload : outcome (stored (Catalogue.load (path.or c.settings.catalogue))) before =
      (.ok loaded, before) := by
    rw [outcome_stored, Workspace.run_load]
  obtain ⟨stage, hannounce, hreported⟩ := exists_outcome_announce c.stamp loaded.2 before
  refine ⟨stage, hreported, ?_⟩
  rw [obtainCatalogue, outcome_bind_of_ok hload, outcome_bind_of_ok hannounce]
  change _ = outcome (answer heading more loaded.1) stage
  rcases loaded.1 with e | catalogue
  · cases e <;> rfl
  · rfl

/-- A command obtains a catalogue exactly if it is loaded, and nothing is reported but the
loading. -/
theorem exists_stage_commandCatalogue (c : Setting) (path : Option FilePath) (before : Stage) :
    ∃ stage, Reported before stage ∧ ∀ catalogue after,
      outcome (commandCatalogue c path : FileRun Catalogue) before = (.ok catalogue, after) ↔
        before.files.catalogue (path.or c.settings.catalogue) = .ok catalogue ∧
          after = stage := by
  obtain ⟨stage, hreported, hcourse⟩ := exists_stage_obtainCatalogue c "Catalogue error" path
    (note ("Shipped catalogues: " ++ ", ".intercalate Catalogue.shippedNames)) before
  refine ⟨stage, hreported, fun catalogue after => ?_⟩
  rw [commandCatalogue, hcourse]
  rcases before.files.catalogue (path.or c.settings.catalogue) with e | catalogue'
  · cases e <;> simp [answer, outcome_bind_eq_ok_iff]
  · simp [answer, eq_comm]

/-- **The course of assembling a document**: what is assembled is reported, and nothing else. -/
theorem exists_stage_assemble (c : Setting) (catalogue : Catalogue) (state : FormState)
    (before : Stage) :
    ∃ stage, Reported before stage ∧ ∀ d after,
      outcome (assemble c catalogue state : FileRun Document) before = (.ok d, after) ↔
        (∃ a notices notices', Assembler.ofCatalogue catalogue c.settings.form = .ok (a, notices) ∧
          a.assemble c.digest state = .ok (d, notices')) ∧ after = stage := by
  rw [assemble]
  rcases hassembler : Assembler.ofCatalogue catalogue c.settings.form with e | ⟨a, notices⟩
  · exact ⟨before, .refl before, fun d after => by simp⟩
  · obtain ⟨stage, hannounce, hreported⟩ := exists_outcome_announce c.stamp notices before
    rcases hdocument : a.assemble c.digest state with e | ⟨d, notices'⟩
    · refine ⟨stage, hreported, fun d after => ?_⟩
      rw [outcome_bind_of_ok hannounce]
      simp [hdocument]
    · obtain ⟨stage', hannounce', hreported'⟩ := exists_outcome_announce c.stamp notices' stage
      refine ⟨stage', hreported.trans hreported', fun d' after => ?_⟩
      simp only [hdocument, outcome_bind_of_ok hannounce, outcome_bind_of_ok hannounce']
      simp [hdocument, eq_comm]

end Program

end GrammarForm
