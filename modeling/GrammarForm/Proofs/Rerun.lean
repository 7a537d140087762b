import GrammarForm.Proofs.Completeness
import GrammarForm.Proofs.Course
import GrammarForm.Proofs.Resubmission
import GrammarForm.Proofs.ShownValues

/-!
# Rendering again from saved values

A configuration that was rendered is rendered again from the values that were saved with it.  The
file with the values is read back as the form state of the document, since every value of it has a
form in bytes: all texts of it appear in the configuration that was written.  From its own form
state the document is assembled again, so that the second run hands out the same configuration,
reports the same invalid lines, ends in the same way and saves the same bytes.

## Main definitions

* `Program.produce` : a rendering without the report of invalid lines.
* `Program.HandedOut` : a configuration and its values stand where they were asked for.
* `Program.Writable` : what is asked for can be written.

## Main results

* `Program.handedOut_of_outcome`, `Program.exists_outcome_handOver` : the course of handing out.
* `Program.exists_produce_savedState` : rendering again from saved values.
-/

namespace GrammarForm.Program

open Run Text

/-! ### The parts of a rendering -/

section Parts

variable {m : Type → Type} [Monad m] [Storage m]

/-- The values that a rendering starts from: those in a file, if there is one. -/
def obtainValues : Option FilePath → Run m FormState
  | none => pure []
  | some path => loadValues path

/-- Write the values of a document to a file, if there is one for them. -/
def saveValues (d : Document) : Option FilePath → Run m Unit
  | none => pure ()
  | some path => writeFile path (savedState d.formState)

/-- Hand out the configuration of a document and its values. -/
def handOver (r : RenderRequest) (d : Document) : Run m Unit := do
  deliver r d
  saveValues d r.savedState

/-- Render a configuration, without the report of invalid lines. -/
def produce (c : Setting) (r : RenderRequest) : Run m Document := do
  let catalogue ← commandCatalogue c r.catalogue
  let state ← obtainValues r.state
  let d ← assemble c catalogue state
  handOver r d
  return d

/-- A rendering ends with the report of invalid lines. -/
theorem render_eq [LawfulMonad m] (c : Setting) (r : RenderRequest) :
    (render c r : Run m Unit) = produce c r >>= reportInvalid r.strict := by
  rw [render, produce]
  cases r.state <;> cases hsaved : r.savedState <;>
    simp only [obtainValues, handOver, hsaved, saveValues, bind_assoc, pure_bind]

end Parts

variable {c : Setting} {r : RenderRequest} {d : Document} {before after : Stage}

/-! ### Invalid lines -/

/-- The messages about the invalid lines of a document. -/
def invalidReport (d : Document) : List ScreenMessage :=
  if d.invalidLines.isEmpty then []
  else
    .line (Console.shown s!"{d.invalidLines.length} invalid line(s):") ::
      d.invalidLines.map fun l => .line (Console.shown ("  " ++ l.text))

/-- How a rendering ends: strictly, with a failure if there are invalid lines. -/
def strictEnding (strict : Bool) (d : Document) : Except Ending Unit :=
  if strict && !d.invalidLines.isEmpty then .error (.status 1) else .ok ()

theorem outcome_forM_note (lines : List ConfigLine) :
    ∀ before, outcome (lines.forM fun l => note ("  " ++ l.text) : FileRun Unit) before =
      (.ok (), before.withMessages (lines.map fun l => .line (Console.shown ("  " ++ l.text)))) := by
  induction lines with
  | nil =>
    intro before
    rw [List.map_nil, Stage.withMessages_nil]
    rfl
  | cons l rest ih =>
    intro before
    rw [List.forM_eq_forM, List.forM_cons, outcome_bind_of_ok (outcome_note _ _),
      ← List.forM_eq_forM, ih, Stage.withMessages_withMessages]
    rfl

/-- **The course of the report**: the invalid lines are named, and a strict run fails. -/
theorem outcome_reportInvalid (strict : Bool) (d : Document) (before : Stage) :
    outcome (reportInvalid strict d : FileRun Unit) before =
      (strictEnding strict d, before.withMessages (invalidReport d)) := by
  rw [reportInvalid, strictEnding, invalidReport]
  cases d.invalidLines.isEmpty with
  | true =>
    simp only [Bool.not_true, Bool.and_false, Bool.false_eq_true, if_false, if_true,
      Stage.withMessages_nil, outcome_pure]
  | false =>
    simp only [Bool.not_false, Bool.and_true, Bool.false_eq_true, if_false, if_true]
    rw [outcome_bind_of_ok (outcome_note _ _), outcome_bind_of_ok (outcome_forM_note _ _),
      Stage.withMessages_withMessages]
    cases strict <;> rfl

/-! ### Handing out -/

/-- The message about a configuration in a file. -/
def writtenMessage (d : Document) (path : FilePath) : String :=
  s!"Wrote {d.lines.length} line(s) to {path}"

/-- A configuration is shown on the screen without control sequences. -/
theorem outcome_deliver_screen (h : r.output = none) :
    outcome (deliver r d : FileRun Unit) before = (.ok (), after) ↔
      isEncodable (Console.withoutSequences (d.text ++ "\n")) = true ∧
        after = before.withOutput (Console.withoutSequences (d.text ++ "\n")) := by
  rw [deliver, h]
  exact outcome_write_eq_ok_iff

/-- A configuration is written to its file, and a message says so. -/
theorem outcome_deliver_file {path : FilePath} (h : r.output = some path) :
    outcome (deliver r d : FileRun Unit) before = (.ok (), after) ↔
      isEncodable (d.text ++ "\n") = true ∧ ∃ l cs, before.files.target path = .ok l ∧
        Markup.plain (writtenMessage d path) = .ok cs ∧
        after = Stage.withMessages
          { before with files := before.files.withFile l (d.text ++ "\n").toUTF8 }
          [.line (Console.laidOut cs)] := by
  rw [deliver, h, outcome_bind_eq_ok_iff]
  constructor
  · rintro ⟨⟨⟩, stage, hwrite, hnote⟩
    obtain ⟨htext, l, htarget, rfl⟩ := outcome_writeFile_eq_ok_iff.mp hwrite
    obtain ⟨cs, hcs, rfl⟩ := outcome_noteMarked_eq_ok_iff.mp hnote
    exact ⟨htext, l, cs, htarget, hcs, rfl⟩
  · rintro ⟨htext, l, cs, htarget, hcs, rfl⟩
    exact ⟨(), _, outcome_writeFile_eq_ok_iff.mpr ⟨htext, l, htarget, rfl⟩,
      outcome_noteMarked_eq_ok_iff.mpr ⟨cs, hcs, rfl⟩⟩

/-- A configuration and its values stand where they were asked for, and no other file changes but
those for reports.  A file that was asked for both holds the values. -/
structure HandedOut (r : RenderRequest) (d : Document) (before after : Stage) : Prop where
  changesOnly : Workspace.ChangesOnly
    (before.screen.logs.filePaths ++ (r.output.toList ++ r.savedState.toList)) before.files
    after.files
  output_eq : after.screen.output = before.screen.output ++
    if r.output.isNone then Console.withoutSequences (d.text ++ "\n") else ""
  configuration : ∀ path, r.output = some path →
    (∀ saved, r.savedState = some saved → after.files.target saved ≠ after.files.target path) →
    after.files.read path = .ok (d.text ++ "\n").toUTF8
  values : ∀ saved, r.savedState = some saved →
    after.files.read saved = .ok (savedState d.formState).toUTF8

/-- What is asked for can be written: the paths lead to files, and the message about the
configuration has its marks in order. -/
structure Writable (r : RenderRequest) (d : Document) (w : Workspace) : Prop where
  output : ∀ path, r.output = some path → (∃ l, w.target path = .ok l) ∧
    ∃ cs, Markup.plain (writtenMessage d path) = .ok cs
  savedState : ∀ path, r.savedState = some path → ∃ l, w.target path = .ok l

/-- What can be written can still be written when files have changed. -/
theorem Writable.of_changesOnly {w w' : Workspace} {paths : List FilePath} (h : Writable r d w)
    (hw : Workspace.ChangesOnly paths w w') : Writable r d w' where
  output path hpath :=
    ⟨(h.output path hpath).1.imp fun _ => hw.target_eq_ok_iff.mpr, (h.output path hpath).2⟩
  savedState path hpath := (h.savedState path hpath).imp fun _ => hw.target_eq_ok_iff.mpr

/-- Delivering a configuration changes its file at most, and writes what was asked for. -/
theorem of_outcome_deliver (h : outcome (deliver r d : FileRun Unit) before = (.ok (), after)) :
    isEncodable (d.text ++ "\n") = true ∧
      Workspace.ChangesOnly r.output.toList before.files after.files ∧
      after.screen.output = before.screen.output ++
        (if r.output.isNone then Console.withoutSequences (d.text ++ "\n") else "") ∧
      ∀ path, r.output = some path → after.files.read path = .ok (d.text ++ "\n").toUTF8 ∧
        ∃ l, after.files.target path = .ok l ∧ after.files.place path = .ok l := by
  cases houtput : r.output with
  | none =>
    obtain ⟨htext, rfl⟩ := (outcome_deliver_screen houtput).mp h
    exact ⟨Console.isEncodable_of_withoutSequences htext, .refl _ _, rfl, nofun⟩
  | some path =>
    obtain ⟨htext, l, cs, htarget, -, rfl⟩ := (outcome_deliver_file houtput).mp h
    have hchanges := Workspace.ChangesOnly.withFile htarget (d.text ++ "\n").toUTF8
    refine ⟨htext, hchanges, (String.append_empty ..).symm, fun path' hpath => ?_⟩
    cases hpath
    exact ⟨Workspace.read_withFile htarget _, l, hchanges.target_eq_ok_iff.mpr htarget,
      Workspace.place_withFile htarget _⟩

/-- **What was handed out**: the configuration stands where it was asked for, and so do the
values. -/
theorem handedOut_of_outcome (h : outcome (handOver r d : FileRun Unit) before = (.ok (), after)) :
    HandedOut r d before after := by
  obtain ⟨⟨⟩, stage, hdeliver, hsave⟩ := outcome_bind_eq_ok_iff.mp h
  obtain ⟨-, hdelivered, houtput, hwritten⟩ := of_outcome_deliver hdeliver
  have hfirst := hdelivered.mono fun p hp =>
    List.mem_append_right before.screen.logs.filePaths (List.mem_append_left r.savedState.toList hp)
  cases hsaved : r.savedState with
  | none =>
    rw [hsaved] at hsave
    cases hsave
    exact ⟨hfirst, houtput, fun path hpath _ => (hwritten path hpath).1,
      fun saved hsaved' => nomatch hsaved.symm.trans hsaved'⟩
  | some saved =>
    rw [hsaved] at hsave
    obtain ⟨-, l, htarget, rfl⟩ := outcome_writeFile_eq_ok_iff.mp hsave
    have hchanges := Workspace.ChangesOnly.withFile htarget (savedState d.formState).toUTF8
    refine ⟨hfirst.trans (hchanges.mono ?_), houtput, fun path hpath hne => ?_,
      fun saved' hsaved' => ?_⟩
    · rw [hsaved]
      exact fun p hp => List.mem_append_right _ (List.mem_append_right _ hp)
    · obtain ⟨hread, l', htarget', hplace⟩ := hwritten path hpath
      refine hchanges.read_eq_ok hread (List.forall_mem_singleton.mpr fun l'' hl'' hplace' => ?_)
      -- A path that leads to the file with the values was asked for both.
      refine hne saved hsaved ?_
      rw [hchanges.target_eq_ok_iff.mpr htarget', hchanges.target_eq_ok_iff.mpr hl'',
        hplace'.symm.trans hplace]
    · cases hsaved.symm.trans hsaved'
      exact Workspace.read_withFile htarget _

/-- **Handing out succeeds** if what is asked for can be written. -/
theorem exists_outcome_handOver (hw : Writable r d before.files)
    (htext : isEncodable (d.text ++ "\n") = true)
    (hscreen : r.output = none →
      isEncodable (Console.withoutSequences (d.text ++ "\n")) = true) :
    ∃ after, outcome (handOver r d : FileRun Unit) before = (.ok (), after) := by
  have hdeliver : ∃ stage, outcome (deliver r d : FileRun Unit) before = (.ok (), stage) := by
    cases houtput : r.output with
    | none => exact ⟨_, (outcome_deliver_screen houtput).mpr ⟨hscreen houtput, rfl⟩⟩
    | some path =>
      obtain ⟨⟨l, htarget⟩, cs, hcs⟩ := hw.output path houtput
      exact ⟨_, (outcome_deliver_file houtput).mpr ⟨htext, l, cs, htarget, hcs, rfl⟩⟩
  obtain ⟨stage, hdeliver⟩ := hdeliver
  have hw' := hw.of_changesOnly (of_outcome_deliver hdeliver).2.1
  rw [handOver, outcome_bind_of_ok hdeliver]
  cases hsaved : r.savedState with
  | none => exact ⟨stage, rfl⟩
  | some saved =>
    obtain ⟨l, htarget⟩ := hw'.savedState saved hsaved
    exact ⟨_, outcome_writeFile_eq_ok_iff.mpr ⟨isEncodable_savedState _, l, htarget, rfl⟩⟩

/-! ### Whole renderings -/

/-- The values that a rendering starts from are there, and reports are not written over them. -/
def Offers (s : Stage) (state : FormState) : Option FilePath → Prop
  | none => state = []
  | some path => stateOf (s.files.read path) = .ok state ∧
      ∀ p ∈ s.screen.logs.filePaths, s.files.Apart p path

theorem exists_of_stateOf_eq_ok {content : Except FileFault ByteArray} {state : FormState}
    (h : stateOf content = .ok state) : ∃ bytes, content = .ok bytes := by
  cases content with
  | error fault => cases fault <;> exact nomatch h
  | ok bytes => exact ⟨bytes, rfl⟩

/-- Values that are there are still there after reports. -/
theorem outcome_obtainValues {state : FormState} {path : Option FilePath}
    (h : Offers before state path) (hreported : Reported before after) :
    outcome (obtainValues path : FileRun FormState) after = (.ok state, after) := by
  cases path with
  | none => cases h; rfl
  | some path =>
    obtain ⟨hstate, hapart⟩ := h
    obtain ⟨bytes, hread⟩ := exists_of_stateOf_eq_ok hstate
    refine outcome_loadValues_eq_ok_iff.mpr ⟨?_, rfl⟩
    rw [hreported.changesOnly.read_eq_ok hread hapart, ← hread, hstate]

/-- Obtaining values changes nothing. -/
theorem eq_of_outcome_obtainValues {state : FormState} {path : Option FilePath}
    (h : outcome (obtainValues path : FileRun FormState) before = (.ok state, after)) :
    after = before := by
  cases path with
  | none => cases h; rfl
  | some path => exact (outcome_loadValues_eq_ok_iff.mp h).2

theorem HandedOut.of_reported {stage : Stage} (h : HandedOut r d stage after)
    (hreported : Reported before stage) : HandedOut r d before after where
  changesOnly :=
    (hreported.changesOnly.mono fun _ hp => List.mem_append_left _ hp).trans
      (hreported.logs_eq ▸ h.changesOnly)
  output_eq := hreported.output_eq ▸ h.output_eq
  configuration := h.configuration
  values := h.values

/-- **The course of a rendering**: a document is assembled from some values, and handed out. -/
theorem of_outcome_produce (h : outcome (produce c r : FileRun Document) before = (.ok d, after)) :
    ∃ catalogue a notices state notices' stage,
      before.files.catalogue (r.catalogue.or c.settings.catalogue) = .ok catalogue ∧
      Assembler.ofCatalogue catalogue c.settings.form = .ok (a, notices) ∧
      a.assemble c.digest state = .ok (d, notices') ∧
      Reported before stage ∧
      outcome (handOver r d : FileRun Unit) stage = (.ok (), after) := by
  obtain ⟨catalogue, s₁, hcatalogue, h⟩ := outcome_bind_eq_ok_iff.mp h
  obtain ⟨state, s₂, hvalues, h⟩ := outcome_bind_eq_ok_iff.mp h
  obtain ⟨d', s₃, hassemble, h⟩ := outcome_bind_eq_ok_iff.mp h
  obtain ⟨⟨⟩, s₄, hhand, h⟩ := outcome_bind_eq_ok_iff.mp h
  cases h
  obtain ⟨stage, hreported, hiff⟩ := exists_stage_commandCatalogue c r.catalogue before
  obtain ⟨hload, rfl⟩ := (hiff _ _).mp hcatalogue
  cases eq_of_outcome_obtainValues hvalues
  obtain ⟨stage', hreported', hiff'⟩ := exists_stage_assemble c catalogue state s₁
  obtain ⟨⟨a, notices, notices', hready, hd⟩, rfl⟩ := (hiff' _ _).mp hassemble
  exact ⟨catalogue, a, notices, state, notices', s₃, hload, hready, hd,
    hreported.trans hreported', hhand⟩

/-- **A rendering succeeds** if its catalogue and its values are there and what is asked for can be
written. -/
theorem exists_outcome_produce {catalogue : Catalogue} {a : Assembler} {state : FormState}
    {notices notices' : List Notice}
    (hload : before.files.catalogue (r.catalogue.or c.settings.catalogue) = .ok catalogue)
    (hready : Assembler.ofCatalogue catalogue c.settings.form = .ok (a, notices))
    (hstate : Offers before state r.state)
    (hd : a.assemble c.digest state = .ok (d, notices'))
    (hw : Writable r d before.files) (htext : isEncodable (d.text ++ "\n") = true)
    (hscreen : r.output = none →
      isEncodable (Console.withoutSequences (d.text ++ "\n")) = true) :
    ∃ after, outcome (produce c r : FileRun Document) before = (.ok d, after) ∧
      HandedOut r d before after := by
  obtain ⟨s₁, hreported, hiff⟩ := exists_stage_commandCatalogue c r.catalogue before
  obtain ⟨s₂, hreported', hiff'⟩ := exists_stage_assemble c catalogue state s₁
  have hreports := hreported.trans hreported'
  obtain ⟨after, hhand⟩ := exists_outcome_handOver (hw.of_changesOnly hreports.changesOnly) htext
    hscreen
  refine ⟨after, ?_, (handedOut_of_outcome hhand).of_reported hreports⟩
  rw [produce, outcome_bind_of_ok ((hiff _ _).mpr ⟨hload, rfl⟩),
    outcome_bind_of_ok (outcome_obtainValues hstate hreported),
    outcome_bind_of_ok ((hiff' _ _).mpr ⟨⟨a, notices, notices', hready, hd⟩, rfl⟩),
    outcome_bind_of_ok hhand, outcome_pure]

/-- A rendering ends as its document says. -/
theorem outcome_render_of_produce
    (h : outcome (produce c r : FileRun Document) before = (.ok d, after)) :
    outcome (render c r : FileRun Unit) before =
      (strictEnding r.strict d, after.withMessages (invalidReport d)) := by
  rw [render_eq, outcome_bind_of_ok h, outcome_reportInvalid]

/-- The values of a document whose configuration has a form in bytes are read back from the file
that they are saved in. -/
theorem stateOf_formState {a : Assembler} {state : FormState} {notices : List Notice}
    (hd : a.assemble shortDigest state = .ok (d, notices))
    (htext : isEncodable (d.text ++ "\n") = true) :
    stateOf (.ok (savedState d.formState).toUTF8) = .ok d.formState := by
  have hpart : isEncodable d.text = true :=
    isEncodable_of_infix (by
      rw [String.toList_append]
      exact (List.prefix_append ..).isInfix) htext
  rw [Assembler.formState_eq_fields hasFixedLength_shortDigest hd]
  exact stateOf_savedState (Assembler.nodup_keys_fields hasFixedLength_shortDigest hd)
    (Assembler.isEncodable_fields hd hpart)

/-- **Rendering again from saved values.** A run has rendered a configuration and has saved its
values.  Then these values are read back, each under its key and in the same order, and a further
run that starts from them renders the same configuration, names the same invalid lines, ends in the
same way and saves the same bytes.  The catalogue and the settings are to be the same, and the file
with the values is to be as it was left. -/
theorem exists_produce_savedState {settings : Settings} {stamp : String} {before' : Stage}
    {catalogue : Catalogue} {a : Assembler} {notices : List Notice} {saved : FilePath}
    (stamp' : String) (output : Option FilePath) (saved' : FilePath)
    (hload : before.files.catalogue (r.catalogue.or settings.catalogue) = .ok catalogue)
    (hload' : before'.files.catalogue (r.catalogue.or settings.catalogue) = .ok catalogue)
    (hready : Assembler.ofCatalogue catalogue settings.form = .ok (a, notices))
    (ha : a.WithinLimits) (hsaved : r.savedState = some saved)
    (hfirst : outcome (produce ⟨settings, shortDigest, stamp⟩ r : FileRun Document) before =
      (.ok d, after))
    (hread : before'.files.read saved = after.files.read saved)
    (hlogs : ∀ p ∈ before'.screen.logs.filePaths, before'.files.Apart p saved)
    (hscreen : output = none → r.output = none ∨
      isEncodable (Console.withoutSequences (d.text ++ "\n")) = true)
    (hw : Writable { r with output, savedState := some saved' } d before'.files) :
    let r' : RenderRequest :=
      { r with state := some saved, output, savedState := some saved' }
    outcome (loadValues saved : FileRun FormState) before' = (.ok d.formState, before') ∧
      ∃ after', outcome (produce ⟨settings, shortDigest, stamp'⟩ r' : FileRun Document) before' =
          (.ok d, after') ∧
        HandedOut r d before after ∧ HandedOut r' d before' after' ∧
        after'.files.read saved' = after.files.read saved ∧
        outcome (render ⟨settings, shortDigest, stamp⟩ r : FileRun Unit) before =
          (strictEnding r.strict d, after.withMessages (invalidReport d)) ∧
        outcome (render ⟨settings, shortDigest, stamp'⟩ r' : FileRun Unit) before' =
          (strictEnding r.strict d, after'.withMessages (invalidReport d)) := by
  intro r'
  obtain ⟨catalogue', a', notices', state, notices'', stage, hload'', hready', hd, hreported,
    hhand⟩ := of_outcome_produce hfirst
  cases hload.symm.trans hload''
  cases hready.symm.trans hready'
  have hhanded := (handedOut_of_outcome hhand).of_reported hreported
  obtain ⟨⟨⟩, stage', hdeliver, -⟩ := outcome_bind_eq_ok_iff.mp hhand
  have htext := (of_outcome_deliver hdeliver).1
  -- The file with the values holds the form state, from which the document is assembled again.
  have hvalues : stateOf (before'.files.read saved) = .ok d.formState := by
    rw [hread, hhanded.values saved hsaved, stateOf_formState hd htext]
  have hd' : a.assemble shortDigest d.formState = .ok (d, notices'') :=
    Assembler.assemble_of_carries ha hd
      (fun _ _ hfield => Assembler.get?_formState hasFixedLength_shortDigest hd hfield)
      fun _ _ _ hcontrol =>
        Assembler.has_formState_controlKey hasFixedLength_shortDigest hd _ _ hcontrol
  obtain ⟨after', hsecond, hhanded'⟩ := exists_outcome_produce (r := r')
    (c := ⟨settings, shortDigest, stamp'⟩) hload' hready ⟨hvalues, hlogs⟩ hd'
    ⟨hw.output, hw.savedState⟩ htext
    fun hnone => (hscreen hnone).elim
      (fun hfirst => ((outcome_deliver_screen hfirst).mp hdeliver).1) id
  refine ⟨outcome_loadValues_eq_ok_iff.mpr ⟨hvalues, rfl⟩, after', hsecond, hhanded, hhanded', ?_,
    outcome_render_of_produce hfirst, outcome_render_of_produce hsecond⟩
  rw [hhanded'.values saved' rfl, hhanded.values saved hsaved]

/-- The catalogue of sizes as the text of a file. -/
def sizeText : String :=
  "[catalogue]\ntitle = \"Size\"\n[symbols.size]\nalias = \"<integer value>\"\n" ++
    "[[sections]]\ntitle = \"Main\"\n[[sections.commands]]\nname = \"size\"\n"

/-- The path of this file. -/
def sizePath : FilePath := .ofString "/size.toml"

/-- The form of this catalogue. -/
def fileForm : Assembler :=
  let form := Assembler.sizeForm (.string "Size")
  { form with
    catalogue := { form.catalogue with name := .string "size", source := some sizePath } }

/-- A size that is no number. -/
def oddSize : FormState :=
  [(widgetKey shortDigest "size" "size" [1], "\"\\é")]

/-- The catalogue of sizes and a file with this size. -/
def sizeFiles : Workspace where
  workingDirectory := .ofString "/"
  tree :=
    ⟨[(["size.toml"], .file sizeText.toUTF8), (["odd.json"], .file (savedState oddSize).toUTF8)]⟩

/-- A request to render this size and to save it again. -/
def sizeRequest : RenderRequest where
  state := some (.ofString "/odd.json")
  output := none
  strict := true
  savedState := some (.ofString "/new.json")
  catalogue := some sizePath

theorem catalogue_sizePath {w : Workspace} (h : w.read sizePath = .ok sizeText.toUTF8) :
    w.catalogue (some sizePath) = .ok fileForm.catalogue := by
  have hdata : Toml.read sizeText = .ok (Assembler.sizeData (.string "Size")) := by decide +kernel
  rw [catalogue_of_read h hdata]
  rfl

theorem withinLimits_fileForm : fileForm.WithinLimits where
  alternatives g hg _ :=
    Assembler.length_alternatives_le (fun record hrecord => by
      cases List.mem_singleton.mp hg
      cases List.mem_singleton.mp hrecord
      exact Nat.zero_le _) _
  cap := by decide
  maximum entry hentry n hn := by
    cases List.mem_singleton.mp hentry
    exact nomatch hn

theorem exists_assemble_oddSize : ∃ d notices,
    fileForm.assemble shortDigest oddSize = .ok (d, notices) ∧ d.text = "size \"\\é" ∧
      d.lines.length = 1 ∧ d.invalidLines.isEmpty = false ∧ d.formState = oddSize := by
  refine ⟨_, _, rfl, ?_⟩
  decide +kernel

/-- The first run shows the size on the screen, and the second one writes it to a file.  Both fail,
since it is no number. -/
theorem exists_produce_savedState_size :
    let before : Stage := ⟨{}, sizeFiles⟩
    let request : RenderRequest :=
      { sizeRequest with
        state := some (.ofString "/new.json")
        output := some (.ofString "/size.conf")
        savedState := some (.ofString "/again.json") }
    fileForm.WithinLimits ∧ ∃ (d : Document) (after after' : Stage),
      outcome (produce ⟨{}, shortDigest, "first"⟩ sizeRequest : FileRun Document) before =
          (.ok d, after) ∧
        outcome (loadValues (.ofString "/new.json") : FileRun FormState) ⟨{}, after.files⟩ =
          (.ok oddSize, ⟨{}, after.files⟩) ∧
        after'.files.read (.ofString "/size.conf") = .ok ("size \"\\é" ++ "\n").toUTF8 ∧
        after'.files.read (.ofString "/again.json") = after.files.read (.ofString "/new.json") ∧
        outcome (render ⟨{}, shortDigest, "second"⟩ request : FileRun Unit) ⟨{}, after.files⟩ =
          (.error (.status 1), after'.withMessages (invalidReport d)) := by
  intro before request
  obtain ⟨d, notices, hd, htext, hlines, hinvalid, hvalues⟩ := exists_assemble_oddSize
  have hsource : sizeFiles.read sizePath = .ok sizeText.toUTF8 := rfl
  have hload : before.files.catalogue (sizeRequest.catalogue.or ({} : Settings).catalogue) =
      .ok fileForm.catalogue := catalogue_sizePath hsource
  have hstate : Offers before oddSize sizeRequest.state := by
    refine ⟨stateOf_savedState (by decide) (List.forall_mem_singleton.mpr ⟨?_, by decide⟩), nofun⟩
    exact isEncodable_widgetKey ..
  have hwritable : Writable sizeRequest d before.files :=
    ⟨nofun, fun path hpath => by cases hpath; exact ⟨["new.json"], rfl⟩⟩
  obtain ⟨after, hfirst, hhanded⟩ := exists_outcome_produce (c := ⟨{}, shortDigest, "first"⟩) hload
    rfl hstate hd hwritable (by rw [htext]; decide) fun _ => by rw [htext]; decide
  -- The first run leaves the catalogue as it is, and the same paths can be written.
  let before' : Stage := ⟨{}, after.files⟩
  have hload' : before'.files.catalogue (sizeRequest.catalogue.or ({} : Settings).catalogue) =
      .ok fileForm.catalogue := by
    refine catalogue_sizePath (hhanded.changesOnly.read_eq_ok hsource fun p hp l hl hplace => ?_)
    cases List.mem_singleton.mp hp
    cases (rfl : sizeFiles.target (.ofString "/new.json") = .ok ["new.json"]).symm.trans hl
    exact nomatch (rfl : sizeFiles.place sizePath = .ok ["size.toml"]).symm.trans hplace
  have hwritable' : Writable { sizeRequest with
      output := some (.ofString "/size.conf")
      savedState := some (.ofString "/again.json") } d before'.files := by
    refine Writable.of_changesOnly (w := sizeFiles) ⟨fun path hpath => ?_, fun path hpath => ?_⟩
      hhanded.changesOnly
    · cases hpath
      refine ⟨⟨["size.conf"], rfl⟩, ?_⟩
      rw [writtenMessage, hlines]
      exact ⟨_, rfl⟩
    · cases hpath
      exact ⟨["again.json"], rfl⟩
  have hread : before'.files.read (.ofString "/new.json") =
      after.files.read (.ofString "/new.json") := rfl
  obtain ⟨hvalues', after', -, -, hhanded', hsame, -, hrender⟩ := exists_produce_savedState
    "second" (some (.ofString "/size.conf")) (.ofString "/again.json") hload hload' rfl
    withinLimits_fileForm rfl hfirst hread nofun nofun hwritable'
  refine ⟨withinLimits_fileForm, d, after, after', hfirst, hvalues ▸ hvalues', ?_, hsame, ?_⟩
  · rw [← htext]
    refine hhanded'.configuration _ rfl fun saved hsaved => ?_
    cases hsaved
    have htarget (p : FilePath) {l : Location} (h : sizeFiles.target p = .ok l) :
        after'.files.target p = .ok l :=
      hhanded'.changesOnly.target_eq_ok_iff.mpr (hhanded.changesOnly.target_eq_ok_iff.mpr h)
    rw [htarget (.ofString "/again.json") (l := ["again.json"]) rfl,
      htarget (.ofString "/size.conf") (l := ["size.conf"]) rfl]
    decide
  · rw [hrender, strictEnding, hinvalid]
    rfl

end GrammarForm.Program
