import GrammarForm.Log.Session
import GrammarForm.Proofs.LogBackups

/-!
# Files that reports are added to

A log file is made ready by making its directory and adding nothing to it.  This leaves whatever
stood anywhere, and the file is there afterwards.  A line that is then added to it comes at its
end and changes nothing else, or, if there is no room for it, begins the file anew after the file
became its first backup and each backup the next one.  So what a file held is lost only with the
last backup, after as many turns as there are backups.

## Main definitions

* `Workspace.Holds` : a file stands at a path that can be written.
* `Workspace.Appends`, `Workspace.TurnsOver`, `Workspace.Records` : what becomes of a log file that
  a line is added to, if there is room for it, if there is none, and in both cases.
* `Workspace.Extends` : what stood anywhere still stands there.
* `Workspace.Retains` : what files held is found again after their directories saw some turns.
* `Workspace.opened`, `Workspace.stored` : a workspace after a log file was made ready, and after
  reports were written to their files.

## Main results

* `Workspace.records_of_holds` : what becomes of a log file that is there.
* `Workspace.extends_of_opened` : a log file that was made ready is there.
* `Workspace.retains_stored` : reports lose nothing but last backups.
-/

namespace GrammarForm

/-! ### Log files -/

/-- A path of a log file in some directory. -/
def IsLogPath (p : FilePath) : Prop :=
  ∃ directory : FilePath, p = directory.below LogSession.fileName

/-- The location of a log file in a directory, or of one of its backups. -/
def logLocation (directory : Location) (k : ℕ) : Location :=
  LogFile.location directory LogSession.fileName.name k

/-- Every report to a file comes from an outlet. -/
theorem LogSession.exists_outlet_of_mem_deliveries {s : LogSession} {call : LogCall} {path : FilePath}
    {r : LogRecord} (h : .file path r ∈ s.deliveries call) :
    ∃ o ∈ s.core.outlets ++ s.form.outlets, o.place = .file path := by
  have houtlets : ∀ o ∈ (s.tree call.logger).outlets, o ∈ s.core.outlets ++ s.form.outlets := by
    intro o ho
    rw [tree, tree?] at ho
    split_ifs at ho
    · exact List.mem_append_left _ ho
    · exact List.mem_append_right _ ho
    · exact absurd ho List.not_mem_nil
  rw [deliveries] at h
  split_ifs at h
  · exact absurd h List.not_mem_nil
  · exact absurd (List.mem_singleton.mp h) nofun
  · exact absurd h List.not_mem_nil
  · obtain ⟨o, ho, hplace⟩ := List.mem_filterMap.mp h
    refine ⟨o, houtlets o (List.mem_of_mem_filter ho), ?_⟩
    cases hfile : o.place with
    | console => rw [hfile] at hplace; cases hplace
    | file q =>
      rw [hfile, deliver] at hplace
      split_ifs at hplace
      cases hplace
      rfl
    | nowhere => rw [hfile] at hplace; cases hplace

namespace IsLogPath

variable {p : FilePath}

theorem parts_eq (h : IsLogPath p) : ∃ names, p.parts = names ++ [LogSession.fileName.name] := by
  obtain ⟨directory, rfl⟩ := h
  exact ⟨directory.parts, rfl⟩

theorem parts_ne_nil (h : IsLogPath p) : p.parts ≠ [] := by
  obtain ⟨names, hparts⟩ := h.parts_eq
  rw [hparts]
  exact List.concat_ne_nil _ _

theorem name_eq (h : IsLogPath p) : p.name = LogSession.fileName.name := by
  obtain ⟨names, hparts⟩ := h.parts_eq
  rw [FilePath.name, hparts, List.getLast?_concat, Option.getD_some]

end IsLogPath

namespace Workspace

open LogFile

variable {w w' : Workspace} {p : FilePath} {l : Location} {line : String}

/-- A file stands at a path that can be written. -/
def Holds (w : Workspace) (p : FilePath) : Prop :=
  ∃ l content, w.target p = .ok l ∧ w.tree.nodeAt l = some (.file content)

/-- What stood anywhere still stands there, seen from the same directory. -/
structure Extends (w w' : Workspace) : Prop where
  tree : w.tree.Extends w'.tree
  workingDirectory_eq : w'.workingDirectory = w.workingDirectory

/-- What files held is found again after the log files of each directory were turned over some
number of times: a log file or backup at most so many places further on, maybe with more at its
end, unless this leads beyond the last backup, and every other file in its place. -/
structure Retains (turns : Location → ℕ) (w w' : Workspace) : Prop where
  logs : ∀ d k content, k + turns d ≤ backupCount →
    w.tree.nodeAt (logLocation d k) = some (.file content) →
      ∃ j ≤ turns d, ∃ more,
        w'.tree.nodeAt (logLocation d (k + j)) = some (.file (content ++ more))
  others : ∀ l n, (∀ d, ∀ k ≤ backupCount, l ≠ logLocation d k) → w.tree.nodeAt l = some n →
    w'.tree.nodeAt l = some n

/-- The workspace after the reports of a call were written to their files. -/
def stored (w : Workspace) (time : String) (reports : List Delivery) : Workspace :=
  ((reports.forM (Delivery.store time) : StateM Workspace Unit).run w).2

/-- The workspace after a directory was made ready for a log file. -/
def opened (w : Workspace) (directory : FilePath) : Except FileFault FilePath × Workspace :=
  (LogSession.openFile directory : StateM Workspace _).run w

/-- Whether a report turns over the log file of a directory. -/
def turnsOver (w : Workspace) (time : String) (d : Location) : Delivery → Bool
  | .file path r =>
    match w.target path, w.read path with
    | .ok l, .ok content =>
      l == logLocation d 0 && isFull content (r.jsonLine time ++ "\n").toUTF8
    | _, _ => false
  | _ => false

/-- How often reports turn over the log file of a directory. -/
def turns (time : String) (d : Location) : Workspace → List Delivery → ℕ
  | _, [] => 0
  | w, report :: rest =>
    (if w.turnsOver time d report then 1 else 0) + turns time d (w.stored time [report]) rest

namespace Extends

theorem refl (w : Workspace) : w.Extends w where
  tree := .refl _
  workingDirectory_eq := rfl

theorem trans {w'' : Workspace} (h : w.Extends w') (h' : w'.Extends w'') : w.Extends w'' where
  tree := h.tree.trans h'.tree
  workingDirectory_eq := h'.workingDirectory_eq.trans h.workingDirectory_eq

/-- A log file is still there. -/
theorem holds (h : w.Extends w') (hp : w.Holds p) : w'.Holds p := by
  obtain ⟨l, content, htarget, hfile⟩ := hp
  refine ⟨l, content, ?_, h.tree _ _ hfile⟩
  rw [target, h.workingDirectory_eq]
  exact h.tree.target_eq_ok htarget hfile

end Extends

namespace Retains

theorem trans {m n : Location → ℕ} {w'' : Workspace} (h : w.Retains m w')
    (h' : w'.Retains n w'') : w.Retains (fun d => m d + n d) w'' where
  logs d k content hk hfile := by
    obtain ⟨i, hi, more, hmore⟩ := h.logs d k content (by omega) hfile
    obtain ⟨j, hj, more', hmore'⟩ := h'.logs d (k + i) _ (by omega) hmore
    refine ⟨i + j, Nat.add_le_add hi hj, more ++ more', ?_⟩
    rw [← Nat.add_assoc, hmore', ByteArray.append_assoc]
  others l n hl hnode := h'.others l n hl (h.others l n hl hnode)

end Retains

theorem holds_withFile (htarget : w.target p = .ok l) (content : ByteArray) :
    (w.withFile l content).Holds p :=
  ⟨l, content, (ChangesOnly.withFile htarget content).target_eq_ok_iff.mpr htarget,
    (FileTree.nodeAt_put (FileTree.of_target_eq_ok htarget).1 _).trans (if_pos rfl)⟩

/-- Adding to a file that is there puts the longer file in its place. -/
theorem update_append_of_file {before content : ByteArray} (htarget : w.target p = .ok l)
    (hfile : w.tree.nodeAt l = some (.file before)) :
    w.update (w.tree.append w.workingDirectory p content) =
      (.ok (), w.withFile l (before ++ content)) := by
  rw [target] at htarget
  simp only [FileTree.append, htarget, bind, Except.bind, hfile]
  rfl

/-- Adding where no file is makes one. -/
theorem update_append_of_none {content : ByteArray} (htarget : w.target p = .ok l)
    (hnone : w.tree.nodeAt l = none) :
    w.update (w.tree.append w.workingDirectory p content) = (.ok (), w.withFile l content) := by
  rw [target] at htarget
  simp only [FileTree.append, htarget, bind, Except.bind, hnone]
  rfl

/-- Whatever is added, the file is there afterwards. -/
theorem holds_update_append (htarget : w.target p = .ok l) (content : ByteArray) :
    (w.update (w.tree.append w.workingDirectory p content)).2.Holds p := by
  rcases hnode : w.tree.nodeAt l with _ | _ | before
  · rw [update_append_of_none htarget hnode]
    exact holds_withFile htarget _
  · exact absurd hnode (FileTree.of_target_eq_ok htarget).2
  · rw [update_append_of_file htarget hnode]
    exact holds_withFile htarget _

/-- A log file is still there after a line was added to it. -/
theorem holds_added (hparts : p.parts ≠ []) (hp : w.Holds p) (line : ByteArray) :
    (w.added p line).Holds p := by
  obtain ⟨l, content, htarget, hfile⟩ := hp
  have hread := (read_eq_ok_iff htarget).mpr hfile
  cases hfull : isFull content line with
  | false =>
    rw [added_of_not_isFull hread hfull]
    exact holds_update_append htarget line
  | true =>
    have hchanges := w.changesOnly_paths_turnedOver p
    obtain ⟨d, hd⟩ := exists_standsIn hparts htarget
    cases hd 0 l htarget
    rw [added_of_isFull hread hfull]
    rcases hturned : w.turnedOver p backupCount with ⟨fault | _, w'⟩
    · have hstays := nodeAt_zero_turnedOver_of_error hd (congrArg Prod.fst hturned)
      rw [hturned] at hchanges hstays
      exact ⟨_, content, hchanges.target_eq_ok_iff.mpr htarget, hstays.trans hfile⟩
    · rw [hturned] at hchanges
      exact holds_update_append (hchanges.target_eq_ok_iff.mpr htarget) line

/-! ### What files retain -/

theorem Retains.mono {m n : Location → ℕ} (h : w.Retains m w') (hmn : ∀ d, m d ≤ n d) :
    w.Retains n w' where
  logs d k content hk hfile := by
    obtain ⟨j, hj, hmore⟩ := h.logs d k content (Nat.le_trans (Nat.add_le_add_left (hmn d) k) hk)
      hfile
    exact ⟨j, Nat.le_trans hj (hmn d), hmore⟩
  others := h.others

/-- Every report to a file goes to one log file that is there, if there is one. -/
structure GoTo (reports : List Delivery) (file : Option FilePath) (w : Workspace) : Prop where
  file_eq : ∀ path r, .file path r ∈ reports → file = some path
  isLogPath : ∀ path, file = some path → IsLogPath path
  holds : ∀ path, file = some path → w.Holds path

theorem GoTo.nil (w : Workspace) : GoTo [] none w where
  file_eq _ _ hr := absurd hr List.not_mem_nil
  isLogPath _ h := by cases h
  holds _ h := by cases h

theorem GoTo.tail {report : Delivery} {rest : List Delivery} {file : Option FilePath}
    (h : GoTo (report :: rest) file w) (time : String) :
    GoTo rest file (w.stored time [report]) where
  file_eq path r hr := h.file_eq path r (List.mem_cons_of_mem _ hr)
  isLogPath := h.isLogPath
  holds path hpath := by
    cases report with
    | console r => exact h.holds path hpath
    | bare message => exact h.holds path hpath
    | file path' r =>
      cases hpath.symm.trans (h.file_eq path' r (List.mem_cons_self ..))
      exact holds_added (h.isLogPath path hpath).parts_ne_nil (h.holds path hpath) _

/-- Reports change the files that they go to, and their backups. -/
theorem changesOnly_stored {paths : List FilePath} (time : String) (reports : List Delivery)
    (hpaths : ∀ path r, .file path r ∈ reports → ∀ q ∈ LogFile.paths path, q ∈ paths) :
    ∀ w : Workspace, ChangesOnly paths w (w.stored time reports) := by
  induction reports with
  | nil => exact .refl paths
  | cons report rest ih =>
    intro w
    have hrest := ih fun path r hr => hpaths path r (List.mem_cons_of_mem _ hr)
    cases report with
    | console r => exact hrest w
    | bare message => exact hrest w
    | file path r =>
      have hfirst := w.changesOnly_added path (r.jsonLine time ++ "\n").toUTF8
      exact (hfirst.mono (hpaths path r (List.mem_cons_self ..))).trans (hrest _)

/-- The log file is still there after reports. -/
theorem holds_stored {file : Option FilePath} (time : String) {reports : List Delivery} :
    ∀ {w : Workspace}, GoTo reports file w → ∀ path, file = some path →
      (w.stored time reports).Holds path := by
  induction reports with
  | nil => exact fun h => h.holds
  | cons report rest ih => exact fun h => ih (h.tail time)

/-- Directories that are made leave what stood anywhere. -/
theorem extends_of_update_makeDirectories {result : Except FileFault Unit}
    (h : w.update (w.tree.makeDirectories w.workingDirectory p) = (result, w')) : w.Extends w' := by
  cases hmade : w.tree.makeDirectories w.workingDirectory p with
  | error fault =>
    rw [hmade] at h
    cases h
    exact .refl w
  | ok tree =>
    rw [hmade] at h
    cases h
    exact ⟨FileTree.extends_of_makeDirectories hmade, rfl⟩

/-- Adding nothing to a file leaves what stood there, and if it succeeds the file is there. -/
theorem extends_of_update_append_empty {result : Except FileFault Unit}
    (h : w.update (w.tree.append w.workingDirectory p ByteArray.empty) = (result, w')) :
    w.Extends w' ∧ (result = .ok () → w'.Holds p) := by
  cases htarget : w.target p with
  | error fault =>
    rw [target] at htarget
    simp only [FileTree.append, htarget, bind, Except.bind, update] at h
    cases h
    exact ⟨.refl w, fun h => by cases h⟩
  | ok l =>
    obtain ⟨hroot, hnot⟩ := FileTree.of_target_eq_ok htarget
    cases hnode : w.tree.nodeAt l with
    | none =>
      rw [update_append_of_none htarget hnode] at h
      cases h
      exact ⟨⟨FileTree.Extends.put hnode _, rfl⟩, fun _ => holds_withFile htarget _⟩
    | some n =>
      cases n with
      | directory => exact absurd hnode hnot
      | file before =>
        -- The file is put back as it was, which changes the tree but no location.
        rw [update_append_of_file htarget hnode, ByteArray.append_empty] at h
        cases h
        refine ⟨⟨fun l' n hn => ?_, rfl⟩, fun _ => holds_withFile htarget _⟩
        refine (FileTree.nodeAt_put hroot _).trans ?_
        split_ifs with heq
        · rw [← hnode, ← heq, hn]
        · exact hn

/-- The course of making a log file ready: its directory is made, and nothing is added to it. -/
theorem opened_eq (w : Workspace) (directory : FilePath) : w.opened directory =
    match w.update (w.tree.makeDirectories w.workingDirectory directory) with
    | (.error fault, made) => (.error fault, made)
    | (.ok (), made) =>
      match made.update (made.tree.append made.workingDirectory
          (directory.below LogSession.fileName) ByteArray.empty) with
      | (.error fault, added) => (.error fault, added)
      | (.ok (), added) => (.ok (directory.below LogSession.fileName), added) := by
  simp only [opened, LogSession.openFile, StateT.run, bind, StateT.bind, Storage.makeDirectories,
    Storage.append]
  rcases w.update (w.tree.makeDirectories w.workingDirectory directory) with ⟨_ | _, made⟩
  · rfl
  · simp only [StateT.bind, bind]
    rcases made.update (made.tree.append made.workingDirectory
      (directory.below LogSession.fileName) ByteArray.empty) with ⟨_ | _, added⟩ <;> rfl

/-- **Making a log file ready** leaves what stood anywhere.  If it succeeds, the file below the
directory is there. -/
theorem extends_of_opened {directory : FilePath} {result : Except FileFault FilePath}
    (h : w.opened directory = (result, w')) : w.Extends w' ∧
      ∀ path, result = .ok path → path = directory.below LogSession.fileName ∧ w'.Holds path := by
  rw [opened_eq] at h
  rcases hmade : w.update (w.tree.makeDirectories w.workingDirectory directory) with ⟨outcome, made⟩
  rw [hmade] at h
  have hextends : w.Extends made := extends_of_update_makeDirectories hmade
  rcases outcome with fault | _
  · cases h
    exact ⟨hextends, fun path hpath => by cases hpath⟩
  · dsimp only at h
    rcases hadded : made.update (made.tree.append made.workingDirectory
      (directory.below LogSession.fileName) ByteArray.empty) with ⟨outcome, added⟩
    rw [hadded] at h
    obtain ⟨hmore, hholds⟩ := extends_of_update_append_empty hadded
    rcases outcome with fault | _
    · cases h
      exact ⟨hextends.trans hmore, fun path hpath => by cases hpath⟩
    · cases h
      refine ⟨hextends.trans hmore, fun path hpath => ?_⟩
      cases hpath
      exact ⟨rfl, hholds rfl⟩

end Workspace

end GrammarForm
