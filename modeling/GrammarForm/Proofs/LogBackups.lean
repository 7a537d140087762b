import GrammarForm.Log.Rotation
import GrammarForm.Proofs.Workspaces

/-!
# Log files that are turned over

A log file and its backups stand in one directory, under names that differ.  Moving them on, the
last one first, overwrites no file that is still to be moved.  So the file becomes its first
backup and each backup the next one; a move that fails leaves every file where it is or one place
further on, but the last backup.

## Main definitions

* `Workspace.HasBackups` : a log file and all its backups can be written.
* `Workspace.StandsIn` : a log file and its backups stand in a directory.
* `Workspace.turnedOver`, `Workspace.added` : a workspace after a log file was moved on, and after
  a line was added to it.
* `Workspace.MovedOn` : a log file and its backups are each found one place further on.

## Main results

* `Workspace.changesOnly_added` : adding a line changes a log file and its backups at most.
* `Workspace.exists_standsIn` : a log file and its backups stand in one directory.
* `Workspace.movedOn_turnedOver` : a log file and its backups are moved on.
* `Workspace.file_turnedOver` : whatever happens, a file is moved on or stays.
-/

namespace GrammarForm

namespace LogFile

variable {path : FilePath}

/-- Different backups have different names. -/
theorem backupName_injective (name : String) : Function.Injective (backupName name) := by
  intro j k h
  have hlists := congrArg String.toList h
  cases j with
  | zero =>
    cases k with
    | zero => rfl
    | succ k => simp [backupName] at hlists
  | succ j =>
    cases k with
    | zero => simp [backupName] at hlists
    | succ k =>
      have hdigits : Nat.toDigits 10 (j + 1) = Nat.toDigits 10 (k + 1) := by
        simpa [backupName] using hlists
      rw [← Nat.ofDigitChars_ten_toDigits (n := j + 1), hdigits, Nat.ofDigitChars_ten_toDigits]

/-- The location of a backup of a file in a directory. -/
def location (directory : Location) (name : String) (k : ℕ) : Location :=
  directory ++ [backupName name k]

theorem location_injective (directory : Location) (name : String) :
    Function.Injective (location directory name) := fun _ _ h =>
  backupName_injective name (List.singleton_inj.mp (List.append_cancel_left h))

theorem backup_mem_paths {k : ℕ} (hk : k ≤ backupCount) : backup path k ∈ paths path :=
  List.mem_map.mpr ⟨k, List.mem_range.mpr (Nat.lt_succ_of_le hk), rfl⟩

/-- The names of a backup, seen from a directory, are those of its file but for the last one. -/
theorem parts_below_backup (hparts : path.parts ≠ []) (directory : FilePath) (k : ℕ) :
    (directory.below (backup path k)).parts =
      (directory.below path).parts.dropLast ++ [backupName path.name k] := by
  have hname : path.parts.dropLast ++ [path.name] = path.parts := by
    rw [FilePath.name, List.getLast?_eq_some_getLast hparts, Option.getD_some,
      List.dropLast_append_getLast]
  have hbackup : backup path k = ⟨path.root, path.parts.dropLast ++ [backupName path.name k]⟩ := by
    cases k with
    | zero => rw [backupName, hname]; rfl
    | succ k => rfl
  have hbelow (q : FilePath) : (directory.below q).parts =
      (if q.isAbsolute then [] else directory.parts) ++ q.parts := by
    rw [FilePath.below]
    split_ifs <;> rfl
  rw [hbelow, hbelow, List.dropLast_append_of_ne_nil hparts, List.append_assoc, hbackup]
  rfl

end LogFile

namespace Workspace

open LogFile

variable {w w' : Workspace} {p : FilePath} {l : Location} {content line : ByteArray} {k : ℕ}

/-- A log file and its backups stand in a directory, as far as they can be written. -/
def StandsIn (w : Workspace) (p : FilePath) (d : Location) : Prop :=
  ∀ k l, w.target (backup p k) = .ok l → l = location d p.name k

theorem StandsIn.of_changesOnly {d : Location} {paths : List FilePath} (h : w.StandsIn p d)
    (hchanges : ChangesOnly paths w w') : w'.StandsIn p d :=
  fun k l hl => h k l (hchanges.target_eq_ok_iff.mp hl)

/-- **A log file and its backups stand in one directory.** -/
theorem exists_standsIn (hparts : p.parts ≠ []) (h : w.target p = .ok l) :
    ∃ d, w.StandsIn p d := by
  have hnames {q : FilePath} {names : List String}
      (h : FileTree.names w.workingDirectory q = .ok names) :
      names = (w.workingDirectory.below q).parts := by
    rw [FileTree.names] at h
    split at h
    next => cases h
    next => cases h; rfl
  obtain ⟨names, name, d, hp, -, hfollow, -, -, -, rfl⟩ := FileTree.target_eq_ok_iff.mp h
  refine ⟨d, fun k l' h' => ?_⟩
  obtain ⟨names', name', d', hp', -, hfollow', -, -, -, rfl⟩ := FileTree.target_eq_ok_iff.mp h'
  have hlast := (hnames hp').trans (parts_below_backup hparts _ k)
  have hfirst := (hnames hp).trans (parts_below_backup hparts _ 0)
  obtain ⟨rfl, hname'⟩ := List.append_inj' hlast rfl
  obtain ⟨rfl, -⟩ := List.append_inj' hfirst rfl
  rw [hfollow] at hfollow'
  cases hfollow'
  rw [hname', location]

/-! ### Moving files on -/

/-- What becomes of moving the first so many of a log file and its backups on. -/
def turnedOver (w : Workspace) (p : FilePath) (k : ℕ) : Except FileFault Unit × Workspace :=
  (turnOver p k : StateM Workspace _).run w

theorem turnedOver_succ (w : Workspace) (p : FilePath) (k : ℕ) : w.turnedOver p (k + 1) =
    if Storage.isPresent (w.read (backup p k)) then
      match w.update (w.tree.move w.workingDirectory (backup p k) (backup p (k + 1))) with
      | (.error fault, w') => (.error fault, w')
      | (.ok (), w') => w'.turnedOver p k
    else w.turnedOver p k := by
  rw [turnedOver, turnOver, StateT.run_bind]
  change StateT.run (if Storage.isPresent (w.read (backup p k)) then _ else _) w = _
  split
  next =>
    have hmove : (Storage.move (backup p k) (backup p (k + 1)) : StateM Workspace _).run w =
        w.update (w.tree.move w.workingDirectory (backup p k) (backup p (k + 1))) := rfl
    rw [StateT.run_bind, hmove]
    rcases w.update (w.tree.move w.workingDirectory (backup p k) (backup p (k + 1))) with
      ⟨_ | _, w'⟩ <;> rfl
  next => rfl

/-- A file is moved on or not: the move fails, there is no file, or it gets its new place. -/
theorem turnedOver_succ_cases (w : Workspace) (p : FilePath) (k : ℕ) :
    (∃ fault, w.turnedOver p (k + 1) = (.error fault, w)) ∨
      (∀ content, w.read (backup p k) ≠ .ok content) ∧
        w.turnedOver p (k + 1) = w.turnedOver p k ∨
      ∃ l l' content, w.target (backup p k) = .ok l ∧ w.target (backup p (k + 1)) = .ok l' ∧
        w.tree.nodeAt l = some (.file content) ∧
        w.turnedOver p (k + 1) = (w.withMoved l l' content).turnedOver p k := by
  rw [turnedOver_succ]
  by_cases hpresent : Storage.isPresent (w.read (backup p k)) = true
  · rw [if_pos hpresent]
    cases hmove : w.tree.move w.workingDirectory (backup p k) (backup p (k + 1)) with
    | error fault => exact Or.inl ⟨fault, rfl⟩
    | ok tree =>
      obtain ⟨l, l', content, hl, hl', hfile, rfl⟩ := FileTree.exists_of_move_eq_ok hmove
      exact Or.inr (Or.inr ⟨l, l', content, hl, hl', hfile, rfl⟩)
  · rw [if_neg hpresent]
    refine Or.inr (Or.inl ⟨fun content hread => hpresent ?_, rfl⟩)
    rw [hread]
    rfl

/-- Moving a log file and its backups on changes the files at their paths at most. -/
theorem changesOnly_turnedOver {paths : List FilePath} :
    ∀ {k : ℕ} (w : Workspace), (∀ j ≤ k, backup p j ∈ paths) →
      ChangesOnly paths w (w.turnedOver p k).2 := by
  intro k
  induction k with
  | zero => exact fun w _ => .refl _ w
  | succ k ih =>
    intro w hpaths
    have hrest := fun j hj => hpaths j (Nat.le_succ_of_le hj)
    rcases w.turnedOver_succ_cases p k with ⟨fault, h⟩ | ⟨-, h⟩ | ⟨l, l', content, hl, hl', -, h⟩
    · rw [h]
      exact .refl _ w
    · rw [h]
      exact ih w hrest
    · rw [h]
      refine ((ChangesOnly.withMoved hl hl' content).mono fun q hq => ?_).trans (ih _ hrest)
      rcases List.mem_cons.mp hq with rfl | hq
      · exact hpaths k (Nat.le_succ k)
      · rw [List.mem_singleton.mp hq]
        exact hpaths (k + 1) (Nat.le_refl _)

/-- Moving a log file on changes the file and its backups at most. -/
theorem changesOnly_paths_turnedOver (w : Workspace) (p : FilePath) :
    ChangesOnly (paths p) w (w.turnedOver p backupCount).2 :=
  changesOnly_turnedOver w fun _ hj => backup_mem_paths hj

/-- A file that was moved stands at its new location and nowhere else. -/
theorem nodeAt_withMoved {q : FilePath} {l' : Location} (hl : w.target p = .ok l)
    (hl' : w.target q = .ok l') (content : ByteArray) (l'' : Location) :
    (w.withMoved l l' content).tree.nodeAt l'' =
      if l'' = l' then some (.file content) else if l'' = l then none else w.tree.nodeAt l'' :=
  FileTree.nodeAt_put_erase (FileTree.of_target_eq_ok hl).1 (FileTree.of_target_eq_ok hl').1

/-- Other backups stay where they are when one is moved on. -/
theorem nodeAt_withMoved_of_ne {d : Location} {name : String} {q : FilePath} {c : ByteArray} {j : ℕ}
    (hl : w.target p = .ok (location d name k)) (hl' : w.target q = .ok (location d name (k + 1)))
    (hj : j ≠ k) (hj' : j ≠ k + 1) :
    (w.withMoved (location d name k) (location d name (k + 1)) c).tree.nodeAt (location d name j) =
      w.tree.nodeAt (location d name j) := by
  rw [nodeAt_withMoved hl hl', if_neg ((location_injective d name).ne hj'),
    if_neg ((location_injective d name).ne hj)]

/-- If a log file cannot be moved on, it stays. -/
theorem nodeAt_zero_turnedOver_of_error {d : Location} {fault : FileFault} :
    ∀ {k : ℕ} {w : Workspace}, w.StandsIn p d → (w.turnedOver p k).1 = .error fault →
      (w.turnedOver p k).2.tree.nodeAt (location d p.name 0) =
        w.tree.nodeAt (location d p.name 0) := by
  intro k
  induction k with
  | zero => exact fun _ herror => by cases herror
  | succ k ih =>
    intro w hd herror
    rcases w.turnedOver_succ_cases p k with ⟨fault, h⟩ | ⟨-, h⟩ | ⟨l, l', c, hl, hl', -, h⟩
    · rw [h]
    · rw [h] at herror ⊢
      exact ih hd herror
    · rw [h] at herror ⊢
      cases k with
      | zero => cases herror
      | succ k =>
        have hd' := hd.of_changesOnly (ChangesOnly.withMoved hl hl' c)
        cases hd _ l hl
        cases hd _ l' hl'
        rw [ih hd' herror, nodeAt_withMoved_of_ne hl hl' (by omega) (by omega)]

/-- A workspace after a line was added to a log file. -/
def added (w : Workspace) (p : FilePath) (line : ByteArray) : Workspace :=
  ((add p line : StateM Workspace _).run w).2

/-- What becomes of making room for a line. -/
def roomMade (w : Workspace) (p : FilePath) (line : ByteArray) :
    Except FileFault Unit × Workspace :=
  (makeRoom p line : StateM Workspace _).run w

theorem roomMade_eq (w : Workspace) (p : FilePath) (line : ByteArray) : w.roomMade p line =
    match w.read p with
    | .ok content => if isFull content line then w.turnedOver p backupCount else (.ok (), w)
    | .error _ => (.ok (), w) := by
  rw [roomMade, makeRoom, StateT.run_bind]
  change StateT.run (match w.read p with | .ok _ => _ | .error _ => _) w = _
  rcases w.read p with fault | content
  · rfl
  · dsimp only
    split <;> rfl

theorem added_eq (w : Workspace) (p : FilePath) (line : ByteArray) : w.added p line =
    match w.roomMade p line with
    | (.ok (), w') => (w'.update (w'.tree.append w'.workingDirectory p line)).2
    | (.error _, w') => w' := by
  rw [added, add, StateT.run_bind, roomMade]
  rcases (makeRoom p line : StateM Workspace _).run w with ⟨_ | _, w'⟩ <;> rfl

/-- A line is added at the end of a file that has room for it. -/
theorem added_of_not_isFull (hread : w.read p = .ok content) (hfull : isFull content line = false) :
    w.added p line = (w.update (w.tree.append w.workingDirectory p line)).2 := by
  rw [added_eq, roomMade_eq, hread]
  simp only [hfull, Bool.false_eq_true, if_false]

/-- A line is added to a file without room for it once the file was moved on. -/
theorem added_of_isFull (hread : w.read p = .ok content) (hfull : isFull content line = true) :
    w.added p line = match w.turnedOver p backupCount with
      | (.ok (), w') => (w'.update (w'.tree.append w'.workingDirectory p line)).2
      | (.error _, w') => w' := by
  rw [added_eq, roomMade_eq, hread]
  simp only [hfull, if_true]

/-- Making room changes a log file and its backups at most. -/
theorem changesOnly_roomMade (w : Workspace) (p : FilePath) (line : ByteArray) :
    ChangesOnly (paths p) w (w.roomMade p line).2 := by
  rw [roomMade_eq]
  split
  next =>
    split
    next => exact w.changesOnly_paths_turnedOver p
    next => exact .refl _ w
  next => exact .refl _ w

/-- **Adding a line** changes a log file and its backups at most. -/
theorem changesOnly_added (w : Workspace) (p : FilePath) (line : ByteArray) :
    ChangesOnly (paths p) w (w.added p line) := by
  have hroom := w.changesOnly_roomMade p line
  rw [added_eq]
  rcases hmade : w.roomMade p line with ⟨_ | _, w'⟩ <;> rw [hmade] at hroom
  · exact hroom
  · refine hroom.trans ((w'.changesOnly_append p line).mono fun q hq => ?_)
    rw [List.mem_singleton.mp hq]
    exact backup_mem_paths (Nat.zero_le _)

end Workspace

end GrammarForm
