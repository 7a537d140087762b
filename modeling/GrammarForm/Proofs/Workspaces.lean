import GrammarForm.Proofs.Files

/-!
# Workspaces that change

A workspace is seen from its working directory.  Writing a path, adding to its file and moving the
file elsewhere change the files at these paths and leave all others as they are.

## Main definitions

* `Workspace.read`, `Workspace.place`, `Workspace.target` : what a path stands for.
* `Workspace.ChangesOnly` : nothing changes but the files at given paths.

## Main results

* `Workspace.ChangesOnly.target_eq_ok_iff` : the same paths can be written as before.
* `Workspace.ChangesOnly.read_eq_ok` : other files are read as before.
* `Workspace.changesOnly_append` : adding to a file.
-/

namespace GrammarForm

namespace Workspace

variable {w w' w'' : Workspace} {p q : FilePath} {paths : List FilePath} {content : ByteArray}
  {l : Location}

/-- What is read at a path. -/
def read (w : Workspace) (p : FilePath) : Except FileFault ByteArray :=
  w.tree.read w.workingDirectory p

/-- The location of a file that can be written at a path. -/
def target (w : Workspace) (p : FilePath) : Except FileFault Location :=
  w.tree.target w.workingDirectory p

/-- The location that a path leads to. -/
def place (w : Workspace) (p : FilePath) : Except FileFault Location :=
  w.tree.place w.workingDirectory p

/-- The workspace with a file at a location. -/
def withFile (w : Workspace) (l : Location) (content : ByteArray) : Workspace :=
  { w with tree := w.tree.put l (.file content) }

/-- The workspace with a file moved from a location to another one. -/
def withMoved (w : Workspace) (l l' : Location) (content : ByteArray) : Workspace :=
  { w with tree := (w.tree.erase l).put l' (.file content) }

/-- Writing a path does not touch the file that another path leads to. -/
def Apart (w : Workspace) (p q : FilePath) : Prop :=
  ∀ l, w.target p = .ok l → w.place q ≠ .ok l

/-- Nothing changes but the files at given paths, which hold no directories before or after. -/
structure ChangesOnly (paths : List FilePath) (w w' : Workspace) : Prop where
  workingDirectory_eq : w'.workingDirectory = w.workingDirectory
  sameDirectories : w.tree.SameDirectories w'.tree
  nodeAt_eq : ∀ l, (∀ p ∈ paths, w.target p ≠ .ok l) → w'.tree.nodeAt l = w.tree.nodeAt l

namespace ChangesOnly

theorem refl (paths : List FilePath) (w : Workspace) : ChangesOnly paths w w where
  workingDirectory_eq := rfl
  sameDirectories := .refl _
  nodeAt_eq _ _ := rfl

/-- The same paths can be written as before. -/
theorem target_eq_ok_iff (h : ChangesOnly paths w w') : w'.target p = .ok l ↔ w.target p = .ok l := by
  rw [target, h.workingDirectory_eq]
  exact h.sameDirectories.target_eq_ok_iff

/-- A path that leads to another location still leads there. -/
theorem place_eq_ok (h : ChangesOnly paths w w') (hl : w.place p = .ok l)
    (hpaths : ∀ q ∈ paths, w.target q ≠ .ok l) : w'.place p = .ok l := by
  rw [place, h.workingDirectory_eq]
  exact h.sameDirectories.place_eq_ok (h.nodeAt_eq l hpaths) hl

theorem mono {more : List FilePath} (h : ChangesOnly paths w w') (hsub : ∀ p ∈ paths, p ∈ more) :
    ChangesOnly more w w' where
  workingDirectory_eq := h.workingDirectory_eq
  sameDirectories := h.sameDirectories
  nodeAt_eq l hl := h.nodeAt_eq l fun p hp => hl p (hsub p hp)

theorem trans (h : ChangesOnly paths w w') (h' : ChangesOnly paths w' w'') :
    ChangesOnly paths w w'' where
  workingDirectory_eq := h'.workingDirectory_eq.trans h.workingDirectory_eq
  sameDirectories := h.sameDirectories.trans h'.sameDirectories
  nodeAt_eq l hl := by
    have hl' : ∀ p ∈ paths, w'.target p ≠ .ok l := fun p hp =>
      mt h.target_eq_ok_iff.mp (hl p hp)
    rw [h'.nodeAt_eq l hl', h.nodeAt_eq l hl]

/-- **Other files are read as before.** -/
theorem read_eq_ok (h : ChangesOnly paths w w') (hq : w.read q = .ok content)
    (hpaths : ∀ p ∈ paths, w.Apart p q) : w'.read q = .ok content := by
  obtain ⟨l, hplace, hfile⟩ := FileTree.read_eq_ok_iff.mp hq
  have hapart : ∀ p ∈ paths, w.target p ≠ .ok l := fun p hp htarget =>
    hpaths p hp l htarget hplace
  refine FileTree.read_eq_ok_iff.mpr ⟨l, h.place_eq_ok hplace hapart, ?_⟩
  rw [h.nodeAt_eq l hapart, hfile]

/-- A file that is written is the only change. -/
theorem withFile (h : w.target p = .ok l) (content : ByteArray) :
    ChangesOnly [p] w (w.withFile l content) where
  workingDirectory_eq := rfl
  sameDirectories :=
    have hl := FileTree.of_target_eq_ok h
    FileTree.sameDirectories_put hl.1 hl.2
  nodeAt_eq l' hl' := by
    have hne : l' ≠ l := fun heq => hl' p (List.mem_singleton_self p) (heq ▸ h)
    exact (FileTree.nodeAt_put (FileTree.of_target_eq_ok h).1 _).trans (if_neg hne)

/-- A file that is moved changes its old and its new place. -/
theorem withMoved {l' : Location} (hp : w.target p = .ok l) (hq : w.target q = .ok l')
    (content : ByteArray) : ChangesOnly [p, q] w (w.withMoved l l' content) := by
  obtain ⟨hl, hnot⟩ := FileTree.of_target_eq_ok hp
  obtain ⟨hl', hnot'⟩ := FileTree.of_target_eq_ok hq
  have herase := FileTree.sameDirectories_erase hl hnot
  refine ⟨rfl, herase.trans (FileTree.sameDirectories_put hl' (mt (herase l').mp hnot')),
    fun l'' hpaths => ?_⟩
  have hne : l'' ≠ l := fun heq => hpaths p (List.mem_cons_self ..) (heq ▸ hp)
  have hne' : l'' ≠ l' := fun heq =>
    hpaths q (List.mem_cons_of_mem _ (List.mem_singleton_self q)) (heq ▸ hq)
  exact (FileTree.nodeAt_put_erase hl hl').trans ((if_neg hne').trans (if_neg hne))

end ChangesOnly

theorem read_withFile (h : w.target p = .ok l) (content : ByteArray) :
    (w.withFile l content).read p = .ok content :=
  FileTree.read_put h

theorem place_withFile (h : w.target p = .ok l) (content : ByteArray) :
    (w.withFile l content).place p = .ok l :=
  FileTree.place_put h

/-- What is read at a path that can be written is the file at its location. -/
theorem read_eq_ok_iff (h : w.target p = .ok l) :
    w.read p = .ok content ↔ w.tree.nodeAt l = some (.file content) := by
  rw [read, FileTree.read_of_target h]
  rcases w.tree.nodeAt l with _ | _ | before <;> simp

/-- Writing a path puts its file in place. -/
theorem update_write_of_ok (h : w.target p = .ok l) (content : ByteArray) :
    w.update (w.tree.write w.workingDirectory p content) = (.ok (), w.withFile l content) := by
  rw [target] at h
  rw [FileTree.write, h]
  rfl

/-- Writing a path that cannot be written changes nothing. -/
theorem update_write_of_error {fault : FileFault} (h : w.target p = .error fault)
    (content : ByteArray) :
    w.update (w.tree.write w.workingDirectory p content) = (.error fault, w) := by
  rw [target] at h
  rw [FileTree.write, h]
  rfl

/-- Adding to a file changes that file at most. -/
theorem changesOnly_append (w : Workspace) (p : FilePath) (content : ByteArray) :
    ChangesOnly [p] w (w.update (w.tree.append w.workingDirectory p content)).2 := by
  cases happend : w.tree.append w.workingDirectory p content with
  | error fault => exact .refl _ w
  | ok tree =>
    obtain ⟨l, content', htarget, rfl⟩ := FileTree.exists_of_append_eq_ok happend
    exact .withFile htarget content'

end Workspace

end GrammarForm
