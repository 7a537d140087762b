import GrammarForm.FileTree
import Mathlib.Data.List.Basic
import Mathlib.Tactic.SplitIfs

/-!
# Files that are written

A path that can be written leads through directories to a location that holds none, so that
neither writing it nor moving its file changes a directory.  Every other path then leads to the
same location as before, and a file at another location stays what it is.  The file that was
written is read back.

## Main definitions

* `FileTree.SameDirectories` : a tree has the directories of another one.
* `FileTree.place` : the location that a path leads to.
* `FileTree.Extends` : a tree has everything that another one has.

## Main results

* `FileTree.target_eq_ok_iff` : the paths that can be written.
* `FileTree.SameDirectories.target_eq_ok_iff` : a path can be written as before.
* `FileTree.place_put`, `FileTree.read_put` : a file that was written is found and read back.
* `FileTree.read_of_target` : what is read at a path that can be written.
* `FileTree.exists_of_move_eq_ok` : a file that was moved.
* `FileTree.extends_of_makeDirectories` : directories that are made leave everything in its place.
-/

namespace GrammarForm.FileTree

variable {t t' t'' : FileTree} {workingDirectory p : FilePath} {l l' : Location}
  {content : ByteArray}

/-! ### Trees with the same directories -/

/-- A tree has the same directories as before. -/
def SameDirectories (t t' : FileTree) : Prop :=
  ∀ l, t'.nodeAt l = some .directory ↔ t.nodeAt l = some .directory

namespace SameDirectories

theorem refl (t : FileTree) : t.SameDirectories t := fun _ => Iff.rfl

theorem trans (h : t.SameDirectories t') (h' : t'.SameDirectories t'') : t.SameDirectories t'' :=
  fun l => (h' l).trans (h l)

end SameDirectories

private theorem lookup_filter_of_ne (nodes : List (Location × FileNode)) (h : l' ≠ l) :
    (nodes.filter (·.1 != l)).lookup l' = nodes.lookup l' := by
  induction nodes with
  | nil => rfl
  | cons entry nodes ih =>
    by_cases hentry : entry.1 = l
    · have hne : l' ≠ entry.1 := hentry ▸ h
      rw [List.filter_cons_of_neg (by simpa using hentry), ih, List.lookup_cons,
        beq_eq_false_iff_ne.mpr hne]
    · rw [List.filter_cons_of_pos (by simpa using hentry), List.lookup_cons, List.lookup_cons, ih]

/-- A node that is put at a location changes that location alone. -/
theorem nodeAt_put (hl : l ≠ []) (n : FileNode) :
    (t.put l n).nodeAt l' = if l' = l then some n else t.nodeAt l' := by
  rw [nodeAt, nodeAt, put]
  by_cases hroot : l' = []
  · rw [if_pos hroot, if_pos hroot, if_neg (hroot ▸ hl.symm)]
  · rw [if_neg hroot, if_neg hroot, List.lookup_cons]
    by_cases heq : l' = l
    · rw [if_pos heq, heq, beq_self_eq_true]
    · rw [if_neg heq, beq_eq_false_iff_ne.mpr heq]
      exact lookup_filter_of_ne t.nodes heq

/-- A location that is emptied is the only one that changes. -/
theorem nodeAt_erase (hl : l ≠ []) :
    (t.erase l).nodeAt l' = if l' = l then none else t.nodeAt l' := by
  rw [nodeAt, nodeAt, erase]
  by_cases hroot : l' = []
  · rw [if_pos hroot, if_pos hroot, if_neg (hroot ▸ hl.symm)]
  · rw [if_neg hroot, if_neg hroot]
    by_cases heq : l' = l
    · rw [if_pos heq, heq, List.lookup_eq_none_iff]
      exact fun entry hentry => bne_comm.trans (List.mem_filter.mp hentry).2
    · rw [if_neg heq, lookup_filter_of_ne t.nodes heq]

/-- A file that is put where no directory stands leaves the directories. -/
theorem sameDirectories_put (hl : l ≠ []) (hdirectory : t.nodeAt l ≠ some .directory) :
    t.SameDirectories (t.put l (.file content)) := by
  intro l'
  rw [nodeAt_put hl]
  split_ifs with heq
  · subst heq
    exact iff_of_false nofun hdirectory
  · exact Iff.rfl

/-- A location without a directory that is emptied leaves the directories. -/
theorem sameDirectories_erase (hl : l ≠ []) (hdirectory : t.nodeAt l ≠ some .directory) :
    t.SameDirectories (t.erase l) := by
  intro l'
  rw [nodeAt_erase hl]
  split_ifs with heq
  · subst heq
    exact iff_of_false nofun hdirectory
  · exact Iff.rfl

/-! ### Following a path -/

theorem child?_eq_ok_iff {base : Location} {name : String} {n : Option FileNode} :
    t.child? base name = .ok n ↔
      Text.byteCount name ≤ nameLimit ∧ t.nodeAt (base ++ [name]) = n := by
  rw [child?]
  split_ifs with hlong
  · exact iff_of_false nofun fun h => absurd h.1 (Nat.not_le.mpr hlong)
  · rw [Except.ok.injEq]
    exact (and_iff_right (Nat.not_lt.mp hlong)).symm

/-- A name leads up or into a directory, or, as the last one, to a file. -/
theorem follow_cons_eq_ok_iff {base : Location} {name : String} {rest : List String} :
    t.follow base (name :: rest) = .ok l ↔
      name = ".." ∧ t.follow base.dropLast rest = .ok l ∨
        name ≠ ".." ∧ Text.byteCount name ≤ nameLimit ∧
          (t.nodeAt (base ++ [name]) = some .directory ∧ t.follow (base ++ [name]) rest = .ok l ∨
            ∃ content, t.nodeAt (base ++ [name]) = some (.file content) ∧ rest = [] ∧
              l = base ++ [name]) := by
  rw [follow]
  by_cases hup : name = ".."
  · rw [if_pos hup]
    simp only [hup, ne_eq, not_true_eq_false, false_and, or_false, true_and]
  · rw [if_neg hup]
    simp only [hup, false_and, false_or, ne_eq, not_false_eq_true, true_and]
    by_cases hlong : nameLimit < Text.byteCount name
    · simp only [child?, if_pos hlong, Nat.not_le.mpr hlong, false_and, reduceCtorEq]
    · simp only [child?, if_neg hlong, Nat.not_lt.mp hlong, true_and]
      cases t.nodeAt (base ++ [name]) with
      | none => simp
      | some n =>
        cases n with
        | directory => simp
        | file before =>
          cases rest with
          | nil => simp [eq_comm]
          | cons => simp

/-- A path leads where it led before in a tree with the same directories, if what stands there is
the same. -/
theorem SameDirectories.follow_eq_ok (h : t.SameDirectories t') (hl : t'.nodeAt l = t.nodeAt l)
    {names : List String} :
    ∀ {base : Location}, t.follow base names = .ok l → t'.follow base names = .ok l := by
  induction names with
  | nil => exact fun hfollow => hfollow
  | cons name rest ih =>
    intro base hfollow
    rw [follow_cons_eq_ok_iff] at hfollow ⊢
    rcases hfollow with ⟨hup, hrest⟩ | ⟨hup, hshort, ⟨hdirectory, hrest⟩ | ⟨content, hfile, hlast⟩⟩
    · exact Or.inl ⟨hup, ih hrest⟩
    · exact Or.inr ⟨hup, hshort, Or.inl ⟨(h _).mpr hdirectory, ih hrest⟩⟩
    · refine Or.inr ⟨hup, hshort, Or.inr ⟨content, ?_, hlast⟩⟩
      rw [← hlast.2, hl, hlast.2, hfile]

/-- A path to a directory goes on with what is in it. -/
theorem follow_append {names more : List String} (hdirectory : t.nodeAt l = some .directory) :
    ∀ {base : Location}, t.follow base names = .ok l →
      t.follow base (names ++ more) = t.follow l more := by
  induction names with
  | nil =>
    intro base hl
    cases hl
    rfl
  | cons first rest ih =>
    intro base hl
    rw [List.cons_append, follow]
    rw [follow_cons_eq_ok_iff] at hl
    rcases hl with ⟨hup, hl⟩ | ⟨hup, hshort, ⟨hnext, hl⟩ | ⟨before, hbefore, -, rfl⟩⟩
    · rw [if_pos hup, ih hl]
    · rw [if_neg hup, child?_eq_ok_iff.mpr ⟨hshort, hnext⟩]
      exact ih hl
    · exact nomatch hbefore.symm.trans hdirectory

/-! ### Reading and writing -/

/-- The location that a path leads to. -/
def place (t : FileTree) (workingDirectory p : FilePath) : Except FileFault Location := do
  t.follow [] (← names workingDirectory p)

/-- What is read at a path stands at the location that it leads to. -/
theorem read_eq_bind : t.read workingDirectory p = t.place workingDirectory p >>= fun l =>
    match t.nodeAt l with
    | some (.file content) => .ok content
    | some .directory => .error .isDirectory
    | none => .error .missing := by
  rw [read, place]
  cases names workingDirectory p <;> rfl

theorem read_eq_ok_iff : t.read workingDirectory p = .ok content ↔
    ∃ l, t.place workingDirectory p = .ok l ∧ t.nodeAt l = some (.file content) := by
  rw [read_eq_bind]
  cases t.place workingDirectory p with
  | error fault => simp [bind, Except.bind]
  | ok l =>
    simp only [bind, Except.bind, Except.ok.injEq, exists_eq_left']
    cases t.nodeAt l with
    | none => simp
    | some n => cases n <;> simp

/-- **The paths that can be written** lead through directories to a name that is none. -/
theorem target_eq_ok_iff : t.target workingDirectory p = .ok l ↔
    ∃ names' name directory, names workingDirectory p = .ok (names' ++ [name]) ∧ name ≠ ".." ∧
      t.follow [] names' = .ok directory ∧ t.nodeAt directory = some .directory ∧
      Text.byteCount name ≤ nameLimit ∧ t.nodeAt (directory ++ [name]) ≠ some .directory ∧
      l = directory ++ [name] := by
  rw [target]
  cases names workingDirectory p with
  | error fault => simp [bind, Except.bind]
  | ok path =>
    simp only [bind, Except.bind, Except.ok.injEq]
    rcases List.eq_nil_or_concat path with rfl | ⟨names', name, rfl⟩
    · simp
    · rw [List.concat_eq_append, List.getLast?_concat, List.dropLast_concat]
      constructor
      · intro h
        cases hfollow : t.follow [] names' with
        | error fault => rw [hfollow] at h; exact nomatch h
        | ok directory =>
          simp only [hfollow] at h
          split_ifs at h with hup
          split at h
          next hdirectory =>
            cases hchild : t.child? directory name with
            | error fault => rw [hchild] at h; exact nomatch h
            | ok child =>
              obtain ⟨hshort, hchild'⟩ := child?_eq_ok_iff.mp hchild
              simp only [hchild] at h
              split at h
              next => exact nomatch h
              next hnot =>
                cases h
                exact ⟨names', name, directory, rfl, hup, hfollow, hdirectory, hshort,
                  fun hd => hnot (hchild'.symm.trans hd), rfl⟩
          next => exact nomatch h
      · rintro ⟨names'', name', directory, heq, hup, hfollow, hdirectory, hshort, hnot, rfl⟩
        obtain ⟨rfl, hname⟩ := List.append_inj' heq rfl
        cases hname
        simp only [hfollow, if_neg hup, hdirectory, child?_eq_ok_iff.mpr ⟨hshort, rfl⟩]

theorem SameDirectories.place_eq_ok (h : t.SameDirectories t') (hnode : t'.nodeAt l = t.nodeAt l)
    (hl : t.place workingDirectory p = .ok l) : t'.place workingDirectory p = .ok l := by
  rw [place] at hl ⊢
  cases hnames : names workingDirectory p with
  | error fault => rw [hnames] at hl; exact nomatch hl
  | ok names' =>
    rw [hnames] at hl
    exact h.follow_eq_ok hnode hl

/-- **A path can be written as before** in every tree with the same directories. -/
theorem SameDirectories.target_eq_ok_iff (h : t.SameDirectories t') :
    t'.target workingDirectory p = .ok l ↔ t.target workingDirectory p = .ok l := by
  have hstep {t t' : FileTree} (h : t.SameDirectories t')
      (hl : t.target workingDirectory p = .ok l) : t'.target workingDirectory p = .ok l := by
    obtain ⟨names', name, directory, hnames, hup, hfollow, hdirectory, hshort, hnot, rfl⟩ :=
      FileTree.target_eq_ok_iff.mp hl
    have hdirectory' := (h _).mpr hdirectory
    exact FileTree.target_eq_ok_iff.mpr ⟨names', name, directory, hnames, hup,
      h.follow_eq_ok (hdirectory'.trans hdirectory.symm) hfollow, hdirectory', hshort,
      fun hd => hnot ((h _).mp hd), rfl⟩
  exact ⟨hstep fun l => (h l).symm, hstep h⟩

/-- The location of a file that can be written is not the root and holds no directory. -/
theorem of_target_eq_ok (h : t.target workingDirectory p = .ok l) :
    l ≠ [] ∧ t.nodeAt l ≠ some .directory := by
  obtain ⟨_, _, _, -, -, -, -, -, hnot, rfl⟩ := target_eq_ok_iff.mp h
  exact ⟨by simp, hnot⟩

/-- A path that can be written leads to its location if a file stands there, and else nowhere. -/
theorem place_of_target (h : t.target workingDirectory p = .ok l) :
    t.place workingDirectory p = if (t.nodeAt l).isSome then .ok l else .error .missing := by
  obtain ⟨names', name, directory, hnames, hup, hfollow, hdirectory, hshort, hnot, rfl⟩ :=
    target_eq_ok_iff.mp h
  simp only [place, hnames, bind, Except.bind, follow_append hdirectory hfollow, follow,
    if_neg hup, child?_eq_ok_iff.mpr ⟨hshort, rfl⟩]
  cases hnode : t.nodeAt (directory ++ [name]) with
  | none => rfl
  | some n =>
    cases n with
    | directory => exact absurd hnode hnot
    | file content => rfl

/-- What is read at a path that can be written is the file at its location. -/
theorem read_of_target (h : t.target workingDirectory p = .ok l) :
    t.read workingDirectory p = match t.nodeAt l with
      | some (.file content) => .ok content
      | _ => .error .missing := by
  rw [read_eq_bind, place_of_target h]
  have hnot := (of_target_eq_ok h).2
  rcases hnode : t.nodeAt l with _ | _ | content
  · rfl
  · exact absurd hnode hnot
  · simp [bind, Except.bind, hnode]

theorem exists_of_append_eq_ok (h : t.append workingDirectory p content = .ok t') :
    ∃ l content', t.target workingDirectory p = .ok l ∧ t' = t.put l (.file content') := by
  rw [append] at h
  cases htarget : t.target workingDirectory p with
  | error fault => rw [htarget] at h; exact nomatch h
  | ok l =>
    simp only [htarget, bind, Except.bind, pure, Except.pure] at h
    split at h
    all_goals
      cases h
      exact ⟨l, _, rfl, rfl⟩

/-- A path can be written again once its file was written. -/
theorem target_put (h : t.target workingDirectory p = .ok l) :
    (t.put l (.file content)).target workingDirectory p = .ok l :=
  have hl := of_target_eq_ok h
  (sameDirectories_put hl.1 hl.2).target_eq_ok_iff.mpr h

/-- A path leads to the file that was written at it. -/
theorem place_put (h : t.target workingDirectory p = .ok l) :
    (t.put l (.file content)).place workingDirectory p = .ok l := by
  rw [place_of_target (target_put h), nodeAt_put (of_target_eq_ok h).1, if_pos rfl]
  rfl

/-- **A file that was written is read back.** -/
theorem read_put (h : t.target workingDirectory p = .ok l) :
    (t.put l (.file content)).read workingDirectory p = .ok content := by
  rw [read_of_target (target_put h), nodeAt_put (of_target_eq_ok h).1, if_pos rfl]

/-! ### Moving -/

/-- A file is moved from a path that can be written to another one. -/
theorem exists_of_move_eq_ok {source goal : FilePath}
    (h : t.move workingDirectory source goal = .ok t') :
    ∃ l l' content, t.target workingDirectory source = .ok l ∧
      t.target workingDirectory goal = .ok l' ∧ t.nodeAt l = some (.file content) ∧
      t' = (t.erase l).put l' (.file content) := by
  rw [move] at h
  cases hsource : t.target workingDirectory source with
  | error fault => rw [hsource] at h; exact nomatch h
  | ok l =>
    simp only [hsource, bind, Except.bind] at h
    split at h
    next content hfile =>
      cases hgoal : t.target workingDirectory goal with
      | error fault => rw [hgoal] at h; exact nomatch h
      | ok l' =>
        rw [hgoal] at h
        cases h
        exact ⟨l, l', content, rfl, rfl, hfile, rfl⟩
    next => exact nomatch h

/-- **A file that was moved** stands at its new location and nowhere else. -/
theorem nodeAt_put_erase {l'' : Location} (hl : l ≠ []) (hl' : l' ≠ []) :
    ((t.erase l).put l' (.file content)).nodeAt l'' =
      if l'' = l' then some (.file content) else if l'' = l then none else t.nodeAt l'' := by
  rw [nodeAt_put hl', nodeAt_erase hl]

/-! ### Directories that are made -/

/-- What stood anywhere in a tree still stands there. -/
def Extends (t t' : FileTree) : Prop :=
  ∀ l n, t.nodeAt l = some n → t'.nodeAt l = some n

namespace Extends

theorem refl (t : FileTree) : t.Extends t := fun _ _ h => h

theorem trans (h : t.Extends t') (h' : t'.Extends t'') : t.Extends t'' :=
  fun l n hl => h' l n (h l n hl)

/-- A node that is put where nothing stood. -/
theorem put (hl : t.nodeAt l = none) (n : FileNode) : t.Extends (t.put l n) := by
  intro l' n' hl'
  have hroot : l ≠ [] := by
    rintro rfl
    cases hl
  have hne : l' ≠ l := by
    rintro rfl
    cases hl.symm.trans hl'
  rw [nodeAt_put hroot, if_neg hne, hl']

/-- A path that leads somewhere still leads there. -/
theorem follow_eq_ok (h : t.Extends t') {names : List String} :
    ∀ {base : Location}, t.follow base names = .ok l → t'.follow base names = .ok l := by
  induction names with
  | nil => exact fun hl => hl
  | cons name rest ih =>
    intro base hl
    rw [follow_cons_eq_ok_iff] at hl ⊢
    rcases hl with ⟨hup, hl⟩ | ⟨hup, hshort, ⟨hdirectory, hl⟩ | ⟨content, hfile, hlast⟩⟩
    · exact Or.inl ⟨hup, ih hl⟩
    · exact Or.inr ⟨hup, hshort, Or.inl ⟨h _ _ hdirectory, ih hl⟩⟩
    · exact Or.inr ⟨hup, hshort, Or.inr ⟨content, h _ _ hfile, hlast⟩⟩

/-- The path of a file can still be written. -/
theorem target_eq_ok (h : t.Extends t') (hl : t.target workingDirectory p = .ok l)
    (hfile : t.nodeAt l = some (.file content)) : t'.target workingDirectory p = .ok l := by
  obtain ⟨names', name, directory, hnames, hup, hfollow, hdirectory, hshort, -, rfl⟩ :=
    FileTree.target_eq_ok_iff.mp hl
  refine FileTree.target_eq_ok_iff.mpr ⟨names', name, directory, hnames, hup,
    h.follow_eq_ok hfollow, h _ _ hdirectory, hshort, fun hd => ?_, rfl⟩
  exact nomatch (h _ _ hfile).symm.trans hd

end Extends

/-- Making directories along names leaves what stood there. -/
theorem extends_of_makeWay {names : List String} :
    ∀ {t : FileTree} {base : Location}, t.makeWay base names = .ok t' → t.Extends t' := by
  induction names with
  | nil =>
    intro t base h
    cases h
    exact .refl _
  | cons name rest ih =>
    intro t base h
    rw [makeWay] at h
    split at h
    next => exact ih h
    next =>
      split at h
      next => exact ih h
      next => cases h
      next hchild => exact (Extends.put (child?_eq_ok_iff.mp hchild).2 _).trans (ih h)
      next => cases h

theorem extends_of_makeDirectories (h : t.makeDirectories workingDirectory p = .ok t') :
    t.Extends t' := by
  rw [makeDirectories] at h
  cases hnames : names workingDirectory p with
  | error fault => rw [hnames] at h; cases h
  | ok names' =>
    rw [hnames] at h
    exact extends_of_makeWay h

end GrammarForm.FileTree
