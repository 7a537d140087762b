import GrammarForm.FormKey
import GrammarForm.Proofs.Numeral
import Mathlib.Data.List.Infix
import Mathlib.Data.List.Nodup

/-!
# Keys and paths

A key ends in the text of a path, and a path can be recovered from its text.  So two keys agree
only if their paths do: widgets and controls at different places of a form have different keys,
even if the digests of their names collide.  All that is asked of the digest is that its results
have one length.

The keys of a part of a form are collected in blocks.  The keys of a block are distinct and lie
at one path or below; blocks in different slots below a path are disjoint, so that they join to a
block of that path.

## Main definitions

* `HasFixedLength` : the results of a digest have one length.
* `IsKeyAt` : a key of a widget or control at a path.
* `KeyBlock` : distinct keys at a path or below.

## Main results

* `Path.keyText_injective` : a path can be recovered from its text.
* `IsKeyAt.path_eq` : a key belongs to one path only.
* `KeyBlock.join` : the own keys of a path and the blocks of its slots form a block.
-/

namespace GrammarForm

/-- The results of a digest have one length. -/
def HasFixedLength (digest : String → String) : Prop :=
  ∀ s t, (digest s).length = (digest t).length

theorem hasFixedLength_shortDigest : HasFixedLength shortDigest := fun s t => by
  rw [length_shortDigest, length_shortDigest]

/-! ### Recovering a path -/

namespace Path

theorem toList_keyText (path : Path) :
    path.keyText.toList = ['_'].intercalate (path.map fun i => (toString i).toList) := by
  rw [keyText, join, String.toList_intercalate, List.map_map]
  rfl

/-- The numbers of a path are what stands between the underscores of its text. -/
theorem splitOn_keyText {path : Path} (h : path ≠ []) :
    path.keyText.toList.splitOn '_' = path.map fun i => (toString i).toList := by
  rw [toList_keyText]
  refine List.splitOn_intercalate '_' (fun l hl => ?_) (by simpa using h)
  obtain ⟨i, -, rfl⟩ := List.mem_map.mp hl
  exact Decimal.notMem_toString rfl (by decide) i

theorem keyText_ne_empty {path : Path} (h : path ≠ []) : path.keyText.toList ≠ [] := by
  obtain ⟨i, rest, rfl⟩ := List.exists_cons_of_ne_nil h
  rw [toList_keyText, List.map_cons]
  cases rest with
  | nil => simpa using Decimal.toList_toString_ne_nil i
  | cons j rest => simp [List.intercalate_cons_cons]

/-- **A path can be recovered from its text.** -/
theorem keyText_injective : Function.Injective keyText := by
  intro p q h
  have htext : p.keyText.toList = q.keyText.toList := congrArg String.toList h
  by_cases hp : p = [] <;> by_cases hq : q = []
  · rw [hp, hq]
  · exact absurd (htext.symm.trans (by rw [hp]; rfl)) (keyText_ne_empty hq)
  · exact absurd (htext.trans (by rw [hq]; rfl)) (keyText_ne_empty hp)
  · have hnumbers : p.map (fun i => (toString i).toList) = q.map fun i => (toString i).toList := by
      rw [← splitOn_keyText hp, ← splitOn_keyText hq, htext]
    refine List.map_injective_iff.mpr (fun i j hij => ?_) hnumbers
    exact Decimal.toString_int_injective (String.toList_inj.mp hij)

end Path

/-! ### Recovering the path of a key -/

/-- What follows the last dash of a text, and what stands before it. -/
private theorem append_dash_inj {xs ys as bs : List Char} (ha : '-' ∉ as) (hb : '-' ∉ bs)
    (h : xs ++ '-' :: as = ys ++ '-' :: bs) : xs = ys ∧ as = bs := by
  have htail (zs cs : List Char) (hc : '-' ∉ cs) :
      (zs ++ '-' :: cs).reverse.takeWhile (· != '-') = cs.reverse := by
    have hpass : ∀ c ∈ cs.reverse, (c != '-') = true := fun c hmem =>
      bne_iff_ne.mpr fun heq => hc (heq ▸ List.mem_reverse.mp hmem)
    rw [List.reverse_append, List.reverse_cons, List.append_assoc,
      List.takeWhile_append_of_pos hpass]
    simp
  have has : as = bs := by
    rw [← List.reverse_inj, ← htail xs as ha, ← htail ys bs hb, h]
  subst has
  exact ⟨(List.append_inj' h rfl).1, rfl⟩

theorem RepeatControl.dash_notMem_name (c : RepeatControl) : '-' ∉ c.name.toList := by
  cases c <;> decide

theorem RepeatControl.name_injective : Function.Injective RepeatControl.name := by
  intro c d h
  cases c <;> cases d <;> first | rfl | exact absurd h (by decide)

/-- The controls of a group have different keys, whatever the digest is. -/
theorem controlKey_injective (digest : String → String) (command : String) (path : Path) :
    Function.Injective (controlKey digest command path) := by
  intro a b h
  have htext := congrArg String.toList h
  simp only [controlKey, groupKey, String.toList_append] at htext
  exact RepeatControl.name_injective (String.toList_inj.mp (List.append_cancel_left htext))

section Keys

variable {digest : String → String}

/-- A widget key determines the path of the widget. -/
theorem widgetKey_path_eq (hdigest : HasFixedLength digest) {c c' s s' : String} {p q : Path}
    (h : widgetKey digest c s p = widgetKey digest c' s' q) : p = q := by
  refine Path.keyText_injective (String.toList_inj.mp ?_)
  have htext := congrArg String.toList h
  simp only [widgetKey, String.toList_append] at htext
  refine (List.append_inj htext ?_).2
  simp only [List.length_append, String.length_toList, hdigest c c', hdigest s s']

/-- A widget key determines the digest of the command that the widget belongs to. -/
theorem widgetKey_digest_eq (hdigest : HasFixedLength digest) {c c' s s' : String} {p q : Path}
    (h : widgetKey digest c s p = widgetKey digest c' s' q) : digest c = digest c' := by
  have htext := congrArg String.toList h
  simp only [widgetKey, String.toList_append, List.append_assoc] at htext
  refine String.toList_inj.mp (List.append_inj (List.append_cancel_left htext) ?_).1
  simp only [String.length_toList, hdigest c c']

/-- A control key determines the path of the group and the control. -/
theorem controlKey_inj (hdigest : HasFixedLength digest) {c c' : String} {p q : Path}
    {a b : RepeatControl} (h : controlKey digest c p a = controlKey digest c' q b) :
    p = q ∧ a = b := by
  have htext := congrArg String.toList h
  simp only [controlKey, groupKey, String.toList_append] at htext
  have hdash (xs ys : List Char) : xs ++ "-".toList ++ ys = xs ++ '-' :: ys :=
    List.append_assoc xs ['-'] ys
  rw [hdash _ a.name.toList, hdash _ b.name.toList] at htext
  obtain ⟨hfront, hname⟩ := append_dash_inj a.dash_notMem_name b.dash_notMem_name htext
  refine ⟨Path.keyText_injective (String.toList_inj.mp ((List.append_inj hfront ?_).2)),
    RepeatControl.name_injective (String.toList_inj.mp hname)⟩
  simp only [List.length_append, String.length_toList, hdigest c c']

/-- Widgets and controls have different keys. -/
theorem widgetKey_ne_controlKey (c s : String) (p : Path) (c' : String) (q : Path)
    (a : RepeatControl) : widgetKey digest c s p ≠ controlKey digest c' q a := by
  intro h
  have htext := congrArg (fun t => t.toList.head?) h
  simp [widgetKey, controlKey, groupKey] at htext

/-- A key of a widget or control at a path. -/
def IsKeyAt (digest : String → String) (path : Path) (key : String) : Prop :=
  (∃ command symbol, key = widgetKey digest command symbol path) ∨
    ∃ command control, key = controlKey digest command path control

theorem isKeyAt_widgetKey (command symbol : String) (path : Path) :
    IsKeyAt digest path (widgetKey digest command symbol path) :=
  Or.inl ⟨command, symbol, rfl⟩

theorem isKeyAt_controlKey (command : String) (path : Path) (control : RepeatControl) :
    IsKeyAt digest path (controlKey digest command path control) :=
  Or.inr ⟨command, control, rfl⟩

/-- **A key belongs to one path only.** -/
theorem IsKeyAt.path_eq (hdigest : HasFixedLength digest) {p q : Path} {key : String}
    (hp : IsKeyAt digest p key) (hq : IsKeyAt digest q key) : p = q := by
  rcases hp with ⟨c, s, rfl⟩ | ⟨c, a, rfl⟩ <;> rcases hq with ⟨c', s', h⟩ | ⟨c', b, h⟩
  · exact widgetKey_path_eq hdigest h
  · exact absurd h (widgetKey_ne_controlKey _ _ _ _ _ _)
  · exact absurd h.symm (widgetKey_ne_controlKey _ _ _ _ _ _)
  · exact (controlKey_inj hdigest h).1

/-! ### Blocks of keys -/

/-- Distinct keys at a path or below. -/
structure KeyBlock (digest : String → String) (path : Path) (keys : List String) : Prop where
  /-- Each key lies at the path or below. -/
  below : ∀ key ∈ keys, ∃ q, path <+: q ∧ IsKeyAt digest q key
  /-- The keys are distinct. -/
  nodup : keys.Nodup

namespace KeyBlock

/-- Fewer keys form a block, too. -/
theorem sublist {path : Path} {keys fewer : List String} (h : KeyBlock digest path keys)
    (hsub : fewer.Sublist keys) : KeyBlock digest path fewer where
  below key hkey := h.below key (hsub.subset hkey)
  nodup := h.nodup.sublist hsub

/-- Keys below a path lie below each path before it. -/
theorem above {path path' : Path} {keys : List String} (h : KeyBlock digest path' keys)
    (hpath : path <+: path') : KeyBlock digest path keys where
  below key hkey :=
    let ⟨q, hq, hat⟩ := h.below key hkey
    ⟨q, hpath.trans hq, hat⟩
  nodup := h.nodup

/-- Keys in different slots below a path are different. -/
theorem slots_disjoint (hdigest : HasFixedLength digest) {path : Path} {i j : Int} (hij : i ≠ j)
    {keys keys' : List String} (h : KeyBlock digest (path ++ [i]) keys)
    (h' : KeyBlock digest (path ++ [j]) keys') : keys.Disjoint keys' := by
  intro key hkey hkey'
  obtain ⟨q, ⟨rest, hq⟩, hat⟩ := h.below key hkey
  obtain ⟨q', ⟨rest', hq'⟩, hat'⟩ := h'.below key hkey'
  have hpath : path ++ [i] ++ rest = path ++ [j] ++ rest' := by
    rw [hq, hq', hat.path_eq hdigest hat']
  rw [List.append_assoc, List.append_assoc, List.append_cancel_left_eq] at hpath
  exact hij (List.cons.inj hpath).1

/-- A key at a path is none of the keys in a slot below it. -/
theorem notMem_slot (hdigest : HasFixedLength digest) {path : Path} {i : Int} {key : String}
    {keys : List String} (hkey : IsKeyAt digest path key)
    (h : KeyBlock digest (path ++ [i]) keys) : key ∉ keys := by
  intro hmem
  obtain ⟨q, hq, hat⟩ := h.below key hmem
  have hlength := hq.length_le
  rw [← hkey.path_eq hdigest hat, List.length_append, List.length_singleton] at hlength
  omega

/-- **The own keys of a path and the blocks of its slots form a block.** -/
theorem join (hdigest : HasFixedLength digest) {path : Path} {own : List String}
    {blocks : List (List String)} (hown : ∀ key ∈ own, IsKeyAt digest path key)
    (hnodup : own.Nodup)
    (hblocks : ∀ i (hi : i < blocks.length), KeyBlock digest (path ++ [(i : Int) + 1]) blocks[i]) :
    KeyBlock digest path (own ++ blocks.flatten) := by
  have hslot : ∀ block ∈ blocks, ∃ i : Int, KeyBlock digest (path ++ [i]) block := by
    intro block hblock
    obtain ⟨i, hi, rfl⟩ := List.mem_iff_getElem.mp hblock
    exact ⟨_, hblocks i hi⟩
  constructor
  · intro key hkey
    rcases List.mem_append.mp hkey with hkey | hkey
    · exact ⟨path, List.prefix_rfl, hown key hkey⟩
    · obtain ⟨block, hblock, hmem⟩ := List.mem_flatten.mp hkey
      obtain ⟨i, hi⟩ := hslot block hblock
      obtain ⟨q, hq, hat⟩ := hi.below key hmem
      exact ⟨q, (List.prefix_append path [i]).trans hq, hat⟩
  · refine List.nodup_append.mpr ⟨hnodup, List.nodup_flatten.mpr ⟨?_, ?_⟩, ?_⟩
    · intro block hblock
      obtain ⟨i, hi⟩ := hslot block hblock
      exact hi.nodup
    · rw [List.pairwise_iff_getElem]
      intro i j hi hj hij
      exact slots_disjoint hdigest (by omega) (hblocks i hi) (hblocks j hj)
    · rintro key hkey _ hmem rfl
      obtain ⟨block, hblock, hmem⟩ := List.mem_flatten.mp hmem
      obtain ⟨i, hi⟩ := hslot block hblock
      exact notMem_slot hdigest (hown key hkey) hi hmem

end KeyBlock

end Keys

end GrammarForm
