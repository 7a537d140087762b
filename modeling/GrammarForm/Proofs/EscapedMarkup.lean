import GrammarForm.Console.Markup
import GrammarForm.Proofs.Words
import Mathlib.Data.List.TakeWhile
import Mathlib.Tactic.ByContra

/-!
# Escaped texts inside marked-up ones

A message that is put into a marked-up text is escaped first, so that nothing in it switches a style
on or off.  Escaping works run by run: the backslashes before a tag are doubled and one more is
added, and all other characters stay.  So every tag that remains has an odd number of backslashes
before it, and reading shows it as text.  A heading in color with an escaped message behind it is
therefore always shown.

## Main definitions

* `isTagged` : whether a tag can be read after an opening bracket.
* `IsInert` : reading a text finds no tag in it.
* `IsEscaped` : a text is another one escaped, run of backslashes by run of backslashes.

## Main results

* `isInert_escaped` : nothing in an escaped text is a tag.
* `exists_plain_heading` : a heading with an escaped message is shown.
-/

namespace GrammarForm.Markup

/-! ### Tags after an opening bracket -/

/-- The characters that a tag may contain. -/
def isInside (d : Char) : Bool :=
  d != ']' && d != '['

/-- Whether a tag can be read after an opening bracket: it begins as a tag, and the first bracket
that follows closes it. -/
def isTagged (cs : List Char) : Bool :=
  cs.head?.any isTagStart && (cs.dropWhile isInside).head? == some ']'

theorem isInside_of_isTagStart {c : Char} (h : isTagStart c = true) : isInside c = true := by
  by_contra hnot
  have hc : c = ']' ∨ c = '[' := by
    rw [isInside] at hnot
    grind
  rcases hc with rfl | rfl <;> exact absurd h (by decide)

/-- A tag is a character to begin with and all that is inside of the next closing bracket. -/
theorem tag?_cons_eq_some_iff {c : Char} {cs content after : List Char} :
    tag? (c :: cs) = some (content, after) ↔ isTagStart c = true ∧
      content = c :: cs.takeWhile isInside ∧ cs.dropWhile isInside = ']' :: after := by
  have hinside : (fun d : Char => d != ']' && d != '[') = isInside := rfl
  rw [tag?, hinside]
  cases hc : isTagStart c with
  | false => simp
  | true =>
    simp only [if_true, true_and]
    split
    next after' h => simp [h, eq_comm]
    next h => exact iff_of_false (by simp) fun hsplit => h after hsplit.2

/-- A tag is what stands before its closing bracket, whatever follows. -/
theorem of_tag?_eq_some {cs content after : List Char} (h : tag? cs = some (content, after)) :
    cs = content ++ ']' :: after ∧
      ∀ more, tag? (content ++ ']' :: more) = some (content, more) := by
  cases cs with
  | nil => cases h
  | cons c cs =>
    obtain ⟨hc, rfl, hdrop⟩ := tag?_cons_eq_some_iff.mp h
    have hinside : ∀ d ∈ cs.takeWhile isInside, isInside d = true := fun _ =>
      List.mem_takeWhile_imp
    have hclosing : isInside ']' = false := rfl
    refine ⟨?_, fun more => ?_⟩
    · rw [List.cons_append, ← hdrop, List.takeWhile_append_dropWhile]
    · rw [List.cons_append, tag?_cons_eq_some_iff]
      refine ⟨hc, ?_, ?_⟩
      · rw [List.takeWhile_append_of_pos hinside, List.takeWhile_cons_of_neg (by simp [hclosing]),
          List.append_nil]
      · rw [List.dropWhile_append_of_pos hinside, List.dropWhile_cons_of_neg (by simp [hclosing])]

/-- No tag can be read where none begins, or where another bracket comes before the closing one. -/
theorem tag?_eq_none_iff {cs : List Char} : tag? cs = none ↔ isTagged cs = false := by
  cases cs with
  | nil => exact iff_of_true rfl rfl
  | cons c cs =>
    simp only [Option.eq_none_iff_forall_ne_some, isTagged, Prod.forall, ne_eq,
      tag?_cons_eq_some_iff, List.head?_cons, Option.any_some]
    cases hc : isTagStart c with
    | false => simp
    | true =>
      rw [List.dropWhile_cons_of_pos (isInside_of_isTagStart hc), Bool.true_and,
        beq_eq_false_iff_ne, ne_eq, List.head?_eq_some_iff]
      exact ⟨fun h ⟨after, hafter⟩ => h _ after ⟨rfl, rfl, hafter⟩,
        fun h _ after ⟨_, _, hafter⟩ => h ⟨after, hafter⟩⟩

/-! ### Runs of backslashes -/

section Slashes

variable {cs : List Char} (hhead : cs.head? ≠ some '\\')
include hhead

theorem takeWhile_slashes {k : Nat} :
    (List.replicate k '\\' ++ cs).takeWhile (· == '\\') = List.replicate k '\\' := by
  rw [List.takeWhile_append_of_pos (by simp)]
  cases cs with
  | nil => exact List.append_nil _
  | cons c cs => rw [List.takeWhile_cons_of_neg (by simpa using hhead), List.append_nil]

theorem dropWhile_slashes {k : Nat} :
    (List.replicate k '\\' ++ cs).dropWhile (· == '\\') = cs := by
  rw [List.dropWhile_append_of_pos (by simp)]
  cases cs with
  | nil => rfl
  | cons c cs => rw [List.dropWhile_cons_of_neg (by simpa using hhead)]

end Slashes

/-- A text is a run of backslashes and a rest that begins with another character. -/
theorem exists_eq_slashes_append (cs : List Char) :
    ∃ k rest, cs = List.replicate k '\\' ++ rest ∧ rest.head? ≠ some '\\' := by
  induction cs with
  | nil => exact ⟨0, [], rfl, nofun⟩
  | cons c cs ih =>
    by_cases hc : c = '\\'
    · obtain ⟨k, rest, rfl, hrest⟩ := ih
      exact ⟨k + 1, rest, by rw [hc, List.replicate_succ, List.cons_append], hrest⟩
    · exact ⟨0, c :: cs, rfl, by simpa using hc⟩

/-! ### Texts without tags -/

/-- A piece is a text. -/
def Piece.IsText (p : Piece) : Prop :=
  ∃ cs, p = .text cs

/-- Reading a text finds no tag in it, whatever was read before. -/
def IsInert (cs : List Char) : Prop :=
  ∀ n done, ∀ p ∈ piecesWithin n done cs, p.IsText

theorem forall_isText_zero (done cs : List Char) : ∀ p ∈ piecesWithin 0 done cs, p.IsText :=
  fun _ hp => ⟨_, List.mem_singleton.mp hp⟩

namespace IsInert

variable {cs : List Char}

theorem nil : IsInert [] := by
  rintro (_ | n) done p hp <;> exact ⟨_, List.mem_singleton.mp hp⟩

/-- A character that is neither bracket nor backslash is text. -/
theorem cons {c : Char} (hbracket : c ≠ '[') (hslash : c ≠ '\\') (h : IsInert cs) :
    IsInert (c :: cs) := by
  rintro (_ | n) done
  · exact forall_isText_zero done _
  · rw [piecesWithin]
    · exact h n _
    · exact hbracket
    · exact hslash

/-- A bracket after which no tag can be read is text. -/
theorem bracket (htag : tag? cs = none) (h : IsInert cs) : IsInert ('[' :: cs) := by
  rintro (_ | n) done
  · exact forall_isText_zero done _
  · rw [piecesWithin, htag]
    exact h n _

/-- Backslashes before a text without tags are text. -/
theorem slashes (k : Nat) (hhead : cs.head? ≠ some '\\') (h : IsInert cs) :
    IsInert (List.replicate k '\\' ++ cs) := by
  cases k with
  | zero => exact h
  | succ k =>
    rintro (_ | n) done
    · exact forall_isText_zero done _
    · rw [List.replicate_succ, List.cons_append, piecesWithin]
      simp only [takeWhile_slashes hhead, dropWhile_slashes hhead]
      split
      next inner =>
        -- An odd backslash would protect a tag, but the text behind the backslashes has none.
        have hnext := h (n + 1) ('\\' :: (List.replicate k '\\' ++ done))
        rw [piecesWithin] at hnext
        split
        next content after htag =>
          rw [htag] at hnext
          obtain ⟨cs, hcs⟩ := hnext (.tag content) (by simp)
          exact nomatch hcs
        next htag =>
          rw [htag] at hnext
          exact hnext
      next => exact h n _

/-- A tag behind an odd number of backslashes is text. -/
theorem slashes_tag (k : Nat) {inner content after : List Char}
    (htag : tag? inner = some (content, after)) (h : IsInert after) :
    IsInert (List.replicate (2 * k + 1) '\\' ++ '[' :: inner) := by
  rintro (_ | n) done
  · exact forall_isText_zero done _
  · have hhead : ('[' :: inner).head? ≠ some '\\' := by simp
    have hodd : ('\\' :: List.replicate (2 * k) '\\').length % 2 = 1 := by
      rw [List.length_cons, List.length_replicate]
      omega
    rw [List.replicate_succ, List.cons_append, piecesWithin]
    simp only [takeWhile_slashes hhead, dropWhile_slashes hhead, htag, hodd, if_true]
    intro p hp
    simp only [List.mem_cons] at hp
    rcases hp with rfl | rfl | rfl | hp
    · exact ⟨_, rfl⟩
    · exact ⟨_, rfl⟩
    · exact ⟨_, rfl⟩
    · exact h n _ p hp

end IsInert

/-! ### Escaping run by run -/

section Escaping

variable {cs rest inner : List Char}

theorem escapedWithin_nil (n k : Nat) :
    escapedWithin (n + 1) (List.replicate k '\\' ++ []) = List.replicate k '\\' := by
  have hhead : ([] : List Char).head? ≠ some '\\' := nofun
  rw [escapedWithin]
  simp only [takeWhile_slashes hhead, dropWhile_slashes hhead]

theorem escapedWithin_tag (n k : Nat) {content after : List Char}
    (htag : tag? inner = some (content, after)) :
    escapedWithin (n + 1) (List.replicate k '\\' ++ '[' :: inner) =
      List.replicate (2 * k + 1) '\\' ++ '[' :: (content ++ ']' :: escapedWithin n after) := by
  have hhead : ('[' :: inner).head? ≠ some '\\' := by simp
  have hslashes : List.replicate (2 * k + 1) '\\' =
      List.replicate k '\\' ++ List.replicate k '\\' ++ ['\\'] := by
    rw [Nat.two_mul, List.replicate_succ', ← List.replicate_append_replicate]
  rw [escapedWithin]
  simp only [takeWhile_slashes hhead, dropWhile_slashes hhead, htag, hslashes, List.append_assoc,
    List.cons_append, List.nil_append]

theorem escapedWithin_bracket (n k : Nat) (htag : tag? inner = none) :
    escapedWithin (n + 1) (List.replicate k '\\' ++ '[' :: inner) =
      List.replicate k '\\' ++ '[' :: escapedWithin n inner := by
  have hhead : ('[' :: inner).head? ≠ some '\\' := by simp
  rw [escapedWithin]
  simp only [takeWhile_slashes hhead, dropWhile_slashes hhead, htag]

theorem escapedWithin_other (n k : Nat) {c : Char} (hslash : c ≠ '\\') (hbracket : c ≠ '[') :
    escapedWithin (n + 1) (List.replicate k '\\' ++ c :: rest) =
      List.replicate k '\\' ++ c :: escapedWithin n rest := by
  have hhead : (c :: rest).head? ≠ some '\\' := by simpa using hslash
  rw [escapedWithin]
  simp only [takeWhile_slashes hhead, dropWhile_slashes hhead]

/-- The second text is the first one escaped, run of backslashes by run of backslashes.  The
backslashes at the end may be any number. -/
inductive IsEscaped : List Char → List Char → Prop
  | slashes (k j : Nat) : IsEscaped (List.replicate k '\\') (List.replicate j '\\')
  | tag (k : Nat) {inner content after after' : List Char}
      (htag : tag? inner = some (content, after)) (h : IsEscaped after after') :
      IsEscaped (List.replicate k '\\' ++ '[' :: inner)
        (List.replicate (2 * k + 1) '\\' ++ '[' :: (content ++ ']' :: after'))
  | bracket (k : Nat) {inner inner' : List Char} (htag : tag? inner = none)
      (h : IsEscaped inner inner') :
      IsEscaped (List.replicate k '\\' ++ '[' :: inner) (List.replicate k '\\' ++ '[' :: inner')
  | other (k : Nat) {c : Char} {rest rest' : List Char} (hslash : c ≠ '\\') (hbracket : c ≠ '[')
      (h : IsEscaped rest rest') :
      IsEscaped (List.replicate k '\\' ++ c :: rest) (List.replicate k '\\' ++ c :: rest')

/-- Escaping goes from one run of backslashes to the next. -/
theorem isEscaped_escapedWithin (j n : Nat) : ∀ {cs : List Char}, cs.length < n →
    IsEscaped cs (escapedWithin n cs ++ List.replicate j '\\') := by
  -- The bound is the number of characters left; a run takes at least the character behind it.
  induction n with
  | zero => exact fun h => absurd h (Nat.not_lt_zero _)
  | succ n ih =>
    intro cs h
    obtain ⟨k, rest, rfl, hhead⟩ := exists_eq_slashes_append cs
    rw [List.length_append] at h
    rcases rest with _ | ⟨c, rest⟩
    · rw [escapedWithin_nil, List.append_nil, List.replicate_append_replicate]
      exact .slashes k (k + j)
    · have hslash : c ≠ '\\' := by simpa using hhead
      rw [List.length_cons] at h
      by_cases hbracket : c = '['
      · cases hbracket
        cases htag : tag? rest with
        | none =>
          rw [escapedWithin_bracket n k htag, List.append_assoc, List.cons_append]
          exact .bracket k htag (ih (by omega))
        | some found =>
          obtain ⟨content, after⟩ := found
          have hrest := congrArg List.length (of_tag?_eq_some htag).1
          rw [List.length_append, List.length_cons] at hrest
          rw [escapedWithin_tag n k htag, List.append_assoc, List.cons_append, List.append_assoc,
            List.cons_append]
          exact .tag k htag (ih (by omega))
      · rw [escapedWithin_other n k hslash hbracket, List.append_assoc, List.cons_append]
        exact .other k hslash hbracket (ih (by omega))

namespace IsEscaped

variable {cs' : List Char}

/-- Escaping keeps the first bracket. -/
theorem head?_dropWhile (h : IsEscaped cs cs') :
    (cs'.dropWhile isInside).head? = (cs.dropWhile isInside).head? := by
  have hrun (k : Nat) : ∀ d ∈ List.replicate k '\\', isInside d = true := fun d hd => by
    rw [List.eq_of_mem_replicate hd]
    rfl
  induction h with
  | slashes k j =>
    rw [List.dropWhile_eq_nil_iff.mpr (hrun j), List.dropWhile_eq_nil_iff.mpr (hrun k)]
  | tag k _ _ _ | bracket k _ _ _ =>
    rw [List.dropWhile_append_of_pos (hrun _), List.dropWhile_append_of_pos (hrun _)]
    rfl
  | @other k c rest rest' _ _ _ ih =>
    rw [List.dropWhile_append_of_pos (hrun _), List.dropWhile_append_of_pos (hrun _),
      List.dropWhile_cons, List.dropWhile_cons]
    split
    · exact ih
    · rfl

/-- Escaping lets no tag begin where none began before. -/
theorem any_head? (h : IsEscaped cs cs') (hstart : cs'.head?.any isTagStart = true) :
    cs.head?.any isTagStart = true := by
  cases h with
  | slashes k j => cases j <;> exact nomatch hstart
  | tag k => exact nomatch hstart
  | bracket k => cases k <;> exact nomatch hstart
  | other k =>
    cases k with
    | zero => exact hstart
    | succ k => exact nomatch hstart

/-- Escaping makes no tag readable. -/
theorem tag?_eq_none (h : IsEscaped cs cs') (htag : tag? cs = none) : tag? cs' = none := by
  rw [tag?_eq_none_iff] at htag ⊢
  rw [isTagged, Bool.and_eq_false_iff] at htag ⊢
  rw [h.head?_dropWhile]
  exact htag.imp_left fun hnot => Bool.eq_false_iff.mpr fun hstart =>
    Bool.eq_false_iff.mp hnot (h.any_head? hstart)

/-- **An escaped text has no tags.** -/
theorem isInert (h : IsEscaped cs cs') : IsInert cs' := by
  induction h with
  | slashes k j =>
    have hnil : ([] : List Char).head? ≠ some '\\' := by simp
    simpa using IsInert.nil.slashes j hnil
  | tag k htag _ ih => exact ih.slashes_tag k ((of_tag?_eq_some htag).2 _)
  | bracket k htag h ih => exact (ih.bracket (h.tag?_eq_none htag)).slashes k (by simp)
  | other k hslash hbracket _ ih =>
    exact (ih.cons hbracket hslash).slashes k (by simpa using hslash)

end IsEscaped

/-- **Nothing in an escaped text is a tag.** -/
theorem isInert_escaped (s : String) : IsInert (escaped s).toList := by
  have hescaped (j : Nat) := (isEscaped_escapedWithin j _ (Nat.lt_succ_self s.length)).isInert
  rw [escaped, String.toList_ofList]
  split
  · exact hescaped 1
  · simpa using hescaped 0

end Escaping

/-! ### Headings in color -/

section Heading

variable {heading : List Char} (hheading : ∀ c ∈ heading, c ≠ '[' ∧ c ≠ '\\')
include hheading

theorem unprotected_of_forall_ne : unprotected heading = heading := by
  induction heading with
  | nil => rfl
  | cons c cs ih =>
    obtain ⟨hc, hcs⟩ := List.forall_mem_cons.mp hheading
    rw [unprotected, ih hcs]
    exact fun _ h => absurd h hc.2

/-- Characters other than brackets and backslashes are read one by one. -/
theorem piecesWithin_append (n : Nat) (cs : List Char) : ∀ done,
    piecesWithin (n + heading.length) done (heading ++ cs) =
      piecesWithin n (heading.reverse ++ done) cs := by
  induction heading with
  | nil => exact fun _ => rfl
  | cons c rest ih =>
    intro done
    obtain ⟨hc, hrest⟩ := List.forall_mem_cons.mp hheading
    rw [List.length_cons, ← Nat.add_assoc, List.cons_append, piecesWithin, ih hrest]
    · simp only [List.reverse_cons, List.append_assoc, List.singleton_append]
    · exact hc.1
    · exact hc.2

/-- The pieces of a heading in color and of what follows it. -/
theorem exists_pieces_heading (cs : List Char) :
    ∃ n, pieces (String.ofList ("[red]".toList ++ heading ++ "[/red] ".toList ++ cs)) =
      .text [] :: .tag "red".toList :: .text heading :: .tag "/red".toList ::
        piecesWithin n [' '] cs := by
  refine ⟨cs.length + 10, ?_⟩
  have hopen (more : List Char) : tag? ("red]".toList ++ more) = some ("red".toList, more) := rfl
  have hclose (more : List Char) : tag? ("/red]".toList ++ more) = some ("/red".toList, more) := rfl
  have hfuel : (String.ofList ("[red]".toList ++ heading ++ "[/red] ".toList ++ cs)).length + 1 =
      (cs.length + 10) + 1 + 1 + heading.length + 1 := by
    have hbefore : "[red]".toList.length = 5 := rfl
    have hbehind : "[/red] ".toList.length = 7 := rfl
    rw [String.length_ofList, List.length_append, List.length_append, List.length_append, hbefore,
      hbehind]
    omega
  have htext : "[red]".toList ++ heading ++ "[/red] ".toList ++ cs =
      '[' :: ("red]".toList ++ (heading ++ '[' :: ("/red]".toList ++ ' ' :: cs))) := by
    simp
  rw [pieces, hfuel, String.toList_ofList, htext, piecesWithin, hopen]
  dsimp only
  rw [piecesWithin_append hheading, piecesWithin, hclose]
  dsimp only
  rw [piecesWithin]
  · rw [List.append_nil, List.reverse_reverse, unprotected_of_forall_ne hheading]
    rfl
  · decide
  · decide

end Heading

/-! ### Messages behind a heading -/

/-- Texts are added to what is shown and change nothing else. -/
theorem exists_foldlM_add_of_isText {ps : List Piece} (h : ∀ p ∈ ps, p.IsText) :
    ∀ progress : Progress, ∃ shown, ps.foldlM Progress.add progress =
      .ok { progress with shown := shown ++ progress.shown } := by
  induction ps with
  | nil => exact fun progress => ⟨[], rfl⟩
  | cons p rest ih =>
    intro progress
    obtain ⟨⟨cs, rfl⟩, hrest⟩ := List.forall_mem_cons.mp h
    obtain ⟨shown, hshown⟩ := ih hrest { progress with
      shown := Console.Emoji.decode cs :: progress.shown }
    refine ⟨shown ++ [Console.Emoji.decode cs], ?_⟩
    rw [List.append_assoc, List.singleton_append, List.foldlM_cons]
    exact hshown

/-- Styles without a value are understood. -/
theorem forM_checkApplied {applied : List OpenTag} (h : ∀ t ∈ applied, t.value = none) :
    applied.forM checkApplied = .ok () := by
  induction applied with
  | nil => rfl
  | cons t rest ih =>
    obtain ⟨ht, hrest⟩ := List.forall_mem_cons.mp h
    change (checkApplied t >>= fun _ => rest.forM checkApplied) = _
    rw [checkApplied, ht]
    exact ih hrest

/-- Reading red as a color does not fail because of a number. -/
theorem read_red_ne_notNumber : Console.Color.read "red" ≠ .error .notNumber := by
  have hlower : Text.lowercase "red" = "red" := rfl
  have hnumber : Console.Color.inBrackets? "color".toList "red".toList = none := rfl
  have hparts : Console.Color.inBrackets? "rgb".toList "red".toList = none := rfl
  rw [Console.Color.read]
  simp only [hlower, hnumber, hparts]
  split <;> simp

/-- A single word that is neither an attribute nor one of the words with a meaning of their own is
read as a color. -/
theorem readWords_singleton {style : Console.Style} {word name : String}
    (hname : Text.lowercase word = name) (hon : name ≠ "on") (hnot : name ≠ "not")
    (hlink : name ≠ "link") (hattribute : Console.Style.attribute? name = none) :
    Console.Style.readWords style [word] =
      (Console.Color.read name).map fun color => { style with color := some color } := by
  unfold Console.Style.readWords
  rw [hname]
  split
  next => exact absurd rfl hon
  next => exact absurd rfl hon
  next => exact absurd rfl hnot
  next => exact absurd rfl hnot
  next => exact absurd rfl hlink
  next => exact absurd rfl hlink
  next =>
    rw [hattribute]
    generalize Console.Color.read _ = color
    cases color <;> rfl

/-- As a style red is a color. -/
theorem read_red : Console.Style.read "red" =
    (Console.Color.read "red").map fun color => { color := some color } := by
  have htrim : Text.trim "red" ≠ "none" := by decide
  have hwords : Text.words "red" = ["red"] := Text.words_of_isWord (by decide)
  have hlower : Text.lowercase "red" = "red" := rfl
  have hattribute : Console.Style.attribute? "red" = none := rfl
  rw [Console.Style.read, if_neg htrim, hwords]
  exact readWords_singleton hlower (by decide) (by decide) (by decide) hattribute

/-- Red has a normal form.  Whether it is one of the named colors does not matter here. -/
theorem exists_styleName_red : ∃ name, styleName "red".toList = .ok name := by
  rw [styleName, String.ofList_toList, Console.Style.normalForm]
  split
  next => exact ⟨_, rfl⟩
  next => exact ⟨_, rfl⟩
  next h =>
    -- Of all faults only that of a number has no normal form.
    rw [read_red] at h
    cases hred : Console.Color.read "red" with
    | error fault =>
      rw [hred] at h
      cases h
      exact absurd hred read_red_ne_notNumber
    | ok color =>
      rw [hred] at h
      exact nomatch h

/-- A heading in color leaves no tag open, and its style has no value. -/
theorem exists_foldlM_add_heading (heading : List Char) :
    ∃ applied, (∀ t ∈ applied, t.value = none) ∧
      ([.text [], .tag "red".toList, .text heading, .tag "/red".toList] : List Piece).foldlM
        Progress.add {} =
      .ok { shown := [Console.Emoji.decode heading, []], opened := [], applied } := by
  obtain ⟨name, hname⟩ := exists_styleName_red
  have hopen (p : Progress) : p.add (.tag "red".toList) =
      .ok { p with opened := { name, value := none } :: p.opened } := by
    change (styleName "red".toList >>= fun name => (.ok
      { p with opened := { name, value := none } :: p.opened } : Except Fault Progress)) = _
    rw [hname]
    rfl
  have hclose (p : Progress) : p.add (.tag "/red".toList) = p.close (closeTag name p.opened) := by
    have htrim : Text.trim (String.ofList "red".toList) = "red" := rfl
    have hne : "red" ≠ "" := by decide
    change (if Text.trim (String.ofList "red".toList) = "" then
        p.close (p.opened.head?.map fun t => (t, p.opened.drop 1))
      else styleName (Text.trim (String.ofList "red".toList)).toList >>= fun name =>
        p.close (closeTag name p.opened)) = _
    rw [htrim, if_neg hne, hname]
    rfl
  refine ⟨if name.startsWith "@" then [] else [{ name, value := none }], ?_, ?_⟩
  · split <;> simp
  · change (Progress.add { shown := [[]] } (.tag "red".toList) >>= fun p =>
      p.add (.text heading) >>= fun p => p.add (.tag "/red".toList) >>= pure) = _
    rw [hopen]
    change (Progress.add
      { shown := [Console.Emoji.decode heading, []]
        opened := [{ name, value := none }] } (.tag "/red".toList) >>= pure) = _
    have hfound : closeTag name [{ name, value := none }] = some ({ name, value := none }, []) :=
      if_pos rfl
    rw [hclose, hfound]
    rfl

/-- **A heading in color with an escaped message is always shown**, and the heading comes first. -/
theorem exists_plain_heading {heading : String}
    (hheading : ∀ c ∈ heading.toList, c ≠ '[' ∧ c ≠ '\\') (message : String) :
    ∃ cs, plain ("[red]" ++ heading ++ "[/red] " ++ escaped message) =
      .ok (Console.Emoji.decode heading.toList ++ cs) := by
  have htext : "[red]" ++ heading ++ "[/red] " ++ escaped message =
      String.ofList ("[red]".toList ++ heading.toList ++ "[/red] ".toList ++
        (escaped message).toList) := by
    apply String.toList_inj.mp
    simp only [String.toList_append, String.toList_ofList]
  obtain ⟨n, hpieces⟩ := exists_pieces_heading hheading (escaped message).toList
  obtain ⟨applied, happlied, hfold⟩ := exists_foldlM_add_heading heading.toList
  obtain ⟨shown, hshown⟩ := exists_foldlM_add_of_isText (isInert_escaped message n [' '])
    { shown := [Console.Emoji.decode heading.toList, []], opened := [], applied }
  have hall : (pieces ("[red]" ++ heading ++ "[/red] " ++ escaped message)).foldlM Progress.add {} =
      .ok { shown := shown ++ [Console.Emoji.decode heading.toList, []]
            opened := []
            applied } := by
    rw [htext, hpieces]
    change List.foldlM Progress.add {} ([.text [], .tag "red".toList, .text heading.toList,
      .tag "/red".toList] ++ piecesWithin n [' '] (escaped message).toList) = _
    rw [List.foldlM_append, hfold]
    exact hshown
  refine ⟨shown.reverse.flatten, ?_⟩
  rw [plain, hall]
  change (applied.forM checkApplied >>= fun _ => _) = _
  rw [forM_checkApplied happlied]
  change Except.ok _ = _
  simp

end GrammarForm.Markup
