import GrammarForm.Console.Display
import GrammarForm.Text.Halves
import Mathlib.Data.List.Infix

/-!
# Texts with a form in bytes

A text has no form in bytes exactly if somewhere in it the mark for halves stands in front of the
character for a half.  So every part of a text with a form in bytes has one, and so has every text
without a mark.  Control sequences of a terminal contain neither the mark nor a character for a
half, so that they separate no half when they are taken away.

Halves are kept as characters by a convention: a mark that is a character of its own does not stand
in front of a character for a half.  It is stated here as `Text.KeepsMark`.  Where a text obeys it,
characters and halves are read back as they were, and the text has a form in bytes exactly if it has
no half.  The convention is no fact about all texts: the mark in front of such a character is taken
for a half also where both were characters.

## Main definitions

* `Text.ofPieces` : the characters of a text in pieces.
* `Text.KeepsMark` : the convention for the mark.
* `Text.IsEncodableEntry` : key and value of an entry have forms in bytes.

## Main results

* `Text.pieces_ofPieces_iff` : pieces are read back exactly under the convention.
* `Text.isEncodable_ofPieces` : texts with a form in bytes by their pieces.
* `Text.isEncodable_iff` : texts with a form in bytes by their neighbouring characters.
* `Text.isEncodable_of_infix` : parts of texts with a form in bytes.
* `Console.isEncodable_of_withoutSequences` : control sequences hide no half.
-/

namespace GrammarForm

namespace Text

theorem half?_eq_none_of_ne {mark c : Char} (h : mark ≠ halfMark) : half? mark c = none := by
  rw [half?, decide_eq_false h, Bool.false_and, if_neg Bool.false_ne_true]

/-- The mark and the characters for halves lie far above the first characters. -/
theorem le_toNat_of_half? {mark c : Char} {n : Nat} (h : half? mark c = some n) :
    mark = halfMark ∧ halfShift ≤ c.toNat := by
  rw [half?] at h
  split at h
  next hmark =>
    obtain ⟨hmark, hhalf⟩ := Bool.and_eq_true_iff.mp hmark
    refine ⟨of_decide_eq_true hmark, ?_⟩
    by_contra hlt
    rw [Nat.sub_eq_zero_of_le (by omega)] at hhalf
    exact absurd hhalf (by decide)
  next => exact nomatch h

/-- The pieces of a text are characters exactly if no two neighbouring characters stand for a
half. -/
theorem all_isChar_pieces_iff (cs : List Char) :
    (pieces cs).all Piece.isChar = true ↔
      ∀ mark c, [mark, c] <:+: cs → half? mark c = none := by
  induction cs using pieces.induct with
  | case1 mark c cs n hn _ =>
    rw [pieces, hn]
    refine iff_of_false Bool.false_ne_true fun h => ?_
    have hnone := h mark c (List.prefix_append [mark, c] cs).isInfix
    exact absurd (hn.symm.trans hnone) (Option.some_ne_none n)
  | case2 mark c cs hnone ih =>
    rw [pieces, hnone, List.all_cons, Piece.isChar, Bool.true_and, ih]
    refine ⟨fun h m d hpart => ?_, fun h m d hpart => h m d (List.infix_cons hpart)⟩
    rcases List.infix_cons_iff.mp hpart with hprefix | hpart
    · obtain ⟨rfl, hsecond⟩ := List.cons_prefix_cons.mp hprefix
      obtain ⟨rfl, -⟩ := List.cons_prefix_cons.mp hsecond
      exact hnone
    · exact h m d hpart
  | case3 c =>
    refine iff_of_true rfl fun m d hpart => ?_
    exact absurd hpart.length_le (by simp)
  | case4 =>
    refine iff_of_true rfl fun m d hpart => ?_
    exact absurd hpart.length_le (by simp)

/-- **Texts with a form in bytes** are those in which no two neighbouring characters stand for a
half. -/
theorem isEncodable_iff {s : String} :
    isEncodable s = true ↔ ∀ mark c, [mark, c] <:+: s.toList → half? mark c = none :=
  all_isChar_pieces_iff s.toList

/-- **Parts of texts with a form in bytes** have one. -/
theorem isEncodable_of_infix {s t : String} (h : s.toList <:+: t.toList)
    (ht : isEncodable t = true) : isEncodable s = true :=
  isEncodable_iff.mpr fun mark c hpart => isEncodable_iff.mp ht mark c (hpart.trans h)

theorem isEncodable_of_notMem {s : String} (h : halfMark ∉ s.toList) : isEncodable s = true := by
  refine isEncodable_iff.mpr fun mark c hpart => half?_eq_none_of_ne fun hmark => ?_
  exact h (hmark ▸ hpart.subset (List.mem_cons_self ..))

/-- Key and value of an entry have forms in bytes. -/
def IsEncodableEntry (entry : String × String) : Prop :=
  isEncodable entry.1 = true ∧ isEncodable entry.2 = true

/-- The pieces of a text with a form in bytes are its characters. -/
theorem pieces_of_isEncodable {cs : List Char} (h : (pieces cs).all Piece.isChar = true) :
    pieces cs = cs.map Piece.char := by
  induction cs using pieces.induct with
  | case1 mark c cs n hn _ =>
    rw [pieces, hn] at h
    exact absurd h Bool.false_ne_true
  | case2 mark c cs hnone ih =>
    rw [pieces, hnone] at h ⊢
    rw [ih h]
    rfl
  | case3 c => rfl
  | case4 => rfl

/-! ### Characters and halves that are read back -/

/-- The characters of a piece. -/
def Piece.chars : Piece → List Char
  | .char c => [c]
  | .half n => ofHalf n

/-- The characters of a text in pieces. -/
def ofPieces (ps : List Piece) : List Char :=
  ps.flatMap Piece.chars

@[simp]
theorem ofPieces_nil : ofPieces [] = [] := rfl

@[simp]
theorem ofPieces_char_cons (c : Char) (ps : List Piece) :
    ofPieces (.char c :: ps) = c :: ofPieces ps := rfl

@[simp]
theorem ofPieces_half_cons (n : Nat) (ps : List Piece) :
    ofPieces (.half n :: ps) = halfMark :: Char.ofNat (n + halfShift) :: ofPieces ps := rfl

/-- **The convention for the mark**: halves are units that are half of a pair, and the mark does not
stand as a character in front of a character for a half. -/
structure KeepsMark (ps : List Piece) : Prop where
  isHalf_of_mem : ∀ n, .half n ∈ ps → isHalf n = true
  half?_eq_none : ∀ mark c, [.char mark, .char c] <:+: ps → half? mark c = none

theorem KeepsMark.of_cons {p : Piece} {ps : List Piece} (h : KeepsMark (p :: ps)) : KeepsMark ps where
  isHalf_of_mem n hn := h.isHalf_of_mem n (List.mem_cons_of_mem p hn)
  half?_eq_none mark c hpart := h.half?_eq_none mark c (List.infix_cons hpart)

theorem lt_of_isHalf {n : Nat} (h : isHalf n = true) : n < 0xe000 := by
  simp only [isHalf, isHighHalf, isLowHalf, Bool.or_eq_true, Bool.and_eq_true,
    decide_eq_true_eq] at h
  omega

theorem toNat_ofNat_add_halfShift {n : Nat} (h : isHalf n = true) :
    (Char.ofNat (n + halfShift)).toNat = n + halfShift := by
  have hlt := lt_of_isHalf h
  have hshift : halfShift = 0x100000 := rfl
  have hvalid : (n + halfShift).isValidChar := Or.inr ⟨by omega, by omega⟩
  rw [Char.ofNat, dif_pos hvalid]
  rfl

/-- The characters for a half stand for it. -/
theorem half?_ofHalf {n : Nat} (h : isHalf n = true) :
    half? halfMark (Char.ofNat (n + halfShift)) = some n := by
  rw [half?, toNat_ofNat_add_halfShift h, Nat.add_sub_cancel, h]
  rfl

/-- The mark itself is no character for a half. -/
theorem half?_halfMark (mark : Char) : half? mark halfMark = none := by
  have hmark : isHalf (halfMark.toNat - halfShift) = false := by decide
  rw [half?, hmark, Bool.and_false, if_neg Bool.false_ne_true]

/-- What stands for a half is a half, and its characters are these. -/
theorem isHalf_and_ofHalf_of_half? {mark c : Char} {n : Nat} (h : half? mark c = some n) :
    isHalf n = true ∧ ofHalf n = [mark, c] := by
  obtain ⟨hmark, hle⟩ := le_toNat_of_half? h
  rw [half?] at h
  split at h
  next hhalf =>
    obtain rfl := Option.some.inj h
    refine ⟨(Bool.and_eq_true_iff.mp hhalf).2, ?_⟩
    rw [ofHalf, Nat.sub_add_cancel hle, Char.ofNat_toNat, hmark]
  next => cases h

/-- The pieces of a text have its characters. -/
theorem ofPieces_pieces (cs : List Char) : ofPieces (pieces cs) = cs := by
  induction cs using pieces.induct with
  | case1 mark c cs n hn ih =>
    rw [pieces, hn]
    exact congrArg₂ (· ++ ·) (isHalf_and_ofHalf_of_half? hn).2 ih
  | case2 mark c cs hnone ih => rw [pieces, hnone, ofPieces_char_cons, ih]
  | case3 c => rfl
  | case4 => rfl

theorem pieces_char_cons {c : Char} {cs : List Char} (h : ∀ d, [d] <+: cs → half? c d = none) :
    pieces (c :: cs) = .char c :: pieces cs := by
  cases cs with
  | nil => rfl
  | cons d cs => rw [pieces, h d (List.prefix_append [d] cs)]

/-- The first character of pieces is that of a first piece that is one, or the mark. -/
theorem prefix_ofPieces {d : Char} {ps : List Piece} (h : [d] <+: ofPieces ps) :
    [.char d] <+: ps ∨ d = halfMark := by
  cases ps with
  | nil => exact absurd h.length_le (by simp)
  | cons p ps =>
    cases p with
    | char c =>
      rw [(List.cons_prefix_cons.mp h).1]
      exact Or.inl (List.prefix_append [.char c] ps)
    | half n => exact Or.inr (List.cons_prefix_cons.mp h).1

/-- Pieces that keep the convention are read back from their characters. -/
theorem KeepsMark.pieces_ofPieces {ps : List Piece} (h : KeepsMark ps) :
    pieces (ofPieces ps) = ps := by
  induction ps with
  | nil => rfl
  | cons p ps ih =>
    cases p with
    | char c =>
      have hnone : ∀ d, [d] <+: ofPieces ps → half? c d = none := by
        intro d hd
        rcases prefix_ofPieces hd with hfirst | rfl
        · exact h.half?_eq_none c d (List.cons_prefix_cons.mpr ⟨rfl, hfirst⟩).isInfix
        · exact half?_halfMark c
      rw [ofPieces_char_cons, pieces_char_cons hnone, ih h.of_cons]
    | half n =>
      have hhalf := h.isHalf_of_mem n List.mem_cons_self
      rw [ofPieces_half_cons, pieces, half?_ofHalf hhalf, ih h.of_cons]

/-- The pieces of a text keep the convention. -/
theorem keepsMark_pieces (cs : List Char) : KeepsMark (pieces cs) := by
  induction cs using pieces.induct with
  | case1 mark c cs n hn ih =>
    rw [pieces, hn]
    refine ⟨fun k hk => ?_, fun m d hpart => ?_⟩
    · rcases List.mem_cons.mp hk with heq | hk
      · cases heq
        exact (isHalf_and_ofHalf_of_half? hn).1
      · exact ih.isHalf_of_mem k hk
    · rcases List.infix_cons_iff.mp hpart with hprefix | hpart
      · exact absurd (List.cons_prefix_cons.mp hprefix).1 Piece.noConfusion
      · exact ih.half?_eq_none m d hpart
  | case2 mark c cs hnone ih =>
    rw [pieces, hnone]
    refine ⟨fun k hk => ?_, fun m d hpart => ?_⟩
    · exact ih.isHalf_of_mem k ((List.mem_cons.mp hk).resolve_left Piece.noConfusion)
    · rcases List.infix_cons_iff.mp hpart with hprefix | hpart
      · obtain ⟨hm, hsecond⟩ := List.cons_prefix_cons.mp hprefix
        have hchars : [d] <+: ofPieces (pieces (c :: cs)) := by
          obtain ⟨rest, hrest⟩ := hsecond
          rw [← hrest]
          exact List.prefix_append [d] (ofPieces rest)
        rw [ofPieces_pieces] at hchars
        rw [Piece.char.inj hm, (List.cons_prefix_cons.mp hchars).1]
        exact hnone
      · exact ih.half?_eq_none m d hpart
  | case3 c =>
    refine ⟨fun k hk => ?_, fun m d hpart => ?_⟩
    · exact absurd (List.mem_singleton.mp hk) Piece.noConfusion
    · exact absurd hpart.length_le (by simp [pieces])
  | case4 =>
    refine ⟨fun k hk => absurd hk List.not_mem_nil, fun m d hpart => ?_⟩
    exact absurd hpart.length_le (by simp [pieces])

/-- **Pieces are read back** from their characters exactly if they keep the convention. -/
theorem pieces_ofPieces_iff {ps : List Piece} : pieces (ofPieces ps) = ps ↔ KeepsMark ps :=
  ⟨fun h => h ▸ keepsMark_pieces (ofPieces ps), KeepsMark.pieces_ofPieces⟩

/-- Under the convention no two texts in pieces have the same characters. -/
theorem KeepsMark.ofPieces_inj {ps qs : List Piece} (hp : KeepsMark ps) (hq : KeepsMark qs) :
    ofPieces ps = ofPieces qs ↔ ps = qs := by
  refine ⟨fun h => ?_, congrArg ofPieces⟩
  rw [← hp.pieces_ofPieces, h, hq.pieces_ofPieces]

/-- **Texts with a form in bytes by their pieces**: under the convention a text has one exactly if
it has no half. -/
theorem isEncodable_ofPieces {ps : List Piece} (h : KeepsMark ps) :
    isEncodable (String.ofList (ofPieces ps)) = true ↔ ∀ n, .half n ∉ ps := by
  rw [isEncodable, String.toList_ofList, h.pieces_ofPieces, List.all_eq_true]
  refine ⟨fun hall n hn => absurd (hall _ hn) Bool.false_ne_true, fun hnone p hp => ?_⟩
  cases p with
  | char c => rfl
  | half n => exact absurd hp (hnone n)

/-- Two characters that the convention excludes have the characters of a half. -/
theorem ofPieces_not_injective :
    ofPieces [.char halfMark, .char (Char.ofNat 0x10d800)] = ofPieces [.half 0xd800] ∧
      ¬ KeepsMark [.char halfMark, .char (Char.ofNat 0x10d800)] :=
  ⟨rfl, fun h => absurd h.pieces_ofPieces (by decide)⟩

/-! ### Joined texts -/

/-- What is joined is a part of the whole. -/
theorem infix_intercalate {l gap : List Char} {ls : List (List Char)} (h : l ∈ ls) :
    l <:+: gap.intercalate ls := by
  induction ls with
  | nil => exact absurd h List.not_mem_nil
  | cons l' rest ih =>
    cases rest with
    | nil => rw [List.mem_singleton.mp h, List.intercalate_singleton]
    | cons l'' rest =>
      rw [List.intercalate_cons_cons, List.append_assoc]
      rcases List.mem_cons.mp h with rfl | h
      · exact (List.prefix_append ..).isInfix
      · exact (ih h).trans ((List.suffix_append ..).trans (List.suffix_append ..)).isInfix

/-- A text that is joined with others is a part of the whole. -/
theorem toList_infix_intercalate {s gap : String} {parts : List String} (h : s ∈ parts) :
    s.toList <:+: (gap.intercalate parts).toList := by
  rw [String.toList_intercalate]
  exact infix_intercalate (List.mem_map_of_mem h)

/-- The characters of joined texts are those of the texts and of what stands between them. -/
theorem forall_mem_intercalate {P : Char → Prop} {gap : List Char} {ls : List (List Char)}
    (hgap : ∀ c ∈ gap, P c) (h : ∀ l ∈ ls, ∀ c ∈ l, P c) : ∀ c ∈ gap.intercalate ls, P c := by
  induction ls with
  | nil => exact fun c hc => absurd hc List.not_mem_nil
  | cons l rest ih =>
    obtain ⟨hl, hrest⟩ := List.forall_mem_cons.mp h
    cases rest with
    | nil => rwa [List.intercalate_singleton]
    | cons l' rest =>
      rw [List.intercalate_cons_cons]
      exact List.forall_mem_append.mpr ⟨List.forall_mem_append.mpr ⟨hl, hgap⟩, ih hrest⟩

end Text

namespace Console

open Text (half? halfMark halfShift)

/-- What stands behind the escape character of a control sequence has no mark for halves. -/
theorem exists_append_of_afterSequence? {cs rest : List Char}
    (h : afterSequence? cs = some rest) :
    ∃ sequence, cs = sequence ++ rest ∧ halfMark ∉ sequence := by
  rw [afterSequence?.eq_def] at h
  split at h
  next cs =>
    cases hend : cs.dropWhile isParameter with
    | nil => rw [hend] at h; exact nomatch h
    | cons c tail =>
      simp only [hend] at h
      split at h
      next hletter =>
        cases h
        refine ⟨'[' :: cs.takeWhile isParameter ++ [c], ?_, ?_⟩
        · rw [List.cons_append, List.cons_append, List.append_assoc, List.singleton_append, ← hend,
            List.takeWhile_append_dropWhile]
        · intro hmem
          rcases List.mem_append.mp hmem with hmem | hmem
          · rcases List.mem_cons.mp hmem with hmark | hmem
            · exact absurd hmark (by decide)
            · have hparameter := List.all_eq_true.mp List.all_takeWhile _ hmem
              exact absurd hparameter (by decide)
          · rw [← List.mem_singleton.mp hmem] at hletter
            exact absurd hletter (by decide)
      next => exact nomatch h
  next => exact nomatch h

/-- Two characters that do not begin in the first part stand in the second one. -/
theorem infix_of_append {mark c : Char} {before after : List Char} (hmark : mark ∉ before)
    (h : [mark, c] <:+: before ++ after) : [mark, c] <:+: after := by
  induction before with
  | nil => exact h
  | cons d before ih =>
    rw [List.mem_cons, not_or] at hmark
    rcases List.infix_cons_iff.mp h with hprefix | hpart
    · exact absurd (List.cons_prefix_cons.mp hprefix).1 hmark.1
    · exact ih hmark.2 hpart

/-- A character that does not begin a control sequence stays the first one. -/
theorem prefix_dropSequences {c : Char} (hc : c.toNat ≠ 27) (cs : List Char) :
    ∀ n, [c] <+: dropSequences n (c :: cs)
  | 0 => List.prefix_append [c] cs
  | n + 1 => by
    rw [dropSequences, if_neg hc]
    exact List.prefix_append [c] _

/-- A half stays when control sequences are taken away. -/
theorem infix_dropSequences {mark c : Char} (hmark : mark = halfMark) (hc : c.toNat ≠ 27) (n : Nat) :
    ∀ cs, [mark, c] <:+: cs → [mark, c] <:+: dropSequences n cs := by
  have hescape : mark.toNat ≠ 27 := hmark ▸ by decide
  induction n with
  | zero => exact fun _ h => h
  | succ n ih =>
    intro cs h
    cases cs with
    | nil => exact absurd h.length_le (by simp)
    | cons d cs =>
      rw [dropSequences]
      split
      next hd =>
        have hmem : [mark, c] <:+: cs := by
          refine (List.infix_cons_iff.mp h).resolve_left fun hprefix => hescape ?_
          rw [(List.cons_prefix_cons.mp hprefix).1, hd]
        split
        next rest hrest =>
          obtain ⟨sequence, rfl, hsequence⟩ := exists_append_of_afterSequence? hrest
          exact ih rest (infix_of_append (hmark ▸ hsequence) hmem)
        next => exact List.infix_cons (ih cs hmem)
      next =>
        rcases List.infix_cons_iff.mp h with hprefix | hpart
        · obtain ⟨rfl, hsecond⟩ := List.cons_prefix_cons.mp hprefix
          obtain ⟨rest, rfl⟩ := hsecond
          refine List.IsPrefix.isInfix (List.cons_prefix_cons.mpr ⟨rfl, ?_⟩)
          exact prefix_dropSequences hc rest n
        · exact List.infix_cons (ih cs hpart)

/-- **Control sequences hide no half**: a text has a form in bytes if it has one without them. -/
theorem isEncodable_of_withoutSequences {s : String}
    (h : Text.isEncodable (withoutSequences s) = true) : Text.isEncodable s = true := by
  refine Text.isEncodable_iff.mpr fun mark c hpart => ?_
  cases hhalf : half? mark c with
  | none => rfl
  | some n =>
    obtain ⟨hmark, hle⟩ := Text.le_toNat_of_half? hhalf
    have hc : c.toNat ≠ 27 := by
      have hshift : halfShift = 1048576 := rfl
      omega
    have hkept : [mark, c] <:+: (withoutSequences s).toList := by
      rw [withoutSequences, String.toList_ofList]
      exact infix_dropSequences hmark hc _ _ hpart
    exact absurd (hhalf.symm.trans (Text.isEncodable_iff.mp h mark c hkept))
      (Option.some_ne_none n)

end Console

end GrammarForm
