import GrammarForm.Text.Blank
import Mathlib.Data.String.Basic

/-!
# The words of a text

The words of a text are what stands between its blanks.  A text that is not empty and has no blanks
is its only word.  Texts that are put together with blanks have the words of each text, so that a
word never sees how many blanks there are.

## Main definitions

* `Text.IsWord`, `Text.IsSpaced` : a text without blanks, and one without other blanks than spaces.

## Main results

* `Text.words_of_isWord` : a word is its only word.
* `Text.words_intercalate` : the words of texts that are put together with blanks.
-/

namespace GrammarForm.Text

/-- A text is a word: it is not empty and has no blanks. -/
def IsWord (s : String) : Prop :=
  s ≠ "" ∧ ∀ c ∈ s.toList, isBlank c = false

-- Through `List.all`, since a statement about all characters may be decided by going through them.
instance (s : String) : Decidable (IsWord s) :=
  decidable_of_iff (s ≠ "" ∧ s.toList.all (fun c => !isBlank c) = true) (by simp [IsWord])

/-- A text has no other blanks than spaces. -/
def IsSpaced (s : String) : Prop :=
  ∀ c ∈ s.toList, isBlank c = true → c = ' '

/-- Splitting at single spaces is splitting at the characters that are spaces. -/
private theorem splitOnAux_space (s : String) (b i : String.Pos.Raw) (r : List String) :
    s.splitOnAux " " b i 0 r = s.splitAux (· == ' ') b i r := by
  have hget : String.Pos.Raw.get " " 0 = ' ' := by decide
  have hend : String.Pos.Raw.atEnd " " (String.Pos.Raw.next " " 0) = true := by decide
  induction b, i, r using String.splitAux.induct (s := s) (p := (· == ' ')) with
  | case1 b i r h => rw [String.splitOnAux, String.splitAux, if_pos h, dif_pos h]
  | case2 b i r h _ hc i' ih =>
    -- A piece ends where its separator starts, which is one byte back.
    have hback : (String.Pos.Raw.next s i).unoffsetBy (String.Pos.Raw.next " " 0) = i := by
      rw [String.Pos.Raw.next, beq_iff_eq.mp hc]
      rfl
    rw [String.splitOnAux, String.splitAux, if_neg h, dif_neg h]
    simp only [hget, hc, hend, hback, if_true]
    exact ih
  | case3 b i r h _ hc ih =>
    rw [String.splitOnAux, String.splitAux, if_neg h, dif_neg h]
    simp only [hget, hc]
    exact ih

/-- A text in which all blanks are spaces. -/
def spaced (cs : List Char) : List Char :=
  cs.map fun c => if isBlank c then ' ' else c

/-- The words of a text are the pieces between blanks that are not empty. -/
theorem words_eq (s : String) :
    words s = (((spaced s.toList).splitOnP (· == ' ')).map String.ofList).filter (· != "") := by
  have hsplit (t : String) : t.splitOn " " = (t.toList.splitOnP (· == ' ')).map String.ofList := by
    rw [← String.splitToList_of_valid]
    exact splitOnAux_space t 0 0 []
  rw [words, hsplit, String.toList_map, spaced]

/-- A word is its only word. -/
theorem words_of_isWord {s : String} (h : IsWord s) : words s = [s] := by
  have hspaced : spaced s.toList = s.toList := by
    refine (List.map_congr_left fun c hc => ?_).trans s.toList.map_id
    rw [h.2 c hc]
    rfl
  have hpieces : s.toList.splitOnP (· == ' ') = [s.toList] := by
    refine List.splitOnP_eq_singleton fun c hc => beq_eq_false_iff_ne.mpr fun heq => ?_
    exact absurd (heq ▸ h.2 c hc) (by decide)
  rw [words_eq, hspaced, hpieces, List.map_singleton, String.ofList_toList, List.filter_singleton,
    bne_iff_ne.mpr h.1, cond_true]

theorem words_empty : words "" = [] := by
  rw [words_eq]
  rfl

/-- The words on both sides of a blank. -/
theorem words_append_blank (s t : String) : words (s ++ " " ++ t) = words s ++ words t := by
  have hspaced : spaced (s ++ " " ++ t).toList = spaced s.toList ++ ' ' :: spaced t.toList := by
    simp only [spaced, String.toList_append, List.append_assoc, List.map_append]
    rfl
  rw [words_eq, hspaced, List.splitOnP_append_cons _ _ (by decide), List.map_append,
    List.filter_append, ← words_eq, ← words_eq]

/-- **The words of texts** that are put together with blanks are those of each text. -/
theorem words_intercalate : (texts : List String) →
    words (" ".intercalate texts) = texts.flatMap words
  | [] => by rw [String.intercalate_nil, words_empty, List.flatMap_nil]
  | [s] => by rw [String.intercalate_singleton, List.flatMap_singleton]
  | s :: t :: rest => by
    rw [String.intercalate_cons_cons, words_append_blank, words_intercalate (t :: rest)]
    rfl

theorem IsWord.isSpaced {s : String} (h : IsWord s) : IsSpaced s :=
  fun c hc hblank => absurd hblank (by rw [h.2 c hc]; exact Bool.false_ne_true)

theorem isSpaced_append_blank {s t : String} (hs : IsSpaced s) (ht : IsSpaced t) :
    IsSpaced (s ++ " " ++ t) := by
  intro c hc hblank
  simp only [String.toList_append, List.mem_append] at hc
  rcases hc with (hc | hc) | hc
  · exact hs c hc hblank
  · exact List.mem_singleton.mp hc
  · exact ht c hc hblank

theorem isSpaced_intercalate : {texts : List String} → (∀ s ∈ texts, IsSpaced s) →
    IsSpaced (" ".intercalate texts)
  | [], _ => fun _ hc => absurd hc List.not_mem_nil
  | [s], h => by
    rw [String.intercalate_singleton]
    exact h s (List.mem_singleton_self s)
  | s :: t :: rest, h => by
    obtain ⟨hs, hrest⟩ := List.forall_mem_cons.mp h
    rw [String.intercalate_cons_cons]
    exact isSpaced_append_blank hs (isSpaced_intercalate hrest)

theorem IsSpaced.newline_notMem {s : String} (h : IsSpaced s) : '\n' ∉ s.toList :=
  fun hmem => absurd (h _ hmem (by decide)) (by decide)

end GrammarForm.Text
