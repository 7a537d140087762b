import GrammarForm.Program.Run
import GrammarForm.Proofs.Encoding
import GrammarForm.Proofs.Entries

/-!
# Saved values

Saved values are written as a JSON table, one entry per line, in ASCII characters only.  Reading
such a file gives the values back, in the same order: each character of a text stands for itself
or for an escape that means it, each entry gives four words, and keys that are distinct are put
one behind the other.

## Main definitions

* `Json.entryTokens`, `Json.tableTokens` : the words of an entry and of a table of texts.

## Main results

* `Json.wordsFrom_writeChar` : a character is read back from what is written for it.
* `Json.wordsFrom_writeText` : a text in quotes gives one word.
* `Json.read_savedState` : the table that a file with saved values holds.
* `Program.stateOf_savedState` : saved values are read back.
-/

namespace GrammarForm

namespace Json

/-! ### Characters -/

theorem wordsFrom_cons {mode mode' : Mode} {c : Char} {ts : List Token}
    (h : advance mode c = some (ts, mode')) (done : List Token) (cs : List Char) :
    wordsFrom mode done (c :: cs) = wordsFrom mode' (ts.reverse ++ done) cs := by
  rw [wordsFrom, h]

theorem hexValue?_digitChar : ∀ n < 16, hexValue? (Nat.digitChar n) = some n := by
  decide

/-- A digit of a numeric escape is counted in. -/
theorem advance_unicode {n : Nat} (hn : n < 16) (done : List Char) (half : Option Nat)
    (missing value : Nat) :
    advance (.unicode done half (missing + 1) value) (Nat.digitChar n) =
      some ([], .unicode done half missing (value * 16 + n)) := by
  simp only [advance, hexValue?_digitChar n hn]

theorem advance_unicode_zero {n : Nat} (hn : n < 16) (done : List Char) (half : Option Nat)
    (value : Nat) :
    advance (.unicode done half 0 value) (Nat.digitChar n) =
      some ([], addUnit done half (value * 16 + n)) := by
  simp only [advance, hexValue?_digitChar n hn]

/-- **The escape of a unit** is read as that unit. -/
theorem wordsFrom_unitEscape {n : Nat} (hn : n < 65536) (done : List Char) (half : Option Nat)
    (ws : List Token) (cs : List Char) :
    wordsFrom (.text done half) ws (Text.unitEscape n ++ cs) =
      wordsFrom (addUnit done half n) ws cs := by
  have hvalue : ((((0 * 16 + n / 16 / 16 / 16 % 16) * 16 + n / 16 / 16 % 16) * 16 +
      n / 16 % 16) * 16 + n % 16) = n := by omega
  have hdigit (m : Nat) : m % 16 < 16 := Nat.mod_lt m (by decide)
  change wordsFrom _ ws ('\\' :: 'u' :: Nat.digitChar (n / 16 / 16 / 16 % 16) ::
    Nat.digitChar (n / 16 / 16 % 16) :: Nat.digitChar (n / 16 % 16) :: Nat.digitChar (n % 16) ::
      cs) = _
  rw [wordsFrom_cons rfl, wordsFrom_cons rfl, wordsFrom_cons (advance_unicode (hdigit _) ..),
    wordsFrom_cons (advance_unicode (hdigit _) ..), wordsFrom_cons (advance_unicode (hdigit _) ..),
    wordsFrom_cons (advance_unicode_zero (hdigit _) ..), hvalue]
  rfl

/-- The number of a character is no half of a pair. -/
theorem toNat_bounds (c : Char) : c.toNat < 55296 ∨ 57343 < c.toNat ∧ c.toNat < 1114112 :=
  c.valid

theorem addUnit_toNat (c : Char) (done : List Char) :
    addUnit done none c.toNat = .text (c :: done) none := by
  have hbounds := toNat_bounds c
  have hhigh : Text.isHighHalf c.toNat = false := by
    rw [Text.isHighHalf, Bool.and_eq_false_iff, decide_eq_false_iff_not, decide_eq_false_iff_not]
    omega
  have hlow : Text.isLowHalf c.toNat = false := by
    rw [Text.isLowHalf, Bool.and_eq_false_iff, decide_eq_false_iff_not, decide_eq_false_iff_not]
    omega
  simp only [addUnit, Text.ofUnit, Text.isHalf, hhigh, hlow, Bool.or_false, Bool.false_eq_true,
    if_false, Char.ofNat_toNat, List.reverse_singleton, List.singleton_append]

/-- **A numeric escape** is read as its character, which two units may stand for. -/
theorem wordsFrom_numericEscape (c : Char) (done : List Char) (ws : List Token)
    (cs : List Char) :
    wordsFrom (.text done none) ws (numericEscape c ++ cs) =
      wordsFrom (.text (c :: done) none) ws cs := by
  have hbounds := toNat_bounds c
  rw [numericEscape]
  split
  next hsmall => rw [wordsFrom_unitEscape hsmall, addUnit_toNat]
  next hlarge =>
    have hhigh : Text.isHighHalf (0xd800 + (c.toNat - 0x10000) / 0x400) = true := by
      rw [Text.isHighHalf, Bool.and_eq_true, decide_eq_true_eq, decide_eq_true_eq]
      omega
    have hlow : Text.isLowHalf (0xdc00 + (c.toNat - 0x10000) % 0x400) = true := by
      rw [Text.isLowHalf, Bool.and_eq_true, decide_eq_true_eq, decide_eq_true_eq]
      omega
    have hpair : Text.ofPair (0xd800 + (c.toNat - 0x10000) / 0x400)
        (0xdc00 + (c.toNat - 0x10000) % 0x400) = c := by
      rw [Text.ofPair, Nat.add_sub_cancel_left, Nat.add_sub_cancel_left, Nat.add_assoc,
        Nat.div_add_mod' .., Nat.add_sub_cancel' (by omega), Char.ofNat_toNat]
    rw [List.append_assoc, wordsFrom_unitEscape (by omega), addUnit, if_pos hhigh,
      wordsFrom_unitEscape (by omega), addUnit, if_pos hlow, hpair]

/-- **A character of a text** is read back from what is written for it. -/
theorem wordsFrom_writeChar (c : Char) (done : List Char) (ws : List Token) (cs : List Char) :
    wordsFrom (.text done none) ws (writeChar true c ++ cs) =
      wordsFrom (.text (c :: done) none) ws cs := by
  have hescape {d : Char} (h : escaped? d = some c) (hd : d ≠ 'u') :
      wordsFrom (.text done none) ws ('\\' :: d :: cs) =
        wordsFrom (.text (c :: done) none) ws cs := by
    have hread : advance (.escape done none) d = some ([], .text (c :: done) none) := by
      simp only [advance, if_neg hd, h, Option.map_some, settle]
    rw [wordsFrom_cons rfl, wordsFrom_cons hread]
    rfl
  have hnumber {n : Nat} (h : c.toNat = n) : Char.ofNat n = c := by
    rw [← h, Char.ofNat_toNat]
  rw [writeChar]
  split_ifs with hquote hbackslash hnewline hreturn htab hback hfeed hnumeric
  · exact hescape (by rw [hquote]; rfl) (by decide)
  · exact hescape (by rw [hbackslash]; rfl) (by decide)
  · exact hescape (by rw [hnewline]; rfl) (by decide)
  · exact hescape (by rw [hreturn]; rfl) (by decide)
  · exact hescape (by rw [htab]; rfl) (by decide)
  · exact hescape (by rw [← hnumber hback]; rfl) (by decide)
  · exact hescape (by rw [← hnumber hfeed]; rfl) (by decide)
  · exact wordsFrom_numericEscape c done ws cs
  · have hcontrol : ¬c.toNat < 32 := fun h => hnumeric (Or.inl h)
    have hread : advance (.text done none) c = some ([], .text (c :: done) none) := by
      simp only [advance, if_neg hquote, if_neg hbackslash, if_neg hcontrol, settle]
    rw [List.singleton_append, wordsFrom_cons hread]
    rfl

theorem wordsFrom_flatMap_writeChar (text done : List Char) (ws : List Token) (cs : List Char) :
    wordsFrom (.text done none) ws (text.flatMap (writeChar true) ++ cs) =
      wordsFrom (.text (text.reverse ++ done) none) ws cs := by
  induction text generalizing done with
  | nil => rfl
  | cons c text ih =>
    rw [List.flatMap_cons, List.append_assoc, wordsFrom_writeChar, ih, List.reverse_cons,
      List.append_assoc]
    rfl

/-- **A text in quotes** gives one word, which is the text. -/
theorem wordsFrom_writeText {s : String} (h : Text.isEncodable s = true) (ws : List Token)
    (cs : List Char) :
    wordsFrom .between ws ((writeText true s).toList ++ cs) =
      wordsFrom .between (.text s :: ws) cs := by
  have hpieces : (Text.pieces s.toList).flatMap (writePiece true) =
      s.toList.flatMap (writeChar true) := by
    rw [Text.pieces_of_isEncodable h, List.flatMap_map]
    rfl
  have htext : (writeText true s).toList ++ cs =
      '"' :: (s.toList.flatMap (writeChar true) ++ '"' :: cs) := by
    simp only [writeText, hpieces, String.toList_append, String.toList_ofList, List.append_assoc]
    rfl
  rw [htext, wordsFrom_cons rfl, wordsFrom_flatMap_writeChar, wordsFrom_cons rfl]
  simp only [settle, List.append_nil, List.reverse_reverse, String.ofList_toList]
  rfl

/-! ### Tables of texts -/

/-- The words of an entry. -/
def entryTokens (entry : String × String) : List Token :=
  [.text entry.1, .colon, .text entry.2]

/-- The words between the marks of a table of texts. -/
def tableTokens (entries : List (String × String)) : List Token :=
  [.comma].intercalate (entries.map entryTokens)

/-- The line of an entry gives its words. -/
theorem wordsFrom_writeTextEntry {entry : String × String} (h : Text.IsEncodableEntry entry)
    (ws : List Token) (cs : List Char) :
    wordsFrom .between ws ((writeTextEntry entry).toList ++ cs) =
      wordsFrom .between ((entryTokens entry).reverse ++ ws) cs := by
  have htext : (writeTextEntry entry).toList ++ cs =
      ' ' :: ' ' :: ((writeText true entry.1).toList ++
        ':' :: ' ' :: ((writeText true entry.2).toList ++ cs)) := by
    have hindent : "  ".toList = [' ', ' '] := rfl
    have hcolon : ": ".toList = [':', ' '] := rfl
    simp only [writeTextEntry, String.toList_append, List.append_assoc, hindent, hcolon,
      List.cons_append, List.nil_append]
  rw [htext, wordsFrom_cons rfl, wordsFrom_cons rfl]
  simp only [List.reverse_nil, List.nil_append]
  rw [wordsFrom_writeText h.1, wordsFrom_cons rfl, wordsFrom_cons rfl]
  simp only [List.reverse_nil, List.nil_append]
  rw [wordsFrom_writeText h.2]
  rfl

/-- **The lines of a table** give the words of its entries. -/
theorem wordsFrom_lines {entries : List (String × String)}
    (h : ∀ e ∈ entries, Text.IsEncodableEntry e) (ws : List Token) (cs : List Char) :
    wordsFrom .between ws
        ([',', '\n'].intercalate (entries.map fun e => (writeTextEntry e).toList) ++ cs) =
      wordsFrom .between ((tableTokens entries).reverse ++ ws) cs := by
  induction entries generalizing ws with
  | nil => rfl
  | cons e rest ih =>
    obtain ⟨he, hrest⟩ := List.forall_mem_cons.mp h
    cases rest with
    | nil =>
      simp only [tableTokens, List.map_cons, List.map_nil, List.intercalate_singleton]
      exact wordsFrom_writeTextEntry he ws cs
    | cons e' rest =>
      rw [tableTokens]
      simp only [List.map_cons, List.intercalate_cons_cons, List.append_assoc] at ih ⊢
      rw [wordsFrom_writeTextEntry he]
      change wordsFrom .between _ (',' :: '\n' :: _) = _
      rw [wordsFrom_cons rfl, wordsFrom_cons rfl]
      refine (ih hrest _).trans ?_
      simp only [tableTokens, List.map_cons, List.reverse_append, List.append_assoc]
      rfl

/-- The words of a file with saved values. -/
theorem words_savedState {entries : List (String × String)}
    (h : ∀ e ∈ entries, Text.IsEncodableEntry e) :
    words (Program.savedState entries) =
      ⟨.openTable :: (tableTokens entries ++ [.closeTable]), true⟩ := by
  cases entries with
  | nil => rfl
  | cons e rest =>
    have htext : (Program.savedState (e :: rest)).toList = '\x7b' :: '\n' ::
        ([',', '\n'].intercalate ((e :: rest).map fun e => (writeTextEntry e).toList) ++
          ['\n', '\x7d', '\n']) := by
      simp only [Program.savedState, writeTexts, List.isEmpty_cons, Bool.false_eq_true, if_false,
        String.toList_append, String.toList_intercalate, List.map_map, List.append_assoc]
      rfl
    rw [words, htext, wordsFrom_cons rfl, wordsFrom_cons rfl, wordsFrom_lines h,
      wordsFrom_cons rfl, wordsFrom_cons rfl, wordsFrom_cons rfl, wordsFrom]
    simp [finish]

/-! ### The table -/

/-- A table of texts as a value. -/
def textTable (entries : List (String × String)) : Entries Data :=
  entries.map fun e => (e.1, .string e.2)

/-- The words of an entry put it behind the entries before. -/
theorem foldlM_entryTokens (done : Entries Data) (closable : Bool) (entry : String × String)
    (h : entry.1 ∉ done.map Prod.fst) :
    (entryTokens entry).foldlM stepWithin (.key [] done closable, 1) =
      .ok (.afterEntry [] (done ++ [(entry.1, .string entry.2)]), 1) := by
  rw [← Entries.insert_of_notMem _ _ _ h]
  rfl

/-- **The words of a table** put its entries behind those before, one after the other. -/
theorem foldlM_tableTokens {e : String × String} {rest : List (String × String)} :
    ∀ {done : Entries Data} {closable : Bool},
      (done.map Prod.fst ++ (e :: rest).map Prod.fst).Nodup →
      (tableTokens (e :: rest)).foldlM stepWithin (.key [] done closable, 1) =
        .ok (.afterEntry [] (done ++ textTable (e :: rest)), 1) := by
  induction rest generalizing e with
  | nil =>
    intro done closable h
    refine foldlM_entryTokens done closable e fun hmem => ?_
    exact (List.nodup_append.mp h).2.2 _ hmem _ (List.mem_cons_self ..) rfl
  | cons e' rest ih =>
    intro done closable h
    have hdone : e.1 ∉ done.map Prod.fst := fun hmem =>
      (List.nodup_append.mp h).2.2 _ hmem _ (List.mem_cons_self ..) rfl
    have hlater : ((done ++ [(e.1, Data.string e.2)]).map Prod.fst ++
        (e' :: rest).map Prod.fst).Nodup := by
      rwa [List.map_append, List.append_assoc]
    have htokens : tableTokens (e :: e' :: rest) =
        entryTokens e ++ .comma :: tableTokens (e' :: rest) := by
      simp only [tableTokens, List.map_cons, List.intercalate_cons_cons, List.append_assoc]
      rfl
    rw [htokens, List.foldlM_append, foldlM_entryTokens done closable e hdone]
    refine (ih hlater).trans ?_
    rw [List.append_assoc]
    rfl

/-- **A file with saved values** holds the table of these values, if their keys are distinct. -/
theorem read_savedState {entries : List (String × String)}
    (hkeys : (entries.map Prod.fst).Nodup) (h : ∀ e ∈ entries, Text.IsEncodableEntry e) :
    read (Program.savedState entries) = .ok (.table (textTable entries)) := by
  rw [read, words_savedState h]
  cases entries with
  | nil => rfl
  | cons e rest =>
    have hopen : stepWithin (.value [] false, 0) .openTable = .ok (.key [] [] true, 1) := rfl
    rw [ofWords, List.foldlM_cons, hopen]
    change (do
      let s ← (tableTokens (e :: rest) ++ [Token.closeTable]).foldlM stepWithin
        (State.key [] [] true, 1)
      _) = _
    rw [List.foldlM_append, foldlM_tableTokens (by exact hkeys)]
    rfl

end Json

/-! ### Files with saved values -/

namespace Text

/-- A text without carriage returns has its line ends as they are to be. -/
theorem unifyLineEnds_eq_self {s : String} (h : '\r' ∉ s.toList) : unifyLineEnds s = s := by
  have hlist (cs : List Char) (hcs : '\r' ∉ cs) : lineFeeds cs = cs := by
    induction cs using lineFeeds.induct with
    | case1 cs _ => exact absurd (List.mem_cons_self ..) hcs
    | case2 cs _ _ => exact absurd (List.mem_cons_self ..) hcs
    | case3 c cs _ _ ih =>
      rw [lineFeeds, ih fun hmem => hcs (List.mem_cons_of_mem c hmem)] <;> assumption
    | case4 => rfl
  rw [unifyLineEnds, hlist _ h, String.ofList_toList]

end Text

namespace Json

/-- A blank or a visible character of ASCII. -/
def IsVisible (c : Char) : Prop :=
  32 ≤ c.toNat ∧ c.toNat ≤ 126

instance (c : Char) : Decidable (IsVisible c) :=
  inferInstanceAs (Decidable (_ ∧ _))

theorem isVisible_of_all {cs : List Char} (h : cs.all (fun c => decide (IsVisible c)) = true) :
    ∀ c ∈ cs, IsVisible c := fun c hc =>
  of_decide_eq_true (List.all_eq_true.mp h c hc)

theorem isVisible_digitChar : ∀ n < 16, IsVisible (Nat.digitChar n) := by
  decide

theorem isVisible_unitEscape (n : Nat) : ∀ c ∈ Text.unitEscape n, IsVisible c := by
  have hdigit (m : Nat) : IsVisible (Nat.digitChar (m % 16)) :=
    isVisible_digitChar _ (Nat.mod_lt m (by decide))
  have hescape : Text.unitEscape n = ['\\', 'u', Nat.digitChar (n / 16 / 16 / 16 % 16),
      Nat.digitChar (n / 16 / 16 % 16), Nat.digitChar (n / 16 % 16), Nat.digitChar (n % 16)] :=
    rfl
  rw [hescape]
  simp only [List.forall_mem_cons, List.not_mem_nil, false_implies, implies_true, and_true, hdigit]
  exact ⟨by decide, by decide⟩

theorem isVisible_writeChar (c : Char) : ∀ d ∈ writeChar true c, IsVisible d := by
  rw [writeChar]
  split_ifs with hquote hbackslash hnewline hreturn htab hback hfeed hnumeric
  iterate 7 exact isVisible_of_all rfl
  · rw [numericEscape]
    split
    · exact isVisible_unitEscape _
    · exact List.forall_mem_append.mpr ⟨isVisible_unitEscape _, isVisible_unitEscape _⟩
  · simp only [true_and, not_or, not_lt] at hnumeric
    exact List.forall_mem_singleton.mpr hnumeric

/-- **A text in quotes** is visible. -/
theorem isVisible_writeText (s : String) : ∀ c ∈ (writeText true s).toList, IsVisible c := by
  have hpiece (p : Text.Piece) : ∀ c ∈ writePiece true p, IsVisible c := by
    cases p with
    | char c => exact isVisible_writeChar c
    | half n => exact isVisible_unitEscape n
  simp only [writeText, String.toList_append, String.toList_ofList, List.forall_mem_append,
    List.forall_mem_flatMap]
  exact ⟨⟨isVisible_of_all rfl, fun p _ => hpiece p⟩, isVisible_of_all rfl⟩

theorem isVisible_writeTextEntry (entry : String × String) :
    ∀ c ∈ (writeTextEntry entry).toList, IsVisible c := by
  simp only [writeTextEntry, String.toList_append, List.forall_mem_append]
  exact ⟨⟨⟨isVisible_of_all rfl, isVisible_writeText _⟩, isVisible_of_all rfl⟩,
    isVisible_writeText _⟩

/-- A character of a file with saved values: a line feed or a visible one of ASCII. -/
def IsPlain (c : Char) : Prop :=
  c = '\n' ∨ 32 ≤ c.toNat ∧ c.toNat ≤ 126

instance (c : Char) : Decidable (IsPlain c) :=
  inferInstanceAs (Decidable (_ ∨ _))

theorem isPlain_of_all {cs : List Char} (h : cs.all (fun c => decide (IsPlain c)) = true) :
    ∀ c ∈ cs, IsPlain c := fun c hc =>
  of_decide_eq_true (List.all_eq_true.mp h c hc)

/-- **A file with saved values** consists of line feeds and visible characters of ASCII. -/
theorem isPlain_savedState (entries : List (String × String)) :
    ∀ c ∈ (Program.savedState entries).toList, IsPlain c := by
  rw [Program.savedState, writeTexts]
  split
  next => exact isPlain_of_all rfl
  next =>
    simp only [String.toList_append, String.toList_intercalate, List.forall_mem_append]
    refine ⟨⟨⟨isPlain_of_all rfl, Text.forall_mem_intercalate (isPlain_of_all rfl) fun l hl => ?_⟩,
      isPlain_of_all rfl⟩, isPlain_of_all rfl⟩
    simp only [List.map_map, List.mem_map, Function.comp_apply] at hl
    obtain ⟨entry, -, rfl⟩ := hl
    exact fun c hc => Or.inr (isVisible_writeTextEntry entry c hc)

end Json

namespace Program

theorem isEncodable_savedState (state : FormState) : Text.isEncodable (savedState state) = true :=
  Text.isEncodable_of_notMem fun hmem =>
    absurd (Json.isPlain_savedState state _ hmem) (by decide)

/-- A text is read back from its form in bytes. -/
theorem text_toUTF8 (s : String) : Storage.text (.ok s.toUTF8) = .ok s := by
  have hvalid : s.toUTF8.IsValidUTF8 := s.isValidUTF8
  rw [Storage.text, String.fromUTF8?, dif_pos hvalid]
  rfl

/-- **Saved values are read back**: a file with saved values holds them in their order, if the keys
are distinct and all keys and values have a form in bytes. -/
theorem stateOf_savedState {state : FormState} (hkeys : (state.map Prod.fst).Nodup)
    (h : ∀ e ∈ state, Text.IsEncodableEntry e) :
    stateOf (.ok (savedState state).toUTF8) = .ok state := by
  have hreturn : '\r' ∉ (savedState state).toList := fun hmem =>
    absurd (Json.isPlain_savedState state _ hmem) (by decide)
  simp only [stateOf, text_toUTF8, Text.unifyLineEnds_eq_self hreturn, Json.read_savedState hkeys h]
  -- The text of a text is the text itself.
  rw [Json.textTable, List.map_map]
  exact congrArg Except.ok (List.map_id state)

end Program

end GrammarForm
