import GrammarForm.Proofs.Keywords
import GrammarForm.Proofs.Outline
import GrammarForm.Proofs.Words

/-!
# The words of a valid line

A line of a configuration is read word by word.  The words of a valid line are the name of its
command and then the frontier of the derivation tree that its node shows: the keywords and the
values of the tree from left to right.  So what a user types stays one word of one line, whatever
it is, and an alternative without symbols leaves a second blank in the text but no word.

This rests on two facts.  A value that is accepted by its kind is a word, so it has no blank in it;
and the texts of alternatives are put together with blanks, of which a word never sees how many
there are.  Names have to be words, too; those of the shipped catalogue are.

## Main definitions

* `Derivation.frontier` : the keywords and values of a tree from left to right.
* `Assembler.NamesAreWords` : the names of commands and keywords are words.

## Main results

* `ValueKind.isWord_of_accepts` : an accepted value is a word.
* `Derivation.words_text` : the words of a derivation tree are its frontier.
* `Assembler.words_of_valid` : the words of valid lines, and the lines of a valid document.
-/

namespace GrammarForm

/-! ### Accepted values -/

theorem Text.isBlank_of_isAlphanum {c : Char} (hc : c.isAlphanum = true) : isBlank c = false := by
  rcases Bool.or_eq_true_iff.mp hc with hletter | hdigit
  · rcases Bool.or_eq_true_iff.mp hletter with hupper | hlower
    · obtain ⟨hA, hZ⟩ : 65 ≤ c.toNat ∧ c.toNat ≤ 90 := of_decide_eq_true hupper
      exact isBlank_of_toNat (by omega) (by omega)
    · obtain ⟨ha, hz⟩ := Bool.and_eq_true_iff.mp hlower
      have ha : 97 ≤ c.toNat := of_decide_eq_true ha
      have hz : c.toNat ≤ 122 := of_decide_eq_true hz
      exact isBlank_of_toNat (by omega) (by omega)
  · exact isBlank_of_isDigit hdigit

/-- Characters without a blank, at least one. -/
def IsSolid (cs : List Char) : Prop :=
  cs ≠ [] ∧ ∀ c ∈ cs, Text.isBlank c = false

theorem IsSolid.cons {c : Char} {cs : List Char} (hc : Text.isBlank c = false) (h : IsSolid cs) :
    IsSolid (c :: cs) :=
  ⟨List.cons_ne_nil c cs, List.forall_mem_cons.mpr ⟨hc, h.2⟩⟩

namespace Decimal

theorem isSolid_of_isPositive : {cs : List Char} → isPositive cs = true → IsSolid cs
  | c :: cs, h => by
    simp only [isPositive, Bool.and_eq_true, List.all_eq_true] at h
    obtain ⟨⟨hc, -⟩, hcs⟩ := h
    exact ⟨List.cons_ne_nil c cs, List.forall_mem_cons.mpr
      ⟨Text.isBlank_of_isDigit hc, fun d hd => Text.isBlank_of_isDigit (hcs d hd)⟩⟩

theorem isSolid_of_isNatural {cs : List Char} (h : isNatural cs = true) : IsSolid cs := by
  rcases Bool.or_eq_true_iff.mp h with h | h
  · rw [beq_iff_eq.mp h]
    exact ⟨List.cons_ne_nil _ _, List.forall_mem_singleton.mpr (by decide)⟩
  · exact isSolid_of_isPositive h

theorem isSolid_of_isInteger {cs : List Char} (h : isInteger cs = true) : IsSolid cs := by
  unfold isInteger at h
  split at h
  next => exact (isSolid_of_isPositive h).cons (by decide)
  next => exact isSolid_of_isNatural h

end Decimal

namespace ValueKind

/-- There are no blanks if there are none before, at and behind the first character outside of a
class. -/
theorem isBlank_of_mem_takeWhile {p : Char → Bool} {cs : List Char}
    (hblank : ∀ c, p c = false → Text.isBlank c = false)
    (hbefore : ∀ c ∈ cs.takeWhile p, Text.isBlank c = false)
    (hafter : ∀ c ∈ (cs.dropWhile p).tail, Text.isBlank c = false) :
    ∀ c ∈ cs, Text.isBlank c = false := by
  rw [← cs.takeWhile_append_dropWhile (p := p)]
  refine List.forall_mem_append.mpr ⟨hbefore, ?_⟩
  cases hdrop : cs.dropWhile p with
  | nil => exact fun _ hc => absurd hc List.not_mem_nil
  | cons c rest =>
    have hc : p c = false := by
      have hhead := List.head_dropWhile_not p (l := cs) (hdrop ▸ List.cons_ne_nil c rest)
      simpa only [hdrop, List.head_cons] using hhead
    rw [hdrop] at hafter
    exact List.forall_mem_cons.mpr ⟨hblank c hc, hafter⟩

theorem isSolid_of_isPointed {cs : List Char} (h : isPointed cs = true) : IsSolid cs := by
  unfold isPointed at h
  dsimp only at h
  split at h
  next => exact nomatch h
  next point places hdrop =>
    obtain ⟨hplaces, hwhole⟩ := Bool.and_eq_true_iff.mp h
    refine ⟨fun hnil => by simp [hnil] at hdrop, ?_⟩
    refine isBlank_of_mem_takeWhile (p := (· != '.')) (fun c hc => ?_) ?_ ?_
    · rw [bne_eq_false_iff_eq.mp hc]
      decide
    · split at hwhole
      next hempty =>
        rw [List.isEmpty_iff.mp hempty]
        exact fun _ hc => absurd hc List.not_mem_nil
      next => exact (Decimal.isSolid_of_isNatural hwhole).2
    · rw [hdrop]
      exact fun c hc => Text.isBlank_of_isDigit (List.all_eq_true.mp hplaces c hc)

theorem isSolid_of_isMantissa {cs : List Char} (h : isMantissa cs = true) : IsSolid cs := by
  rcases Bool.or_eq_true_iff.mp h with h | h
  · exact Decimal.isSolid_of_isInteger h
  · split at h
    next => exact (isSolid_of_isPointed h).cons (by decide)
    next => exact isSolid_of_isPointed h

theorem isSolid_of_isExponent {cs : List Char} (h : isExponent cs = true) : IsSolid cs := by
  unfold isExponent at h
  split at h
  next => exact (Decimal.isSolid_of_isPositive h).cons (by decide)
  next => exact Decimal.isSolid_of_isPositive h

theorem isSolid_of_isFloat {cs : List Char} (h : isFloat cs = true) : IsSolid cs := by
  obtain ⟨hmantissa, hexponent⟩ := Bool.and_eq_true_iff.mp h
  obtain ⟨hne, hbefore⟩ := isSolid_of_isMantissa hmantissa
  refine ⟨fun hnil => hne (by rw [hnil, List.takeWhile_nil]), ?_⟩
  refine isBlank_of_mem_takeWhile (fun c hc => ?_) hbefore ?_
  · rw [Bool.not_eq_false', isExponentMark, Bool.or_eq_true, beq_iff_eq, beq_iff_eq] at hc
    rcases hc with rfl | rfl <;> decide
  · split at hexponent
    next hdrop =>
      rw [hdrop]
      exact fun _ hc => absurd hc List.not_mem_nil
    next exponent hdrop =>
      rw [hdrop]
      exact (isSolid_of_isExponent hexponent).2

theorem isBlank_of_isFilenameChar {c : Char} (hc : isFilenameChar c = true) :
    Text.isBlank c = false := by
  simp only [isFilenameChar, Bool.or_eq_true, beq_iff_eq] at hc
  rcases hc with (((hc | rfl) | rfl) | rfl) | rfl
  · exact Text.isBlank_of_isAlphanum hc
  all_goals decide

theorem isSolid_of_isWord {n : Nat} {inClass : Char → Bool} {cs : List Char}
    (hclass : ∀ c, inClass c = true → Text.isBlank c = false)
    (h : isWord n inClass cs = true) : IsSolid cs := by
  simp only [isWord, Bool.and_eq_true, Bool.not_eq_true', List.isEmpty_eq_false_iff,
    List.all_eq_true] at h
  exact ⟨h.1.1, fun c hc => hclass c (h.2 c hc)⟩

/-- **An accepted value is a word**, whatever its kind. -/
theorem isWord_of_accepts {kind : ValueKind} {s : String} (h : kind.accepts s = true) :
    Text.IsWord s := by
  have hsolid : IsSolid s.toList := by
    cases kind with
    | float => exact isSolid_of_isFloat h
    | integer =>
      refine Decimal.isSolid_of_isInteger (by_contra fun hnot => ?_)
      simp [accepts, isInt64, Decimal.readInteger, hnot] at h
    | positiveInteger => exact Decimal.isSolid_of_isPositive (Bool.and_eq_true_iff.mp h).1
    | nonnegativeInteger => exact Decimal.isSolid_of_isNatural (Bool.and_eq_true_iff.mp h).1
    | alphanumeric => exact isSolid_of_isWord (fun _ => Text.isBlank_of_isAlphanum) h
    | filename => exact isSolid_of_isWord (fun _ => isBlank_of_isFilenameChar) h
  exact ⟨fun hempty => hsolid.1 (hempty ▸ rfl), hsolid.2⟩

end ValueKind

/-! ### The frontier of a derivation tree -/

/-- The tokens of a sequence of symbols: a keyword is a token, any other symbol stands for the next
one of the lists of tokens. -/
def tokensOf : List Symbol → List (List String) → List String
  | [], _ => []
  | s :: rest, tokens =>
    if s.isTerminal then s.name :: tokensOf rest tokens
    else tokens.headD [] ++ tokensOf rest tokens.tail

/-- The keywords of a grammar are words. -/
def Grammar.KeywordsAreWords (g : Grammar) : Prop :=
  ∀ r ∈ g.records, ∀ names ∈ r.productions, ∀ name ∈ names, g.roleOf name = .terminal →
    Text.IsWord name

theorem Grammar.KeywordsAreWords.of_mem_alternatives {g : Grammar} (h : g.KeywordsAreWords)
    {symbol : String} {p : Production} (hp : p ∈ g.alternatives symbol) :
    ∀ s ∈ p.symbols, s.isTerminal = true → Text.IsWord s.name := by
  intro s hs hterminal
  obtain ⟨r, hr, -, names, hnames, rfl⟩ := exists_of_mem_alternatives hp
  obtain ⟨name, hname, rfl⟩ := List.mem_map.mp hs
  exact h r hr names hnames name hname (beq_iff_eq.mp hterminal)

section Words

variable {symbols : List Symbol}
  (h : ∀ s ∈ symbols, s.isTerminal = true → Text.IsWord s.name)

include h

/-- The words of an alternative are its keywords and the words of its slots. -/
theorem flatMap_words_wordsOf (texts : List String) :
    (wordsOf symbols texts).flatMap Text.words = tokensOf symbols (texts.map Text.words) := by
  induction symbols generalizing texts with
  | nil => rfl
  | cons s rest ih =>
    obtain ⟨hs, hrest⟩ := List.forall_mem_cons.mp h
    rw [wordsOf, tokensOf]
    split
    next hterminal =>
      rw [List.flatMap_cons, Text.words_of_isWord (hs hterminal), List.singleton_append,
        ih hrest]
    next =>
      rw [List.flatMap_cons, ih hrest, List.map_tail]
      cases texts with
      | nil => rw [List.headD_nil, Text.words_empty]; rfl
      | cons t texts => rfl

/-- The texts of an alternative have no other blanks than spaces if those of its slots do not. -/
theorem isSpaced_of_mem_wordsOf {texts : List String} (htexts : ∀ t ∈ texts, Text.IsSpaced t) :
    ∀ w ∈ wordsOf symbols texts, Text.IsSpaced w := by
  induction symbols generalizing texts with
  | nil => exact fun _ hw => absurd hw List.not_mem_nil
  | cons s rest ih =>
    obtain ⟨hs, hrest⟩ := List.forall_mem_cons.mp h
    rw [wordsOf]
    split
    next hterminal => exact List.forall_mem_cons.mpr ⟨(hs hterminal).isSpaced, ih hrest htexts⟩
    next =>
      refine List.forall_mem_cons.mpr
        ⟨?_, ih hrest fun t ht => htexts t (List.mem_of_mem_tail ht)⟩
      cases texts with
      | nil => exact fun _ hc => absurd hc List.not_mem_nil
      | cons t texts => exact htexts t (List.mem_cons_self ..)

end Words

namespace Derivation

mutual

/-- The keywords and values of a tree from left to right. -/
def frontier (g : Grammar) : Derivation → List String
  | leaf _ s => [s]
  | choice s i parts =>
    match (g.alternatives (g.startSymbol s))[i]? with
    | some p => tokensOf p.symbols (frontiersOf g parts)
    | none => []

/-- The frontiers of several trees. -/
def frontiersOf (g : Grammar) : List Derivation → List (List String)
  | [] => []
  | t :: rest => t.frontier g :: frontiersOf g rest

end

theorem frontiersOf_eq_map (g : Grammar) :
    (ts : List Derivation) → frontiersOf g ts = ts.map (frontier g)
  | [] => rfl
  | t :: rest => by rw [frontiersOf, frontiersOf_eq_map g rest, List.map_cons]

theorem frontier_choice {g : Grammar} {s : String} {i : Nat} {p : Production}
    {parts : List Derivation} (hp : (g.alternatives (g.startSymbol s))[i]? = some p) :
    (choice s i parts).frontier g = tokensOf p.symbols (parts.map (frontier g)) := by
  rw [frontier, hp, frontiersOf_eq_map]

/-- **The words of a derivation tree** are its frontier, and its text has no other blanks than
spaces. -/
theorem words_text {g : Grammar} (hg : g.KeywordsAreWords) {t : Derivation} (ht : t.ValidFor g) :
    Text.words (t.text g) = t.frontier g ∧ Text.IsSpaced (t.text g) := by
  induction t with
  | leaf s text =>
    cases ht with
    | leaf _ haccepts =>
      have hword := ValueKind.isWord_of_accepts haccepts
      exact ⟨Text.words_of_isWord hword, hword.isSpaced⟩
  | choice s i parts ih =>
    obtain ⟨p, hp, hparts⟩ : ∃ p, (g.alternatives (g.startSymbol s))[i]? = some p ∧
        ∀ t ∈ parts, t.ValidFor g := by
      cases ht with
      | choice hp _ hparts => exact ⟨_, hp, hparts⟩
    have hkeywords := hg.of_mem_alternatives (List.mem_of_getElem? hp)
    rw [text_choice hp, frontier_choice hp, Text.words_intercalate, Production.words]
    constructor
    · rw [flatMap_words_wordsOf hkeywords, List.map_map]
      exact congrArg _ (List.map_congr_left fun t ht => (ih t ht (hparts t ht)).1)
    · refine Text.isSpaced_intercalate (isSpaced_of_mem_wordsOf hkeywords ?_)
      exact List.forall_mem_map.mpr fun t ht => (ih t ht (hparts t ht)).2

end Derivation

/-! ### Valid lines -/

namespace RenderContext

variable {ctx : RenderContext}

/-- A command of an item has the name of the command of the item or of one of its dependents. -/
theorem exists_named_command_of_item {entry : LayoutCommand} {path : Path} {c : CommandForm}
    (h : c ∈ (ctx.item entry path).1.commands) : ∃ entry' path',
      entry'.name ∈ entry.name :: entry.dependents ∧ c = (ctx.command entry' path').1 := by
  by_cases hrepeated : entry.isRepeated = true
  · rw [item_of_isRepeated _ hrepeated] at h
    rcases List.mem_append.mp h with h | h
    · obtain ⟨i, -, rfl⟩ := exists_of_mem_instances _ h
      exact ⟨{ entry with repeatLimit := none }, _, List.mem_cons_self .., rfl⟩
    · obtain ⟨i, name, -, hi, rfl⟩ := exists_of_mem_dependents _ h
      exact ⟨{ name := name, inline := true }, _,
        List.mem_cons_of_mem _ (List.mem_of_getElem? hi), rfl⟩
  · rw [item_of_not_isRepeated _ hrepeated] at h
    exact ⟨entry, path, List.mem_cons_self .., List.mem_singleton.mp h⟩

/-- **The words of a valid line** are the name of its command and the frontier of the tree that is
shown. -/
theorem words_line_of_valid (hg : ctx.grammar.KeywordsAreWords) {entry : LayoutCommand}
    (hname : Text.IsWord entry.name) {path : Path}
    (hvalid : (ctx.command entry path).1.line.valid = true) :
    ∃ t, (ctx.command entry path).1.root.Shows ctx.grammar t ∧
      Text.words (ctx.command entry path).1.line.text = entry.name :: t.frontier ctx.grammar ∧
      Text.IsSpaced (ctx.command entry path).1.line.text := by
  obtain ⟨t, ht⟩ := Renderer.exists_shows_of_valid (r := ctx.renderer entry.name entry.inline)
    _ _ _ _ _ hvalid
  obtain ⟨hwords, hspaced⟩ := Derivation.words_text hg ht.valid
  have hline : (ctx.command entry path).1.line.text =
      entry.name ++ " " ++ t.text ctx.grammar := congrArg (entry.name ++ " " ++ ·) ht.text.symm
  refine ⟨t, ht, ?_, ?_⟩
  · rw [hline, Text.words_append_blank, Text.words_of_isWord hname, hwords, List.singleton_append]
  · rw [hline]
    exact Text.isSpaced_append_blank hname.isSpaced hspaced

end RenderContext

namespace Assembler

/-- The names of the commands of a form and of the keywords in its grammars are words. -/
structure NamesAreWords (a : Assembler) : Prop where
  commands : ∀ e ∈ a.entries, ∀ name ∈ e.2.name :: e.2.dependents, Text.IsWord name
  keywords : ∀ g ∈ a.grammars, g.KeywordsAreWords

end Assembler

/-! ### The shipped catalogue -/

/-- Further alternatives of words leave the keywords words, if their symbol has some already. -/
theorem Grammar.KeywordsAreWords.of_extendRecords {g g' : Grammar} (h : g.KeywordsAreWords)
    {symbol : String} {productions : List (List String)}
    (hrecords : g'.records = extendRecords g.records symbol productions)
    (hsymbol : isExpanded g.records symbol = true)
    (hnew : ∀ names ∈ productions, ∀ name ∈ names, Text.IsWord name) : g'.KeywordsAreWords := by
  intro r hr names hnames name hname hrole
  rw [hrecords] at hr
  rcases mem_productions_of_extendRecords hsymbol hr hnames with ⟨r₀, hr₀, hold⟩ | hadded
  · refine h r₀ hr₀ names hold name hname ?_
    rwa [roleOf_eq, hrecords, isExpanded_extendRecords productions hsymbol, ← roleOf_eq] at hrole
  · exact hnew names hadded name hname

namespace Shipped

/-- A character whose bytes are printable is printable itself. -/
theorem toNat_of_utf8EncodeChar {c : Char}
    (h : ∀ b ∈ String.utf8EncodeChar c, 33 ≤ b.toNat ∧ b.toNat ≤ 126) :
    33 ≤ c.toNat ∧ c.toNat ≤ 126 := by
  have hlast : (String.utf8EncodeChar c).getLast? = some (UInt8.ofNat
      (if c.toNat ≤ 127 then c.toNat else c.toNat % 64 + 128)) := by
    unfold String.utf8EncodeChar
    change (if c.toNat ≤ 127 then _ else _ : List UInt8).getLast? = _
    split
    next => rfl
    next => split_ifs <;> rfl
  have hbyte := h _ (List.mem_of_getLast? hlast)
  rw [UInt8.toNat_ofNat'] at hbyte
  split at hbyte <;> omega

/-- Whether a name is made of printable characters of ASCII other than the space.  Its bytes are
looked at, since a long list of names is checked and decoding them takes much longer. -/
def isPrintableName (s : String) : Bool :=
  s != "" && s.toByteArray.data.toList.all fun b => Nat.ble 33 b.toNat && Nat.ble b.toNat 126

theorem isWord_of_isPrintableName {s : String} (h : isPrintableName s = true) :
    Text.IsWord s := by
  simp only [isPrintableName, Bool.and_eq_true, bne_iff_ne, List.all_eq_true, Nat.ble_eq] at h
  obtain ⟨hne, hbytes⟩ := h
  refine ⟨hne, fun c hc => ?_⟩
  obtain ⟨hlow, hhigh⟩ := toNat_of_utf8EncodeChar (c := c) fun b hb => hbytes b <| by
    rw [← String.utf8Encode_toList, List.utf8Encode]
    simpa using ⟨c, hc, hb⟩
  exact Text.isBlank_of_toNat hlow hhigh

/-- Each name in the alternatives of the shipped catalogue is printable or stands for something
else. -/
private theorem all_printable : (records.all fun r => r.productions.all fun names =>
    names.all fun name => isPrintableName name || (ValueKind.ofPlaceholder? name).isSome ||
      isExpanded records name) = true := by
  decide +kernel

theorem keywordsAreWords_grammar : grammar.KeywordsAreWords := by
  intro r hr names hnames name hname hrole
  have hchecked := List.all_eq_true.mp
    (List.all_eq_true.mp (List.all_eq_true.mp all_printable r hr) names hnames) name hname
  rw [Bool.or_eq_true, Bool.or_eq_true] at hchecked
  rw [Grammar.roleOf_eq] at hrole
  rcases hchecked with (hprintable | hleaf) | hexpanded
  · exact isWord_of_isPrintableName hprintable
  · obtain ⟨kind, hkind⟩ := Option.isSome_iff_exists.mp hleaf
    rw [hkind] at hrole
    exact nomatch hrole
  · have hexpanded' : isExpanded grammar.records name = true := hexpanded
    rw [hexpanded'] at hrole
    split at hrole <;> exact nomatch hrole

/-- The names of the commands in the shipped catalogue are printable. -/
private theorem all_printable_sections : (sections.all fun s => s.commands.all fun entry =>
    (entry.name :: entry.dependents).all isPrintableName) = true := by
  decide +kernel

/-- **The names of the shipped catalogue are words**, in every section. -/
theorem namesAreWords_form (source : Option FilePath) (options : FormOptions) :
    (form source options).NamesAreWords := by
  constructor
  · intro e he
    obtain ⟨s, hs, hentry⟩ := List.mem_flatMap.mp (Assembler.mem_of_mem_entries he).2
    exact fun name hname => isWord_of_isPrintableName <| List.all_eq_true.mp
      (List.all_eq_true.mp (List.all_eq_true.mp all_printable_sections s hs) e.2 hentry) name hname
  · have hstatistics : statisticsGrammar.KeywordsAreWords :=
      keywordsAreWords_grammar.of_extendRecords rfl isExpanded_reduceType (by decide)
    intro g hg
    simp only [form, List.mem_cons, List.not_mem_nil, or_false] at hg
    rcases hg with rfl | rfl | rfl | rfl | rfl
    exacts [keywordsAreWords_grammar, keywordsAreWords_grammar, keywordsAreWords_grammar,
      hstatistics, hstatistics]

end Shipped

/-! ### Valid documents -/

namespace Assembler

/-- **The words of valid lines.**  The names of the shipped catalogue are words.  In every form
whose names are words, for every state, the words of a valid line are the name of its command and
then the frontier of the derivation tree that its node shows.  So the text of a valid document with
at least one line has exactly its lines between the line breaks. -/
theorem words_of_valid :
    (∀ source c options a notices, Shipped.catalogue source = .ok c →
      ofCatalogue c options = .ok (a, notices) → a.NamesAreWords) ∧
    ∀ (a : Assembler) (digest : String → String) (state : FormState) (d : Document)
      (notices : List Notice), a.NamesAreWords → a.assemble digest state = .ok (d, notices) →
      (∀ (k : Nat) (item : FormItem), d.items[k]? = some item → ∃ e, a.entries[k]? = some e ∧
        ∀ c ∈ item.commands, c.line.valid = true → ∃ t, c.root.Shows e.1 t ∧
          Text.words c.line.text = c.name :: t.frontier e.1) ∧
      d.lines = d.commands.map (·.line) ∧
      (d.valid = true → d.lines ≠ [] →
        (d.text.split '\n').toList.map (·.copy) = d.lines.map (·.text)) := by
  refine ⟨fun source c options a notices hc ha => ?_, fun a digest state d notices ha h => ?_⟩
  · cases (Shipped.catalogue_eq source options).symm.trans hc
    obtain ⟨_, hready⟩ := Shipped.exists_ofCatalogue source options
    cases hready.symm.trans ha
    exact Shipped.namesAreWords_form source options
  · have hline (k : Nat) (item : FormItem) (hitem : d.items[k]? = some item) :
        ∃ e, a.entries[k]? = some e ∧ ∀ c ∈ item.commands, c.line.valid = true →
          ∃ t, c.root.Shows e.1 t ∧ Text.words c.line.text = c.name :: t.frontier e.1 ∧
            Text.IsSpaced c.line.text := by
      obtain ⟨e, he, rfl⟩ := exists_entry_of_items h hitem
      refine ⟨e, he, fun c hc hvalid => ?_⟩
      obtain ⟨entry, path, hname, rfl⟩ := RenderContext.exists_named_command_of_item hc
      have hmem := List.mem_of_getElem? he
      exact RenderContext.words_line_of_valid (ha.keywords _ (mem_of_mem_entries hmem).1)
        (ha.commands e hmem _ hname) hvalid
    refine ⟨fun k item hitem => ?_, d.lines_eq_map_commands, fun hvalid hne => ?_⟩
    · obtain ⟨e, he, hcommands⟩ := hline k item hitem
      refine ⟨e, he, fun c hc hc' => ?_⟩
      obtain ⟨t, ht, hwords, -⟩ := hcommands c hc hc'
      exact ⟨t, ht, hwords⟩
    · have hspaced : ∀ s ∈ d.lines.map (·.text), '\n' ∉ s.toList := by
        rw [d.lines_eq_map_commands, List.map_map]
        refine List.forall_mem_map.mpr fun c hc => ?_
        obtain ⟨item, hitem, hc'⟩ := List.mem_flatMap.mp hc
        obtain ⟨k, hk⟩ := List.getElem?_of_mem hitem
        obtain ⟨e, -, hcommands⟩ := hline k item hk
        have hcvalid : c.line.valid = true := by
          rw [Document.valid, d.lines_eq_map_commands, List.all_map, List.all_eq_true] at hvalid
          exact hvalid c hc
        obtain ⟨t, -, -, hblank⟩ := hcommands c hc' hcvalid
        exact hblank.newline_notMem
      refine (String.toList_split_intercalate hspaced).trans (if_neg ?_)
      rwa [List.map_eq_nil_iff]

/-- The grammar of shapes. -/
def shapeGrammar : Grammar where
  records :=
    [{ name := "draw", productions := [["<color>", "size", "<integer value>"]] },
      { name := "<color>", productions := [["red"], []] }]
  faultless := by decide

/-- A form for any number of shapes, whose color may be left out. -/
def shapeForm : Assembler where
  catalogue :=
    { name := .string "shapes"
      title := .string "Shapes"
      description := .string ""
      grammar := shapeGrammar
      sections :=
        [{ title := "Shapes", commands := [{ name := "draw", repeatLimit := some (-1) }] }]
      source := none }
  options := {}
  grammars := [shapeGrammar]

/-- Two shapes, the first one without a color. -/
def twoShapes : FormState :=
  [(controlKey blankDigest "draw" [1] .count, "2"),
    (widgetKey blankDigest "draw" "<color>" [1, 1, 1], "1"),
    (widgetKey blankDigest "draw" "<integer value>" [1, 1, 2], "4"),
    (widgetKey blankDigest "draw" "<color>" [1, 2, 1], "0"),
    (widgetKey blankDigest "draw" "<integer value>" [1, 2, 2], "7")]

theorem words_of_valid_twoShapes : ∃ d notices, shapeForm.NamesAreWords ∧
    shapeForm.assemble blankDigest twoShapes = .ok (d, notices) ∧
    (∃ item ∈ d.items, ∃ c ∈ item.commands, c.line.valid = true ∧
      c.line.text = "draw  size 4" ∧ Text.words c.line.text = ["draw", "size", "4"]) ∧
    d.valid = true ∧
    (d.text.split '\n').toList.map (·.copy) = ["draw  size 4", "draw red size 7"] := by
  have hnames : shapeForm.NamesAreWords := by
    refine ⟨by decide, fun g hg => ?_⟩
    cases List.mem_singleton.mp hg
    exact (by decide : ∀ r ∈ shapeGrammar.records, ∀ names ∈ r.productions, ∀ name ∈ names,
      shapeGrammar.roleOf name = .terminal → Text.IsWord name)
  have h : shapeForm.assemble blankDigest twoShapes = .ok (_, _) := rfl
  obtain ⟨hwords, -, hsplit⟩ := words_of_valid.2 shapeForm blankDigest twoShapes _ _ hnames h
  obtain ⟨e, he, hcommands⟩ := hwords 0 _ rfl
  cases he
  obtain ⟨t, ht, htext⟩ := hcommands _ (List.mem_of_getElem? (i := 0) rfl) rfl
  cases ht.tree
  exact ⟨_, _, hnames, h, ⟨_, List.mem_of_getElem? (i := 0) rfl, _,
    List.mem_of_getElem? (i := 0) rfl, rfl, rfl, htext⟩, rfl, hsplit rfl (List.cons_ne_nil _ _)⟩

end Assembler

end GrammarForm
