import GrammarForm.Html.Basic
import GrammarForm.Entries
import Mathlib.Data.List.Basic

/-!
# Reading a page

A browser reads a page character by character.  It finds the tags with their attributes; what
stands between two tags opens none.  In the values of attributes, references to characters are
resolved.

A page is written so that nothing in its texts and values is taken for markup: `<` is escaped, so
that no text opens a tag, and quotes are escaped, so that no value ends before its end.  So the
tags that are read are those of the tree that was written, with the values from before escaping,
whatever the texts and values are.

## Main definitions

* `Html.Tag`, `Html.readTags` : the tags that are read from a text.
* `Html.tags` : the tags of a tree.
* `Html.IsWellFormed` : trees whose names are words and whose raw texts open no tag.

## Main results

* `Html.unescape_escape` : escaping is undone by reading.
* `Html.readTags_write` : the tags of a written tree are read again.
-/

namespace GrammarForm

namespace Html

/-! ### The tags of a text -/

/-- A tag.  An attribute without a value is a switch. -/
inductive Tag where
  | opening (name : String) (attributes : Entries (Option String))
  | closing (name : String)
deriving DecidableEq, Repr

/-- The text that is meant by an escaped one. -/
def unescape : List Char → List Char
  | '&' :: 'a' :: 'm' :: 'p' :: ';' :: rest => '&' :: unescape rest
  | '&' :: 'l' :: 't' :: ';' :: rest => '<' :: unescape rest
  | '&' :: 'g' :: 't' :: ';' :: rest => '>' :: unescape rest
  | '&' :: '#' :: '3' :: '9' :: ';' :: rest => '\'' :: unescape rest
  | '&' :: '#' :: '3' :: '4' :: ';' :: rest => '"' :: unescape rest
  | c :: rest => c :: unescape rest
  | [] => []

/-- What was read of a tag: its name, after a slash if the tag is a closing one, and the
attributes. -/
structure TagSoFar where
  name : List Char
  attributes : Entries (Option String) := []

namespace TagSoFar

/-- The tag with one more attribute. -/
def add (t : TagSoFar) (name : List Char) (value : Option (List Char)) : TagSoFar :=
  { t with
    attributes :=
      t.attributes ++ [(String.ofList name, value.map fun v => String.ofList (unescape v))] }

/-- The tag when its end was read. -/
def tag (t : TagSoFar) : Tag :=
  match t.name with
  | '/' :: name => .closing (String.ofList name)
  | name => .opening (String.ofList name) t.attributes

end TagSoFar

/-- Where a reader stands in a page. -/
inductive Position where
  /-- Between two tags. -/
  | content
  /-- In the name of a tag. -/
  | name (read : List Char)
  /-- Inside a tag, before an attribute or the end. -/
  | gap (t : TagSoFar)
  /-- In the name of an attribute. -/
  | label (t : TagSoFar) (read : List Char)
  /-- Before the value of an attribute. -/
  | value (t : TagSoFar) (name : List Char)
  /-- In a value that ends with the quote it began with. -/
  | quoted (t : TagSoFar) (name : List Char) (quote : Char) (read : List Char)
  /-- In a value without quotes. -/
  | bare (t : TagSoFar) (name : List Char) (read : List Char)

/-- Where a reader stands after one more character, with the tag that ends there. -/
def Position.next : Position → Char → Position × Option Tag
  | content, c => if c = '<' then (name [], none) else (content, none)
  | name read, c =>
    if c = '>' then (content, some (TagSoFar.mk read []).tag)
    else if c.isWhitespace then (gap ⟨read, []⟩, none)
    else (name (read ++ [c]), none)
  | gap t, c =>
    if c = '>' then (content, some t.tag)
    else if c.isWhitespace then (gap t, none)
    else (label t [c], none)
  | label t read, c =>
    if c = '>' then (content, some (t.add read none).tag)
    else if c = '=' then (value t read, none)
    else if c.isWhitespace then (gap (t.add read none), none)
    else (label t (read ++ [c]), none)
  | value t word, c =>
    if c = '>' then (content, some (t.add word (some [])).tag)
    else if c = '"' ∨ c = '\'' then (quoted t word c [], none)
    else if c.isWhitespace then (value t word, none)
    else (bare t word [c], none)
  | quoted t word quote read, c =>
    if c = quote then (gap (t.add word (some read)), none)
    else (quoted t word quote (read ++ [c]), none)
  | bare t word read, c =>
    if c = '>' then (content, some (t.add word (some read)).tag)
    else if c.isWhitespace then (gap (t.add word (some read)), none)
    else (bare t word (read ++ [c]), none)

/-- The tags that are read from a position on. -/
def readFrom : Position → List Char → List Tag
  | _, [] => []
  | p, c :: rest => (p.next c).2.toList ++ readFrom (p.next c).1 rest

/-- The tags of a page. -/
def readTags (page : String) : List Tag :=
  readFrom .content page.toList

/-! ### The tags of a tree -/

/-- An attribute as it is read: its name with its value. -/
def Attribute.entry (a : Attribute) : String × Option String :=
  (a.name, a.value)

mutual

/-- The tags of a tree in their order. -/
def tags : Html → List Tag
  | text _ => []
  | reference _ => []
  | raw _ => []
  | element name attributes content =>
    .opening name (attributes.map (·.entry)) :: (tagsOf content ++ [.closing name])
  | void name attributes => [.opening name (attributes.map (·.entry))]

/-- The tags of several trees. -/
def tagsOf : List Html → List Tag
  | [] => []
  | h :: rest => h.tags ++ tagsOf rest

end

/-- A word of letters, digits and hyphens. -/
def IsWord (s : String) : Prop :=
  s.toList ≠ [] ∧ ∀ c ∈ s.toList, c.isAlphanum = true ∨ c = '-'

instance (s : String) : Decidable (IsWord s) :=
  @instDecidableAnd _ _ inferInstance (List.decidableBAll _ s.toList)

/-- A text of blanks, at least one. -/
def IsGap (s : String) : Prop :=
  s.toList ≠ [] ∧ ∀ c ∈ s.toList, c.isWhitespace = true

instance (s : String) : Decidable (IsGap s) :=
  @instDecidableAnd _ _ inferInstance (List.decidableBAll _ s.toList)

/-- The name of the attribute is a word, and blanks stand before it. -/
structure Attribute.IsWellFormed (a : Attribute) : Prop where
  name : IsWord a.name
  gap : IsGap a.gap

/-- The names in a tree are words, and its raw texts open no tag. -/
inductive IsWellFormed : Html → Prop
  | text (s : String) : IsWellFormed (.text s)
  | reference {name : String} (h : '<' ∉ name.toList) : IsWellFormed (.reference name)
  | raw {s : String} (h : '<' ∉ s.toList) : IsWellFormed (.raw s)
  | element {name : String} {attributes : List Attribute} {content : List Html}
      (hname : IsWord name) (hattributes : ∀ a ∈ attributes, a.IsWellFormed)
      (hcontent : ∀ h ∈ content, IsWellFormed h) :
      IsWellFormed (.element name attributes content)
  | void {name : String} {attributes : List Attribute} (hname : IsWord name)
      (hattributes : ∀ a ∈ attributes, a.IsWellFormed) : IsWellFormed (.void name attributes)

theorem isGap_blank : IsGap " " := by
  decide

@[simp]
theorem isWellFormed_attr_iff {name value : String} :
    (attr name value).IsWellFormed ↔ IsWord name :=
  ⟨fun h => h.name, fun h => ⟨h, isGap_blank⟩⟩

@[simp]
theorem isWellFormed_attrAfter_iff {gap name value : String} :
    (attrAfter gap name value).IsWellFormed ↔ IsWord name ∧ IsGap gap :=
  ⟨fun h => ⟨h.name, h.gap⟩, fun h => ⟨h.1, h.2⟩⟩

theorem isWellFormed_of_mem_switch {on : Bool} {name : String} (h : IsWord name) :
    ∀ a ∈ switch on name, a.IsWellFormed := by
  intro a ha
  cases on with
  | true =>
    cases List.mem_singleton.mp ha
    exact ⟨h, isGap_blank⟩
  | false => exact absurd ha List.not_mem_nil

theorem tagsOf_eq_flatMap : (hs : List Html) → tagsOf hs = hs.flatMap tags
  | [] => rfl
  | h :: rest => by rw [tagsOf, tagsOf_eq_flatMap rest, List.flatMap_cons]

theorem writeAll_eq_flatMap : (hs : List Html) →
    (writeAll hs).toList = hs.flatMap fun h => h.write.toList
  | [] => rfl
  | h :: rest => by
    rw [writeAll, String.toList_append, writeAll_eq_flatMap rest, List.flatMap_cons]

/-! ### Escaped texts -/

theorem unescape_cons {c : Char} (h : c ≠ '&') (rest : List Char) :
    unescape (c :: rest) = c :: unescape rest := by
  rw [unescape] <;> rintro _ ⟨⟩ <;> exact absurd rfl h

/-- A character is read as it was before escaping. -/
theorem unescape_escapeChar (c : Char) (rest : List Char) :
    unescape (escapeChar c ++ rest) = c :: unescape rest := by
  unfold escapeChar
  split
  next h => rw [h]; rfl
  next hamp =>
    split
    next h => rw [h]; rfl
    next =>
      split
      next h => rw [h]; rfl
      next =>
        split
        next h => rw [h]; rfl
        next =>
          split
          next h => rw [h]; rfl
          next => exact unescape_cons hamp rest

/-- **Escaping is undone by reading.** -/
theorem unescape_escape (s : String) : unescape (escape s).toList = s.toList := by
  rw [escape, String.toList_ofList]
  induction s.toList with
  | nil => rfl
  | cons c rest ih => rw [List.flatMap_cons, unescape_escapeChar, ih]

/-- A character that opens a tag or ends a value does not stand in an escaped text. -/
theorem notMem_escape {c : Char} (hc : c = '<' ∨ c = '"') (s : String) :
    c ∉ (escape s).toList := by
  rw [escape, String.toList_ofList, List.mem_flatMap]
  rintro ⟨c', -, h⟩
  unfold escapeChar at h
  split_ifs at h <;> rcases hc with rfl | rfl <;> revert h <;> simp [Ne.symm, *]

/-! ### Reading what was written -/

section Reading

variable {t : TagSoFar} {rest s : List Char}

theorem readFrom_content (h : '<' ∉ s) :
    readFrom .content (s ++ rest) = readFrom .content rest := by
  induction s with
  | nil => rfl
  | cons c s ih =>
    rw [List.mem_cons, not_or] at h
    rw [List.cons_append, readFrom, Position.next, if_neg (Ne.symm h.1)]
    exact ih h.2

theorem readFrom_name (h : ∀ c ∈ s, c ≠ '>' ∧ c.isWhitespace = false) :
    ∀ read, readFrom (.name read) (s ++ rest) = readFrom (.name (read ++ s)) rest := by
  induction s with
  | nil => intro read; rw [List.append_nil, List.nil_append]
  | cons c s ih =>
    intro read
    obtain ⟨⟨hend, hblank⟩, hs⟩ := List.forall_mem_cons.mp h
    rw [List.cons_append, readFrom, Position.next, if_neg hend, hblank, if_neg Bool.false_ne_true]
    refine (ih hs (read ++ [c])).trans ?_
    rw [List.append_assoc, List.singleton_append]

theorem readFrom_gap (h : ∀ c ∈ s, c.isWhitespace = true) :
    readFrom (.gap t) (s ++ rest) = readFrom (.gap t) rest := by
  induction s with
  | nil => rfl
  | cons c s ih =>
    obtain ⟨hblank, hs⟩ := List.forall_mem_cons.mp h
    have hend : c ≠ '>' := fun heq => absurd (heq ▸ hblank) (by decide)
    rw [List.cons_append, readFrom, Position.next, if_neg hend, if_pos hblank]
    exact ih hs

theorem readFrom_label (h : ∀ c ∈ s, c ≠ '>' ∧ c ≠ '=' ∧ c.isWhitespace = false) :
    ∀ read, readFrom (.label t read) (s ++ rest) = readFrom (.label t (read ++ s)) rest := by
  induction s with
  | nil => intro read; rw [List.append_nil, List.nil_append]
  | cons c s ih =>
    intro read
    obtain ⟨⟨hend, hvalue, hblank⟩, hs⟩ := List.forall_mem_cons.mp h
    rw [List.cons_append, readFrom, Position.next, if_neg hend, if_neg hvalue, hblank,
      if_neg Bool.false_ne_true]
    refine (ih hs (read ++ [c])).trans ?_
    rw [List.append_assoc, List.singleton_append]

theorem readFrom_quoted {word : List Char} {quote : Char} (h : quote ∉ s) :
    ∀ read, readFrom (.quoted t word quote read) (s ++ quote :: rest) =
      readFrom (.gap (t.add word (some (read ++ s)))) rest := by
  induction s with
  | nil =>
    intro read
    rw [List.nil_append, readFrom, Position.next, if_pos rfl, List.append_nil]
    rfl
  | cons c s ih =>
    intro read
    rw [List.mem_cons, not_or] at h
    rw [List.cons_append, readFrom, Position.next, if_neg (Ne.symm h.1)]
    refine (ih h.2 (read ++ [c])).trans ?_
    rw [List.append_assoc, List.singleton_append]

end Reading

/-- A character of a word is no blank and no mark of a tag. -/
theorem IsWord.ne_marks {w : String} (hw : IsWord w) :
    ∀ c ∈ w.toList, c ≠ '>' ∧ c ≠ '=' ∧ c ≠ '/' ∧ c.isWhitespace = false := by
  intro c hc
  rcases hw.2 c hc with h | rfl
  · refine ⟨?_, ?_, ?_, ?_⟩
    · rintro rfl; exact absurd h (by decide)
    · rintro rfl; exact absurd h (by decide)
    · rintro rfl; exact absurd h (by decide)
    · rw [← Bool.not_eq_true]
      intro hblank
      simp only [Char.isWhitespace, Bool.or_eq_true, decide_eq_true_eq] at hblank
      rcases hblank with ((rfl | rfl) | rfl) | rfl <;> exact absurd h (by decide)
  · decide

/-- A position inside a tag at which so much of the tag was read: a blank goes on to the next
attribute, and the end of the tag gives the tag. -/
structure Position.Reaches (p : Position) (t : TagSoFar) : Prop where
  blank : ∀ c rest, c.isWhitespace = true → readFrom p (c :: rest) = readFrom (.gap t) rest
  stop : ∀ rest, readFrom p ('>' :: rest) = t.tag :: readFrom .content rest

theorem Position.reaches_name (read : List Char) : (name read).Reaches ⟨read, []⟩ where
  blank c rest hc := by
    have hend : c ≠ '>' := fun heq => absurd (heq ▸ hc) (by decide)
    rw [readFrom, next, if_neg hend, if_pos hc]
    rfl
  stop rest := rfl

theorem Position.reaches_gap (t : TagSoFar) : (gap t).Reaches t where
  blank c rest hc := by
    have hend : c ≠ '>' := fun heq => absurd (heq ▸ hc) (by decide)
    rw [readFrom, next, if_neg hend, if_pos hc]
    rfl
  stop rest := rfl

theorem Position.reaches_label (t : TagSoFar) (read : List Char) :
    (label t read).Reaches (t.add read none) where
  blank c rest hc := by
    have hend : c ≠ '>' := fun heq => absurd (heq ▸ hc) (by decide)
    have hvalue : c ≠ '=' := fun heq => absurd (heq ▸ hc) (by decide)
    rw [readFrom, next, if_neg hend, if_neg hvalue, if_pos hc]
    rfl
  stop rest := rfl

/-- The blanks before an attribute and its name are read. -/
theorem readFrom_name_of_reaches {p : Position} {t : TagSoFar} (hp : p.Reaches t) {a : Attribute}
    (ha : a.IsWellFormed) (rest : List Char) :
    readFrom p (a.gap.toList ++ (a.name.toList ++ rest)) =
      readFrom (.label t a.name.toList) rest := by
  obtain ⟨b, blanks, hgap⟩ := List.exists_cons_of_ne_nil ha.gap.1
  obtain ⟨c, word, hname⟩ := List.exists_cons_of_ne_nil ha.name.1
  have hblanks := ha.gap.2
  have hword := ha.name.ne_marks
  rw [hgap] at hblanks
  rw [hname] at hword
  obtain ⟨hb, hblanks⟩ := List.forall_mem_cons.mp hblanks
  obtain ⟨hc, hword⟩ := List.forall_mem_cons.mp hword
  rw [hgap, hname, List.cons_append, hp.blank b _ hb, readFrom_gap hblanks, List.cons_append,
    readFrom, Position.next, if_neg hc.1, hc.2.2.2, if_neg Bool.false_ne_true]
  exact readFrom_label (fun c hc => ⟨(hword c hc).1, (hword c hc).2.1, (hword c hc).2.2.2⟩) [c]

/-- The attribute that is added when its value was read as it was written. -/
theorem TagSoFar.add_entry (t : TagSoFar) (a : Attribute) :
    t.add a.name.toList (a.value.map fun v => (escape v).toList) =
      { t with attributes := t.attributes ++ [a.entry] } := by
  simp only [add, Option.map_map, Function.comp_def, unescape_escape, String.ofList_toList,
    Option.map_id_fun', id_eq, Attribute.entry]

/-- **An attribute is read as it was before it was written.** -/
theorem exists_reaches_attribute {p : Position} {t : TagSoFar} (hp : p.Reaches t) {a : Attribute}
    (ha : a.IsWellFormed) :
    ∃ p' : Position, p'.Reaches { t with attributes := t.attributes ++ [a.entry] } ∧
      ∀ rest, readFrom p (a.write.toList ++ rest) = readFrom p' rest := by
  rw [← t.add_entry a]
  cases hvalue : a.value with
  | none =>
    refine ⟨.label t a.name.toList, Position.reaches_label t _, fun rest => ?_⟩
    rw [Attribute.write, hvalue]
    simp only [String.toList_append, List.append_assoc]
    exact readFrom_name_of_reaches hp ha rest
  | some v =>
    refine ⟨.gap (t.add a.name.toList (some (escape v).toList)), Position.reaches_gap _,
      fun rest => ?_⟩
    have htext : a.write.toList ++ rest = a.gap.toList ++ (a.name.toList ++
        '=' :: '"' :: ((escape v).toList ++ '"' :: rest)) := by
      simp only [Attribute.write, hvalue, String.toList_append, List.append_assoc]
      rfl
    have hopen (l : List Char) : readFrom (.label t a.name.toList) ('=' :: '"' :: l) =
        readFrom (.quoted t a.name.toList '"' []) l := rfl
    have hvalue : '"' ∉ (escape v).toList := notMem_escape (Or.inr rfl) v
    rw [htext, readFrom_name_of_reaches hp ha, hopen, readFrom_quoted hvalue, List.nil_append]

theorem exists_reaches_attributes {attributes : List Attribute} :
    ∀ {p : Position} {t : TagSoFar}, p.Reaches t → (∀ a ∈ attributes, a.IsWellFormed) →
      ∃ p' : Position,
        p'.Reaches { t with attributes := t.attributes ++ attributes.map (·.entry) } ∧
        ∀ rest, readFrom p (attributes.flatMap (·.write.toList) ++ rest) = readFrom p' rest := by
  induction attributes with
  | nil =>
    intro p t hp _
    refine ⟨p, ?_, fun rest => rfl⟩
    rwa [List.map_nil, List.append_nil]
  | cons a attributes ih =>
    intro p t hp h
    obtain ⟨ha, hattributes⟩ := List.forall_mem_cons.mp h
    obtain ⟨q, hq, hread⟩ := exists_reaches_attribute hp ha
    obtain ⟨p', hp', hrest⟩ := ih hq hattributes
    refine ⟨p', ?_, fun rest => ?_⟩
    · rwa [List.append_assoc, List.singleton_append] at hp'
    · rw [List.flatMap_cons, List.append_assoc, hread, hrest]

/-- A name that is a word belongs to an opening tag. -/
theorem tag_of_isWord {name : String} (h : IsWord name)
    (attributes : Entries (Option String)) :
    (TagSoFar.mk name.toList attributes).tag = .opening name attributes := by
  rw [TagSoFar.tag]
  split
  next word heq =>
    have hname : name.toList = '/' :: word := heq
    have hslash := h.ne_marks '/' (by rw [hname]; exact List.mem_cons_self ..)
    exact absurd rfl hslash.2.2.1
  next => rw [String.ofList_toList]

/-- **An opening tag is read as it was before it was written.** -/
theorem readFrom_openingTag {name : String} {attributes : List Attribute} (hname : IsWord name)
    (hattributes : ∀ a ∈ attributes, a.IsWellFormed) (rest : List Char) :
    readFrom .content ((openingTag name attributes).toList ++ rest) =
      .opening name (attributes.map (·.entry)) :: readFrom .content rest := by
  obtain ⟨p, hp, hread⟩ :=
    exists_reaches_attributes (Position.reaches_name name.toList) hattributes
  have hword : ∀ c ∈ name.toList, c ≠ '>' ∧ c.isWhitespace = false := fun c hc =>
    ⟨(hname.ne_marks c hc).1, (hname.ne_marks c hc).2.2.2⟩
  have htext : (openingTag name attributes).toList ++ rest =
      '<' :: (name.toList ++ (attributes.flatMap (·.write.toList) ++ '>' :: rest)) := by
    simp only [openingTag, String.toList_append, String.toList_join, List.flatMap_map,
      List.append_assoc]
    rfl
  have hopen (l : List Char) : readFrom .content ('<' :: l) = readFrom (.name []) l := rfl
  rw [htext, hopen, readFrom_name hword, List.nil_append, hread, hp.stop, List.nil_append,
    tag_of_isWord hname]

theorem readFrom_closingTag {name : String} (hname : IsWord name) (rest : List Char) :
    readFrom .content (("</" ++ name ++ ">").toList ++ rest) =
      .closing name :: readFrom .content rest := by
  have hword : ∀ c ∈ name.toList, c ≠ '>' ∧ c.isWhitespace = false := fun c hc =>
    ⟨(hname.ne_marks c hc).1, (hname.ne_marks c hc).2.2.2⟩
  have htext : ("</" ++ name ++ ">").toList ++ rest =
      '<' :: '/' :: (name.toList ++ '>' :: rest) := by
    simp only [String.toList_append, List.append_assoc]
    rfl
  have hopen (l : List Char) : readFrom .content ('<' :: '/' :: l) = readFrom (.name ['/']) l := rfl
  have htag : (TagSoFar.mk ('/' :: name.toList) []).tag = .closing name :=
    congrArg Tag.closing String.ofList_toList
  rw [htext, hopen, readFrom_name hword, (Position.reaches_name _).stop, List.singleton_append,
    htag]

/-- **The tags of a written tree are read again**, whatever follows. -/
theorem IsWellFormed.readFrom_write {h : Html} (hwf : h.IsWellFormed) :
    ∀ rest, readFrom .content (h.write.toList ++ rest) = h.tags ++ readFrom .content rest := by
  induction hwf with
  | text s =>
    intro rest
    rw [write, tags, List.nil_append, readFrom_content (notMem_escape (Or.inl rfl) s)]
  | @reference name hname =>
    intro rest
    have hnot : '<' ∉ ("&" ++ name ++ ";").toList := by simp [String.toList_append, hname]
    rw [write, tags, List.nil_append, readFrom_content hnot]
  | raw hs =>
    intro rest
    rw [write, tags, List.nil_append, readFrom_content hs]
  | void hname hattributes =>
    intro rest
    rw [write, tags, readFrom_openingTag hname hattributes, List.singleton_append]
  | @element name attributes content hname hattributes hcontent ih =>
    intro rest
    have hcontent : ∀ rest, readFrom .content ((writeAll content).toList ++ rest) =
        tagsOf content ++ readFrom .content rest := by
      rw [tagsOf_eq_flatMap, writeAll_eq_flatMap]
      clear hcontent
      induction content with
      | nil => intro rest; rfl
      | cons x content ihs =>
        intro rest
        obtain ⟨hx, hrest⟩ := List.forall_mem_cons.mp ih
        rw [List.flatMap_cons, List.flatMap_cons, List.append_assoc, hx, ihs hrest,
          List.append_assoc]
    have htext : (write (.element name attributes content)).toList ++ rest =
        (openingTag name attributes).toList ++
          ((writeAll content).toList ++ (("</" ++ name ++ ">").toList ++ rest)) := by
      simp only [write, String.toList_append, List.append_assoc]
    rw [htext, readFrom_openingTag hname hattributes, hcontent, readFrom_closingTag hname, tags,
      List.cons_append, List.append_assoc, List.singleton_append]

/-- **The tags of a written page are those of its tree.** -/
theorem readTags_write {h : Html} (hwf : h.IsWellFormed) : readTags h.write = h.tags := by
  rw [readTags, ← List.append_nil h.write.toList, hwf.readFrom_write, readFrom, List.append_nil]

end Html

end GrammarForm
