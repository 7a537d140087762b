import GrammarForm.Proofs.AcceptedIntegers

/-!
# Decimal and scientific notation

A field for decimal numbers accepts numbers in decimal or scientific notation.  Such a number is a
mantissa with or without an exponent.  The mantissa is the numeral of an integer, or it has a point,
with a numeral or nothing in front of it and any digits behind it, but a digit somewhere.  The
exponent is the numeral of an integer other than zero after a mark.

The notations are given as trees with their texts.  A recogniser that looks for the mark first and
for the point next accepts exactly these texts: no mark stands in a mantissa, and no point in a
numeral.

## Main definitions

* `Decimal.PointedNumeral`, `Decimal.Mantissa`, `Decimal.Exponent`, `Decimal.FloatNumeral` : the
  notations and their texts.

## Main results

* `ValueKind.isPointed_iff`, `ValueKind.isMantissa_iff`, `ValueKind.isExponent_iff` : what is
  recognised of a number.
* `ValueKind.float_accepts_iff` : what the field for decimal numbers accepts.
-/

namespace GrammarForm

namespace Decimal

/-! ### Notations -/

/-- A number that is written with a point: a minus sign or none, a natural number or nothing in
front of the point, and digits behind it, with a digit on at least one side. -/
structure PointedNumeral where
  negative : Bool
  whole : Option Nat
  places : List Char
  isDigit_places : ∀ c ∈ places, c.isDigit = true
  hasDigit : whole.isSome = true ∨ places ≠ []

/-- The text of a number with a point. -/
def PointedNumeral.text (p : PointedNumeral) : String :=
  (if p.negative then "-" else "") ++ p.whole.elim "" toString ++ "." ++ String.ofList p.places

/-- A number without an exponent. -/
inductive Mantissa where
  | integer (n : Int)
  | pointed (p : PointedNumeral)

/-- The text of a number without an exponent. -/
def Mantissa.text : Mantissa → String
  | integer n => toString n
  | pointed p => p.text

/-- An exponent with its mark, which is a capital or a small letter. -/
structure Exponent where
  capital : Bool
  value : Int
  value_ne_zero : value ≠ 0

/-- The text of an exponent. -/
def Exponent.text (e : Exponent) : String :=
  (if e.capital then "E" else "e") ++ toString e.value

/-- A number in decimal or scientific notation. -/
structure FloatNumeral where
  mantissa : Mantissa
  exponent : Option Exponent := none

/-- The text of a number. -/
def FloatNumeral.text (x : FloatNumeral) : String :=
  x.mantissa.text ++ x.exponent.elim "" Exponent.text

/-- The digits in front of a point. -/
def wholeDigits (whole : Option Nat) : List Char :=
  whole.elim [] (Nat.toDigits 10)

theorem isDigit_of_mem_wholeDigits {whole : Option Nat} {c : Char} (hc : c ∈ wholeDigits whole) :
    c.isDigit = true := by
  cases whole with
  | none => exact absurd hc List.not_mem_nil
  | some n => exact List.all_eq_true.mp (all_isDigit_toDigits n) c hc

theorem PointedNumeral.toList_text (p : PointedNumeral) : p.text.toList =
    (if p.negative then ['-'] else []) ++ (wholeDigits p.whole ++ '.' :: p.places) := by
  obtain ⟨negative, whole, places⟩ := p
  cases negative <;> cases whole <;> simp [text, wholeDigits, Nat.toString_eq_repr]

theorem Exponent.toList_text (e : Exponent) :
    e.text.toList = (if e.capital then 'E' else 'e') :: (toString e.value).toList := by
  rw [text, String.toList_append]
  cases e.capital <;> rfl

/-- A number without an exponent is written with digits, a minus sign and a point. -/
theorem Mantissa.notMem_text {c : Char} (hdigit : c.isDigit = false) (hminus : c ≠ '-')
    (hpoint : c ≠ '.') (m : Mantissa) : c ∉ m.text.toList := by
  have hne {d : Char} (hd : d.isDigit = true) : c ≠ d := fun h =>
    Bool.false_ne_true (hdigit.symm.trans (h ▸ hd))
  cases m with
  | integer n => exact notMem_toString hdigit hminus n
  | pointed p =>
    rw [text, p.toList_text, List.mem_append, List.mem_append, List.mem_cons]
    rintro (hc | hc | rfl | hc)
    · split at hc
      · exact hminus (List.mem_singleton.mp hc)
      · exact List.not_mem_nil hc
    · exact hne (isDigit_of_mem_wholeDigits hc) rfl
    · exact hpoint rfl
    · exact hne (p.isDigit_places c hc) rfl

end Decimal

namespace ValueKind

open Decimal

/-! ### Parts of a number -/

/-- What is recognised as a number with a point and without a sign. -/
theorem isPointed_iff {cs : List Char} : isPointed cs = true ↔
    ∃ whole places, (∀ c ∈ places, c.isDigit = true) ∧ (whole.isSome = true ∨ places ≠ []) ∧
      cs = wholeDigits whole ++ '.' :: places := by
  constructor
  · intro h
    simp only [isPointed] at h
    split at h
    next => exact nomatch h
    next c places hrest =>
      have hpoint : c = '.' := by
        have hhead := List.head?_dropWhile_not (· != '.') cs
        rw [hrest] at hhead
        simpa using hhead
      obtain ⟨hplaces, hwhole⟩ := (Bool.and_eq_true _ _).mp h
      have hcs : cs.takeWhile (· != '.') ++ '.' :: places = cs := by
        conv_rhs => rw [← List.takeWhile_append_dropWhile (p := (· != '.')) (l := cs), hrest, hpoint]
      split at hwhole
      next hempty =>
        rw [List.isEmpty_iff.mp hempty] at hcs
        exact ⟨none, places, List.all_eq_true.mp hplaces, .inr (by simpa using hwhole), hcs.symm⟩
      next =>
        obtain ⟨n, hn⟩ := isNatural_iff.mp hwhole
        rw [hn] at hcs
        exact ⟨some n, places, List.all_eq_true.mp hplaces, .inl rfl, hcs.symm⟩
  · rintro ⟨whole, places, hplaces, hdigit, rfl⟩
    have hpass : ∀ c ∈ wholeDigits whole, (c != '.') = true := by
      intro c hc
      refine bne_iff_ne.mpr ?_
      rintro rfl
      exact absurd (isDigit_of_mem_wholeDigits hc) (by decide)
    simp only [isPointed, List.takeWhile_append_of_pos hpass, List.dropWhile_append_of_pos hpass,
      List.takeWhile_cons_of_neg, List.dropWhile_cons_of_neg, bne_self_eq_false,
      Bool.false_eq_true, not_false_eq_true, List.append_nil, Bool.and_eq_true]
    refine ⟨List.all_eq_true.mpr hplaces, ?_⟩
    cases whole with
    | none => simpa [wholeDigits] using hdigit
    | some n =>
      have hne : (Nat.toDigits 10 n).isEmpty = false := by
        rw [List.isEmpty_eq_false_iff, ← List.length_pos_iff]
        exact Nat.length_toDigits_pos
      simp only [wholeDigits, Option.elim, hne, Bool.false_eq_true, if_false]
      exact isNatural_toDigits n

/-- What is recognised as a number without an exponent. -/
theorem isMantissa_iff {cs : List Char} :
    isMantissa cs = true ↔ ∃ m : Mantissa, cs = m.text.toList := by
  unfold isMantissa
  rw [Bool.or_eq_true]
  constructor
  · rintro (h | h)
    · rw [← String.toList_ofList (l := cs), isInteger_iff_exists_toString] at h
      obtain ⟨n, hn⟩ := h
      exact ⟨.integer n, by rw [Mantissa.text, ← hn, String.toList_ofList]⟩
    · split at h
      next rest =>
        obtain ⟨whole, places, hplaces, hdigit, rfl⟩ := isPointed_iff.mp h
        exact ⟨.pointed ⟨true, whole, places, hplaces, hdigit⟩,
          by rw [Mantissa.text, PointedNumeral.toList_text]; rfl⟩
      next =>
        obtain ⟨whole, places, hplaces, hdigit, rfl⟩ := isPointed_iff.mp h
        exact ⟨.pointed ⟨false, whole, places, hplaces, hdigit⟩,
          by rw [Mantissa.text, PointedNumeral.toList_text]; rfl⟩
  · rintro ⟨m, rfl⟩
    cases m with
    | integer n => exact .inl (isInteger_toString n)
    | pointed p =>
      right
      have hpointed : isPointed (wholeDigits p.whole ++ '.' :: p.places) = true :=
        isPointed_iff.mpr ⟨_, _, p.isDigit_places, p.hasDigit, rfl⟩
      rw [Mantissa.text, p.toList_text]
      cases p.negative with
      | true => exact hpointed
      | false =>
        -- Without a sign the first character is a digit or the point.
        rw [if_neg Bool.false_ne_true, List.nil_append]
        split
        next rest hsign =>
          exfalso
          cases hwhole : wholeDigits p.whole with
          | nil => rw [hwhole] at hsign; exact absurd (List.cons.inj hsign).1 (by decide)
          | cons c ds =>
            rw [hwhole] at hsign
            have hc : c.isDigit = true :=
              isDigit_of_mem_wholeDigits (by rw [hwhole]; exact List.mem_cons_self ..)
            rw [(List.cons.inj hsign).1] at hc
            exact absurd hc (by decide)
        next => exact hpointed

/-- What is recognised as the number of an exponent. -/
theorem isExponent_iff {cs : List Char} :
    isExponent cs = true ↔ ∃ n : Int, n ≠ 0 ∧ cs = (toString n).toList := by
  constructor
  · intro h
    unfold isExponent at h
    split at h
    next ds =>
      obtain ⟨n, hn, rfl⟩ := isPositive_iff.mp h
      refine ⟨-n, by omega, ?_⟩
      rw [toList_toString_int, if_neg (by omega), neg_neg, Int.toNat_natCast]
    next =>
      obtain ⟨n, hn, rfl⟩ := isPositive_iff.mp h
      refine ⟨n, by omega, ?_⟩
      rw [toList_toString_int, if_pos (by omega), Int.toNat_natCast]
  · rintro ⟨n, hn, rfl⟩
    rw [toList_toString_int]
    split
    next h =>
      have hpositive : isPositive (Nat.toDigits 10 n.toNat) = true :=
        isPositive_toDigits (by omega)
      unfold isExponent
      split
      next ds hsign =>
        exact absurd (hsign ▸ List.mem_cons_self ..) (notMem_toDigits_of_not_isDigit rfl n.toNat)
      next => exact hpositive
    next => exact isPositive_toDigits (by omega)

/-! ### Numbers -/

theorem isExponentMark_iff {c : Char} : isExponentMark c = true ↔ c = 'e' ∨ c = 'E' := by
  rw [isExponentMark, Bool.or_eq_true, beq_iff_eq, beq_iff_eq]

/-- What is recognised as a number. -/
theorem isFloat_iff {s : String} :
    isFloat s.toList = true ↔ ∃ x : FloatNumeral, s = x.text := by
  unfold isFloat
  rw [Bool.and_eq_true, isMantissa_iff]
  constructor
  · rintro ⟨⟨m, hm⟩, h⟩
    have hs := List.takeWhile_append_dropWhile (p := (!isExponentMark ·)) (l := s.toList)
    rw [hm] at hs
    split at h
    next hrest =>
      rw [hrest, List.append_nil] at hs
      exact ⟨⟨m, none⟩, by rw [FloatNumeral.text, ← String.toList_inj, ← hs]; simp⟩
    next c ds hrest =>
      obtain ⟨n, hn, rfl⟩ := isExponent_iff.mp h
      have hmark : isExponentMark c = true := by
        have hhead := List.head?_dropWhile_not (!isExponentMark ·) s.toList
        rw [hrest] at hhead
        simpa using hhead
      rw [hrest] at hs
      refine ⟨⟨m, some ⟨c == 'E', n, hn⟩⟩, String.toList_inj.mp (hs.symm.trans ?_)⟩
      rw [FloatNumeral.text, String.toList_append, Option.elim, Exponent.toList_text]
      rcases isExponentMark_iff.mp hmark with rfl | rfl <;> rfl
  · rintro ⟨⟨m, e⟩, rfl⟩
    have hpass : ∀ c ∈ m.text.toList, (!isExponentMark c) = true := by
      intro c hc
      rw [Bool.not_eq_true', ← Bool.not_eq_true, isExponentMark_iff]
      rintro (rfl | rfl) <;> exact m.notMem_text (by decide) (by decide) (by decide) hc
    rw [FloatNumeral.text, String.toList_append, List.takeWhile_append_of_pos hpass,
      List.dropWhile_append_of_pos hpass]
    cases e with
    | none => exact ⟨⟨m, by simp⟩, by simp⟩
    | some e =>
      have hmark : isExponentMark (if e.capital then 'E' else 'e') = true := by
        cases e.capital <;> rfl
      rw [Option.elim, e.toList_text, List.takeWhile_cons_of_neg (by rw [hmark]; decide),
        List.dropWhile_cons_of_neg (by rw [hmark]; decide), List.append_nil]
      exact ⟨⟨m, rfl⟩, isExponent_iff.mpr ⟨e.value, e.value_ne_zero, rfl⟩⟩

/-- A numeral of an integer is accepted as a number. -/
theorem float_accepts_toString (n : Int) : float.accepts (toString n) = true :=
  isFloat_iff.mpr ⟨⟨.integer n, none⟩, String.append_empty.symm⟩

/-- **Accepted numbers.** The field for decimal numbers accepts exactly the texts of the numbers in
decimal or scientific notation.  In particular it accepts what the fields for integers accept. -/
theorem float_accepts_iff (s : String) :
    (float.accepts s = true ↔ ∃ x : FloatNumeral, s = x.text) ∧
    ((integer.accepts s = true ∨ positiveInteger.accepts s = true ∨
      nonnegativeInteger.accepts s = true) → float.accepts s = true) := by
  refine ⟨isFloat_iff, fun h => ?_⟩
  rw [integer_accepts_iff, positiveInteger_accepts_iff, nonnegativeInteger_accepts_iff] at h
  rcases h with ⟨n, -, rfl⟩ | ⟨n, -, rfl⟩ | ⟨n, -, rfl⟩ <;> exact float_accepts_toString n

/-- A zero has a sign only with a point, and an exponent is never zero. -/
example : (["-0.", ".5e-3", "0e5", "-0", ".", "1e0"].map float.accepts) =
    [true, true, true, false, false, false] := by
  decide

end ValueKind

end GrammarForm
