import GrammarForm.Proofs.Numeral

/-!
# Accepted integers

The fields for integers accept the numerals of the integers in their ranges and nothing else.  A
text of digits without a leading zero is the numeral of the number that it denotes, so a canonical
text is the numeral of exactly one integer.  The bound on the number of digits is a bound on the
number, and a number that is written into a form is the number that is read from it.

## Main definitions

* `Decimal.IsCanonical` : digits without a leading zero, with a minus sign before a negative number.

## Main results

* `Decimal.toDigits_value` : digits without a leading zero are the numeral of their value.
* `Decimal.isInteger_iff_exists_toString` : the recognised integers are the numerals.
* `ValueKind.integer_accepts_iff`, `ValueKind.positiveInteger_accepts_iff`,
  `ValueKind.nonnegativeInteger_accepts_iff` : what the fields for integers accept.
* `ValueKind.accepts_iff_existsUnique` : the accepted integers, and how they are read.
-/

namespace GrammarForm

namespace Decimal

/-! ### Digits without a leading zero -/

/-- A digit is written with its own character. -/
theorem digitChar_digit {c : Char} (hc : c.isDigit = true) : (digit c).digitChar = c := by
  obtain ⟨hlow, hhigh⟩ := Char.isDigit_iff_toNat.mp hc
  change 48 ≤ c.toNat at hlow
  change c.toNat ≤ 57 at hhigh
  have hdigit : digit c = c.toNat - 48 := rfl
  apply Char.toNat_inj.mp
  rw [hdigit, Nat.toNat_digitChar_of_lt_ten (by omega)]
  omega

theorem digit_lt_ten {c : Char} (hc : c.isDigit = true) : digit c < 10 := by
  obtain ⟨-, hhigh⟩ := Char.isDigit_iff_toNat.mp hc
  change c.toNat ≤ 57 at hhigh
  change c.toNat - 48 < 10
  omega

theorem value_append_singleton (ds : List Char) (c : Char) :
    value (ds ++ [c]) = 10 * value ds + digit c := by
  rw [value, List.foldl_append, List.foldl_cons, List.foldl_nil, value]

/-- **Digits without a leading zero are the numeral of their value.** -/
theorem toDigits_value {ds : List Char} (h : isPositive ds = true) :
    0 < value ds ∧ Nat.toDigits 10 (value ds) = ds := by
  -- The last digit is the remainder by ten, and the digits before it are those of the quotient.
  induction ds using List.reverseRecOn with
  | nil => exact nomatch h
  | append_singleton ds c ih =>
    cases ds with
    | nil =>
      simp only [isPositive, List.nil_append, Bool.and_eq_true, bne_iff_ne, List.all_nil] at h
      obtain ⟨⟨hc, hzero⟩, -⟩ := h
      have hdigit : digit c ≠ 0 := fun h0 => hzero (by rw [← digitChar_digit hc, h0]; rfl)
      have hvalue : value ([] ++ [c]) = digit c := by
        rw [value_append_singleton]
        simp [value]
      rw [hvalue, Nat.toDigits_of_lt_base (digit_lt_ten hc), digitChar_digit hc]
      exact ⟨Nat.pos_of_ne_zero hdigit, rfl⟩
    | cons d ds =>
      simp only [isPositive, List.cons_append, List.all_append, List.all_cons, List.all_nil,
        Bool.and_eq_true] at h
      obtain ⟨⟨hd, hzero⟩, hds, hc, -⟩ := h
      obtain ⟨hpos, hnumeral⟩ := ih (by simp only [isPositive, hd, hzero, hds, Bool.and_self])
      have hlt := digit_lt_ten hc
      rw [value_append_singleton]
      refine ⟨by omega, ?_⟩
      rw [← Nat.toDigits_append_toDigits (by decide) hpos hlt, hnumeral,
        Nat.toDigits_of_lt_base hlt, digitChar_digit hc]

/-- The recognised positive numbers are the numerals. -/
theorem isPositive_iff {ds : List Char} :
    isPositive ds = true ↔ ∃ n, 0 < n ∧ ds = Nat.toDigits 10 n := by
  constructor
  · intro h
    obtain ⟨hpos, hnumeral⟩ := toDigits_value h
    exact ⟨_, hpos, hnumeral.symm⟩
  · rintro ⟨n, hn, rfl⟩
    exact isPositive_toDigits hn

/-- The recognised natural numbers are the numerals. -/
theorem isNatural_iff {ds : List Char} : isNatural ds = true ↔ ∃ n, ds = Nat.toDigits 10 n := by
  constructor
  · intro h
    rw [isNatural, Bool.or_eq_true, beq_iff_eq] at h
    rcases h with rfl | h
    · exact ⟨0, rfl⟩
    · obtain ⟨n, -, hn⟩ := isPositive_iff.mp h
      exact ⟨n, hn⟩
  · rintro ⟨n, rfl⟩
    exact isNatural_toDigits n

/-! ### Canonical texts -/

/-- A canonical text consists of ASCII digits, which begin with a zero only if it is the only digit,
and perhaps a minus sign before them, if they are not this zero. -/
def IsCanonical (s : String) : Prop :=
  ∃ ds : List Char, ds ≠ [] ∧ (∀ c ∈ ds, c.isDigit = true) ∧ (ds.head? = some '0' → ds = ['0']) ∧
    (s.toList = ds ∨ s.toList = '-' :: ds ∧ ds ≠ ['0'])

theorem isPositive_iff_head? {ds : List Char} : isPositive ds = true ↔
    ds ≠ [] ∧ (∀ c ∈ ds, c.isDigit = true) ∧ ds.head? ≠ some '0' := by
  cases ds with
  | nil => simp [isPositive]
  | cons c ds => simp [isPositive, and_right_comm, and_assoc]

/-- The recognised natural numbers begin with a zero only if it is the only digit. -/
theorem isNatural_iff_head? {ds : List Char} : isNatural ds = true ↔
    ds ≠ [] ∧ (∀ c ∈ ds, c.isDigit = true) ∧ (ds.head? = some '0' → ds = ['0']) := by
  rw [isNatural, Bool.or_eq_true, beq_iff_eq, isPositive_iff_head?]
  constructor
  · rintro (rfl | ⟨hne, hdigits, hhead⟩)
    · exact ⟨List.cons_ne_nil _ _, List.forall_mem_singleton.mpr rfl, fun _ => rfl⟩
    · exact ⟨hne, hdigits, fun h => absurd h hhead⟩
  · rintro ⟨hne, hdigits, hhead⟩
    by_cases h : ds.head? = some '0'
    · exact .inl (hhead h)
    · exact .inr ⟨hne, hdigits, h⟩

theorem isInteger_of_forall_isDigit {ds : List Char} (h : ∀ c ∈ ds, c.isDigit = true) :
    isInteger ds = isNatural ds := by
  unfold isInteger
  split
  next => exact absurd (h '-' (List.mem_cons_self ..)) (by decide)
  next => rfl

/-- **The recognised integers are the canonical texts.** -/
theorem isInteger_iff_isCanonical {s : String} : isInteger s.toList = true ↔ IsCanonical s := by
  constructor
  · intro h
    unfold isInteger at h
    split at h
    next ds hs =>
      obtain ⟨hne, hdigits, hhead⟩ := isPositive_iff_head?.mp h
      refine ⟨ds, hne, hdigits, fun hzero => absurd hzero hhead, .inr ⟨hs, ?_⟩⟩
      rintro rfl
      exact hhead rfl
    next =>
      obtain ⟨hne, hdigits, hhead⟩ := isNatural_iff_head?.mp h
      exact ⟨_, hne, hdigits, hhead, .inl rfl⟩
  · rintro ⟨ds, hne, hdigits, hhead, hs | ⟨hs, hzero⟩⟩
    · rw [hs, isInteger_of_forall_isDigit hdigits]
      exact isNatural_iff_head?.mpr ⟨hne, hdigits, hhead⟩
    · rw [hs]
      exact isPositive_iff_head?.mpr ⟨hne, hdigits, fun h => hzero (hhead h)⟩

/-- A natural number has the same numeral as an integer. -/
theorem toString_toNat {n : Int} (hn : 0 ≤ n) : toString n.toNat = toString n := by
  refine String.toList_inj.mp ?_
  rw [toList_toString_int, if_pos hn, Nat.toString_eq_repr, Nat.toList_repr]

theorem eq_toString_natCast_iff {s : String} {n : Nat} :
    s = toString (n : Int) ↔ s.toList = Nat.toDigits 10 n := by
  rw [← String.toList_inj, toList_toString_int, if_pos (Int.natCast_nonneg n), Int.toNat_natCast]

/-- **The recognised integers are the numerals.** -/
theorem isInteger_iff_exists_toString {s : String} :
    isInteger s.toList = true ↔ ∃ n : Int, s = toString n := by
  constructor
  · intro h
    unfold isInteger at h
    split at h
    next ds hs =>
      obtain ⟨n, hn, rfl⟩ := isPositive_iff.mp h
      refine ⟨-n, String.toList_inj.mp ?_⟩
      rw [hs, toList_toString_int, if_neg (by omega), neg_neg, Int.toNat_natCast]
    next =>
      obtain ⟨n, hn⟩ := isNatural_iff.mp h
      exact ⟨n, eq_toString_natCast_iff.mpr hn⟩
  · rintro ⟨n, rfl⟩
    exact isInteger_toString n

/-- **A canonical text is the numeral of exactly one integer.** -/
theorem isCanonical_iff_existsUnique {s : String} :
    IsCanonical s ↔ ∃! n : Int, s = toString n := by
  rw [← isInteger_iff_isCanonical, isInteger_iff_exists_toString]
  refine ⟨fun ⟨n, hn⟩ => ⟨n, hn, fun m hm => ?_⟩, ExistsUnique.exists⟩
  exact toString_int_injective (hm.symm.trans hn)

theorem fitsInt64_iff {n : Int} : fitsInt64 n = true ↔ -2 ^ 63 ≤ n ∧ n ≤ 2 ^ 63 - 1 := by
  rw [fitsInt64, Bool.and_eq_true, decide_eq_true_eq, decide_eq_true_eq]
  norm_num

end Decimal

/-! ### The fields for integers -/

namespace ValueKind

variable {s : String}

/-- The field for integers accepts the numerals of the integers of 64 bits. -/
theorem integer_accepts_iff : integer.accepts s = true ↔
    ∃ n : Int, Decimal.fitsInt64 n = true ∧ s = toString n := by
  constructor
  · intro h
    have hinteger : Decimal.isInteger s.toList = true := by
      by_contra hnot
      simp [accepts, isInt64, Decimal.readInteger, hnot] at h
    obtain ⟨n, rfl⟩ := Decimal.isInteger_iff_exists_toString.mp hinteger
    exact ⟨n, integer_accepts_toString n ▸ h, rfl⟩
  · rintro ⟨n, hn, rfl⟩
    rwa [integer_accepts_toString]

/-- A numeral has at most `digitLimit` digits exactly if its number is small enough. -/
theorem length_toDigits_le_digitLimit_iff {n : Nat} :
    (Nat.toDigits 10 n).length ≤ digitLimit ↔ n ≤ 10 ^ 19 - 1 := by
  rw [Nat.length_toDigits_le_iff (by decide) (by decide), digitLimit]
  omega

/-- What recognises the numerals of all numbers from a bound on recognises, up to `digitLimit`
digits, those of a range. -/
theorem short_iff_exists_toString (low : Nat) {recognises : List Char → Bool}
    (h : ∀ ds, recognises ds = true ↔ ∃ n, low ≤ n ∧ ds = Nat.toDigits 10 n) :
    (recognises s.toList && decide (s.toList.length ≤ digitLimit)) = true ↔
      ∃ n : Int, (low ≤ n ∧ n ≤ 10 ^ 19 - 1) ∧ s = toString n := by
  rw [Bool.and_eq_true, decide_eq_true_eq, h]
  constructor
  · rintro ⟨⟨n, hlow, hs⟩, hlength⟩
    rw [hs, length_toDigits_le_digitLimit_iff] at hlength
    exact ⟨n, by omega, Decimal.eq_toString_natCast_iff.mpr hs⟩
  · rintro ⟨n, ⟨hlow, hhigh⟩, rfl⟩
    rw [Decimal.toList_toString_int, if_pos (by omega), length_toDigits_le_digitLimit_iff]
    exact ⟨⟨n.toNat, by omega, rfl⟩, by omega⟩

/-- The field for positive integers accepts the numerals of the positive numbers of at most 19
digits. -/
theorem positiveInteger_accepts_iff : positiveInteger.accepts s = true ↔
    ∃ n : Int, (1 ≤ n ∧ n ≤ 10 ^ 19 - 1) ∧ s = toString n :=
  short_iff_exists_toString 1 fun _ => Decimal.isPositive_iff

/-- The field for natural numbers accepts the numerals of the numbers of at most 19 digits. -/
theorem nonnegativeInteger_accepts_iff : nonnegativeInteger.accepts s = true ↔
    ∃ n : Int, (0 ≤ n ∧ n ≤ 10 ^ 19 - 1) ∧ s = toString n :=
  short_iff_exists_toString 0 fun ds => by
    simp only [Nat.zero_le, true_and]
    exact Decimal.isNatural_iff

/-- A text is the numeral of at most one integer. -/
theorem existsUnique_toString_iff {P : Int → Prop} :
    (∃! n : Int, P n ∧ s = toString n) ↔ ∃ n : Int, P n ∧ s = toString n := by
  refine ⟨ExistsUnique.exists, fun ⟨n, hn, hs⟩ => ⟨n, ⟨hn, hs⟩, fun m hm => ?_⟩⟩
  exact Decimal.toString_int_injective (hm.2.symm.trans hs)

/-- **Accepted integers.** A text is canonical exactly if it is the numeral of an integer, which is
then the only one.  The fields for integers, positive integers and natural numbers accept exactly
the numerals of the integers in their ranges.

The number that is read from a numeral is the one that it is the numeral of.  So a counter and an
index that are submitted as numerals are read back, the counter if it fits into 64 bits, the index
if it is one of an alternative and has at most 19 digits. -/
theorem accepts_iff_existsUnique (s : String) :
    (Decimal.IsCanonical s ↔ ∃! n : Int, s = toString n) ∧
    (integer.accepts s = true ↔ ∃! n : Int, (-2 ^ 63 ≤ n ∧ n ≤ 2 ^ 63 - 1) ∧ s = toString n) ∧
    (positiveInteger.accepts s = true ↔
      ∃! n : Int, (1 ≤ n ∧ n ≤ 10 ^ 19 - 1) ∧ s = toString n) ∧
    (nonnegativeInteger.accepts s = true ↔
      ∃! n : Int, (0 ≤ n ∧ n ≤ 10 ^ 19 - 1) ∧ s = toString n) ∧
    ∀ n : Int, s = toString n →
      Decimal.signedValue s.toList = n ∧ (0 ≤ n → (Decimal.value s.toList : Int) = n) ∧
      (-2 ^ 63 ≤ n → n ≤ 2 ^ 63 - 1 → submittedCount (some s) = n) ∧
      ∀ count : Nat, 0 ≤ n → n ≤ 10 ^ 19 - 1 → n < count →
        Renderer.submittedIndex s count = some n.toNat := by
  refine ⟨Decimal.isCanonical_iff_existsUnique, ?_, ?_, ?_, ?_⟩
  · simp only [existsUnique_toString_iff, integer_accepts_iff, Decimal.fitsInt64_iff]
  · rw [existsUnique_toString_iff, positiveInteger_accepts_iff]
  · rw [existsUnique_toString_iff, nonnegativeInteger_accepts_iff]
  · rintro n rfl
    refine ⟨Decimal.signedValue_toString n, fun hn => ?_, fun hlow hhigh => ?_,
      fun count hn hle hlt => ?_⟩
    · rw [Decimal.toList_toString_int, if_pos hn, Decimal.value_toDigits, Int.toNat_of_nonneg hn]
    · exact submittedCount_toString (Decimal.fitsInt64_iff.mpr ⟨hlow, hhigh⟩)
    · rw [← Decimal.toString_toNat hn]
      exact Renderer.submittedIndex_toString (by omega) (by rw [digitLimit]; omega)

/-- Not all texts that denote a number are accepted, and the bounds of an integer differ in size. -/
example : (["0", "-0", "+1", "01", " 1", "-9223372036854775808", "9223372036854775808"].map
    integer.accepts) = [true, false, false, false, false, true, false] := by
  decide

end ValueKind

end GrammarForm
