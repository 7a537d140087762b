import GrammarForm.Form.Group
import GrammarForm.Form.Renderer
import Mathlib.Data.List.DropRight
import Mathlib.Data.List.Basic
import Mathlib.Tactic.IntervalCases

/-!
# Numerals in forms

Indices of alternatives and counters of groups travel through a form as decimal numerals.  The
numeral of a number is canonical, denotes that number, and is read back from a form as that
number, as long as it keeps within the digits that a form reads.

## Main results

* `Decimal.value_toDigits`, `Decimal.signedValue_toString` : a numeral denotes its number.
* `Renderer.submittedIndex_toString` : a submitted index is read back.
* `submittedCount_toString` : a submitted counter is read back.
-/

namespace GrammarForm

namespace Decimal

/-! ### Numerals of natural numbers -/

/-- The numeral of a number denotes it. -/
theorem value_toDigits (n : Nat) : value (Nat.toDigits 10 n) = n :=
  Nat.ofDigitChars_ten_toDigits

theorem all_isDigit_toDigits (n : Nat) : (Nat.toDigits 10 n).all Char.isDigit = true :=
  List.all_eq_true.mpr fun _ hc => Nat.isDigit_of_mem_toDigits (by decide) (by decide) hc

theorem isPositive_append {cs ds : List Char} (hc : isPositive cs = true)
    (hd : ds.all Char.isDigit = true) : isPositive (cs ++ ds) = true := by
  cases cs with
  | nil => exact absurd hc Bool.false_ne_true
  | cons c cs =>
    simp only [isPositive, List.cons_append, List.all_append, Bool.and_eq_true] at hc ⊢
    exact ⟨hc.1, hc.2, hd⟩

/-- The numeral of a positive number has no leading zero. -/
theorem isPositive_toDigits {n : Nat} (hn : 0 < n) : isPositive (Nat.toDigits 10 n) = true := by
  induction n using Nat.strong_induction_on with
  | _ n ih =>
    by_cases h : n < 10
    · rw [Nat.toDigits_of_lt_base h]
      interval_cases n <;> decide
    · rw [Nat.toDigits_of_base_le (by decide) (not_lt.mp h)]
      refine isPositive_append (ih (n / 10) (by omega) (by omega)) ?_
      rw [← Nat.toDigits_of_lt_base (Nat.mod_lt n (by decide))]
      exact all_isDigit_toDigits _

theorem isNatural_toDigits (n : Nat) : isNatural (Nat.toDigits 10 n) = true := by
  rcases Nat.eq_zero_or_pos n with rfl | hn
  · rfl
  · rw [isNatural, isPositive_toDigits hn, Bool.or_true]

/-! ### Numerals of integers -/

/-- The numeral of an integer has a minus sign exactly if the integer is negative. -/
theorem toList_toString_int (i : Int) :
    (toString i).toList =
      if 0 ≤ i then Nat.toDigits 10 i.toNat else '-' :: Nat.toDigits 10 (-i).toNat := by
  rw [Int.toString_eq_repr, Int.repr_eq_if]
  split <;> simp

theorem notMem_toDigits_of_not_isDigit {c : Char} (hc : c.isDigit = false) (n : Nat) :
    c ∉ Nat.toDigits 10 n := fun h =>
  Bool.false_ne_true (hc ▸ List.all_eq_true.mp (all_isDigit_toDigits n) c h)

theorem toList_toString_ne_nil (i : Int) : (toString i).toList ≠ [] := by
  rw [toList_toString_int]
  split <;> simp

/-- A number is written with digits and a minus sign. -/
theorem notMem_toString {c : Char} (hdigit : c.isDigit = false) (hminus : c ≠ '-') (i : Int) :
    c ∉ (toString i).toList := by
  rw [toList_toString_int]
  split
  next => exact notMem_toDigits_of_not_isDigit hdigit _
  next =>
    rw [List.mem_cons, not_or]
    exact ⟨hminus, notMem_toDigits_of_not_isDigit hdigit _⟩

/-- Digits are not read as a sign. -/
theorem signedValue_toDigits (n : Nat) : signedValue (Nat.toDigits 10 n) = n := by
  have hminus : '-' ∉ Nat.toDigits 10 n := notMem_toDigits_of_not_isDigit rfl n
  conv_rhs => rw [← value_toDigits n]
  unfold signedValue
  split
  next heq => rw [heq] at hminus; exact absurd (List.mem_cons_self ..) hminus
  next => rfl

/-- The numeral of an integer denotes it. -/
theorem signedValue_toString (i : Int) : signedValue (toString i).toList = i := by
  rw [toList_toString_int]
  split
  next h => rw [signedValue_toDigits, Int.toNat_of_nonneg h]
  next h =>
    rw [signedValue, value_toDigits]
    omega

theorem isInteger_toDigits (n : Nat) : isInteger (Nat.toDigits 10 n) = true := by
  have hminus : '-' ∉ Nat.toDigits 10 n := notMem_toDigits_of_not_isDigit rfl n
  unfold isInteger
  split
  next heq => rw [heq] at hminus; exact absurd (List.mem_cons_self ..) hminus
  next => exact isNatural_toDigits n

theorem isInteger_toString (i : Int) : isInteger (toString i).toList = true := by
  rw [toList_toString_int]
  split
  next => exact isInteger_toDigits _
  next h => exact isPositive_toDigits (by omega)

/-- Different integers have different numerals. -/
theorem toString_int_injective : Function.Injective (toString : Int → String) := by
  intro i j h
  rw [← signedValue_toString i, ← signedValue_toString j, h]

end Decimal

/-! ### Numerals that a form accepts -/

namespace ValueKind

/-- The numeral of a number of at most `digitLimit` digits is an accepted natural number. -/
theorem nonnegativeInteger_accepts_repr {n : Nat} (hn : n < 10 ^ digitLimit) :
    nonnegativeInteger.accepts n.repr = true := by
  have hlength : (Nat.toDigits 10 n).length ≤ digitLimit :=
    (Nat.length_toDigits_le_iff (by decide) (by decide)).mpr hn
  simp only [accepts, isShortNatural, Nat.toList_repr, Decimal.isNatural_toDigits, Bool.true_and,
    decide_eq_true_eq]
  exact hlength

/-- The numeral of an integer is accepted as an integer exactly if it fits 64 bits. -/
theorem integer_accepts_toString (i : Int) :
    integer.accepts (toString i) = Decimal.fitsInt64 i := by
  simp only [accepts, isInt64, Decimal.readInteger, Decimal.isInteger_toString,
    Decimal.signedValue_toString, if_true]

end ValueKind

namespace Text

/-- A printable character of ASCII other than the space is no blank. -/
theorem isBlank_of_toNat {c : Char} (hlow : 33 ≤ c.toNat) (hhigh : c.toNat ≤ 126) :
    isBlank c = false := by
  simp only [isBlank, isWhiteSpace, Bool.or_eq_false_iff, Bool.and_eq_false_iff,
    decide_eq_false_iff_not, beq_eq_false_iff_ne]
  omega

theorem isBlank_of_isDigit {c : Char} (hc : c.isDigit = true) : isBlank c = false := by
  rw [Char.isDigit_iff_toNat] at hc
  obtain ⟨h₀, h₉⟩ := hc
  change 48 ≤ c.toNat at h₀
  change c.toNat ≤ 57 at h₉
  exact isBlank_of_toNat (by omega) (by omega)

/-- A text without blanks has none to trim. -/
theorem trim_eq_self {s : String} (h : ∀ c ∈ s.toList, isBlank c = false) : trim s = s := by
  have hdrop : ∀ cs : List Char, (∀ c ∈ cs, isBlank c = false) → cs.dropWhile isBlank = cs := by
    intro cs hcs
    cases cs with
    | nil => rfl
    | cons c cs => rw [List.dropWhile_cons_of_neg (by simp [hcs c (List.mem_cons_self ..)])]
  rw [trim, trimChars, hdrop _ h, hdrop _ fun c hc => h c (List.mem_reverse.mp hc),
    List.reverse_reverse, String.ofList_toList]

theorem trim_repr (n : Nat) : trim n.repr = n.repr := by
  refine trim_eq_self fun c hc => isBlank_of_isDigit ?_
  rw [Nat.toList_repr] at hc
  exact Nat.isDigit_of_mem_toDigits (by decide) (by decide) hc

end Text

namespace Renderer

/-- **A submitted index is read back**, if it is in range and has at most `digitLimit` digits. -/
theorem submittedIndex_toString {i count : Nat} (hi : i < count)
    (hlimit : i < 10 ^ ValueKind.digitLimit) : submittedIndex (toString i) count = some i := by
  rw [Nat.toString_eq_repr, submittedIndex]
  simp only [Text.trim_repr, ValueKind.nonnegativeInteger_accepts_repr hlimit, Nat.toList_repr,
    Decimal.value_toDigits, hi, decide_true, Bool.and_self, if_true]

/-- What is submitted for an unresolved choice selects nothing. -/
theorem submittedIndex_unresolved (count : Nat) :
    submittedIndex (selectionText none) count = none := by
  have h : ValueKind.nonnegativeInteger.accepts (Text.trim (selectionText none)) = false := by
    decide
  simp [submittedIndex, h]

/-- A submitted text selects no index out of range. -/
theorem lt_of_submittedIndex {s : String} {count i : Nat} (h : submittedIndex s count = some i) :
    i < count := by
  simp only [submittedIndex, Option.ite_none_right_eq_some, Bool.and_eq_true,
    decide_eq_true_eq, Option.some.injEq] at h
  omega

end Renderer

/-! ### Counters -/

/-- **A submitted counter is read back**, if it fits 64 bits. -/
theorem submittedCount_toString {c : Int} (hc : Decimal.fitsInt64 c = true) :
    submittedCount (some (toString c)) = c := by
  simp only [submittedCount, Option.getD_some, ValueKind.integer_accepts_toString, hc, if_true,
    Decimal.signedValue_toString]

end GrammarForm
