import GrammarForm.Text.Blank

/-!
# Canonical decimal numerals

A natural number is written without leading zeros, an integer additionally with a minus sign
when it is negative; `-0` and a plus sign are not canonical.  The recognisers work on lists of
ASCII characters, the readers return the number that a canonical numeral denotes.

## Main definitions

* `Decimal.isNatural`, `Decimal.isInteger` : the canonical numerals.
* `Decimal.value` : the number that a list of digits denotes.
* `Decimal.readInteger` : the integer that a canonical numeral denotes.
* `Decimal.padded` : a number with a fixed number of digits.
-/

namespace GrammarForm.Decimal

/-- The number denoted by the digit `c`. -/
def digit (c : Char) : Nat :=
  c.toNat - '0'.toNat

/-- The number denoted by a list of digits, the most significant one first. -/
def value (ds : List Char) : Nat :=
  ds.foldl (fun n c => 10 * n + digit c) 0

/-- A numeral of a positive number without leading zeros. -/
def isPositive : List Char → Bool
  | [] => false
  | c :: cs => c.isDigit && c != '0' && cs.all Char.isDigit

/-- A numeral of a natural number without leading zeros. -/
def isNatural (cs : List Char) : Bool :=
  cs == ['0'] || isPositive cs

/-- A numeral of an integer without leading zeros, plus sign or `-0`. -/
def isInteger : List Char → Bool
  | '-' :: cs => isPositive cs
  | cs => isNatural cs

/-- The integer denoted by digits with an optional minus sign. -/
def signedValue : List Char → Int
  | '-' :: cs => -(value cs : Int)
  | cs => value cs

/-- The integer that a canonical numeral denotes; nothing for any other text. -/
def readInteger (cs : List Char) : Option Int :=
  if isInteger cs then some (signedValue cs) else none

/-- Whether an integer fits a signed 64-bit word. -/
def fitsInt64 (n : Int) : Bool :=
  decide (-9223372036854775808 ≤ n) && decide (n ≤ 9223372036854775807)

/-- A number with zeros in front up to a number of digits. -/
def padded (width n : Nat) : String :=
  let s := toString n
  String.ofList (List.replicate (width - s.length) '0') ++ s

end GrammarForm.Decimal
