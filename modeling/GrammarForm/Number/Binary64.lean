/-!
# Double precision numbers

A double precision number is kept as a sign, a natural significand and a binary exponent, so
that reading and rounding are exact arithmetic on natural numbers.

## Main definitions

* `Binary64` : finite numbers, the two infinities and the value that is not a number.
* `Binary64.ofRatio` : the number nearest to a quotient, a tie going to the even significand.
* `Binary64.ofDecimal` : the number nearest to a decimal numeral.
* `Binary64.toInt?` : the value of an integral number.
-/

namespace GrammarForm

/-- A double precision number.  A finite number is its significand times two to the power of its
exponent; `ofRatio` keeps the significand below `2 ^ 53` and the exponent at least `-1074`. -/
inductive Binary64 where
  | finite (negative : Bool) (significand : Nat) (exponent : Int)
  | infinite (negative : Bool)
  | notANumber
deriving DecidableEq, Repr, Inhabited

namespace Binary64

/-- The least exponent of a finite number. -/
def minExponent : Int := -1074

/-- The greatest exponent of a finite number. -/
def maxExponent : Int := 971

/-- The number of bits of a significand. -/
def precision : Nat := 53

/-- Zero with a sign. -/
def zero (negative : Bool) : Binary64 := finite negative 0 minExponent

/-- The natural number nearest to `num / den`; a half goes to the even neighbour. -/
def roundQuotient (num den : Nat) : Nat :=
  let q := num / den
  let r := num % den
  if 2 * r < den then q
  else if den < 2 * r then q + 1
  else if q % 2 = 0 then q else q + 1

/-- `num / den` divided by two to the power `e`, as a quotient of natural numbers. -/
def scaled (num den : Nat) (e : Int) : Nat × Nat :=
  if 0 ≤ e then (num, den * Nat.pow 2 e.toNat) else (num * Nat.pow 2 (-e).toNat, den)

/-- The exponent with which a positive quotient has a significand of full precision, or the least
exponent if that is greater. -/
def exponentFor (num den : Nat) : Int :=
  let guess : Int := (Nat.log2 num : Int) - Nat.log2 den - (precision - 1)
  let (n, d) := scaled num den guess
  let exact := if n / d < Nat.pow 2 (precision - 1) then guess - 1 else guess
  max exact minExponent

/-- A finite number with a significand of at most `2 ^ 53`, or infinity if the exponent is too
great. -/
def pack (negative : Bool) (significand : Nat) (exponent : Int) : Binary64 :=
  let (s, e) :=
    if significand = Nat.pow 2 precision then (Nat.pow 2 (precision - 1), exponent + 1)
    else (significand, exponent)
  if maxExponent < e then infinite negative else finite negative s e

/-- The number nearest to `num / den`, with a sign. -/
def ofRatio (negative : Bool) (num den : Nat) : Binary64 :=
  if num = 0 then zero negative
  else
    let e := exponentFor num den
    let (n, d) := scaled num den e
    pack negative (roundQuotient n d) e

/-- The number nearest to `digits * 10 ^ exponent`, with a sign.  Exponents far outside the range
of double precision are settled without computing the power. -/
def ofDecimal (negative : Bool) (digits : Nat) (exponent : Int) : Binary64 :=
  if digits = 0 then zero negative
  else
    let size : Int := (Nat.toDigits 10 digits).length
    if 310 < size + exponent then infinite negative
    else if size + exponent < -330 then zero negative
    else if 0 ≤ exponent then ofRatio negative (digits * Nat.pow 10 exponent.toNat) 1
    else ofRatio negative digits (Nat.pow 10 (-exponent).toNat)

/-- The number nearest to an integer. -/
def ofInt (n : Int) : Binary64 :=
  ofRatio (decide (n < 0)) n.natAbs 1

/-- The magnitude of a finite number as a quotient of natural numbers. -/
def ratio (significand : Nat) (exponent : Int) : Nat × Nat :=
  if 0 ≤ exponent then (significand * Nat.pow 2 exponent.toNat, 1)
  else (significand, Nat.pow 2 (-exponent).toNat)

/-- Whether a number is finite. -/
def isFinite : Binary64 → Bool
  | finite .. => true
  | _ => false

/-- Whether a number is zero. -/
def isZero : Binary64 → Bool
  | finite _ s _ => s == 0
  | _ => false

/-- The integer that a finite number without fraction is. -/
def toInt? : Binary64 → Option Int
  | finite negative s e =>
    let (n, d) := ratio s e
    if n % d = 0 then some (if negative then -((n / d : Nat) : Int) else (n / d : Nat)) else none
  | _ => none

/-- The integer part of a finite number, rounded toward zero. -/
def truncate : Binary64 → Option Int
  | finite negative s e =>
    let (n, d) := ratio s e
    some (if negative then -((n / d : Nat) : Int) else (n / d : Nat))
  | _ => none

/-- Whether a number is at least an integer. -/
def isAtLeast (k : Int) : Binary64 → Bool
  | finite negative s e =>
    let (n, d) := ratio s e
    decide (k * d ≤ if negative then -(n : Int) else n)
  | infinite negative => !negative
  | notANumber => false

end Binary64

end GrammarForm
