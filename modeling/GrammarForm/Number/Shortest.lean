import GrammarForm.Number.Binary64

/-!
# Texts of double precision numbers

The text of a double precision number has the fewest digits that read back as the same number,
and among those the ones nearest to it.  It is positional for decimal exponents within bounds and
scientific otherwise.

## Main definitions

* `Binary64.shortest` : the fewest digits that read back, with their decimal exponent.
* `Binary64.Form` : the choices left for the text of a number.
* `Binary64.textIn`, `Binary64.text` : the text of a number in a form, and in the usual one.
* `Binary64.fixed`, `Binary64.scientific` : texts with a given number of places.
-/

namespace GrammarForm.Binary64

/-- The decimal exponent of a positive quotient: the `k` with `10 ^ (k - 1) ≤ num / den < 10 ^ k`.
The first argument bounds the search upward from the second one. -/
def searchDecimalExponent (num den : Nat) : Nat → Int → Int
  | 0, k => k
  | n + 1, k =>
    let below :=
      if 0 ≤ k then decide (num < den * Nat.pow 10 k.toNat)
      else decide (num * Nat.pow 10 (-k).toNat < den)
    if below then k else searchDecimalExponent num den n (k + 1)

/-- The decimal exponent of a positive quotient. -/
def decimalExponent (num den : Nat) : Int :=
  let size (n : Nat) : Int := (Nat.toDigits 10 n).length
  searchDecimalExponent num den 3 (size num - size den)

/-- A positive number and the ends of the interval of reals that round to it, all over one
denominator, and whether the ends belong to the interval. -/
structure Neighbourhood where
  low : Nat
  num : Nat
  high : Nat
  den : Nat
  closed : Bool

/-- The neighbourhood of a positive finite number. -/
def neighbourhood (significand : Nat) (exponent : Int) : Neighbourhood :=
  let down := if significand = Nat.pow 2 (precision - 1) ∧ minExponent < exponent then 1 else 2
  let scale (n : Nat) : Nat := (ratio n (exponent - 2)).1
  { low := scale (4 * significand - down)
    num := scale (4 * significand)
    high := scale (4 * significand + 2)
    den := (ratio 1 (exponent - 2)).2
    closed := significand % 2 = 0 }

namespace Neighbourhood

/-- Whether `c * 10 ^ e` lies in the interval. -/
def contains (v : Neighbourhood) (c : Nat) (e : Int) : Bool :=
  let (p, q) := if 0 ≤ e then (c * Nat.pow 10 e.toNat, 1) else (c, Nat.pow 10 (-e).toNat)
  let x := p * v.den
  if v.closed then decide (v.low * q ≤ x) && decide (x ≤ v.high * q)
  else decide (v.low * q < x) && decide (x < v.high * q)

/-- The two neighbours of the number on the grid of multiples of `10 ^ e` that lie in the
interval, the nearer one first. -/
def onGrid (v : Neighbourhood) (e : Int) : List Nat :=
  let (n, d) :=
    if 0 ≤ e then (v.num, v.den * Nat.pow 10 e.toNat) else (v.num * Nat.pow 10 (-e).toNat, v.den)
  let c := n / d
  let r := n % d
  let nearer := if 2 * r < d ∨ (2 * r = d ∧ c % 2 = 0) then [c, c + 1] else [c + 1, c]
  nearer.filter fun c => c != 0 && v.contains c e

/-- The first grid, from `count` more digits down to none, on which the interval has a point. -/
def search (v : Neighbourhood) (k : Int) : Nat → Nat → Nat × Int
  | 0, digits => ((v.onGrid (k - digits)).headD 0, k - digits)
  | n + 1, digits =>
    match v.onGrid (k - digits) with
    | c :: _ => (c, k - digits)
    | [] => search v k n (digits + 1)

end Neighbourhood

/-- The digits of a natural number without trailing zeros, with the exponent of the last digit.
The first argument bounds the number of zeros taken away. -/
def stripZeros : Nat → Nat → Int → Nat × Int
  | 0, c, e => (c, e)
  | n + 1, c, e => if c % 10 = 0 ∧ c ≠ 0 then stripZeros n (c / 10) (e + 1) else (c, e)

/-- The fewest digits that read back as a positive finite number, with the decimal exponent of
the last digit. -/
def shortest (significand : Nat) (exponent : Int) : Nat × Int :=
  let v := neighbourhood significand exponent
  let (c, e) := v.search (decimalExponent v.num v.den) 17 1
  stripZeros 20 c e

/-- The decimal digits of a natural number. -/
def digitsOf (n : Nat) : String :=
  toString n

/-- A text filled up on the left with zeros to a given length. -/
def padZeros (width : Nat) (s : String) : String :=
  String.ofList (List.replicate (width - s.length) '0') ++ s

/-- Digits written positionally, `e` being the exponent of the last digit; a number without
fraction ends in `.0`. -/
def positional (ds : String) (e : Int) : String :=
  if 0 ≤ e then ds ++ String.ofList (List.replicate e.toNat '0') ++ ".0"
  else
    let places := (-e).toNat
    let cs := (padZeros (places + 1) ds).toList
    String.ofList (cs.take (cs.length - places)) ++ "." ++
      String.ofList (cs.drop (cs.length - places))

/-- The choices left for the text of a number. -/
structure Form where
  /-- The least and the greatest decimal exponent that is written positionally. -/
  least : Int
  greatest : Int
  /-- The number of digits that an exponent has at least. -/
  exponentDigits : Nat
deriving DecidableEq, Repr

namespace Form

/-- The usual form. -/
def usual : Form := ⟨-4, 15, 2⟩

/-- The form of numbers that are handed over to other programs. -/
def interchange : Form := ⟨-5, 15, 1⟩

end Form

/-- An exponent with its sign and at least a number of digits. -/
def exponentText (width : Nat) (e : Int) : String :=
  (if e < 0 then "-" else "+") ++ padZeros width (toString e.natAbs)

/-- Digits written with one digit before the point and an exponent. -/
def scientificDigits (width : Nat) (ds : List Char) (e : Int) : String :=
  match ds with
  | [] => ""
  | [d] => String.ofList [d] ++ "e" ++ exponentText width e
  | d :: rest => String.ofList (d :: '.' :: rest) ++ "e" ++ exponentText width e

/-- The text of a positive finite number. -/
def magnitudeText (form : Form) (significand : Nat) (exponent : Int) : String :=
  let (c, e) := shortest significand exponent
  let ds := digitsOf c
  let first := e + ds.length - 1
  if form.least ≤ first ∧ first ≤ form.greatest then positional ds e
  else scientificDigits form.exponentDigits ds.toList first

/-- The minus sign of a negative number. -/
def signText (negative : Bool) : String :=
  if negative then "-" else ""

/-- The text of a number in a form: the fewest digits that read back. -/
def textIn (form : Form) : Binary64 → String
  | finite negative 0 _ => signText negative ++ "0.0"
  | finite negative s e => signText negative ++ magnitudeText form s e
  | infinite negative => signText negative ++ "inf"
  | notANumber => "nan"

/-- The text of a number in the usual form. -/
def text (x : Binary64) : String :=
  x.textIn .usual

/-- The magnitude of a finite number with a given number of decimal places. -/
def fixed (places : Nat) (significand : Nat) (exponent : Int) : String :=
  let (n, d) := ratio significand exponent
  let cs := (padZeros (places + 1) (digitsOf (roundQuotient (n * Nat.pow 10 places) d))).toList
  let whole := String.ofList (cs.take (cs.length - places))
  if places = 0 then whole else whole ++ "." ++ String.ofList (cs.drop (cs.length - places))

/-- The magnitude of a finite number in scientific form with a given number of decimal places. -/
def scientific (places : Nat) (significand : Nat) (exponent : Int) : String :=
  if significand = 0 then
    scientificDigits 2 ('0' :: List.replicate places '0') 0
  else
    let (n, d) := ratio significand exponent
    let k := decimalExponent n d
    let e := k - (places + 1 : Nat)
    let (p, q) := if 0 ≤ e then (n, d * Nat.pow 10 e.toNat) else (n * Nat.pow 10 (-e).toNat, d)
    let c := roundQuotient p q
    if Nat.pow 10 (places + 1) ≤ c then scientificDigits 2 (digitsOf (c / 10)).toList k
    else scientificDigits 2 (digitsOf c).toList (k - 1)

end GrammarForm.Binary64
