import GrammarForm.Data
import GrammarForm.Digest
import GrammarForm.Text.Decimal
import GrammarForm.Text.Halves

/-!
# Message templates

A template is a text with places for values.  A place begins with a percent sign, says how wide
the value is written and with how many digits, and ends with a letter for the form of the value.
Two percent signs stand for one.  A template is filled from left to right, so that of several
faults the first one counts.

## Main definitions

* `Template.Supply` : the values for the places of a template.
* `Template.Place` : a place for a value.
* `Template.write` : a value at a place.
* `Template.fill` : a template with its places filled.
-/

namespace GrammarForm.Template

/-- Why a template cannot be filled. -/
inductive Fault where
  /-- The values do not fit the places in number or kind. -/
  | mismatch
  /-- A place is not well formed. -/
  | malformed
  /-- A value is not in the range of the form. -/
  | outOfRange
  /-- No value has the name that a place asks for. -/
  | unknownName
  /-- A place is wider than any text. -/
  | tooWide
deriving DecidableEq, Repr

/-! ### Values -/

/-- The values that are left, and the names under which there are values. -/
structure Supply where
  values : List Data
  named : Option (Entries Data)

namespace Supply

/-- The next value. -/
def next (s : Supply) : Except Fault (Data × Supply) :=
  match s.values with
  | d :: rest => .ok (d, { s with values := rest })
  | [] => .error .mismatch

/-- The supply in which the value under a name is the next and only one. -/
def select (s : Supply) (name : String) : Except Fault Supply :=
  match s.named.bind (·.get? name) with
  | some d => .ok { s with values := [d] }
  | none => .error .unknownName

end Supply

/-- The integer that a value is. -/
def exactInteger : Data → Except Fault Int
  | .int n => .ok n
  | .bool b => .ok (if b then 1 else 0)
  | _ => .error .mismatch

/-! ### Reading a place -/

/-- A place for a value. -/
structure Place where
  left : Bool
  plus : Bool
  blank : Bool
  alternate : Bool
  zero : Bool
  width : Nat
  places : Option Nat
  form : Char

/-- The name in parentheses at the beginning of a place, `depth` parentheses being open. -/
def nameText (depth : Nat) (done : List Char) : List Char → Except Fault (List Char × List Char)
  | [] => .error .malformed
  | c :: cs =>
    if c = ')' then
      if depth = 0 then .ok (done.reverse, cs) else nameText (depth - 1) (c :: done) cs
    else nameText (if c = '(' then depth + 1 else depth) (c :: done) cs

/-- The supply for a place that may begin with a name. -/
def readName (s : Supply) : List Char → Except Fault (Supply × List Char)
  | '(' :: cs =>
    if s.named.isNone then .error .mismatch
    else do
      let (name, rest) ← nameText 0 [] cs
      return (← s.select (String.ofList name), rest)
  | cs => .ok (s, cs)

/-- The flags of a place. -/
def isFlag (c : Char) : Bool :=
  c == '-' || c == '+' || c == ' ' || c == '#' || c == '0'

/-- A width or a number of places at the beginning of some characters: absent, written out, or, for
an asterisk, taken from the values.  Its magnitude must lie below `limit`. -/
def readAmount (limit : Nat) (s : Supply) :
    List Char → Except Fault (Option Int × Supply × List Char)
  | '*' :: cs => do
    let (d, s) ← s.next
    let n ← exactInteger d
    if n.natAbs < limit then return (some n, s, cs) else .error .outOfRange
  | cs =>
    match cs.takeWhile Char.isDigit with
    | [] => .ok (none, s, cs)
    | ds =>
      if Decimal.value ds < limit then
        .ok (some (Decimal.value ds : Int), s, cs.dropWhile Char.isDigit)
      else .error .malformed

/-- The limit of widths. -/
def widthLimit : Nat := 9223372036854775808

/-- The limit of numbers of places. -/
def placesLimit : Nat := 2147483648

/-- The number of places after a point. -/
def readPlaces (s : Supply) : List Char → Except Fault (Option Nat × Supply × List Char)
  | '.' :: cs => do
    let (n, s, rest) ← readAmount placesLimit s cs
    return (some (n.getD 0).toNat, s, rest)
  | cs => .ok (none, s, cs)

/-- The characters after a size mark, which has no meaning. -/
def skipSize : List Char → List Char
  | c :: cs => if c = 'h' ∨ c = 'l' ∨ c = 'L' then cs else c :: cs
  | [] => []

/-- A place after its percent sign. -/
def readPlace (s : Supply) (cs : List Char) : Except Fault (Place × Supply × List Char) := do
  let (s, cs) ← readName s cs
  let flags := cs.takeWhile isFlag
  let (width, s, cs) ← readAmount widthLimit s (cs.dropWhile isFlag)
  let (places, s, cs) ← readPlaces s cs
  match skipSize cs with
  | [] => .error .malformed
  | form :: rest =>
    return (
      { left := flags.contains '-' || width.any (· < 0)
        plus := flags.contains '+'
        blank := flags.contains ' '
        alternate := flags.contains '#'
        zero := flags.contains '0'
        width := (width.getD 0).natAbs
        places
        form }, s, rest)

/-! ### Writing a value -/

/-- The sign of a number at a place. -/
def sign (p : Place) (negative : Bool) : String :=
  if negative then "-" else if p.plus then "+" else if p.blank then " " else ""

/-- The characters that fill a text up to a width. -/
def filling (c : Char) (width : Nat) (s : String) : String :=
  String.ofList (List.replicate (width - s.length) c)

/-- A text at a place. -/
def pad (p : Place) (s : String) : String :=
  if p.left then s ++ filling ' ' p.width s else filling ' ' p.width s ++ s

/-- A number at a place: zeros stand between its sign and its digits. -/
def padNumber (p : Place) (before digits : String) : String :=
  if p.zero && !p.left then before ++ filling '0' p.width (before ++ digits) ++ digits
  else pad p (before ++ digits)

/-- An integer to a base. -/
def integer (p : Place) (base : Nat) (mark : String) (n : Int) : String :=
  let ds := String.ofList (Nat.toDigits base n.natAbs)
  let mark := if p.alternate then mark else ""
  padNumber p (sign p (decide (n < 0)) ++ mark) (filling '0' (p.places.getD 0) ds ++ ds)

/-- The parts of a scientific numeral before its exponent and from it on. -/
def splitExponent (s : String) : List Char × List Char :=
  (s.toList.takeWhile (· != 'e'), s.toList.dropWhile (· != 'e'))

/-- Digits without the zeros at the end of the places after the point. -/
def withoutEndZeros (cs : List Char) : List Char :=
  if cs.contains '.' then
    match cs.reverse.dropWhile (· == '0') with
    | '.' :: rest => rest.reverse
    | rest => rest.reverse
  else cs

/-- Digits with a point. -/
def withPoint (cs : List Char) : List Char :=
  if cs.contains '.' then cs else cs ++ ['.']

/-- A numeral with a change made to the part before its exponent. -/
def mapMantissa (f : List Char → List Char) (s : String) : String :=
  let (mantissa, exponent) := splitExponent s
  String.ofList (f mantissa ++ exponent)

/-- The exponent of a scientific numeral. -/
def exponentOf (s : String) : Int :=
  match (splitExponent s).2 with
  | 'e' :: '-' :: ds => -(Decimal.value ds : Int)
  | 'e' :: '+' :: ds => Decimal.value ds
  | _ => 0

/-- A magnitude with a number of significant digits, positional or scientific. -/
def general (digits : Nat) (s : Nat) (e : Int) : String :=
  let long := Binary64.scientific (digits - 1) s e
  let exponent := exponentOf long
  if -4 ≤ exponent ∧ exponent < digits then
    Binary64.fixed (digits - 1 - exponent).toNat s e
  else long

/-- A magnitude at a place. -/
def magnitude (p : Place) (s : Nat) (e : Int) : String :=
  let places := p.places.getD 6
  match p.form.toLower with
  | 'f' => mapMantissa (if p.alternate then withPoint else id) (Binary64.fixed places s e)
  | 'e' => mapMantissa (if p.alternate then withPoint else id) (Binary64.scientific places s e)
  | _ =>
    mapMantissa (if p.alternate then withPoint else withoutEndZeros)
      (general (max places 1) s e)

/-- A number with a fraction, in one of the forms for them. -/
def real (p : Place) (x : Binary64) : String :=
  let cased (t : String) : String := if p.form.isUpper then t.toUpper else t
  match x with
  | .notANumber => padNumber p (sign p false) (cased "nan")
  | .infinite negative => padNumber p (sign p negative) (cased "inf")
  | .finite negative s e => padNumber p (sign p negative) (cased (magnitude p s e))

/-- The integer that a value is rounded to. -/
def wholeNumber : Data → Except Fault Int
  | .float .notANumber => .error .malformed
  | .float x => (x.truncate).elim (.error .outOfRange) .ok
  | d => exactInteger d

/-- The number nearest to an integer, if it is finite. -/
def nearest (n : Int) : Except Fault Binary64 :=
  if (Binary64.ofInt n).isFinite then .ok (.ofInt n) else .error .outOfRange

/-- The number that a value is. -/
def realNumber : Data → Except Fault Binary64
  | .float x => .ok x
  | d => do nearest (← exactInteger d)

/-- The character that a value stands for. -/
def character : Data → Except Fault String
  | .string s => if (Text.pieces s.toList).length = 1 then .ok s else .error .mismatch
  | d => do
    let n ← exactInteger d
    if n < 0 ∨ 0x110000 ≤ n then .error .outOfRange
    else .ok (String.ofList (Text.ofUnit n.toNat))

/-- A quoted text in ASCII. -/
def asciiOnly (s : String) : String :=
  String.ofList (s.toList.flatMap fun c =>
    if c.toNat < 127 then [c] else Text.numericEscape c.toNat)

/-- A text cut to the number of places and set at a place. -/
def written (p : Place) (s : String) : String :=
  pad p (match p.places with
    | some n => String.ofList (s.toList.take n)
    | none => s)

/-- A value at a place. -/
def write (p : Place) (d : Data) : Except Fault String :=
  match p.form with
  | 's' => .ok (written p d.text)
  | 'r' => .ok (written p d.quoted)
  | 'a' => .ok (written p (asciiOnly d.quoted))
  | 'c' => (character d).map (pad p)
  | 'o' => (exactInteger d).map (integer p 8 "0o")
  | 'x' => (exactInteger d).map (integer p 16 "0x")
  | 'X' => (exactInteger d).map fun n => (integer p 16 "0x" n).toUpper
  | c =>
    if c = 'd' ∨ c = 'i' ∨ c = 'u' then (wholeNumber d).map (integer p 10 "")
    else if ['e', 'f', 'g'].contains c.toLower then (realNumber d).map (real p)
    else .error .malformed

/-- The width that no text has: there is no room for that many characters. -/
def roomLimit : Nat := 10000000000

/-- A value at a place, if there is room for it. -/
def writeInRoom (p : Place) (d : Data) : Except Fault String :=
  if p.width < roomLimit then write p d
  else
    match write { p with width := 0 } d with
    | .error e => .error e
    | .ok _ => .error .tooWide

/-! ### Filling -/

/-- The rest of a template with its places filled, and the values that are left.  The first argument
bounds the number of texts and places. -/
def fillRest : Nat → Supply → List Char → Except Fault (String × Supply)
  | 0, s, _ => .ok ("", s)
  | n + 1, s, cs =>
    match cs with
    | [] => .ok ("", s)
    | '%' :: '%' :: rest => do
      let (after, s) ← fillRest n s rest
      return ("%" ++ after, s)
    | '%' :: rest => do
      let (p, s, rest) ← readPlace s rest
      let (d, s) ← s.next
      let shown ← writeInRoom p d
      let (after, s) ← fillRest n s rest
      return (shown ++ after, s)
    | cs => do
      let (after, s) ← fillRest n s (cs.dropWhile (· != '%'))
      return (String.ofList (cs.takeWhile (· != '%')) ++ after, s)

/-- A template filled from a supply. -/
def fillFrom (template : String) (s : Supply) : Except Fault (String × Supply) :=
  fillRest (template.length + 1) s template.toList

/-- A template with its places filled.  Without values it is taken as it is, and a single table
gives its values by their names. -/
def fill (template : String) (values : List Data) : Except Fault String :=
  match values with
  | [] => .ok template
  | [.table (e :: entries)] => do
    return (← fillFrom template ⟨values, some (e :: entries)⟩).1
  | _ => do
    let (s, left) ← fillFrom template ⟨values, none⟩
    if left.values.isEmpty then return s else .error .mismatch

end GrammarForm.Template
