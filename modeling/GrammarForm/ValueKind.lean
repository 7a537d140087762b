import GrammarForm.Text.Decimal

/-!
# Kinds of values

A leaf is a place of a command where the user types a value.  Each of the six kinds of leaf has
the name under which it stands in a production, the language of texts it accepts, and a text
to start from.

## Main definitions

* `ValueKind` : the six kinds.
* `ValueKind.accepts` : the texts a kind accepts.
* `ValueKind.ofPlaceholder?` : the kind that a production name stands for.
-/

namespace GrammarForm

/-- The kinds of values a user can type. -/
inductive ValueKind where
  | float
  | integer
  | positiveInteger
  | nonnegativeInteger
  | alphanumeric
  | filename
deriving DecidableEq, Repr, Inhabited

namespace ValueKind

/-- All kinds. -/
def all : List ValueKind :=
  [float, integer, positiveInteger, nonnegativeInteger, alphanumeric, filename]

/-- The name of a kind on the command line and in answers. -/
def name : ValueKind → String
  | float => "float"
  | integer => "integer"
  | positiveInteger => "positive_integer"
  | nonnegativeInteger => "nonnegative_integer"
  | alphanumeric => "alphanumeric"
  | filename => "filename"

/-- The kind with a given name. -/
def ofName? (s : String) : Option ValueKind :=
  all.find? (·.name == s)

/-- The symbol that stands for a value of the kind in a production. -/
def placeholder : ValueKind → String
  | float => "<float value>"
  | integer => "<integer value>"
  | positiveInteger => "<positive integer value>"
  | nonnegativeInteger => "<nonnegative integer value>"
  | alphanumeric => "<alphanumeric value>"
  | filename => "<file name>"

/-- The kind that a production symbol stands for, if it stands for one. -/
def ofPlaceholder? (s : String) : Option ValueKind :=
  all.find? (·.placeholder == s)

/-- The text a leaf starts from when the grammar gives none. -/
def fallback : ValueKind → String
  | float => "0.0"
  | integer => "1"
  | positiveInteger => "1"
  | nonnegativeInteger => "0"
  | alphanumeric => "text"
  | filename => "text"

/-! ### Accepted texts -/

/-- An exponent: a nonzero integer without leading zeros. -/
def isExponent : List Char → Bool
  | '-' :: cs => Decimal.isPositive cs
  | cs => Decimal.isPositive cs

/-- An unsigned number with a point: a natural number or nothing, a point, and digits, with a
digit on at least one side of the point. -/
def isPointed (cs : List Char) : Bool :=
  let whole := cs.takeWhile (· != '.')
  match cs.dropWhile (· != '.') with
  | [] => false
  | _ :: places =>
    places.all Char.isDigit && (if whole.isEmpty then !places.isEmpty else Decimal.isNatural whole)

/-- A number without exponent: a canonical integer, or a number with a point and an optional
minus sign. -/
def isMantissa (cs : List Char) : Bool :=
  Decimal.isInteger cs ||
    (match cs with
      | '-' :: rest => isPointed rest
      | _ => isPointed cs)

/-- Whether a character starts the exponent of a number. -/
def isExponentMark (c : Char) : Bool :=
  c == 'e' || c == 'E'

/-- A number in decimal or scientific notation. -/
def isFloat (cs : List Char) : Bool :=
  isMantissa (cs.takeWhile (!isExponentMark ·)) &&
    (match cs.dropWhile (!isExponentMark ·) with
      | [] => true
      | _ :: exponent => isExponent exponent)

/-- A canonical integer that fits a signed 64-bit word. -/
def isInt64 (cs : List Char) : Bool :=
  match Decimal.readInteger cs with
  | some n => Decimal.fitsInt64 n
  | none => false

/-- The number of digits that a positive or nonnegative integer may have. -/
def digitLimit : Nat := 19

/-- A canonical positive integer of at most `digitLimit` digits. -/
def isShortPositive (cs : List Char) : Bool :=
  Decimal.isPositive cs && decide (cs.length ≤ digitLimit)

/-- A canonical natural number of at most `digitLimit` digits. -/
def isShortNatural (cs : List Char) : Bool :=
  Decimal.isNatural cs && decide (cs.length ≤ digitLimit)

/-- A text of `1` to `n` characters out of a class. -/
def isWord (n : Nat) (inClass : Char → Bool) (cs : List Char) : Bool :=
  !cs.isEmpty && decide (cs.length ≤ n) && cs.all inClass

/-- The characters of a file name: ASCII letters and digits, and `.`, `/`, `_` and `-`. -/
def isFilenameChar (c : Char) : Bool :=
  c.isAlphanum || c == '.' || c == '/' || c == '_' || c == '-'

/-- Whether a leaf of this kind accepts the text. -/
def accepts (kind : ValueKind) (s : String) : Bool :=
  let cs := s.toList
  match kind with
  | float => isFloat cs
  | integer => isInt64 cs
  | positiveInteger => isShortPositive cs
  | nonnegativeInteger => isShortNatural cs
  | alphanumeric => isWord 100 Char.isAlphanum cs
  | filename => isWord 200 isFilenameChar cs

end ValueKind

end GrammarForm
