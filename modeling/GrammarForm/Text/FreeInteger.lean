import GrammarForm.Text.Blank
import GrammarForm.Text.Decimal

/-!
# Integers in a free form

Where an integer is asked for, people may write blanks around it, a plus sign, zeros in front, an
underscore between digits and a fraction of zeros.  All of this is taken away from the outside to
the inside before the digits are read, so that a minus sign may also stand behind the zeros; then
no more zeros may follow it.

## Main definitions

* `FreeInteger.read` : the integer that a text denotes.
-/

namespace GrammarForm.FreeInteger

/-- Why a text denotes no integer. -/
inductive Fault where
  /-- It has another form. -/
  | malformed
  /-- It begins with more digits than are converted. -/
  | tooLong
deriving DecidableEq, Repr

/-- The number of characters beyond which an integer is not converted. -/
def lengthLimit : Nat := 4300

/-- Whether characters begin with an integer in its plain form that is not converted. -/
def beginsTooLong (cs : List Char) : Bool :=
  let sign := if cs.head? = some '-' then 1 else 0
  let digits := (cs.drop sign).takeWhile Char.isDigit
  digits.head? != some '0' && decide (lengthLimit < sign + digits.length)

/-- The characters after a plus sign, which no minus sign may follow. -/
def withoutPlus : List Char → Option (List Char)
  | '+' :: '-' :: _ => none
  | '+' :: cs => some cs
  | cs => some cs

/-- The characters from the first one that counts, after zeros and underscores of which `last` was
the last one.  One of them is kept where no digit follows. -/
def afterZeros (last : Char) : List Char → Option (List Char)
  | [] => some [last]
  | c :: cs =>
    if c = '0' ∨ c = '_' then afterZeros c cs
    else if c = '-' ∨ c.isDigit then some (c :: cs)
    else if c = '.' then some (last :: c :: cs)
    else none

/-- The characters without the zeros in front; nothing if they begin otherwise than with a digit. -/
def withoutZeros : List Char → Option (List Char)
  | '0' :: cs => afterZeros '0' cs
  | c :: cs => if c.isDigit then some (c :: cs) else none
  | [] => none

/-- The characters without the zeros in front of the digits, after an optional minus sign. -/
def withoutSignedZeros : List Char → Option (List Char)
  | '-' :: cs => (withoutZeros cs).map ('-' :: ·)
  | cs => withoutZeros cs

/-- The characters before a point that zeros follow and nothing else. -/
def withoutFraction (cs : List Char) : List Char :=
  match cs.dropWhile (· != '.') with
  | _ :: d :: ds => if (d :: ds).all (· == '0') then cs.takeWhile (· != '.') else cs
  | _ => cs

/-- Whether two underscores stand side by side. -/
def hasDoubleUnderscore : List Char → Bool
  | '_' :: '_' :: _ => true
  | _ :: cs => hasDoubleUnderscore cs
  | [] => false

/-- The characters without underscores, if these only stand between others and one by one. -/
def withoutUnderscores (cs : List Char) : List Char :=
  if cs.head? = some '_' || cs.getLast? = some '_' || hasDoubleUnderscore cs then cs
  else cs.filter (· != '_')

/-- Whether characters are digits of which a zero is the first one only if it is the only one. -/
def isPlain (cs : List Char) : Bool :=
  !cs.isEmpty && cs.all Char.isDigit && (cs.head? != some '0' || cs.length == 1)

/-- The integer denoted by digits after an optional minus sign. -/
def ofDigits? (cs : List Char) : Option Int :=
  if isPlain (if cs.head? = some '-' then cs.tail else cs) then some (Decimal.signedValue cs)
  else none

/-- What is left of a text to be read as digits. -/
def core? (s : String) : Option (List Char) := do
  let cs ← withoutPlus (Text.trimChars Text.isWhiteSpace s.toList)
  return withoutUnderscores (withoutFraction (← withoutSignedZeros cs))

/-- The integer that a text denotes. -/
def read (s : String) : Except Fault Int :=
  if beginsTooLong s.toList then .error .tooLong
  else
    match (core? s).bind fun cs => if lengthLimit < cs.length then none else ofDigits? cs with
    | some n => .ok n
    | none => .error .malformed

end GrammarForm.FreeInteger
