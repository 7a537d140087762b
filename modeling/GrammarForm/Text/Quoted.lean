import GrammarForm.Text.Halves
import GrammarForm.Text.Printable

/-!
# Quoted texts

The quoted form of a text shows where it begins and ends.  It stands in single quotes, or in
double quotes if it contains a single quote and no double quote; a backslash, the quote itself
and all characters that are not printable are escaped.

## Main definitions

* `Text.quoted` : the quoted form of a text.
-/

namespace GrammarForm.Text

/-- The escape of a character or half by its number. -/
def numericEscape (n : Nat) : List Char :=
  if n < 0x100 then '\\' :: 'x' :: hexDigits 2 n []
  else if n < 0x10000 then unitEscape n
  else '\\' :: 'U' :: hexDigits 8 n []

/-- A piece inside a text quoted by `quote`. -/
def quotedPiece (quote : Char) : Piece → List Char
  | .half n => numericEscape n
  | .char c =>
    if c = quote ∨ c = '\\' then ['\\', c]
    else if c = '\n' then ['\\', 'n']
    else if c = '\r' then ['\\', 'r']
    else if c = '\t' then ['\\', 't']
    else if isPrintable c then [c]
    else numericEscape c.toNat

/-- The quote that a text is written with. -/
def quoteFor (cs : List Char) : Char :=
  if cs.contains '\'' && !cs.contains '"' then '"' else '\''

/-- The quoted form of a text. -/
def quoted (s : String) : String :=
  let cs := s.toList
  let q := quoteFor cs
  String.ofList (q :: (pieces cs).flatMap (quotedPiece q) ++ [q])

end GrammarForm.Text
