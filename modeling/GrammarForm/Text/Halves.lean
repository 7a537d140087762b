/-!
# Halves of pairs

A text in JSON is written in units of 16 bits.  Two units from two ranges form a pair, which stands
for one character; such a unit alone stands for none, and a text with one cannot be encoded as
UTF-8.  Texts keep such a half as two characters: a mark that is reserved for internal use, and a
character for private use in the last plane.  By convention no text has the mark as a character of
its own in front of a character for a half: these two would be taken for the half.

## Main definitions

* `Text.Piece`, `Text.pieces` : a text as characters and halves.
* `Text.ofHalf` : the characters for a half.
* `Text.isEncodable`, `Text.isFileName` : whether a text has a form in bytes, as a text and as the
  name of a file.
* `Text.withEscapedHalves` : a text with an escape for each half.
-/

namespace GrammarForm.Text

/-- Whether a unit is the first half of a pair. -/
def isHighHalf (n : Nat) : Bool := decide (0xd800 ≤ n) && decide (n < 0xdc00)

/-- Whether a unit is the second half of a pair. -/
def isLowHalf (n : Nat) : Bool := decide (0xdc00 ≤ n) && decide (n < 0xe000)

/-- Whether a unit is half of a pair. -/
def isHalf (n : Nat) : Bool := isHighHalf n || isLowHalf n

/-- The character of a pair. -/
def ofPair (high low : Nat) : Char :=
  Char.ofNat (0x10000 + (high - 0xd800) * 0x400 + (low - 0xdc00))

/-- The mark in front of the character for a half.  It is no character that texts exchange. -/
def halfMark : Char := Char.ofNat 0x10ffff

/-- The distance from a half to the character for it. -/
def halfShift : Nat := 0x100000

/-- The characters for a half. -/
def ofHalf (n : Nat) : List Char := [halfMark, Char.ofNat (n + halfShift)]

/-- The half that two characters stand for.  They are taken for it also where a text had them as
characters, which the convention excludes. -/
def half? (mark c : Char) : Option Nat :=
  if mark = halfMark && isHalf (c.toNat - halfShift) then some (c.toNat - halfShift) else none

/-- The characters for a unit. -/
def ofUnit (n : Nat) : List Char :=
  if isHalf n then ofHalf n else [Char.ofNat n]

/-- A piece of a text. -/
inductive Piece where
  | char (c : Char)
  /-- The half of a pair. -/
  | half (n : Nat)
deriving DecidableEq, Repr

namespace Piece

/-- Whether a piece is a character. -/
def isChar : Piece → Bool
  | char _ => true
  | half _ => false

/-- The number of a character or half. -/
def number : Piece → Nat
  | char c => c.toNat
  | half n => n

end Piece

/-- The pieces of a text. -/
def pieces : List Char → List Piece
  | mark :: c :: cs =>
    match half? mark c with
    | some n => .half n :: pieces cs
    | none => .char mark :: pieces (c :: cs)
  | [c] => [.char c]
  | [] => []

/-- Whether a text has no halves, so that it has a UTF-8 form. -/
def isEncodable (s : String) : Bool :=
  (pieces s.toList).all Piece.isChar

/-- Whether a piece has a form in bytes in the name of a file: the halves from `U+DC80` to `U+DCFF`
stand for the bytes of a name that is no UTF-8 text. -/
def Piece.isInFileName : Piece → Bool
  | char _ => true
  | half n => decide (0xdc80 ≤ n) && decide (n ≤ 0xdcff)

/-- Whether a text has a form in bytes when it names a file. -/
def isFileName (s : String) : Bool :=
  (pieces s.toList).all Piece.isInFileName

/-- The number of bytes of a piece in the name of a file. -/
def Piece.byteCount : Piece → Nat
  | char c => c.utf8Size
  | half _ => 1

/-- The number of bytes of a text that names a file. -/
def byteCount (s : String) : Nat :=
  (pieces s.toList).foldl (fun n p => n + p.byteCount) 0

/-- The last `width` hexadecimal digits of a number, after `done`. -/
def hexDigits : Nat → Nat → List Char → List Char
  | 0, _, done => done
  | width + 1, n, done => hexDigits width (n / 16) (Nat.digitChar (n % 16) :: done)

/-- The escape of a unit. -/
def unitEscape (n : Nat) : List Char :=
  '\\' :: 'u' :: hexDigits 4 n []

/-- A piece, a half being escaped. -/
def Piece.escaped : Piece → List Char
  | char c => [c]
  | half n => unitEscape n

/-- A text with an escape for each half. -/
def withEscapedHalves (s : String) : String :=
  String.ofList ((pieces s.toList).flatMap Piece.escaped)

end GrammarForm.Text
