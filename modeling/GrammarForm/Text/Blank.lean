/-!
# Blank characters and trimming

The blank characters are those that Unicode calls white space, together with the four ASCII
separators.  `trim` removes them from both ends of a text; it is how a submitted alternative
index is read.

## Main definitions

* `Text.isWhiteSpace`, `Text.isBlank` : white space, and the blank characters.
* `Text.trim` : a text without the blanks at its ends.
* `Text.words` : the words of a text.
-/

namespace GrammarForm.Text

/-- A character that Unicode calls white space. -/
def isWhiteSpace (c : Char) : Bool :=
  let n := c.toNat
  (9 ≤ n && n ≤ 13) || n == 32 || n == 0x85 || n == 0xa0 || n == 0x1680 ||
    (0x2000 ≤ n && n ≤ 0x200a) || n == 0x2028 || n == 0x2029 || n == 0x202f || n == 0x205f ||
    n == 0x3000

/-- A blank character: white space, or an ASCII separator `U+001C` to `U+001F`. -/
def isBlank (c : Char) : Bool :=
  isWhiteSpace c || (28 ≤ c.toNat && c.toNat ≤ 31)

/-- The characters without those of a class at both ends. -/
def trimChars (inClass : Char → Bool) (cs : List Char) : List Char :=
  ((cs.dropWhile inClass).reverse.dropWhile inClass).reverse

/-- The text without the blanks at both ends. -/
def trim (s : String) : String :=
  String.ofList (trimChars isBlank s.toList)

/-- The words of a text, which stand between blanks. -/
def words (s : String) : List String :=
  ((s.map fun c => if isBlank c then ' ' else c).splitOn " ").filter (· != "")

end GrammarForm.Text
