/-!
# Line ends

A text file may end its lines with a carriage return, a line feed or both.

## Main definitions

* `Text.unifyLineEnds` : the text with a line feed for each line end.
-/

namespace GrammarForm.Text

/-- The characters with a line feed for each line end. -/
def lineFeeds : List Char → List Char
  | '\r' :: '\n' :: cs => '\n' :: lineFeeds cs
  | '\r' :: cs => '\n' :: lineFeeds cs
  | c :: cs => c :: lineFeeds cs
  | [] => []

/-- The text with a line feed for each line end. -/
def unifyLineEnds (s : String) : String :=
  String.ofList (lineFeeds s.toList)

end GrammarForm.Text
