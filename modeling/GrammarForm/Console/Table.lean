import GrammarForm.Console.Display

/-!
# Tables on a console

A table shows its title, its header and its rows.  A column is as wide as the widest line of its
cells; where tabs make a cell wider than that, it is broken into several lines.  A title that is
wider than the table is broken into several lines too, which stand in the middle.

## Main definitions

* `Console.wrap` : a line broken into lines of a greatest width.
* `Console.Table`, `Console.Table.text` : a table and how it is shown.
-/

namespace GrammarForm.Console

/-- Whether a character ends a line. -/
def isLineEnd (c : Char) : Bool :=
  let n := c.toNat
  (10 ≤ n && n ≤ 13) || (28 ≤ n && n ≤ 30) || n == 0x85 || n == 0x2028 || n == 0x2029

/-- The width of the widest line of a text. -/
def widestLine (cs : List Char) : Nat :=
  (cs.foldl
    (fun (now, widest) c =>
      if isLineEnd c then (0, widest)
      else (now + cellsOfChar c, max widest (now + cellsOfChar c)))
    (0, 0)).2

/-- The characters without the blanks at their end. -/
def trimmedEnd (cs : List Char) : List Char :=
  (cs.reverse.dropWhile Text.isBlank).reverse

/-! ### Breaking lines -/

/-- The words of a text, each with the blanks after it, and the first one also with the blanks
before it.  The first argument bounds their number. -/
def wordsWithin : Nat → List Char → List (List Char)
  | 0, _ => []
  | n + 1, cs =>
    let before := cs.takeWhile Text.isBlank
    let cs := cs.dropWhile Text.isBlank
    let word := cs.takeWhile (!Text.isBlank ·)
    let cs := cs.dropWhile (!Text.isBlank ·)
    if word.isEmpty then []
    else (before ++ word ++ cs.takeWhile Text.isBlank) ::
      wordsWithin n (cs.dropWhile Text.isBlank)

/-- The pieces of a word that is too long for a line; `line` holds the characters of the current
one, last first. -/
def pieces (width : Nat) (line : List Char) : List Char → List (List Char)
  | [] => [line.reverse]
  | c :: cs =>
    if width < cells line + cellsOfChar c then line.reverse :: pieces width [c] cs
    else pieces width (c :: line) cs

/-- A line in front of others, unless it is empty. -/
def unlessEmpty (line : List Char) (others : List (List Char)) : List (List Char) :=
  if line.isEmpty then others else line :: others

/-- The lines that words fill, `line` being the characters of the current one.  Words that are too
long for a line are cut into pieces where `folds` holds. -/
def fillLines (width : Nat) (folds : Bool) (line : List Char) :
    List (List Char) → List (List Char)
  | [] => [line]
  | word :: rest =>
    let size := cells (trimmedEnd word)
    if cells line + size ≤ width then fillLines width folds (line ++ word) rest
    else if size ≤ width then line :: fillLines width folds word rest
    else if folds then
      let parts := pieces width [] word
      unlessEmpty line (parts.dropLast ++ fillLines width folds (parts.getLastD []) rest)
    else unlessEmpty line (fillLines width folds word rest)

/-- A line broken into lines of a greatest width.  A line without words stays as it is. -/
def wrap (width : Nat) (folds : Bool) (cs : List Char) : List (List Char) :=
  let cs := expandTabs 0 cs
  match wordsWithin (cs.length + 1) cs with
  | [] => [cs]
  | words => fillLines width folds [] words

/-- The lines of a text. -/
def linesOf (s : String) : List (List Char) :=
  (s.splitOn "\n").map String.toList

/-! ### Tables -/

/-- A table.  Its texts hold no control characters that are left out. -/
structure Table where
  title : Option String
  header : List String
  rows : List (List String)

/-- The mark at the end of a line that is cut off. -/
def cutMark : Char := '…'

/-- A line of a cell without the blanks at its end that are too many for the column. -/
def withoutExcess (width : Nat) (line : List Char) : List Char :=
  let blanks := (line.reverse.takeWhile Text.isBlank).length
  line.take (line.length - min blanks (line.length - width))

/-- A line of a cell cut off at the width of the column. -/
def cutLine (width : Nat) (line : List Char) : List Char :=
  let line := withoutExcess width line
  if width < cells line then fitCells (width - 1) line ++ [cutMark] else line

/-- The lines of a cell in a column of some width. -/
def cellLines (width : Nat) (s : String) : List String :=
  ((linesOf s).flatMap (wrap width false)).map fun line =>
    String.ofList (Text.trimChars Text.isBlank (cutLine width line))

/-- A line in the middle between blanks. -/
def centered (width : Nat) (line : List Char) : List Char :=
  let line := trimmedEnd line
  let free := width - cells line
  List.replicate (free / 2) ' ' ++ line ++ List.replicate (free - free / 2) ' '

namespace Table

/-- The cells of a column. -/
def column (t : Table) (i : Nat) : List String :=
  (t.header :: t.rows).filterMap (·[i]?)

/-- The width of a column without its margins. -/
def columnWidth (t : Table) (i : Nat) : Nat :=
  (t.column i).foldl (fun w s => max w (widestLine s.toList)) 0

/-- The widths of the columns. -/
def columnWidths (t : Table) : List Nat :=
  (List.range t.header.length).map t.columnWidth

/-- The width of a table: each column has a blank on both sides, and lines stand between the columns
and at both ends. -/
def width (t : Table) : Nat :=
  t.columnWidths.foldl (fun w column => w + column + 3) 1

/-- The line that stands between two columns. -/
def columnLine : String := "│"

/-- The texts of a line of a row, in which a column line inside a cell parts it as well. -/
def parts (line : String) : List String :=
  (line.splitOn columnLine).map Text.trim

/-- The lines of a row in columns of some widths, as many as its highest cell has. -/
def rowLines (widths : List Nat) (row : List String) : List String :=
  let cells := (widths.zip row).map fun (width, s) => cellLines width s
  let height := cells.foldl (fun h lines => max h lines.length) 1
  (List.range height).map fun i =>
    " | ".intercalate (cells.flatMap fun lines => parts (lines.getD i ""))

/-- The lines of the title.  The last one, which stands on the table, has no blanks around it. -/
def titleLines (t : Table) : List String :=
  match t.title with
  | none => []
  | some title =>
    let lines := ((linesOf title).flatMap (wrap t.width true)).map (centered t.width)
    (lines.dropLast ++ (lines.getLast?.map (Text.trimChars Text.isBlank)).toList).map String.ofList

/-- The lines of a table. -/
def lines (t : Table) : List String :=
  t.titleLines ++ (t.header :: t.rows).flatMap (rowLines t.columnWidths)

/-- The text of a table. -/
def text (t : Table) : String :=
  String.join (t.lines.map (· ++ "\n"))

end Table

end GrammarForm.Console
