import GrammarForm.Console.Cells
import GrammarForm.Console.Emoji

/-!
# Text on a console

A console shows emoji for their codes, leaves out some control characters and shows a tab as blanks
up to the next tab stop.

## Main definitions

* `Console.cleaned` : a text without the control characters that are left out.
* `Console.shown` : a text as it is shown.
* `Console.withoutSequences` : a text without the control sequences of a terminal.
-/

namespace GrammarForm.Console

/-- The control characters that are left out. -/
def isSilent (c : Char) : Bool :=
  let n := c.toNat
  n == 7 || n == 8 || n == 11 || n == 12 || n == 13

/-- The text without the control characters that are left out. -/
def cleaned (cs : List Char) : List Char :=
  cs.filter (!isSilent ·)

/-- The distance between two tab stops. -/
def tabWidth : Nat := 8

/-- The characters with blanks for tabs, from a column on, which is counted in cells. -/
def expandTabs (column : Nat) : List Char → List Char
  | [] => []
  | '\n' :: cs => '\n' :: expandTabs 0 cs
  | '\t' :: cs =>
    let blanks := tabWidth - column % tabWidth
    List.replicate blanks ' ' ++ expandTabs (column + blanks) cs
  | c :: cs => c :: expandTabs (column + cellsOfChar c) cs

/-- A text as it is laid out on a line of its own, emoji standing for their codes already. -/
def laidOut (cs : List Char) : String :=
  String.ofList (expandTabs 0 (cleaned cs))

/-- A text as it is shown. -/
def shown (s : String) : String :=
  laidOut (Emoji.decode s.toList)

/-! ### Control sequences -/

/-- The characters that may stand between the beginning and the end of a control sequence. -/
def isParameter (c : Char) : Bool :=
  c == ';' || c == '?' || c.isDigit

/-- The characters after a control sequence whose escape character was read. -/
def afterSequence? : List Char → Option (List Char)
  | '[' :: cs =>
    match cs.dropWhile isParameter with
    | c :: rest => if c.isAlpha then some rest else none
    | [] => none
  | _ => none

/-- The characters without control sequences.  The first argument bounds the number of steps. -/
def dropSequences : Nat → List Char → List Char
  | 0, cs => cs
  | _, [] => []
  | n + 1, c :: cs =>
    if c.toNat = 27 then
      match afterSequence? cs with
      | some rest => dropSequences n rest
      | none => c :: dropSequences n cs
    else c :: dropSequences n cs

/-- A text without the control sequences of a terminal. -/
def withoutSequences (s : String) : String :=
  String.ofList (dropSequences s.length s.toList)

end GrammarForm.Console
