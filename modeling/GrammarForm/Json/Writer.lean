import GrammarForm.Data

/-!
# Writing JSON

Values are written on one line in one of two styles, or, for a saved form state, as a table with
one entry per line.

## Main definitions

* `Json.Style` : separators, and how characters beyond ASCII, numbers and moments are written.
* `Json.write` : the text of a value.
* `Json.writeTexts` : the text of a table of texts, one entry per line.
-/

namespace GrammarForm.Json

/-- How a value is written on one line. -/
structure Style where
  /-- What stands between two items. -/
  itemGap : String
  /-- What stands between a key and its value. -/
  keyGap : String
  /-- Whether characters beyond ASCII are escaped. -/
  escapesUnicode : Bool
  /-- The text of a number with a fraction. -/
  number : Binary64 → String
  /-- The text of a moment, without the quotes. -/
  moment : Moment → String

/-- A number, with the names that lenient readers know for the values that are not finite. -/
def namedNumber : Binary64 → String
  | .notANumber => "NaN"
  | .infinite false => "Infinity"
  | .infinite true => "-Infinity"
  | x => x.text

/-- A number as any reader understands it: a value that is not finite is left open. -/
def strictNumber (x : Binary64) : String :=
  if x.isFinite then x.textIn .interchange else "null"

/-- A blank after each comma and colon, and ASCII characters only. -/
def spaced : Style := ⟨", ", ": ", true, namedNumber, Moment.text⟩

/-- No blanks, and characters beyond ASCII as they are, for readers that know the standard only. -/
def compact : Style := ⟨",", ":", false, strictNumber, Moment.interchange⟩

/-- The numeric escape of a character: one code unit, or two for a character beyond the first
plane. -/
def numericEscape (c : Char) : List Char :=
  let n := c.toNat
  if n < 0x10000 then Text.unitEscape n
  else
    Text.unitEscape (0xd800 + (n - 0x10000) / 0x400) ++
      Text.unitEscape (0xdc00 + (n - 0x10000) % 0x400)

/-- A character inside a text. -/
def writeChar (escapesUnicode : Bool) (c : Char) : List Char :=
  if c = '"' then ['\\', '"']
  else if c = '\\' then ['\\', '\\']
  else if c = '\n' then ['\\', 'n']
  else if c = '\r' then ['\\', 'r']
  else if c = '\t' then ['\\', 't']
  else if c.toNat = 8 then ['\\', 'b']
  else if c.toNat = 12 then ['\\', 'f']
  else if c.toNat < 32 ∨ (escapesUnicode ∧ 126 < c.toNat) then numericEscape c
  else [c]

/-- A piece inside a text. -/
def writePiece (escapesUnicode : Bool) : Text.Piece → List Char
  | .char c => writeChar escapesUnicode c
  | .half n => if escapesUnicode then Text.unitEscape n else Text.ofHalf n

/-- A text in quotes. -/
def writeText (escapesUnicode : Bool) (s : String) : String :=
  "\"" ++ String.ofList ((Text.pieces s.toList).flatMap (writePiece escapesUnicode)) ++ "\""

mutual

/-- The text of a value. -/
def write (style : Style) : Data → String
  | .null => "null"
  | .bool b => if b then "true" else "false"
  | .int n => toString n
  | .float x => style.number x
  | .string s => writeText style.escapesUnicode s
  | .moment m => writeText style.escapesUnicode (style.moment m)
  | .array items => "[" ++ writeItems style items ++ "]"
  | .table entries => "\x7b" ++ writeEntries style entries ++ "\x7d"

/-- The items of an array. -/
def writeItems (style : Style) : List Data → String
  | [] => ""
  | [d] => write style d
  | d :: e :: rest => write style d ++ style.itemGap ++ writeItems style (e :: rest)

/-- The entries of a table. -/
def writeEntries (style : Style) : List (String × Data) → String
  | [] => ""
  | [(k, d)] => writeText style.escapesUnicode k ++ style.keyGap ++ write style d
  | (k, d) :: e :: rest =>
    writeText style.escapesUnicode k ++ style.keyGap ++ write style d ++ style.itemGap ++
      writeEntries style (e :: rest)

end

/-- One entry of a table of texts on a line of its own. -/
def writeTextEntry (entry : String × String) : String :=
  "  " ++ writeText true entry.1 ++ ": " ++ writeText true entry.2

/-- A table of texts, one entry per line. -/
def writeTexts (entries : List (String × String)) : String :=
  if entries.isEmpty then "\x7b\x7d"
  else "\x7b\n" ++ ",\n".intercalate (entries.map writeTextEntry) ++ "\n\x7d"

end GrammarForm.Json
