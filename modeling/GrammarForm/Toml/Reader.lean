import GrammarForm.Toml.Scalar
import GrammarForm.Toml.Table

/-!
# Reading TOML

A document is read statement by statement: keys with values, headers, comments and empty lines.
Values may contain further values, so their readers call each other; a bound on the number of
steps, taken from the length of the document, shows that they end.  Lists and tables inside each
other take up room, of which there is so much and no more.

## Main definitions

* `Toml.value` : a value.
* `Toml.statement` : one line with its effect on the table.
* `Toml.read` : the table of a document.
-/

namespace GrammarForm.Toml

/-- A comment, up to the end of its line; nothing if a character may not stand in it. -/
def skipComment? : List Char → Option (List Char)
  | '#' :: cs =>
    if (cs.takeWhile (· != '\n')).any isControl then none else some (cs.dropWhile (· != '\n'))
  | cs => some cs

/-- The characters without the blanks, line ends and comments at their beginning.  The first
argument bounds the number of comments. -/
def skipGaps? : Nat → List Char → Option (List Char)
  | 0, _ => none
  | n + 1, cs =>
    match cs.dropWhile fun c => isBlank c || c == '\n' with
    | '#' :: rest =>
      match skipComment? ('#' :: rest) with
      | some rest => skipGaps? n rest
      | none => none
    | rest => some rest

/-- The characters without the blanks, line ends and comments at their beginning. -/
def gaps (cs : List Char) : Except Fault (List Char) :=
  match skipGaps? (cs.length + 1) cs with
  | some rest => .ok rest
  | none => .error .malformed

/-- A found value, or a malformed document. -/
def orMalformed {α : Type} : Option α → Except Fault α
  | some x => .ok x
  | none => .error .malformed

/-- A value that is neither a list nor a table. -/
def scalar (cs : List Char) : Except Fault (Data × List Char) :=
  match cs with
  | 't' :: 'r' :: 'u' :: 'e' :: rest => .ok (.bool true, rest)
  | 'f' :: 'a' :: 'l' :: 's' :: 'e' :: rest => .ok (.bool false, rest)
  | '"' :: _ => (orMalformed (quotedText? cs)).map fun (s, rest) => (.string s, rest)
  | '\'' :: _ => (orMalformed (quotedText? cs)).map fun (s, rest) => (.string s, rest)
  | _ => do
    let (d, rest) ← orMalformed ((moment? cs).or (number? cs))
    .ok (← d, rest)

/-- A key, an equals sign and the blanks around it. -/
def keyBefore (cs : List Char) : Except Fault (List String × List Char) := do
  let (key, rest) ← orMalformed (key? cs)
  match rest with
  | '=' :: rest => .ok (key, skipBlanks rest)
  | _ => .error .malformed

/-- The room for lists and tables inside each other. -/
def wholeRoom : Nat := 980

/-- The room that a list takes up. -/
def listRoom : Nat := 2

/-- The room that a table on one line takes up. -/
def tableRoom : Nat := 3

mutual

/-- A value that has some room for what it contains.  The first argument bounds the number of
steps. -/
def value : Nat → Nat → List Char → Except Fault (Data × List Char)
  | 0, _, _ => .error .malformed
  | n + 1, room, cs =>
    match cs with
    | '[' :: rest =>
      if room < listRoom then .error .tooDeep
      else do items n (room - listRoom) [] (← gaps rest)
    | '\x7b' :: rest =>
      if room < tableRoom then .error .tooDeep
      else
        match skipBlanks rest with
        | '\x7d' :: rest => .ok (.table [], rest)
        | rest => inlineEntries n (room - tableRoom) [] rest
    | cs => scalar cs

/-- The items of a list after those in `done`, which are last first. -/
def items : Nat → Nat → List Data → List Char → Except Fault (Data × List Char)
  | 0, _, _, _ => .error .malformed
  | n + 1, room, done, cs =>
    match cs with
    | ']' :: rest => .ok (.array done.reverse, rest)
    | cs => do
      let (d, rest) ← value n room cs
      match ← gaps rest with
      | ']' :: rest => .ok (.array (d :: done).reverse, rest)
      | ',' :: rest => items n room (d :: done) (← gaps rest)
      | _ => .error .malformed

/-- The entries of a table on one line, added to those read before. -/
def inlineEntries : Nat → Nat → Table → List Char → Except Fault (Data × List Char)
  | 0, _, _, _ => .error .malformed
  | n + 1, room, t, cs => do
    let (key, rest) ← keyBefore cs
    let (d, rest) ← value n room rest
    let t ← orMalformed (assign? 0 d key t)
    match skipBlanks rest with
    | '\x7d' :: rest => .ok (.table (tableEntries t), rest)
    | ',' :: rest => inlineEntries n room t (skipBlanks rest)
    | _ => .error .malformed

end

/-- What has been read of a document. -/
structure Document where
  /-- The table so far. -/
  table : Table
  /-- The path of the last header. -/
  path : List String
  /-- The number of headers so far. -/
  number : Nat

/-- A header with its brackets, and what it does to a document. -/
def header (closing : List Char) (opening? : List String → String → Table → Option Table)
    (doc : Document) (cs : List Char) : Except Fault (Document × List Char) := do
  let (key, rest) ← orMalformed (key? (skipBlanks cs))
  let table ← orMalformed (opening? key.dropLast (key.getLastD "") doc.table)
  if closing.isPrefixOf rest then
    .ok (⟨table, key, doc.number + 1⟩, rest.drop closing.length)
  else .error .malformed

/-- A key with its value, and what it does to a document. -/
def entry (doc : Document) (cs : List Char) : Except Fault (Document × List Char) := do
  let (key, rest) ← keyBefore cs
  let (d, rest) ← value (2 * cs.length + 2) wholeRoom rest
  let table ← orMalformed (modifyAt? (assign? doc.number d key) doc.path doc.table)
  .ok ({ doc with table }, rest)

/-- A statement without the line end after it. -/
def statement (doc : Document) (cs : List Char) : Except Fault (Document × List Char) :=
  match cs with
  | '[' :: '[' :: rest => header [']', ']'] openEntry? doc rest
  | '[' :: rest => header [']'] openTable? doc rest
  | '#' :: _ => .ok (doc, cs)
  | '\n' :: _ => .ok (doc, cs)
  | [] => .ok (doc, cs)
  | _ => entry doc cs

/-- The document after its remaining lines.  The first argument bounds their number. -/
def lines : Nat → Document → List Char → Except Fault Document
  | 0, _, _ => .error .malformed
  | n + 1, doc, cs => do
    let (doc, rest) ← statement doc (skipBlanks cs)
    match ← orMalformed (skipComment? (skipBlanks rest)) with
    | [] => .ok doc
    | '\n' :: rest => lines n doc rest
    | _ => .error .malformed

/-- The characters of a document, with one character for each line end. -/
def joinLineEnds : List Char → List Char
  | '\r' :: '\n' :: cs => '\n' :: joinLineEnds cs
  | c :: cs => c :: joinLineEnds cs
  | [] => []

/-- The table of a document. -/
def read (s : String) : Except Fault Data := do
  let cs := joinLineEnds s.toList
  let doc ← lines (cs.length + 1) ⟨[], [], 0⟩ cs
  .ok (.table (tableEntries doc.table))

end GrammarForm.Toml
