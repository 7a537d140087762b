import GrammarForm.Json.Token

/-!
# Texts and keys in TOML

Texts stand in double quotes, with escapes, or in single quotes, without; three quotes let a text
run over several lines.  Keys are bare words or texts on one line.

## Main definitions

* `Toml.basicText`, `Toml.literalText` : the rest of a text after its opening quotes.
* `Toml.quotedText?` : a text with its quotes.
* `Toml.key?` : a dotted key.
-/

namespace GrammarForm.Toml

/-- What a reader found at the beginning of a list of characters, with the characters after it. -/
abbrev Found (α : Type) := Option (α × List Char)

/-- The blanks inside a line. -/
def isBlank (c : Char) : Bool :=
  c == ' ' || c == '\t'

/-- The characters that may not stand in texts and comments. -/
def isControl (c : Char) : Bool :=
  (decide (c.toNat < 32) || c.toNat == 127) && c != '\t'

/-- The characters without the blanks at their beginning. -/
def skipBlanks (cs : List Char) : List Char :=
  cs.dropWhile isBlank

/-- The character that a one-letter escape stands for. -/
def escaped? : Char → Option Char
  | 'b' => some (Char.ofNat 8)
  | 't' => some '\t'
  | 'n' => some '\n'
  | 'f' => some (Char.ofNat 12)
  | 'r' => some '\r'
  | '"' => some '"'
  | '\\' => some '\\'
  | _ => none

/-- The character with a number written in hexadecimal digits. -/
def hexChar? (ds : List Char) : Option Char := do
  let n ← ds.foldlM (fun n c => (Json.hexValue? c).map (16 * n + ·)) 0
  if n < 0xd800 ∨ (0xe000 ≤ n ∧ n < 0x110000) then some (Char.ofNat n) else none

/-- At most two more quotes that belong to a text over several lines, after its closing quotes. -/
def moreQuotes (quote : Char) (done : List Char) (cs : List Char) : List Char × List Char :=
  match cs with
  | a :: b :: rest =>
    if a = quote then
      if b = quote then (quote :: quote :: done, rest) else (quote :: done, b :: rest)
    else (done, cs)
  | [a] => if a = quote then (quote :: done, []) else (done, cs)
  | [] => (done, [])

/-- What a reader of a text leaves out after a backslash at the end of a line. -/
inductive Gap where
  /-- Nothing. -/
  | none
  /-- Blanks, up to the end of the line. -/
  | line
  /-- Blanks and line ends. -/
  | lines
deriving DecidableEq

/-- The rest of a text in double quotes, `done` being its characters so far, last first. -/
def basicText (multiline : Bool) (gap : Gap) (done : List Char) :
    List Char → Found (List Char)
  | [] => none
  | c :: cs =>
    if gap = .line then
      if isBlank c then basicText multiline .line done cs
      else if c = '\n' then basicText multiline .lines done cs
      else none
    else if gap = .lines ∧ (isBlank c ∨ c = '\n') then basicText multiline .lines done cs
    else if c = '"' then
      if multiline then
        match cs with
        | '"' :: '"' :: rest => some (moreQuotes '"' done rest)
        | _ => basicText multiline .none (c :: done) cs
      else some (done, cs)
    else if c = '\\' then
      match cs with
      | 'u' :: a :: b :: d :: e :: rest =>
        match hexChar? [a, b, d, e] with
        | some x => basicText multiline .none (x :: done) rest
        | none => none
      | 'U' :: a :: b :: d :: e :: f :: g :: h :: i :: rest =>
        match hexChar? [a, b, d, e, f, g, h, i] with
        | some x => basicText multiline .none (x :: done) rest
        | none => none
      | e :: rest =>
        if multiline && e == '\n' then basicText multiline .lines done rest
        else if multiline && isBlank e then basicText multiline .line done rest
        else
          match escaped? e with
          | some x => basicText multiline .none (x :: done) rest
          | none => none
      | [] => none
    else if isControl c && !(multiline && c == '\n') then none
    else basicText multiline .none (c :: done) cs

/-- The rest of a text in single quotes, `done` being its characters so far, last first. -/
def literalText (multiline : Bool) (done : List Char) : List Char → Found (List Char)
  | [] => none
  | c :: cs =>
    if c = '\'' then
      if multiline then
        match cs with
        | '\'' :: '\'' :: rest => some (moreQuotes '\'' done rest)
        | _ => literalText multiline (c :: done) cs
      else some (done, cs)
    else if isControl c && !(multiline && c == '\n') then none
    else literalText multiline (c :: done) cs

/-- The characters without a line end at their beginning. -/
def skipLineEnd : List Char → List Char
  | '\n' :: cs => cs
  | cs => cs

/-- Characters in reverse as a text. -/
def reversed (found : List Char × List Char) : String × List Char :=
  (String.ofList found.1.reverse, found.2)

/-- A text on one line with its quotes. -/
def lineText? : List Char → Found String
  | '"' :: cs => (basicText false .none [] cs).map reversed
  | '\'' :: cs => (literalText false [] cs).map reversed
  | _ => none

/-- A text with its quotes. -/
def quotedText? : List Char → Found String
  | '"' :: '"' :: '"' :: cs => (basicText true .none [] (skipLineEnd cs)).map reversed
  | '\'' :: '\'' :: '\'' :: cs => (literalText true [] (skipLineEnd cs)).map reversed
  | cs => lineText? cs

/-- The characters of a bare key. -/
def isKeyChar (c : Char) : Bool :=
  c.isAlphanum || c == '-' || c == '_'

/-- One part of a key. -/
def keyPart? (cs : List Char) : Found String :=
  match cs.takeWhile isKeyChar with
  | [] => lineText? cs
  | word => some (String.ofList word, cs.dropWhile isKeyChar)

/-- A dotted key with the blanks after it.  The first argument bounds the number of parts. -/
def keyParts? : Nat → List Char → Option (List String × List Char)
  | 0, _ => none
  | n + 1, cs => do
    let (part, rest) ← keyPart? cs
    match skipBlanks rest with
    | '.' :: rest =>
      let (parts, rest) ← keyParts? n (skipBlanks rest)
      some (part :: parts, rest)
    | rest => some ([part], rest)

/-- A dotted key with the blanks after it. -/
def key? (cs : List Char) : Found (List String) :=
  keyParts? (cs.length + 1) cs

end GrammarForm.Toml
