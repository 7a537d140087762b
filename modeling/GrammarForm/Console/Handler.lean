import GrammarForm.Json.Token

/-!
# Handlers in tags

A tag whose name begins with an at sign may name a handler with arguments in brackets, or give
values alone.  The arguments and values are literals: numbers, texts, `None`, `True` and `False`,
tuples in round brackets, and sets and tables in curly brackets.

## Main definitions

* `Handler.Token`, `Handler.tokens?` : the words of literals.
* `Handler.expression` : a literal at the beginning of a list of words.
* `Handler.isWellFormed` : whether the value of a tag is a handler or literals.
-/

namespace GrammarForm.Console.Handler

/-- A word of a literal. -/
inductive Token where
  /-- An integer or a number with a fraction. -/
  | real
  /-- An imaginary number. -/
  | imaginary
  /-- A text. -/
  | text
  /-- A list of bytes that is written like a text. -/
  | bytes
  /-- Three dots. -/
  | dots
  | name (s : String)
  | mark (c : Char)
  | lineEnd
deriving DecidableEq, Repr

/-- Whether a character may stand in a name. -/
def isNameChar (c : Char) : Bool :=
  c.isAlphanum || c == '_' || decide (127 < c.toNat)

/-! ### Numbers -/

/-- Whether characters are digits of a class, between which single underscores may stand. -/
def isGrouped (isDigit : Char → Bool) : List Char → Bool
  | [] => false
  | [c] => isDigit c
  | c :: '_' :: rest => isDigit c && isGrouped isDigit rest
  | c :: rest => isDigit c && isGrouped isDigit rest

/-- The class of the digits after a mark of a base. -/
def digitsOfBase? (mark : Char) : Option (Char → Bool) :=
  match mark.toLower with
  | 'x' => some fun c => (Json.hexValue? c).isSome
  | 'o' => some fun c => decide ('0' ≤ c) && decide (c ≤ '7')
  | 'b' => some fun c => c == '0' || c == '1'
  | _ => none

/-- Whether digits after the mark of a base are a number, perhaps after an underscore. -/
def isBased (isDigit : Char → Bool) : List Char → Bool
  | '_' :: ds => isGrouped isDigit ds
  | ds => isGrouped isDigit ds

/-- Whether digits are an integer: without zeros at its beginning unless it is zero, and not longer
than is converted. -/
def isInteger (ds : List Char) : Bool :=
  isGrouped Char.isDigit ds && (ds.head? != some '0' || ds.all fun c => c == '0' || c == '_') &&
    decide ((ds.filter Char.isDigit).length ≤ Json.integerDigitLimit)

/-- The exponent at the beginning of characters, with the characters after it: whether it is well
formed where there is one. -/
def exponent? : List Char → Option (Bool × List Char)
  | c :: cs =>
    if c.toLower = 'e' then
      let cs := match cs with
        | '+' :: ds => ds
        | '-' :: ds => ds
        | ds => ds
      let ds := cs.takeWhile fun c => c.isDigit || c == '_'
      if isGrouped Char.isDigit ds then some (true, cs.drop ds.length) else none
    else some (false, c :: cs)
  | [] => some (false, [])

/-- A number in the decimal system. -/
def decimal? (cs : List Char) : Option (Token × List Char) := do
  let isPart := fun c : Char => c.isDigit || c == '_'
  let whole := cs.takeWhile isPart
  let (fraction?, rest) := match cs.drop whole.length with
    | '.' :: rest => (some (rest.takeWhile isPart), rest.dropWhile isPart)
    | rest => (none, rest)
  let fraction := fraction?.getD []
  let (hasExponent, rest) ← exponent? rest
  let groups := [whole, fraction].filter fun ds => !ds.isEmpty
  if groups.isEmpty || !groups.all (isGrouped Char.isDigit) then none
  else
    match rest with
    | 'j' :: rest => some (.imaginary, rest)
    | 'J' :: rest => some (.imaginary, rest)
    | rest =>
      if fraction?.isSome || hasExponent || isInteger whole then some (.real, rest) else none

/-- A number, which no name may follow at once. -/
def number? (cs : List Char) : Option (Token × List Char) := do
  let (token, rest) ← match cs with
    | '0' :: mark :: ds =>
      match digitsOfBase? mark with
      | some isDigit =>
        let body := ds.takeWhile isNameChar
        if isBased isDigit body then some (Token.real, ds.drop body.length) else none
      | none => decimal? cs
    | cs => decimal? cs
  if rest.head?.any isNameChar then none else some (token, rest)

/-! ### Texts -/

/-- The number of hexadecimal digits after a letter in an escape. -/
def escapeDigits : Char → Nat
  | 'x' => 2
  | 'u' => 4
  | 'U' => 8
  | _ => 0

/-- Whether what follows a backslash is an escape that a text understands. -/
def isEscape (isBytes : Bool) : List Char → Bool
  | 'N' :: cs =>
    isBytes || (match cs with
      | '\x7b' :: name => (name.takeWhile fun c => c.isAlphanum || c == ' ' || c == '-') != [] &&
          (name.dropWhile fun c => c.isAlphanum || c == ' ' || c == '-').head? == some '\x7d'
      | _ => false)
  | c :: cs =>
    if isBytes && c != 'x' then true
    else
      let ds := cs.take (escapeDigits c)
      ds.length == escapeDigits c && ds.all (fun d => (Json.hexValue? d).isSome) &&
        decide (ds.foldl (fun n d => 16 * n + (Json.hexValue? d).getD 0) 0 < 0x110000)
  | [] => false

/-- How a text is written. -/
structure Quotation where
  quote : Char
  /-- Whether three quotes stand at both ends. -/
  isTriple : Bool
  /-- Whether a backslash stands for itself. -/
  isRaw : Bool
  isBytes : Bool

/-- The characters after the end of a text.  The first argument bounds the number of steps. -/
def afterText? (q : Quotation) : Nat → List Char → Option (List Char)
  | 0, _ => none
  | _, [] => none
  | n + 1, c :: cs =>
    if q.isBytes && 127 < c.toNat then none
    else if c = '\\' then
      if q.isRaw || isEscape q.isBytes cs then afterText? q n (cs.drop 1) else none
    else if c = '\n' && !q.isTriple then none
    else if c = q.quote then
      if !q.isTriple then some cs
      else
        match cs with
        | a :: b :: rest => if a = q.quote ∧ b = q.quote then some rest else afterText? q n cs
        | _ => none
    else afterText? q n cs

/-- The letters that may stand before a text, with whether they make it raw and whether they make it
a list of bytes. -/
def textMarks : List (String × Bool × Bool) :=
  [("", false, false), ("u", false, false), ("r", true, false), ("b", false, true),
    ("rb", true, true), ("br", true, true)]

/-- A text after the letters before it. -/
def text? (letters cs : List Char) : Option (Token × List Char) := do
  let (isRaw, isBytes) ← textMarks.lookup (String.ofList (letters.map Char.toLower))
  let quote ← cs.head?
  let isTriple := cs.take 3 == [quote, quote, quote]
  let rest ← afterText? ⟨quote, isTriple, isRaw, isBytes⟩ (cs.length + 1)
    (cs.drop (if isTriple then 3 else 1))
  some (if isBytes then .bytes else .text, rest)

/-! ### Words -/

/-- Whether a character is a quote. -/
def isQuote (c : Char) : Bool :=
  c == '"' || c.toNat == 39

/-- The marks in literals. -/
def marks : List Char :=
  ['(', ')', '\x7b', '\x7d', ',', ':', '+', '-']

/-- The first word of some characters, none of which is a gap at the beginning. -/
def token? (c : Char) (cs : List Char) : Option (Token × List Char) :=
  if c = '\n' then some (.lineEnd, cs)
  else if c.isDigit || (c == '.' && cs.head?.any Char.isDigit) then number? (c :: cs)
  else if c = '.' then
    match cs with
    | '.' :: '.' :: rest => some (.dots, rest)
    | _ => none
  else if isQuote c then text? [] (c :: cs)
  else if isNameChar c then
    let name := (c :: cs).takeWhile isNameChar
    let rest := (c :: cs).dropWhile isNameChar
    if rest.head?.any isQuote then text? name rest else some (.name (String.ofList name), rest)
  else if marks.contains c then some (.mark c, cs)
  else none

/-- The words of literals.  The first argument bounds the number of steps. -/
def tokensWithin : Nat → List Char → Option (List Token)
  | 0, _ => none
  | _, [] => some []
  | n + 1, c :: cs =>
    if c = ' ' ∨ c = '\t' then tokensWithin n cs
    else if c = '#' then tokensWithin n (cs.dropWhile (· != '\n'))
    else if c = '\\' ∧ cs.head? = some '\n' then tokensWithin n (cs.drop 1)
    else do
      let (token, rest) ← token? c cs
      (tokensWithin n rest).map (token :: ·)

/-- The change in the number of open brackets at a word. -/
def depthAfter (depth : Nat) : Token → Nat
  | .mark c =>
    if c = '(' ∨ c = '\x7b' then depth + 1
    else if c = ')' ∨ c = '\x7d' then depth - 1
    else depth
  | _ => depth

/-- The words without the line ends inside brackets and at the end. -/
def joined (depth : Nat) : List Token → List Token
  | [] => []
  | .lineEnd :: ts =>
    if depth = 0 then if ts.all (· == .lineEnd) then [] else .lineEnd :: joined depth ts
    else joined depth ts
  | t :: ts => t :: joined (depthAfter depth t) ts

/-- The words of literals. -/
def tokens? (cs : List Char) : Option (List Token) :=
  (tokensWithin (cs.length + 1) cs).map (joined 0)

/-! ### Literals -/

/-- What a literal is, as far as it decides where it may stand. -/
inductive Kind where
  /-- A number without a sign. -/
  | real
  /-- A number with a sign. -/
  | signed
  /-- An imaginary number without a sign. -/
  | imaginary
  /-- Another value that may be an element of a set. -/
  | value
  /-- A set or a table, or a tuple with one, which may not be an element of a set. -/
  | collection
deriving DecidableEq, Repr

/-- A tuple of literals. -/
def tupleOf (kinds : List Kind) : Kind :=
  if kinds.contains .collection then .collection else .value

/-- Whether no further item follows after a comma. -/
def isAtEnd : List Token → Bool
  | [] => true
  | .mark c :: _ => c == ')' || c == '\x7d'
  | _ => false

/-- The words after a mark. -/
def after? (c : Char) : List Token → Option (List Token)
  | .mark d :: ts => if c = d then some ts else none
  | _ => none

mutual

/-- A literal at the beginning of words.  The first argument bounds the depth. -/
def expression : Nat → List Token → Option (Kind × List Token)
  | 0, _ => none
  | n + 1, ts => do
    let (left, ts) ← operand n ts
    match ts with
    | .mark c :: rest =>
      if c = '+' ∨ c = '-' then
        if left = .real ∨ left = .signed then
          let (right, rest) ← atom n rest
          if right = .imaginary then some (.value, rest) else none
        else none
      else some (left, ts)
    | _ => some (left, ts)

/-- A literal with an optional sign. -/
def operand : Nat → List Token → Option (Kind × List Token)
  | 0, _ => none
  | n + 1, .mark c :: ts =>
    if c = '+' ∨ c = '-' then do
      match ← atom n ts with
      | (.real, rest) => some (.signed, rest)
      | (.imaginary, rest) => some (.value, rest)
      | _ => none
    else atom n (.mark c :: ts)
  | n + 1, ts => atom n ts

/-- A literal without a sign. -/
def atom : Nat → List Token → Option (Kind × List Token)
  | 0, _ => none
  | n + 1, ts =>
    match ts with
    | .real :: rest => some (.real, rest)
    | .imaginary :: rest => some (.imaginary, rest)
    | .dots :: rest => some (.value, rest)
    | .text :: rest => some (.value, rest.dropWhile (· == .text))
    | .bytes :: rest => some (.value, rest.dropWhile (· == .bytes))
    | .name s :: rest =>
      if s = "None" ∨ s = "True" ∨ s = "False" then some (.value, rest)
      else if s = "set" then do
        some (.collection, ← after? ')' (← after? '(' rest))
      else none
    | .mark c :: rest =>
      if c = '(' then
        if rest.head? = some (.mark ')') then some (.value, rest.drop 1)
        else do
          let (kinds, isTuple, rest) ← items n rest
          let rest ← after? ')' rest
          match kinds, isTuple with
          | [kind], false => some (kind, rest)
          | kinds, _ => some (tupleOf kinds, rest)
      else if c = '\x7b' then
        if rest.head? = some (.mark '\x7d') then some (.collection, rest.drop 1)
        else do
          let (first, rest) ← expression n rest
          let rest ← if first = .collection then none else afterFirst n rest
          some (.collection, ← after? '\x7d' rest)
      else none
    | _ => none

/-- Literals between commas, with whether there is a comma. -/
def items : Nat → List Token → Option (List Kind × Bool × List Token)
  | 0, _ => none
  | n + 1, ts => do
    let (kind, ts) ← expression n ts
    match after? ',' ts with
    | none => some ([kind], false, ts)
    | some rest =>
      if isAtEnd rest then some ([kind], true, rest)
      else do
        let (kinds, _, rest) ← items n rest
        some (kind :: kinds, true, rest)

/-- What follows the first element of a set or the first key of a table. -/
def afterFirst : Nat → List Token → Option (List Token)
  | 0, _ => none
  | n + 1, ts =>
    match after? ':' ts with
    | some ts => do
      let (_, ts) ← expression n ts
      moreEntries n ts
    | none =>
      match after? ',' ts with
      | none => some ts
      | some rest =>
        if isAtEnd rest then some rest
        else do
          let (kinds, _, rest) ← items n rest
          if kinds.contains .collection then none else some rest

/-- The entries of a table after the first one. -/
def moreEntries : Nat → List Token → Option (List Token)
  | 0, _ => none
  | n + 1, ts =>
    match after? ',' ts with
    | none => some ts
    | some rest =>
      if isAtEnd rest then some rest
      else do
        let (key, rest) ← expression n rest
        if key = .collection then none
        else
          let (_, rest) ← expression n (← after? ':' rest)
          moreEntries n rest

end

/-- Whether characters are literals. -/
def isLiteral (cs : List Char) : Bool :=
  match tokens? cs with
  | none => false
  | some ts =>
    match items (4 * ts.length + 4) ts with
    | some (_, _, []) => true
    | _ => false

/-- Whether a character may stand in the name of a handler. -/
def isHandlerChar (c : Char) : Bool :=
  isNameChar c || c == '.'

/-- Whether the value of a tag is the name of a handler, perhaps with arguments in brackets, or
literals alone. -/
def isWellFormed (value : String) : Bool :=
  let cs := (Text.trim value).toList
  match cs.dropWhile isHandlerChar with
  | [] => true
  | '(' :: rest =>
    if rest.getLast? = some ')' && !rest.contains '\n' then isLiteral ('(' :: rest)
    else isLiteral cs
  | _ => isLiteral cs

end GrammarForm.Console.Handler
