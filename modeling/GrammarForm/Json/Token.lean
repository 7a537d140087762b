import GrammarForm.Data
import GrammarForm.Text.Decimal

/-!
# The words of JSON

The characters of a JSON text are grouped into marks, texts and scalars, one character at a time.
Between the words stand blanks, which are dropped.  The words are found up to the place where the
text is no longer well formed; what a scalar denotes is left open.

## Main definitions

* `Json.Token` : marks, texts and scalars.
* `Json.readScalar` : the value a scalar denotes.
* `Json.words` : the words of a text.
-/

namespace GrammarForm.Json

/-- Why a JSON text has no value. -/
inductive Fault where
  /-- The text is not well formed. -/
  | malformed
  /-- An integer has more digits than are converted. -/
  | integerTooLong
  /-- Too many arrays and tables stand inside each other. -/
  | tooDeep
deriving DecidableEq, Repr

/-- A word of a JSON text. -/
inductive Token where
  | openArray
  | closeArray
  | openTable
  | closeTable
  | colon
  | comma
  | text (s : String)
  /-- A word that is no mark and no text. -/
  | scalar (cs : List Char)
deriving Repr, Inhabited

/-- The number of digits beyond which an integer is not converted. -/
def integerDigitLimit : Nat := 4300

/-- The digits after a sign. -/
def unsigned : List Char → List Char
  | '-' :: cs => cs
  | cs => cs

/-- The number denoted by digits, of which there is at least one. -/
def readDigits (cs : List Char) : Option Nat :=
  if !cs.isEmpty && cs.all Char.isDigit then some (Decimal.value cs) else none

/-- The value of an exponent with an optional sign. -/
def readExponent : List Char → Option Int
  | '-' :: cs => (readDigits cs).map fun n => -(n : Int)
  | '+' :: cs => (readDigits cs).map fun n => (n : Int)
  | cs => (readDigits cs).map fun n => (n : Int)

/-- Whether a character starts an exponent. -/
def isExponentMark (c : Char) : Bool :=
  c == 'e' || c == 'E'

/-- The value of an integer with a sign and digits, of which there may be too many. -/
def readInteger (negative : Bool) (digits : List Char) : Except Fault Data :=
  if integerDigitLimit < digits.length then .error .integerTooLong
  else .ok (.int (if negative then -(Decimal.value digits : Int) else Decimal.value digits))

/-- Whether characters behind digits begin a fraction or an exponent. -/
def continuesNumber : List Char → Bool
  | '.' :: c :: _ => c.isDigit
  | mark :: '+' :: c :: _ => isExponentMark mark && c.isDigit
  | mark :: '-' :: c :: _ => isExponentMark mark && c.isDigit
  | mark :: c :: _ => isExponentMark mark && c.isDigit
  | _ => false

/-- The fault of a word that begins with an integer but is no number.  An integer that is followed
by no fraction and no exponent is converted before the characters behind it are looked at. -/
def numberFault (whole rest : List Char) : Fault :=
  if !continuesNumber rest && integerDigitLimit < whole.length then .integerTooLong
  else .malformed

/-- The value of a numeral: an integer, or a number with a fraction or an exponent. -/
def readNumber (cs : List Char) : Except Fault Data :=
  let negative := cs.head? == some '-'
  let mantissa := (unsigned cs).takeWhile (!isExponentMark ·)
  let whole := mantissa.takeWhile Char.isDigit
  let places := mantissa.dropWhile Char.isDigit
  let fraction? : Option (List Char) :=
    match places with
    | [] => some []
    | '.' :: ds => if !ds.isEmpty && ds.all Char.isDigit then some ds else none
    | _ => none
  let exponent? : Option Int :=
    match (unsigned cs).dropWhile (!isExponentMark ·) with
    | [] => some 0
    | _ :: ds => readExponent ds
  if !Decimal.isNatural whole then .error .malformed
  else if (unsigned cs).length = whole.length then readInteger negative whole
  else
    match fraction?, exponent? with
    | some fraction, some exponent =>
      .ok (.float (.ofDecimal negative (Decimal.value (whole ++ fraction))
        (exponent - fraction.length)))
    | _, _ => .error (numberFault whole ((unsigned cs).drop whole.length))

/-- The value of a word that is no mark and no text. -/
def readScalar (cs : List Char) : Except Fault Data :=
  if cs = "null".toList then .ok .null
  else if cs = "true".toList then .ok (.bool true)
  else if cs = "false".toList then .ok (.bool false)
  else if cs = "NaN".toList then .ok (.float .notANumber)
  else if cs = "Infinity".toList then .ok (.float (.infinite false))
  else if cs = "-Infinity".toList then .ok (.float (.infinite true))
  else readNumber cs

/-- The blanks between words. -/
def isGap (c : Char) : Bool :=
  c == ' ' || c == '\t' || c == '\n' || c == '\r'

/-- The mark that a character is. -/
def mark? : Char → Option Token
  | '[' => some .openArray
  | ']' => some .closeArray
  | '\x7b' => some .openTable
  | '\x7d' => some .closeTable
  | ':' => some .colon
  | ',' => some .comma
  | _ => none

/-- The character that a one-letter escape stands for. -/
def escaped? : Char → Option Char
  | '"' => some '"'
  | '\\' => some '\\'
  | '/' => some '/'
  | 'b' => some (Char.ofNat 8)
  | 'f' => some (Char.ofNat 12)
  | 'n' => some '\n'
  | 'r' => some '\r'
  | 't' => some '\t'
  | _ => none

/-- The value of a hexadecimal digit. -/
def hexValue? (c : Char) : Option Nat :=
  if c.isDigit then some (c.toNat - 48)
  else if 'a' ≤ c ∧ c ≤ 'f' then some (c.toNat - 87)
  else if 'A' ≤ c ∧ c ≤ 'F' then some (c.toNat - 55)
  else none

/-- What the characters read so far belong to. -/
inductive Mode where
  /-- Between words. -/
  | between
  /-- Inside a scalar, its characters last first. -/
  | scalar (done : List Char)
  /-- Inside a text, its characters last first and perhaps the first half of a pair. -/
  | text (done : List Char) (half : Option Nat)
  /-- After a backslash in a text. -/
  | escape (done : List Char) (half : Option Nat)
  /-- Inside a numeric escape, with the number of digits to come and the value so far. -/
  | unicode (done : List Char) (half : Option Nat) (missing : Nat) (value : Nat)

/-- The characters of a text after a pending half of a pair is given up. -/
def settle (done : List Char) : Option Nat → List Char
  | none => done
  | some half => (Text.ofHalf half).reverse ++ done

/-- The state after a code unit in a text. -/
def addUnit (done : List Char) (half : Option Nat) (n : Nat) : Mode :=
  match half with
  | some h =>
    if Text.isLowHalf n then .text (Text.ofPair h n :: done) none
    else if Text.isHighHalf n then .text (settle done half) (some n)
    else .text ((Text.ofUnit n).reverse ++ settle done half) none
  | none =>
    if Text.isHighHalf n then .text done (some n)
    else .text ((Text.ofUnit n).reverse ++ done) none

/-- The word and the state that a character between words leads to. -/
def begin (c : Char) : List Token × Mode :=
  if isGap c then ([], .between)
  else
    match mark? c with
    | some t => ([t], .between)
    | none => if c = '"' then ([], .text [] none) else ([], .scalar [c])

/-- The words finished by a character, and the state after it; nothing if no word continues with
it. -/
def advance (mode : Mode) (c : Char) : Option (List Token × Mode) :=
  match mode with
  | .between => some (begin c)
  | .scalar done =>
    if isGap c || (mark? c).isSome || c = '"' then
      let (ts, mode) := begin c
      some (.scalar done.reverse :: ts, mode)
    else some ([], .scalar (c :: done))
  | .text done half =>
    if c = '"' then some ([.text (String.ofList (settle done half).reverse)], .between)
    else if c = '\\' then some ([], .escape done half)
    else if c.toNat < 32 then none
    else some ([], .text (c :: settle done half) none)
  | .escape done half =>
    if c = 'u' then some ([], .unicode done half 3 0)
    else (escaped? c).map fun e => ([], .text (e :: settle done half) none)
  | .unicode done half missing value =>
    match hexValue? c, missing with
    | none, _ => none
    | some h, 0 => some ([], addUnit done half (value * 16 + h))
    | some h, missing + 1 => some ([], .unicode done half missing (value * 16 + h))

/-- The last word, at the end of the text; nothing in the middle of a text in quotes. -/
def finish : Mode → Option (List Token)
  | .between => some []
  | .scalar done => some [.scalar done.reverse]
  | _ => none

/-- The words of a text. -/
structure Words where
  /-- The words up to the first place where the text is not well formed. -/
  found : List Token
  /-- Whether there is no such place. -/
  complete : Bool
deriving Repr, Inhabited

/-- The words of the remaining characters after the words `done`, which are last first. -/
def wordsFrom (mode : Mode) (done : List Token) : List Char → Words
  | [] =>
    match finish mode with
    | some ts => ⟨done.reverse ++ ts, true⟩
    | none => ⟨done.reverse, false⟩
  | c :: cs =>
    match advance mode c with
    | some (ts, mode) => wordsFrom mode (ts.reverse ++ done) cs
    | none => ⟨done.reverse, false⟩

/-- The words of a JSON text. -/
def words (s : String) : Words :=
  wordsFrom .between [] s.toList

end GrammarForm.Json
