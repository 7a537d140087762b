import GrammarForm.Console.Emoji.Flags
import GrammarForm.Console.Emoji.Nature
import GrammarForm.Console.Emoji.People
import GrammarForm.Console.Emoji.Signs
import GrammarForm.Console.Emoji.Things
import GrammarForm.Text.Blank
import GrammarForm.Text.Lowercase

/-!
# Emoji codes

A name of an emoji between two colons is shown as that emoji.  Letters of either case are accepted;
`-text` and `-emoji` after the name ask for the plain and for the colored form.  A code with an
unknown name is left as it is.

## Main definitions

* `Emoji.ofName?` : the emoji with a name.
* `Emoji.decode` : a text with emoji for their codes.
-/

namespace GrammarForm.Console.Emoji

/-- The names in a table and what they stand for. -/
def entriesOf (table : String) : List (String × String) :=
  (Text.words table).filterMap fun word =>
    match word.splitOn "=" with
    | [name, value] => some (name, value)
    | _ => none

/-- The names of emoji that stand in a table as they are. -/
def plainEntries : List (String × String) :=
  [signs, nature, things, people].flatMap entriesOf

/-- The names of emoji that may have a skin tone. -/
def peopleEntries : List (String × String) :=
  entriesOf people

/-- The names of regions with the letters of their flags. -/
def regionEntries : List (String × String) :=
  entriesOf regions

/-- The names of flags that have one form only. -/
def otherFlagEntries : List (String × String) :=
  entriesOf otherFlags

/-- The skin tones and the characters that ask for them. -/
def skinTones : List (String × Char) :=
  [("light", '🏻'), ("medium-light", '🏼'), ("medium", '🏽'), ("medium-dark", '🏾'), ("dark", '🏿')]

/-- The character that asks for the plain form of the one before it. -/
def plainForm : Char := Char.ofNat 0xfe0e

/-- The character that asks for the colored form of the one before it. -/
def coloredForm : Char := Char.ofNat 0xfe0f

/-- A text without its ending; nothing if it does not end so. -/
def withoutEnding? (ending cs : List Char) : Option (List Char) :=
  if ending.isSuffixOf cs then some (cs.take (cs.length - ending.length)) else none

/-- An emoji with a skin tone, which follows its first character and takes the place of a request
for the colored form. -/
def toned (tone : Char) : List Char → List Char
  | [] => []
  | c :: cs => c :: tone :: cs.dropWhile (· == coloredForm)

/-- The emoji with a name that ends in a skin tone. -/
def tonedOfName? (name : List Char) : Option (List Char) :=
  skinTones.findSome? fun (tone, mark) =>
    match withoutEnding? ("_" ++ tone ++ "_skin_tone").toList name with
    | some base => (peopleEntries.lookup (String.ofList base)).map fun s => toned mark s.toList
    | none => none

/-- The flag of a region with two letters. -/
def flag (letters : String) : List Char :=
  letters.toList.map fun c => Char.ofNat (0x1f1e6 + (c.toNat - 'a'.toNat))

/-- The flag with a name. -/
def flagOfName? (name : List Char) : Option (List Char) :=
  let region :=
    if "flag_for_".toList.isPrefixOf name then name.drop "flag_for_".length else name
  ((regionEntries.lookup (String.ofList region)).or
    (otherFlagEntries.lookup (String.ofList name))).map flag

/-- The emoji with a name in small letters. -/
def ofName? (name : List Char) : Option (List Char) :=
  match plainEntries.lookup (String.ofList name) with
  | some s => some s.toList
  | none => (tonedOfName? name).or (flagOfName? name)

/-- The name in a code and the form that the code asks for. -/
def nameAndForm (code : List Char) : List Char × List Char :=
  match withoutEnding? "-text".toList code, withoutEnding? "-emoji".toList code with
  | some name, _ => (name, [plainForm])
  | none, some name => (name, [coloredForm])
  | none, none => (code, [])

/-- The emoji for what stands between two colons. -/
def ofCode? (code : List Char) : Option (List Char) :=
  let (name, form) := nameAndForm code
  (ofName? (Text.lowercase (String.ofList name)).toList).map (· ++ form)

/-- Whether a character may stand in a code. -/
def isCodeChar (c : Char) : Bool :=
  c != ':' && !Text.isBlank c

/-- The characters with emoji for their codes.  The first argument bounds the number of steps. -/
def decodeWithin : Nat → List Char → List Char
  | 0, cs => cs
  | _, [] => []
  | n + 1, ':' :: cs =>
    let code := cs.takeWhile isCodeChar
    match cs.dropWhile isCodeChar with
    | ':' :: rest =>
      (ofCode? code).getD (':' :: (code ++ [':'])) ++ decodeWithin n rest
    | _ => ':' :: decodeWithin n cs
  | n + 1, c :: cs => c :: decodeWithin n cs

/-- The characters with emoji for their codes. -/
def decode (cs : List Char) : List Char :=
  decodeWithin cs.length cs

end GrammarForm.Console.Emoji
