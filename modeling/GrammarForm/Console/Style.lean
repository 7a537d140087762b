import GrammarForm.Console.Color
import GrammarForm.Entries

/-!
# Styles of a console

A style sets attributes such as bold, a color, a background and a link.  Its definition lists them
as words in any order, and `not` before an attribute switches it off.  Definitions are compared in a
normal form, in which the attributes have a fixed order.

## Main definitions

* `Console.Style` : what a style sets.
* `Console.Style.read` : the style that a definition describes.
* `Console.Style.normalForm` : a definition as it is compared.
-/

namespace GrammarForm.Console

/-- What a style sets. -/
structure Style where
  /-- The attributes that are switched on or off. -/
  attributes : Entries Bool := []
  color : Option String := none
  background : Option String := none
  link : Option String := none

namespace Style

/-- The attributes in the order in which they are listed. -/
def attributeNames : List String :=
  ["bold", "dim", "italic", "underline", "blink", "blink2", "reverse", "conceal", "strike",
    "underline2", "frame", "encircle", "overline"]

/-- The attribute with a short name. -/
def shortNames : List (String × String) :=
  [("b", "bold"), ("d", "dim"), ("i", "italic"), ("u", "underline"), ("r", "reverse"),
    ("c", "conceal"), ("s", "strike"), ("uu", "underline2"), ("o", "overline")]

/-- The attribute that a word names. -/
def attribute? (word : String) : Option String :=
  if attributeNames.contains word then some word else shortNames.lookup word

/-- A style with what the words of a definition set. -/
def readWords (style : Style) : List String → Except StyleFault Style
  | [] => .ok style
  | word :: rest =>
    match Text.lowercase word, rest with
    | "on", [] => .error .unknown
    | "on", name :: rest => do
      readWords { style with background := some (← Color.read name) } rest
    | "not", [] => .error .unknown
    | "not", name :: rest =>
      match attribute? name with
      | some switched =>
        readWords { style with attributes := style.attributes.insert switched false } rest
      | none => .error .unknown
    | "link", [] => .error .unknown
    | "link", target :: rest => readWords { style with link := some target } rest
    | name, rest =>
      match attribute? name with
      | some switched =>
        readWords { style with attributes := style.attributes.insert switched true } rest
      | none => do readWords { style with color := some (← Color.read name) } rest

/-- The style that a definition describes. -/
def read (definition : String) : Except StyleFault Style :=
  if Text.trim definition = "none" then .ok {} else readWords {} (Text.words definition)

/-- The words that describe a style in their fixed order. -/
def words (style : Style) : List String :=
  (attributeNames.flatMap fun name =>
    match style.attributes.lookup name with
    | some true => [name]
    | some false => ["not", name]
    | none => []) ++
  style.color.toList ++
  (style.background.map fun name => ["on", name]).getD [] ++
  (style.link.map fun target => ["link", target]).getD []

/-- The definition that describes a style. -/
def definition (style : Style) : String :=
  if style.words.isEmpty then "none" else " ".intercalate style.words

/-- A definition as it is compared: what is no style is compared in small letters. -/
def normalForm (definition : String) : Except StyleFault String :=
  match read definition with
  | .ok style => .ok style.definition
  | .error .unknown => .ok (Text.lowercase (Text.trim definition))
  | .error .notNumber => .error .notNumber

end Style

end GrammarForm.Console
