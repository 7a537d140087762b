/-!
# HTML

A page is a tree of elements and texts.  Only writing it gives a text: there the texts and the
values of attributes are escaped, so that they can neither open nor close an element.

## Main definitions

* `Html` : a piece of a page.
* `Html.escape` : a text as it stands in a page.
* `Html.write` : the text of a piece.
-/

namespace GrammarForm

/-- An attribute of an element.  Without a value it is a switch. -/
structure Html.Attribute where
  name : String
  value : Option String
  /-- The blanks before the attribute. -/
  gap : String := " "
deriving DecidableEq, Repr

/-- A piece of a page. -/
inductive Html where
  /-- A text, escaped where it is written. -/
  | text (s : String)
  /-- A character given by its name or number. -/
  | reference (name : String)
  /-- A text that is written as it is, such as a style sheet. -/
  | raw (s : String)
  /-- An element with its content. -/
  | element (name : String) (attributes : List Html.Attribute) (content : List Html)
  /-- An element that has no content and no end. -/
  | void (name : String) (attributes : List Html.Attribute)
deriving Repr

namespace Html

/-- A character as it stands in a page. -/
def escapeChar (c : Char) : List Char :=
  if c = '&' then "&amp;".toList
  else if c = '<' then "&lt;".toList
  else if c = '>' then "&gt;".toList
  else if c = '\'' then "&#39;".toList
  else if c = '"' then "&#34;".toList
  else [c]

/-- A text as it stands in a page. -/
def escape (s : String) : String :=
  String.ofList (s.toList.flatMap escapeChar)

namespace Attribute

/-- The text of an attribute. -/
def write (a : Attribute) : String :=
  match a.value with
  | none => a.gap ++ a.name
  | some v => a.gap ++ a.name ++ "=\"" ++ escape v ++ "\""

end Attribute

/-- The beginning of an element. -/
def openingTag (name : String) (attributes : List Attribute) : String :=
  "<" ++ name ++ String.join (attributes.map (·.write)) ++ ">"

mutual

/-- The text of a piece. -/
def write : Html → String
  | text s => escape s
  | reference name => "&" ++ name ++ ";"
  | raw s => s
  | element name attributes content =>
    openingTag name attributes ++ writeAll content ++ "</" ++ name ++ ">"
  | void name attributes => openingTag name attributes

/-- The text of several pieces. -/
def writeAll : List Html → String
  | [] => ""
  | h :: rest => h.write ++ writeAll rest

end

/-- An attribute with a value. -/
def attr (name value : String) : Attribute :=
  { name, value := some value }

/-- An attribute with a value on a line of its own. -/
def attrAfter (gap name value : String) : Attribute :=
  { name, value := some value, gap }

/-- A switch that is there under a condition. -/
def switch (on : Bool) (name : String) : List Attribute :=
  if on then [{ name, value := none }] else []

/-- A piece on a line of its own. -/
def ownLine (indent : String) (h : Html) : List Html :=
  [text indent, h, text "\n"]

end Html

end GrammarForm
