import GrammarForm.Console.Emoji
import GrammarForm.Console.Handler
import GrammarForm.Console.Style

/-!
# Marked-up text

A text for a console may hold tags in brackets that switch a style on or, with a slash, off again.
A backslash before a tag makes it plain text.  A console without styles shows the text alone, but a
closing tag must still have an opening one with the same style.

## Main definitions

* `Markup.pieces` : the texts and tags of a marked-up text.
* `Markup.plain` : the text without its tags.
* `Markup.escaped` : a text whose tags are protected.
-/

namespace GrammarForm.Markup

/-- A piece of a marked-up text. -/
inductive Piece where
  | text (cs : List Char)
  | tag (content : List Char)
deriving DecidableEq, Repr

/-- The characters with which a tag can begin. -/
def isTagStart (c : Char) : Bool :=
  (decide ('a' ≤ c) && decide (c ≤ 'z')) || c == '#' || c == '/' || c == '@'

/-- The content of a tag after its opening bracket, and what follows the tag. -/
def tag? : List Char → Option (List Char × List Char)
  | [] => none
  | c :: cs =>
    if isTagStart c then
      match cs.dropWhile fun d => d != ']' && d != '[' with
      | ']' :: after => some (c :: cs.takeWhile fun d => d != ']' && d != '[', after)
      | _ => none
    else none

/-- A plain text in which a backslash no longer protects a bracket. -/
def unprotected : List Char → List Char
  | '\\' :: '[' :: cs => '[' :: unprotected cs
  | c :: cs => c :: unprotected cs
  | [] => []

/-- The pieces after a plain text, which is given last character first.  The first argument bounds
the number of steps. -/
def piecesWithin : Nat → List Char → List Char → List Piece
  | 0, done, _ => [.text (unprotected done.reverse)]
  | n + 1, done, cs =>
    match cs with
    | [] => [.text (unprotected done.reverse)]
    | '[' :: rest =>
      match tag? rest with
      | some (content, after) =>
        .text (unprotected done.reverse) :: .tag content :: piecesWithin n [] after
      | none => piecesWithin n ('[' :: done) rest
    | '\\' :: rest =>
      let slashes := '\\' :: rest.takeWhile (· == '\\')
      match rest.dropWhile (· == '\\') with
      | '[' :: inner =>
        match tag? inner with
        | some (content, after) =>
          let kept := .text (slashes.take (slashes.length / 2))
          let shown := if slashes.length % 2 = 1 then .text ('[' :: content ++ [']'])
            else .tag content
          .text (unprotected done.reverse) :: kept :: shown :: piecesWithin n [] after
        | none => piecesWithin n ('[' :: (slashes ++ done)) inner
      | after => piecesWithin n (slashes ++ done) after
    | c :: rest => piecesWithin n (c :: done) rest

/-- The characters with a backslash before each tag and with twice the backslashes that stand before
it.  The first argument bounds the number of steps. -/
def escapedWithin : Nat → List Char → List Char
  | 0, cs => cs
  | n + 1, cs =>
    let slashes := cs.takeWhile (· == '\\')
    match cs.dropWhile (· == '\\') with
    | [] => slashes
    | '[' :: rest =>
      match tag? rest with
      | some (content, after) =>
        slashes ++ slashes ++ '\\' :: '[' :: content ++ ']' :: escapedWithin n after
      | none => slashes ++ '[' :: escapedWithin n rest
    | c :: rest => slashes ++ c :: escapedWithin n rest

/-- A text whose tags are protected.  A single backslash at its end is doubled, so that it does not
protect what follows. -/
def escaped (s : String) : String :=
  let cs := escapedWithin (s.length + 1) s.toList
  let doubled := cs.getLast? = some '\\' && cs.dropLast.getLast? != some '\\'
  String.ofList (if doubled then cs ++ ['\\'] else cs)

/-- The texts and tags of a marked-up text. -/
def pieces (s : String) : List Piece :=
  piecesWithin (s.length + 1) [] s.toList

/-! ### Styles -/

/-- Why a marked-up text is not shown. -/
inductive Fault where
  /-- A closing tag has no opening one. -/
  | unopened
  /-- The value of a tag is neither a handler nor made of literals. -/
  | badHandler
  /-- A part of a color is no number that is converted. -/
  | notNumber
deriving DecidableEq, Repr

/-- A style that was switched on: the normal form of its definition and the value of its tag. -/
structure OpenTag where
  name : String
  value : Option (List Char)
deriving DecidableEq, Repr

/-- The normal form of a style. -/
def styleName (definition : List Char) : Except Fault String :=
  (Console.Style.normalForm (String.ofList definition)).mapError fun _ => .notNumber

/-- The name in a tag and the value after an equals sign. -/
def nameAndValue (content : List Char) : List Char × Option (List Char) :=
  match content.dropWhile (· != '=') with
  | [] => (content, none)
  | _ :: value => (content.takeWhile (· != '='), some value)

/-- The tag that a closing tag ends and the tags that stay open; nothing if it is not open. -/
def closeTag (name : String) : List OpenTag → Option (OpenTag × List OpenTag)
  | [] => none
  | t :: rest =>
    if t.name = name then some (t, rest)
    else (closeTag name rest).map fun (closed, others) => (closed, t :: others)

/-- Whether a tag may be closed: an event has a handler or literals as its value. -/
def checkClosed (t : OpenTag) : Except Fault Unit :=
  match t.value with
  | some value =>
    if t.name.startsWith "@" && !value.isEmpty && !Console.Handler.isWellFormed (String.ofList value)
    then .error .badHandler
    else .ok ()
  | none => .ok ()

/-- Whether a style is understood when it is applied, its value belonging to its definition. -/
def checkApplied (t : OpenTag) : Except Fault Unit :=
  match t.value with
  | some value => (styleName (t.name.toList ++ ' ' :: value)).map fun _ => ()
  | none => .ok ()

/-- What was read of a marked-up text. -/
structure Progress where
  /-- The text so far, its parts last first. -/
  shown : List (List Char) := []
  /-- The tags that are open, the innermost one first. -/
  opened : List OpenTag := []
  /-- The tags whose styles are applied. -/
  applied : List OpenTag := []

/-- The progress after the closing tag of another one. -/
def Progress.close (p : Progress) (found : Option (OpenTag × List OpenTag)) :
    Except Fault Progress :=
  match found with
  | none => .error .unopened
  | some (closed, opened) => do
    checkClosed closed
    let applied := if closed.name.startsWith "@" then p.applied else closed :: p.applied
    return { p with opened, applied }

/-- The progress after a piece.  Emoji codes stand for emoji in each piece of text alone. -/
def Progress.add (p : Progress) : Piece → Except Fault Progress
  | .text cs => .ok { p with shown := Console.Emoji.decode cs :: p.shown }
  | .tag content =>
    match nameAndValue content with
    | ('/' :: name, _) => do
      let name := Text.trim (String.ofList name)
      if name = "" then
        p.close (p.opened.head?.map fun t => (t, p.opened.drop 1))
      else p.close (closeTag (← styleName name.toList) p.opened)
    | (name, value) => do
      return { p with opened := { name := ← styleName name, value } :: p.opened }

/-- The characters of a marked-up text without its tags. -/
def plain (s : String) : Except Fault (List Char) := do
  let p ← (pieces s).foldlM Progress.add {}
  (p.opened ++ p.applied).forM checkApplied
  return p.shown.reverse.flatten

end GrammarForm.Markup
