import GrammarForm.Digest

/-!
# Form keys

Every widget of a form is submitted under a key that is a function of its command, its symbol
and its path, so that a submitted form finds its widgets again.  Names are digested, since they
contain blanks and angle brackets; the digest is a parameter of the definitions here.

## Main definitions

* `Path` : the place of a node, as a list of numbers.
* `widgetKey` : the key of a text field or choice.
* `controlKey` : the key of a control of a repeat group.
-/

namespace GrammarForm

/-- The place of a node in the numbering of a form: the number of the command and then, level by
level, the number of the slot. -/
abbrev Path := List Int

namespace Path

/-- The numbers of a path joined by a separator. -/
def join (separator : String) (path : Path) : String :=
  separator.intercalate (path.map toString)

/-- The numbering shown to the user, such as `5.2.1`. -/
def label (path : Path) : String :=
  path.join "."

/-- The form of a path inside a key. -/
def keyText (path : Path) : String :=
  path.join "_"

end Path

/-- The controls of a repeat group. -/
inductive RepeatControl where
  | count
  | plus
  | minus
deriving DecidableEq, Repr

namespace RepeatControl

/-- The name of a control inside a key. -/
def name : RepeatControl → String
  | count => "count"
  | plus => "plus"
  | minus => "minus"

end RepeatControl

/-- The key of the widget for `symbol` at `path` in a command. -/
def widgetKey (digest : String → String) (command symbol : String) (path : Path) : String :=
  "c-" ++ digest command ++ "-" ++ digest symbol ++ "-" ++ path.keyText

/-- The key of a named control of the repeat group of a command at `path`. -/
def groupKey (digest : String → String) (command : String) (path : Path) (control : String) :
    String :=
  "r-" ++ digest command ++ "-" ++ path.keyText ++ "-" ++ control

/-- The key of a control of the repeat group of a command at `path`. -/
def controlKey (digest : String → String) (command : String) (path : Path)
    (control : RepeatControl) : String :=
  groupKey digest command path control.name

end GrammarForm
