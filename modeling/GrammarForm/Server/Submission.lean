import GrammarForm.FormState
import GrammarForm.Text.Blank
import GrammarForm.Text.Lowercase

/-!
# Submitted forms

The parts of a form are texts and files.  A browser sends texts alone as one list of pairs, and
texts with files one by one between boundaries; a header of the request names the kind of the form.
The site reads a form of the kind that was named, up to a number of parts.

## Main definitions

* `FormPart` : a part of a form.
* `Submission` : a form as it was sent.
* `Submission.read` : the values of a form.
-/

namespace GrammarForm

/-- A part of a submitted form. -/
inductive FormPart where
  | text (value : String)
  | file (name content : String)
deriving DecidableEq, Repr

namespace FormPart

/-- The value of a part; nothing for a file that has a name. -/
def value? : FormPart → Option String
  | text value => some value
  | file name content => if name = "" then some content else none

/-- Whether a part is sent as a file, with or without a name. -/
def isFile : FormPart → Bool
  | text _ => false
  | file .. => true

end FormPart

/-- A form as it was sent. -/
structure Submission where
  parts : List (String × FormPart)
  /-- The kind of the form, where a header names it. -/
  named : Option String
deriving Repr

namespace Submission

/-- The kinds of forms. -/
inductive Kind where
  /-- One list of pairs. -/
  | pairs
  /-- Parts between boundaries. -/
  | bounded
deriving DecidableEq, Repr

/-- Why a form is not read. -/
inductive Fault where
  /-- The header names no boundary. -/
  | missingBoundary
  | tooManyTexts
  | tooManyFiles
  /-- The form is not of the kind that the header names. -/
  | wrongKind
deriving DecidableEq, Repr

/-- The number of texts, and of files, that are read. -/
def partLimit : Nat := 1000

/-- The remark that the site makes on a fault; nothing for one that it has no answer for. -/
def Fault.remark? : Fault → Option String
  | missingBoundary => some "Missing boundary in multipart."
  | tooManyTexts => some s!"Too many fields. Maximum number of fields is {partLimit}."
  | tooManyFiles => some s!"Too many files. Maximum number of files is {partLimit}."
  | wrongKind => none

/-- The kind in which a form was sent; nothing for a form without parts. -/
def sentKind? (s : Submission) : Option Kind :=
  if s.parts.any (·.2.isFile) then some .bounded
  else if s.parts.isEmpty then none
  else some .pairs

/-- The kind at the beginning of a header, in small letters. -/
def kindName (header : String) : String :=
  Text.lowercase (Text.trim (String.ofList (header.toList.takeWhile (· != ';'))))

/-- The names of the options in a header behind the kind, in small letters. -/
def optionNames (header : String) : List String :=
  (header.splitOn ";").tail.map fun part =>
    Text.lowercase (Text.trim (String.ofList (part.toList.takeWhile (· != '='))))

/-- The name of the kind with boundaries. -/
def boundedName : String := "multipart/form-data"

/-- The kind of form that the site expects.  Without a header it is the one that was sent; nothing
for a header that names no form. -/
def expectedKind? (s : Submission) : Except Fault (Option Kind) :=
  match s.named with
  | none => .ok s.sentKind?
  | some header =>
    if kindName header = "application/x-www-form-urlencoded" then .ok (some .pairs)
    else if kindName header = boundedName then
      if (optionNames header).contains "boundary" then .ok (some .bounded)
      else .error .missingBoundary
    else .ok none

/-- Whether there are too many parts, after a number of texts and files. -/
def excess? (texts files : Nat) : List (String × FormPart) → Option Fault
  | [] => none
  | (_, part) :: rest =>
    if part.value?.isSome then
      if partLimit ≤ texts then some .tooManyTexts else excess? (texts + 1) files rest
    else if partLimit ≤ files then some .tooManyFiles
    else excess? texts (files + 1) rest

/-- The values of parts.  Of several parts with one key the last counts, and files are left out. -/
def values (parts : List (String × FormPart)) : FormState :=
  (Entries.distinct parts).filterMap fun (key, part) => part.value?.map fun v => (key, v)

/-- The values of a form.  Parts between boundaries that are read as pairs have no keys of the
form, and pairs that are read as parts are at fault.  A browser takes the boundary from a header
that names the kind in small letters. -/
def read (s : Submission) : Except Fault FormState := do
  let followsHeader := (s.named.getD boundedName).startsWith boundedName
  match ← s.expectedKind?, s.sentKind? with
  | some .pairs, some .pairs | some .bounded, some .bounded =>
    if s.sentKind? = some .bounded && !followsHeader then .error .wrongKind
    else
      match excess? 0 0 s.parts with
      | some fault => .error fault
      | none => .ok (values s.parts)
  | some .bounded, some .pairs => .error .wrongKind
  | _, _ => .ok []

end Submission

end GrammarForm
