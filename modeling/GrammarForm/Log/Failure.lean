import GrammarForm.Data

/-!
# Failures

A failure has a kind and details, from which its text follows.  Most kinds show their details as
they are.  A failure of the system has a number, which can narrow down its kind, a remark and up to
two files; one of a text that cannot be encoded shows the characters; one of a source text shows its
place.

## Main definitions

* `Failure` : a kind with its text.
* `Failure.ofDetails` : the failure of a kind with some details.
-/

namespace GrammarForm

/-- A failure that a record reports. -/
structure Failure where
  /-- The name of its kind. -/
  kind : String
  message : String
deriving DecidableEq, Repr

namespace Failure

/-- Why there is no failure of a kind with some details. -/
inductive Fault where
  /-- There is no such kind. -/
  | unknownKind
  /-- The details are too few, too many or of other sorts. -/
  | mismatch
  /-- A detail is of the right sort, but not possible. -/
  | impossible
  /-- A number lies beyond 64 bits. -/
  | outOfRange
deriving DecidableEq, Repr

/-! ### Kinds -/

/-- The kinds of failures of the system. -/
def systemKinds : List String :=
  ["OSError", "BlockingIOError", "BrokenPipeError", "ChildProcessError",
    "ConnectionAbortedError", "ConnectionError", "ConnectionRefusedError", "ConnectionResetError",
    "FileExistsError", "FileNotFoundError", "InterruptedError", "IsADirectoryError",
    "NotADirectoryError", "PermissionError", "ProcessLookupError", "TimeoutError"]

/-- The kinds of failures in a source text. -/
def sourceKinds : List String :=
  ["SyntaxError", "IndentationError", "TabError"]

/-- The kinds whose details are shown as they are. -/
def plainKinds : List String :=
  ["ArithmeticError", "AssertionError", "AttributeError", "BaseException", "BufferError",
    "BytesWarning", "DeprecationWarning", "EOFError", "EncodingWarning", "Exception",
    "FloatingPointError", "FutureWarning", "GeneratorExit", "ImportError", "ImportWarning",
    "IndexError", "KeyboardInterrupt", "LookupError", "MemoryError", "ModuleNotFoundError",
    "NameError", "NotImplementedError", "OverflowError", "PendingDeprecationWarning",
    "RecursionError", "ReferenceError", "ResourceWarning", "RuntimeError", "RuntimeWarning",
    "StopAsyncIteration", "StopIteration", "SyntaxWarning", "SystemError", "SystemExit",
    "TypeError", "UnboundLocalError", "UnicodeError", "UnicodeWarning", "UserWarning", "ValueError",
    "Warning", "ZeroDivisionError"]

/-- The kind that a name stands for: two names are older ones of the general failure of the
system. -/
def currentName (kind : String) : String :=
  if kind = "IOError" ∨ kind = "EnvironmentError" then "OSError" else kind

/-- The text of details: one is shown as it is, and several stand in parentheses. -/
def plainMessage : List Data → String
  | [] => ""
  | [d] => d.text
  | ds => "(" ++ Data.quotedItems ds ++ ")"

/-- The text of a missing key, which is quoted. -/
def missingKeyMessage : List Data → String
  | [d] => d.quoted
  | ds => plainMessage ds

/-! ### Failures of the system -/

/-- The kinds that numbers of the system stand for. -/
def kindOfNumber? (n : Int) : Option String :=
  match n with
  | 1 | 13 => some "PermissionError"
  | 2 => some "FileNotFoundError"
  | 3 => some "ProcessLookupError"
  | 4 => some "InterruptedError"
  | 10 => some "ChildProcessError"
  | 11 | 114 | 115 => some "BlockingIOError"
  | 17 => some "FileExistsError"
  | 20 => some "NotADirectoryError"
  | 21 => some "IsADirectoryError"
  | 32 | 108 => some "BrokenPipeError"
  | 103 => some "ConnectionAbortedError"
  | 104 => some "ConnectionResetError"
  | 110 => some "TimeoutError"
  | 111 => some "ConnectionRefusedError"
  | _ => none

/-- The integer that a detail is. -/
def integer? : Data → Option Int
  | .int n => some n
  | .bool b => some (if b then 1 else 0)
  | _ => none

/-- Whether an integer fits a signed 64-bit word. -/
def fits (n : Int) : Bool :=
  decide (-9223372036854775808 ≤ n) && decide (n ≤ 9223372036854775807)

/-- The kind of a failure of the system: the number of a general one narrows it down. -/
def systemKind (kind : String) (number : Data) : String :=
  if kind = "OSError" then ((integer? number).bind kindOfNumber?).getD kind else kind

/-- The files of a failure: the third and the fifth detail.  A failure to wait may have a count in
the place of a file. -/
def files (kind : String) : List Data → Except Fault (List Data)
  | [] => .ok []
  | .null :: _ => .ok []
  | file :: rest =>
    let second :=
      match rest with
      | [_, .null] => []
      | [_, other] => [other]
      | _ => []
    if kind = "BlockingIOError" then
      match file with
      | .float _ => .error .mismatch
      | .int n => if fits n then .ok [] else .error .impossible
      | .bool _ => .ok []
      | file => .ok (file :: second)
    else .ok (file :: second)

/-- A failure of the system.  From two to five details are a number, a remark and files. -/
def ofSystem (kind : String) : List Data → Except Fault Failure
  | number :: remark :: rest =>
    if 3 < rest.length then .ok ⟨kind, plainMessage (number :: remark :: rest)⟩
    else do
      let kind := systemKind kind number
      let files ← files kind rest
      let shown := " -> ".intercalate (files.map Data.quoted)
      return ⟨kind, s!"[Errno {number.text}] {remark.text}" ++
        (if files.isEmpty then "" else ": " ++ shown)⟩
  | details => .ok ⟨kind, plainMessage details⟩

/-! ### Failures of encoding -/

/-- The characters from a position up to another one: one alone is shown by its number. -/
def charactersShown (s : String) (start stop : Int) : String :=
  match (Text.pieces s.toList)[start.toNat]? with
  | some p =>
    if 0 ≤ start ∧ stop = start + 1 then
      s!"character '{String.ofList (Text.numericEscape p.number)}' in position {start}"
    else s!"characters in position {start}-{stop - 1}"
  | none => s!"characters in position {start}-{stop - 1}"

/-- A position in a text. -/
def position (d : Data) : Except Fault Int :=
  match integer? d with
  | none => .error .mismatch
  | some n => if fits n then .ok n else .error .outOfRange

/-- A failure to encode a text, or to translate it where no encoding is given. -/
def ofEncoding (kind start : String) : List Data → Except Fault Failure
  | [.string s, first, last, reason] => do
    let first ← position first
    let last ← position last
    match reason with
    | .string reason => return ⟨kind, start ++ charactersShown s first last ++ ": " ++ reason⟩
    | _ => .error .mismatch
  | _ => .error .mismatch

/-! ### Failures in a source text -/

/-- The parts of a place: the items of an array, the characters of a text or the keys of a table. -/
def parts? : Data → Option (List Data)
  | .array items => some items
  | .string s => some (s.toList.map fun c => .string (String.ofList [c]))
  | .table entries => some (entries.map fun e => .string e.1)
  | _ => none

/-- The last name in a path. -/
def lastName (s : String) : String :=
  String.ofList (s.toList.reverse.takeWhile (· != '/')).reverse

/-- The file and the line of a place, as far as they are given. -/
def placeShown : List Data → List String
  | file :: line :: _ =>
    (match file with
      | .string s => [lastName s]
      | _ => []) ++
    (match line with
      | .int n => [s!"line {if fits n then n else -1}"]
      | _ => [])
  | _ => []

/-- A failure in a source text: a remark, or a remark with a place of four or six parts. -/
def ofSource (kind : String) : List Data → Except Fault Failure
  | [] => .ok ⟨kind, Data.null.text⟩
  | [remark, place] =>
    match parts? place with
    | none => .error .mismatch
    | some parts =>
      if parts.length = 4 ∨ parts.length = 6 then
        let place := placeShown parts
        .ok ⟨kind, remark.text ++
          (if place.isEmpty then "" else " (" ++ ", ".intercalate place ++ ")")⟩
      else .error .mismatch
  | remark :: _ => .ok ⟨kind, remark.text⟩

/-! ### All failures -/

/-- Why there is no group of failures with some details: no detail is a failure. -/
def groupFault : List Data → Fault
  | [.string _, .array _] => .impossible
  | [.string _, .string _] => .impossible
  | _ => .mismatch

/-- The failure of a kind with some details. -/
def ofDetails (name : String) (details : List Data) : Except Fault Failure :=
  let kind := currentName name
  if kind = "KeyError" then .ok ⟨kind, missingKeyMessage details⟩
  else if plainKinds.contains kind then .ok ⟨kind, plainMessage details⟩
  else if systemKinds.contains kind then ofSystem kind details
  else if sourceKinds.contains kind then ofSource kind details
  else if kind = "UnicodeEncodeError" then
    match details with
    | .string encoding :: rest => ofEncoding kind s!"'{encoding}' codec can't encode " rest
    | _ => .error .mismatch
  else if kind = "UnicodeTranslateError" then ofEncoding kind "can't translate " details
  else if kind = "UnicodeDecodeError" then .error .mismatch
  else if kind = "ExceptionGroup" ∨ kind = "BaseExceptionGroup" then .error (groupFault details)
  else .error .unknownKind

end Failure

end GrammarForm
