import GrammarForm.Json.Token

/-!
# Reading JSON

The words of a JSON text drive a machine with a stack of the arrays and tables that are still
open, of which there is a greatest number.  A key that occurs twice in a table keeps its first
place and its last value.

## Main definitions

* `Json.read` : the value of a JSON text.
-/

namespace GrammarForm.Json

/-- An array or table that is still open. -/
inductive Frame where
  /-- An array, its items last first. -/
  | items (done : List Data)
  /-- A table that waits for the value of a key. -/
  | entry (done : Entries Data) (key : String)

/-- What the reader expects next. -/
inductive State where
  /-- A value, or the end of an array that was just opened. -/
  | value (outer : List Frame) (closable : Bool)
  /-- A comma or the end of an array. -/
  | afterItem (outer : List Frame) (done : List Data)
  /-- A key, or the end of a table that was just opened. -/
  | key (outer : List Frame) (done : Entries Data) (closable : Bool)
  /-- The colon after a key. -/
  | afterKey (outer : List Frame) (done : Entries Data) (key : String)
  /-- A comma or the end of a table. -/
  | afterEntry (outer : List Frame) (done : Entries Data)
  /-- The end of the text. -/
  | finished (d : Data)

/-- The state after a value is complete. -/
def deliver (d : Data) : List Frame → State
  | [] => .finished d
  | .items done :: outer => .afterItem outer (d :: done)
  | .entry done key :: outer => .afterEntry outer (Entries.insert key d done)

/-- The state after a word.  A scalar is converted where it stands, so that of several faults the
first one counts. -/
def step : State → Token → Except Fault State
  | .value outer _, .text s => .ok (deliver (.string s) outer)
  | .value outer _, .scalar cs => (readScalar cs).map fun d => deliver d outer
  | .value outer _, .openArray => .ok (.value (.items [] :: outer) true)
  | .value outer _, .openTable => .ok (.key outer [] true)
  | .value (.items _ :: outer) true, .closeArray => .ok (deliver (.array []) outer)
  | .afterItem outer done, .comma => .ok (.value (.items done :: outer) false)
  | .afterItem outer done, .closeArray => .ok (deliver (.array done.reverse) outer)
  | .key outer done _, .text s => .ok (.afterKey outer done s)
  | .key outer _ true, .closeTable => .ok (deliver (.table []) outer)
  | .afterKey outer done key, .colon => .ok (.value (.entry done key :: outer) false)
  | .afterEntry outer done, .comma => .ok (.key outer done false)
  | .afterEntry outer done, .closeTable => .ok (deliver (.table done) outer)
  | _, _ => .error .malformed

/-- The number of arrays and tables that may stand inside each other. -/
def depthLimit : Nat := 10000

/-- The number of open arrays and tables after a word. -/
def depthAfter (depth : Nat) : Token → Nat
  | .openArray => depth + 1
  | .openTable => depth + 1
  | .closeArray => depth - 1
  | .closeTable => depth - 1
  | _ => depth

/-- The state and the number of open arrays and tables after a word. -/
def stepWithin (s : State × Nat) (t : Token) : Except Fault (State × Nat) := do
  let state ← step s.1 t
  if depthLimit < depthAfter s.2 t then .error .tooDeep else .ok (state, depthAfter s.2 t)

/-- The value of the words of a text. -/
def ofWords (ws : Words) : Except Fault Data := do
  match ← ws.found.foldlM stepWithin (.value [] false, 0) with
  | (.finished d, _) => if ws.complete then .ok d else .error .malformed
  | _ => .error .malformed

/-- The value of a JSON text. -/
def read (s : String) : Except Fault Data :=
  ofWords (words s)

end GrammarForm.Json
