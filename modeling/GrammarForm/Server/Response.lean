import GrammarForm.Json.Writer
import GrammarForm.Server.Request

/-!
# Responses

A response has a status, headers and a body.  Headers hold only characters of the first 256, so
that a response with another one cannot be sent; a browser accepts only those of ASCII.  The answer
to a script on the page can name
events in a header, bare or with details.

## Main definitions

* `HttpResponse` : a response.
* `ResponseFault` : why a response cannot be sent.
* `triggerHeader` : the header that names events.
* `HttpResponse.html` : a page or a part of one.
* `HttpResponse.received` : a response as a browser reads it.
-/

namespace GrammarForm

/-- A response. -/
structure HttpResponse where
  status : Nat := 200
  headers : Headers
  body : String
deriving DecidableEq, Repr

/-- Why a response cannot be sent. -/
inductive ResponseFault where
  /-- A header holds a character beyond the first 256. -/
  | wideHeader
  /-- The name of an event is no text. -/
  | eventNotText
  /-- The bytes of a header are no text in UTF-8, so that a browser cannot read it. -/
  | unreadableHeader
  /-- A browser reads a character beyond ASCII in a header, and refuses it. -/
  | foreignHeader
deriving DecidableEq, Repr

/-- The value of a header, if it can be sent. -/
def sendable (value : String) : Except ResponseFault String :=
  if value.toList.all fun c => decide (c.toNat < 256) then .ok value else .error .wideHeader

/-- A header that was sent, with one byte for each character, as a browser reads it. -/
def readable (value : String) : Except ResponseFault String :=
  if value.toList.all fun c => decide (c.toNat < 128) then .ok value
  else if (String.fromUTF8? ⟨(value.toList.map fun c => c.toNat.toUInt8).toArray⟩).isNone then
    .error .unreadableHeader
  else .error .foreignHeader

/-- The names of events. -/
def eventNames : List Data → Except ResponseFault (List String)
  | [] => .ok []
  | .string s :: rest => (eventNames rest).map (s :: ·)
  | _ :: _ => .error .eventNotText

/-- The header that names events: a list of names, or a table with details.  If none are given there
is no header. -/
def triggerHeader (events : Data) : Except ResponseFault (Option String) :=
  if !events.isGiven then .ok none
  else
    match events with
    | .array names => do
      return some (← sendable (", ".intercalate (← eventNames names)))
    | d => do return some (← sendable (Json.write Json.spaced d))

/-- The event that tells how many lines are still invalid. -/
def updateEvent (valid : Bool) (invalid : Int) : Data :=
  .table [("configUpdated", .table [("valid", .bool valid), ("invalid", .int invalid)])]

namespace HttpResponse

/-- A page or a part of one, with events. -/
def html (body : String) (status : Nat) (events : Data) : Except ResponseFault HttpResponse := do
  let trigger ← triggerHeader events
  return {
    status
    headers := (trigger.map fun t => ("hx-trigger", t)).toList ++
      [("content-type", "text/html; charset=utf-8")]
    body }

/-- A text that is to be saved under a file name. -/
def download (body fileName : String) : Except ResponseFault HttpResponse := do
  let disposition ← sendable ("attachment; filename=\"" ++ fileName ++ "\"")
  return {
    headers := [("content-disposition", disposition),
      ("content-type", "text/plain; charset=utf-8")]
    body }

/-- A value as JSON. -/
def json (status : Nat) (d : Data) : HttpResponse :=
  { status
    headers := [("content-type", "application/json")]
    body := Json.write Json.compact d }

/-- The response to a request that cannot be answered. -/
def failure (status : Nat) (detail : String) : HttpResponse :=
  json status (.table [("detail", .string detail)])

/-- A response as a browser reads it. -/
def received (r : HttpResponse) : Except ResponseFault HttpResponse := do
  let _ ← r.headers.mapM fun h => readable h.2
  return r

end HttpResponse

end GrammarForm
