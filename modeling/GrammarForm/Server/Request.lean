import GrammarForm.Server.Address
import GrammarForm.Server.Submission

/-!
# Requests

A request of a browser has a method, an address, headers and the parts of a submitted form.  A
script on the page can ask for the form alone; it says so, and what caused the request, in headers.

## Main definitions

* `HttpRequest` : a request.
* `HttpRequest.route` : the path on the site that a request asks for.
* `HttpRequest.submission` : the submitted form.
* `PartialRequest` : what a script on the page says about its request.
-/

namespace GrammarForm

/-- Headers with their values. -/
abbrev Headers := List (String × String)

/-- The value of the first header with a name, in letters of either case. -/
def Headers.get? (headers : Headers) (name : String) : Option String :=
  (headers.find? fun h => Text.lowercase h.1 = Text.lowercase name).map (·.2)

/-- Whether a browser can send headers: they hold only characters of ASCII. -/
def Headers.areSendable (headers : Headers) : Bool :=
  headers.all fun (name, value) => (name ++ value).toList.all fun c => decide (c.toNat < 128)

/-- Whether the site can receive headers: they hold only characters of the first 256, once their
names are in small letters. -/
def Headers.areReceivable (headers : Headers) : Bool :=
  headers.all fun (name, value) =>
    (Text.lowercase name ++ value).toList.all fun c => decide (c.toNat < 256)

/-- A request of a browser. -/
structure HttpRequest where
  method : String := "GET"
  address : String
  headers : Headers := []
  parts : List (String × FormPart) := []
deriving Repr

/-- Why a request cannot be sent. -/
inductive RequestFault where
  | address (f : Address.Fault)
  /-- A header holds a character beyond ASCII. -/
  | wideHeader
  /-- A part of the form has no form in bytes. -/
  | unencodablePart
deriving DecidableEq, Repr

/-- Whether a part of a form can be sent. -/
def FormPart.isEncodable : FormPart → Bool
  | text value => Text.isEncodable value
  | file name content => Text.isEncodable name && Text.isEncodable content

namespace HttpRequest

/-- The path on the site that a request asks for, if the request can be sent. -/
def route (r : HttpRequest) : Except RequestFault String := do
  let path ← (Address.target r.address).mapError .address
  if !r.headers.areSendable then .error .wideHeader
  else if !r.parts.all fun (key, part) => Text.isEncodable key && part.isEncodable then
    .error .unencodablePart
  else .ok path

/-- The submitted form. -/
def submission (r : HttpRequest) : Submission :=
  ⟨r.parts, r.headers.get? "content-type"⟩

end HttpRequest

/-- What a script on the page says about its request. -/
structure PartialRequest where
  isPartial : Bool := false
  /-- Whether the request stands for following a link. -/
  isBoosted : Bool := false
  /-- Whether the request restores a page of the history. -/
  isHistoryRestore : Bool := false
  /-- The name of the control that caused the request. -/
  triggerName : String := ""
deriving DecidableEq, Repr

namespace PartialRequest

/-- What headers say. -/
def ofHeaders (headers : Headers) : PartialRequest :=
  { isPartial := headers.get? "HX-Request" = some "true"
    isBoosted := headers.get? "HX-Boosted" = some "true"
    isHistoryRestore := headers.get? "HX-History-Restore-Request" = some "true"
    triggerName := (headers.get? "HX-Trigger-Name").getD "" }

/-- Whether the form alone is asked for. -/
def wantsFormAlone (p : PartialRequest) : Bool :=
  p.isPartial && !p.isBoosted && !p.isHistoryRestore

end PartialRequest

end GrammarForm
