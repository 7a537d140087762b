import GrammarForm.Html.Form
import GrammarForm.Server.Place
import GrammarForm.Server.Response

/-!
# The site

The site shows the form of one catalogue and hands out the configuration.  Every request carries
all submitted values, so that the site keeps nothing between two requests.

## Main definitions

* `Site` : the form of a catalogue, made ready.
* `Site.respond` : the response to a request.
* `Site.visit` : the response that a browser shows in the end.
-/

namespace GrammarForm

/-- The form of a catalogue, made ready. -/
structure Site where
  assembler : Assembler
  /-- Whether the site describes its places to programs. -/
  describesItself : Bool := true

/-- Why a request is not answered. -/
inductive SiteError where
  | assembly (e : AssemblyError)
  | response (f : ResponseFault)
  | request (f : RequestFault)
  /-- A text of the form or of the response has no form in bytes. -/
  | unencodable
  /-- The name of the site is no text. -/
  | nameNotText
  /-- The submitted form is not of the kind that was named. -/
  | wrongForm
deriving DecidableEq, Repr

namespace Site

/-- The site of a catalogue with its options, and the notices about it. -/
def ofCatalogue (catalogue : Catalogue) (options : FormOptions) :
    Except AssemblyError (Site × List Notice) := do
  let (assembler, notices) ← Assembler.ofCatalogue catalogue options
  return ({ assembler }, notices)

variable (site : Site) (digest : String → String)

/-- The name of the site: the title of the form, or the one of the catalogue. -/
def name : Data :=
  let title := site.assembler.options.title
  let own := site.assembler.catalogue.title
  if title.isGiven then title else if own.isGiven then own else .string "swarmconf"

/-- The document for submitted values. -/
def document (state : FormState) : Except SiteError Document :=
  match site.assembler.assemble digest state with
  | .ok (d, _) => if d.hasKeys then .ok d else .error .unencodable
  | .error e => .error (.assembly e)

/-- The values that a request submits; a request that only asks submits none. -/
def stateOf (r : HttpRequest) : Except Submission.Fault FormState :=
  if r.method = "POST" then r.submission.read else .ok []

/-- The form as a whole page, or alone if a script asks for it. -/
def formResponse (r : HttpRequest) (d : Document) : Except ResponseFault HttpResponse :=
  if (PartialRequest.ofHeaders r.headers).wantsFormAlone then
    HttpResponse.html d.fragment 200 (updateEvent d.valid d.invalidLines.length)
  else HttpResponse.html (d.page site.assembler.catalogue.description) 200 .null

/-- The response of a place to submitted values. -/
def stateResponse (r : HttpRequest) (state : FormState) : SitePlace → Except SiteError HttpResponse
  | .form => do
    (site.formResponse r (← site.document digest state)).mapError .response
  | .document => do
    let d ← site.document digest state
    (HttpResponse.download (d.text ++ "\n")
      site.assembler.options.downloadFilename.text).mapError .response
  | .health =>
    .ok (.json 200 (.table [("status", .string "ok"),
      ("catalogue", site.assembler.catalogue.name)]))
  | .description =>
    match site.name with
    | .string title => .ok (.json 200 (SitePlace.describe title version))
    | _ => .error .nameNotText

/-- The response of a place. -/
def placeResponse (r : HttpRequest) (place : SitePlace) : Except SiteError HttpResponse :=
  match stateOf r with
  | .ok state => site.stateResponse digest r state place
  | .error fault =>
    match fault.remark? with
    | some remark => .ok (.failure 400 remark)
    | none => .error .wrongForm

/-- The place of the site at a path. -/
def place? (path : String) : Option SitePlace :=
  (SitePlace.ofPath? path).filter fun place => place != .description || site.describesItself

/-- The path with a slash at its end taken away, or added if there is none. -/
def otherSpelling (path : String) : String :=
  let cs := path.toList.reverse
  if cs.head? = some '/' then String.ofList (cs.dropWhile (· == '/')).reverse else path ++ "/"

/-- The response at a path of the site. -/
def respondAt (r : HttpRequest) (path : String) : Except SiteError HttpResponse :=
  match site.place? path with
  | none => .ok (.failure 404 "Not Found")
  | some place =>
    if place.methods.contains r.method then do
      let response ← site.placeResponse digest r place
      if Text.isEncodable response.body then .ok response else .error .unencodable
    else .ok (.failure 405 "Method Not Allowed")

/-- The path that a browser is sent to instead of a given one, if that one is unknown and only its
last slash is wrong. -/
def redirection? (path : String) : Option String :=
  if (site.place? path).isNone && (site.place? (otherSpelling path)).isSome then
    some (otherSpelling path)
  else none

/-- The response without its body, if only the headers are asked for. -/
def headersOnly (r : HttpRequest) (response : HttpResponse) : HttpResponse :=
  if r.method = "HEAD" then { response with body := "" } else response

/-- The response to a request. -/
def respond (r : HttpRequest) : Except SiteError HttpResponse := do
  let route ← r.route.mapError .request
  match site.redirection? route with
  | some path => .ok { status := 307, headers := [("location", path)], body := "" }
  | none => (site.respondAt digest r route).map (headersOnly r)

/-- The response that a browser shows in the end, after it was sent elsewhere. -/
def visit (r : HttpRequest) : Except SiteError HttpResponse := do
  let route ← r.route.mapError .request
  let response ← site.respondAt digest r ((site.redirection? route).getD route)
  (headersOnly r response).received.mapError .response

end Site

end GrammarForm
