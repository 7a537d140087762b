import GrammarForm.Data

/-!
# The places of the site

The site has a place for the form, one for the configuration and one that tells that the site is
alive.  A further place describes these three to programs.

## Main definitions

* `SitePlace` : the places.
* `SitePlace.ofPath?` : the place at a path.
* `SitePlace.methods` : the methods that a place answers.
* `SitePlace.describe` : what the site tells programs about its places.
-/

namespace GrammarForm

/-- The places of the site. -/
inductive SitePlace where
  | form
  | document
  | health
  | description
deriving DecidableEq, Repr

namespace SitePlace

/-- The path of a place. -/
def path : SitePlace → String
  | form => "/"
  | document => "/document"
  | health => "/health"
  | description => "/openapi.json"

/-- All places. -/
def all : List SitePlace := [form, document, health, description]

/-- The place at a path.  A line feed at the end of a path does not count. -/
def ofPath? (path : String) : Option SitePlace :=
  let cs := path.toList
  let path := String.ofList (if cs.getLast? = some '\n' then cs.dropLast else cs)
  all.find? fun place => place.path = path

/-- What a place can be asked for: a method and the words for what it does. -/
def uses : SitePlace → List (String × String)
  | form => [("GET", "Form Page"), ("POST", "Form Submit")]
  | document => [("GET", "Document Default"), ("POST", "Document Submit")]
  | health => [("GET", "Health")]
  | description => [("GET", "Description"), ("HEAD", "Description")]

/-- The methods that a place answers. -/
def methods (place : SitePlace) : List String :=
  place.uses.map (·.1)

/-- The format of what a place answers, and its shape. -/
def answer : SitePlace → String × Data
  | form => ("text/html", .table [("type", .string "string")])
  | document => ("text/plain", .table [("type", .string "string")])
  | _ => ("application/json", .table [("additionalProperties", .bool true),
      ("type", .string "object"), ("title", .string "Response Health Health Get")])

/-- The name of a use in small letters: the words, the path and the method, where the characters
that are no letters become low lines. -/
def useName (place : SitePlace) (use : String × String) : String :=
  String.ofList ((use.2 ++ place.path ++ "_" ++ use.1).toList.map fun c =>
    if c.isAlpha then c.toLower else '_')

/-- What programs are told about a use. -/
def useEntry (place : SitePlace) (use : String × String) : String × Data :=
  let (format, shape) := place.answer
  let content := Data.table [(format, .table [("schema", shape)])]
  let response :=
    Data.table [("description", .string "Successful Response"), ("content", content)]
  (use.1.toLower, .table [("summary", .string use.2),
    ("operationId", .string (place.useName use)), ("responses", .table [("200", response)])])

/-- What programs are told about a place. -/
def entry (place : SitePlace) : String × Data :=
  (place.path, .table (place.uses.map place.useEntry))

/-- What programs are told about a site with a title and a version. -/
def describe (title version : String) : Data :=
  .table [("openapi", .string "3.1.0"),
    ("info", .table [("title", .string title), ("version", .string version)]),
    ("paths", .table ([form, document, health].map entry))]

end SitePlace

end GrammarForm
