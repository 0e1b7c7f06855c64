import UploadTemplate.Field
import UploadTemplate.Query
import UploadTemplate.Template.Marks
import UploadTemplate.Url.Host
import UploadTemplate.Version

/-!
# Destinations

Where texts and files can be sent, and how: the request and the templates that read the response.

- `Destination.host`: the host of the request, for messages.
- `Destination.normalized`: the query of the request URL moved into the parameters.
-/

namespace UploadTemplate

inductive Method where
  | get
  | post
  | put
  | patch
  | delete
  deriving DecidableEq, Repr

namespace Method

def all : List Method := [get, post, put, patch, delete]

def label : Method → Text
  | get => "GET"
  | post => "POST"
  | put => "PUT"
  | patch => "PATCH"
  | delete => "DELETE"

end Method

/-- What the body of a request is made of. -/
inductive BodyKind where
  | nothing
  | multipart
  | form
  | json
  | xml
  | binary
  deriving DecidableEq, Repr

namespace BodyKind

def all : List BodyKind := [nothing, multipart, form, json, xml, binary]

def label : BodyKind → Text
  | nothing => "None"
  | multipart => "MultipartFormData"
  | form => "FormURLEncoded"
  | json => "JSON"
  | xml => "XML"
  | binary => "Binary"

end BodyKind

/-- Where the link of a response was found before there were templates for it. -/
inductive ResponseKind where
  | text
  | redirection
  | headers
  | location
  deriving DecidableEq, Repr

namespace ResponseKind

def all : List ResponseKind := [text, redirection, headers, location]

def label : ResponseKind → Text
  | text => "Text"
  | redirection => "RedirectionURL"
  | headers => "Headers"
  | location => "LocationHeader"

end ResponseKind

structure Destination where
  version : Option Text := none
  name : Text := []
  /-- What the destination is for: names with commas between them. -/
  purposes : Option Text := none
  method : Method := .post
  requestUrl : Text := []
  parameters : Table Text := .empty
  headers : Table Text := .empty
  body : BodyKind := .nothing
  arguments : Table Text := .empty
  fileFormName : Text := []
  data : Text := []
  url : Text := []
  thumbnailUrl : Text := []
  deletionUrl : Text := []
  errorMessage : Text := []
  /-- In old destinations only. -/
  responseKind : Option ResponseKind := none
  /-- Regular expressions that old templates refer to by number. -/
  patterns : List Text := []
  deriving DecidableEq

namespace Destination

instance : Inhabited Destination := ⟨{}⟩

/-- The host of the request URL, which may lack its scheme, or else the name. -/
def host (d : Destination) : Text :=
  let url := Text.trim d.requestUrl
  match (Url.host? url).or (Url.host? ("https://" ++ url)) with
  | some (c :: r) => c :: r
  | _ => d.name

/-- Whether the destination makes URLs shorter. -/
def isShortener (d : Destination) : Bool :=
  match d.purposes with
  | none => false
  | some t => (Text.split ',' t).any fun p => Text.sameAscii (Text.trim p) "URLShortener"

/-- Cuts a text at its first question mark outside calls and escapes, at a nesting depth. -/
def cutQueryAt (m : Marks) : Nat → Text → Option (Text × Text)
  | _, [] => none
  | depth, c :: r =>
    if c = m.escape then
      match r with
      | [] => none
      | d :: r => (cutQueryAt m depth r).map fun p => (c :: d :: p.1, p.2)
    else if c = m.opening then (cutQueryAt m (depth + 1) r).map fun p => (c :: p.1, p.2)
    else if c = m.closing then (cutQueryAt m (depth - 1) r).map fun p => (c :: p.1, p.2)
    else if c = '?' ∧ depth = 0 then some ([], r)
    else (cutQueryAt m depth r).map fun p => (c :: p.1, p.2)

/-- The text before the query of a URL template and the query, if it has one. -/
def cutQuery (m : Marks) (url : Text) : Option (Text × Text) := cutQueryAt m 0 url

/-- The destination with the query of its request URL among its parameters. -/
def normalized (m : Marks) (d : Destination) : Destination :=
  match cutQuery m d.requestUrl with
  | none => d
  | some (url, query) =>
    { d with requestUrl := url, parameters := Query.mergeInto d.parameters query }

end Destination

end UploadTemplate
