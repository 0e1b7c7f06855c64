import UploadTemplate.Destination
import UploadTemplate.Error
import UploadTemplate.Json.Value

/-!
# Requests

What is sent to a destination.
-/

namespace UploadTemplate

/-- The body of a request. A file goes under a form name. -/
inductive RequestBody where
  | nothing
  | multipart (arguments : Table Text) (fileFormName : Option Text)
  | form (arguments : Table Text)
  | json (data : Text)
  | xml (data : Text)
  | binary (fileFormName : Option Text)
  deriving DecidableEq

namespace RequestBody

def contentType? : RequestBody → Option Text
  | nothing | multipart .. => none
  | form _ => some "application/x-www-form-urlencoded"
  | json _ => some "application/json"
  | xml _ => some "application/xml"
  | binary _ => some "application/octet-stream"

def toJson : RequestBody → Json
  | nothing => tagged "none" []
  | multipart arguments formName =>
    tagged "multipart_form_data"
      [("arguments", .ofTable arguments), ("file_form_name", .optional formName)]
  | form arguments => tagged "form_url_encoded" [("arguments", .ofTable arguments)]
  | json data => tagged "json" [("data", .string data)]
  | xml data => tagged "xml" [("data", .string data)]
  | binary formName => tagged "binary" [("file_form_name", .optional formName)]
where
  tagged (kind : Text) (members : List (Text × Json)) : Json :=
    .object (("type", .string kind) :: members)

end RequestBody

structure Request where
  method : Method
  /-- With its query. -/
  url : Text
  headers : Table Text
  body : RequestBody
  deriving DecidableEq

def Request.toJson (r : Request) : Json :=
  .object [("method", .string r.method.label), ("url", .string r.url),
    ("headers", .ofTable r.headers), ("body", r.body.toJson)]

/-- Why there is no request. -/
inductive RequestError where
  | missing (field : Field)
  /-- The template of a field, or of an entry of it, has no text. -/
  | invalid (name host : Text) (field : Field) (entry : Option Text) (error : Error)
  deriving DecidableEq, Repr

namespace RequestError

/-- The error itself, without the place where it arose. -/
def cause : RequestError → Error
  | missing field => .missingField field
  | invalid _ _ _ _ error => error

def message : RequestError → Text
  | missing field => (Error.missingField field).message
  | invalid name host field entry error =>
    name ++ " (" ++ host ++ "): invalid " ++ field.label ++
      (match entry with
        | some k => " \"" ++ k ++ "\""
        | none => []) ++
      ": " ++ error.message

end RequestError

end UploadTemplate
