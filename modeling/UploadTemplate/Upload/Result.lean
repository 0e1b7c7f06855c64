import UploadTemplate.Upload.Compiler

/-!
# Results of uploads

The links that the templates of a destination find in a response. A template that has no text
leaves its link out and a diagnostic behind; it does not keep the others from their work.

- `Compiler.result`: the links and diagnostics of a response.
-/

namespace UploadTemplate

/-- Something that went wrong at a destination, told with its name and host. -/
inductive Diagnostic where
  /-- What the host itself has to say. -/
  | reported (message : Text)
  | unreadable (name host : Text) (field : Field) (error : Error)
  | status (name host : Text) (code : Nat)
  deriving DecidableEq, Repr

def Diagnostic.message : Diagnostic → Text
  | .reported message => message
  | .unreadable name host field error =>
    name ++ " (" ++ host ++ "): failed to parse " ++ field.label ++ ": " ++ error.message
  | .status name host code =>
    name ++ " (" ++ host ++ "): host responded with status code " ++ Numeral.decimal code

structure UploadResult where
  url : Option Text := none
  thumbnailUrl : Option Text := none
  deletionUrl : Option Text := none
  shortenedUrl : Option Text := none
  errors : List Diagnostic := []
  deriving DecidableEq

namespace UploadResult

def hasErrors (r : UploadResult) : Bool := !r.errors.isEmpty

def toJson (r : UploadResult) : Json :=
  .object [("url", .optional r.url), ("thumbnail_url", .optional r.thumbnailUrl),
    ("deletion_url", .optional r.deletionUrl), ("shortened_url", .optional r.shortenedUrl),
    ("errors", .array (r.errors.map fun e => .string e.message))]

end UploadResult

namespace Compiler

/-- The text of a template, unless it is blank, empty or has none; then with the diagnostic. -/
def resolve (i : Interpreter) (d : Destination) (field : Field) (template : Text) :
    StateM Draws (Option Text × List Diagnostic) := do
  if Text.isBlankText template then return (none, [])
  match ← (i.interpret template).run with
  | .ok t => return (if t.isEmpty then none else some t, [])
  | .error e => return (none, [.unreadable d.name d.host field e])

/-- The main link: without a template for it, the whole body. -/
def mainLink (i : Interpreter) (d : Destination) (response : Response) :
    StateM Draws (Option Text × List Diagnostic) :=
  if Text.isBlankText d.url then pure (some response.body, []) else resolve i d .url d.url

/-- The result of a response that tells of success. -/
def success (i : Interpreter) (d : Destination) (response : Response) :
    StateM Draws UploadResult := do
  let (link, e₁) ← mainLink i d response
  let (thumbnail, e₂) ← resolve i d .thumbnailUrl d.thumbnailUrl
  let (deletion, e₃) ← resolve i d .deletionUrl d.deletionUrl
  return {
    url := if d.isShortener then none else link
    shortenedUrl := if d.isShortener then link else none
    thumbnailUrl := thumbnail
    deletionUrl := deletion
    errors := e₁ ++ e₂ ++ e₃ }

/-- The result of any other response: what the host says, and its status. -/
def failure (i : Interpreter) (d : Destination) (response : Response) :
    StateM Draws UploadResult := do
  let (message, errors) ← resolve i d .errorMessage d.errorMessage
  return {
    errors := (message.map Diagnostic.reported).toList ++ errors ++
      [.status d.name d.host response.status] }

/-- The result of a response. Name tokens mean nothing in these templates. -/
def result (c : Compiler) (d : Destination) (response : Response) (context : Context) :
    StateM Draws UploadResult :=
  let i := c.interpreter (context.withResponse response) .plain
  if response.success then success i d response else failure i d response

end Compiler

end UploadTemplate
