import UploadTemplate.Destination
import UploadTemplate.Template.Dollar

/-!
# Migration

Brings destinations of older versions up to the current one.

- Until version 12.3.1 the body of a request followed from its method, and where the link of a
  response was found was a matter of a few kinds.
- Until version 13.7.1 calls stood between dollar signs, and regular expressions in a list.
-/

namespace UploadTemplate.Destination

def isOutdated (d : Destination) : Bool := Version.isOutdated d.version

/-- The destination with every template replaced by its image. -/
def mapTemplates (f : Text → Text) (d : Destination) : Destination :=
  { d with
    requestUrl := f d.requestUrl
    parameters := d.parameters.map f
    headers := d.headers.map f
    arguments := d.arguments.map f
    data := f d.data
    url := f d.url
    thumbnailUrl := f d.thumbnailUrl
    deletionUrl := f d.deletionUrl
    errorMessage := f d.errorMessage }

/-- What takes the place of the link when it was found in the headers. -/
def headersNotice : Text :=
  "Response type option is deprecated, please use \x7bheader:header_name\x7d syntax instead."

/-- The call that stands for the response in old templates. -/
def responseCall : Text := "$response$"

/-- The destination with every call of the response replaced by another call, which is also the
link if there was none. -/
def rebindResponse (call : Text) (d : Destination) : Destination :=
  let f := Text.replace responseCall call
  { d with
    url := f (if d.url.isEmpty then call else d.url)
    thumbnailUrl := f d.thumbnailUrl
    deletionUrl := f d.deletionUrl }

/-- States the body of a request. Only posted arguments were part of it; those of other methods
join the parameters. -/
def statingBody (d : Destination) : Destination :=
  if d.method = .post then { d with body := .multipart }
  else
    { d with
      body := .nothing
      parameters := d.arguments.entries.foldl (fun t e => t.insertNew e.1 e.2) d.parameters
      arguments := .empty }

/-- States where the link of a response is found. -/
def statingLink (d : Destination) : Destination :=
  let plain := { d with responseKind := none }
  match d.responseKind with
  | some .redirection => plain.rebindResponse "$responseurl$"
  | some .location => plain.rebindResponse "$header:Location$"
  | some .headers => { plain with url := headersNotice }
  | some .text | none => plain

/-- Puts the templates between dollar signs into marks, with the regular expressions in their
places. -/
def markingCalls (d : Destination) : Destination :=
  let m := Marks.standard
  mapTemplates (fun t => Dollar.inlinePatterns m d.patterns (Dollar.toMarks m t))
    { d with patterns := [] }

/-- The destination at the current version. -/
def migrate (d : Destination) : Destination :=
  if d.isOutdated then
    let made :=
      if Version.isAtMost d.version Version.lastWithResponseKinds then d.statingBody.statingLink
      else d
    let made := if Version.isAtMost d.version Version.lastWithDollars then made.markingCalls
      else made
    { made with version := some Version.current }
  else d

end UploadTemplate.Destination
