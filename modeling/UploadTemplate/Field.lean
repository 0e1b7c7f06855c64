import UploadTemplate.Text

/-!
# Fields of a destination

The fields by the names under which files hold them and messages tell of them.
-/

namespace UploadTemplate

inductive Field where
  | version
  | name
  | destinationType
  | requestMethod
  | requestUrl
  | parameters
  | headers
  | body
  | arguments
  | fileFormName
  | data
  | url
  | thumbnailUrl
  | deletionUrl
  | errorMessage
  | responseType
  | regexList
  deriving DecidableEq, Repr

namespace Field

/-- All fields in the order in which they are written. -/
def all : List Field :=
  [version, name, destinationType, requestMethod, requestUrl, parameters, headers, body, arguments,
    fileFormName, data, url, thumbnailUrl, deletionUrl, errorMessage, responseType, regexList]

def label : Field → Text
  | version => "Version"
  | name => "Name"
  | destinationType => "DestinationType"
  | requestMethod => "RequestMethod"
  | requestUrl => "RequestURL"
  | parameters => "Parameters"
  | headers => "Headers"
  | body => "Body"
  | arguments => "Arguments"
  | fileFormName => "FileFormName"
  | data => "Data"
  | url => "URL"
  | thumbnailUrl => "ThumbnailURL"
  | deletionUrl => "DeletionURL"
  | errorMessage => "ErrorMessage"
  | responseType => "ResponseType"
  | regexList => "RegexList"

/-- The field under a name. The request method has an older name too. -/
def ofName? (t : Text) : Option Field :=
  if t = "RequestType".toList then some requestMethod else all.find? fun f => f.label = t

theorem ofName?_label (f : Field) : ofName? f.label = some f := by cases f <;> rfl

end Field

end UploadTemplate
