import UploadTemplate.Destination.Json
import UploadTemplate.Destination.Yaml
import UploadTemplate.Json.Reader
import UploadTemplate.Store.Path

/-!
# Formats of destination files

Destinations are kept in JSON, a single one without any list around it, or as a list in YAML. The
extension of a file tells which.
-/

namespace UploadTemplate

inductive Format where
  | json
  | yaml
  deriving DecidableEq, Repr

/-- Why a text holds no destinations. -/
inductive FormatFault where
  | json (fault : Json.Fault)
  | shape (mismatch : Json.Mismatch)
  | yaml (fault : Destination.YamlFault)
  deriving DecidableEq, Repr

def FormatFault.message : FormatFault → Text
  | .json fault => "Destination file is not valid JSON: " ++ fault.message
  | .shape mismatch => mismatch.message
  | .yaml .notWellFormed => "not well-formed YAML"
  | .yaml .wrongShape => "YAML does not hold a list of destinations"

namespace Format

/-- The usual extension of a format. -/
def extension : Format → Text
  | json => "sxcu"
  | yaml => "yml"

/-- The format of the file at a path. -/
def ofPath (path : Text) : Format :=
  match Path.extension? path with
  | some e => if Text.sameAscii e "yml" || Text.sameAscii e "yaml" then yaml else json
  | none => json

/-- The text of destinations. -/
def write (ds : List Destination) : Format → Text
  | json =>
    match ds with
    | [d] => d.toJson.pretty
    | ds => (Json.array (ds.map Destination.toJson)).pretty
  | yaml => Destination.listToYaml ds

def readJson (t : Text) : Except FormatFault (List Destination) :=
  match Json.read t with
  | .error fault => .error (.json fault)
  | .ok (.array items) => (items.mapM Destination.ofJson).mapError .shape
  | .ok v => ((Destination.ofJson v).map fun d => [d]).mapError .shape

/-- The destinations of a text. -/
def read (t : Text) : Format → Except FormatFault (List Destination)
  | json => readJson t
  | yaml => (Destination.listOfYaml t).mapError .yaml

end Format

end UploadTemplate
