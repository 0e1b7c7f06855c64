import UploadTemplate.Json.Quoted
import UploadTemplate.Text.Entity
import UploadTemplate.Text.Percent

/-!
# Output encodings

How the text of a call is encoded before it is put into the template around it.
-/

namespace UploadTemplate

inductive Encoding where
  | plain
  | url
  | json
  | xml
  deriving DecidableEq, Repr

def Encoding.apply : Encoding → Text → Text
  | .plain => id
  | .url => Percent.encode
  | .json => Json.Quoted.encode
  | .xml => Entity.encode

end UploadTemplate
