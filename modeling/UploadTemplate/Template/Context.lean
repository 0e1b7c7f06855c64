import UploadTemplate.Table

/-!
# What templates read

The name of the file that is sent, the text that is shared, and the response that has come back.
-/

namespace UploadTemplate

structure Response where
  status : Nat
  /-- The values of each header, in the order in which they came. -/
  headers : Table (List Text)
  body : Text
  /-- Where the response came from, after redirects. -/
  url : Text
  success : Bool
  deriving DecidableEq

namespace Response

/-- A response without headers, successful if its status says so. -/
def of (status : Nat) (body : Text) : Response :=
  ⟨status, .empty, body, [], 200 ≤ status && status < 300⟩

def withHeader (r : Response) (name value : Text) : Response :=
  { r with headers := r.headers.insert name (((r.headers.get? name).getD []) ++ [value]) }

/-- The values of a header, whatever the case of its name, joined by commas. -/
def header (r : Response) (name : Text) : Option Text :=
  let values := (r.headers.entries.filter fun e => Text.sameAscii e.1 name).flatMap (·.2)
  if values.isEmpty then none else some (List.intercalate ", " values)

end Response

structure Context where
  fileName : Option Text
  input : Option Text
  response : Option Response
  deriving DecidableEq

def Context.withResponse (c : Context) (r : Response) : Context := { c with response := some r }

end UploadTemplate
