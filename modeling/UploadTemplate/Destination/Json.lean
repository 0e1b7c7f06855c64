import UploadTemplate.Destination.Record
import UploadTemplate.Json.Mismatch

/-!
# Destinations in JSON

A destination is an object with its fields, or an array of the values of its first fields.
-/

namespace UploadTemplate.Destination

def jsonDecoder : Decoder Json Json.Mismatch where
  isNull
    | .null => true
    | _ => false
  text := Json.toText
  texts := Json.toTexts
  table := Json.toTable
  choice := Json.toChoice

/-- The destination that a JSON value holds. -/
def ofJson : Json → Except Json.Mismatch Destination
  | .object ms => jsonDecoder.putNamed (fun f => .repeatedField f.label) {} [] ms
  | .array items => do
    let d ← jsonDecoder.putItems {} Field.all items
    if Field.all.length < items.length then .error (.tooManyItems items.length) else .ok d
  | v => .error (.kind v.found .destination)

end UploadTemplate.Destination
