import UploadTemplate.Destination
import UploadTemplate.Json.Value

/-!
# Destinations as records

What every file format of destinations shares: which value each field has when it is written, and
how a value is put into a field.

- `Destination.shown`, `Destination.toJson`: fields without content are left out.
- `Decoder.put`: the destination with a field read from a value.
-/

namespace UploadTemplate

namespace Destination

def shownText (t : Text) : Option Json := if t.isEmpty then none else some (.string t)

def shownTable (t : Table Text) : Option Json := if t.isEmpty then none else some (.ofTable t)

/-- The value of a field, unless the field is left out. -/
def shown (d : Destination) : Field → Option Json
  | .version => d.version.map .string
  | .name => some (.string d.name)
  | .destinationType => d.purposes.map .string
  | .requestMethod => some (.string d.method.label)
  | .requestUrl => some (.string d.requestUrl)
  | .parameters => shownTable d.parameters
  | .headers => shownTable d.headers
  | .body => some (.string d.body.label)
  | .arguments => shownTable d.arguments
  | .fileFormName => shownText d.fileFormName
  | .data => shownText d.data
  | .url => shownText d.url
  | .thumbnailUrl => shownText d.thumbnailUrl
  | .deletionUrl => shownText d.deletionUrl
  | .errorMessage => shownText d.errorMessage
  | .responseType => d.responseKind.map fun k => .string k.label
  | .regexList => if d.patterns.isEmpty then none else some (.array (d.patterns.map .string))

/-- The fields of a destination with their values, in the order in which they are written. -/
def toJson (d : Destination) : Json :=
  .object (Field.all.filterMap fun f => (d.shown f).map fun v => (f.label, v))

end Destination

/-- How the values of a format are read. -/
structure Decoder (ν ε : Type) : Type 1 where
  isNull : ν → Bool
  text : ν → Except ε Text
  texts : ν → Except ε (List Text)
  table : ν → Except ε (Table Text)
  /-- One of several values by its label. -/
  choice : {α : Type} → List α → (α → Text) → ν → Except ε α

namespace Decoder

variable {ν ε : Type}

/-- A value that may be missing. -/
def optional (dec : Decoder ν ε) {α : Type} (read : ν → Except ε α) (v : ν) :
    Except ε (Option α) :=
  if dec.isNull v then .ok none else (read v).map some

/-- The destination with a field read from a value. -/
def put (dec : Decoder ν ε) (d : Destination) (f : Field) (v : ν) : Except ε Destination :=
  match f with
  | .version => (dec.optional dec.text v).map fun x => { d with version := x }
  | .name => (dec.text v).map fun x => { d with name := x }
  | .destinationType => (dec.optional dec.text v).map fun x => { d with purposes := x }
  | .requestMethod => (dec.choice Method.all Method.label v).map fun x => { d with method := x }
  | .requestUrl => (dec.text v).map fun x => { d with requestUrl := x }
  | .parameters => (dec.table v).map fun x => { d with parameters := x }
  | .headers => (dec.table v).map fun x => { d with headers := x }
  | .body => (dec.choice BodyKind.all BodyKind.label v).map fun x => { d with body := x }
  | .arguments => (dec.table v).map fun x => { d with arguments := x }
  | .fileFormName => (dec.text v).map fun x => { d with fileFormName := x }
  | .data => (dec.text v).map fun x => { d with data := x }
  | .url => (dec.text v).map fun x => { d with url := x }
  | .thumbnailUrl => (dec.text v).map fun x => { d with thumbnailUrl := x }
  | .deletionUrl => (dec.text v).map fun x => { d with deletionUrl := x }
  | .errorMessage => (dec.text v).map fun x => { d with errorMessage := x }
  | .responseType =>
    (dec.optional (dec.choice ResponseKind.all ResponseKind.label) v).map fun x =>
      { d with responseKind := x }
  | .regexList => (dec.texts v).map fun x => { d with patterns := x }

/-- The destination with the first fields read from the values of a list. -/
def putItems (dec : Decoder ν ε) (d : Destination) : List Field → List ν → Except ε Destination
  | f :: fs, v :: vs => do
    let d ← dec.put d f v
    putItems dec d fs vs
  | _, _ => .ok d

/-- The destination with fields read from named values. Names of no field are passed over, and a
field may be named once. -/
def putNamed (dec : Decoder ν ε) (repeated : Field → ε) (d : Destination) (seen : List Field) :
    List (Text × ν) → Except ε Destination
  | [] => .ok d
  | (k, v) :: r =>
    match Field.ofName? k with
    | none => putNamed dec repeated d seen r
    | some f =>
      if f ∈ seen then .error (repeated f)
      else do
        let d ← dec.put d f v
        putNamed dec repeated d (f :: seen) r

end Decoder

end UploadTemplate
