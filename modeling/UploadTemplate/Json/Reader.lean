import UploadTemplate.Json.Scan

/-!
# Reading JSON

The tokens of a text are put together on a stack of open arrays and objects. At most one hundred
and twenty-seven of them may be open at once; of two members under one name the later counts.
-/

namespace UploadTemplate.Json

/-- An array or object that is open around the current value. -/
inductive Level where
  /-- The items so far, newest first. -/
  | array (items : List Json)
  /-- The members so far, and the name of the current one. -/
  | object (members : List (Text × Json)) (key : Text)

/-- What has been read and what must come. -/
inductive Build where
  /-- A value. -/
  | value (levels : List Level)
  /-- An item, or the end of the array before its first one. -/
  | item (first : Bool) (items : List Json) (levels : List Level)
  /-- A comma or the end of the array. -/
  | afterItem (items : List Json) (levels : List Level)
  /-- A name, or the end of the object before its first one. -/
  | name (first : Bool) (members : List (Text × Json)) (levels : List Level)
  /-- A colon. -/
  | colon (members : List (Text × Json)) (key : Text) (levels : List Level)
  /-- A comma or the end of the object. -/
  | afterMember (members : List (Text × Json)) (levels : List Level)
  /-- Nothing more. -/
  | done (value : Json)

namespace Build

/-- One more than the arrays and objects that may be open at once. -/
def depthLimit : Nat := 128

/-- A value is complete. -/
def complete (v : Json) : List Level → Build
  | [] => .done v
  | .array items :: levels => .afterItem (v :: items) levels
  | .object members key :: levels => .afterMember (Entries.insert key v members) levels

/-- A token where a value must come. -/
def beginValue (levels : List Level) (l : Lexeme) : Except Fault Build :=
  match l.token with
  | .null => .ok (complete .null levels)
  | .bool b => .ok (complete (.bool b) levels)
  | .number n => .ok (complete (.number n) levels)
  | .string s => .ok (complete (.string s) levels)
  | .beginArray =>
    if depthLimit ≤ levels.length + 1 then .error ⟨.tooDeep, l.seen⟩ else .ok (.item true [] levels)
  | .beginObject =>
    if depthLimit ≤ levels.length + 1 then .error ⟨.tooDeep, l.seen⟩ else .ok (.name true [] levels)
  | .broken fault _ => .error fault
  | _ => .error ⟨.expectedValue, l.seen⟩

/-- One token on. -/
def step (b : Build) (l : Lexeme) : Except Fault Build :=
  match b with
  | .value levels => beginValue levels l
  | .item first items levels =>
    match l.token with
    | .endArray =>
      if first then .ok (complete (.array items.reverse) levels)
      else .error ⟨.trailingComma, l.seen⟩
    | _ => beginValue (.array items :: levels) l
  | .afterItem items levels =>
    match l.token with
    | .comma => .ok (.item false items levels)
    | .endArray => .ok (complete (.array items.reverse) levels)
    | _ => .error ⟨.expectedListCommaOrEnd, l.seen⟩
  | .name first members levels =>
    match l.token with
    | .string key => .ok (.colon members key levels)
    | .broken fault true => .error fault
    | .endObject =>
      if first then .ok (complete (.object members) levels) else .error ⟨.trailingComma, l.seen⟩
    | _ => .error ⟨.keyMustBeString, l.seen⟩
  | .colon members key levels =>
    match l.token with
    | .colon => .ok (.value (.object members key :: levels))
    | _ => .error ⟨.expectedColon, l.seen⟩
  | .afterMember members levels =>
    match l.token with
    | .comma => .ok (.name false members levels)
    | .endObject => .ok (complete (.object members) levels)
    | _ => .error ⟨.expectedObjectCommaOrEnd, l.seen⟩
  | .done _ => .error ⟨.trailingCharacters, l.seen⟩

/-- The value at the end of the text. -/
def atEnd (p : Position) : Build → Except Fault Json
  | .value _ => .error ⟨.eofInValue, p⟩
  | .item first .. => .error ⟨if first then .eofInList else .eofInValue, p⟩
  | .afterItem .. => .error ⟨.eofInList, p⟩
  | .name first .. => .error ⟨if first then .eofInObject else .eofInValue, p⟩
  | .colon .. => .error ⟨.eofInObject, p⟩
  | .afterMember .. => .error ⟨.eofInObject, p⟩
  | .done v => .ok v

def run : Build → List Lexeme → Except Fault Build
  | b, [] => .ok b
  | b, l :: r => do
    let b ← b.step l
    run b r

end Build

/-- The value of a JSON text. -/
def read (t : Text) : Except Fault Json := do
  let (lexemes, last) := tokens t
  let b ← Build.run (.value []) lexemes
  b.atEnd last

end UploadTemplate.Json
