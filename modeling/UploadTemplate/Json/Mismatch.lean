import UploadTemplate.Json.Writer
import UploadTemplate.Text.Visible

/-!
# JSON of the wrong shape

Why a JSON value is not what a reader expects, and the values that readers build on.
-/

namespace UploadTemplate.Json

/-- What a value is, without what is inside. -/
inductive Found where
  | null
  | bool (b : Bool)
  | number (n : Number)
  | string (s : Text)
  | array
  | object
  deriving DecidableEq, Repr

def found : Json → Found
  | .null => .null
  | .bool b => .bool b
  | .number n => .number n
  | .string s => .string s
  | .array _ => .array
  | .object _ => .object

def Found.message : Found → Text
  | .null => "null"
  | .bool b => "boolean \x60" ++ (if b then "true".toList else "false".toList) ++ "\x60"
  | .number (.int n) => "integer \x60" ++ Numeral.signed n ++ "\x60"
  | .number (.float x) => "floating point \x60" ++ x.write ++ "\x60"
  | .string s => "string " ++ Text.visible s
  | .array => "sequence"
  | .object => "map"

/-- What a reader expects. -/
inductive Wanted where
  | text
  | list
  | table
  | choice
  | nothing
  | destination
  deriving DecidableEq, Repr

def Wanted.message : Wanted → Text
  | .text => "a string"
  | .list => "a sequence"
  | .table => "a map"
  | .choice => "string or map"
  | .nothing => "unit"
  | .destination => "struct CustomUploaderItem"

inductive Mismatch where
  | kind (found : Found) (wanted : Wanted)
  /-- An object stands for a choice and has not exactly one member. -/
  | severalMembers
  | unknownChoice (name : Text) (choices : List Text)
  | repeatedField (name : Text)
  /-- An array has more items than there are fields. -/
  | tooManyItems (count : Nat)
  deriving DecidableEq, Repr

def quoted (name : Text) : Text := '\x60' :: name ++ "\x60"

def Mismatch.message : Mismatch → Text
  | .kind found wanted => "invalid type: " ++ found.message ++ ", expected " ++ wanted.message
  | .severalMembers => "invalid value: map, expected map with a single key"
  | .unknownChoice name choices =>
    "unknown variant " ++ quoted name ++ ", expected one of " ++
      List.intercalate ", " (choices.map quoted)
  | .repeatedField name => "duplicate field " ++ quoted name
  | .tooManyItems count =>
    "invalid length " ++ Numeral.decimal count ++ ", expected fewer elements in array"

/-! ### Readers -/

def toText : Json → Except Mismatch Text
  | .string s => .ok s
  | v => .error (.kind v.found .text)

def toTexts : Json → Except Mismatch (List Text)
  | .array items => items.mapM toText
  | v => .error (.kind v.found .list)

def toTable : Json → Except Mismatch (Table Text)
  | .object ms => do
    let entries ← ms.mapM fun m => do return (m.1, ← toText m.2)
    return Table.ofList entries
  | v => .error (.kind v.found .table)

def toNothing : Json → Except Mismatch Unit
  | .null => .ok ()
  | v => .error (.kind v.found .nothing)

/-- One of several values by its label: as a text, or as the name of the only member of an object,
whose value is `null`. -/
def toChoice {α : Type} (all : List α) (label : α → Text) (v : Json) : Except Mismatch α := do
  let (name, content) ← match v with
    | .string s => pure (s, Json.null)
    | .object [m] => pure m
    | .object _ => throw .severalMembers
    | v => throw (.kind v.found .choice)
  match all.find? fun a => label a = name with
  | none => throw (.unknownChoice name (all.map label))
  | some a => do
    toNothing content
    pure a

end UploadTemplate.Json
