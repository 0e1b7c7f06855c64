import UploadTemplate.Double
import UploadTemplate.Table

/-!
# JSON values

A number is an integer of sixty-four bits, signed or unsigned, or a double. The members of an
object are kept in ascending order of their names.
-/

namespace UploadTemplate

namespace Json

inductive Number where
  | int (n : Int)
  | float (x : Double)
  deriving DecidableEq, Repr

end Json

inductive Json where
  | null
  | bool (b : Bool)
  | number (n : Json.Number)
  | string (s : Text)
  | array (items : List Json)
  | object (members : List (Text × Json))

namespace Json

instance : Inhabited Json := ⟨.null⟩

/-- The member of an object under a name. -/
def member? (k : Text) : Json → Option Json
  | .object ms => Entries.find? k ms
  | _ => none

/-- An object with its members in order; of two under one name the later counts. -/
def ofMembers (ms : List (Text × Json)) : Json :=
  .object (ms.foldl (fun acc e => Entries.insert e.1 e.2 acc) [])

def nat (n : Nat) : Json := .number (.int n)

/-- A text, or `null` where there is none. -/
def optional (t : Option Text) : Json :=
  match t with
  | some t => .string t
  | none => .null

/-- An object of texts. -/
def ofTable (t : Table Text) : Json := .object (t.entries.map fun e => (e.1, .string e.2))

end Json

end UploadTemplate
