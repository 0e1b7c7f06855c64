import UploadTemplate.Double.Shortest
import UploadTemplate.Json.Quoted
import UploadTemplate.Json.Value

/-!
# Writing JSON

Compact text without any blanks, and indented text with two spaces for each level. Empty arrays
and objects take no lines of their own.
-/

namespace UploadTemplate.Json

def Number.write : Number → Text
  | .int n => Numeral.signed n
  | .float x => x.write

mutual

/-- The compact text of a value. -/
def write : Json → Text
  | .null => "null"
  | .bool b => if b then "true" else "false"
  | .number n => n.write
  | .string s => Quoted.literal s
  | .array items => '[' :: writeItems items ++ "]"
  | .object members => '\x7b' :: writeMembers members ++ "\x7d"

def writeItems : List Json → Text
  | [] => []
  | v :: r => write v ++ (if r.isEmpty then [] else ',' :: writeItems r)

def writeMembers : List (Text × Json) → Text
  | [] => []
  | (k, v) :: r =>
    Quoted.literal k ++ ':' :: write v ++ (if r.isEmpty then [] else ',' :: writeMembers r)

end

/-- A line break and the indentation of a level. -/
def newLine (level : Nat) : Text := '\n' :: List.replicate (2 * level) ' '

mutual

/-- The indented text of a value at a level. -/
def writeIndented (level : Nat) : Json → Text
  | .null => "null"
  | .bool b => if b then "true" else "false"
  | .number n => n.write
  | .string s => Quoted.literal s
  | .array items =>
    if items.isEmpty then "[]"
    else '[' :: indentedItems (level + 1) items ++ newLine level ++ "]"
  | .object members =>
    if members.isEmpty then "\x7b\x7d"
    else '\x7b' :: indentedMembers (level + 1) members ++ newLine level ++ "\x7d"

def indentedItems (level : Nat) : List Json → Text
  | [] => []
  | v :: r =>
    newLine level ++ writeIndented level v ++
      (if r.isEmpty then [] else ',' :: indentedItems level r)

def indentedMembers (level : Nat) : List (Text × Json) → Text
  | [] => []
  | (k, v) :: r =>
    newLine level ++ Quoted.literal k ++ ": " ++ writeIndented level v ++
      (if r.isEmpty then [] else ',' :: indentedMembers level r)

end

/-- The indented text of a value. -/
def pretty (v : Json) : Text := writeIndented 0 v

end UploadTemplate.Json
