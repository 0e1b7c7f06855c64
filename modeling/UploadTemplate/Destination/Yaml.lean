import UploadTemplate.Destination.Record
import UploadTemplate.Yaml.Node
import UploadTemplate.Yaml.Writer

/-!
# Destinations in YAML

A document of destinations is a sequence of mappings. Where text is expected a scalar is taken as
it is written, be it a number, a truth value or null.
-/

namespace UploadTemplate.Destination

/-- A document does not hold destinations. -/
inductive YamlFault where
  | notWellFormed
  | wrongShape
  deriving DecidableEq, Repr

open Yaml (Node)

def yamlText : Node → Except YamlFault Text
  | .scalar t _ => .ok t
  | _ => .error .wrongShape

/-- The items of a sequence; nothing is an empty one. -/
def yamlItems : Node → Except YamlFault (List Node)
  | .sequence items => .ok items
  | .scalar [] true => .ok []
  | _ => .error .wrongShape

/-- The entries of a mapping, whose keys are scalars; nothing is an empty one. -/
def yamlEntries : Node → Except YamlFault (List (Text × Node))
  | .mapping entries => entries.mapM fun e => do return (← yamlText e.1, e.2)
  | .scalar [] true => .ok []
  | _ => .error .wrongShape

def yamlTable (n : Node) : Except YamlFault (Table Text) := do
  let entries ← yamlEntries n
  let texts ← entries.mapM fun e => do return (e.1, ← yamlText e.2)
  return Table.ofList texts

def yamlChoice {α : Type} (all : List α) (label : α → Text) (n : Node) : Except YamlFault α := do
  let name ← yamlText n
  match all.find? fun a => label a = name with
  | some a => pure a
  | none => throw .wrongShape

/-- The ways of writing that there is nothing. -/
def isYamlNull : Node → Bool
  | .scalar t true =>
    t.isEmpty || t = "~".toList || t = "null".toList || t = "Null".toList || t = "NULL".toList
  | _ => false

def yamlDecoder : Decoder Node YamlFault where
  isNull := isYamlNull
  text := yamlText
  texts n := do (← yamlItems n).mapM yamlText
  table := yamlTable
  choice := yamlChoice

def ofYaml (n : Node) : Except YamlFault Destination := do
  let entries ← yamlEntries n
  yamlDecoder.putNamed (fun _ => .wrongShape) {} [] entries

/-- The destinations of a YAML text. -/
def listOfYaml (t : Text) : Except YamlFault (List Destination) :=
  match Node.ofText? t with
  | none => .error .notWellFormed
  | some n => do (← yamlItems n).mapM ofYaml

/-- Destinations as a YAML text. -/
def listToYaml (ds : List Destination) : Text := Yaml.write (.array (ds.map toJson))

end UploadTemplate.Destination
