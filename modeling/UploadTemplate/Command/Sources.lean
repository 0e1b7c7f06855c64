import UploadTemplate.Command.Arguments
import UploadTemplate.Naming.Token
import UploadTemplate.Store

/-!
# What commands read

Which files a command may read, before it runs: those that its arguments name, and those that name
tokens take lines from.
-/

namespace UploadTemplate

/-- The files from which the name tokens of a text take lines. -/
def Naming.lineSources (t : Text) : List Text :=
  (Text.cut (tokenWith "%rf" (fun _ => true)) t).filterMap fun
    | .char _ => none
    | .found argument => argument.map Text.trim

/-- The texts of a destination in which name tokens are expanded. -/
def Destination.namePatterns (d : Destination) : List Text :=
  let values (t : Table Text) : List Text := t.entries.map (·.2)
  d.requestUrl :: d.data :: values d.parameters ++ values d.headers ++ values d.arguments

namespace Command

/-- The files that the arguments of a command name. -/
def paths : Command → List Text
  | interpret .. | expandName .. => []
  | migrate path _ | showRequest path .. => [path]
  | upload path _ file _ _ => path :: file.toList

/-- The texts in which a command expands name tokens, once the files are there that its arguments
name. -/
def namePatterns (fs : Files) : Command → List Text
  | interpret template .. => [template]
  | expandName pattern .. => [pattern]
  | migrate .. => []
  | showRequest path .. | upload path .. =>
    match Store.load fs path with
    | .ok ds => ds.flatMap Destination.namePatterns
    | .error _ => []

/-- The files from which a command may take lines. -/
def lineSources (fs : Files) (c : Command) : List Text :=
  (c.namePatterns fs).flatMap Naming.lineSources

end Command

end UploadTemplate
