import UploadTemplate.Naming.Namer
import UploadTemplate.Template.Interpret

/-!
# Templates with names

Name tokens in the unescaped parts of a template are expanded before it is read as a template.
-/

namespace UploadTemplate.Interpreter

/-- The text of a template with name tokens. -/
def interpretNamed (i : Interpreter) (n : Namer) (t : Text) : Naming Text :=
  if t.isEmpty then return []
  else do
    let expanded ← n.expandKeepingEscapes i.marks.escape t
    Naming.ofDrawing (i.interpret expanded)

end UploadTemplate.Interpreter
