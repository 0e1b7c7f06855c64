import UploadTemplate.Template.Encoding
import UploadTemplate.Template.Registry
import UploadTemplate.Template.Tree

/-!
# Interpreting templates

The calls of a template are answered by the functions of a registry. What a function gives is
encoded before it enters the template, on every level of nesting.
-/

namespace UploadTemplate

/-- Everything that the text of a template depends on. -/
structure Interpreter where
  registry : Registry
  context : Context
  marks : Marks
  encoding : Encoding

namespace Interpreter

/-- The text of one call. -/
def call (i : Interpreter) (name : Text) (parameters : List Text) : Drawing Error Text :=
  match i.registry.get? name with
  | none => throw (.invalidFunctionName name)
  | some f =>
    if parameters.length < f.minimum then
      throw (.minimumParameterCount f.name f.minimum parameters.length)
    else do
      let output ← ExceptT.adapt (Error.functionFailed f.name) (f.run i.context parameters)
      return i.encoding.apply output

/-- The text of a template. -/
def interpret (i : Interpreter) (t : Text) : Drawing Error Text :=
  Template.expand i.marks i.call t

end Interpreter

end UploadTemplate
