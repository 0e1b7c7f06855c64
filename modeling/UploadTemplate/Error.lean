import UploadTemplate.Field
import UploadTemplate.Json.Path
import UploadTemplate.Json.Reader
import UploadTemplate.Regex

/-!
# Errors

Why a template or a name pattern has no text. `Failure` is the cause of a function that fails,
`Error` that of a whole template.
-/

namespace UploadTemplate

/-- Why a function gives no text. -/
inductive Failure where
  /-- The function reads the response, and there is none. -/
  | noResponse
  | missingPath
  | json (fault : Json.Fault)
  | path (fault : Json.PathFault)
  | pattern (pattern : Text) (fault : Regex.Fault)
  /-- Any other cause, told from the outermost message inwards. -/
  | other (messages : List Text)
  deriving DecidableEq, Repr

def Failure.message : Failure → Text
  | .noResponse => "response is only available when parsing a response"
  | .missingPath => "a JSON path is required"
  | .json fault => "input is not valid JSON: " ++ fault.message
  | .path fault => fault.message
  | .pattern p fault => "invalid regular expression \"" ++ p ++ "\": " ++ fault.message p
  | .other messages => List.intercalate ": " messages

/-- Why a template has no text. -/
inductive Error where
  | invalidFunctionName (name : Text)
  | minimumParameterCount (function : Text) (minimum actual : Nat)
  | functionFailed (function : Text) (failure : Failure)
  /-- One character is used for two marks. -/
  | repeatedMark (c : Char)
  /-- A counter cannot be written in that base. -/
  | invalidBase (greatest base : Nat)
  /-- There is no readable text file at that path. -/
  | invalidTextFile (path : Text)
  | missingField (field : Field)
  deriving DecidableEq, Repr

def Error.message : Error → Text
  | .invalidFunctionName name => "Invalid function name: " ++ name
  | .minimumParameterCount f minimum actual =>
    "Minimum parameter count for function \"" ++ f ++ "\" is " ++ Numeral.decimal minimum ++
      ", but " ++ Numeral.decimal actual ++ " given"
  | .functionFailed f failure => "Function \"" ++ f ++ "\" failed: " ++ failure.message
  | .repeatedMark c =>
    "Invalid syntax: syntax character '" ++ c :: "' is used more than once"
  | .invalidBase greatest base =>
    "Invalid syntax: base must be between 2 and " ++ Numeral.decimal greatest ++ ", got " ++
      Numeral.decimal base
  | .invalidTextFile path => "Valid text file path is required: " ++ path
  | .missingField field => field.label ++ " must be configured"

end UploadTemplate
