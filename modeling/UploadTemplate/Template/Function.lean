import UploadTemplate.Draws
import UploadTemplate.Error
import UploadTemplate.Template.Context

/-!
# Template functions

A function has a name, further names, a least number of parameters, and gives a text from the
context and its parameters. It may draw random numbers and may fail.
-/

namespace UploadTemplate

structure Function where
  name : Text
  aliases : List Text
  minimum : Nat
  run : Context → List Text → Drawing Failure Text

namespace Function

/-- A function that draws nothing: its answer is determined by the context and the parameters. -/
def ofAnswer (name : Text) (aliases : List Text) (minimum : Nat)
    (answer : Context → List Text → Except Failure Text) : Function :=
  ⟨name, aliases, minimum, fun c ps => ExceptT.mk (pure (answer c ps))⟩

def requireResponse (c : Context) : Except Failure Response :=
  match c.response with
  | some r => .ok r
  | none => .error .noResponse

/-- The body of the response. -/
def response : Function :=
  ofAnswer "response" [] 0 fun c _ => do return (← requireResponse c).body

/-- The address that the response came from. -/
def responseUrl : Function :=
  ofAnswer "responseurl" [] 0 fun c _ => do return (← requireResponse c).url

/-- The value of a header of the response. -/
def header : Function :=
  ofAnswer "header" ["headers"] 1 fun c ps => do
    let r ← requireResponse c
    return (r.header (ps.headD [])).getD []

/-- What a path leads to in a JSON text. -/
def lookUp (document path : Text) : Except Failure Text :=
  match Json.read document with
  | .error fault => .error (.json fault)
  | .ok v =>
    match Json.select v path with
    | .error fault => .error (.path fault)
    | .ok found => .ok found.plainText

/-- A part of a JSON document: of the first of two parameters, or of the response. -/
def json : Function :=
  ofAnswer "json" [] 1 fun c ps =>
    match ps with
    | document :: path :: _ => lookUp document path
    | [path] => do lookUp (← requireResponse c).body path
    | [] => .error .missingPath

/-- The part of a match that a second parameter asks for: a group by number or by name. -/
def groupOf (r : Regex) (captures : Regex.Captures) (group : Option Text) : Option Text :=
  match group.map Text.trim with
  | none | some [] => captures.head?.join
  | some g =>
    match Numeral.read Numeral.max64 g with
    | some i => (captures[i]?).join
    | none => r.named captures g

/-- The first match of a pattern in the body of the response, or a group of it. -/
def regex : Function :=
  ofAnswer "regex" [] 1 fun c ps => do
    let response ← requireResponse c
    let pattern := ps.headD []
    match Regex.compile pattern with
    | .error fault => .error (.pattern pattern fault)
    | .ok r =>
      match r.captures response.body with
      | none => return []
      | some captures => return (groupOf r captures ps[1]?).getD []

/-- The name of the file that is sent. -/
def fileName : Function := ofAnswer "filename" [] 0 fun c _ => .ok (c.fileName.getD [])

/-- The text that is shared. -/
def input : Function := ofAnswer "input" [] 0 fun c _ => .ok (c.input.getD [])

/-- One of the parameters. -/
def random : Function :=
  ⟨"random", [], 1, fun _ ps => do
    let i ← modifyGet (Draws.pick ps.length)
    return ps.getD i []⟩

def builtIn : List Function :=
  [response, responseUrl, header, json, regex, fileName, input, random]

end Function

end UploadTemplate
