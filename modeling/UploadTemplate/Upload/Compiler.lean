import UploadTemplate.Naming.Interpret
import UploadTemplate.Upload.Request

/-!
# Requests from destinations

The templates of a destination become a request for one text or file. They are read one after the
other, and the first that has no text ends the work; what the templates before it did to the
counter stays.

- `Compiler.request`: the request, or why there is none.
-/

namespace UploadTemplate

structure Compiler where
  registry : Registry
  marks : Marks
  namer : Namer

/-- A computation that may change the session and may end without a request. -/
abbrev Compiling (α : Type) := ExceptT RequestError (StateM Session) α

namespace Compiler

/-- An error with the place where it arose. -/
def invalid (d : Destination) (field : Field) (entry : Option Text) (e : Error) : RequestError :=
  .invalid d.name d.host field entry e

/-- The text of a field, or of an entry of it. -/
def place {α : Type} (d : Destination) (field : Field) (entry : Option Text) (x : Naming α) :
    Compiling α :=
  ExceptT.adapt (invalid d field entry) x

def interpreter (c : Compiler) (context : Context) (encoding : Encoding) : Interpreter :=
  ⟨c.registry, context, c.marks, encoding⟩

/-- Whether a URL begins with a scheme and two slashes. -/
def hasScheme (url : Text) : Bool :=
  match Text.splitOnce ':' url with
  | some (scheme, rest) =>
    !scheme.isEmpty && scheme.all Url.isSchemeChar && "//".toList.isPrefixOf rest
  | none => false

/-- The URL, with the scheme of the secure web if it has none. -/
def withScheme (url : Text) : Text := if hasScheme url then url else "https://" ++ url

/-- The URL with further pairs in its query. -/
def withQuery (url : Text) (t : Table Text) : Text :=
  if t.isEmpty then url
  else url ++ (if '?' ∈ url then '&' else '?') :: Query.encode t

/-- The entries of a field with their templates replaced by their texts. -/
def entries (c : Compiler) (d : Destination) (context : Context) (field : Field) :
    List (Text × Text) → Compiling (List (Text × Text))
  | [] => pure []
  | (k, t) :: r => do
    let made ← place d field (some k) ((c.interpreter context .plain).interpretNamed c.namer t)
    let rest ← entries c d context field r
    pure ((k, made) :: rest)

def table (c : Compiler) (d : Destination) (context : Context) (field : Field) (t : Table Text) :
    Compiling (Table Text) :=
  Table.ofList <$> c.entries d context field t.entries

/-- The call of a function without parameters. -/
def bareCall (m : Marks) (name : Text) : Text := m.opening :: name ++ [m.closing]

/-- Finds the places of the input and of the file name in a document. -/
def placeholderAt (m : Marks) (input fileName : Text) : Text.Finder Text := fun t =>
  let at? (name value : Text) : Option (Text × Nat) :=
    if (bareCall m name).isPrefixOf t then some (value, (bareCall m name).length) else none
  (at? "input" input).or (at? "filename" fileName)

/-- A document with the input and the file name in their places. Its other marks mean nothing, so
that it may have braces of its own. -/
def fill (m : Marks) (encoding : Encoding) (context : Context) (document : Text) : Text :=
  Text.refill id <| Text.cut (placeholderAt m (encoding.apply (context.input.getD []))
    (encoding.apply (context.fileName.getD []))) document

def document (c : Compiler) (d : Destination) (context : Context) (encoding : Encoding) :
    Compiling Text :=
  fill c.marks encoding context <$>
    place d .data none (c.namer.expandKeepingEscapes c.marks.escape d.data)

/-- The form name of the file that is sent, if one is. -/
def fileFormName (d : Destination) (context : Context) : Except RequestError (Option Text) :=
  match context.fileName with
  | none => .ok none
  | some _ =>
    if Text.isBlankText d.fileFormName then .error (.missing .fileFormName)
    else .ok (some d.fileFormName)

def body (c : Compiler) (d : Destination) (context : Context) : Compiling RequestBody :=
  match d.body with
  | .nothing => pure .nothing
  | .multipart => do
    let formName ← liftExcept (fileFormName d context)
    let arguments ← c.table d context .arguments d.arguments
    pure (.multipart arguments formName)
  | .form => .form <$> c.table d context .arguments d.arguments
  | .json => .json <$> c.document d context .json
  | .xml => .xml <$> c.document d context .xml
  | .binary =>
    pure (.binary (if d.fileFormName.isEmpty then none else some d.fileFormName))
where
  liftExcept {α : Type} (x : Except RequestError α) : Compiling α := ExceptT.mk (pure x)

/-- The request for a destination whose query has been moved into its parameters. -/
def requestNormalized (c : Compiler) (d : Destination) (context : Context) : Compiling Request :=
  if Text.isBlankText d.requestUrl then throw (.missing .requestUrl)
  else do
    let url ← place d .requestUrl none
      ((c.interpreter context .url).interpretNamed c.namer d.requestUrl)
    let parameters ← c.table d context .parameters d.parameters
    let headers ← c.table d context .headers d.headers
    let body ← c.body d context
    pure ⟨d.method, withQuery (withScheme url) parameters, headers, body⟩

/-- The request for a destination. -/
def request (c : Compiler) (d : Destination) (context : Context) : Compiling Request :=
  c.requestNormalized (d.normalized c.marks) context

end Compiler

end UploadTemplate
