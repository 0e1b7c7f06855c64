import UploadTemplate.Command.Arguments
import UploadTemplate.Destination.Migration
import UploadTemplate.Naming.Interpret
import UploadTemplate.Store
import UploadTemplate.Upload

/-!
# Running commands

What a command prints and what it does to the files. The files, the clock and the environment are
values, and so is what answers requests.

- `Command.run`: the outcome of a command.
-/

namespace UploadTemplate

/-- Why a command does not do its work. -/
inductive CommandError where
  | template (error : Error)
  | unknownKind (kind : Text)
  | unknownZone (zone : Text)
  | store (error : StoreError)
  | selection (error : SelectionError)
  | request (error : RequestError)
  /-- The file that is to be sent cannot be read. -/
  | unreadable (path : Text)
  | noFileName
  /-- A request has no answer. -/
  | transport (message : Text)
  | noUrl (name : Text)
  deriving DecidableEq, Repr

def CommandError.message : CommandError → Text
  | .template e => e.message
  | .unknownKind kind => NameKind.unknown kind
  | .unknownZone zone => "Invalid time zone \"" ++ zone ++ "\": failed to parse timezone"
  | .store e => e.message
  | .selection e => e.message
  | .request e => e.message
  | .unreadable path => "Could not read " ++ path
  | .noFileName => "Upload path has no file name"
  | .transport message => message
  | .noUrl name => "Upload to \"" ++ name ++ "\" did not produce a URL"

/-- What a command has printed, the files after it, and what went wrong if anything did. -/
structure Outcome where
  output : Text
  files : Files
  error : Option CommandError
  deriving DecidableEq

/-- What a command finds when it begins. -/
structure Scene where
  surroundings : Surroundings
  draws : Draws
  /-- The answer to a request that may carry a file. -/
  send : Request → Option Bytes → Except Text Response

namespace Command

/-- A text with the end of its line. -/
def line (t : Text) : Text := t ++ ['\n']

/-- The outcome of a command that leaves the files alone. -/
def printing (s : Scene) (r : Except CommandError Text) : Outcome :=
  match r with
  | .ok t => ⟨line t, s.surroundings.files, none⟩
  | .error e => ⟨[], s.surroundings.files, some e⟩

/-- The result of a computation on names from a counter. -/
def evaluate {α : Type} (s : Scene) (counter : Nat) (x : Naming α) : Except CommandError α :=
  ((x.run.run ⟨counter, s.draws⟩).1).mapError .template

def context (fileName input : Option Text) : Context := ⟨fileName, input, none⟩

def compiler (s : Scene) : Compiler := ⟨.standard, .standard, .standard s.surroundings⟩

def runInterpret (s : Scene) (template : Text) (input fileName : Option Text) :
    Except CommandError Text :=
  let i : Interpreter := ⟨.standard, context fileName input, .standard, .plain⟩
  evaluate s 0 (i.interpretNamed (.standard s.surroundings) template)

/-- The zone with a name, if one is named. -/
def zone? (name : Option Text) : Except CommandError (Option Clock.Zone) :=
  match name with
  | none => .ok none
  | some name =>
    match Clock.Zone.named? name with
    | some z => .ok (some z)
    | none => .error (.unknownZone name)

def runExpandName (s : Scene) (pattern kind : Text) (counter : Nat) (zone : Option Text)
    (preview : Bool) : Except CommandError Text :=
  match NameKind.ofText? kind with
  | none => .error (.unknownKind kind)
  | some kind => do
    let zone ← zone? zone
    let n : Namer := { Namer.standard s.surroundings with kind, zone, preview }
    evaluate s counter (n.expand pattern)

/-- The destinations of a file at the current version, and whether any was not. -/
def migrated (fs : Files) (path : Text) : Except StoreError (List Destination × Bool) :=
  (Store.load fs path).map fun ds => (ds.map Destination.migrate, ds.any Destination.isOutdated)

/-- Writes the file anew if it holds an outdated destination, or prints what would be written. -/
def runMigrate (s : Scene) (path : Text) (write : Bool) : Outcome :=
  let fs := s.surroundings.files
  match migrated fs path with
  | .error e => ⟨[], fs, some (.store e)⟩
  | .ok (ds, outdated) =>
    if !write then ⟨line ((Format.ofPath path).write ds), fs, none⟩
    else if !outdated then ⟨[], fs, none⟩
    else
      match Store.save fs path ds with
      | .ok fs => ⟨[], fs, none⟩
      | .error e => ⟨[], fs, some (.store e)⟩

/-- The destination that is chosen from a file, at the current version. -/
def destination (fs : Files) (path : Text) (name : Option Text) :
    Except CommandError Destination := do
  let ds ← (Store.load fs path).mapError .store
  let d ← (Store.select ds name).mapError .selection
  return d.migrate

def runShowRequest (s : Scene) (path : Text) (name input fileName : Option Text) :
    Except CommandError Text := do
  let d ← destination s.surroundings.files path name
  let r ← (((compiler s).request d (context fileName input)).run.run ⟨0, s.draws⟩).1.mapError
    .request
  return r.toJson.pretty

/-- The file that is to be sent: its name and its bytes. -/
def fileToSend (fs : Files) (path : Text) : Except CommandError (Text × Bytes) :=
  match fs.read? path, Path.fileName? path with
  | none, _ => .error (.unreadable path)
  | some _, none => .error .noFileName
  | some bytes, some name => .ok (name, bytes)

/-- Prints the result of an upload, which should have a link. -/
def reporting (s : Scene) (d : Destination) (r : UploadResult) : Outcome :=
  { output := line r.toJson.pretty
    files := s.surroundings.files
    error := if r.url.isNone && r.shortenedUrl.isNone then some (.noUrl d.name) else none }

def runUpload (s : Scene) (path : Text) (name file input : Option Text) : Outcome :=
  let fs := s.surroundings.files
  let failing (e : CommandError) : Outcome := ⟨[], fs, some e⟩
  match destination fs path name with
  | .error e => failing e
  | .ok d =>
    match file.mapM (fileToSend fs) with
    | .error e => failing e
    | .ok sent =>
      let send (r : Request) := s.send r (sent.map (·.2))
      match (((compiler s).upload d (sent.map (·.1)) input send).run ⟨0, s.draws⟩).1 with
      | .refused e => failing (.request e)
      | .unanswered _ message => failing (.transport message)
      | .answered _ r => reporting s d r

/-- The outcome of a command. How long an answer may take is up to what sends the request. -/
def run (s : Scene) : Command → Outcome
  | interpret template input fileName => printing s (runInterpret s template input fileName)
  | expandName pattern kind counter zone preview =>
    printing s (runExpandName s pattern kind counter zone preview)
  | migrate path write => runMigrate s path write
  | showRequest path name input fileName => printing s (runShowRequest s path name input fileName)
  | upload path name file input _ => runUpload s path name file input

end Command

end UploadTemplate
