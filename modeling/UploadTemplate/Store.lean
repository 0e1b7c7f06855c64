import UploadTemplate.Files
import UploadTemplate.Store.Format

/-!
# Destination files

Loading, saving and choosing destinations.
-/

namespace UploadTemplate

/-- Why a destination file cannot be used. -/
inductive StoreError where
  | unreadable (path : Text)
  | invalid (path : Text) (fault : FormatFault)
  | unwritable (path : Text)
  deriving DecidableEq, Repr

def StoreError.message : StoreError → Text
  | .unreadable path => "Could not read destination file " ++ path
  | .invalid path fault => "Invalid destination file " ++ path ++ ": " ++ fault.message
  | .unwritable path => "Could not write destination file " ++ path

/-- Why no destination is chosen. -/
inductive SelectionError where
  | noneNamed (name : Text)
  | noneAtAll
  | several
  deriving DecidableEq, Repr

def SelectionError.message : SelectionError → Text
  | .noneNamed name => "No destination named \"" ++ name ++ "\""
  | .noneAtAll => "Destination file is empty"
  | .several => "Destination file holds several destinations, pick one by name"

namespace Store

/-- The destinations of a file, as they are written. -/
def load (fs : Files) (path : Text) : Except StoreError (List Destination) :=
  match fs.readText? path with
  | none => .error (.unreadable path)
  | some t => ((Format.ofPath path).read t).mapError (.invalid path)

/-- The files with destinations saved at a path. -/
def save (fs : Files) (path : Text) (ds : List Destination) : Except StoreError Files :=
  match fs.write? path (Utf8.encode ((Format.ofPath path).write ds)) with
  | none => .error (.unwritable path)
  | some fs => .ok fs

/-- The first destination with a name, whatever its case, or the only one. -/
def select (ds : List Destination) (name : Option Text) : Except SelectionError Destination :=
  match name with
  | some name =>
    match ds.find? fun d => Text.sameAscii d.name name with
    | some d => .ok d
    | none => .error (.noneNamed name)
  | none =>
    match ds with
    | [d] => .ok d
    | [] => .error .noneAtAll
    | _ => .error .several

end Store

end UploadTemplate
