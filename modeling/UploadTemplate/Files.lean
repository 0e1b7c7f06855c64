import UploadTemplate.Text.Utf8

/-!
# Files

A file system is the list of its files by the names on the way to them from the working directory,
or from the root, which is the name of a slash. A directory exists where a file lies below it, and
so do those above the working directory.
-/

namespace UploadTemplate

/-- The names on the way to a file. -/
abbrev Location := List Text

structure Files where
  entries : List (Location × Bytes)
  deriving DecidableEq

namespace Files

def isFile (fs : Files) (l : Location) : Bool := fs.entries.any fun e => e.1 == l

def isDirectory (fs : Files) (l : Location) : Bool :=
  l.isEmpty || fs.entries.any fun e => l.isPrefixOf e.1 && l.length < e.1.length

/-- Where a path begins. -/
def origin (path : Text) : Location := if path.head? = some '/' then [['/']] else []

/-- The directory above another one. -/
def parent (l : Location) : Location :=
  if l = [['/']] then l
  else if l.all (· == ['.', '.']) then ['.', '.'] :: l
  else l.dropLast

/-- The directory that names lead to from a directory. -/
def directory? (fs : Files) : Location → List Text → Option Location
  | here, [] => some here
  | here, name :: r =>
    if name = [] ∨ name = ['.'] then directory? fs here r
    else if name = ['.', '.'] then directory? fs (parent here) r
    else if fs.isDirectory (here ++ [name]) then directory? fs (here ++ [name]) r
    else none

/-- Where the file of a path lies or would lie. -/
def locate? (fs : Files) (path : Text) : Option Location :=
  let names := Text.split '/' path
  match names.getLast? with
  | none => none
  | some last =>
    if last = [] ∨ last = ['.'] ∨ last = ['.', '.'] ∨ '\x00' ∈ path then none
    else (fs.directory? (origin path) names.dropLast).map (· ++ [last])

/-- The bytes of the file at a path. -/
def read? (fs : Files) (path : Text) : Option Bytes :=
  (fs.locate? path).bind fun l => (fs.entries.find? fun e => e.1 == l).map (·.2)

/-- The text of the file at a path, if it has one. -/
def readText? (fs : Files) (path : Text) : Option Text := (fs.read? path).bind Utf8.decode

/-- The files with other bytes at a location. -/
def put (fs : Files) (l : Location) (content : Bytes) : Files :=
  if fs.isFile l then
    ⟨fs.entries.map fun e => if e.1 == l then (l, content) else e⟩
  else ⟨fs.entries ++ [(l, content)]⟩

/-- The files after writing to a path, unless there can be no file. -/
def write? (fs : Files) (path : Text) (content : Bytes) : Option Files :=
  (fs.locate? path).bind fun l => if fs.isDirectory l then none else some (fs.put l content)

/-- The location that a path names, whatever exists on the way to it. -/
def place (path : Text) : Location :=
  (Text.split '/' path).foldl (fun here name =>
    if name = [] ∨ name = ['.'] then here
    else if name = ['.', '.'] then parent here
    else here ++ [name]) (origin path)

/-- The path to a location. -/
def pathOf : Location → Text
  | ['/'] :: l => '/' :: List.intercalate ['/'] l
  | l => List.intercalate ['/'] l

/-- The files with a directory at a path. What it holds is the name of the directory itself, which
no path leads to as a file. -/
def withDirectory (fs : Files) (path : Text) : Files := fs.put (place path ++ [['.']]) []

/-- The directories that a path passes through. -/
def directoriesOn (path : Text) : List Text :=
  ((List.range path.length).filter fun i => path[i]? = some '/').map fun i => path.take i

/-- The files with the given contents by their paths. -/
def ofList (l : List (Text × Bytes)) : Files :=
  l.foldl (fun fs e => fs.put (place e.1) e.2) ⟨[]⟩

end Files

end UploadTemplate
