import UploadTemplate.Clock.Moment
import UploadTemplate.Files

/-!
# What names read

The environment variables, the files and the clock.
-/

namespace UploadTemplate

/-- The environment variables that names read, and what the file with the host name holds. -/
structure Environment where
  user : Option Text
  userName : Option Text
  logName : Option Text
  hostName : Option Text
  computerName : Option Text
  hostFile : Option Text
  deriving DecidableEq

namespace Environment

def empty : Environment := ⟨none, none, none, none, none, none⟩

/-- The first value that is there and not empty. -/
def firstOf (values : List (Option Text)) : Option Text :=
  values.findSome? fun v => v.filter fun t => !t.isEmpty

def user? (e : Environment) : Text := (firstOf [e.user, e.userName]).getD []

def login? (e : Environment) : Text := (firstOf [e.logName, e.user, e.userName]).getD []

def machine? (e : Environment) : Text :=
  ((firstOf [e.hostName, e.computerName]).or (e.hostFile.map Text.trim)).getD []

end Environment

structure Surroundings where
  environment : Environment
  files : Files
  now : Clock.Moment

end UploadTemplate
