import UploadTemplate.Text

/-!
# Names in paths
-/

namespace UploadTemplate.Path

/-- The last name of a path, if it is the name of a file. -/
def fileName? (path : Text) : Option Text :=
  ((((Text.split '/' path).filter fun n => n ≠ [] ∧ n ≠ ['.']).getLast?).filter
    fun n => n != ['.', '.'])

/-- What stands behind the last dot of a file name; a dot at its very beginning does not count. -/
def extension? (path : Text) : Option Text :=
  match fileName? path with
  | none => none
  | some name =>
    let after := (name.reverse.takeWhile (· != '.')).reverse
    if after.length + 1 < name.length then some after else none

end UploadTemplate.Path
