import UploadTemplate.Text.Percent

/-!
# Names as parts of paths and addresses

What must be left out or escaped where a name is used as a file name, a path or a URL.
-/

namespace UploadTemplate.Naming

def sanitizeFileName (t : Text) : Text :=
  t.filter fun c => !Text.isControl c && !"\\/:*?\"<>|".toList.contains c

def sanitizePath (t : Text) : Text :=
  t.filter fun c => !Text.isControl c && !"\"<>|".toList.contains c

/-- The characters that stand in a URL as they are, with those that give it its structure. -/
def isUrlChar (c : Char) : Bool :=
  Text.isAsciiAlphanumeric c || "-._~:/?#[]@!$&'()*+,;=%".toList.contains c

/-- Percent-encodes what cannot stand in a URL. -/
def sanitizeUrl (t : Text) : Text :=
  t.flatMap fun c => if isUrlChar c then [c] else Percent.encodeChar c

theorem sanitizeUrl_append (s t : Text) :
    sanitizeUrl (s ++ t) = sanitizeUrl s ++ sanitizeUrl t := by
  simp [sanitizeUrl]

end UploadTemplate.Naming
