import UploadTemplate.Text

/-!
# XML entities

The five characters with a meaning in XML text are written as their predefined entities.
-/

namespace UploadTemplate.Entity

def encodeChar (c : Char) : Text :=
  if c = '<' then "&lt;"
  else if c = '>' then "&gt;"
  else if c = '&' then "&amp;"
  else if c = '\x27' then "&apos;"
  else if c = '"' then "&quot;"
  else [c]

def encode (t : Text) : Text := t.flatMap encodeChar

theorem encode_append (s t : Text) : encode (s ++ t) = encode s ++ encode t := by
  simp [encode]

end UploadTemplate.Entity
