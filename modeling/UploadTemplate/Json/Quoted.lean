import UploadTemplate.Text.Numeral

/-!
# The inside of a JSON string literal

The quotation mark, the backslash and the control characters below U+0020 are escaped, those with
a letter of their own by that letter; every other character stands as it is.
-/

namespace UploadTemplate.Json.Quoted

def encodeChar (c : Char) : Text :=
  if c = '"' then ['\\', '"']
  else if c = '\\' then ['\\', '\\']
  else if c = '\x08' then ['\\', 'b']
  else if c = '\t' then ['\\', 't']
  else if c = '\n' then ['\\', 'n']
  else if c = '\x0c' then ['\\', 'f']
  else if c = '\r' then ['\\', 'r']
  else if c.toNat < 32 then
    ['\\', 'u', '0', '0', Numeral.lowerHexDigit (c.toNat / 16),
      Numeral.lowerHexDigit (c.toNat % 16)]
  else [c]

def encode (t : Text) : Text := t.flatMap encodeChar

theorem encode_append (s t : Text) : encode (s ++ t) = encode s ++ encode t := by
  simp [encode]

/-- The literal of a text, with its quotation marks. -/
def literal (t : Text) : Text := '"' :: encode t ++ ['"']

end UploadTemplate.Json.Quoted
