import UploadTemplate.Text.Numeral
import UploadTemplate.Text.Utf8

/-!
# Percent coding

Every byte of a text that is not an unreserved character is written as `%` and two upper-case
hexadecimal digits. Decoding takes either case; an escape that is not complete stands for itself.
-/

namespace UploadTemplate.Percent

/-- The characters that a URL carries as they are. -/
def isUnreserved (c : Char) : Bool :=
  Text.isAsciiAlphanumeric c || c = '-' || c = '_' || c = '.' || c = '~'

def escape (b : UInt8) : Text :=
  ['%', Numeral.upperHexDigit (b.toNat / 16), Numeral.upperHexDigit (b.toNat % 16)]

def encodeChar (c : Char) : Text :=
  if isUnreserved c then [c] else (String.utf8EncodeChar c).flatMap escape

def encode (t : Text) : Text := t.flatMap encodeChar

theorem encode_append (s t : Text) : encode (s ++ t) = encode s ++ encode t := by
  simp [encode]

/-- The byte that two hexadecimal digits name. -/
def byte? (hi lo : Char) : Option UInt8 := do
  let h ← Numeral.hexValue hi
  let l ← Numeral.hexValue lo
  pure (UInt8.ofNat (16 * h + l))

/-- The bytes that a percent-coded text stands for. -/
def decodeBytes : Text → Bytes
  | [] => []
  | '%' :: hi :: lo :: r =>
    match byte? hi lo with
    | some b => b :: decodeBytes r
    | none => String.utf8EncodeChar '%' ++ decodeBytes (hi :: lo :: r)
  | c :: r => String.utf8EncodeChar c ++ decodeBytes r

/-- The decoded text, or the text itself where its bytes are no text. -/
def decode (t : Text) : Text := (Utf8.decode (decodeBytes t)).getD t

end UploadTemplate.Percent
