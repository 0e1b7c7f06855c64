import UploadTemplate.Text

/-!
# UTF-8

Texts as bytes and back. Reading refuses what is not the encoding of a text.
-/

namespace UploadTemplate

abbrev Bytes := List UInt8

namespace Utf8

def encode (t : Text) : Bytes := t.flatMap String.utf8EncodeChar

def decode (bytes : Bytes) : Option Text :=
  (bytes.toByteArray.utf8Decode?).map Array.toList

theorem encode_append (s t : Text) : encode (s ++ t) = encode s ++ encode t := by
  simp [encode]

theorem decode_encode (t : Text) : decode (encode t) = some t := by
  have h : (encode t).toByteArray = t.utf8Encode := rfl
  simp [decode, h, List.utf8Decode?_utf8Encode]

end Utf8

end UploadTemplate
