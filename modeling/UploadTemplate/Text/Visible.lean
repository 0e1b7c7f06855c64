import UploadTemplate.Text.Numeral
import UploadTemplate.Unicode.Category

/-!
# Visible texts

A text between quotes in which everything that a reader cannot see, or could take for something
else, is escaped.
-/

namespace UploadTemplate.Text

/-- The characters that show only on the character before them. -/
def graphemeExtending : Unicode.Ranges := .ofDistances <|
  "300 70 113 7 107 2D 1 1 1 2 1 2 1 1 48 B 30 15 10 1 65 7 2 6 2 2 1 4 23 1 1E 1B 5B B 3A 9 "
  ++ "9 1 18 4 1 9 1 3 1 5 2B 3 3B 9 2A 18 1 20 37 1 1 1 4 8 4 1 3 7 A 2 1D 1 3A 1 1 1 2 4 8 1 "
  ++ "9 1 A 2 1A 1 2 2 39 1 4 2 4 2 2 3 3 1 1E 2 3 1 B 2 39 1 4 5 1 2 4 1 14 2 16 6 1 1 3A 1 1 "
  ++ "2 1 4 8 1 7 3 A 2 1E 1 3B 1 1 1 C 1 9 1 28 1 3 1 37 1 1 3 5 3 1 4 7 2 B 2 1D 1 3A 1 2 2 1 "
  ++ "1 3 3 1 4 7 2 B 2 1C 2 39 2 1 1 2 4 8 1 9 1 A 2 1D 1 48 1 4 1 2 3 1 1 8 1 51 1 2 7 C 8 62 "
  ++ "1 2 9 B 7 49 2 1B 1 1 1 1 1 37 E 1 5 1 2 5 B 1 24 9 1 66 4 1 6 1 2 2 2 19 2 4 3 10 4 D 1 "
  ++ "2 2 6 1 F 1 2BF 3 3B2 4 1C 3 1D 2 1E 2 40 2 1 7 8 1 2 B 9 1 2D 3 1 1 75 2 22 1 76 3 4 2 9 "
  ++ "1 6 3 DB 2 2 1 3A 1 1 7 1 1 1 1 2 8 6 A 2 1 30 2E 2 C 14 4 30 A 4 3 26 9 C 2 20 4 2 6 38 "
  ++ "1 1 2 3 1 1 5 38 8 2 2 98 3 1 D 1 7 4 1 6 1 3 2 C6 40 20C 1 C3 21 BFE 3 8D 1 60 20 22A 6 "
  ++ "69 2 75D4 4 1 A 20 2 50 2 110 1 3 1 4 1 19 2 5 1 97 2 1A 12 D 1 26 8 19 B 1 1 2C 3 30 1 2 "
  ++ "4 2 2 2 1 24 1 43 6 2 2 2 2 C 1 8 1 2F 1 33 1 1 3 2 2 5 2 1 1 2A 2 8 1 EE 1 2 1 4 1 4F30 "
  ++ "1 2E1 10 10 10 16E 2 25D 1 E2 1 95 5 686 3 1 2 5 4 28 3 4 1 A5 2 23D 4 41 5 13D 2 4D 6 46 "
  ++ "B 31 4 7B 1 36 F 29 1 2 2 A 3 31 4 2 2 7 1 3D 3 24 5 1 8 3E 1 C 2 34 9 1 1 8 4 2 1 5F 3 2 "
  ++ "4 6 1 2 1 9D 1 3 8 15 2 39 2 1 1 1 1 C 1 9 1 E 7 3 5 43 1 2 6 1 1 2 1 1 3 4 3 1 1 E 2 55 "
  ++ "8 2 3 1 1 17 1 51 1 2 6 1 1 2 1 1 2 1 2 EB 1 2 4 6 2 1 2 1B 2 55 8 2 1 1 2 6A 1 1 1 2 8 "
  ++ "65 1 1 1 2 4 1 5 103 9 1 2 F5 1 A 4 4 1 90 4 2 2 4 1 20 A 28 6 2 4 8 1 9 6 2 3 2E D 1 2 "
  ++ "C6 1 1 3 1 1 C9 7 1 6 1 1 52 16 2 7 1 2 1 2 7A 6 3 1 1 2 1 7 1 1 48 2 3 1 1 1 15B 2 B 2 "
  ++ "34 5 5 3 17 1 14E5 1 6 F 2CC8 C 3 3 9C0 5 3B 7 418 1 3F 4 51 1 B 2 4CAB 2 1261 2E 2 17 "
  ++ "21E 5 3 6 8 8 2 7 1E 4 94 3 7BB 37 4 32 8 1 E 1 16 5 1 F 550 7 1 11 2 7 1 2 1 5 64 1 A0 7 "
  ++ "177 1 3D 4 1FC 4 FE 2 F3 1 2 1 7 2 5 1 1DA 7 6D 7 C16D5 60 80 F0"

/-- The characters that show nothing of their own. -/
def invisible : Unicode.Ranges := Unicode.ofCategories
  ["Cc".toList, "Cf".toList, "Cn".toList, "Co".toList, "Cs".toList, "Zl".toList, "Zp".toList,
    "Zs".toList]

/-- A character with its code point in hexadecimal digits. -/
def codeEscape (c : Char) : Text :=
  "\\u\x7b" ++ (Numeral.digits 16 c.toNat).map Numeral.lowerHexDigit ++ "\x7d"

def visibleChar (c : Char) : Text :=
  if c = '\t' then "\\t"
  else if c = '\r' then "\\r"
  else if c = '\n' then "\\n"
  else if c = '\x00' then "\\0"
  else if c = '"' ∨ c = '\\' then ['\\', c]
  else if c = ' ' then [c]
  else if graphemeExtending.contains c || invisible.contains c then codeEscape c
  else [c]

/-- The text between quotes. -/
def visible (t : Text) : Text := '"' :: t.flatMap visibleChar ++ ['"']

end UploadTemplate.Text
