import UploadTemplate.Text.Case
import UploadTemplate.Unicode.Category
import UploadTemplate.Url.Punycode

/-!
# Domains

A domain as hosts of URLs hold it: labels with dots between them, in lower case and in ASCII. A
label with other characters is written in Punycode after `xn--`.
-/

namespace UploadTemplate.Url.Domain

/-- Characters that a domain loses: they only guide how text is shown. -/
def isIgnored (c : Char) : Bool :=
  let n := c.toNat
  n = 0xAD || n = 0x34F || n = 0x200B || n = 0x2060 || n = 0x2064 || n = 0xFEFF ||
    (0xFE00 ≤ n && n ≤ 0xFE0F) || (0x180B ≤ n && n ≤ 0x180D) || n = 0x180F ||
    (0xE0100 ≤ n && n ≤ 0xE01EF)

/-- What a character of a domain is mapped to: every kind of full stop to a dot, the wide forms to
those of ASCII, capital letters to small ones. -/
def mapChar (c : Char) : Text :=
  let n := c.toNat
  if isIgnored c then []
  else if n = 0x3002 ∨ n = 0xFF0E ∨ n = 0xFF61 then ['.']
  else if 0xFF01 ≤ n ∧ n ≤ 0xFF5E then [Text.lowerAscii (Char.ofNat (n - 0xFEE0))]
  else if n = 0x1E9E then "ss"
  else Text.lowerChar c

def excluded : Unicode.Ranges := Unicode.ofCategories
  ["Cc".toList, "Cf".toList, "Cn".toList, "Co".toList, "Cs".toList, "Zl".toList, "Zp".toList,
    "Zs".toList]

def combining : Unicode.Ranges := Unicode.ofCategories ["Mc".toList, "Me".toList, "Mn".toList]

/-- Characters that no domain holds. -/
def isForbidden (c : Char) : Bool :=
  if Text.isAscii c then Text.isControl c || " %#/:<>?@[\\]^|".toList.contains c
  else excluded.contains c

/-- Whether mapped characters make up a label that Punycode is for. -/
def isForeign (label : Text) : Bool :=
  label.any (fun c => !Text.isAscii c) && !label.any isForbidden &&
    !label.head?.any combining.contains

/-- The ASCII form of a label of mapped characters. What is already written in Punycode must stand
for a label that needs it. -/
def asciiLabel? (label : Text) : Option Text :=
  if "xn--".toList.isPrefixOf label then
    match Punycode.decode? (label.drop 4) with
    | some plain => if isForeign plain && plain.flatMap mapChar = plain then some label else none
    | none => none
  else if label.all Text.isAscii then if label.any isForbidden then none else some label
  else if isForeign label then some ("xn--" ++ Punycode.encode label)
  else none

/-- The ASCII form of a domain. -/
def toAscii? (domain : Text) : Option Text :=
  ((Text.split '.' (domain.flatMap mapChar)).mapM asciiLabel?).map (List.intercalate ".")

end UploadTemplate.Url.Domain
