import UploadTemplate.Unicode.CaseTable
import UploadTemplate.Unicode.Casing

/-!
# Lower and upper case

The full case mappings of Unicode, which may turn one character into several. A capital sigma at
the end of a word becomes a final sigma.
-/

namespace UploadTemplate.Text

open UploadTemplate.Unicode

/-- The character that a table of runs maps a code point to. -/
def mapCode (runs : List CaseRun) (n : Nat) : Option Char :=
  (runs.find? fun (first, last, step, _) => first ≤ n && n ≤ last && (n - first) % step = 0).map
    fun (_, _, _, distance) => Char.ofNat ((n : Int) + distance).toNat

/-- The lower-case form of a character outside any word. -/
def lowerChar (c : Char) : Text :=
  if isAscii c then [lowerAscii c]
  else if c = 'İ' then ['i', '\u0307']
  else [(mapCode lowerRuns c.toNat).getD c]

def upperAscii (c : Char) : Char :=
  if 'a' ≤ c ∧ c ≤ 'z' then Char.ofNat (c.toNat - 32) else c

/-- The upper-case form of a character. -/
def upperChar (c : Char) : Text :=
  if isAscii c then [upperAscii c]
  else
    match upperLong.lookup c.toNat with
    | some codes => codes.map Char.ofNat
    | none => [(mapCode upperRuns c.toNat).getD c]

/-- Whether the first character of a text that counts for case has case. -/
def meetsCased (t : Text) : Bool :=
  match t.find? fun c => !caseIgnorable.contains c with
  | some c => cased.contains c
  | none => false

/-- Lower-cases the rest of a text, where `before` is what stands before it, newest first. -/
def lowerFrom (before : Text) : Text → Text
  | [] => []
  | c :: r =>
    (if c = 'Σ' then [if meetsCased before && !meetsCased r then 'ς' else 'σ'] else lowerChar c) ++
      lowerFrom (c :: before) r

/-- The lower-case form of a text. -/
def lower (t : Text) : Text := lowerFrom [] t

/-- The upper-case form of a text. -/
def upper (t : Text) : Text := t.flatMap upperChar

end UploadTemplate.Text
