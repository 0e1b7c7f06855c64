import UploadTemplate.Template.Marks
import UploadTemplate.Text.Cut
import UploadTemplate.Text.Numeral

/-!
# Templates between dollar signs

In older templates a call begins and ends with a dollar sign, and a backslash makes the next
character literal. A call of a regular expression gives the number of a pattern in a list.

- `Dollar.toMarks`: such a template in terms of marks.
- `Dollar.inlinePatterns`: the patterns of a list in the place of their numbers.
-/

namespace UploadTemplate.Dollar

/-- A character of the old text under the new marks. Outside the name of a call the argument mark
means itself, so it takes no escape. -/
def literal (m : Marks) (c : Char) : Text :=
  if m.isSpecial c ∧ c ≠ m.argument then [m.escape, c] else [c]

/-- The rest of a text, from inside or outside a call on, in terms of marks. -/
def toMarksFrom (m : Marks) (inCall : Bool) : Text → Text
  | [] => if inCall then [m.closing] else []
  | c :: r =>
    if c = '\\' then
      match r with
      | [] => literal m '\\' ++ toMarksFrom m inCall []
      | d :: r => literal m d ++ toMarksFrom m inCall r
    else if c = '$' then
      (if inCall then m.closing else m.opening) :: toMarksFrom m (!inCall) r
    else if c = m.separator ∧ inCall then c :: toMarksFrom m inCall r
    else literal m c ++ toMarksFrom m inCall r

/-- The template with the calls between marks. A call that is open at the end is closed there. -/
def toMarks (m : Marks) (t : Text) : Text := toMarksFrom m false t

/-- How a call of a regular expression begins. -/
def patternCall (m : Marks) : Text := m.opening :: "regex".toList ++ [m.argument]

/-- The pattern that a numeral stands for; the first one has the number one. -/
def patternAt? (patterns : List Text) (numeral : Text) : Option Text :=
  match Numeral.read Numeral.max64 numeral with
  | none | some 0 => none
  | some (n + 1) => patterns[n]?

/-- Finds the beginning of a call of a regular expression, together with the number of a pattern
that follows it and is the whole parameter; gives what takes their place. -/
def referenceAt (m : Marks) (patterns : List Text) : Text.Finder Text := fun t =>
  let call := patternCall m
  if call.isPrefixOf t then
    let rest := t.drop call.length
    let numeral := rest.takeWhile Text.isAsciiDigit
    let ends := (rest.dropWhile Text.isAsciiDigit).head?.any fun c =>
      c = m.separator || c = m.closing
    match if ends then patternAt? patterns numeral else none with
    | some p => some (call ++ m.escapeText p, call.length + numeral.length)
    | none => some (call, call.length)
  else none

/-- The template with every number of a pattern replaced by the pattern itself, its marks escaped.
A number that stands for no pattern is kept. -/
def inlinePatterns (m : Marks) (patterns : List Text) (t : Text) : Text :=
  Text.refill id (Text.cut (referenceAt m patterns) t)

end UploadTemplate.Dollar
