import UploadTemplate.Text

/-!
# Marks

The five characters that give template text its structure. A set of marks exists only if the
five are distinct; `Marks.of` names the first one that is not.
-/

namespace UploadTemplate

/-- The structural characters of template text. -/
structure Marks where
  /-- Opens a call. -/
  opening : Char
  /-- Closes a call. -/
  closing : Char
  /-- Ends the name of a call and begins its first parameter. -/
  argument : Char
  /-- Stands between two parameters. -/
  separator : Char
  /-- Makes the next character literal. -/
  escape : Char
  distinct : [opening, closing, argument, separator, escape].Nodup
  deriving DecidableEq

namespace Marks

/-- The first character of a list that occurs again later in it. -/
def firstRepeated : List Char → Option Char
  | [] => none
  | c :: r => if c ∈ r then some c else firstRepeated r

theorem nodup_of_firstRepeated {l : List Char} (h : firstRepeated l = none) : l.Nodup := by
  induction l with
  | nil => simp
  | cons c r ih =>
    simp only [firstRepeated] at h
    split at h
    · cases h
    · rename_i hc
      exact List.nodup_cons.2 ⟨hc, ih h⟩

/-- The marks with the given characters, or the character that is used more than once. -/
def of (opening closing argument separator escape : Char) : Except Char Marks :=
  match h : firstRepeated [opening, closing, argument, separator, escape] with
  | some c => .error c
  | none => .ok ⟨opening, closing, argument, separator, escape, nodup_of_firstRepeated h⟩

/-- The usual marks: a call in braces, a colon before its parameters, bars between them. -/
def standard : Marks := ⟨'\x7b', '\x7d', ':', '|', '\\', by decide⟩

instance : Inhabited Marks := ⟨standard⟩

def isSpecial (m : Marks) (c : Char) : Bool :=
  c = m.opening || c = m.closing || c = m.argument || c = m.separator || c = m.escape

/-- The text with every mark in it escaped. -/
def escapeText (m : Marks) (t : Text) : Text :=
  t.flatMap fun c => if m.isSpecial c then [m.escape, c] else [c]

theorem escapeText_append (m : Marks) (s t : Text) :
    m.escapeText (s ++ t) = m.escapeText s ++ m.escapeText t := by
  simp [escapeText]

end Marks

end UploadTemplate
