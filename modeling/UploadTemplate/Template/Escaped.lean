import UploadTemplate.Text

/-!
# Escaped text as runs and pairs

Template text falls into runs, which hold no escape character, and the escaped characters between
them. What changes a template before it is read works on the runs and leaves every escaped
character, with its escape, where it is.
-/

namespace UploadTemplate.Escaped

/-- A part of a text with escapes. -/
inductive Part where
  /-- Characters outside every escape; `Part.cut` makes no empty run. -/
  | run (text : Text)
  /-- An escape and the character that it makes literal. -/
  | pair (c : Char)
  /-- An escape at the very end of the text. -/
  | lone
  deriving DecidableEq, Repr

/-- Puts a character in front of a list of parts, into its first run if it begins with one. -/
def consChar (c : Char) : List Part → List Part
  | .run t :: r => .run (c :: t) :: r
  | parts => .run [c] :: parts

/-- The parts of a text. -/
def cut (escape : Char) : Text → List Part
  | [] => []
  | c :: r =>
    if c = escape then
      match r with
      | [] => [.lone]
      | d :: r => .pair d :: cut escape r
    else consChar c (cut escape r)

/-- The text that a list of parts stands for. -/
def join (escape : Char) : List Part → Text
  | [] => []
  | .run t :: r => t ++ join escape r
  | .pair c :: r => escape :: c :: join escape r
  | .lone :: r => escape :: join escape r

theorem join_consChar (escape c : Char) (parts : List Part) :
    join escape (consChar c parts) = c :: join escape parts := by
  rcases parts with _ | ⟨_ | _ | _, r⟩ <;> simp [consChar, join]

theorem join_cut (escape : Char) (t : Text) : join escape (cut escape t) = t := by
  fun_induction cut escape t with
  | case1 => rfl
  | case2 => simp [join]
  | case3 d r ih => simp [join, ih]
  | case4 c r h ih => rw [join_consChar, ih]

/-- The text of a list of parts with every run replaced, from left to right. -/
def mapParts {m : Type → Type} [Monad m] (escape : Char) (f : Text → m Text) :
    List Part → m Text
  | [] => pure []
  | .run t :: r => do
    let made ← f t
    let rest ← mapParts escape f r
    pure (made ++ rest)
  | .pair c :: r => do
    let rest ← mapParts escape f r
    pure (escape :: c :: rest)
  | .lone :: r => do
    let rest ← mapParts escape f r
    pure (escape :: rest)

/-- The text with every run replaced and its escaped characters kept. -/
def mapRuns {m : Type → Type} [Monad m] (escape : Char) (f : Text → m Text) (t : Text) : m Text :=
  mapParts escape f (cut escape t)

end UploadTemplate.Escaped
