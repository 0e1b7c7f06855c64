import UploadTemplate.Text

/-!
# Leftmost occurrences

A finder looks at a text and says what stands at its very beginning and how many characters that
takes. `Text.cut` runs through a text once, from left to right, and cuts it at the occurrences
that a finder reports; what an occurrence has taken is not looked at again.
-/

namespace UploadTemplate.Text

/-- A part of a text that has been searched: a character outside every occurrence, or an
occurrence with what the finder said about it. -/
inductive Fragment (α : Type) where
  | char (c : Char)
  | found (a : α)
  deriving DecidableEq, Repr

/-- What stands at the beginning of a text, with the number of characters it takes. -/
abbrev Finder (α : Type) := Text → Option (α × Nat)

/-- Passes over `skip` characters and cuts the rest. An occurrence takes at least the character
at which it was found. -/
def cutAfter {α : Type} (find : Finder α) : Nat → Text → List (Fragment α)
  | _, [] => []
  | skip + 1, _ :: r => cutAfter find skip r
  | 0, c :: r =>
    match find (c :: r) with
    | some (a, width) => .found a :: cutAfter find (width - 1) r
    | none => .char c :: cutAfter find 0 r

def cut {α : Type} (find : Finder α) (t : Text) : List (Fragment α) := cutAfter find 0 t

theorem cutAfter_eq_drop {α : Type} (find : Finder α) (n : Nat) (t : Text) :
    cutAfter find n t = cut find (t.drop n) := by
  induction t generalizing n with
  | nil => cases n <;> simp [cut, cutAfter]
  | cons c r ih =>
    cases n with
    | zero => rfl
    | succ n => simpa [cutAfter] using ih n

/-- Puts a searched text together again, each occurrence by its replacement. -/
def refill {α : Type} (replacement : α → Text) (parts : List (Fragment α)) : Text :=
  parts.flatMap fun
    | .char c => [c]
    | .found a => replacement a

/-- As `refill`, with replacements that may fail or change a state; they are made from left to
right. -/
def refillM {m : Type → Type} [Monad m] {α : Type} (replacement : α → m Text) :
    List (Fragment α) → m Text
  | [] => pure []
  | .char c :: r => do
    let rest ← refillM replacement r
    pure (c :: rest)
  | .found a :: r => do
    let made ← replacement a
    let rest ← refillM replacement r
    pure (made ++ rest)

/-- The finder of one fixed token. -/
def tokenAt (token : Text) : Finder Unit := fun t =>
  if token.isPrefixOf t then some ((), token.length) else none

/-- Every occurrence of `token`, leftmost first and never overlapping, replaced by `value`. -/
def replace (token value : Text) (t : Text) : Text :=
  refill (fun _ => value) (cut (tokenAt token) t)

/-- Whether `token` occurs in the text. -/
def contains (token : Text) : Text → Bool
  | [] => token.isEmpty
  | c :: r => token.isPrefixOf (c :: r) || contains token r

end UploadTemplate.Text
