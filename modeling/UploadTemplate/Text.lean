/-!
# Texts

A text is the list of its characters: the view in which the library computes and in which its
theorems speak. String literals stand for texts wherever one is expected.

- `Text.trim`, `Text.split`, `Text.splitOnce`: blanks at the ends, pieces between marks.
- `Text.sameAscii`: equality up to the case of ASCII letters.
-/

namespace UploadTemplate

abbrev Text := List Char

instance : Coe String Text := ⟨String.toList⟩

namespace Text

/-! ### Blanks -/

/-- White space: the twenty-five characters of that Unicode property. -/
def isBlank (c : Char) : Bool :=
  let n := c.toNat
  (9 ≤ n && n ≤ 13) || n = 32 || n = 0x85 || n = 0xA0 || n = 0x1680 ||
    (0x2000 ≤ n && n ≤ 0x200A) || n = 0x2028 || n = 0x2029 || n = 0x202F || n = 0x205F ||
    n = 0x3000

def trimStart (t : Text) : Text := t.dropWhile isBlank

def trimEnd (t : Text) : Text := (t.reverse.dropWhile isBlank).reverse

def trim (t : Text) : Text := trimEnd (trimStart t)

/-- Nothing but blanks. -/
def isBlankText (t : Text) : Bool := t.all isBlank

theorem isBlankText_iff {t : Text} : isBlankText t = true ↔ ∀ c ∈ t, isBlank c = true := by
  simp [isBlankText]

/-! ### Pieces between marks -/

/-- The pieces between the occurrences of `mark`; one piece more than there are marks. -/
def split (mark : Char) : Text → List Text
  | [] => [[]]
  | c :: r =>
    if c = mark then [] :: split mark r
    else
      match split mark r with
      | [] => [[c]]
      | piece :: rest => (c :: piece) :: rest

theorem split_ne_nil (mark : Char) (t : Text) : split mark t ≠ [] := by
  cases t with
  | nil => simp [split]
  | cons c r =>
    simp only [split]
    split
    · simp
    · split <;> simp

/-- The text before the first `mark` and the text after it. -/
def splitOnce (mark : Char) : Text → Option (Text × Text)
  | [] => none
  | c :: r =>
    if c = mark then some ([], r)
    else (splitOnce mark r).map fun p => (c :: p.1, p.2)

theorem splitOnce_eq_some {mark : Char} {t a b : Text} (h : splitOnce mark t = some (a, b)) :
    t = a ++ mark :: b ∧ mark ∉ a := by
  induction t generalizing a with
  | nil => simp [splitOnce] at h
  | cons c r ih =>
    simp only [splitOnce] at h
    split at h
    · simp_all
    · rename_i hc
      obtain ⟨⟨a', b'⟩, h', e⟩ := Option.map_eq_some_iff.1 h
      obtain ⟨rfl, rfl⟩ := Prod.mk.inj e
      obtain ⟨rfl, hn⟩ := ih h'
      refine ⟨rfl, ?_⟩
      simp only [List.mem_cons, not_or]
      exact ⟨fun e => hc e.symm, hn⟩

/-- The lines of a text, each without its line feed and a carriage return before it; a line feed
at the very end opens no further line. -/
def lines (t : Text) : List Text :=
  let pieces := split '\n' t
  let pieces := if pieces.getLast? = some [] then pieces.dropLast else pieces
  pieces.map fun line => if line.getLast? = some '\r' then line.dropLast else line

/-! ### ASCII letters -/

def lowerAscii (c : Char) : Char :=
  if 'A' ≤ c ∧ c ≤ 'Z' then Char.ofNat (c.toNat + 32) else c

/-- Equality up to the case of ASCII letters. -/
def sameAscii (a b : Text) : Bool := a.map lowerAscii == b.map lowerAscii

def isAsciiDigit (c : Char) : Bool := '0' ≤ c && c ≤ '9'

def isAsciiLetter (c : Char) : Bool := ('a' ≤ c && c ≤ 'z') || ('A' ≤ c && c ≤ 'Z')

def isAsciiAlphanumeric (c : Char) : Bool := isAsciiLetter c || isAsciiDigit c

def isAscii (c : Char) : Bool := c.toNat < 128

/-- Control characters: U+0000 to U+001F and U+007F to U+009F. -/
def isControl (c : Char) : Bool :=
  c.toNat < 32 || (127 ≤ c.toNat && c.toNat < 160)

end Text

end UploadTemplate
