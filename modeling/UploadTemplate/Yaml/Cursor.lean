import UploadTemplate.Text.Numeral

/-!
# Places in a YAML text

What is left of a text, with the line and the column where it begins: in YAML both matter.

- `Cursor.next`, `Cursor.nextLine`: on by one character, or over a line break.
- `Gap`: the blanks and line breaks between two words of a scalar, and what they come to.
-/

namespace UploadTemplate.Yaml

/-- Line breaks; a carriage return and a line feed after it are one. -/
def isBreak (c : Char) : Bool :=
  c = '\n' || c = '\r' || c = '\u0085' || c = '\u2028' || c = '\u2029'

def isBlank (c : Char) : Bool := c = ' ' || c = '\t'

/-- Whether a word ends before what comes next. -/
def endsWord (c : Option Char) : Bool := c.all fun c => isBlank c || isBreak c

/-- Whether a line ends before what comes next. -/
def endsLine (c : Option Char) : Bool := c.all isBreak

structure Cursor where
  rest : Text
  line : Nat
  column : Nat
  /-- How many characters lie before. -/
  index : Nat

namespace Cursor

def ofText (t : Text) : Cursor := ⟨t, 0, 0, 0⟩

/-- The next character. -/
def head? (c : Cursor) : Option Char := c.rest.head?

/-- The character behind the next `n`. -/
def ahead? (c : Cursor) (n : Nat) : Option Char := c.rest[n]?

/-- Enough steps for a loop that takes at least a character each time. -/
def steps (c : Cursor) : Nat := c.rest.length + 1

/-- Passes over characters of the line. -/
def skip (c : Cursor) (n : Nat) : Cursor :=
  { c with rest := c.rest.drop n, column := c.column + n, index := c.index + n }

def next (c : Cursor) : Cursor := c.skip 1

/-- The text up to the first character without a property, and the place behind it. -/
def span (c : Cursor) (p : Char → Bool) : Text × Cursor :=
  let t := c.rest.takeWhile p
  (t, c.skip t.length)

def skipWhile (c : Cursor) (p : Char → Bool) : Cursor := (c.span p).2

/-- Passes over a line break; most of them come to a line feed. -/
def nextLine (c : Cursor) : Text × Cursor :=
  let newLine (r : Text) (n : Nat) : Cursor := ⟨r, c.line + 1, 0, c.index + n⟩
  match c.rest with
  | '\r' :: '\n' :: r => (['\n'], newLine r 2)
  | b :: r => (if b = '\u2028' ∨ b = '\u2029' then [b] else ['\n'], newLine r 1)
  | [] => ([], c)

/-- Whether a line of three hyphens or three dots begins here, with more behind a blank if any. -/
def atDocumentMark (c : Cursor) : Bool :=
  c.column = 0 && ("---".toList.isPrefixOf c.rest || "...".toList.isPrefixOf c.rest) &&
    endsWord (c.ahead? 3)

end Cursor

/-- What lies between two words: blanks, or line breaks with the blanks around them. -/
structure Gap where
  blanks : Text := []
  first : Option Text := none
  /-- The breaks after the first. -/
  more : Text := []

namespace Gap

/-- Whether the next word stands on another line. -/
def isBroken (g : Gap) : Bool := g.first.isSome

/-- The text between the words: a single line break is a blank, of several the first is lost. -/
def text (g : Gap) : Text :=
  match g.first with
  | none => g.blanks
  | some ['\n'] => if g.more.isEmpty then [' '] else g.more
  | some b => b ++ g.more

def addBreak (g : Gap) (b : Text) : Gap :=
  match g.first with
  | none => { g with blanks := [], first := some b }
  | some _ => { g with more := g.more ++ b }

/-- Reads on up to the next word. Tabs may not indent it to a column below `least`. -/
def read (least : Nat) : Nat → Gap → Cursor → Option (Gap × Cursor)
  | 0, g, c => some (g, c)
  | fuel + 1, g, c =>
    match c.head? with
    | none => some (g, c)
    | some b =>
      if isBlank b then
        if g.isBroken then
          if b = '\t' ∧ c.column < least then none else read least fuel g c.next
        else read least fuel { g with blanks := g.blanks ++ [b] } c.next
      else if isBreak b then
        let (b, c) := c.nextLine
        read least fuel (g.addBreak b) c
      else some (g, c)

end Gap

end UploadTemplate.Yaml
