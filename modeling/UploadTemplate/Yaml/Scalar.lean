import UploadTemplate.Yaml.Cursor

/-!
# YAML scalars

The ways in which a text stands in a YAML document, each read from its beginning.

- `plain`: without any quotes; it ends where it could be taken for something else.
- `quoted`: between single or double quotes, where double ones know escapes.
- `block`: on lines of its own, with their breaks kept or folded.
-/

namespace UploadTemplate.Yaml

/-! ### Plain scalars -/

def isFlowMark (c : Char) : Bool := c = ',' || c = '[' || c = ']' || c = '\x7b' || c = '\x7d'

/-- The word at a place, up to a blank or what ends the scalar; `none` if its colon can be neither
part of it nor an end. -/
def plainWord (inFlow : Bool) : Text → Option Text
  | [] => some []
  | c :: r =>
    if isBlank c || isBreak c then some []
    else if inFlow && c = ':' && r.head?.any (fun d => d = '?' || isFlowMark d) then none
    else if (c = ':' && endsWord r.head?) || (inFlow && isFlowMark c) then some []
    else (plainWord inFlow r).map (c :: ·)

/-- Reads on behind `made` and a gap. `least` is the least column of the lines of the scalar.
Besides the text and the place, tells whether a line break has been passed at the end. -/
def plainFrom (inFlow : Bool) (least : Nat) :
    Nat → Text → Gap → Cursor → Option (Text × Bool × Cursor)
  | 0, _, _, _ => none
  | fuel + 1, made, gap, c =>
    if c.atDocumentMark ∨ c.head? = some '#' then some (made, gap.isBroken, c)
    else do
      let word ← plainWord inFlow c.rest
      if word.isEmpty then some (made, gap.isBroken, c)
      else
        let made := made ++ gap.text ++ word
        let c := c.skip word.length
        let (gap, after) ← Gap.read least c.steps {} c
        if after.index = c.index then some (made, false, c)
        else if inFlow = false ∧ after.column < least then some (made, gap.isBroken, after)
        else plainFrom inFlow least fuel made gap after

def plain (inFlow : Bool) (least : Nat) (c : Cursor) : Option (Text × Bool × Cursor) :=
  plainFrom inFlow least c.steps [] {} c

/-! ### Quoted scalars -/

/-- The characters of one letter behind a backslash. -/
def letterEscapes : List (Char × Char) :=
  [('0', '\x00'), ('a', '\x07'), ('b', '\x08'), ('t', '\t'), ('\t', '\t'), ('n', '\n'),
    ('v', '\x0b'), ('f', '\x0c'), ('r', '\r'), ('e', '\x1b'), (' ', ' '), ('"', '"'), ('/', '/'),
    ('\\', '\\'), ('N', '\u0085'), ('_', '\u00a0'), ('L', '\u2028'), ('P', '\u2029')]

/-- The numbers of digits behind letters that introduce a code point. -/
def codeWidths : List (Char × Nat) := [('x', 2), ('u', 4), ('U', 8)]

/-- The character of an escape from behind the backslash, with the number of characters that the
escape takes. -/
def escaped? : Text → Option (Char × Nat)
  | [] => none
  | c :: r =>
    match letterEscapes.lookup c, codeWidths.lookup c with
    | some d, _ => some (d, 1)
    | none, some width =>
      match (r.take width).mapM Numeral.hexValue with
      | some ds =>
        let code := Numeral.value 16 ds
        if ds.length = width ∧ code.isValidChar then some (Char.ofNat code, width + 1) else none
      | none => none
    | none, none => none

/-- The text and the end of a word between quotes. A backslash at the end of a line joins it to the
next one. -/
def quotedWord (quote : Char) : Nat → Text → Cursor → Option (Text × Gap × Cursor)
  | 0, _, _ => none
  | fuel + 1, made, c =>
    match c.rest with
    | [] => none
    | a :: r =>
      if isBlank a || isBreak a then some (made, {}, c)
      else if a = quote then
        if quote = '\x27' ∧ r.head? = some '\x27' then
          quotedWord quote fuel (made ++ ['\x27']) (c.skip 2)
        else some (made, {}, c)
      else if quote = '"' ∧ a = '\\' then
        if r.head?.any isBreak then some (made, { first := some [] }, c.next.nextLine.2)
        else
          match escaped? r with
          | some (d, width) => quotedWord quote fuel (made ++ [d]) (c.skip (width + 1))
          | none => none
      else quotedWord quote fuel (made ++ [a]) c.next

/-- Reads words up to the closing quote. -/
def quotedFrom (quote : Char) : Nat → Text → Cursor → Option (Text × Cursor)
  | 0, _, _ => none
  | fuel + 1, made, c =>
    if c.atDocumentMark then none
    else do
      let (made, gap, c) ← quotedWord quote c.steps made c
      if c.head? = some quote ∧ gap.isBroken = false then some (made, c.next)
      else
        let (gap, c) ← Gap.read 0 c.steps gap c
        quotedFrom quote fuel (made ++ gap.text) c

/-- The text of a quoted scalar from its opening quote on. -/
def quoted (quote : Char) (c : Cursor) : Option (Text × Cursor) :=
  quotedFrom quote (2 * c.steps) [] c.next

/-! ### Block scalars -/

/-- What becomes of the line breaks at the end. -/
inductive Chomping where
  | strip
  | clip
  | keep
  deriving DecidableEq, Repr

/-- How a block scalar is written. -/
structure BlockStyle where
  folded : Bool
  chomping : Chomping
  /-- The indentation of its lines within the block around them, if it is stated. -/
  indentation : Option Nat

def chomping? : Option Char → Option Chomping
  | some '+' => some .keep
  | some '-' => some .strip
  | _ => none

def digit? (c : Option Char) : Option Nat :=
  (c.filter Text.isAsciiDigit).map fun c => c.toNat - 48

/-- Reads the line that begins a block scalar. -/
def blockStyle (c : Cursor) : Option (BlockStyle × Cursor) := do
  let folded := c.head? = some '>'
  let c := c.next
  let (chomp, digit, c) := match chomping? c.head?, digit? c.head? with
    | some k, _ => (some k, digit? (c.ahead? 1), c.next)
    | none, some d => (chomping? (c.ahead? 1), some d, c.next)
    | none, none => (none, none, c)
  let both := chomp.isSome && digit.isSome
  let c := if both then c.next else c
  if digit = some 0 then none
  let c := c.skipWhile isBlank
  let c := if c.head? = some '#' then c.skipWhile fun a => !isBreak a else c
  if endsLine c.head? then
    some (⟨folded, chomp.getD .clip, digit⟩, c.nextLine.2)
  else none

/-- Passes over blank lines and the indentation of the line after them, of which at most `limit`
columns count if that is known. Gives the breaks and the greatest column met. -/
def blockGap (limit : Option Nat) :
    Nat → Text → Nat → Cursor → Option (Text × Nat × Cursor)
  | 0, _, _, _ => none
  | fuel + 1, breaks, greatest, c =>
    let open_ (column : Nat) : Bool := limit.all fun n => column < n
    let spaces := (c.rest.takeWhile (· = ' ')).length
    let c := c.skip (match limit with
      | none => spaces
      | some n => min spaces (n - c.column))
    let greatest := max greatest c.column
    match c.head? with
    | some a =>
      if a = '\t' ∧ open_ c.column = true then none
      else if isBreak a then
        let (b, c) := c.nextLine
        blockGap limit fuel (breaks ++ b) greatest c
      else some (breaks, greatest, c)
    | none => some (breaks, greatest, c)

/-- Reads lines at a column. `before` is the break of the line before, `breaks` those of the blank
lines after it; `wasBlank` tells whether that line began with a blank. -/
def blockLines (style : BlockStyle) (column : Nat) :
    Nat → Text → Text → Text → Bool → Cursor → Option (Text × Cursor)
  | 0, _, _, _, _, _ => none
  | fuel + 1, made, before, breaks, wasBlank, c =>
    match if c.column = column then c.head? else none with
    | none =>
      let tail := match style.chomping with
        | .strip => []
        | .clip => before
        | .keep => before ++ breaks
      some (made ++ tail, c)
    | some a =>
      let blank := isBlank a
      let joint :=
        if style.folded ∧ before = ['\n'] ∧ wasBlank = false ∧ blank = false then
          if breaks.isEmpty then [' '] else []
        else before
      let (text, c) := c.span fun a => !isBreak a
      let (after, c) := c.nextLine
      match blockGap (some column) c.steps [] 0 c with
      | none => none
      | some (gap, _, c) =>
        blockLines style column fuel (made ++ joint ++ breaks ++ text) after gap blank c

/-- The text of a block scalar from its mark on, in a block that is indented to `indent`. -/
def block (indent : Option Nat) (c : Cursor) : Option (Text × Cursor) := do
  let (style, c) ← blockStyle c
  let least := match indent with
    | none => 1
    | some n => n + 1
  match style.indentation with
  | some n =>
    let column := indent.getD 0 + n
    let (breaks, _, c) ← blockGap (some column) c.steps [] 0 c
    blockLines style column c.steps [] [] breaks false c
  | none =>
    let (breaks, greatest, c) ← blockGap none c.steps [] 0 c
    blockLines style (max greatest least) c.steps [] [] breaks false c

end UploadTemplate.Yaml
