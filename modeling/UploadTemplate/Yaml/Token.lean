import UploadTemplate.Yaml.Scalar

/-!
# YAML tokens

The text of a document as tokens. Where lines are indented more or less than those before, tokens
stand for the beginning and the end of a block. That something is a key shows only at the colon
behind it, so everything that may turn out to be one leaves room for the tokens that say so.

- `Token.ofText?`: the tokens of a text, or `none` if it has none.
-/

namespace UploadTemplate.Yaml

inductive Token where
  | directive
  | documentStart
  | documentEnd
  | blockSequence
  | blockMapping
  | blockEnd
  | flowSequence
  | flowSequenceEnd
  | flowMapping
  | flowMappingEnd
  | comma
  /-- A hyphen before an item. -/
  | item
  | key
  | value
  | alias (name : Text)
  | anchor (name : Text)
  | tag (name : Text)
  | scalar (text : Text) (plain : Bool)
  deriving DecidableEq, Repr

/-- Something that is a key if a colon follows. -/
structure Candidate where
  /-- Nothing else can stand there. -/
  required : Bool
  /-- Where there is room for the tokens before it. -/
  room : Nat
  start : Cursor

structure Scan where
  cursor : Cursor
  /-- The tokens so far, in groups: what was given room, and single tokens. -/
  groups : Array (List Token)
  /-- The columns of the blocks that are open, the innermost first. -/
  blocks : List Nat
  /-- The candidates on each level of brackets, the innermost first. -/
  candidates : List (Option Candidate)
  /-- A key may begin here. -/
  keyAllowed : Bool

namespace Scan

def start (t : Text) : Scan := ⟨.ofText t, #[], [], [none], true⟩

def inFlow (s : Scan) : Bool := 1 < s.candidates.length

def emit (s : Scan) (t : Token) : Scan := { s with groups := s.groups.push [t] }

def allowKey (s : Scan) (b : Bool) : Scan := { s with keyAllowed := b }

def skip (s : Scan) (n : Nat) : Scan := { s with cursor := s.cursor.skip n }

/-! ### Blocks -/

/-- Ends the blocks that are indented to a greater column; without a column, all. -/
def closeBlocks (s : Scan) (column : Option Nat) : Scan :=
  if s.inFlow then s
  else
    let closed := (s.blocks.takeWhile fun n => column.all (· < n)).length
    { s with
      blocks := s.blocks.drop closed
      groups := s.groups ++ Array.replicate closed [Token.blockEnd] }

/-- Whether a block begins with a column. -/
def beginsBlock (s : Scan) (column : Nat) : Bool := !s.inFlow && s.blocks.head?.all (· < column)

/-- Begins a block at the current column unless it has begun. -/
def openBlock (s : Scan) (t : Token) : Scan :=
  let column := s.cursor.column
  if s.beginsBlock column then { s.emit t with blocks := column :: s.blocks } else s

/-! ### Candidates for keys -/

/-- Gives up the candidate on the current level. -/
def dropCandidate (s : Scan) : Option Scan :=
  match s.candidates with
  | some k :: r => if k.required then none else some { s with candidates := none :: r }
  | _ => some s

/-- Takes what follows as a candidate if a key may begin. -/
def addCandidate (s : Scan) : Option Scan :=
  if s.keyAllowed then do
    let s ← s.dropCandidate
    let required := !s.inFlow && s.blocks.head? = some s.cursor.column
    pure {
      s with
      groups := s.groups.push []
      candidates := some ⟨required, s.groups.size, s.cursor⟩ :: s.candidates.tail }
  else some s

/-- Gives up the candidates on other lines and those that are too long. -/
def dropOld (s : Scan) : Option Scan := do
  let candidates ← s.candidates.mapM fun
    | none => some none
    | some k =>
      if k.start.line < s.cursor.line ∨ k.start.index + 1024 < s.cursor.index then
        if k.required then none else some none
      else some (some k)
  pure { s with candidates := candidates }

/-! ### Blanks and comments -/

/-- Passes over everything up to the next token. -/
def skipBlanks : Nat → Scan → Scan
  | 0, s => s
  | fuel + 1, s =>
    let c := s.cursor.skipWhile fun a => a = ' ' || (a = '\t' && (s.inFlow || !s.keyAllowed))
    let c := if c.head? = some '#' then c.skipWhile fun a => !isBreak a else c
    if c.head?.any isBreak then
      skipBlanks fuel { s with cursor := c.nextLine.2, keyAllowed := s.keyAllowed || !s.inFlow }
    else { s with cursor := c }

/-! ### Tokens -/

/-- A directive: the version of the language, or an abbreviation of tags. -/
def directive (s : Scan) : Option Scan := do
  let s ← (s.closeBlocks none).dropCandidate
  let (line, c) := s.cursor.next.span fun a => !isBreak a
  let words := (Text.split ' ' ((line.takeWhile (· != '#')).map fun a =>
    if a = '\t' then ' ' else a)).filter fun w => !w.isEmpty
  let known := match words with
    | [name, version] =>
      name = "YAML".toList && (version = "1.1".toList || version = "1.2".toList)
    | [name, _, _] => name = "TAG".toList
    | _ => false
  if known then pure (({ s with cursor := c }.allowKey false).emit .directive) else none

/-- Three hyphens or dots between documents. -/
def documentMark (s : Scan) (t : Token) : Option Scan := do
  let s ← (s.closeBlocks none).dropCandidate
  pure (((s.allowKey false).skip 3).emit t)

def openFlow (s : Scan) (t : Token) : Option Scan := do
  let s ← s.addCandidate
  let s := { s with candidates := none :: s.candidates }
  pure (((s.allowKey true).skip 1).emit t)

def closeFlow (s : Scan) (t : Token) : Option Scan := do
  let s ← s.dropCandidate
  let s := if s.inFlow then { s with candidates := s.candidates.tail } else s
  pure (((s.allowKey false).skip 1).emit t)

def comma (s : Scan) : Option Scan := do
  let s ← s.dropCandidate
  pure (((s.allowKey true).skip 1).emit .comma)

def item (s : Scan) : Option Scan :=
  if s.inFlow = false ∧ s.keyAllowed = false then none
  else do
    let s ← (s.openBlock .blockSequence).dropCandidate
    pure (((s.allowKey true).skip 1).emit .item)

/-- A question mark before a key. -/
def key (s : Scan) : Option Scan :=
  if s.inFlow = false ∧ s.keyAllowed = false then none
  else do
    let s ← (s.openBlock .blockMapping).dropCandidate
    pure (((s.allowKey !s.inFlow).skip 1).emit .key)

/-- A colon. The candidate before it, if there is one, is a key. -/
def value (s : Scan) : Option Scan :=
  match s.candidates with
  | some k :: r =>
    let s := { s with candidates := none :: r }
    let column := k.start.column
    let s :=
      if s.beginsBlock column then
        { s with
          groups := s.groups.setIfInBounds k.room [.blockMapping, .key]
          blocks := column :: s.blocks }
      else { s with groups := s.groups.setIfInBounds k.room [.key] }
    some (((s.allowKey false).skip 1).emit .value)
  | _ =>
    if s.inFlow = false ∧ s.keyAllowed = false then none
    else
      let s := s.openBlock .blockMapping
      some (((s.allowKey !s.inFlow).skip 1).emit .value)

/-- A name behind an ampersand or an asterisk. -/
def name (s : Scan) (make : Text → Token) : Option Scan := do
  let s ← s.addCandidate
  let (name, c) := s.cursor.next.span fun a => Text.isAsciiAlphanumeric a || a = '_' || a = '-'
  if !name.isEmpty && (endsWord c.head? || c.head?.any fun a => "?:,]\x7d%@\x60".toList.contains a)
  then pure (({ s with cursor := c }.allowKey false).emit (make name))
  else none

/-- A character of the name of a tag. -/
def isTagChar (a : Char) : Bool :=
  Text.isAsciiAlphanumeric a || ";/?:@&=+$.%!~*\x27()_-".toList.contains a

/-- Whether a text is a tag: an address in angle brackets, or a name behind an exclamation mark or
behind two. -/
def isTag : Text → Bool
  | '!' :: '<' :: r => r.length > 1 && r.getLast? = some '>'
  | '!' :: '!' :: r => !r.isEmpty && !r.contains '!'
  | '!' :: r => !r.contains '!'
  | _ => false

/-- A tag. -/
def tag (s : Scan) : Option Scan := do
  let s ← s.addCandidate
  let verbatim := s.cursor.ahead? 1 = some '<'
  let (name, c) := s.cursor.span fun a =>
    if verbatim then isTagChar a || "<>,[]".toList.contains a else isTagChar a
  if isTag name && (endsWord c.head? || (s.inFlow && c.head? = some ',')) then
    pure (({ s with cursor := c }.allowKey false).emit (.tag name))
  else none

def scalar (s : Scan) (text : Text) (plain : Bool) (c : Cursor) (keyAllowed : Bool) : Scan :=
  ({ s with cursor := c }.allowKey keyAllowed).emit (.scalar text plain)

def quotedScalar (s : Scan) (quote : Char) : Option Scan := do
  let s ← s.addCandidate
  let (text, c) ← quoted quote s.cursor
  pure (s.scalar text false c false)

def blockScalar (s : Scan) : Option Scan := do
  let s ← s.dropCandidate
  let (text, c) ← block s.blocks.head? s.cursor
  pure (s.scalar text false c true)

def plainScalar (s : Scan) : Option Scan := do
  let s ← s.addCandidate
  let least := match s.blocks.head? with
    | none => 0
    | some n => n + 1
  let (text, broken, c) ← plain s.inFlow least s.cursor
  pure (s.scalar text true c broken)

/-- Whether a plain scalar may begin with a character that is followed by another. -/
def beginsPlain (s : Scan) (a : Char) (after : Option Char) : Bool :=
  !isBlank a &&
    (!"-?:,[]\x7b\x7d#&*!|>\x27\"%@\x60".toList.contains a ||
      (a = '-' && !after.any isBlank) ||
      (!s.inFlow && (a = '?' || a = ':') && !endsWord after))

/-- The next token behind the blanks; `none` if no token can stand there. -/
def token (s : Scan) (a : Char) : Option Scan :=
  let c := s.cursor
  let after := c.ahead? 1
  let spaced := endsWord after
  if c.column = 0 ∧ a = '%' then s.directive
  else if c.atDocumentMark then s.documentMark (if a = '-' then .documentStart else .documentEnd)
  else if a = '[' then s.openFlow .flowSequence
  else if a = '\x7b' then s.openFlow .flowMapping
  else if a = ']' then s.closeFlow .flowSequenceEnd
  else if a = '\x7d' then s.closeFlow .flowMappingEnd
  else if a = ',' then s.comma
  else if a = '-' ∧ spaced then s.item
  else if a = '?' ∧ (s.inFlow ∨ spaced) then s.key
  else if a = ':' ∧ (s.inFlow ∨ spaced) then s.value
  else if a = '*' then s.name .alias
  else if a = '&' then s.name .anchor
  else if a = '!' then s.tag
  else if (a = '|' ∨ a = '>') ∧ s.inFlow = false then s.blockScalar
  else if a = '\x27' ∨ a = '"' then s.quotedScalar a
  else if s.beginsPlain a after then s.plainScalar
  else none

/-- All tokens of the rest. -/
def run : Nat → Scan → Option (List Token)
  | 0, _ => none
  | fuel + 1, s => do
    let s ← (s.skipBlanks s.cursor.steps).dropOld
    let s := s.closeBlocks (some s.cursor.column)
    match s.cursor.head? with
    | none =>
      let s ← (s.closeBlocks none).dropCandidate
      pure s.groups.toList.flatten
    | some a => run fuel (← s.token a)

end Scan

/-- The characters that a document may hold. -/
def isAllowed (c : Char) : Bool :=
  let n := c.toNat
  n = 9 || n = 10 || n = 13 || (0x20 ≤ n && n ≤ 0x7E) || n = 0x85 || (0xA0 ≤ n && n ≤ 0xD7FF) ||
    (0xE000 ≤ n && n ≤ 0xFFFD && n != 0xFEFF) || 0x10000 ≤ n

/-- The tokens of a document, which may begin with a byte order mark. -/
def Token.ofText? (t : Text) : Option (List Token) :=
  let t := if t.head? = some '\uFEFF' then t.tail else t
  if t.all isAllowed then Scan.run (t.length + 1) (.start t) else none

end UploadTemplate.Yaml
