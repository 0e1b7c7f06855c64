import UploadTemplate.Regex.Tree
import UploadTemplate.Unicode.Category
import UploadTemplate.Unicode.Word

/-!
# Reading patterns

The grammar of patterns, read from left to right. Open groups and open classes stand on stacks;
every step of a loop takes at least one character, so the length of the pattern bounds the loops.
-/

namespace UploadTemplate.Regex

/-- The rest of a pattern and what the part before it has settled. -/
structure Cursor where
  rest : Text
  place : Place
  /-- Blanks and comments do not count. -/
  verbose : Bool
  /-- The number of capturing groups so far. -/
  groups : Nat
  /-- The names of groups with their numbers and places. -/
  names : List (Text × Nat × Span)

abbrev Parse := StateT Cursor (Except Fault)

namespace Parse

def fail {α : Type} (cause : Cause) (first last : Place) : Parse α :=
  throw ⟨cause, ⟨first, last⟩, none⟩

def place : Parse Place := do return (← get).place

def peek : Parse (Option Char) := do return (← get).rest.head?

/-- The place after the current character. -/
def placeAfter : Parse Place := do
  let s ← get
  return match s.rest with
    | [] => s.place
    | c :: _ => s.place.after c

def failHere {α : Type} (cause : Cause) : Parse α := do
  let p ← place
  fail cause p p

def failAtChar {α : Type} (cause : Cause) : Parse α := do
  fail cause (← place) (← placeAfter)

/-- Passes the current character. -/
def bump : Parse Unit := modify fun s =>
  match s.rest with
  | [] => s
  | c :: r => { s with rest := r, place := s.place.after c }

def atEnd : Parse Bool := do return (← get).rest.isEmpty

/-- The rest after blanks and comments. -/
def skipBlanks : Nat → Bool → Text → Place → Text × Place
  | 0, _, r, p => (r, p)
  | _, _, [], p => ([], p)
  | fuel + 1, comment, c :: r, p =>
    if comment then skipBlanks fuel (c != '\n') r (p.after c)
    else if Text.isBlank c then skipBlanks fuel false r (p.after c)
    else if c = '#' then skipBlanks fuel true r (p.after c)
    else (c :: r, p)

def bumpSpace : Parse Unit := modify fun s =>
  if s.verbose then
    let (rest, place) := skipBlanks s.rest.length false s.rest s.place
    { s with rest, place }
  else s

/-- Passes the current character and blanks after it; false at the end of the pattern. -/
def bumpAndBumpSpace : Parse Bool := do
  bump
  bumpSpace
  return !(← atEnd)

/-- Passes a fixed text if it stands here. -/
def bumpIf (t : Text) : Parse Bool := do
  let s ← get
  if t.isPrefixOf s.rest then
    t.forM fun _ => bump
    return true
  else return false

/-- The character after the current one. -/
def peekSecond : Parse (Option Char) := do return (← get).rest[1]?

/-- The character after the current one and after blanks. -/
def peekSpace : Parse (Option Char) := do
  let s ← get
  match s.rest with
  | [] => return none
  | _ :: r =>
    if s.verbose then return (skipBlanks r.length false r s.place).1.head?
    else return r.head?

def isMeta (c : Char) : Bool := "\\.+*?()|[]\x7b\x7d^$#&-~".toList.contains c

/-- Punctuation that a backslash makes literal. -/
def isEscapeable (c : Char) : Bool :=
  isMeta c || (Text.isAscii c && !Text.isAsciiAlphanumeric c && c != '<' && c != '>')

/-! ### Escapes -/

def hexDigits (count : Nat) (start : Place) : Nat → Nat → Parse Char
  | 0, n => do
    let _ ← bumpAndBumpSpace
    let last ← place
    if h : n.isValidChar then return Char.ofNatAux n h
    else fail .escapeHexInvalid start last
  | left + 1, n => do
    if left + 1 < count then
      if !(← bumpAndBumpSpace) then failHere .escapeUnexpectedEof
    match (← peek).bind Numeral.hexValue with
    | none => failAtChar .escapeHexInvalidDigit
    | some d => hexDigits count start left (16 * n + d)

/-- The digits of a hexadecimal escape in braces; large values stay beyond every character. -/
def hexBrace (brace start : Place) : Nat → Nat → Nat → Parse Char
  | 0, _, _ => failHere .escapeUnexpectedEof
  | fuel + 1, n, seen => do
    let more ← bumpAndBumpSpace
    match ← peek with
    | none => fail .escapeUnexpectedEof brace (← place)
    | some '\x7d' =>
      let last ← place
      let _ ← bumpAndBumpSpace
      if seen = 0 then fail .escapeHexEmpty brace (← place)
      else if h : n.isValidChar then return Char.ofNatAux n h
      else fail .escapeHexInvalid start last
    | some c =>
      match if more then Numeral.hexValue c else none with
      | none => failAtChar .escapeHexInvalidDigit
      | some d => hexBrace brace start fuel (min (16 * n + d) 0x1000000) (seen + 1)

def hex (first : Place) (kind : Char) : Parse Literal := do
  if !(← bumpAndBumpSpace) then failHere .escapeUnexpectedEof
  let start ← place
  if (← peek) = some '\x7b' then
    let inner ← placeAfter
    let c ← hexBrace start inner ((← get).rest.length + 1) 0 0
    return ⟨c, false, ⟨first, ← place⟩⟩
  else
    let count := if kind = 'x' then 2 else if kind = 'u' then 4 else 8
    let c ← hexDigits count start count 0
    return ⟨c, kind = 'x', ⟨first, ← place⟩⟩

/-- The text up to a closing brace. -/
def propertyText : Nat → Text → Parse Text
  | 0, _ => failHere .escapeUnexpectedEof
  | fuel + 1, acc => do
    let _ ← bumpAndBumpSpace
    match ← peek with
    | none => failHere .escapeUnexpectedEof
    | some '\x7d' => do
      bump
      return acc.reverse
    | some c => propertyText fuel (c :: acc)

/-- Cuts a text at the first `mark`. -/
def cutAt (mark : Text) (t : Text) : Option (Text × Text) :=
  match t with
  | [] => none
  | c :: r =>
    if mark.isPrefixOf (c :: r) then some ([], (c :: r).drop mark.length)
    else (cutAt mark r).map fun (a, b) => (c :: a, b)

def propertyOf (t : Text) : Property :=
  match cutAt "!=" t with
  | some (n, v) => .valued true n v
  | none =>
    match cutAt ":" t with
    | some (n, v) => .valued false n v
    | none =>
      match cutAt "=" t with
      | some (n, v) => .valued false n v
      | none => .named t

def property : Parse Property := do
  if !(← bumpAndBumpSpace) then failHere .escapeUnexpectedEof
  match ← peek with
  | some '\x7b' => do
    let t ← propertyText ((← get).rest.length + 1) []
    return propertyOf t
  | some '\\' => failAtChar .unicodeClassInvalid
  | some c => do
    let _ ← bumpAndBumpSpace
    return .named [c]
  | none => failHere .escapeUnexpectedEof

/-- The letters of a special boundary. -/
def boundaryName : Nat → Text → Parse Text
  | 0, acc => return acc.reverse
  | fuel + 1, acc => do
    match ← peek with
    | some c =>
      if Text.isAsciiLetter c || c = '-' then
        let _ ← bumpAndBumpSpace
        boundaryName fuel (c :: acc)
      else return acc.reverse
    | none => return acc.reverse

/-- A special boundary after `\b`, or nothing if the brace begins a repetition. -/
def specialBoundary (first : Place) : Parse (Option Look) := do
  let saved ← get
  let start ← place
  if !(← bumpAndBumpSpace) then
    fail .specialWordOrRepetitionUnexpectedEof first (← place)
  let inner ← place
  match ← peek with
  | none => return none
  | some c =>
    if !(Text.isAsciiLetter c || c = '-') then
      set saved
      return none
    let name ← boundaryName (saved.rest.length) []
    if (← peek) ≠ some '\x7d' then fail .specialWordBoundaryUnclosed start (← place)
    let last ← place
    bump
    match String.ofList name with
    | "start" => return some .wordStart
    | "end" => return some .wordEnd
    | "start-half" => return some .wordStartHalf
    | "end-half" => return some .wordEndHalf
    | _ => fail .specialWordBoundaryUnrecognized inner last

/-- A primitive of a pattern: what an escape or a single character stands for. -/
inductive Primitive where
  | literal (l : Literal)
  | assertion (a : Assertion) (span : Span)
  | dot (span : Span)
  | perl (kind : PerlClass) (negated : Bool) (span : Span)
  | property (p : Property) (negated : Bool) (span : Span)

def Primitive.span : Primitive → Span
  | .literal l => l.span
  | .assertion _ s | .dot s | .perl _ _ s | .property _ _ s => s

def escape : Parse Primitive := do
  let first ← place
  bump
  match ← peek with
  | none => fail .escapeUnexpectedEof first (← place)
  | some c =>
    if Text.isAsciiDigit c then fail .unsupportedBackreference first (← placeAfter)
    else if c = 'x' ∨ c = 'u' ∨ c = 'U' then return .literal (← hex first c)
    else if c = 'p' ∨ c = 'P' then
      let p ← property
      return .property p (c = 'P') ⟨first, ← place⟩
    else
      bump
      let span : Span := ⟨first, ← place⟩
      let literal (c : Char) : Parse Primitive := return .literal ⟨c, false, span⟩
      let look (l : Look) : Parse Primitive := return .assertion (.look l) span
      if isEscapeable c then literal c
      else
        match c with
        | 'd' => return .perl .digit false span
        | 'D' => return .perl .digit true span
        | 's' => return .perl .space false span
        | 'S' => return .perl .space true span
        | 'w' => return .perl .word false span
        | 'W' => return .perl .word true span
        | 'a' => literal '\x07'
        | 'f' => literal '\x0c'
        | 't' => literal '\t'
        | 'n' => literal '\n'
        | 'r' => literal '\r'
        | 'v' => literal '\x0b'
        | 'A' => look .startText
        | 'z' => look .endText
        | 'b' => do
          if (← peek) = some '\x7b' then
            match ← specialBoundary first with
            | some l => return .assertion (.look l) ⟨first, ← place⟩
            | none => look .wordBoundary
          else look .wordBoundary
        | 'B' => look .notWordBoundary
        | '<' => look .wordStart
        | '>' => look .wordEnd
        | _ => fail .escapeUnrecognized first span.last

def primitive : Parse Primitive := do
  let first ← place
  match ← peek with
  | some '\\' => escape
  | some c => do
    bump
    let span : Span := ⟨first, ← place⟩
    return match c with
      | '.' => .dot span
      | '^' => .assertion .caret span
      | '$' => .assertion .dollar span
      | _ => .literal ⟨c, false, span⟩
  | none => failHere .escapeUnexpectedEof

/-! ### Classes -/

/-- An open class, or an operation that waits for its right side. -/
inductive ClassLevel where
  | opened (outer : List ClassTree) (negated : Bool) (span : Span)
  | operation (op : SetOperation) (left : ClassTree)

def unclosedClass {α : Type} (stack : List ClassLevel) : Parse α := do
  let span := stack.findSome? fun
    | .opened _ _ span => some span
    | .operation .. => none
  match span with
  | some s => fail .classUnclosed s.first s.last
  | none => failHere .classUnclosed

/-- Applies the operation that waits on top of the stack. -/
def closeOperation (item : ClassTree) : List ClassLevel → ClassTree × List ClassLevel
  | .operation op left :: stack => (.binary op left item, stack)
  | stack => (item, stack)

def dashes : Nat → Place → List ClassTree → Parse (List ClassTree)
  | 0, _, items => return items
  | fuel + 1, start, items => do
    if (← peek) = some '-' then
      let span : Span := ⟨← place, ← placeAfter⟩
      if !(← bumpAndBumpSpace) then fail .classUnclosed start start
      dashes fuel start (.literal ⟨'-', false, span⟩ :: items)
    else return items

/-- The beginning of a class: whether it is negated, its place, and its first items. -/
def openClass : Parse (Bool × Span × List ClassTree) := do
  let start ← place
  if !(← bumpAndBumpSpace) then fail .classUnclosed start (← place)
  let negated := (← peek) = some '^'
  if negated then
    if !(← bumpAndBumpSpace) then fail .classUnclosed start (← place)
  let items ← dashes (← get).rest.length start []
  if items.isEmpty && (← peek) = some ']' then
    let span : Span := ⟨← place, ← placeAfter⟩
    if !(← bumpAndBumpSpace) then fail .classUnclosed start (← place)
    return (negated, ⟨start, ← place⟩, [.literal ⟨']', false, span⟩])
  else return (negated, ⟨start, ← place⟩, items)

/-- A named class such as `[:alpha:]`, if one stands here. -/
def asciiClass : Parse (Option ClassTree) := do
  let s ← get
  match s.rest with
  | '[' :: ':' :: r =>
    let (negated, r) := match r with
      | '^' :: r => (true, r)
      | _ => (false, r)
    let name := r.takeWhile (· != ':')
    match r.drop name.length, AsciiClass.ofName name with
    | ':' :: ']' :: _, some kind =>
      let width := name.length + (if negated then 5 else 4)
      (s.rest.take width).forM fun _ => bump
      return some (.ascii kind negated)
    | _, _ => return none
  | _ => return none

def classItem : Parse Primitive := do
  match ← peek with
  | some '\\' => escape
  | some c => do
    let first ← place
    bump
    return .literal ⟨c, false, ⟨first, ← place⟩⟩
  | none => failHere .classUnclosed

def asItem (p : Primitive) : Parse ClassTree :=
  match p with
  | .literal l => return .literal l
  | .perl k n s => return .perl k n s
  | .property q n s => return .property q n s
  | .assertion _ s | .dot s => fail .classEscapeInvalid s.first s.last

def asBound (p : Primitive) : Parse Literal :=
  match p with
  | .literal l => return l
  | p => fail .classRangeLiteral p.span.first p.span.last

/-- One item of a class, which may be a range. -/
def classRange (stack : List ClassLevel) : Parse ClassTree := do
  let first ← classItem
  bumpSpace
  match ← peek with
  | none => unclosedClass stack
  | some c =>
    let second ← peekSpace
    if c ≠ '-' ∨ second = some ']' ∨ second = some '-' then asItem first
    else
      if !(← bumpAndBumpSpace) then unclosedClass stack
      let last ← classItem
      let a ← asBound first
      let b ← asBound last
      if b.char < a.char then fail .classRangeInvalid a.span.first b.span.last
      else return .range a b

/-- Reads a class; `items` are those of the innermost class so far, newest first. -/
def classLoop : Nat → List ClassLevel → List ClassTree → Parse ClassTree
  | 0, stack, _ => unclosedClass stack
  | fuel + 1, stack, items => do
    bumpSpace
    let operation (op : SetOperation) : Parse ClassTree := do
      bump
      bump
      let (left, stack) := closeOperation (.union items.reverse) stack
      classLoop fuel (.operation op left :: stack) []
    match ← peek, ← peekSecond with
    | none, _ => unclosedClass stack
    | some '[', _ => do
      let named ← if stack.isEmpty then pure none else asciiClass
      match named with
      | some c => classLoop fuel stack (c :: items)
      | none => do
        let (negated, span, first) ← openClass
        classLoop fuel (.opened items negated span :: stack) first
    | some ']', _ => do
      let (body, stack) := closeOperation (.union items.reverse) stack
      match stack with
      | .opened outer negated span :: stack => do
        bump
        let whole : ClassTree := .bracket negated body ⟨span.first, ← place⟩
        if stack.isEmpty then return whole
        else classLoop fuel stack (whole :: outer)
      | _ => unclosedClass stack
    | some '&', some '&' => operation .intersection
    | some '-', some '-' => operation .difference
    | some '~', some '~' => operation .symmetricDifference
    | _, _ => do
      let item ← classRange stack
      classLoop fuel stack (item :: items)

/-! ### Groups -/

/-- What is open around the current sequence. -/
inductive GroupLevel where
  /-- A group, with the sequence before it. -/
  | group (before : List Tree) (kind : GroupKind) (span : Span) (verbose : Bool)
  /-- The branches of an alternation so far, newest first. -/
  | alternation (branches : List Tree)

def sequence (parts : List Tree) : Tree :=
  match parts with
  | [] => .empty
  | [t] => t
  | _ => .concat parts.reverse

def flag : Parse Flag := do
  match ← peek with
  | some 'i' => return .caseInsensitive
  | some 'm' => return .multiLine
  | some 's' => return .dotMatchesNewLine
  | some 'U' => return .swapGreed
  | some 'u' => return .unicode
  | some 'R' => return .crlf
  | some 'x' => return .ignoreWhitespace
  | _ => failAtChar .flagUnrecognized

/-- The flags up to a colon or a closing parenthesis, with their places, newest first. -/
def flagLoop : Nat → List (FlagItem × Span) → Parse (List (FlagItem × Span))
  | 0, items => return items
  | fuel + 1, items => do
    match ← peek with
    | some ':' | some ')' | none =>
      match items with
      | (none, s) :: _ => fail .flagDanglingNegation s.first s.last
      | _ => return items
    | some c =>
      let span : Span := ⟨← place, ← placeAfter⟩
      let item : FlagItem ← if c = '-' then pure none else some <$> flag
      match items.find? fun i => i.1 = item with
      | some (_, s) =>
        throw ⟨if item.isNone then .flagRepeatedNegation else .flagDuplicate, span, some s⟩
      | none =>
        bump
        if ← atEnd then failHere .flagUnexpectedEof
        flagLoop fuel ((item, span) :: items)

def isNameChar (first : Bool) (c : Char) : Bool :=
  if first then c = '_' || Unicode.alphabetic.contains c
  else
    c = '_' || c = '.' || c = '[' || c = ']' || Unicode.alphabetic.contains c ||
      (Unicode.ofCategories ["Nd", "Nl", "No"]).contains c

def groupNameLoop : Nat → Text → Parse Text
  | 0, acc => return acc.reverse
  | fuel + 1, acc => do
    match ← peek with
    | none => failHere .groupNameUnexpectedEof
    | some '>' => return acc.reverse
    | some c =>
      if !isNameChar acc.isEmpty c then failAtChar .groupNameInvalid
      bump
      groupNameLoop fuel (c :: acc)

/-- The name of the group with number `index`. -/
def groupName (index : Nat) : Parse Unit := do
  let start ← place
  let name ← groupNameLoop ((← get).rest.length + 1) []
  let last ← place
  bump
  if name.isEmpty then fail .groupNameEmpty start start
  match (← get).names.find? fun n => n.1 = name with
  | some (_, _, s) => throw ⟨.groupNameDuplicate, ⟨start, last⟩, some s⟩
  | none => modify fun s => { s with names := (name, index, ⟨start, last⟩) :: s.names }

def nextIndex : Parse Nat := do
  modify fun s => { s with groups := s.groups + 1 }
  return (← get).groups

/-- What an opening parenthesis begins: flags for the rest, or a group. -/
def groupOpening : Parse (Sum (List FlagItem) (GroupKind × Span)) := do
  let first ← place
  let last ← placeAfter
  let span : Span := ⟨first, last⟩
  bump
  bumpSpace
  if (← bumpIf "?=") || (← bumpIf "?!") || (← bumpIf "?<=") || (← bumpIf "?<!") then
    fail .unsupportedLookAround first (← place)
  let inner ← place
  if (← bumpIf "?P<") || (← bumpIf "?<") then
    let index ← nextIndex
    groupName index
    return .inr (.capture index, span)
  else if ← bumpIf "?" then
    if ← atEnd then fail .groupUnclosed first last
    let items := (← flagLoop ((← get).rest.length + 1) []).reverse.map (·.1)
    let close ← peek
    bump
    if close = some ')' then
      if items.isEmpty then fail .repetitionMissing inner inner
      return .inl items
    else return .inr (.flags items, span)
  else
    let index ← nextIndex
    return .inr (.capture index, span)

/-- What a flag list says about one flag. -/
def flagState (f : Flag) : List FlagItem → Bool → Option Bool
  | [], _ => none
  | none :: r, _ => flagState f r false
  | some g :: r, enable => if g = f then some enable else flagState f r enable

/-! ### Repetitions -/

/-- The operand of a repetition, which is the last part of a sequence. -/
def operand (parts : List Tree) : Parse (Tree × List Tree) :=
  match parts with
  | [] => failHere .repetitionMissing
  | .empty :: _ | .flags _ :: _ => failHere .repetitionMissing
  | t :: r => return (t, r)

def skipWhitespace (spaced : Bool) : Nat → Parse Unit
  | 0 => return ()
  | fuel + 1 => do
    match ← peek with
    | some c =>
      if Text.isBlank c then
        bump
        if spaced then bumpSpace
        skipWhitespace spaced fuel
    | none => return ()

def digitLoop : Nat → Text → Parse Text
  | 0, acc => return acc.reverse
  | fuel + 1, acc => do
    match ← peek with
    | some c =>
      if Text.isAsciiDigit c then
        let _ ← bumpAndBumpSpace
        digitLoop fuel (c :: acc)
      else return acc.reverse
    | none => return acc.reverse

/-- A decimal number of thirty-two bits; `none` with its place if there are no digits. -/
def decimal : Parse (Sum Span Nat) := do
  let fuel := (← get).rest.length
  skipWhitespace false fuel
  let start ← place
  let ds ← digitLoop fuel []
  let span : Span := ⟨start, ← place⟩
  skipWhitespace true fuel
  if ds.isEmpty then return .inl span
  else
    match Numeral.read (Nat.pow 2 32 - 1) ds with
    | some n => return .inr n
    | none => fail .decimalInvalid span.first span.last

def demand (n : Sum Span Nat) : Parse Nat :=
  match n with
  | .inr n => return n
  | .inl s => fail .repetitionCountDecimalEmpty s.first s.last

/-- The number of a count whose faults are reported only when it is needed. -/
def lazyDecimal : Parse (Except Fault (Sum Span Nat)) := do
  let s ← get
  match decimal.run s with
  | .ok (n, s) =>
    set s
    return .ok n
  | .error e =>
    -- the digits have been read all the same
    let fuel := s.rest.length
    skipWhitespace false fuel
    let _ ← digitLoop fuel []
    skipWhitespace true fuel
    return .error e

def countedRepetition (parts : List Tree) : Parse (List Tree) := do
  let start ← place
  let (t, before) ← operand parts
  let unclosed {α : Type} : Parse α := do fail .repetitionCountUnclosed start (← place)
  if !(← bumpAndBumpSpace) then unclosed
  let least ← lazyDecimal
  let least : Parse Nat := do
    match least with
    | .ok n => demand n
    | .error e => throw e
  if ← atEnd then unclosed
  let (low, high) ← do
    if (← peek) = some ',' then
      if !(← bumpAndBumpSpace) then unclosed
      if (← peek) ≠ some '\x7d' then
        let low ← least
        let high ← demand (← decimal)
        pure (low, some high)
      else pure (← least, none)
    else
      let n ← least
      pure (n, some n)
  if (← peek) ≠ some '\x7d' then unclosed
  let mut greedy := true
  if (← bumpAndBumpSpace) && (← peek) = some '?' then
    greedy := false
    bump
  match high with
  | some h => if h < low then fail .repetitionCountInvalid start (← place)
  | none => pure ()
  return .repetition low high greedy t :: before

def simpleRepetition (least : Nat) (most : Option Nat) (parts : List Tree) :
    Parse (List Tree) := do
  let (t, before) ← operand parts
  bump
  let mut greedy := true
  if (← peek) = some '?' then
    greedy := false
    bump
  return .repetition least most greedy t :: before

/-! ### Patterns -/

/-- The whole of the branches of the alternation on top of the stack, if there is one. -/
def closeBranches (parts : List Tree) : List GroupLevel → Tree × List GroupLevel
  | .alternation branches :: stack => (.alternation (sequence parts :: branches).reverse, stack)
  | stack => (sequence parts, stack)

/-- Reads a pattern; `parts` is the current sequence, newest first. -/
def patternLoop : Nat → List GroupLevel → List Tree → Parse Tree
  | 0, _, parts => return sequence parts
  | fuel + 1, stack, parts => do
    bumpSpace
    match ← peek with
    | none =>
      let (whole, stack) := closeBranches parts stack
      match stack with
      | .group _ _ span _ :: _ => fail .groupUnclosed span.first span.last
      | _ => return whole
    | some '(' => do
      match ← groupOpening with
      | .inl items =>
        match flagState .ignoreWhitespace items true with
        | some v => modify fun s => { s with verbose := v }
        | none => pure ()
        patternLoop fuel stack (.flags items :: parts)
      | .inr (kind, span) =>
        let verbose := (← get).verbose
        let inner := match kind with
          | .flags items => (flagState .ignoreWhitespace items true).getD verbose
          | .capture _ => verbose
        modify fun s => { s with verbose := inner }
        patternLoop fuel (.group parts kind span verbose :: stack) []
    | some ')' => do
      let (whole, stack) := closeBranches parts stack
      match stack with
      | .group before kind _ verbose :: stack =>
        modify fun s => { s with verbose := verbose }
        bump
        patternLoop fuel stack (.group kind whole :: before)
      | _ => failAtChar .groupUnopened
    | some '|' => do
      bump
      match stack with
      | .alternation branches :: stack =>
        patternLoop fuel (.alternation (sequence parts :: branches) :: stack) []
      | stack => patternLoop fuel (.alternation [sequence parts] :: stack) []
    | some '[' => do
      let c ← classLoop ((← get).rest.length + 1) [] []
      patternLoop fuel stack (.set c :: parts)
    | some '?' => do patternLoop fuel stack (← simpleRepetition 0 (some 1) parts)
    | some '*' => do patternLoop fuel stack (← simpleRepetition 0 none parts)
    | some '+' => do patternLoop fuel stack (← simpleRepetition 1 none parts)
    | some '\x7b' => do patternLoop fuel stack (← countedRepetition parts)
    | some _ => do
      let t : Tree := match ← primitive with
        | .literal l => .literal l
        | .assertion a _ => .assertion a
        | .dot s => .dot s
        | .perl k n s => .set (.perl k n s)
        | .property p n s => .set (.property p n s)
      patternLoop fuel stack (t :: parts)

end Parse

/-- A pattern with its groups. -/
structure Pattern where
  tree : Tree
  groups : Nat
  names : List (Text × Nat)

/-- The structure of a written pattern. -/
def Pattern.read (t : Text) : Except Fault Pattern := do
  let (tree, s) ← (Parse.patternLoop (t.length + 1) [] []).run ⟨t, .start, false, 0, []⟩
  return ⟨tree, s.groups, s.names.map fun n => (n.1, n.2.1)⟩

end UploadTemplate.Regex
