import UploadTemplate.Json.Number
import UploadTemplate.Text.Numeral

/-!
# JSON tokens

A machine reads a JSON text one character at a time and gives out its tokens. Every state names
the situation inside a token, so that what a character does depends on the state alone. A text
that breaks off or goes wrong inside a token ends in a token that says so.

Positions are counted in lines from one and in bytes within the line.
-/

namespace UploadTemplate.Json

structure Position where
  line : Nat
  column : Nat
  deriving DecidableEq, Repr

namespace Position

def start : Position := ⟨1, 0⟩

/-- The position after the first `bytes` bytes of a character. -/
def within (p : Position) (c : Char) (bytes : Nat) : Position :=
  if c = '\n' then ⟨p.line + 1, 0⟩ else ⟨p.line, p.column + bytes⟩

def after (p : Position) (c : Char) : Position := p.within c c.utf8Size

/-- The position after the first byte of a character: where a character is reported. -/
def seeing (p : Position) (c : Char) : Position := p.within c 1

end Position

/-- Why a text is not JSON. -/
inductive Cause where
  | eofInList
  | eofInObject
  | eofInString
  | eofInValue
  | expectedColon
  | expectedListCommaOrEnd
  | expectedObjectCommaOrEnd
  | expectedIdent
  | expectedValue
  | invalidEscape
  | invalidNumber
  | numberOutOfRange
  | controlCharacter
  | keyMustBeString
  | loneSurrogate
  | trailingComma
  | trailingCharacters
  | unexpectedEndOfHexEscape
  | tooDeep
  deriving DecidableEq, Repr

def Cause.message : Cause → Text
  | .eofInList => "EOF while parsing a list"
  | .eofInObject => "EOF while parsing an object"
  | .eofInString => "EOF while parsing a string"
  | .eofInValue => "EOF while parsing a value"
  | .expectedColon => "expected \x60:\x60"
  | .expectedListCommaOrEnd => "expected \x60,\x60 or \x60]\x60"
  | .expectedObjectCommaOrEnd => "expected \x60,\x60 or \x60\x7d\x60"
  | .expectedIdent => "expected ident"
  | .expectedValue => "expected value"
  | .invalidEscape => "invalid escape"
  | .invalidNumber => "invalid number"
  | .numberOutOfRange => "number out of range"
  | .controlCharacter => "control character (\\u0000-\\u001F) found while parsing a string"
  | .keyMustBeString => "key must be a string"
  | .loneSurrogate => "lone leading surrogate in hex escape"
  | .trailingComma => "trailing comma"
  | .trailingCharacters => "trailing characters"
  | .unexpectedEndOfHexEscape => "unexpected end of hex escape"
  | .tooDeep => "recursion limit exceeded"

/-- What is wrong with a text, and where. -/
structure Fault where
  cause : Cause
  position : Position
  deriving DecidableEq, Repr

def Fault.message (f : Fault) : Text :=
  f.cause.message ++ " at line " ++ Numeral.decimal f.position.line ++ " column " ++
    Numeral.decimal f.position.column

inductive Token where
  | beginArray
  | endArray
  | beginObject
  | endObject
  | comma
  | colon
  | null
  | bool (b : Bool)
  | number (n : Number)
  | string (s : Text)
  /-- A character that begins no token. -/
  | unknown
  /-- A token that goes wrong; `quoted` if it began as a string. -/
  | broken (fault : Fault) (quoted : Bool)
  deriving DecidableEq, Repr

/-- A token and where it was seen. -/
structure Lexeme where
  token : Token
  seen : Position
  deriving DecidableEq, Repr

/-- How far a number has been read. -/
inductive NumberPhase where
  | minus
  | zero
  | whole
  | point
  | fraction
  | mark
  | sign
  | exponent
  deriving DecidableEq, Repr

namespace NumberPhase

def next? (c : Char) : NumberPhase → Option NumberPhase
  | .minus => if c = '0' then some .zero else if Text.isAsciiDigit c then some .whole else none
  | .zero => if c = '.' then some .point else if c = 'e' ∨ c = 'E' then some .mark else none
  | .whole =>
    if Text.isAsciiDigit c then some .whole
    else if c = '.' then some .point
    else if c = 'e' ∨ c = 'E' then some .mark
    else none
  | .point => if Text.isAsciiDigit c then some .fraction else none
  | .fraction =>
    if Text.isAsciiDigit c then some .fraction
    else if c = 'e' ∨ c = 'E' then some .mark
    else none
  | .mark =>
    if c = '+' ∨ c = '-' then some .sign
    else if Text.isAsciiDigit c then some .exponent
    else none
  | .sign => if Text.isAsciiDigit c then some .exponent else none
  | .exponent => if Text.isAsciiDigit c then some .exponent else none

/-- Whether the number may end here. -/
def isComplete : NumberPhase → Bool
  | .zero | .whole | .fraction | .exponent => true
  | _ => false

end NumberPhase

/-- What is being read. Characters that have been read stand newest first. -/
inductive Inside where
  /-- Nothing: between two tokens. -/
  | blank
  /-- A fixed word that stands for `token`; `left` is still missing. -/
  | word (token : Token) (left : Text)
  | number (phase : NumberPhase) (chars : Text)
  | string (chars : Text)
  /-- After a backslash in a string. -/
  | escape (chars : Text)
  /-- In a hexadecimal escape of which `left` bytes are missing; `value` is `none` once a wrong
  digit has been read, `high` a high surrogate that waits for its partner. -/
  | unicode (chars : Text) (high : Option Nat) (value : Option Nat) (left : Nat)
  /-- After a high surrogate, where a backslash must follow. -/
  | lowEscape (chars : Text) (high : Nat)
  /-- After a high surrogate and a backslash, where a `u` must follow. -/
  | lowUnicode (chars : Text) (high : Nat)
  /-- After a broken token. -/
  | stopped
  deriving DecidableEq, Repr

structure Scan where
  inside : Inside
  /-- Where the current token was seen. -/
  seen : Position
  position : Position
  deriving DecidableEq, Repr

namespace Scan

def start : Scan := ⟨.blank, .start, .start⟩

def isBlank (c : Char) : Bool := c = ' ' || c = '\n' || c = '\t' || c = '\r'

/-- What a character between two tokens begins. -/
def opening (c : Char) : Inside × Option Token :=
  if isBlank c then (.blank, none)
  else if c = '[' then (.blank, some .beginArray)
  else if c = ']' then (.blank, some .endArray)
  else if c = '\x7b' then (.blank, some .beginObject)
  else if c = '\x7d' then (.blank, some .endObject)
  else if c = ',' then (.blank, some .comma)
  else if c = ':' then (.blank, some .colon)
  else if c = '"' then (.string [], none)
  else if c = 'n' then (.word .null "ull", none)
  else if c = 't' then (.word (.bool true) "rue", none)
  else if c = 'f' then (.word (.bool false) "alse", none)
  else if c = '-' then (.number .minus [c], none)
  else if c = '0' then (.number .zero [c], none)
  else if Text.isAsciiDigit c then (.number .whole [c], none)
  else (.blank, some .unknown)

/-- The token of a number that has been read; `seen` is the position after its first digit. -/
def numberToken (seen : Position) (chars : Text) : Token :=
  match Number.ofText chars.reverse with
  | .ok n => .number n
  | .error count => .broken ⟨.numberOutOfRange, ⟨seen.line, seen.column - 1 + count⟩⟩ false

/-- The character that an escape letter stands for. -/
def escaped (c : Char) : Option Char :=
  if c = '"' ∨ c = '\\' ∨ c = '/' then some c
  else if c = 'b' then some '\x08'
  else if c = 'f' then some '\x0c'
  else if c = 'n' then some '\n'
  else if c = 'r' then some '\r'
  else if c = 't' then some '\t'
  else none

/-- The state after the fourth digit of a hexadecimal escape. -/
def afterUnicode (chars : Text) (high : Option Nat) (n : Nat) : Except Cause Inside :=
  match high with
  | none =>
    if 0xDC00 ≤ n ∧ n ≤ 0xDFFF then .error .loneSurrogate
    else if 0xD800 ≤ n ∧ n ≤ 0xDBFF then .ok (.lowEscape chars n)
    else .ok (.string (Char.ofNat n :: chars))
  | some h =>
    if 0xDC00 ≤ n ∧ n ≤ 0xDFFF then
      .ok (.string (Char.ofNat ((h - 0xD800) * 0x400 + (n - 0xDC00) + 0x10000) :: chars))
    else .error .loneSurrogate

/-- One character on. -/
def step (s : Scan) (c : Char) : Scan × List Lexeme :=
  let seeing := s.position.seeing c
  let next := s.position.after c
  let go (inside : Inside) : Scan × List Lexeme := (⟨inside, s.seen, next⟩, [])
  let emit (token : Token) : Scan × List Lexeme := (⟨.blank, s.seen, next⟩, [⟨token, s.seen⟩])
  let stop (cause : Cause) (p : Position) (quoted : Bool) : Scan × List Lexeme :=
    (⟨.stopped, s.seen, next⟩, [⟨.broken ⟨cause, p⟩ quoted, s.seen⟩])
  let open_ (before : List Lexeme) : Scan × List Lexeme :=
    let (inside, token) := opening c
    (⟨inside, seeing, next⟩, before ++ (token.map fun t => ⟨t, seeing⟩).toList)
  match s.inside with
  | .blank => open_ []
  | .word token left =>
    match left with
    | [] => stop .expectedIdent seeing false
    | d :: left =>
      if c = d then if left.isEmpty then emit token else go (.word token left)
      else stop .expectedIdent seeing false
  | .number phase chars =>
    match phase.next? c with
    | some phase => go (.number phase (c :: chars))
    | none =>
      if phase.isComplete && !(phase = .zero && Text.isAsciiDigit c) then
        open_ [⟨numberToken s.seen chars, s.seen⟩]
      else stop .invalidNumber seeing false
  | .string chars =>
    if c = '"' then emit (.string chars.reverse)
    else if c = '\\' then go (.escape chars)
    else if c.toNat < 32 then stop .controlCharacter seeing true
    else go (.string (c :: chars))
  | .escape chars =>
    if c = 'u' then go (.unicode chars none (some 0) 4)
    else
      match escaped c with
      | some d => go (.string (d :: chars))
      | none => stop .invalidEscape seeing true
  | .unicode chars high value left =>
    let value := do
      let v ← value
      let d ← Numeral.hexValue c
      pure (16 * v + d)
    if c.utf8Size < left then go (.unicode chars high value (left - c.utf8Size))
    else
      let p := s.position.within c left
      match value with
      | none => stop .invalidEscape p true
      | some n =>
        match afterUnicode chars high n with
        | .ok inside => go inside
        | .error cause => stop cause p true
  | .lowEscape chars high =>
    if c = '\\' then go (.lowUnicode chars high) else stop .unexpectedEndOfHexEscape seeing true
  | .lowUnicode chars high =>
    if c = 'u' then go (.unicode chars (some high) (some 0) 4)
    else stop .unexpectedEndOfHexEscape seeing true
  | .stopped => go .stopped

/-- The token that the end of the text completes or breaks off. -/
def atEnd (s : Scan) : List Lexeme :=
  let stop (cause : Cause) (quoted : Bool) : List Lexeme :=
    [⟨.broken ⟨cause, s.position⟩ quoted, s.seen⟩]
  match s.inside with
  | .blank | .stopped => []
  | .word _ _ => stop .eofInValue false
  | .number phase chars =>
    if phase.isComplete then [⟨numberToken s.seen chars, s.seen⟩] else stop .eofInValue false
  | .string _ | .escape _ | .unicode .. | .lowEscape .. | .lowUnicode .. => stop .eofInString true

/-- Reads on from a state. -/
def run : Scan → Text → Scan × List Lexeme
  | s, [] => (s, [])
  | s, c :: r =>
    let (s, first) := s.step c
    let (s, rest) := run s r
    (s, first ++ rest)

theorem run_append (s : Scan) (a b : Text) :
    run s (a ++ b) = ((run (run s a).1 b).1, (run s a).2 ++ (run (run s a).1 b).2) := by
  induction a generalizing s with
  | nil => simp [run]
  | cons c r ih => simp [run, ih, List.append_assoc]

end Scan

/-- The tokens of a text, and the position of its end. -/
def tokens (t : Text) : List Lexeme × Position :=
  let (s, lexemes) := Scan.start.run t
  (lexemes ++ s.atEnd, s.position)

end UploadTemplate.Json
