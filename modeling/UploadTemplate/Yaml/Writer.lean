import UploadTemplate.Json.Number
import UploadTemplate.Json.Writer
import UploadTemplate.Text.Utf8
import UploadTemplate.Yaml.Scalar

/-!
# Writing YAML

JSON values as YAML documents in blocks. Every text is written in the plainest way in which it is
read back as a text: as it is, between single quotes, on lines of its own, or between double
quotes with escapes. Items of a sequence are not indented within a mapping.
-/

namespace UploadTemplate.Yaml

/-! ### Texts that look like something else -/

/-- The words that once stood for truth values, and those that stand for nothing. -/
def reserved : List String :=
  ["", "~", "null", "Null", "NULL", "y", "Y", "yes", "Yes", "YES", "n", "N", "no", "No", "NO",
    "true", "True", "TRUE", "false", "False", "FALSE", "on", "On", "ON", "off", "Off", "OFF",
    ".inf", ".Inf", ".INF", "+.inf", "+.Inf", "+.INF", "-.inf", "-.Inf", "-.INF",
    ".nan", ".NaN", ".NAN"]

/-- A text without the plus sign before it. -/
def dropPlus : Text → Text
  | '+' :: r => r
  | t => t

/-- A text without the sign before it. -/
def dropSign : Text → Text
  | '+' :: r => r
  | '-' :: r => r
  | t => t

def inBase? (base : Nat) (ds : Text) : Option Nat :=
  if ds.isEmpty then none
  else (ds.mapM fun c => (Numeral.hexValue c).filter (· < base)).map (Numeral.value base)

/-- Whether a text is an integer in a base that is not ten, of one hundred and twenty-eight bits
with the sign. -/
def isBasedInteger (t : Text) : Bool :=
  let digits? (t : Text) : Option Nat :=
    match t with
    | '0' :: 'x' :: r => inBase? 16 r
    | '0' :: 'o' :: r => inBase? 8 r
    | '0' :: 'b' :: r => inBase? 2 r
    | _ => none
  match t with
  | '-' :: r => (digits? r).any (· ≤ Nat.pow 2 127)
  | t => (digits? (dropPlus t)).any (· < Nat.pow 2 128)

/-- The digits before and after the point of a decimal number and its exponent, if a text without
a sign is one. -/
def decimalParts? (t : Text) : Option (Text × Text × Int) :=
  let whole := t.takeWhile Text.isAsciiDigit
  let r := t.dropWhile Text.isAsciiDigit
  let (fraction, r) := match r with
    | '.' :: r => (r.takeWhile Text.isAsciiDigit, r.dropWhile Text.isAsciiDigit)
    | _ => ([], r)
  if whole.isEmpty ∧ fraction.isEmpty then none
  else
    match r with
    | [] => some (whole, fraction, 0)
    | e :: r =>
      let ds := dropSign r
      if (e = 'e' ∨ e = 'E') ∧ ds ≠ [] ∧ ds.all Text.isAsciiDigit = true then
        let n : Int := Numeral.decimalValue ds
        some (whole, fraction, if r.head? = some '-' then -n else n)
      else none

/-- Whether a text is a decimal number that a double comes near to. -/
def isDecimal (t : Text) : Bool :=
  let unsigned := match t with
    | '+' :: '+' :: _ | '+' :: '-' :: _ => []
    | t => dropSign t
  match decimalParts? unsigned with
  | none => false
  | some (whole, fraction, e) =>
    let digits := (whole ++ fraction).dropWhile (· = '0')
    let magnitude : Int := e + digits.length - fraction.length
    if digits.isEmpty ∨ magnitude < 300 then true
    else if 310 < magnitude then false
    else
      let n := Numeral.decimalValue digits
      let power := e - fraction.length
      (if 0 ≤ power then Magnitude.nearest (n * Nat.pow 10 power.toNat) 1
        else Magnitude.nearest n (Nat.pow 10 power.natAbs)).isSome

/-- Digits that are no number because a zero stands before them. -/
def isPaddedNumeral (t : Text) : Bool :=
  match dropSign t with
  | '0' :: c :: r => (c :: r).all Text.isAsciiDigit
  | _ => false

/-- Whether a text without quotes would be read as something else, or nearly so. -/
def looksDifferent (t : Text) : Bool :=
  reserved.any (fun w => w.toList = t) || isPaddedNumeral t || isBasedInteger t || isDecimal t

/-! ### Styles -/

/-- Characters that need no escape. -/
def isPrintable (c : Char) : Bool :=
  let n := c.toNat
  n = 10 || (0x20 ≤ n && n ≤ 0x7E) || (0xA0 ≤ n && n ≤ 0xD7FF) ||
    (0xE000 ≤ n && n ≤ 0xFFFD && n != 0xFEFF) || 0x10000 ≤ n

/-- Whether two neighbours of a text have a property. -/
def anyNeighbours (p : Char → Char → Bool) : Text → Bool
  | a :: b :: r => p a b || anyNeighbours p (b :: r)
  | _ => false

/-- Whether a text without quotes would be read as more than a scalar. -/
def hasMark (t : Text) : Bool :=
  "---".toList.isPrefixOf t || "...".toList.isPrefixOf t ||
    t.head?.any ("#,[]\x7b\x7d&*!|>\x27\"%@\x60".toList.contains ·) ||
    (t.head?.any ("?:-".toList.contains ·) && endsWord t[1]?) ||
    anyNeighbours (fun a b => (a = ':' && endsWord (some b)) || (b = '#' && endsWord (some a))) t ||
    t.getLast? = some ':'

def spaceBeforeBreak (a b : Char) : Bool := a = ' ' && isBreak b

def spaceAfterBreak (a b : Char) : Bool := isBreak a && b = ' '

/-- The ways in which texts are written. -/
inductive Style where
  | plain
  | single
  | literal
  | double
  deriving DecidableEq, Repr

/-- Whether a text can be written between single quotes, in one line or with folded breaks. -/
def allowsSingle (t : Text) : Bool :=
  t.all isPrintable && !anyNeighbours spaceBeforeBreak t && !anyNeighbours spaceAfterBreak t

def allowsPlain (t : Text) : Bool :=
  allowsSingle t && !t.any isBreak && t.head? != some ' ' && t.getLast? != some ' ' && !hasMark t

def allowsLiteral (t : Text) : Bool :=
  t.all isPrintable && t.getLast? != some ' ' && !anyNeighbours spaceBeforeBreak t

def style (t : Text) : Style :=
  if looksDifferent t then .single
  else if '\n' ∈ t then if allowsLiteral t then .literal else .double
  else if allowsPlain t then .plain
  else if allowsSingle t then .single
  else .double

/-! ### Writing texts -/

/-- A code point in a number of hexadecimal digits. -/
def codeDigits (width n : Nat) : Text :=
  Numeral.padZeros width ((Numeral.digits 16 n).map Numeral.upperHexDigit)

/-- The letters of escapes that are written. -/
def writtenEscapes : List (Char × Char) :=
  [('\x00', '0'), ('\x07', 'a'), ('\x08', 'b'), ('\t', 't'), ('\n', 'n'), ('\x0b', 'v'),
    ('\x0c', 'f'), ('\r', 'r'), ('\x1b', 'e'), ('"', '"'), ('\\', '\\'), ('\u0085', 'N'),
    ('\u00a0', '_'), ('\u2028', 'L'), ('\u2029', 'P')]

def doubleChar (c : Char) : Text :=
  if isPrintable c && !isBreak c && c != '"' && c != '\\' then [c]
  else
    match writtenEscapes.lookup c with
    | some d => ['\\', d]
    | none =>
      let n := c.toNat
      if n ≤ 0xFF then "\\x" ++ codeDigits 2 n
      else if n ≤ 0xFFFF then "\\u" ++ codeDigits 4 n
      else "\\U" ++ codeDigits 8 n

def doubleQuoted (t : Text) : Text := '"' :: t.flatMap doubleChar ++ ['"']

def spaces (n : Nat) : Text := List.replicate n ' '

/-- The text between single quotes, with a quote written twice. -/
def singleFrom (column : Nat) (afterBreak : Bool) : Text → Text
  | [] => []
  | c :: r =>
    (if isBreak c then [c]
      else (if afterBreak then spaces column else []) ++ (if c = '\x27' then [c, c] else [c])) ++
      singleFrom column (isBreak c) r

def singleQuoted (column : Nat) (t : Text) : Text :=
  '\x27' :: singleFrom column false t ++ ['\x27']

/-- The mark of a text on lines of its own: the indentation if blanks or breaks begin it, and what
becomes of the breaks at its end. -/
def literalMark (t : Text) : Text :=
  '|' :: (if t.head?.any fun c => c = ' ' || isBreak c then ['2'] else []) ++
    match t.reverse with
    | a :: b :: _ => if !isBreak a then ['-'] else if isBreak b then ['+'] else []
    | [a] => if isBreak a then ['+'] else ['-']
    | [] => ['-']

/-- The lines of a text at a column. -/
def literalFrom (column : Nat) (lineStart : Bool) : Text → Text
  | [] => if lineStart then [] else ['\n']
  | c :: r =>
    if isBreak c then c :: literalFrom column true r
    else (if lineStart then spaces column else []) ++ c :: literalFrom column false r

/-- A text at the end of a line, with the line break; further lines stand at a column. -/
def scalarLine (column : Nat) (t : Text) : Text :=
  match style t with
  | .plain => t ++ ['\n']
  | .single => singleQuoted column t ++ ['\n']
  | .double => doubleQuoted t ++ ['\n']
  | .literal => literalMark t ++ '\n' :: literalFrom column true t

/-- Keys of one line and at most one hundred and twenty-eight bytes need no mark before them. -/
def isShortKey (t : Text) : Bool := !t.any isBreak && (Utf8.encode t).length ≤ 128

/-- A key with the colon behind it, in a mapping at a column. -/
def keyStart (column : Nat) (k : Text) : Text :=
  if isShortKey k then
    (match style k with
      | .plain => k
      | .single => singleQuoted column k
      | .literal | .double => doubleQuoted k) ++ ":"
  else '?' :: ' ' :: scalarLine (column + 2) k ++ spaces column ++ ":"

/-! ### Writing values -/

/-- The text of a value that takes no lines of its own. -/
def atom? : Json → Option Text
  | .null => some "null"
  | .bool b => some (if b then "true".toList else "false".toList)
  | .number n => some n.write
  | .array [] => some "[]"
  | .object [] => some "\x7b\x7d"
  | _ => none

mutual

/-- What stands behind the colon of an entry in a mapping at a column, with the line break. -/
def entryValue (column : Nat) : Json → Text
  | .string t => ' ' :: scalarLine (column + 2) t
  | .array (v :: r) => '\n' :: spaces column ++ items column (v :: r)
  | .object (m :: r) => '\n' :: spaces (column + 2) ++ entries (column + 2) (m :: r)
  | v => ' ' :: (atom? v).getD [] ++ ['\n']

/-- What stands behind the hyphen of an item in a sequence at a column, with the line break. -/
def itemValue (column : Nat) : Json → Text
  | .string t => ' ' :: scalarLine (column + 2) t
  | .array (v :: r) => ' ' :: items (column + 2) (v :: r)
  | .object (m :: r) => ' ' :: entries (column + 2) (m :: r)
  | v => ' ' :: (atom? v).getD [] ++ ['\n']

/-- Items in a sequence at a column; the column of the first one has been reached. -/
def items (column : Nat) : List Json → Text
  | [] => []
  | v :: r =>
    '-' :: itemValue column v ++ (if r.isEmpty then [] else spaces column ++ items column r)

/-- Entries in a mapping at a column; the column of the first one has been reached. -/
def entries (column : Nat) : List (Text × Json) → Text
  | [] => []
  | (k, v) :: r =>
    keyStart column k ++ entryValue column v ++
      (if r.isEmpty then [] else spaces column ++ entries column r)

end

/-- The document of a value. -/
def write : Json → Text
  | .string t => scalarLine 2 t
  | .array (v :: r) => items 0 (v :: r)
  | .object (m :: r) => entries 0 (m :: r)
  | v => (atom? v).getD [] ++ ['\n']

end UploadTemplate.Yaml
