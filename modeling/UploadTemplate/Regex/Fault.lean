import UploadTemplate.Text.Numeral

/-!
# Faults of patterns

Why a text is not a pattern, and how that is shown: the pattern with marks under the faulty part,
with line numbers if it has several lines.
-/

namespace UploadTemplate.Regex

/-- A place in a pattern, in lines and columns from one. -/
structure Place where
  line : Nat
  column : Nat
  deriving DecidableEq, Repr

def Place.start : Place := ⟨1, 1⟩

def Place.after (p : Place) (c : Char) : Place :=
  if c = '\n' then ⟨p.line + 1, 1⟩ else ⟨p.line, p.column + 1⟩

structure Span where
  first : Place
  last : Place
  deriving DecidableEq, Repr

inductive Cause where
  | classEscapeInvalid
  | classRangeInvalid
  | classRangeLiteral
  | classUnclosed
  | decimalEmpty
  | decimalInvalid
  | escapeHexEmpty
  | escapeHexInvalid
  | escapeHexInvalidDigit
  | escapeUnexpectedEof
  | escapeUnrecognized
  | flagDanglingNegation
  | flagDuplicate
  | flagRepeatedNegation
  | flagUnexpectedEof
  | flagUnrecognized
  | groupNameDuplicate
  | groupNameEmpty
  | groupNameInvalid
  | groupNameUnexpectedEof
  | groupUnclosed
  | groupUnopened
  | repetitionCountInvalid
  | repetitionCountDecimalEmpty
  | repetitionCountUnclosed
  | repetitionMissing
  | specialWordBoundaryUnclosed
  | specialWordBoundaryUnrecognized
  | specialWordOrRepetitionUnexpectedEof
  | unicodeClassInvalid
  | unsupportedBackreference
  | unsupportedLookAround
  | unicodeNotAllowed
  | invalidUtf8
  | propertyNotFound
  | propertyValueNotFound
  /-- The pattern takes too much room. -/
  | tooBig
  deriving DecidableEq, Repr

def Cause.message : Cause → Text
  | .classEscapeInvalid => "invalid escape sequence found in character class"
  | .classRangeInvalid => "invalid character class range, the start must be <= the end"
  | .classRangeLiteral => "invalid range boundary, must be a literal"
  | .classUnclosed => "unclosed character class"
  | .decimalEmpty => "decimal literal empty"
  | .decimalInvalid => "decimal literal invalid"
  | .escapeHexEmpty => "hexadecimal literal empty"
  | .escapeHexInvalid => "hexadecimal literal is not a Unicode scalar value"
  | .escapeHexInvalidDigit => "invalid hexadecimal digit"
  | .escapeUnexpectedEof => "incomplete escape sequence, reached end of pattern prematurely"
  | .escapeUnrecognized => "unrecognized escape sequence"
  | .flagDanglingNegation => "dangling flag negation operator"
  | .flagDuplicate => "duplicate flag"
  | .flagRepeatedNegation => "flag negation operator repeated"
  | .flagUnexpectedEof => "expected flag but got end of regex"
  | .flagUnrecognized => "unrecognized flag"
  | .groupNameDuplicate => "duplicate capture group name"
  | .groupNameEmpty => "empty capture group name"
  | .groupNameInvalid => "invalid capture group character"
  | .groupNameUnexpectedEof => "unclosed capture group name"
  | .groupUnclosed => "unclosed group"
  | .groupUnopened => "unopened group"
  | .repetitionCountInvalid =>
    "invalid repetition count range, the start must be <= the end"
  | .repetitionCountDecimalEmpty => "repetition quantifier expects a valid decimal"
  | .repetitionCountUnclosed => "unclosed counted repetition"
  | .repetitionMissing => "repetition operator missing expression"
  | .specialWordBoundaryUnclosed =>
    "special word boundary assertion is either unclosed or contains an invalid character"
  | .specialWordBoundaryUnrecognized =>
    "unrecognized special word boundary assertion, " ++
      "valid choices are: start, end, start-half or end-half"
  | .specialWordOrRepetitionUnexpectedEof =>
    "found either the beginning of a special word boundary or a bounded repetition " ++
      "on a \\b with an opening brace, but no closing brace"
  | .unicodeClassInvalid => "invalid Unicode character class"
  | .unsupportedBackreference => "backreferences are not supported"
  | .unsupportedLookAround =>
    "look-around, including look-ahead and look-behind, is not supported"
  | .unicodeNotAllowed => "Unicode not allowed here"
  | .invalidUtf8 => "pattern can match invalid UTF-8"
  | .propertyNotFound => "Unicode property not found"
  | .propertyValueNotFound => "Unicode property value not found"
  | .tooBig => "Compiled regex exceeds size limit of 10485760 bytes."

/-- What is wrong with a pattern and where; `other` is the earlier place that it clashes with. -/
structure Fault where
  cause : Cause
  span : Span
  other : Option Span
  deriving DecidableEq, Repr

namespace Fault

/-- The marks under one line for the spans that lie in it, in ascending order. -/
def underline (column : Nat) : List Span → Text
  | [] => []
  | s :: r =>
    let gap := s.first.column - 1 - column
    let width := max 1 (s.last.column - s.first.column)
    List.replicate gap ' ' ++ List.replicate width '^' ++ underline (column + gap + width) r

/-- The spans of a fault in ascending order. -/
def spans (f : Fault) : List Span :=
  match f.other with
  | none => [f.span]
  | some s =>
    if s.first.line < f.span.first.line ∨
        (s.first.line = f.span.first.line ∧ s.first.column ≤ f.span.first.column) then
      [s, f.span]
    else [f.span, s]

/-- The lines of a pattern with marks under the faulty parts. -/
def annotate (width : Nat) (spans : List Span) : Nat → List Text → Text
  | _, [] => []
  | n, line :: r =>
    let label := Numeral.decimal n
    let head : Text :=
      if width = 0 then "    " else List.replicate (width - label.length) ' ' ++ label ++ ": "
    let here := spans.filter fun s => s.first.line = n && s.last.line = n
    let indent := List.replicate (if width = 0 then 4 else width + 2) ' '
    head ++ line ++ '\n' ::
      (if here.isEmpty then [] else indent ++ underline 0 here ++ ['\n']) ++
      annotate width spans (n + 1) r

/-- The account of a fault at a place in a pattern. -/
def account (pattern : Text) (f : Fault) : Text :=
  let lines := Text.lines pattern
  let count := lines.length + (if pattern.getLast? = some '\n' then 1 else 0)
  let width := if count ≤ 1 then 0 else (Numeral.decimal count).length
  let marked := annotate width f.spans 1 lines
  let title : Text := "regex parse error:\n"
  if '\n' ∈ pattern then
    let divider : Text := List.replicate 79 '~' ++ ['\n']
    let long := f.spans.filter fun s => s.first.line ≠ s.last.line
    let notes := long.map fun s =>
      "on line " ++ Numeral.decimal s.first.line ++ " (column " ++
        Numeral.decimal s.first.column ++ ") through line " ++ Numeral.decimal s.last.line ++
        " (column " ++ Numeral.decimal (s.last.column - 1) ++ ")"
    title ++ divider ++ marked ++ divider ++
      (if notes.isEmpty then [] else List.intercalate "\n" notes ++ ['\n']) ++
      "error: " ++ f.cause.message
  else title ++ marked ++ "error: " ++ f.cause.message

/-- The account of a fault in a pattern. -/
def message (pattern : Text) (f : Fault) : Text :=
  if f.cause = .tooBig then f.cause.message else f.account pattern

end Fault

end UploadTemplate.Regex
