import UploadTemplate.Regex.Fault

/-!
# Patterns as written

The structure of a pattern before its flags are applied and its classes are worked out.
-/

namespace UploadTemplate.Regex

/-- A condition on a place in a text. -/
inductive Look where
  | startText
  | endText
  | startLine
  | endLine
  | startLineCrlf
  | endLineCrlf
  | wordBoundary
  | notWordBoundary
  | wordStart
  | wordEnd
  | wordStartHalf
  | wordEndHalf
  deriving DecidableEq, Repr

inductive Flag where
  | caseInsensitive
  | multiLine
  | dotMatchesNewLine
  | swapGreed
  | unicode
  | crlf
  | ignoreWhitespace
  deriving DecidableEq, Repr

/-- An item of a flag list; `none` negates those after it. -/
abbrev FlagItem := Option Flag

inductive PerlClass where
  | digit
  | space
  | word
  deriving DecidableEq, Repr

inductive AsciiClass where
  | alnum
  | alpha
  | ascii
  | blank
  | cntrl
  | digit
  | graph
  | lower
  | print
  | punct
  | space
  | upper
  | word
  | xdigit
  deriving DecidableEq, Repr

def AsciiClass.ofName (name : Text) : Option AsciiClass :=
  match String.ofList name with
  | "alnum" => some .alnum
  | "alpha" => some .alpha
  | "ascii" => some .ascii
  | "blank" => some .blank
  | "cntrl" => some .cntrl
  | "digit" => some .digit
  | "graph" => some .graph
  | "lower" => some .lower
  | "print" => some .print
  | "punct" => some .punct
  | "space" => some .space
  | "upper" => some .upper
  | "word" => some .word
  | "xdigit" => some .xdigit
  | _ => none

/-- What a property class asks for: a name, or a name and a value, which may be excluded. -/
inductive Property where
  | named (name : Text)
  | valued (excluded : Bool) (name value : Text)
  deriving DecidableEq, Repr

inductive SetOperation where
  | intersection
  | difference
  | symmetricDifference
  deriving DecidableEq, Repr

/-- A character that a pattern names; `byte` if it was written by two hexadecimal digits. -/
structure Literal where
  char : Char
  byte : Bool
  span : Span
  deriving DecidableEq, Repr

inductive ClassTree where
  | literal (l : Literal)
  | range (first last : Literal)
  | ascii (kind : AsciiClass) (negated : Bool)
  | perl (kind : PerlClass) (negated : Bool) (span : Span)
  | property (p : Property) (negated : Bool) (span : Span)
  | bracket (negated : Bool) (body : ClassTree) (span : Span)
  | union (items : List ClassTree)
  | binary (op : SetOperation) (left right : ClassTree)

inductive GroupKind where
  | capture (index : Nat)
  | flags (items : List FlagItem)

/-- The anchors and boundaries as written. -/
inductive Assertion where
  | caret
  | dollar
  | look (l : Look)
  deriving DecidableEq, Repr

inductive Tree where
  | empty
  | flags (items : List FlagItem)
  | literal (l : Literal)
  | dot (span : Span)
  | assertion (a : Assertion)
  | set (c : ClassTree)
  | repetition (least : Nat) (most : Option Nat) (greedy : Bool) (sub : Tree)
  | group (kind : GroupKind) (sub : Tree)
  | concat (parts : List Tree)
  | alternation (parts : List Tree)

end UploadTemplate.Regex
