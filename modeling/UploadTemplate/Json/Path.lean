import UploadTemplate.Json.Value
import UploadTemplate.Json.Writer
import UploadTemplate.Text.Cut

/-!
# Paths into JSON documents

A path is a list of steps, each to a member by its name or to an item by its index. It is written
with dots and brackets, `$.files[0]['url']`, or as a pointer, `/files/0/url`.

- `Json.walk`: what the steps lead to.
- `Path.read`: the steps of a path with dots and brackets.
- `Json.select`: what a written path leads to.
-/

namespace UploadTemplate.Json

/-- One step down into a document. -/
inductive Step where
  | key (name : Text)
  | index (i : Nat)
  deriving DecidableEq, Repr

def step? (s : Step) (v : Json) : Option Json :=
  match s, v with
  | .key k, .object ms => Entries.find? k ms
  | .index i, .array items => items[i]?
  | _, _ => none

/-- The value that a list of steps leads to. -/
def walk : List Step → Json → Option Json
  | [], v => some v
  | s :: r, v => (step? s v).bind (walk r)

/-- Why a path leads nowhere. Positions count the characters before. -/
inductive PathCause where
  | emptyKey (position : Nat)
  | unexpected (c : Char) (position : Nat)
  | unterminatedKey
  | notAnIndex (text : Text)
  | expectedBracket (position : Nat)
  | noMatch
  | noPointerMatch
  deriving DecidableEq, Repr

/-- A path that leads nowhere. -/
structure PathFault where
  path : Text
  cause : PathCause
  deriving DecidableEq, Repr

def PathFault.message (f : PathFault) : Text :=
  let invalid (what : Text) : Text := "Invalid JSON path \"" ++ f.path ++ "\": " ++ what
  match f.cause with
  | .emptyKey p => invalid ("empty key at position " ++ Numeral.decimal p)
  | .unexpected c p => invalid ("unexpected '" ++ c :: "' at position " ++ Numeral.decimal p)
  | .unterminatedKey => invalid "unterminated quoted key"
  | .notAnIndex t => invalid ('"' :: t ++ "\" is not an array index")
  | .expectedBracket p => invalid ("expected ']' at position " ++ Numeral.decimal p)
  | .noMatch => "JSON path \"" ++ f.path ++ "\" did not match anything"
  | .noPointerMatch => "JSON pointer \"" ++ f.path ++ "\" did not match anything"

namespace Path

/-- What of a path is being read. Characters that have been read stand newest first. -/
inductive Inside where
  /-- The first step, which needs no dot. -/
  | first
  /-- A name without quotes. -/
  | key (chars : Text)
  /-- After an opening bracket. -/
  | bracket
  /-- A quoted name. -/
  | quoted (quote : Char) (chars : Text)
  /-- An index. -/
  | index (chars : Text)
  /-- After a quoted name, where the bracket must close. -/
  | closing (key : Text)
  /-- After a closing bracket. -/
  | between
  deriving DecidableEq, Repr

/-- The index that stands in brackets. -/
def indexOf (chars : Text) : Except PathCause Nat :=
  let t := chars.reverse
  match Numeral.read Numeral.max64 (Text.trim t) with
  | some i => .ok i
  | none => .error (.notAnIndex t)

/-- Reads a path from a state on; `position` counts the characters before, `steps` stands newest
first. -/
def readFrom (inside : Inside) (steps : List Step) (position : Nat) :
    Text → Except PathCause (List Step)
  | [] =>
    match inside with
    | .first | .between => .ok steps.reverse
    | .key [] => .error (.emptyKey position)
    | .key chars => .ok (.key chars.reverse :: steps).reverse
    | .bracket => .error (.notAnIndex [])
    | .index chars => do
      let _ ← indexOf chars
      .error (.expectedBracket position)
    | .quoted .. => .error .unterminatedKey
    | .closing _ => .error (.expectedBracket position)
  | c :: r =>
    let next := position + 1
    match inside with
    | .first =>
      if c = '.' then readFrom (.key []) steps next r
      else if c = '[' then readFrom .bracket steps next r
      else readFrom (.key [c]) steps next r
    | .between =>
      if c = '.' then readFrom (.key []) steps next r
      else if c = '[' then readFrom .bracket steps next r
      else .error (.unexpected c position)
    | .key chars =>
      if c = '.' ∨ c = '[' then
        if chars.isEmpty then .error (.emptyKey position)
        else
          readFrom (if c = '.' then .key [] else .bracket) (.key chars.reverse :: steps) next r
      else readFrom (.key (c :: chars)) steps next r
    | .bracket =>
      if c = '\x27' ∨ c = '"' then readFrom (.quoted c []) steps next r
      else if c = ']' then .error (.notAnIndex [])
      else readFrom (.index [c]) steps next r
    | .index chars =>
      if c = ']' then
        match indexOf chars with
        | .ok i => readFrom .between (.index i :: steps) next r
        | .error e => .error e
      else readFrom (.index (c :: chars)) steps next r
    | .quoted quote chars =>
      if c = quote then readFrom (.closing chars.reverse) steps next r
      else readFrom (.quoted quote (c :: chars)) steps next r
    | .closing key =>
      if c = ']' then readFrom .between (.key key :: steps) next r
      else .error (.expectedBracket position)

/-- The steps of a path with dots and brackets. -/
def read : Text → Except PathCause (List Step)
  | '$' :: r => readFrom .first [] 1 r
  | t => readFrom .first [] 0 t

/-- A part of a pointer, with its escapes taken back. -/
def unescape (t : Text) : Text := Text.replace "~0" "~" (Text.replace "~1" "/" t)

/-- The index that a part of a pointer stands for: digits without a leading zero. -/
def pointerIndex (t : Text) : Option Nat :=
  match t with
  | '+' :: _ => none
  | '0' :: _ :: _ => none
  | _ => Numeral.read Numeral.max64 t

/-- The value that the parts of a pointer lead to. -/
def follow : List Text → Json → Option Json
  | [], v => some v
  | part :: r, v =>
    let next := match v with
      | .object ms => Entries.find? part ms
      | .array items => (pointerIndex part).bind fun i => items[i]?
      | _ => none
    next.bind (follow r)

/-- What a pointer, which begins with a slash, leads to. -/
def pointer (t : Text) (v : Json) : Option Json :=
  follow (((Text.split '/' t).drop 1).map unescape) v

end Path

/-- What a written path leads to in a document. Blanks around it do not count. -/
def select (v : Json) (path : Text) : Except PathFault Json :=
  let path := Text.trim path
  match path with
  | '/' :: _ =>
    match Path.pointer path v with
    | some found => .ok found
    | none => .error ⟨path, .noPointerMatch⟩
  | _ =>
    match Path.read path with
    | .error cause => .error ⟨path, cause⟩
    | .ok steps =>
      match walk steps v with
      | some found => .ok found
      | none => .error ⟨path, .noMatch⟩

/-- A text as it is, nothing for `null`, and any other value as compact JSON. -/
def plainText : Json → Text
  | .string s => s
  | .null => []
  | v => v.write

end UploadTemplate.Json
