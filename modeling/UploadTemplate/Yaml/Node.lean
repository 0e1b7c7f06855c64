import UploadTemplate.Yaml.Token

/-!
# YAML documents

A document is a tree of scalars, sequences and mappings. A scalar keeps its text; what that text
stands for is up to the reader. A name given to a part of the document stands for that part from
there on.

- `Node.ofText?`: the tree of a text that holds one document at most.
-/

namespace UploadTemplate.Yaml

inductive Node where
  /-- `plain` tells that the text stands without any quotes or marks, and without a tag. -/
  | scalar (text : Text) (plain : Bool)
  | sequence (items : List Node)
  | mapping (entries : List (Node × Node))

namespace Node

/-- Nothing where a part is expected. -/
def empty : Node := .scalar [] true

instance : Inhabited Node := ⟨empty⟩

/-- The tokens that are left, and the parts with names. -/
structure Remaining where
  tokens : List Token
  named : List (Text × Node)

abbrev Parsing := StateT Remaining Option

namespace Parsing

def peek : Parsing (Option Token) := fun st => some (st.tokens.head?, st)

def advance : Parsing Unit := fun st => some ((), { st with tokens := st.tokens.tail })

def isNext (p : Token → Bool) : Parsing Bool := do return (← peek).any p

/-- Passes over a token that must come. -/
def expect (t : Token) : Parsing Unit := do
  if (← peek) = some t then advance else failure

/-- The names of a part, and whether it has a tag. -/
structure Properties where
  anchor : Option Text := none
  tagged : Bool := false

/-- At most one name and one tag, in either order. -/
def properties : Nat → Properties → Parsing Properties
  | 0, p => pure p
  | fuel + 1, p => do
    match ← peek with
    | some (.anchor name) =>
      if p.anchor.isSome then failure
      advance
      properties fuel { p with anchor := some name }
    | some (.tag _) =>
      if p.tagged then failure
      advance
      properties fuel { p with tagged := true }
    | _ => return p

/-- Where a part stands: in brackets, in a block, or in a block mapping, where the items of a
sequence need no deeper indentation. -/
inductive Place where
  | flow
  | block
  | entry
  deriving DecidableEq, Repr

/-- What ends a part of a block mapping or of its items. -/
def endsEntry (t : Token) : Bool := t = .key || t = .value || t = .blockEnd

def named (anchor : Option Text) (n : Node) : Parsing Node := fun st =>
  match anchor with
  | none => some (n, st)
  | some name => some (n, { st with named := (name, n) :: st.named })

mutual

/-- A part of a document. -/
def node : Nat → Place → Parsing Node
  | 0, _ => failure
  | fuel + 1, place => do
    match ← peek with
    | some (.alias name) =>
      advance
      match (← get).named.lookup name with
      | some n => return n
      | none => failure
    | _ =>
      let p ← properties 3 {}
      let n ← content fuel place p
      named p.anchor n

/-- A part behind its name and its tag. -/
def content : Nat → Place → Properties → Parsing Node
  | 0, _, _ => failure
  | fuel + 1, place, p => do
    match ← peek with
    | some (.scalar text plain) =>
      advance
      return .scalar text (plain && !p.tagged)
    | some .flowSequence =>
      advance
      return .sequence (← flowItems fuel true)
    | some .flowMapping =>
      advance
      return .mapping (← flowEntries fuel true)
    | some .blockSequence =>
      if place = .flow then failure
      advance
      return .sequence (← blockItems fuel)
    | some .blockMapping =>
      if place = .flow then failure
      advance
      return .mapping (← blockEntries fuel)
    | some .item =>
      if place = .entry then return .sequence (← looseItems fuel)
      else if p.anchor.isSome || p.tagged then return .scalar [] (!p.tagged)
      else failure
    | _ => if p.anchor.isSome || p.tagged then return .scalar [] (!p.tagged) else failure

/-- A part, or nothing before a token that ends it. -/
def orEmpty : Nat → Place → (Token → Bool) → Parsing Node
  | 0, _, _ => failure
  | fuel + 1, place, ends => do if ← isNext ends then return empty else node fuel place

/-- The items of a block sequence up to its end. -/
def blockItems : Nat → Parsing (List Node)
  | 0 => failure
  | fuel + 1 => do
    match ← peek with
    | some .item =>
      advance
      let n ← orEmpty fuel .block fun t => t = .item || t = .blockEnd
      let r ← blockItems fuel
      return n :: r
    | some .blockEnd =>
      advance
      return []
    | _ => failure

/-- The items of a sequence that is not indented within the mapping around it. -/
def looseItems : Nat → Parsing (List Node)
  | 0 => failure
  | fuel + 1 => do
    match ← peek with
    | some .item =>
      advance
      let n ← orEmpty fuel .block fun t => t = .item || endsEntry t
      let r ← looseItems fuel
      return n :: r
    | _ => return []

/-- The entries of a block mapping up to its end. -/
def blockEntries : Nat → Parsing (List (Node × Node))
  | 0 => failure
  | fuel + 1 => do
    match ← peek with
    | some .key =>
      advance
      let k ← orEmpty fuel .entry endsEntry
      let v ← valueAfter fuel .entry endsEntry
      let r ← blockEntries fuel
      return (k, v) :: r
    | some .blockEnd =>
      advance
      return []
    | _ => failure

/-- The part behind a colon, or nothing without one. -/
def valueAfter : Nat → Place → (Token → Bool) → Parsing Node
  | 0, _, _ => failure
  | fuel + 1, place, ends => do
    if ← isNext (· = .value) then
      advance
      orEmpty fuel place ends
    else return empty

/-- The items in brackets up to the closing one. A key with its value is a mapping of one entry. -/
def flowItems : Nat → Bool → Parsing (List Node)
  | 0, _ => failure
  | fuel + 1, first => do
    if ← isNext (· = .flowSequenceEnd) then
      advance
      return []
    else
      if !first then expect .comma
      match ← peek with
      | some .flowSequenceEnd =>
        advance
        return []
      | some .key =>
        advance
        let ends (t : Token) : Bool := t = .comma || t = .flowSequenceEnd
        let k ← orEmpty fuel .flow fun t => t = .value || ends t
        let v ← valueAfter fuel .flow ends
        let r ← flowItems fuel false
        return .mapping [(k, v)] :: r
      | _ =>
        let n ← node fuel .flow
        let r ← flowItems fuel false
        return n :: r

/-- The entries in braces up to the closing one. -/
def flowEntries : Nat → Bool → Parsing (List (Node × Node))
  | 0, _ => failure
  | fuel + 1, first => do
    if ← isNext (· = .flowMappingEnd) then
      advance
      return []
    else
      if !first then expect .comma
      match ← peek with
      | some .flowMappingEnd =>
        advance
        return []
      | some .key =>
        advance
        let ends (t : Token) : Bool := t = .comma || t = .flowMappingEnd
        let k ← orEmpty fuel .flow fun t => t = .value || ends t
        let v ← valueAfter fuel .flow ends
        let r ← flowEntries fuel false
        return (k, v) :: r
      | _ =>
        let k ← node fuel .flow
        let r ← flowEntries fuel false
        return (k, empty) :: r

end

/-- The document at the beginning of the tokens. -/
def document (fuel : Nat) (tokens : List Token) : Parsing Node := do
  let directives := (tokens.takeWhile (· = .directive)).length
  set { (← get) with tokens := tokens.drop directives }
  let explicit ← isNext (· = .documentStart)
  if explicit then advance
  else if directives ≠ 0 then failure
  let n ←
    match ← peek with
    | none => pure empty
    | some .documentEnd | some .documentStart | some .directive =>
      if explicit then pure empty else failure
    | some _ => node fuel .block
  modify fun st => { st with tokens := st.tokens.dropWhile (· = .documentEnd) }
  return n

end Parsing

/-- The document of a text; no document is the same as one with nothing in it. -/
def ofText? (t : Text) : Option Node := do
  let tokens ← Token.ofText? t
  if tokens.isEmpty then pure empty
  else
    let (n, st) ← (Parsing.document (4 * tokens.length + 8) tokens).run ⟨[], []⟩
    if st.tokens.isEmpty then pure n else none

end Node

end UploadTemplate.Yaml
