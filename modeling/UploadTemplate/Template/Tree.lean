import UploadTemplate.Template.Marks

/-!
# Template trees

A template is a list of pieces: literal characters and calls, where the name and the parameters
of a call are templates again. Reading is one pass over the text with the open calls on a stack;
it never looks at what a call gives. Evaluation is left to right, the calls inside a name before
those inside the parameters, and the call itself last.

- `Template.ofText`: the tree of a text. Every text has one: what is open at the end is closed
  there, and the text ends at the first closing mark or separator outside every call.
- `Template.span`: reading from inside a text, with the rest that was not read.
- `Template.eval`: the text of a tree, given what its calls do.
-/

namespace UploadTemplate

/-- A literal character, or a call with its name and parameters. -/
inductive Piece where
  | char (c : Char)
  | call (name : List Piece) (parameters : List (List Piece))
  deriving Repr

abbrev Template := List Piece

namespace Template

/-! ### Reading -/

/-- A span of text that is being read. The pieces that it has so far, and the parameters before
the current one, stand newest first. -/
inductive Frame where
  /-- Plain text. -/
  | text (pieces : Template)
  /-- The name of a call. -/
  | name (pieces : Template)
  /-- A parameter of a call. -/
  | parameter (name : Template) (before : List Template) (pieces : Template)

namespace Frame

def push (p : Piece) : Frame → Frame
  | .text ps => .text (p :: ps)
  | .name ps => .name (p :: ps)
  | .parameter n before ps => .parameter n before (p :: ps)

/-- What a span comes to when it ends, newest first: its pieces, or the one call that it is. -/
def pieces : Frame → Template
  | .text ps => ps
  | .name ps => [.call ps.reverse []]
  | .parameter n before ps => [.call n (before.reverse ++ [ps.reverse])]

/-- The frame after the end of a span inside it. -/
def absorb (inner outer : Frame) : Frame := inner.pieces.foldr push outer

end Frame

/-- The innermost span that is being read, and those around it. -/
structure Reading where
  inner : Frame
  outer : List Frame

namespace Reading

def push (p : Piece) (st : Reading) : Reading := { st with inner := st.inner.push p }

/-- Begins a call. -/
def openCall (st : Reading) : Reading := ⟨.name [], st.inner :: st.outer⟩

/-- Ends the innermost span; `none` if it is the only one. -/
def close? : Reading → Option Reading
  | ⟨_, []⟩ => none
  | ⟨inner, outer :: rest⟩ => some ⟨inner.absorb outer, rest⟩

/-- A separator begins the next parameter, or ends any other span. -/
def separate? (st : Reading) : Option Reading :=
  match st.inner with
  | .parameter n before ps => some { st with inner := .parameter n (ps.reverse :: before) [] }
  | _ => st.close?

/-- An argument mark ends the name of a call; elsewhere it is a character. -/
def argument (mark : Char) (st : Reading) : Reading :=
  match st.inner with
  | .name ps => { st with inner := .parameter ps.reverse [] [] }
  | _ => st.push (.char mark)

/-- Ends all spans that are open. -/
def finish (st : Reading) : Template :=
  (st.outer.foldl (fun inner outer => inner.absorb outer) st.inner).pieces.reverse

end Reading

/-- Reads up to the mark that ends the outermost span, which is the first character of the rest,
or else up to the end of the text. -/
def readFrom (m : Marks) (st : Reading) : Text → Reading × Text
  | [] => (st, [])
  | c :: r =>
    if c = m.escape then
      match r with
      | [] => (st, [])
      | d :: r => readFrom m (st.push (.char d)) r
    else if c = m.opening then readFrom m st.openCall r
    else if c = m.closing then
      match st.close? with
      | some st => readFrom m st r
      | none => (st, c :: r)
    else if c = m.separator then
      match st.separate? with
      | some st => readFrom m st r
      | none => (st, c :: r)
    else if c = m.argument then readFrom m (st.argument c) r
    else readFrom m (st.push (.char c)) r

/-- How a span begins: as plain text, or as the name of a call. -/
inductive SpanKind where
  | text
  | name
  deriving DecidableEq, Repr

def SpanKind.start : SpanKind → Reading
  | .text => ⟨.text [], []⟩
  | .name => ⟨.name [], []⟩

/-- The pieces of the span at the beginning of a text, and the text from its end on. -/
def span (m : Marks) (kind : SpanKind) (t : Text) : Template × Text :=
  let (st, rest) := readFrom m kind.start t
  (st.finish, rest)

/-- The tree of a template text. -/
def ofText (m : Marks) (t : Text) : Template := (span m .text t).1

/-! ### Evaluation -/

mutual

/-- The text of a piece, where `call` gives the text of a call. -/
def evalPiece {m : Type → Type} [Monad m] (call : Text → List Text → m Text) : Piece → m Text
  | .char c => pure [c]
  | .call name parameters => do
    let name ← eval call name
    let parameters ← evalAll call parameters
    call name parameters

/-- The text of a template, its pieces from left to right. -/
def eval {m : Type → Type} [Monad m] (call : Text → List Text → m Text) : List Piece → m Text
  | [] => pure []
  | p :: r => do
    let first ← evalPiece call p
    let rest ← eval call r
    pure (first ++ rest)

/-- The texts of several templates, from left to right. -/
def evalAll {m : Type → Type} [Monad m] (call : Text → List Text → m Text) :
    List (List Piece) → m (List Text)
  | [] => pure []
  | t :: r => do
    let first ← eval call t
    let rest ← evalAll call r
    pure (first :: rest)

end

/-- The text that a template text stands for. -/
def expand {m : Type → Type} [Monad m] (marks : Marks) (call : Text → List Text → m Text)
    (t : Text) : m Text :=
  eval call (ofText marks t)

end Template

end UploadTemplate
