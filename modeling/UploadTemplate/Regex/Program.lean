import UploadTemplate.Regex.Node

/-!
# Matching

A pattern is compiled to a program of tests, jumps and preferences. A run keeps all threads that
are still possible, in the order in which they are preferred, so the first match found under that
order wins; of all matches the one that begins leftmost is taken.
-/

namespace UploadTemplate.Regex

inductive Inst where
  /-- Passes a character of the set. -/
  | test (s : CharSet)
  /-- Goes on at both places, rather at the first. -/
  | split (first second : Nat)
  | jump (target : Nat)
  /-- Notes the current place. -/
  | save (slot : Nat)
  | look (l : Look) (unicode : Bool)
  | accept

abbrev Program := Array Inst

namespace Node

mutual

/-- Whether every match takes at least one character. -/
def isProper : Node → Bool
  | .empty | .look .. => false
  | .set s => !s.isEmpty
  | .capture _ n => n.isProper
  | .repetition least _ _ n => least != 0 && n.isProper
  | .concat parts => anyProper parts
  | .alternation parts => allProper parts

def anyProper : List Node → Bool
  | [] => false
  | n :: r => n.isProper || anyProper r

def allProper : List Node → Bool
  | [] => true
  | n :: r => n.isProper && allProper r

end

/-- A split that goes rather into the loop if it is greedy. -/
def choose (greedy : Bool) (into past : Nat) : Inst :=
  if greedy then .split into past else .split past into

/-- `count` copies of a code that is laid out at `start`. -/
def copies (code : Nat → List Inst) : Nat → Nat → List Inst
  | 0, _ => []
  | count + 1, start =>
    let first := code start
    first ++ copies code count (start + first.length)

/-- At most `count` further copies, each entered only after the one before; all leave at `past`. -/
def optional (code : Nat → List Inst) (greedy : Bool) (past : Nat) : Nat → Nat → List Inst
  | 0, _ => []
  | count + 1, start =>
    let body := code (start + 1)
    choose greedy (start + 1) past :: body ++
      optional code greedy past count (start + 1 + body.length)

/-- A loop that runs at least once. -/
def loop (code : Nat → List Inst) (greedy : Bool) (start : Nat) : List Inst :=
  let body := code start
  let back := start + body.length
  body ++ [choose greedy start (back + 1)]

mutual

/-- The code of a node, laid out from address `start`. -/
def code : Node → Nat → List Inst
  | .empty, _ => []
  | .set s, _ => [.test s]
  | .look l unicode, _ => [.look l unicode]
  | .capture index n, start =>
    .save (2 * index) :: code n (start + 1) ++ [.save (2 * index + 1)]
  | .repetition least most greedy n, start =>
    match most with
    | some most =>
      let required := copies (code n) least start
      let next := start + required.length
      let width := (optional (code n) greedy 0 (most - least) next).length
      required ++ optional (code n) greedy (next + width) (most - least) next
    | none =>
      if least = 0 then
        if n.isProper then
          let body := code n (start + 1)
          let past := start + body.length + 2
          choose greedy (start + 1) past :: body ++ [.jump start]
        else
          let body := loop (code n) greedy (start + 1)
          choose greedy (start + 1) (start + 1 + body.length) :: body
      else
        let required := copies (code n) (least - 1) start
        required ++ loop (code n) greedy (start + required.length)
  | .concat parts, start => codeAll parts start
  | .alternation parts, start =>
    let past := start + branchesLength parts
    branches past parts start

def codeAll : List Node → Nat → List Inst
  | [], _ => []
  | n :: r, start =>
    let first := code n start
    first ++ codeAll r (start + first.length)

/-- The length of the code of branches. -/
def branchesLength : List Node → Nat
  | [] => 0
  | n :: r => (code n 0).length + (if r.isEmpty then 0 else 2 + branchesLength r)

/-- The code of branches, all of which leave at `past`. -/
def branches (past : Nat) : List Node → Nat → List Inst
  | [], _ => []
  | n :: r, start =>
    if r.isEmpty then code n start
    else
      let body := code n (start + 1)
      let next := start + body.length + 2
      .split (start + 1) next :: body ++ .jump past :: branches past r next

end

/-- The program of a whole pattern, which notes the beginning and the end of the match. -/
def program (n : Node) : Program :=
  (Inst.save 0 :: n.code 1 ++ [Inst.save 1, Inst.accept]).toArray

end Node

/-! ### Runs -/

/-- A place in a text: what stands before and after it. -/
structure Spot where
  index : Nat
  before : Option Char
  rest : Text

namespace Spot

/-- Whether the characters before and after the place belong to words. -/
def wordSides (s : Spot) (unicode : Bool) : Bool × Bool :=
  let word := CharSet.ofPerl unicode .word
  (s.before.any word.contains, s.rest.head?.any word.contains)

def holds (s : Spot) (unicode : Bool) : Look → Bool
  | .startText => s.before.isNone
  | .endText => s.rest.isEmpty
  | .startLine => s.before.isNone || s.before = some '\n'
  | .endLine => s.rest.isEmpty || s.rest.head? = some '\n'
  | .startLineCrlf =>
    s.before.isNone || s.before = some '\n' ||
      (s.before = some '\r' && s.rest.head? != some '\n')
  | .endLineCrlf =>
    s.rest.isEmpty || s.rest.head? = some '\r' ||
      (s.rest.head? = some '\n' && s.before != some '\r')
  | .wordBoundary => let (before, after) := s.wordSides unicode; before != after
  | .notWordBoundary => let (before, after) := s.wordSides unicode; before = after
  | .wordStart => let (before, after) := s.wordSides unicode; !before && after
  | .wordEnd => let (before, after) := s.wordSides unicode; before && !after
  | .wordStartHalf => !(s.wordSides unicode).1
  | .wordEndHalf => !(s.wordSides unicode).2

end Spot

/-- The places that a thread has noted. -/
abbrev Slots := Array (Option Nat)

/-- A thread: where it stands in the program, and its notes. -/
abbrev Thread := Nat × Slots

/-- Follows the threads on the stack up to their next tests, in order of preference. Every
instruction is entered once. -/
def follow (p : Program) (s : Spot) :
    Nat → List Thread → Array Bool → List Thread → List Thread × Array Bool
  | 0, _, seen, acc => (acc, seen)
  | _, [], seen, acc => (acc, seen)
  | fuel + 1, (pc, slots) :: stack, seen, acc =>
    if seen.getD pc true then follow p s fuel stack seen acc
    else
      let seen := seen.set! pc true
      match p[pc]? with
      | none => follow p s fuel stack seen acc
      | some (.split a b) => follow p s fuel ((a, slots) :: (b, slots) :: stack) seen acc
      | some (.jump a) => follow p s fuel ((a, slots) :: stack) seen acc
      | some (.save slot) =>
        follow p s fuel ((pc + 1, slots.setIfInBounds slot (some s.index)) :: stack) seen acc
      | some (.look l unicode) =>
        if s.holds unicode l then follow p s fuel ((pc + 1, slots) :: stack) seen acc
        else follow p s fuel stack seen acc
      | some (.test _) | some .accept => follow p s fuel stack seen ((pc, slots) :: acc)

/-- The threads at a spot, in order of preference. -/
def threadsAt (p : Program) (s : Spot) (starts : List Thread) : List Thread :=
  let (acc, _) := starts.foldl
    (fun (acc, seen) t => follow p s (2 * p.size + 2) [t] seen acc)
    ([], Array.replicate p.size false)
  acc.reverse

/-- The threads that pass a character, and the notes of the first thread that accepts before it;
threads after one that accepts are dropped. -/
def advance (p : Program) (c : Option Char) :
    List Thread → List Thread × Option Slots
  | [] => ([], none)
  | (pc, slots) :: r =>
    match p[pc]? with
    | some .accept => ([], some slots)
    | some (.test set) =>
      let (next, found) := advance p c r
      if c.any set.contains then ((pc + 1, slots) :: next, found) else (next, found)
    | _ => advance p c r

/-- The notes of the preferred match of a run whose threads are waiting before `rest`. -/
def runFrom (p : Program) (best : Option Slots) :
    Text → Nat → Option Char → List Thread → Option Slots
  | [], index, before, starts =>
    let threads := threadsAt p ⟨index, before, []⟩ starts
    (advance p none threads).2.or best
  | c :: r, index, before, starts =>
    let threads := threadsAt p ⟨index, before, c :: r⟩ starts
    let (next, found) := advance p (some c) threads
    let best := found.or best
    if next.isEmpty then best else runFrom p best r (index + 1) (some c) next

/-- The notes of the leftmost match. -/
def search (p : Program) (slots : Slots) : Text → Nat → Option Char → Option Slots
  | [], index, before => runFrom p none [] index before [(0, slots)]
  | c :: r, index, before =>
    match runFrom p none (c :: r) index before [(0, slots)] with
    | some found => some found
    | none => search p slots r (index + 1) (some c)

end UploadTemplate.Regex
