import UploadTemplate.Regex.Node

/-!
# Sizes of patterns

The room that a pattern takes once it is laid out as tests of UTF-8 bytes. Repetitions are counted
and not laid out, so the size of a pattern is known before its program is made.

- `Node.size`: the room in bytes, which is an estimate for sets beyond ASCII.
-/

namespace UploadTemplate.Regex

/-- The room of one test. -/
def testSize : Nat := 32

/-- The room of a set. Beyond ASCII a range of characters takes about two tests and two entries in
a list, and a set that goes on to the last character some more. -/
def CharSet.size (s : CharSet) : Nat :=
  let ranges := Array.size s / 2
  if s.isAscii then testSize + (if ranges ≤ 1 then 0 else 8 * ranges)
  else 64 + 62 * ranges + (if s.back? = some 0x110000 then 20 * testSize else 0)

namespace Node

/-- The room of a choice between a number of ways. -/
def choiceSize (ways : Nat) : Nat := testSize + 4 * ways

mutual

def size : Node → Nat
  | .empty | .look .. => testSize
  | .set s => s.size
  | .capture _ n => 2 * testSize + size n
  | .repetition least most _ n =>
    match most with
    | some most => least * size n + (most - least) * (choiceSize 2 + size n)
    | none => (if least = 0 then 1 else least) * size n + choiceSize 2
  | .concat parts => sizeAll parts
  | .alternation parts => choiceSize parts.length + sizeAll parts + testSize

def sizeAll : List Node → Nat
  | [] => 0
  | n :: r => size n + sizeAll r

end

/-- The greatest room that a pattern may take. -/
def sizeLimit : Nat := 10485760

end Node

end UploadTemplate.Regex
