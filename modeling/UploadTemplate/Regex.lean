import UploadTemplate.Regex.Program
import UploadTemplate.Regex.Size

/-!
# Regular expressions

- `Regex.compile`: the pattern that a text describes, or why it describes none.
- `Regex.captures`: the groups of the leftmost match, where alternatives are preferred in the
  order in which they are written.
-/

namespace UploadTemplate

structure Regex where
  program : Regex.Program
  /-- The number of groups, the whole match not counted. -/
  groups : Nat
  names : List (Text × Nat)

namespace Regex

def compile (t : Text) : Except Fault Regex := do
  let p ← Pattern.read t
  let (node, _) ← p.tree.toNode .standard
  if Node.sizeLimit < node.size then throw ⟨.tooBig, ⟨.start, .start⟩, none⟩
  return ⟨node.program, p.groups, p.names⟩

/-- The groups of a match: the whole match first, and nothing for a group that took no part. -/
abbrev Captures := List (Option Text)

/-- The text between two places. -/
def slice (t : Text) (first last : Nat) : Text := (t.drop first).take (last - first)

def captures (r : Regex) (t : Text) : Option Captures :=
  let count := r.groups + 1
  (search r.program (Array.replicate (2 * count) none) t 0 none).map fun slots =>
    (List.range count).map fun i =>
      match slots.getD (2 * i) none, slots.getD (2 * i + 1) none with
      | some a, some b => some (slice t a b)
      | _, _ => none

/-- The text of the group with a name. -/
def named (r : Regex) (found : Captures) (name : Text) : Option Text :=
  (r.names.lookup name).bind fun i => (found[i]?).join

end Regex

end UploadTemplate
