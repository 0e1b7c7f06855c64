import UploadTemplate.Text.Numeral

/-!
# Sets of characters

A set of characters as the ascending list of the code points at which membership changes: the
code points below the first are outside, those from the first on inside up to the second, and so
on. The written form gives the distances between these code points in hexadecimal digits.
-/

namespace UploadTemplate.Unicode

/-- The ascending code points at which membership in a set changes. -/
abbrev Ranges := Array Nat

namespace Ranges

/-- Reads the distances of a written set. -/
def ofDistances (t : Text) : Ranges :=
  let close (st : Array Nat × Nat × Nat) : Array Nat × Nat × Nat :=
    (st.1.push (st.2.1 + st.2.2), st.2.1 + st.2.2, 0)
  (close (t.foldl (fun st c =>
    match Numeral.hexValue c with
    | some d => (st.1, st.2.1, st.2.2 * 16 + d)
    | none => close st) (#[], 0, 0))).1

/-- How many of the entries between `low` and `high` are at most `n`, counted with those before
`low`. -/
def countUpTo (r : Ranges) (n : Nat) : Nat → Nat → Nat → Nat
  | 0, low, _ => low
  | fuel + 1, low, high =>
    if high ≤ low then low
    else
      let middle := (low + high) / 2
      if r.getD middle 0 ≤ n then countUpTo r n fuel (middle + 1) high
      else countUpTo r n fuel low middle

def containsCode (r : Ranges) (n : Nat) : Bool := countUpTo r n 32 0 r.size % 2 = 1

def contains (r : Ranges) (c : Char) : Bool := r.containsCode c.toNat

end Ranges

end UploadTemplate.Unicode
