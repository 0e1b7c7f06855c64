import UploadTemplate.Unicode.Ranges

/-!
# Properties with named values

A partition of all code points into runs, written one after the other as the length of the run in
lower-case hexadecimal digits and the name of its value. A name begins with a capital letter and
has only letters that are not digits of a length, or has a fixed number of letters.
-/

namespace UploadTemplate.Unicode

/-- A run of code points with one value: its first code point and the name of the value. -/
abbrev Runs := List (Nat × Text)

namespace Runs

/-- Reads written runs whose names have `width` letters, from a code point on. -/
def readFrom (width : Nat) : Nat → Nat → Nat → Text → Text → Runs
  | _, _, _, _, [] => []
  | from_, length, 0, _, c :: r =>
    match if Text.isAsciiDigit c || ('a' ≤ c && c ≤ 'f') then Numeral.hexValue c else none with
    | some d => readFrom width from_ (16 * length + d) 0 [] r
    | none => readFrom width from_ length 1 [c] r
  | from_, length, seen + 1, name, c :: r =>
    if seen + 2 = width then
      (from_, (c :: name).reverse) :: readFrom width (from_ + length) 0 0 [] r
    else readFrom width from_ length (seen + 2) (c :: name) r

def read (width : Nat) (t : String) : Runs := readFrom width 0 0 0 [] t.toList

/-- The code points whose value has one of the given names. -/
def toRanges (names : List Text) (runs : Runs) : Ranges :=
  (runs.foldl (fun (acc : Array Nat × Bool) run =>
    let inside := names.contains run.2
    if inside = acc.2 then acc else (acc.1.push run.1, inside)) (#[], false)).1

end Runs

end UploadTemplate.Unicode
