import UploadTemplate.Unicode.Category
import UploadTemplate.Unicode.Folding
import UploadTemplate.Unicode.Word

/-!
# Character sets of patterns

Sets of characters as the code points at which membership changes, with the operations of
character classes.
-/

namespace UploadTemplate.Regex

open UploadTemplate.Unicode

abbrev CharSet := Ranges

namespace CharSet

def nothing : CharSet := #[]

def any : CharSet := #[0, 0x110000]

/-- The characters from `a` to `b`. -/
def range (a b : Char) : CharSet := #[a.toNat, b.toNat + 1]

def single (c : Char) : CharSet := range c c

/-- Merges the changes of two sets; a code point is kept if it changes the combined membership. -/
def mergeFrom (op : Bool → Bool → Bool) : Nat → List Nat → List Nat → Bool → Bool → Bool → List Nat
  | 0, _, _, _, _, _ => []
  | fuel + 1, a, b, inA, inB, inside =>
    let go (n : Nat) (a b : List Nat) (inA inB : Bool) : List Nat :=
      if op inA inB = inside then mergeFrom op fuel a b inA inB inside
      else n :: mergeFrom op fuel a b inA inB (op inA inB)
    match a, b with
    | [], [] => []
    | x :: r, [] => go x r [] (!inA) inB
    | [], y :: s => go y [] s inA (!inB)
    | x :: r, y :: s =>
      if x < y then go x r (y :: s) (!inA) inB
      else if y < x then go y (x :: r) s inA (!inB)
      else go x r s (!inA) (!inB)

/-- The set of the characters whose memberships in two sets combine to true; those in neither set
are outside. -/
def combine (op : Bool → Bool → Bool) (a b : CharSet) : CharSet :=
  (mergeFrom op (a.size + b.size + 1) a.toList b.toList false false false).toArray

def union (a b : CharSet) : CharSet := combine (· || ·) a b

def inter (a b : CharSet) : CharSet := combine (· && ·) a b

def diff (a b : CharSet) : CharSet := combine (fun x y => x && !y) a b

def symmDiff (a b : CharSet) : CharSet := combine (· != ·) a b

def compl (a : CharSet) : CharSet := diff any a

def ofChars (cs : List Nat) : CharSet :=
  cs.foldl (fun s n => union s #[n, n + 1]) nothing

/-- Whether all members are ASCII. -/
def isAscii (a : CharSet) : Bool := a.all (· ≤ 128)

/-- The set with all characters that differ from a member only in case. -/
def fold (a : CharSet) : CharSet :=
  let missing := foldLeast.filter fun n =>
    let group := groupOf n
    group.any a.containsCode && !group.all a.containsCode
  union a (ofChars (missing.flatMap groupOf))

/-- The set with both cases of its ASCII letters. -/
def foldAscii (a : CharSet) : CharSet :=
  let letters := (List.range 26).flatMap fun i =>
    if a.containsCode (65 + i) || a.containsCode (97 + i) then [65 + i, 97 + i] else []
  union a (ofChars letters)

def digit : CharSet := ofCategories ["Nd"]

/-- The characters of white space. -/
def space : CharSet :=
  #[9, 14, 0x20, 0x21, 0x85, 0x86, 0xA0, 0xA1, 0x1680, 0x1681, 0x2000, 0x200B, 0x2028, 0x202A,
    0x202F, 0x2030, 0x205F, 0x2060, 0x3000, 0x3001]

def asciiDigit : CharSet := range '0' '9'

def asciiSpace : CharSet := #[9, 14, 32, 33]

def asciiWord : CharSet :=
  union asciiDigit (union (range 'a' 'z') (union (range 'A' 'Z') (single '_')))

end CharSet

end UploadTemplate.Regex
