import UploadTemplate.Text.Numeral

/-!
# Punycode

A label with characters outside ASCII as ASCII: first its ASCII characters, then, for each of the
others in ascending order, how far its place lies from the place of the one before. A distance is
a numeral with the least significant digit first; its digits have thresholds that adapt to the
distances seen so far, and a digit below its threshold is the last.

- `Punycode.encode`, `Punycode.decode?`: between a label and its ASCII form without `xn--`.
-/

namespace UploadTemplate.Url.Punycode

/-- The threshold of the digit of weight number `k`. -/
def threshold (bias k : Nat) : Nat := max 1 (min 26 (k - bias))

theorem one_le_threshold (bias k : Nat) : 1 ≤ threshold bias k := by
  simp only [threshold]; omega

/-- Divides until at most 455 is left; with the weight numbers that the divisions are worth. -/
def shrink (n k : Nat) : Nat × Nat :=
  if 455 < n then shrink (n / 35) (k + 36) else (n, k)
termination_by n
decreasing_by exact Nat.div_lt_self (by omega) (by omega)

/-- The bias after a distance, with the number of characters that are in place after it. -/
def adapt (distance count : Nat) (first : Bool) : Nat :=
  let n := if first then distance / 700 else distance / 2
  let (n, k) := shrink (n + n / count) 0
  k + 36 * n / (n + 38)

def digitChar (d : Nat) : Char := if d < 26 then Char.ofNat (97 + d) else Char.ofNat (22 + d)

def digitValue? (c : Char) : Option Nat :=
  if 'a' ≤ c ∧ c ≤ 'z' then some (c.toNat - 97)
  else if 'A' ≤ c ∧ c ≤ 'Z' then some (c.toNat - 65)
  else if '0' ≤ c ∧ c ≤ '9' then some (c.toNat - 22)
  else none

/-- The digits of a distance from weight number `k` on. -/
def digits (bias k n : Nat) : Text :=
  let t := threshold bias k
  if n < t then [digitChar n]
  else digitChar (t + (n - t) % (36 - t)) :: digits bias (k + 36) ((n - t) / (36 - t))
termination_by n
decreasing_by
  have h := one_le_threshold bias k
  have : (n - threshold bias k) / (36 - threshold bias k) ≤ n - threshold bias k :=
    Nat.div_le_self _ _
  omega

/-- Where the next character can be put: the least code point and place that are left, the number
of characters in place, the bias, and whether none but ASCII characters are in place. -/
structure Progress where
  code : Nat
  place : Nat
  count : Nat
  bias : Nat
  first : Bool

def start (asciiCount : Nat) : Progress := ⟨128, 0, asciiCount, 72, true⟩

/-- After a character has been put in a place that lies at a distance. -/
def Progress.next (p : Progress) (code place distance : Nat) : Progress :=
  ⟨code, place + 1, p.count + 1, adapt distance (p.count + 1) p.first, false⟩

/-- The characters outside ASCII with the number of those before each that are not greater.
`before` holds what stands before the text. -/
def insertions (before : Text) : Text → List (Char × Nat)
  | [] => []
  | c :: r =>
    let rest := insertions (c :: before) r
    if Text.isAscii c then rest else (c, (before.filter fun b => b ≤ c).length) :: rest

def encodeFrom (p : Progress) : List (Char × Nat) → Text
  | [] => []
  | (c, place) :: r =>
    let distance := (c.toNat - p.code) * (p.count + 1) + place - p.place
    digits p.bias 36 distance ++ encodeFrom (p.next c.toNat place distance) r

/-- The ASCII form of a label. -/
def encode (t : Text) : Text :=
  let ascii := t.filter Text.isAscii
  let others := (insertions [] t).mergeSort fun a b => a.1 ≤ b.1
  ascii ++ (if ascii.isEmpty then [] else ['-']) ++ encodeFrom (start ascii.length) others

/-- Reads characters on: the label so far, the digits of the current distance with the weight and
the weight number of the next one. -/
def decodeFrom (p : Progress) (label : Text) (distance weight k : Nat) : Text → Option Text
  | [] => if k = 36 then some label else none
  | c :: r =>
    match digitValue? c with
    | none => none
    | some d =>
      let distance := distance + d * weight
      let t := threshold p.bias k
      if d < t then
        let sum := p.place + distance
        let code := p.code + sum / (p.count + 1)
        let place := sum % (p.count + 1)
        if code.isValidChar then
          decodeFrom (p.next code place distance) (label.insertIdx place (Char.ofNat code)) 0 1 36 r
        else none
      else decodeFrom p label distance (weight * (36 - t)) (k + 36) r

/-- The label with an ASCII form; the last hyphen ends its ASCII characters. -/
def decode? (t : Text) : Option Text :=
  let tail := (t.reverse.takeWhile (· != '-')).reverse
  let ascii := t.take (t.length - tail.length - 1)
  if ascii.all Text.isAscii then decodeFrom (start ascii.length) ascii 0 1 36 tail else none

end UploadTemplate.Url.Punycode
