import UploadTemplate.Draws
import UploadTemplate.Text.Numeral

/-!
# Alphabets

The characters that counters and random texts are made of. The first characters of an alphabet
are the digits of its numerals.
-/

namespace UploadTemplate.Naming

def numbers : Text := "0123456789"

/-- Digits and letters, the upper-case letters first. -/
def alphanumeric : Text := "0123456789ABCDEFGHIJKLMNOPQRSTUVWXYZabcdefghijklmnopqrstuvwxyz"

/-- Digits and letters, the lower-case letters first. -/
def alphanumericInverse : Text := "0123456789abcdefghijklmnopqrstuvwxyzABCDEFGHIJKLMNOPQRSTUVWXYZ"

/-- Digits and letters that are not taken for one another. -/
def nonAmbiguous : Text := "ABCDEFGHJKLMNPQRSTUVWXYZabcdefghijkmnopqrstuvwxyz23456789"

def hexadecimal : Text := "0123456789abcdef"

def hexadecimalUpper : Text := "0123456789ABCDEF"

/-- Widths and counts are cut off here. -/
def lengthLimit : Nat := 1024

/-- The numeral of `n` in a base, with the first characters of an alphabet as digits. -/
def toBase (n base : Nat) (alphabet : Text) : Text :=
  (Numeral.digits base n).map fun d => alphabet.getD d '0'

/-- A numeral with zeros before it up to a width. -/
def pad (width : Nat) (t : Text) : Text := Numeral.padZeros (min width lengthLimit) t

/-- The numeral of a counter, at least `width` characters wide. -/
def numeral (n base : Nat) (alphabet : Text) (width : Nat) : Text :=
  pad width (toBase n base alphabet)

/-- A text of random characters of an alphabet. -/
def randomChars (alphabet : Text) : Nat → Draws → Text × Draws
  | 0, d => ([], d)
  | count + 1, d =>
    let (i, d) := d.pick alphabet.length
    let (rest, d) := randomChars alphabet count d
    (alphabet.getD i '0' :: rest, d)

/-- Random bytes. -/
def randomBytes : Nat → Draws → List Nat × Draws
  | 0, d => ([], d)
  | count + 1, d =>
    let (b, d) := d.pick 256
    let (rest, d) := randomBytes count d
    (b :: rest, d)

/-- The written form of sixteen random bytes, of which six bits tell that they are random. -/
def guidText (bytes : List Nat) : Text :=
  let byte (i : Nat) : Text :=
    let b := bytes.getD i 0
    let b := if i = 6 then 0x40 + b % 16 else if i = 8 then 0x80 + b % 64 else b
    [Numeral.lowerHexDigit (b / 16), Numeral.lowerHexDigit (b % 16)]
  let part (first count : Nat) : Text := (List.range count).flatMap fun i => byte (first + i)
  part 0 4 ++ '-' :: part 4 2 ++ '-' :: part 6 2 ++ '-' :: part 8 2 ++ '-' :: part 10 6

end UploadTemplate.Naming
