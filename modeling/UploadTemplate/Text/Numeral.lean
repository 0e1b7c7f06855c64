import UploadTemplate.Text

/-!
# Numerals

Natural numbers written positionally over an alphabet of digits, and decimal numbers read back
under an upper bound.
-/

namespace UploadTemplate.Numeral

/-- The digits of `n` in `base`, the most significant first; a base below two has no numerals
but the number itself. -/
def digits (base n : Nat) : List Nat :=
  if _h : base < 2 ∨ n < base then [n]
  else digits base (n / base) ++ [n % base]
termination_by n
decreasing_by
  have : 2 ≤ base := by omega
  exact Nat.div_lt_self (by omega) (by omega)

/-- The value of a list of digits. -/
def value (base : Nat) (ds : List Nat) : Nat := ds.foldl (fun v d => v * base + d) 0

theorem value_append_singleton (base : Nat) (ds : List Nat) (d : Nat) :
    value base (ds ++ [d]) = value base ds * base + d := by
  simp [value]

theorem value_digits (base n : Nat) : value base (digits base n) = n := by
  induction n using Nat.strongRecOn with
  | ind n ih =>
    rw [digits]
    split
    · simp [value]
    · rename_i h
      have hb : 2 ≤ base := by omega
      have hlt : n / base < n := Nat.div_lt_self (by omega) (by omega)
      rw [value_append_singleton, ih _ hlt, Nat.mul_comm]
      exact Nat.div_add_mod n base

def decimalDigit (d : Nat) : Char := Char.ofNat (48 + d)

/-- The decimal numeral of a natural number, without leading zeros. -/
def decimal (n : Nat) : Text := (digits 10 n).map decimalDigit

/-- The decimal numeral of an integer. -/
def signed : Int → Text
  | .ofNat n => decimal n
  | .negSucc n => '-' :: decimal (n + 1)

/-- At least `width` characters, filled up with zeros on the left. -/
def padZeros (width : Nat) (t : Text) : Text := List.replicate (width - t.length) '0' ++ t

/-- A natural number in at least `width` decimal digits. -/
def padded (width n : Nat) : Text := padZeros width (decimal n)

/-! ### Reading -/

def decimalValue (t : Text) : Nat := value 10 (t.map fun c => c.toNat - 48)

/-- A decimal number of at most `limit`: digits, with one plus sign before them if any. -/
def read (limit : Nat) (t : Text) : Option Nat :=
  let ds := match t with
    | '+' :: r => r
    | _ => t
  if ds.isEmpty || !ds.all Text.isAsciiDigit then none
  else
    let n := decimalValue ds
    if n ≤ limit then some n else none

/-- The largest number of sixty-four bits. -/
def max64 : Nat := Nat.pow 2 64 - 1

def hexValue (c : Char) : Option Nat :=
  if '0' ≤ c ∧ c ≤ '9' then some (c.toNat - 48)
  else if 'a' ≤ c ∧ c ≤ 'f' then some (c.toNat - 87)
  else if 'A' ≤ c ∧ c ≤ 'F' then some (c.toNat - 55)
  else none

def lowerHexDigit (d : Nat) : Char := if d < 10 then Char.ofNat (48 + d) else Char.ofNat (87 + d)

def upperHexDigit (d : Nat) : Char := if d < 10 then Char.ofNat (48 + d) else Char.ofNat (55 + d)

end UploadTemplate.Numeral
