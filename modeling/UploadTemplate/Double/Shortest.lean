import UploadTemplate.Double
import UploadTemplate.Text.Numeral

/-!
# The shortest decimal of a double

The fewest digits that still round to the given double and no other; of two such numbers the one
nearer to it, of two equally near the even one. `Double.write` sets them positionally as long as
the decimal point lies within the digits or near them, and with an exponent otherwise.
-/

namespace UploadTemplate

/-- The decimal number `digits * 10 ^ exponent`. -/
structure Decimal where
  digits : Nat
  exponent : Int
  deriving DecidableEq, Repr

namespace Magnitude

/-- The greatest power of ten not above `num / den`, searched for upwards from `from`. -/
def decimalExponent (num den : Nat) : Nat → Int → Int
  | 0, k => k
  | fuel + 1, k =>
    if den * Nat.pow 10 (k + 1).toNat ≤ num * Nat.pow 10 (-(k + 1)).toNat then
      decimalExponent num den fuel (k + 1)
    else k

/-- Whether a decimal rounds to the double. The bounds of the interval lie halfway to its
neighbours and belong to it if the mantissa is even. -/
def roundsTo (x : Magnitude) (d : Decimal) : Bool :=
  let lowStep : Nat := if x.mantissa = Nat.pow 2 52 ∧ leastExponent < x.exponent then 1 else 2
  let low := 4 * x.mantissa - lowStep
  let high := 4 * x.mantissa + 2
  let e := x.exponent - 2
  -- `d` against `b * 2 ^ e`, both sides brought to natural numbers
  let left := d.digits * Nat.pow 10 d.exponent.toNat * Nat.pow 2 (-e).toNat
  let right (b : Nat) := b * Nat.pow 2 e.toNat * Nat.pow 10 (-d.exponent).toNat
  if x.mantissa % 2 = 0 then right low ≤ left && left ≤ right high
  else right low < left && left < right high

/-- The decimals with `count` digits on both sides of the double that round to it, the better one
if both do. -/
def onGrid (x : Magnitude) (top : Int) (count : Nat) : Option Decimal :=
  let (num, den) := x.ratio
  let k : Int := top - count + 1
  let n := num * Nat.pow 10 (-k).toNat
  let d := den * Nat.pow 10 k.toNat
  let below : Decimal := ⟨n / d, k⟩
  let above : Decimal := ⟨n / d + 1, k⟩
  match x.roundsTo below, x.roundsTo above with
  | true, true =>
    let r := n % d
    some (if 2 * r < d ∨ (2 * r = d ∧ below.digits % 2 = 0) then below else above)
  | true, false => some below
  | false, true => some above
  | false, false => none

/-- The shortest decimal that rounds to a double other than zero. -/
def shortest (x : Magnitude) : Decimal :=
  let (num, den) := x.ratio
  let guess : Int := ((Nat.log2 num : Int) - Nat.log2 den - 1) * 30103 / 100000 - 2
  let top := decimalExponent num den 8 guess
  ((List.range 17).findSome? fun i => x.onGrid top (i + 1)).getD ⟨num / den, 0⟩

end Magnitude

namespace Double

/-- Without trailing zeros. -/
def stripZeros : Nat → Decimal → Decimal
  | 0, d => d
  | fuel + 1, d =>
    if d.digits ≠ 0 ∧ d.digits % 10 = 0 then stripZeros fuel ⟨d.digits / 10, d.exponent + 1⟩ else d

/-- The text of a decimal: positional if at most sixteen digits stand before the point, or none
and at most four zeros right after it; with an exponent otherwise. -/
def writeDecimal (d : Decimal) : Text :=
  let ds := Numeral.decimal d.digits
  let point : Int := ds.length + d.exponent
  if 0 ≤ d.exponent ∧ point ≤ 16 then
    ds ++ List.replicate d.exponent.toNat '0' ++ ".0"
  else if 0 < point ∧ point ≤ 16 then
    ds.take point.toNat ++ '.' :: ds.drop point.toNat
  else if -5 < point ∧ point ≤ 0 then
    "0." ++ List.replicate (-point).toNat '0' ++ ds
  else
    let mantissa := match ds with
      | first :: [] => [first]
      | first :: rest => first :: '.' :: rest
      | [] => []
    let e := point - 1
    let sign : Text := if e < 0 then "-" else "+"
    mantissa ++ 'e' :: sign ++ Numeral.decimal e.natAbs

/-- The text of a double. -/
def write (x : Double) : Text :=
  let sign : Text := if x.negative then "-" else ""
  if x.magnitude.isZero then sign ++ "0.0"
  else sign ++ writeDecimal (stripZeros 20 x.magnitude.shortest)

end Double

end UploadTemplate
