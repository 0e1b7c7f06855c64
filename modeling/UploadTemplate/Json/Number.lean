import UploadTemplate.Json.Value
import UploadTemplate.Text.Numeral

/-!
# The value of a JSON number

A number without fraction and exponent is an integer as long as it fits into sixty-four bits. Any
other number becomes a double: as many leading digits as fit into an unsigned integer of
sixty-four bits are taken, rounded to a double and scaled by a power of ten, which is rounded too.
A negative zero is a double.
-/

namespace UploadTemplate.Json.Number

/-- The parts of a number: its sign, the digits before and after the point, the exponent. -/
structure Parts where
  negative : Bool
  whole : List Nat
  /-- Empty if there is no point. -/
  fraction : List Nat
  /-- The sign and the digits of an exponent, if there is one. -/
  exponent : Option (Bool × List Nat)
  deriving Repr

def digitsOf (t : Text) : List Nat := t.map fun c => c.toNat - 48

/-- The parts of a well-formed number. -/
def partsOf (t : Text) : Parts :=
  let (negative, t) := match t with
    | '-' :: r => (true, r)
    | _ => (false, t)
  let whole := t.takeWhile Text.isAsciiDigit
  let t := t.dropWhile Text.isAsciiDigit
  let (fraction, t) := match t with
    | '.' :: r => (r.takeWhile Text.isAsciiDigit, r.dropWhile Text.isAsciiDigit)
    | _ => ([], t)
  let exponent := match t with
    | _ :: '-' :: r => some (true, digitsOf r)
    | _ :: '+' :: r => some (false, digitsOf r)
    | _ :: r => some (false, digitsOf r)
    | [] => none
  ⟨negative, digitsOf whole, digitsOf fraction, exponent⟩

/-- Appends digits to a number as long as it stays within sixty-four bits; the second result
counts those that did not fit. -/
def takeDigits (n : Nat) : List Nat → Nat × Nat
  | [] => (n, 0)
  | d :: r =>
    if n * 10 + d ≤ Numeral.max64 then takeDigits (n * 10 + d) r else (n, r.length + 1)

/-- The number of exponent digits read when the exponent leaves thirty-two bits, if it does. -/
def exponentOverflow (e : Nat) (count : Nat) : List Nat → Option Nat
  | [] => none
  | d :: r =>
    if e * 10 + d ≤ 2147483647 then exponentOverflow (e * 10 + d) (count + 1) r
    else some (count + 1)

/-- Scales a double by a power of ten, in steps that doubles can express. -/
def scale : Nat → Magnitude → Int → Option Magnitude
  | 0, x, _ => some x
  | fuel + 1, x, e =>
    if e.natAbs ≤ 308 then do
      let power ← Magnitude.nearest (Nat.pow 10 e.natAbs) 1
      if 0 ≤ e then x.mul power else x.div power
    else if x.isZero then some x
    else if 0 ≤ e then none
    else do
      let power ← Magnitude.nearest (Nat.pow 10 308) 1
      let y ← x.div power
      scale fuel y (e + 308)

/-- The double nearest to a natural number, scaled by a power of ten. -/
def ofScaled (n : Nat) (e : Int) : Option Magnitude := do
  let x ← Magnitude.nearest n 1
  scale 16 x e

/-- The value of a well-formed number, or how many of its characters had been read when it
turned out to be too large. -/
def ofText (t : Text) : Except Nat Number :=
  let p := partsOf t
  let (n, dropped) := takeDigits 0 p.whole
  let (m, left) := takeDigits n p.fraction
  let power : Int := dropped - ((p.fraction.length : Int) - left)
  let float (x : Magnitude) : Except Nat Number := .ok (.float ⟨p.negative, x⟩)
  match p.exponent with
  | none =>
    if p.fraction.isEmpty ∧ dropped = 0 ∧ ¬(p.negative ∧ (n = 0 ∨ Nat.pow 2 63 < n)) then
      .ok (.int (if p.negative then -(n : Int) else n))
    else
      match ofScaled m power with
      | some x => float x
      | none => .error t.length
  | some (down, ds) =>
    match exponentOverflow 0 0 ds with
    | some count =>
      if m ≠ 0 ∧ ¬down then .error (t.length - ds.length + count) else float .zero
    | none =>
      let e : Int := Numeral.value 10 ds
      match ofScaled m (if down then power - e else power + e) with
      | some x => float x
      | none => .error t.length

end UploadTemplate.Json.Number
