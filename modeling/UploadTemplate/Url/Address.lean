import UploadTemplate.Text.Numeral

/-!
# Internet addresses

The numeric hosts of URLs: numbers of thirty-two bits, written as four bytes, and lists of eight
numbers of sixteen bits.

- `Address.short?`, `Address.writeShort`: addresses of thirty-two bits.
- `Address.long?`, `Address.writeLong`: addresses of eight groups.
-/

namespace UploadTemplate.Url.Address

/-! ### Thirty-two bits -/

/-- A number in a base, if the text has only digits of it. -/
def inBase? (base : Nat) (t : Text) : Option Nat :=
  (t.mapM fun c => (Numeral.hexValue c).filter (· < base)).map (Numeral.value base)

/-- A number of an address: hexadecimal after `0x`, octal after `0`, else decimal. -/
def number? : Text → Option Nat
  | [] => none
  | '0' :: 'x' :: r => inBase? 16 r
  | '0' :: 'X' :: r => inBase? 16 r
  | ['0'] => some 0
  | '0' :: r => inBase? 8 r
  | t => inBase? 10 t

/-- The parts of a domain; a dot at its end opens no further one. -/
def parts (domain : Text) : List Text :=
  let ps := Text.split '.' domain
  if ps.length > 1 ∧ ps.getLast? = some [] then ps.dropLast else ps

/-- Whether the last part of a domain is a number, so that the domain must be an address. -/
def isNumeric (domain : Text) : Bool :=
  match (parts domain).getLast? with
  | none => false
  | some last => (!last.isEmpty && last.all Text.isAsciiDigit) || (number? last).isSome

/-- The address that a domain stands for: the last of at most four numbers takes the bytes that the
others leave. -/
def short? (domain : Text) : Option Nat := do
  let numbers ← (parts domain).mapM number?
  let last ← numbers.getLast?
  let leading := numbers.dropLast
  if 3 < leading.length ∨ leading.any (255 < ·) ∨ Nat.pow 256 (4 - leading.length) ≤ last then none
  else
    some (leading.foldr (fun n (v, weight) => (v + n * weight, weight * 256))
      (last, Nat.pow 256 (4 - leading.length))).1

def writeShort (n : Nat) : Text :=
  List.intercalate "." ([24, 16, 8, 0].map fun shift =>
    Numeral.decimal (n / Nat.pow 2 shift % 256))

/-! ### Eight groups -/

/-- Sixteen bits as up to four hexadecimal digits. -/
def group? (t : Text) : Option Nat := if t.isEmpty ∨ 4 < t.length then none else inBase? 16 t

/-- A byte in decimal digits without leading zeros. -/
def byte? (t : Text) : Option Nat :=
  match t with
  | [] => none
  | '0' :: _ :: _ => none
  | t => (inBase? 10 t).filter (· < 256)

/-- The two groups that four bytes stand for. -/
def tail? (t : Text) : Option (List Nat) :=
  match (Text.split '.' t).mapM byte? with
  | some [a, b, c, d] => some [a * 256 + b, c * 256 + d]
  | _ => none

/-- Groups between colons, where the last may be four bytes. -/
def groups? : List Text → Option (List Nat)
  | [] => some []
  | [t] => if '.' ∈ t then tail? t else (group? t).map fun n => [n]
  | t :: r => do
    let n ← group? t
    let ns ← groups? r
    pure (n :: ns)

/-- Groups without any bytes among them. -/
def plainGroups? (t : Text) : Option (List Nat) :=
  if t.isEmpty then some [] else (Text.split ':' t).mapM group?

/-- The text before the first two colons in a row, and the text after them. -/
def splitGap : Text → Option (Text × Text)
  | ':' :: ':' :: r => some ([], r)
  | c :: r => (splitGap r).map fun p => (c :: p.1, p.2)
  | [] => none

/-- The eight groups of an address. A gap stands for at least one group of zeros. -/
def long? (t : Text) : Option (List Nat) :=
  match splitGap t with
  | none => (groups? (Text.split ':' t)).filter fun gs => gs.length = 8
  | some (a, b) => do
    let before ← plainGroups? a
    let after ← if b.isEmpty then some [] else groups? (Text.split ':' b)
    if 7 < before.length + after.length then none
    else
      pure (before ++ List.replicate (8 - before.length - after.length) 0 ++ after)

/-- The first of the longest runs of zeros in groups that begin at an index: where it begins and
how long it is. -/
def longestGap (index : Nat) : List Nat → Nat × Nat
  | [] => (index, 0)
  | g :: r =>
    let here := ((g :: r).takeWhile (· == 0)).length
    let later := longestGap (index + 1) r
    if later.2 ≤ here then (index, here) else later

def writeGroups (gs : List Nat) : Text :=
  List.intercalate ":" (gs.map fun g => (Numeral.digits 16 g).map Numeral.lowerHexDigit)

/-- An address with a gap in the place of its longest run of zeros. -/
def writeLong (gs : List Nat) : Text :=
  let (at_, length) := longestGap 0 gs
  if length < 2 then writeGroups gs
  else writeGroups (gs.take at_) ++ "::" ++ writeGroups (gs.drop (at_ + length))

end UploadTemplate.Url.Address
