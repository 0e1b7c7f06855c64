import UploadTemplate.Clock.Calendar
import UploadTemplate.Clock.ZoneTable

/-!
# Offsets of time zones

A zone gives the offset of local time from universal time at every moment. The yearly rules are
followed up to the year 2099; after that the last offset stays.
-/

namespace UploadTemplate.Clock

structure Zone where
  /-- The offset before all changes, in seconds. -/
  first : Int
  /-- The moments of change and the offsets from then on, in order of time. -/
  changes : List (Int × Int)
  deriving DecidableEq, Repr

namespace Zone

/-- The offset at a moment. -/
def offsetAt (z : Zone) (seconds : Int) : Int :=
  z.changes.foldl (fun offset c => if c.1 ≤ seconds then c.2 else offset) z.first

/-- The value of a digit in base thirty-six. -/
def digit36 (c : Char) : Nat := if Text.isAsciiDigit c then c.toNat - 48 else c.toNat - 87

/-- Reads the changes of a written zone. -/
def readChanges (offsets : List Int) : Int → Int → Nat → Text → List (Int × Int)
  | _, _, _, [] => []
  | last, unit, n, c :: r =>
    if c = '.' then readChanges offsets last 1 n r
    else if 'A' ≤ c ∧ c ≤ 'Z' then
      let moment := last + unit * n
      (moment, offsets.getD (c.toNat - 65) 0) :: readChanges offsets moment 1800 0 r
    else readChanges offsets last unit (36 * n + digit36 c) r

def readInt (t : Text) : Int :=
  match t with
  | '-' :: r => -(Numeral.decimalValue r : Int)
  | _ => Numeral.decimalValue t

/-- The changes of one year by a rule. -/
def yearly (rule : List Int) (year : Int) : List (Int × Int) :=
  match rule with
  | [standard, summer, m, w, d, t, m', w', d', t'] =>
    let begins :=
      (dayInMonth year m.toNat w.toNat d.toNat * 86400 + t - standard, summer)
    let ends :=
      (dayInMonth year m'.toNat w'.toNat d'.toNat * 86400 + t' - summer, standard)
    if begins.1 < ends.1 then [begins, ends] else [ends, begins]
  | _ => []

/-- The moment from which the written changes are counted. -/
def origin : Int := -4000000000

def ofWritten (t : Text) : Zone :=
  match Text.split ';' t with
  | [offsets, changes, rule] =>
    let offsets := (Text.split ' ' offsets).map readInt
    let changes := readChanges offsets origin 1800 0 changes
    let later := match (Text.split ' ' rule).map readInt with
      | first :: rule@(_ :: _) =>
        (List.range (2100 - first.toNat)).flatMap fun (i : Nat) => yearly rule (first + (i : Int))
      | _ => []
    ⟨offsets.headD 0, changes ++ later⟩
  | _ => ⟨0, []⟩

/-- The zone with a name, which counts as it is written. -/
def named? (name : Text) : Option Zone :=
  if ' ' ∈ name then none
  else
    (zoneTable.find? fun e => (Text.split ' ' e.1.toList).contains name).map fun e =>
      ofWritten e.2.toList

end Zone

end UploadTemplate.Clock
