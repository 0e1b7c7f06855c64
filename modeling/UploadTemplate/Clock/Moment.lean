import UploadTemplate.Clock.Zone

/-!
# Moments

A moment is a count of seconds since the beginning of 1970 with a fraction of a second, and the
offset under which it was told. A leap second is the second before it with a fraction above one.
-/

namespace UploadTemplate.Clock

structure Moment where
  seconds : Int
  nanos : Nat
  offset : Int
  deriving DecidableEq, Repr

/-- What a clock on the wall shows. -/
structure Reading where
  year : Int
  month : Nat
  day : Nat
  hour : Nat
  minute : Nat
  second : Nat
  milli : Nat
  weekday : Nat
  week : Nat
  deriving DecidableEq, Repr

namespace Moment

/-- The local time in a zone, or under the moment's own offset. -/
def reading (m : Moment) (zone : Option Zone) : Reading :=
  let offset := match zone with
    | some z => z.offsetAt m.seconds
    | none => m.offset
  let wall := m.seconds + offset
  let n := wall / 86400
  let time := (wall % 86400).toNat
  let date := dateOfDay n
  { year := date.year
    month := date.month
    day := date.day
    hour := time / 3600
    minute := time / 60 % 60
    second := time % 60
    milli := m.nanos / 1000000 % 1000
    weekday := weekday n
    week := weekOfYear n }

/-- The first nine digits of a fraction as a count of billionths. -/
def nanosOf (digits : Text) : Nat :=
  Numeral.decimalValue ((digits ++ List.replicate 9 '0').take 9)

def number? (width : Nat) (t : Text) : Option (Nat × Text) :=
  let ds := t.take width
  if ds.length = width ∧ ds.all Text.isAsciiDigit then
    some (Numeral.decimalValue ds, t.drop width)
  else none

def sign? : Text → Option (Int × Text)
  | '+' :: r => some (1, r)
  | '-' :: r => some (-1, r)
  | '−' :: r => some (-1, r)
  | _ => none

def skip? (c : Char) : Text → Option Text
  | d :: r => if c = d then some r else none
  | [] => none

def daysIn (year : Int) (month : Nat) : Int :=
  dayOfDate (if month = 12 then ⟨year + 1, 1, 1⟩ else ⟨year, month + 1, 1⟩) -
    dayOfDate ⟨year, month, 1⟩

/-- The moment that a date, a time and an offset name, in the form `2024-03-05T14:07:09.5+01:00`. -/
def read? (t : Text) : Option Moment := do
  let (year, t) ← number? 4 t
  let (month, t) ← number? 2 (← skip? '-' t)
  let (day, t) ← number? 2 (← skip? '-' t)
  let t ← match t with
    | c :: r => if c = 'T' ∨ c = 't' ∨ c = ' ' then some r else none
    | [] => none
  let (hour, t) ← number? 2 t
  let (minute, t) ← number? 2 (← skip? ':' t)
  let (second, t) ← number? 2 (← skip? ':' t)
  let (nanos, t) := match t with
    | '.' :: r => (nanosOf (r.takeWhile Text.isAsciiDigit), r.dropWhile Text.isAsciiDigit)
    | _ => (0, t)
  let offset ← match t with
    | ['Z'] | ['z'] => some 0
    | _ => do
      let (sign, t) ← sign? t
      let (h, t) ← number? 2 t
      let (m, t) ← number? 2 (← skip? ':' t)
      if t.isEmpty ∧ h < 24 ∧ m < 60 then some (sign * (3600 * h + 60 * m : Nat)) else none
  if 1 ≤ month ∧ month ≤ 12 ∧ 1 ≤ day ∧ (day : Int) ≤ daysIn year month ∧ hour < 24 ∧
      minute < 60 ∧ second ≤ 60 then
    let n := dayOfDate ⟨year, month, day⟩
    let leap := second = 60
    some ⟨n * 86400 + (3600 * hour + 60 * minute + (if leap then 59 else second) : Nat) - offset,
      if leap then nanos + 1000000000 else nanos, offset⟩
  else none

end Moment

end UploadTemplate.Clock
