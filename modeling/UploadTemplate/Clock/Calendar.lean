import UploadTemplate.Text.Numeral

/-!
# The calendar

Days are counted from the first of January 1970; the Gregorian calendar holds for all years.
-/

namespace UploadTemplate.Clock

structure Date where
  year : Int
  month : Nat
  day : Nat
  deriving DecidableEq, Repr

/-- The date of a day. Years are taken to begin in March, so that the day that leap years add
comes last; they repeat after 146097 days. -/
def dateOfDay (n : Int) : Date :=
  let z := n + 719468
  let era := z / 146097
  let doe := (z % 146097).toNat
  let yoe := (doe - doe / 1460 + doe / 36524 - doe / 146096) / 365
  let doy := doe - (365 * yoe + yoe / 4 - yoe / 100)
  let mp := (5 * doy + 2) / 153
  let month := if mp < 10 then mp + 3 else mp - 9
  let year : Int := yoe + era * 400
  ⟨if month ≤ 2 then year + 1 else year, month, doy - (153 * mp + 2) / 5 + 1⟩

/-- The day of a date. -/
def dayOfDate (d : Date) : Int :=
  let y := if d.month ≤ 2 then d.year - 1 else d.year
  let era := y / 400
  let yoe := (y % 400).toNat
  let mp := if 2 < d.month then d.month - 3 else d.month + 9
  let doy := (153 * mp + 2) / 5 + d.day - 1
  let doe := yoe * 365 + yoe / 4 - yoe / 100 + doy
  era * 146097 + (doe : Int) - 719468

/-- The weekday of a day, from Sunday as zero. -/
def weekday (n : Int) : Nat := ((n + 4) % 7).toNat

/-- The number of the week of a day: weeks begin on Mondays, and the first week of a year is the
one with its first Thursday. -/
def weekOfYear (n : Int) : Nat :=
  let thursday := n - ((weekday n + 6) % 7 : Nat) + 3
  let year := (dateOfDay thursday).year
  ((thursday - dayOfDate ⟨year, 1, 1⟩) / 7).toNat + 1

def monthNames : List Text :=
  ["January", "February", "March", "April", "May", "June", "July", "August", "September",
    "October", "November", "December"]

def weekdayNames : List Text :=
  ["Sunday", "Monday", "Tuesday", "Wednesday", "Thursday", "Friday", "Saturday"]

/-- The day of the `week`-th given weekday of a month; the fifth is the last one. -/
def dayInMonth (year : Int) (month week day : Nat) : Int :=
  let first := dayOfDate ⟨year, month, 1⟩
  let next := dayOfDate (if month = 12 then ⟨year + 1, 1, 1⟩ else ⟨year, month + 1, 1⟩)
  let n := first + ((day + 7 - weekday first) % 7 : Nat) + 7 * ((week : Int) - 1)
  if n < next then n else n - 7

end UploadTemplate.Clock
