import UploadTemplate.Naming.Namer

/-!
# The values of date and time

Whatever a clock shows, the tokens of date and time give digits, names and signs: never nothing,
and never a percent sign.

- `Clock.month_dateOfDay_le`, `Clock.weekday_lt`: months and weekdays have names.
- `Namer.dateValues_isInert`: what these tokens give cannot become part of a counter.
-/

namespace UploadTemplate

/-! ### Numerals -/

namespace Numeral

theorem digits_ne_nil (base n : Nat) : digits base n ≠ [] := by
  rw [digits]
  split <;> simp

theorem digits_lt {base : Nat} (hb : 2 ≤ base) (n : Nat) : ∀ d ∈ digits base n, d < base := by
  induction n using Nat.strongRecOn with
  | ind n ih =>
    intro d hd
    rw [digits] at hd
    split at hd
    · rename_i h
      rw [List.mem_singleton] at hd
      omega
    · rename_i h
      rcases List.mem_append.1 hd with hd | hd
      · exact ih _ (Nat.div_lt_self (by omega) hb) d hd
      · rw [List.mem_singleton.1 hd]
        exact Nat.mod_lt _ (by omega)

theorem head?_digits {base n : Nat} (hb : 2 ≤ base) (hn : 0 < n) :
    (digits base n).head? ≠ some 0 := by
  induction n using Nat.strongRecOn with
  | ind n ih =>
    rw [digits]
    split
    · simpa using Nat.ne_of_gt hn
    · rename_i h
      have hq : 0 < n / base := Nat.div_pos (by omega) (by omega)
      have hfirst := ih (n / base) (Nat.div_lt_self hn hb) hq
      obtain ⟨d, ds, hds⟩ := List.exists_cons_of_ne_nil (digits_ne_nil base (n / base))
      rw [hds] at hfirst ⊢
      exact hfirst

theorem isAsciiDigit_decimalDigit {d : Nat} (h : d < 10) :
    Text.isAsciiDigit (decimalDigit d) = true := by
  revert d
  decide

theorem decimal_ne_nil (n : Nat) : decimal n ≠ [] := by
  unfold decimal
  simpa using digits_ne_nil 10 n

theorem isAsciiDigit_of_mem_decimal {n : Nat} {c : Char} (h : c ∈ decimal n) :
    Text.isAsciiDigit c = true := by
  obtain ⟨d, hd, rfl⟩ := List.mem_map.1 h
  exact isAsciiDigit_decimalDigit (digits_lt (by decide) n d hd)

end Numeral

/-! ### The clock -/

namespace Clock

theorem month_dateOfDay_le (n : Int) : (dateOfDay n).month ≤ 12 := by
  simp only [dateOfDay]
  have hdoe : ((n + 719468) % 146097).toNat < 146097 := by omega
  generalize ((n + 719468) % 146097).toNat = doe at hdoe
  generalize hyoe : (doe - doe / 1460 + doe / 36524 - doe / 146096) / 365 = yoe
  -- a year has at most 366 days; far more would still leave the month below thirteen
  have hdoy : doe - (365 * yoe + yoe / 4 - yoe / 100) ≤ 600 := by omega
  split <;> omega

theorem weekday_lt (n : Int) : weekday n < 7 := by
  unfold weekday
  omega

theorem Moment.month_reading_le (m : Moment) (zone : Option Zone) : (m.reading zone).month ≤ 12 :=
  month_dateOfDay_le _

theorem Moment.weekday_reading_lt (m : Moment) (zone : Option Zone) :
    (m.reading zone).weekday < 7 :=
  weekday_lt _

theorem Moment.hour_reading_lt (m : Moment) (zone : Option Zone) : (m.reading zone).hour < 24 := by
  simp only [reading]
  omega

end Clock

/-! ### Inert texts -/

/-- A text that has no percent sign, is not empty and does not begin with the letter of the
counters. Whatever stands before it or after it, it is no part of a counter. -/
def Naming.IsInert (t : Text) : Prop := '%' ∉ t ∧ ∃ c r, t = c :: r ∧ c ≠ 'i'

instance (t : Text) : Decidable (Naming.IsInert t) :=
  decidable_of_iff ('%' ∉ t ∧ t ≠ [] ∧ t.head? ≠ some 'i') <| by
    unfold Naming.IsInert
    cases t <;> simp

namespace Naming

theorem isInert_of_digits {t : Text} (hn : t ≠ []) (h : ∀ c ∈ t, Text.isAsciiDigit c = true) :
    IsInert t := by
  obtain ⟨c, r, rfl⟩ := List.exists_cons_of_ne_nil hn
  refine ⟨fun hm => ?_, c, r, rfl, ?_⟩
  · cases h '%' hm
  · rintro rfl
    cases h 'i' List.mem_cons_self

theorem isInert_padded (width n : Nat) : IsInert (Numeral.padded width n) := by
  refine isInert_of_digits ?_ fun c hc => ?_
  · simp [Numeral.padded, Numeral.padZeros, Numeral.decimal_ne_nil]
  · rcases List.mem_append.1 hc with hc | hc
    · rw [(List.mem_replicate.1 hc).2]
      rfl
    · exact Numeral.isAsciiDigit_of_mem_decimal hc

theorem isInert_signed (n : Int) : IsInert (Numeral.signed n) := by
  have hdecimal (n : Nat) : IsInert (Numeral.decimal n) :=
    isInert_of_digits (Numeral.decimal_ne_nil n) fun _ => Numeral.isAsciiDigit_of_mem_decimal
  cases n with
  | ofNat n => exact hdecimal n
  | negSucc n =>
    refine ⟨fun hm => ?_, '-', _, rfl, by decide⟩
    rcases List.mem_cons.1 hm with hm | hm
    · cases hm
    · exact (hdecimal (n + 1)).1 hm

end Naming

theorem Namer.dateValues_isInert (n : Namer) (pattern : Text) (counter : Nat) :
    ∀ v ∈ dateValues (n.shared pattern counter), Naming.IsInert v.2 := by
  have hmonth : ∀ i < 12, Naming.IsInert (Clock.monthNames.getD i []) := by decide
  have hweekday : ∀ i < 7, Naming.IsInert (Clock.weekdayNames.getD i []) := by decide
  have hm : (n.shared pattern counter).reading.month - 1 < 12 := by
    have hle : (n.shared pattern counter).reading.month ≤ 12 := Clock.Moment.month_reading_le _ _
    omega
  have hw : (n.shared pattern counter).reading.weekday < 7 := Clock.Moment.weekday_reading_lt _ _
  unfold dateValues
  simp only [List.forall_mem_cons, Naming.isInert_padded, Naming.isInert_signed, true_and]
  refine ⟨hmonth _ hm, hmonth _ hm, hweekday _ hw, hweekday _ hw, ?_, fun _ h => by cases h⟩
  split <;> decide

end UploadTemplate
