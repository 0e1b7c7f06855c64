import UploadTemplate.Naming.Sanitize
import UploadTemplate.Proofs.Text.PercentCut

/-!
# The form of a text in a URL

What cannot stand in a URL is percent-coded, and everything else is kept, percent signs with it. A
percent sign of the text is followed in the form by the two hexadecimal digits that follow it in the
text, or by no two such digits: an escape that is put in begins with a percent sign, which is none.
So the form stands for the bytes that the text stands for.

- `Percent.leadingByte?`: the byte that the digits behind a percent sign name.
- `sanitizeUrl_eq_self`: a text of URL characters is its own form.
- `leadingByte?_sanitizeUrl`, `decodeBytes_sanitizeUrl_eq`: the form has the digits and the bytes of
  the text.
- `sanitizeUrl_stable`: the form of any text.
-/

namespace UploadTemplate

/-! ### Escapes -/

namespace Percent

/-- The byte that the first two characters of a text name. -/
def leadingByte? : Text → Option UInt8
  | hi :: lo :: _ => byte? hi lo
  | _ => none

theorem leadingByte?_eq_some {t : Text} {b : UInt8} (h : leadingByte? t = some b) :
    ∃ hi lo r, t = hi :: lo :: r ∧ byte? hi lo = some b := by
  match t, h with
  | hi :: lo :: r, h => exact ⟨hi, lo, r, rfl, h⟩

theorem leadingByte?_of_first {c : Char} (h : Numeral.hexValue c = none) (t : Text) :
    leadingByte? (c :: t) = none := by
  cases t with
  | nil => rfl
  | cons d t => rw [leadingByte?, byte?, h]; rfl

theorem leadingByte?_of_second {c : Char} (h : Numeral.hexValue c = none) (hi : Char) (t : Text) :
    leadingByte? (hi :: c :: t) = none := by
  rw [leadingByte?, byte?, h]
  cases Numeral.hexValue hi <;> rfl

/-- A percent sign without two digits behind it stands for itself. -/
theorem decodeBytes_stray {r : Text} (h : leadingByte? r = none) :
    decodeBytes ('%' :: r) = String.utf8EncodeChar '%' ++ decodeBytes r := by
  match r, h with
  | [], _ => rfl
  | [_], _ => rfl
  | hi :: lo :: r, h =>
    have hb : byte? hi lo = none := h
    rw [decodeBytes, hb]

end Percent

namespace Naming

open Percent

variable {t : Text}

/-! ### Characters -/

theorem sanitizeUrl_cons (c : Char) (t : Text) :
    sanitizeUrl (c :: t) = (if isUrlChar c then [c] else encodeChar c) ++ sanitizeUrl t :=
  List.flatMap_cons

theorem isUrlChar_of_not_isReserved {c : Char} (h : isReserved c = false) :
    isUrlChar c = true := by
  have hmarks : ['-', '_', '.', '~', '%'].all isUrlChar = true := by decide +kernel
  rcases mem_alphabet_of_not_isReserved h with h | h
  · rw [isUrlChar, h, Bool.true_or]
  · exact List.all_eq_true.1 hmarks c h

theorem isUrlChar_of_mem_encodeChar {c d : Char} (h : d ∈ encodeChar c) : isUrlChar d = true := by
  have hd : d ∈ encode [c] := List.mem_flatMap.2 ⟨c, List.mem_singleton_self c, h⟩
  exact isUrlChar_of_not_isReserved (isReserved_of_mem_encode hd)

theorem isUrlChar_of_hexValue {c : Char} (h : (Numeral.hexValue c).isSome = true) :
    isUrlChar c = true := by
  have hc : Text.isAsciiAlphanumeric c = true := by
    simp only [Text.isAsciiAlphanumeric, Text.isAsciiLetter, Text.isAsciiDigit, Bool.or_eq_true,
      Bool.and_eq_true, decide_eq_true_eq]
    unfold Numeral.hexValue at h
    split at h
    · exact .inr ‹_›
    split at h
    · rename_i hlower
      exact .inl (.inl ⟨hlower.1, Char.le_trans hlower.2 (by decide)⟩)
    split at h
    · rename_i hupper
      exact .inl (.inr ⟨hupper.1, Char.le_trans hupper.2 (by decide)⟩)
    · cases h
  rw [isUrlChar, hc, Bool.true_or]

theorem isAscii_of_isUrlChar {c : Char} (h : isUrlChar c = true) : Text.isAscii c = true := by
  have hmarks : "-._~:/?#[]@!$&'()*+,;=%".toList.all Text.isAscii = true := by decide +kernel
  rw [isUrlChar, Bool.or_eq_true, List.contains_iff_mem] at h
  rcases h with h | h
  · simp only [Text.isAsciiAlphanumeric, Text.isAsciiLetter, Text.isAsciiDigit, Bool.or_eq_true,
      Bool.and_eq_true, decide_eq_true_eq] at h
    have hle : c ≤ 'z' := by
      rcases h with (h | h) | h <;> exact Char.le_trans h.2 (by decide)
    have hz : c.toNat ≤ 'z'.toNat := UInt32.le_iff_toNat_le.1 hle
    exact decide_eq_true (Nat.lt_of_le_of_lt hz (by decide))
  · exact List.all_eq_true.1 hmarks c h

theorem isUrlChar_of_mem_sanitizeUrl {c : Char} (h : c ∈ sanitizeUrl t) : isUrlChar c = true := by
  obtain ⟨d, -, hc⟩ := List.mem_flatMap.1 h
  split at hc
  · rename_i hd
    rwa [List.mem_singleton.1 hc]
  · exact isUrlChar_of_mem_encodeChar hc

theorem sanitizeUrl_eq_self (h : ∀ c ∈ t, isUrlChar c = true) : sanitizeUrl t = t := by
  induction t with
  | nil => rfl
  | cons c t ih =>
    obtain ⟨hc, ht⟩ := List.forall_mem_cons.1 h
    rw [sanitizeUrl_cons, if_pos hc, ih ht, List.singleton_append]

/-! ### Bytes -/

theorem sanitizeUrl_of_isUrlChar {c : Char} (h : isUrlChar c = true) (t : Text) :
    sanitizeUrl (c :: t) = c :: sanitizeUrl t := by
  rw [sanitizeUrl_cons, if_pos h, List.singleton_append]

/-- What is put in for a character begins with a percent sign. -/
theorem exists_sanitizeUrl_of_not_isUrlChar {c : Char} (h : isUrlChar c = false) (t : Text) :
    ∃ w, sanitizeUrl (c :: t) = '%' :: w := by
  have hc : isUnreserved c = false := by
    cases hu : isUnreserved c with
    | false => rfl
    | true =>
      rw [isUrlChar_of_not_isReserved (by rw [isReserved, hu]; rfl)] at h
      cases h
  obtain ⟨b, bytes, hbytes⟩ := List.exists_cons_of_ne_nil (String.utf8EncodeChar_ne_nil (c := c))
  have hform : sanitizeUrl (c :: t) = escape b ++ bytes.flatMap escape ++ sanitizeUrl t := by
    rw [sanitizeUrl_cons, if_neg (by simp [h]), encodeChar, if_neg (by simp [hc]), hbytes,
      List.flatMap_cons]
  exact ⟨_, hform⟩

/-- The form begins with two hexadecimal digits if the text does, and with the same ones. -/
theorem leadingByte?_sanitizeUrl (t : Text) : leadingByte? (sanitizeUrl t) = leadingByte? t := by
  have hnone {c : Char} (h : isUrlChar c = false) : Numeral.hexValue c = none := by
    cases hv : Numeral.hexValue c with
    | none => rfl
    | some v =>
      rw [isUrlChar_of_hexValue (by rw [hv]; rfl)] at h
      cases h
  have hpercent : Numeral.hexValue '%' = none := by decide
  -- where the form differs from the text both have no digit
  cases t with
  | nil => rfl
  | cons hi t =>
    cases hhi : isUrlChar hi with
    | false =>
      obtain ⟨w, hw⟩ := exists_sanitizeUrl_of_not_isUrlChar hhi t
      rw [hw, leadingByte?_of_first hpercent, leadingByte?_of_first (hnone hhi)]
    | true =>
      rw [sanitizeUrl_of_isUrlChar hhi]
      cases t with
      | nil => rfl
      | cons lo t =>
        cases hlo : isUrlChar lo with
        | false =>
          obtain ⟨w, hw⟩ := exists_sanitizeUrl_of_not_isUrlChar hlo t
          rw [hw, leadingByte?_of_second hpercent, leadingByte?_of_second (hnone hlo)]
        | true =>
          rw [sanitizeUrl_of_isUrlChar hlo]
          rfl

theorem decodeBytes_sanitizeUrl_eq (t : Text) :
    decodeBytes (sanitizeUrl t) = decodeBytes t := by
  induction hn : t.length using Nat.strongRecOn generalizing t with
  | ind n ih =>
    cases t with
    | nil => rfl
    | cons c r =>
      have hr : decodeBytes (sanitizeUrl r) = decodeBytes r :=
        ih r.length (by rw [← hn]; exact Nat.lt_succ_self _) r rfl
      by_cases hc : c = '%'
      · subst hc
        rw [sanitizeUrl_of_isUrlChar (by decide)]
        cases hb : leadingByte? r with
        | none => rw [decodeBytes_stray (leadingByte?_sanitizeUrl r ▸ hb), decodeBytes_stray hb, hr]
        | some b =>
          -- the escape of the text is kept, and the form goes on behind it
          obtain ⟨hi, lo, r, rfl, hb⟩ := leadingByte?_eq_some hb
          have hdigits := hexValue_of_byte? (Option.isSome_iff_exists.2 ⟨b, hb⟩)
          rw [sanitizeUrl_of_isUrlChar (isUrlChar_of_hexValue hdigits.1),
            sanitizeUrl_of_isUrlChar (isUrlChar_of_hexValue hdigits.2), decodeBytes_escaped hb,
            decodeBytes_escaped hb, ih r.length (by simp [← hn]; omega) r rfl]
      · rw [sanitizeUrl_cons, decodeBytes_plain hc, ← hr]
        split
        · exact decodeBytes_plain hc _
        · exact decodeBytes_encodeChar c _

/-- The form of a text has only ASCII characters and is its own form. It stands for the bytes that
the text stands for, whatever follows the percent signs of the text. -/
theorem sanitizeUrl_stable (t : Text) :
    (∀ c ∈ sanitizeUrl t, Text.isAscii c = true) ∧ sanitizeUrl (sanitizeUrl t) = sanitizeUrl t ∧
      decodeBytes (sanitizeUrl t) = decodeBytes t :=
  ⟨fun _ hc => isAscii_of_isUrlChar (isUrlChar_of_mem_sanitizeUrl hc),
    sanitizeUrl_eq_self fun _ => isUrlChar_of_mem_sanitizeUrl, decodeBytes_sanitizeUrl_eq t⟩

/-- Percent signs before what is encoded, before a digit that is alone, and before two of them. -/
example : sanitizeUrl "%é%4 %41" = "%%C3%A9%4%20%41".toList := by decide +kernel

end Naming

end UploadTemplate
