import UploadTemplate.Text.Percent

/-!
# Percent coding and back

What is percent-coded decodes to itself. It has no characters but the unreserved ones and percent
signs, so it can stand between marks of a URL without being taken for one.

- `Percent.decode_encode`: decoding undoes encoding.
- `Percent.isReserved`: the characters that percent coding never writes.
- `Percent.filter_encode`: an encoded text has none of them.
-/

namespace UploadTemplate.Percent

/-! ### Digits -/

theorem hexValue_upperHexDigit {d : Nat} (h : d < 16) :
    Numeral.hexValue (Numeral.upperHexDigit d) = some d := by
  revert d
  decide

theorem isUnreserved_upperHexDigit {d : Nat} (h : d < 16) :
    isUnreserved (Numeral.upperHexDigit d) = true := by
  revert d
  decide

theorem nibble_lt (b : UInt8) : b.toNat / 16 < 16 ∧ b.toNat % 16 < 16 := by
  have hb : b.toNat < 256 := b.toNat_lt
  omega

/-! ### Decoding -/

theorem byte?_escape (b : UInt8) :
    byte? (Numeral.upperHexDigit (b.toNat / 16)) (Numeral.upperHexDigit (b.toNat % 16)) =
      some b := by
  obtain ⟨hhi, hlo⟩ := nibble_lt b
  have hb : 16 * (b.toNat / 16) + b.toNat % 16 = b.toNat := Nat.div_add_mod _ _
  rw [byte?, hexValue_upperHexDigit hhi, hexValue_upperHexDigit hlo]
  exact congrArg some (by rw [hb, UInt8.ofNat_toNat])

theorem decodeBytes_escape (b : UInt8) (r : Text) :
    decodeBytes (escape b ++ r) = b :: decodeBytes r := by
  simp only [escape, List.cons_append, List.nil_append]
  rw [decodeBytes, byte?_escape]

theorem decodeBytes_escapes (bytes : Bytes) (r : Text) :
    decodeBytes (bytes.flatMap escape ++ r) = bytes ++ decodeBytes r := by
  induction bytes with
  | nil => rfl
  | cons b bytes ih =>
    rw [List.flatMap_cons, List.append_assoc, decodeBytes_escape, ih, List.cons_append]

theorem decodeBytes_plain {c : Char} (h : c ≠ '%') (r : Text) :
    decodeBytes (c :: r) = String.utf8EncodeChar c ++ decodeBytes r := by
  rw [decodeBytes]
  intro _ _ _ e
  exact absurd e h

theorem decodeBytes_encodeChar (c : Char) (r : Text) :
    decodeBytes (encodeChar c ++ r) = String.utf8EncodeChar c ++ decodeBytes r := by
  unfold encodeChar
  split
  · rename_i hc
    have hne : c ≠ '%' := by
      rintro rfl
      cases hc
    exact decodeBytes_plain hne r
  · exact decodeBytes_escapes _ r

theorem decodeBytes_encode (t : Text) : decodeBytes (encode t) = Utf8.encode t := by
  induction t with
  | nil => rfl
  | cons c t ih =>
    have hcons : encode (c :: t) = encodeChar c ++ encode t := List.flatMap_cons
    rw [hcons, decodeBytes_encodeChar, ih]
    exact List.flatMap_cons.symm

theorem decode_encode (t : Text) : decode (encode t) = t := by
  rw [decode, decodeBytes_encode, Utf8.decode_encode, Option.getD_some]

/-- A text without percent signs is not percent-coded. -/
theorem decodeBytes_of_no_percent {t : Text} (h : '%' ∉ t) : decodeBytes t = Utf8.encode t := by
  induction t with
  | nil => rfl
  | cons c t ih =>
    obtain ⟨hc, ht⟩ := not_or.1 (mt List.mem_cons.2 h)
    rw [decodeBytes_plain (Ne.symm hc), ih ht]
    exact List.flatMap_cons.symm

theorem decode_of_decodeBytes {t w : Text} (h : decodeBytes t = Utf8.encode w) : decode t = w := by
  rw [decode, h, Utf8.decode_encode, Option.getD_some]

theorem decode_of_no_percent {t : Text} (h : '%' ∉ t) : decode t = t :=
  decode_of_decodeBytes (decodeBytes_of_no_percent h)

/-! ### The characters of encoded text -/

/-- What percent coding never writes: characters that may be marks of a URL. -/
def isReserved (c : Char) : Bool := !(isUnreserved c || c = '%')

/-- Letters, digits, four marks and the percent sign. -/
theorem mem_alphabet_of_not_isReserved {c : Char} (h : isReserved c = false) :
    Text.isAsciiAlphanumeric c = true ∨ c ∈ ['-', '_', '.', '~', '%'] := by
  simp only [isReserved, isUnreserved, Bool.not_eq_false', Bool.or_eq_true,
    decide_eq_true_eq] at h
  simp only [List.mem_cons, List.not_mem_nil, or_false]
  rcases h with ((((h | h) | h) | h) | h) | h <;> simp [h]

theorem isReserved_of_mem_escape {b : UInt8} {c : Char} (h : c ∈ escape b) :
    isReserved c = false := by
  obtain ⟨hhi, hlo⟩ := nibble_lt b
  simp only [escape, List.mem_cons, List.not_mem_nil, or_false] at h
  rcases h with rfl | rfl | rfl
  · rfl
  · simp [isReserved, isUnreserved_upperHexDigit hhi]
  · simp [isReserved, isUnreserved_upperHexDigit hlo]

theorem isReserved_of_mem_encode {t : Text} {c : Char} (h : c ∈ encode t) :
    isReserved c = false := by
  obtain ⟨d, -, hc⟩ := List.mem_flatMap.1 h
  unfold encodeChar at hc
  split at hc
  · rename_i hd
    rw [List.mem_singleton.1 hc]
    simp [isReserved, hd]
  · obtain ⟨b, -, hb⟩ := List.mem_flatMap.1 hc
    exact isReserved_of_mem_escape hb

theorem filter_encode (t : Text) : (encode t).filter isReserved = [] :=
  List.filter_eq_nil_iff.2 fun _ h => by simp [isReserved_of_mem_encode h]

end UploadTemplate.Percent
