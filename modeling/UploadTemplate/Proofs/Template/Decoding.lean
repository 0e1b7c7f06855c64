import UploadTemplate.Proofs.Json.Quotes
import UploadTemplate.Proofs.Json.RoundTrip
import UploadTemplate.Proofs.Text.Entity
import UploadTemplate.Proofs.Text.PercentCut
import UploadTemplate.Template.Encoding

/-!
# Reading encoded text

What a call gives is encoded for the place where it is put. An encoded text cannot end what it is
put into, as it has none of the characters that would, and there it is read as the text that was
encoded.

- `Json.insideFrom_encode`: an encoded text does not end a string literal.
- `Json.read_literal`: a literal is read as the text that was encoded.
- `Encoding.apply_invertible`: the alphabets of the encodings, and reading each of them.
-/

namespace UploadTemplate

/-! ### String literals -/

namespace Json

/-- A character that stands for itself in a literal. -/
def IsPlain (c : Char) : Prop := c ≠ '"' ∧ c ≠ '\\' ∧ 32 ≤ c.toNat

instance (c : Char) : Decidable (IsPlain c) := inferInstanceAs (Decidable (_ ∧ _ ∧ _))

theorem isPlain_lowerHexDigit {d : Nat} (h : d < 16) : IsPlain (Numeral.lowerHexDigit d) := by
  revert d
  decide

/-- An encoded character is an escape, which may go on with plain characters, or plain. -/
theorem encodeChar_cases (c : Char) :
    (∃ d w, 32 ≤ d.toNat ∧ (∀ x ∈ w, IsPlain x) ∧ Quoted.encodeChar c = '\\' :: d :: w) ∨
      IsPlain c ∧ Quoted.encodeChar c = [c] := by
  unfold Quoted.encodeChar
  split
  · exact .inl ⟨'"', [], by decide, nofun, rfl⟩
  split
  · exact .inl ⟨'\\', [], by decide, nofun, rfl⟩
  split
  · exact .inl ⟨'b', [], by decide, nofun, rfl⟩
  split
  · exact .inl ⟨'t', [], by decide, nofun, rfl⟩
  split
  · exact .inl ⟨'n', [], by decide, nofun, rfl⟩
  split
  · exact .inl ⟨'f', [], by decide, nofun, rfl⟩
  split
  · exact .inl ⟨'r', [], by decide, nofun, rfl⟩
  split
  · have hhigh := isPlain_lowerHexDigit (show c.toNat / 16 < 16 by omega)
    have hlow := isPlain_lowerHexDigit (show c.toNat % 16 < 16 by omega)
    refine .inl ⟨'u', _, by decide, ?_, rfl⟩
    simp only [List.forall_mem_cons]
    exact ⟨by decide, by decide, hhigh, hlow, nofun⟩
  · exact .inr ⟨⟨‹_›, ‹_›, by omega⟩, rfl⟩

theorem encode_cons (c : Char) (t : Text) :
    Quoted.encode (c :: t) = Quoted.encodeChar c ++ Quoted.encode t := List.flatMap_cons

theorem le_of_mem_encode {t : Text} {c : Char} (h : c ∈ Quoted.encode t) : 32 ≤ c.toNat := by
  obtain ⟨x, -, hc⟩ := List.mem_flatMap.1 h
  rcases encodeChar_cases x with ⟨d, w, hd, hw, hx⟩ | ⟨hx, hself⟩
  · rw [hx] at hc
    rcases List.mem_cons.1 hc with rfl | hc
    · decide
    · rcases List.mem_cons.1 hc with rfl | hc
      · exact hd
      · exact (hw c hc).2.2
  · rw [hself] at hc
    rw [List.mem_singleton.1 hc]
    exact hx.2.2

theorem insideFrom_plain {w : Text} (hw : ∀ x ∈ w, IsPlain x) (r : Text) :
    insideFrom false (w ++ r) = (insideFrom false r).map (w ++ ·) := by
  induction w with
  | nil => exact Option.map_id'.symm
  | cons c w ih =>
    obtain ⟨⟨hquote, hbackslash, -⟩, hw⟩ := List.forall_mem_cons.1 hw
    rw [List.cons_append, insideFrom, if_neg hquote, decide_eq_false hbackslash, ih hw,
      Option.map_map]
    rfl

theorem insideFrom_escape (d : Char) (r : Text) :
    insideFrom false ('\\' :: d :: r) = (insideFrom false r).map ('\\' :: d :: ·) := by
  rw [insideFrom, if_neg (by decide), decide_eq_true rfl, insideFrom, Option.map_map]
  rfl

/-- In a literal, the closing quotation mark comes behind an encoded text. -/
theorem insideFrom_encode (t r : Text) :
    insideFrom false (Quoted.encode t ++ r) =
      (insideFrom false r).map (Quoted.encode t ++ ·) := by
  induction t with
  | nil => exact Option.map_id'.symm
  | cons c t ih =>
    have hcons : insideFrom false (Quoted.encodeChar c ++ (Quoted.encode t ++ r)) =
        (insideFrom false (Quoted.encode t ++ r)).map (Quoted.encodeChar c ++ ·) := by
      rcases encodeChar_cases c with ⟨d, w, -, hw, hc⟩ | ⟨hplain, hself⟩
      · rw [hc, List.cons_append, List.cons_append, insideFrom_escape, insideFrom_plain hw,
          Option.map_map]
        rfl
      · rw [hself]
        exact insideFrom_plain (by simpa using hplain) _
    rw [encode_cons, List.append_assoc, hcons, ih, Option.map_map]
    exact congrArg (Option.map · _) (funext fun x => (List.append_assoc _ _ x).symm)

theorem read_literal (t : Text) : read (Quoted.literal t) = .ok (.string t) :=
  read_pretty (IsShallow.string (n := 0) t) (by decide)

end Json

/-! ### Encodings -/

namespace Percent

theorem isWhole_encode (t : Text) : IsWhole (encode t) := by
  induction t with
  | nil => exact isWhole_of_no_percent List.not_mem_nil
  | cons c t ih => exact (isWhole_encodeChar c).append ih

theorem mem_alphabet_of_mem_encode {t : Text} {c : Char} (h : c ∈ encode t) :
    Text.isAsciiAlphanumeric c = true ∨ c ∈ ['-', '_', '.', '~', '%'] :=
  mem_alphabet_of_not_isReserved (isReserved_of_mem_encode h)

end Percent

/-- Two texts are encoded one after the other. A URL takes letters, digits, four marks and escapes,
and its bytes are those of the text. A string literal goes on to the quotation mark behind it, with
no control characters, and is read as the text. In XML there are none of the special characters but
the ampersands of entities, and reading these gives the text. -/
theorem Encoding.apply_invertible (s t : Text) :
    (∀ e : Encoding, e.apply (s ++ t) = e.apply s ++ e.apply t) ∧
    (let u := Encoding.url.apply t;
      (∀ c ∈ u, Text.isAsciiAlphanumeric c = true ∨ c ∈ ['-', '_', '.', '~', '%']) ∧
      Percent.IsWhole u ∧ Percent.decodeBytes u = Utf8.encode t ∧ Percent.decode u = t) ∧
    (let u := Encoding.json.apply t;
      u = (Json.write (.string t)).tail.dropLast ∧ Json.insideFrom false u = none ∧
      (∀ r, Json.insideFrom false (u ++ '"' :: r) = some u) ∧ (∀ c ∈ u, 32 ≤ c.toNat) ∧
      Json.read ('"' :: u ++ ['"']) = .ok (.string t)) ∧
    (let u := Encoding.xml.apply t;
      (∀ c ∈ u, c ≠ '<' ∧ c ≠ '>' ∧ c ≠ '"' ∧ c ≠ '\x27') ∧ Entity.IsWhole u ∧
      Entity.decode u = t) := by
  refine ⟨fun e => ?_, ?_, ?_, ?_⟩
  · cases e with
    | plain => rfl
    | url => exact Percent.encode_append s t
    | json => exact Json.Quoted.encode_append s t
    | xml => exact Entity.encode_append s t
  · exact ⟨fun c => Percent.mem_alphabet_of_mem_encode, Percent.isWhole_encode t,
      Percent.decodeBytes_encode t, Percent.decode_encode t⟩
  · have hnone : Json.insideFrom false (Json.Quoted.encode t) = none := by
      rw [← List.append_nil (Json.Quoted.encode t), Json.insideFrom_encode]
      rfl
    refine ⟨(List.dropLast_concat).symm, hnone, fun r => ?_, fun c => Json.le_of_mem_encode,
      Json.read_literal t⟩
    exact (Json.insideFrom_encode t _).trans (congrArg some (List.append_nil _))
  · exact ⟨fun c => Entity.ne_of_mem_encode, Entity.isWhole_encode t, Entity.decode_encode t⟩

end UploadTemplate
