import UploadTemplate.Json.Quoted
import UploadTemplate.Json.Scan

/-!
# The inside of string literals

In a literal a character is written as it is or by an escape. A literal that is being read goes on
with the characters that are spelled, and no token is given out before its quotation mark.

- `Scan.Spells t v`: in a literal `t` is read as the characters of `v`.
- `Scan.spells_encode`: the written form of a text spells it.
- `Scan.run_literal`: the token of a literal.
-/

namespace UploadTemplate.Json

/-- A text with a quotation mark on either side. -/
def inQuotes (t : Text) : Text := '"' :: t ++ ['"']

namespace Scan

/-- In a literal `t` is read as the characters of `v`. -/
def Spells (t v : Text) : Prop :=
  ∀ (s : Scan) (chars : Text), s.inside = .string chars →
    (s.run t).1.inside = .string (v.reverse ++ chars) ∧ (s.run t).2 = []

/-- Reading `t` in a literal goes on in the literal. -/
def StaysInside (t : Text) : Prop :=
  ∀ (s : Scan) (chars : Text), s.inside = .string chars →
    (∃ chars', (s.run t).1.inside = .string chars') ∧ (s.run t).2 = []

theorem Spells.staysInside {t v : Text} (h : Spells t v) : StaysInside t := fun s chars hs =>
  ⟨⟨_, (h s chars hs).1⟩, (h s chars hs).2⟩

theorem Spells.nil : Spells [] [] := fun _ _ h => ⟨h, rfl⟩

theorem Spells.append {t u v w : Text} (h : Spells t v) (h' : Spells u w) :
    Spells (t ++ u) (v ++ w) := by
  intro s chars hs
  obtain ⟨hin, hn⟩ := h s chars hs
  obtain ⟨hin', hn'⟩ := h' _ _ hin
  rw [run_append]
  exact ⟨by rw [hin', List.reverse_append, List.append_assoc], by rw [hn, hn']; rfl⟩

theorem spells_char {c : Char} (hq : c ≠ '"') (hb : c ≠ '\\') (hc : 32 ≤ c.toNat) :
    Spells [c] [c] := by
  rintro ⟨_, p, q⟩ chars rfl
  have hc : ¬ c.toNat < 32 := by omega
  simp [run, step, hq, hb, hc]

theorem spells_letter {c d : Char} (h : escaped c = some d) : Spells ['\\', c] [d] := by
  rintro ⟨_, p, q⟩ chars rfl
  have hu : c ≠ 'u' := by rintro rfl; cases h
  simp [run, step, hu, h]

theorem hexValue_lowerHexDigit {d : Nat} (h : d < 16) :
    Numeral.hexValue (Numeral.lowerHexDigit d) = some d ∧
      (Numeral.lowerHexDigit d).utf8Size = 1 := by
  revert d
  decide

theorem spells_control {n : Nat} (h : n < 32) :
    Spells ['\\', 'u', '0', '0', Numeral.lowerHexDigit (n / 16), Numeral.lowerHexDigit (n % 16)]
      [Char.ofNat n] := by
  rintro ⟨_, p, q⟩ chars rfl
  obtain ⟨h1, s1⟩ := hexValue_lowerHexDigit (show n / 16 < 16 by omega)
  obtain ⟨h2, s2⟩ := hexValue_lowerHexDigit (show n % 16 < 16 by omega)
  have h0 : Numeral.hexValue '0' = some 0 := rfl
  have s0 : '0'.utf8Size = 1 := rfl
  have hn : 16 * (n / 16) + n % 16 = n := Nat.div_add_mod n 16
  have ha : afterUnicode chars none n = .ok (.string (Char.ofNat n :: chars)) := by
    unfold afterUnicode
    rw [if_neg (by omega), if_neg (by omega)]
  simp [run, step, h0, s0, h1, s1, h2, s2, hn, ha]

theorem spells_encodeChar (c : Char) : Spells (Quoted.encodeChar c) [c] := by
  have hletter {d : Char} (hc : c = d) {l : Char} (hl : escaped l = some d) :
      Spells ['\\', l] [c] := hc ▸ spells_letter hl
  unfold Quoted.encodeChar
  split
  · exact hletter ‹_› rfl
  split
  · exact hletter ‹_› rfl
  split
  · exact hletter ‹_› rfl
  split
  · exact hletter ‹_› rfl
  split
  · exact hletter ‹_› rfl
  split
  · exact hletter ‹_› rfl
  split
  · exact hletter ‹_› rfl
  split
  · have hs := spells_control ‹_›
    rwa [Char.ofNat_toNat] at hs
  · exact spells_char ‹_› ‹_› (by omega)

/-- The written form of a text spells it. -/
theorem spells_encode (v : Text) : Spells (Quoted.encode v) v := by
  induction v with
  | nil => exact .nil
  | cons c v ih => exact (spells_encodeChar c).append ih

/-- Characters that need no escape stand for themselves. -/
theorem spells_self {t : Text} (h : ∀ c ∈ t, c ≠ '"' ∧ c ≠ '\\' ∧ 32 ≤ c.toNat) :
    Spells t t := by
  induction t with
  | nil => exact .nil
  | cons c t ih =>
    obtain ⟨hq, hb, hc⟩ := h c List.mem_cons_self
    exact (spells_char hq hb hc).append (ih fun d hd => h d (List.mem_cons_of_mem c hd))

/-! ### Literals as a whole -/

/-- In a literal that has just been opened, `t` is read as the content `x`. -/
def Holds (t x : Text) : Prop :=
  ∀ s : Scan, s.inside = .string [] →
    (s.run t).1.inside = .string x.reverse ∧ (s.run t).2 = []

theorem Spells.holds {t v : Text} (h : Spells t v) : Holds t v := fun s hs => by
  obtain ⟨hin, hn⟩ := h s [] hs
  exact ⟨by rw [hin, List.append_nil], hn⟩

/-- The token of a literal that a quotation mark has opened. -/
theorem run_literal {s : Scan} (hopen : (s.step '"').1.inside = .string []) {t x : Text}
    (h : Holds t x) : (s.run (inQuotes t)).1.inside = .blank ∧
      ∃ seen, (s.run (inQuotes t)).2 = (s.step '"').2 ++ [⟨.string x, seen⟩] := by
  obtain ⟨hin, hn⟩ := h _ hopen
  generalize hs : (s.step '"').1 = opened at hin hn
  generalize ho : opened.run t = stopped at hin hn
  obtain ⟨⟨_, p, q⟩, ls⟩ := stopped
  cases hin
  cases hn
  have hclose : step ⟨.string x.reverse, p, q⟩ '"' =
      (⟨.blank, p, q.after '"'⟩, [⟨.string x, p⟩]) := by
    simp [step]
  simp only [inQuotes, List.cons_append, run, run_append, hs, ho, hclose]
  exact ⟨trivial, p, by simp⟩

end Scan

end UploadTemplate.Json
