import UploadTemplate.Proofs.Json.Quotes
import UploadTemplate.Proofs.Text.Cut

/-!
# Exchanging parts of literals

A well-formed text stays well formed when a part of a literal is taken out and another text is put
in, as long as the literal goes on behind either of them. Whether a text is such a part can often be
told from its first character, since most characters can stand in literals alone and take part in no
escape.

- `IsNeutral`: characters that have no meaning in a literal.
- `Scan.IsLiteralPart`: wherever a text stands in a faultless text, it is a part of a literal.
- `WellFormed.exchange`, `WellFormed.refill`: other texts in the places of such parts.
-/

namespace UploadTemplate.Json

/-- A character that neither ends a literal nor takes part in an escape. -/
def IsNeutral (c : Char) : Prop :=
  c ≠ '"' ∧ c ≠ '\\' ∧ c ≠ '/' ∧ Text.isAsciiAlphanumeric c = false

instance (c : Char) : Decidable (IsNeutral c) :=
  inferInstanceAs (Decidable (_ ∧ _ ∧ _ ∧ _))

namespace IsNeutral

variable {c : Char}

theorem ne_of_alphanumeric (h : IsNeutral c) {d : Char}
    (hd : Text.isAsciiAlphanumeric d = true) : c ≠ d := by
  rintro rfl
  rw [h.2.2.2] at hd
  cases hd

theorem escaped_eq_none (h : IsNeutral c) : Scan.escaped c = none := by
  have hb : c ≠ 'b' := h.ne_of_alphanumeric rfl
  have hf : c ≠ 'f' := h.ne_of_alphanumeric rfl
  have hn : c ≠ 'n' := h.ne_of_alphanumeric rfl
  have hr : c ≠ 'r' := h.ne_of_alphanumeric rfl
  have ht : c ≠ 't' := h.ne_of_alphanumeric rfl
  simp [Scan.escaped, h.1, h.2.1, h.2.2.1, hb, hf, hn, hr, ht]

theorem hexValue_eq_none (h : IsNeutral c) : Numeral.hexValue c = none := by
  have hf (d : Char) (hd : c ≤ d) {z : Char} (hz : d ≤ z) : c ≤ z := Char.le_trans hd hz
  have ha := h.2.2.2
  simp only [Text.isAsciiAlphanumeric, Text.isAsciiLetter, Text.isAsciiDigit, Bool.or_eq_false_iff,
    Bool.and_eq_false_iff, decide_eq_false_iff_not] at ha
  unfold Numeral.hexValue
  rw [if_neg, if_neg, if_neg]
  · exact fun hc => ha.1.2.elim (· hc.1) (· (hf 'F' hc.2 (by decide)))
  · exact fun hc => ha.1.1.elim (· hc.1) (· (hf 'f' hc.2 (by decide)))
  · exact fun hc => ha.2.elim (· hc.1) (· hc.2)

end IsNeutral

namespace Scan

/-! ### Reading without faults -/

/-- A state in which no fault has been found. -/
def IsReading (i : Inside) : Prop := IsOutside i ∨ ∃ b, InLiteral b i

theorem isReading_step {s : Scan} (h : IsReading s.inside) {c : Char} {r : Text}
    (hf : NoFault s (c :: r)) : IsReading (s.step c).1.inside := by
  rcases h with h | ⟨b, h⟩
  · obtain ⟨-, hquote, hother⟩ := isOutside_step h hf.step.1
    by_cases hc : c = '"'
    · exact .inr ⟨false, by rw [hquote hc]; trivial⟩
    · exact .inl (hother hc)
  · rcases inLiteral_step h hf with ⟨rfl, rfl, chars, hs⟩ | ⟨-, -, hin⟩
    · refine .inl ?_
      obtain ⟨i, p, q⟩ := s
      cases hs
      trivial
    · exact .inr ⟨_, hin⟩

theorem isReading_run {s : Scan} (h : IsReading s.inside) {u r : Text} (hf : NoFault s (u ++ r)) :
    IsReading (s.run u).1.inside := by
  induction u generalizing s with
  | nil => exact h
  | cons c u ih => exact ih (isReading_step h hf) hf.step.2

/-! ### Where a text cannot stand -/

/-- Between two words, before or after a token or in a number. -/
def IsBetween (i : Inside) : Prop := i = .blank ∨ ∃ phase chars, i = .number phase chars

/-- A neutral character is no part of a word. -/
theorem isBetween_of_neutral {s : Scan} (h : IsOutside s.inside) {c : Char} (hc : IsNeutral c)
    (hk : none ∉ kinds (s.step c).2) : IsBetween (s.step c).1.inside := by
  have hopen : IsBetween (opening c).1 := by
    fun_cases opening c
    case case8 => exact absurd ‹c = '"'› hc.1
    case case9 => exact absurd ‹c = 'n'› (hc.ne_of_alphanumeric rfl)
    case case10 => exact absurd ‹c = 't'› (hc.ne_of_alphanumeric rfl)
    case case11 => exact absurd ‹c = 'f'› (hc.ne_of_alphanumeric rfl)
    case case12 | case13 | case14 => exact .inr ⟨_, _, rfl⟩
    all_goals exact .inl rfl
  obtain ⟨i, p, q⟩ := s
  cases i with
  | blank => simpa [step] using hopen
  | word token left =>
    exfalso
    rcases left with _ | ⟨d, left⟩
    · simp [step, kinds, Token.kind?] at hk
    · have hd : c ≠ d := hc.ne_of_alphanumeric (by
        simp [Text.isAsciiAlphanumeric, h.2 d List.mem_cons_self])
      simp [step, hd, kinds, Token.kind?] at hk
  | number phase chars =>
    cases hn : phase.next? c with
    | some next => exact .inr ⟨next, c :: chars, by simp [step, hn]⟩
    | none =>
      by_cases hp : (phase.isComplete && !(phase = .zero && Text.isAsciiDigit c)) = true
      · simpa only [step, hn, if_pos hp] using hopen
      · simp only [step, hn, if_neg hp] at hk
        simp [kinds, Token.kind?] at hk
  | string | escape | unicode | lowEscape | lowUnicode | stopped => exact absurd h id

/-- A character that begins no token and goes on with no number. -/
theorem fault_of_unknown {s : Scan} (h : IsBetween s.inside) {c : Char}
    (ho : opening c = (.blank, some .unknown)) (hn : ∀ phase, NumberPhase.next? c phase = none) :
    none ∈ kinds (s.step c).2 := by
  obtain ⟨i, p, q⟩ := s
  rcases h with h | ⟨phase, chars, h⟩ <;> cases h
  · simp [step, ho, kinds, Token.kind?]
  · simp only [step, hn, ho]
    split <;> simp [kinds, Token.kind?]

theorem word_of_letter {s : Scan} (h : IsBetween s.inside)
    (hk : none ∉ kinds (s.step 'f').2) : (s.step 'f').1.inside = .word (.bool false) "alse" := by
  have hn (phase : NumberPhase) : phase.next? 'f' = none := by cases phase <;> rfl
  obtain ⟨i, p, q⟩ := s
  rcases h with h | ⟨phase, chars, h⟩ <;> cases h
  · rfl
  · by_cases hp : (phase.isComplete && !(phase = .zero && Text.isAsciiDigit 'f')) = true
    · simp only [step, hn, if_pos hp]
      rfl
    · simp only [step, hn, if_neg hp] at hk
      simp [kinds, Token.kind?] at hk

theorem not_noFault_percent {s : Scan} (h : IsOutside s.inside) (r : Text) :
    ¬ NoFault s ('%' :: r) := by
  intro hf
  have hk := hf.step.1
  obtain ⟨i, p, q⟩ := s
  cases i with
  | word token left =>
    rcases left with _ | ⟨d, left⟩
    · simp [step, kinds, Token.kind?] at hk
    · have hd : '%' ≠ d := by
        have hl := h.2 d List.mem_cons_self
        rintro rfl
        cases hl
      simp [step, hd, kinds, Token.kind?] at hk
  | blank => exact hk (fault_of_unknown (.inl rfl) rfl fun phase => by cases phase <;> rfl)
  | number phase chars =>
    exact hk (fault_of_unknown (.inr ⟨phase, chars, rfl⟩) rfl fun phase => by cases phase <;> rfl)
  | string | escape | unicode | lowEscape | lowUnicode | stopped => exact absurd h id

/-- Behind a neutral character the letter `i` begins nothing, -/
theorem not_noFault_letter {s : Scan} (h : IsOutside s.inside) {c : Char} (hc : IsNeutral c)
    (r : Text) : ¬ NoFault s (c :: 'i' :: r) := by
  intro hf
  have hbetween := isBetween_of_neutral h hc hf.step.1
  exact hf.step.2.step.1 (fault_of_unknown hbetween rfl fun phase => by cases phase <;> rfl)

/-- and the letter `f` a word that does not go on with an `i`. -/
theorem not_noFault_letters {s : Scan} (h : IsOutside s.inside) {c : Char} (hc : IsNeutral c)
    (r : Text) : ¬ NoFault s (c :: 'f' :: 'i' :: r) := by
  intro hf
  have hbetween := isBetween_of_neutral h hc hf.step.1
  have hword := word_of_letter hbetween hf.step.2.step.1
  have hk := hf.step.2.step.2.step.1
  generalize ((s.step c).1.step 'f').1 = b at hword hk
  obtain ⟨_, p, q⟩ := b
  cases hword
  exact hk List.mem_cons_self

/-! ### Insides of literals -/

theorem StaysInside.append {t u : Text} (h : StaysInside t) (h' : StaysInside u) :
    StaysInside (t ++ u) := by
  intro s chars hs
  obtain ⟨⟨chars', hs'⟩, hn⟩ := h s chars hs
  obtain ⟨hin, hn'⟩ := h' _ chars' hs'
  rw [run_append]
  exact ⟨hin, by rw [hn, hn']; rfl⟩

theorem staysInside_of_alphanumeric {t : Text}
    (h : ∀ c ∈ t, Text.isAsciiAlphanumeric c = true) : StaysInside t := by
  refine (spells_self fun c hc => ?_).staysInside
  have hc := h c hc
  have hq : c ≠ '"' := by rintro rfl; cases hc
  have hb : c ≠ '\\' := by rintro rfl; cases hc
  simp only [Text.isAsciiAlphanumeric, Text.isAsciiLetter, Text.isAsciiDigit, Bool.or_eq_true,
    Bool.and_eq_true, decide_eq_true_eq] at hc
  have hle : ' ' ≤ c := by
    rcases hc with (hc | hc) | hc <;> exact Char.le_trans (by decide) hc.1
  exact ⟨hq, hb, UInt32.le_iff_toNat_le.1 hle⟩

/-- A literal of which nothing has been read. -/
def atLiteral : Scan := ⟨.string [], .start, .start⟩

/-- What a text does in one literal it does in every other. -/
theorem staysInside_iff {t : Text} :
    StaysInside t ↔
      (atLiteral.run t).1.inside.outline = .string [] ∧ kinds (atLiteral.run t).2 = [] := by
  constructor
  · intro h
    obtain ⟨⟨chars, hs⟩, hn⟩ := h atLiteral [] rfl
    rw [hs, hn]
    exact ⟨rfl, rfl⟩
  · rintro ⟨ho, hk⟩ s chars hs
    have hsame : s.inside.outline = atLiteral.inside.outline := by rw [hs]; rfl
    obtain ⟨ho', hk'⟩ := run_outline hsame t
    have hstring : (Inside.string []).outline = (s.run t).1.inside.outline := (ho'.trans ho).symm
    exact ⟨Inside.outline_string hstring, List.map_eq_nil_iff.1 (hk'.trans hk)⟩

instance (t : Text) : Decidable (StaysInside t) := decidable_of_iff _ staysInside_iff.symm

/-! ### Parts of literals -/

/-- Wherever a text stands in a faultless text, it is a part of a literal and begins and ends
between two of its characters. -/
def IsLiteralPart (w : Text) : Prop :=
  ∀ (s : Scan) (r : Text), IsReading s.inside → NoFault s (w ++ r) →
    (∃ chars, s.inside = .string chars) ∧ (∃ chars, (s.run w).1.inside = .string chars) ∧
      (s.run w).2 = []

/-- In a literal, what is no part of an escape stands between two characters. -/
theorem string_of_neutral {s : Scan} {b : Bool} (h : InLiteral b s.inside) {c : Char}
    (hc : IsNeutral c) {r : Text} (hf : NoFault s (c :: r)) :
    ∃ chars, s.inside = .string chars := by
  have hu : c ≠ 'u' := hc.ne_of_alphanumeric rfl
  have hk := hf.step.1
  obtain ⟨i, p, q⟩ := s
  cases i with
  | string chars => exact ⟨chars, rfl⟩
  | escape chars => simp [step, hu, hc.escaped_eq_none, kinds, Token.kind?] at hk
  | lowEscape chars high => simp [step, hc.2.1, kinds, Token.kind?] at hk
  | lowUnicode chars high => simp [step, hu, kinds, Token.kind?] at hk
  | unicode chars high value left =>
    by_cases hl : c.utf8Size < left
    · have hstep : step ⟨.unicode chars high value left, p, q⟩ c =
          (⟨.unicode chars high none (left - c.utf8Size), p, q.after c⟩, []) := by
        cases value <;> simp [step, hc.hexValue_eq_none, hl]
      have hf := hf.step.2
      rw [hstep] at hf
      exact absurd hf (not_noFault_unicode_none rfl r)
    · cases value <;> simp [step, hc.hexValue_eq_none, hl, kinds, Token.kind?] at hk
  | blank | word | number | stopped => cases b <;> exact absurd h id

/-- Characters without quotation marks and backslashes lead on in a literal. -/
theorem string_run {s : Scan} {chars w r : Text} (h : s.inside = .string chars)
    (hw : ∀ c ∈ w, c ≠ '"' ∧ c ≠ '\\') (hf : NoFault s (w ++ r)) :
    (∃ chars, (s.run w).1.inside = .string chars) ∧ (s.run w).2 = [] := by
  induction w generalizing s chars with
  | nil => exact ⟨⟨chars, h⟩, rfl⟩
  | cons c w ih =>
    obtain ⟨hq, hb⟩ := hw c List.mem_cons_self
    have hk := hf.step.1
    obtain ⟨_, p, q⟩ := s
    cases h
    by_cases h32 : c.toNat < 32
    · simp [step, hq, hb, h32, kinds, Token.kind?] at hk
    · have hstep : step ⟨.string chars, p, q⟩ c = (⟨.string (c :: chars), p, q.after c⟩, []) := by
        simp [step, hq, hb, h32]
      have hrest := hf.step.2
      rw [hstep] at hrest
      simp only [run, hstep]
      exact ih rfl (fun d hd => hw d (.tail _ hd)) hrest

theorem isLiteralPart_of_neutral {c : Char} (hc : IsNeutral c) {w : Text}
    (ho : ∀ (s : Scan) r, IsOutside s.inside → ¬ NoFault s (c :: w ++ r))
    (hw : ∀ (s : Scan) chars r, s.inside = .string chars → NoFault s (c :: w ++ r) →
      (∃ chars, (s.run (c :: w)).1.inside = .string chars) ∧ (s.run (c :: w)).2 = []) :
    IsLiteralPart (c :: w) := by
  intro s r h hf
  rcases h with h | ⟨b, h⟩
  · exact absurd hf (ho s r h)
  · obtain ⟨chars, hs⟩ := string_of_neutral h hc hf
    exact ⟨⟨chars, hs⟩, hw s chars r hs hf⟩

theorem isNeutral_percent : IsNeutral '%' := by decide

theorem isLiteralPart_percent {w : Text} (hw : StaysInside ('%' :: w)) :
    IsLiteralPart ('%' :: w) :=
  isLiteralPart_of_neutral isNeutral_percent (fun _ _ h => not_noFault_percent h _)
    fun s chars _ hs _ => hw s chars hs

end Scan

/-! ### Exchanges -/

open Scan in
/-- Another text in the place of a part of a literal. -/
theorem WellFormed.exchange {u w g v : Text} (h : WellFormed (u ++ w ++ v)) (hw : IsLiteralPart w)
    (hg : StaysInside g) : WellFormed (u ++ g ++ v) := by
  have hf : Scan.start.NoFault (u ++ (w ++ v)) := by
    rw [← List.append_assoc]
    exact h.kind_isSome
  have hstart : IsReading Scan.start.inside := .inl trivial
  obtain ⟨⟨chars, hs⟩, ⟨chars', hs'⟩, hn⟩ := hw _ v (isReading_run hstart hf) hf.run.2
  obtain ⟨⟨chars'', hs''⟩, hn'⟩ := hg _ chars hs
  obtain ⟨ks, hks, hv⟩ := h
  refine ⟨ks, ?_, hv⟩
  have ho : ((start.run u).1.run w).1.inside.outline =
      ((start.run u).1.run g).1.inside.outline := by
    rw [hs', hs'']
    rfl
  obtain ⟨ho', hk⟩ := run_outline ho v
  rw [← hks]
  simp only [tokens, run_append, kinds_append, hn, hn', hk, atEnd_outline ho']

/-- Other texts in the places of several parts of literals. -/
theorem WellFormed.refill {α : Type} {f g : α → Text} (hf : ∀ a, Scan.IsLiteralPart (f a))
    (hg : ∀ a, Scan.StaysInside (g a)) {parts : List (Text.Fragment α)}
    (h : WellFormed (Text.refill f parts)) : WellFormed (Text.refill g parts) := by
  suffices hpart : ∀ u, WellFormed (u ++ Text.refill f parts) →
      WellFormed (u ++ Text.refill g parts) from hpart [] h
  clear h
  induction parts with
  | nil => exact fun _ h => h
  | cons part parts ih =>
    intro u h
    cases part with
    | char c =>
      rw [Text.refill_char, List.append_cons] at h ⊢
      exact ih _ h
    | found a =>
      rw [Text.refill_found, ← List.append_assoc] at h ⊢
      exact ih _ (h.exchange (hf a) (hg a))

end UploadTemplate.Json
