import UploadTemplate.Proofs.Json.Literal
import UploadTemplate.Proofs.Json.Outline
import UploadTemplate.Proofs.Text.Cut

/-!
# Slots in JSON texts

A JSON text may have places in its string literals that are filled before it is sent. While a
place is written with a dollar sign, it can stand nowhere else in a well-formed text; and what
fills it keeps the text well formed if it stays inside the literal.

- `Inside.IsPlain`: where a text without backslashes can stand.
- `Scan.run_refill`: two fillings of a text are read in step.
- `wellFormed_refill`: the filled text is well formed if the text with its marked places is.
-/

namespace UploadTemplate.Json

/-- A state outside every escape, after tokens of JSON alone. -/
def Inside.IsPlain : Inside → Prop
  | .blank | .number .. | .string _ => True
  | .word _ left => ∀ c ∈ left, Text.isAsciiLetter c = true
  | .escape _ | .unicode .. | .lowEscape .. | .lowUnicode .. | .stopped => False

theorem Inside.IsPlain.of_outline {i j : Inside} (h : i.outline = j.outline) (hi : i.IsPlain) :
    j.IsPlain := by
  cases i <;> cases j <;> cases h <;> exact hi

namespace Scan

theorem isPlain_opening (c : Char) : (opening c).1.IsPlain := by
  fun_cases opening c
  case case9 | case10 | case11 =>
    show ∀ c ∈ _, Text.isAsciiLetter c = true
    exact List.all_eq_true.1 rfl
  all_goals trivial

/-- Without a backslash and without a fault the state stays plain. -/
theorem isPlain_step {s : Scan} (h : s.inside.IsPlain) {c : Char} (hc : c ≠ '\\')
    (hk : none ∉ kinds (s.step c).2) : (s.step c).1.inside.IsPlain := by
  obtain ⟨i, p, q⟩ := s
  simp only at h
  cases i <;> simp only [Inside.IsPlain] at h <;> simp only [step] at hk ⊢
  case blank => exact isPlain_opening c
  case word token left =>
    rcases left with _ | ⟨d, left⟩
    · simp [kinds, Token.kind?] at hk
    · by_cases hd : c = d
      · rcases left with _ | ⟨e, left⟩
        · simp [hd, Inside.IsPlain]
        · simpa [hd, Inside.IsPlain] using fun c hc => h c (List.mem_cons_of_mem d hc)
      · simp [hd, kinds, Token.kind?] at hk
  case number phase chars =>
    rcases hn : phase.next? c with _ | next
    · simp only [hn] at hk ⊢
      split at hk
      · rename_i hp
        rw [if_pos hp]
        exact isPlain_opening c
      · simp [kinds, Token.kind?] at hk
    · trivial
  case string chars =>
    by_cases hq : c = '"'
    · simp [hq, Inside.IsPlain]
    · by_cases h32 : c.toNat < 32
      · simp [hq, hc, h32, kinds, Token.kind?] at hk
      · simp [hq, hc, h32, Inside.IsPlain]

/-- Outside string literals a dollar sign and a backslash are faults. -/
theorem stray_step {s : Scan} (h : s.inside.IsPlain) {c : Char} (hc : c = '$' ∨ c = '\\') :
    (∃ chars, s.inside = .string chars) ∨ none ∈ kinds (s.step c).2 := by
  obtain ⟨i, p, q⟩ := s
  have ho : opening c = (.blank, some .unknown) := by rcases hc with rfl | rfl <;> decide
  simp only at h
  cases i <;> simp only [Inside.IsPlain] at h <;> simp only [step]
  case blank => exact .inr (by simp [ho, kinds, Token.kind?])
  case word token left =>
    rcases left with _ | ⟨d, left⟩
    · exact .inr (by simp [kinds, Token.kind?])
    · have hd : c ≠ d := by
        have := h d List.mem_cons_self
        rcases hc with rfl | rfl <;> rintro rfl <;> cases this
      exact .inr (by simp [hd, kinds, Token.kind?])
  case number phase chars =>
    have hn : phase.next? c = none := by
      rcases hc with rfl | rfl <;> cases phase <;> rfl
    refine .inr ?_
    simp only [hn, ho]
    split <;> simp [kinds, Token.kind?]
  case string chars => exact .inl ⟨chars, rfl⟩

section Filling

variable {α : Type} {f g : α → Text}

/-- Two fillings of a text are read in step, if one of them marks its places by dollar signs and
is not at fault. -/
theorem run_refill (hf : ∀ a, (f a).head? = some '$') (hf' : ∀ a, StaysInside (f a))
    (hg : ∀ a, StaysInside (g a)) {parts : List (Text.Fragment α)}
    (hc : ∀ c, .char c ∈ parts → c ≠ '\\') {s s' : Scan} (hp : s.inside.IsPlain)
    (ho : s.inside.outline = s'.inside.outline)
    (hk : none ∉ kinds (s.run (Text.refill f parts)).2) :
    (s.run (Text.refill f parts)).1.inside.IsPlain ∧
      (s.run (Text.refill f parts)).1.inside.outline =
        (s'.run (Text.refill g parts)).1.inside.outline ∧
      kinds (s.run (Text.refill f parts)).2 = kinds (s'.run (Text.refill g parts)).2 := by
  induction parts generalizing s s' with
  | nil => exact ⟨hp, ho, rfl⟩
  | cons part parts ih =>
    have ih := @ih fun c h => hc c (List.mem_cons_of_mem part h)
    cases part with
    | char c =>
      rw [Text.refill_char] at hk ⊢
      rw [Text.refill_char]
      simp only [run, kinds_append, List.mem_append, not_or] at hk ⊢
      have hplain := isPlain_step hp (hc c List.mem_cons_self) hk.1
      obtain ⟨ho', hk'⟩ := step_outline ho c
      obtain ⟨h1, h2, h3⟩ := ih hplain ho' hk.2
      exact ⟨h1, h2, by rw [hk', h3]⟩
    | found a =>
      rw [Text.refill_found] at hk ⊢
      rw [Text.refill_found]
      have hstring : ∃ chars, s.inside = .string chars := by
        obtain ⟨w, hw⟩ : ∃ w, f a = '$' :: w := List.head?_eq_some_iff.1 (hf a)
        refine (stray_step hp (.inl rfl)).resolve_right fun hn => hk ?_
        rw [hw, List.cons_append, run, kinds_append]
        exact List.mem_append_left _ hn
      obtain ⟨chars, hs⟩ := hstring
      obtain ⟨chars', hs'⟩ := Inside.outline_string (hs ▸ ho)
      obtain ⟨⟨_, h1⟩, n1⟩ := hf' a s chars hs
      obtain ⟨⟨_, h2⟩, n2⟩ := hg a s' chars' hs'
      simp only [run_append, n1, n2, List.nil_append] at hk ⊢
      exact ih (by rw [h1]; trivial) (by rw [h1, h2]; rfl) hk

/-- Filled in any way that stays inside its literals, a well-formed text with marked places is
well formed. -/
theorem wellFormed_refill (hf : ∀ a, (f a).head? = some '$') (hf' : ∀ a, StaysInside (f a))
    (hg : ∀ a, StaysInside (g a)) {parts : List (Text.Fragment α)}
    (hc : ∀ c, .char c ∈ parts → c ≠ '\\') (h : WellFormed (Text.refill f parts)) :
    WellFormed (Text.refill g parts) := by
  have hk := h.kind_isSome
  obtain ⟨ks, hks, hv⟩ := h
  simp only [tokens, kinds_append, List.mem_append, not_or] at hk hks
  have hp : start.inside.IsPlain := trivial
  have ho : start.inside.outline = start.inside.outline := rfl
  obtain ⟨-, h2, h3⟩ := run_refill hf hf' hg hc hp ho hk.1
  refine ⟨ks, ?_, hv⟩
  simp only [tokens, kinds_append]
  rw [← h3, ← atEnd_outline h2, hks]

/-- A backslash before a character that makes no escape with it, after a part of a filled text. -/
theorem not_wellFormed_of_escape (hf : ∀ a, (f a).head? = some '$')
    (hf' : ∀ a, StaysInside (f a)) (hg : ∀ a, StaysInside (g a))
    {parts : List (Text.Fragment α)} (hc : ∀ c, .char c ∈ parts → c ≠ '\\') {r r' : Text}
    (h : WellFormed (Text.refill f parts ++ r)) {c : Char} (hu : c ≠ 'u')
    (he : escaped c = none) : ¬ WellFormed (Text.refill g parts ++ '\\' :: c :: r') := by
  have hk := h.kind_isSome
  simp only [tokens, run_append, kinds_append, List.mem_append, not_or] at hk
  have hp : start.inside.IsPlain := trivial
  have ho : start.inside.outline = start.inside.outline := rfl
  obtain ⟨h1, h2, -⟩ := run_refill hf hf' hg hc hp ho hk.1.1
  intro h'
  have hk' := h'.kind_isSome
  simp only [tokens, run_append, run, kinds_append, List.mem_append, not_or] at hk'
  rcases stray_step (h1.of_outline h2) (.inr rfl) with ⟨chars, hs⟩ | hn
  · apply hk'.1.2.2.1
    generalize (start.run (Text.refill g parts)).1 = s at hs
    obtain ⟨i, p, q⟩ := s
    cases hs
    simp [step, hu, he, kinds, Token.kind?]
  · exact hk'.1.2.1 hn

end Filling

end Scan

end UploadTemplate.Json
