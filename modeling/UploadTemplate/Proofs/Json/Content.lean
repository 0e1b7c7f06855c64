import UploadTemplate.Proofs.Json.Quotes

/-!
# What a literal holds

Parts of the inside of a literal may stand for texts. What such a literal holds is read from its
other characters, and the texts are taken as they are, whatever characters they have.

- `Json.content v p`: what a literal holds whose parts `a` stand for the texts `v a`.
- `Scan.Holds.refill`: it holds that too when its parts are written out.
-/

namespace UploadTemplate.Json

/-- Reads the inside of a literal from a state on. An occurrence stands for a text as it is. -/
def Scan.readParts {α : Type} (v : α → Text) : Scan → List (Text.Fragment α) → Option Text
  | s, [] =>
    match s.inside with
    | .string chars => some chars.reverse
    | _ => none
  | s, .char c :: p => if (s.step c).2.isEmpty then readParts v (s.step c).1 p else none
  | s, .found a :: p =>
    match s.inside with
    | .string chars => readParts v { s with inside := .string ((v a).reverse ++ chars) } p
    | _ => none

/-- What a literal holds of which some parts stand for texts as they are. -/
def content {α : Type} (v : α → Text) (p : List (Text.Fragment α)) : Option Text :=
  Scan.readParts v ⟨.string [], .start, .start⟩ p

namespace Scan

variable {α : Type} {m f v : α → Text}

/-- A state inside a literal. -/
def IsLiteral : Inside → Prop
  | .string _ | .escape _ | .unicode .. | .lowEscape .. | .lowUnicode .. => True
  | _ => False

theorem isLiteral_step {s : Scan} (h : IsLiteral s.inside) {c : Char} (hn : (s.step c).2 = []) :
    IsLiteral (s.step c).1.inside := by
  obtain ⟨i, p, q⟩ := s
  cases i with
  | string chars =>
    by_cases hq : c = '"'
    · simp [step, hq] at hn
    · by_cases hb : c = '\\'
      · simp [step, hb, IsLiteral]
      · by_cases h32 : c.toNat < 32
        · simp [step, hq, hb, h32] at hn
        · simp [step, hq, hb, h32, IsLiteral]
  | escape chars =>
    by_cases hu : c = 'u'
    · simp [step, hu, IsLiteral]
    · cases he : escaped c with
      | none => simp [step, hu, he] at hn
      | some d => simp [step, hu, he, IsLiteral]
  | unicode chars high value left =>
    simp only [step] at hn ⊢
    split at hn
    · rw [if_pos ‹_›]
      trivial
    · rw [if_neg ‹_›]
      split at hn
      · cases hn
      · split at hn
        · rename_i i ha
          have hi := afterUnicode_inLiteral ha
          cases i <;> trivial
        · cases hn
  | lowEscape chars high =>
    by_cases hb : c = '\\'
    · simp [step, hb, IsLiteral]
    · simp [step, hb] at hn
  | lowUnicode chars high =>
    by_cases hu : c = 'u'
    · simp [step, hu, IsLiteral]
    · simp [step, hu] at hn
  | blank | word | number | stopped => exact absurd h id

/-- A brace in a literal is no part of an escape. -/
theorem string_of_brace {s : Scan} (h : IsLiteral s.inside) {w chars : Text}
    (hin : (s.run ('\x7b' :: w)).1.inside = .string chars) (hn : (s.run ('\x7b' :: w)).2 = []) :
    ∃ chars, s.inside = .string chars := by
  simp only [run, List.append_eq_nil_iff] at hin hn
  obtain ⟨i, p, q⟩ := s
  cases i with
  | string chars => exact ⟨chars, rfl⟩
  | escape | lowEscape | lowUnicode => cases hn.1
  | unicode chars' high value left =>
    -- A brace is no digit, and that will be reported at the end of the escape.
    have hd : Numeral.hexValue '\x7b' = none := rfl
    by_cases hleft : '\x7b'.utf8Size < left
    · have hstep : step ⟨.unicode chars' high value left, p, q⟩ '\x7b' =
          (⟨.unicode chars' high none (left - '\x7b'.utf8Size), p, q.after '\x7b'⟩, []) := by
        simp [step, hd, hleft]
      rw [hstep] at hin hn
      generalize left - '\x7b'.utf8Size = rest at hin hn
      have hdoomed :=
        run_unicode_none (s := ⟨.unicode chars' high none rest, p, q.after '\x7b'⟩) rfl w
      rcases hdoomed with ⟨⟨left', hu⟩, -⟩ | hk
      · rw [hu] at hin
        cases hin
      · rw [hn.2] at hk
        cases hk
    · simp [step, hd, hleft] at hn
  | blank | word | number | stopped => exact absurd h id

/-- Two literals with the same characters are read in step, one with parts that begin with a brace,
and one with parts that spell texts. -/
theorem run_refill_parts (hm : ∀ a, ∃ w, m a = '\x7b' :: w) (hm' : ∀ a, Spells (m a) (m a))
    (hf : ∀ a, Spells (f a) (v a)) {p : List (Text.Fragment α)} {s s' u : Scan}
    (hs : IsLiteral s.inside) (ho : s.inside.outline = s'.inside.outline)
    (hu : u.inside = s'.inside) {chars : Text}
    (hin : (s.run (Text.refill m p)).1.inside = .string chars)
    (hn : (s.run (Text.refill m p)).2 = []) :
    ∃ chars', (s'.run (Text.refill f p)).1.inside = .string chars' ∧
      (s'.run (Text.refill f p)).2 = [] ∧ readParts v u p = some chars'.reverse := by
  induction p generalizing s s' u with
  | nil =>
    have hin : s.inside = .string chars := hin
    obtain ⟨chars', hs'⟩ := Inside.outline_string (hin ▸ ho)
    exact ⟨chars', hs', rfl, by rw [readParts, hu, hs']⟩
  | cons part p ih =>
    cases part with
    | char c =>
      rw [Text.refill_char] at hin hn
      rw [Text.refill_char]
      simp only [run, List.append_eq_nil_iff] at hin hn ⊢
      obtain ⟨ho', hk⟩ := step_outline ho c
      have hn' : (s'.step c).2 = [] := by
        rw [hn.1] at hk
        exact List.map_eq_nil_iff.1 hk.symm
      obtain ⟨hu', hout⟩ := step_inside hu c
      have hnu : (u.step c).2 = [] := by
        rw [hn'] at hout
        exact List.map_eq_nil_iff.1 hout
      obtain ⟨chars', h1, h2, h3⟩ := ih (isLiteral_step hs hn.1) ho' hu' hin hn.2
      exact ⟨chars', h1, ⟨hn', h2⟩, by rw [readParts, hnu]; exact h3⟩
    | found a =>
      rw [Text.refill_found] at hin hn
      rw [Text.refill_found]
      have hstring : ∃ chars, s.inside = .string chars := by
        obtain ⟨w, hw⟩ := hm a
        rw [hw, List.cons_append] at hin hn
        exact string_of_brace hs hin hn
      obtain ⟨before, hb⟩ := hstring
      obtain ⟨before', hb'⟩ := Inside.outline_string (hb ▸ ho)
      obtain ⟨h1, n1⟩ := hm' a s before hb
      obtain ⟨h2, n2⟩ := hf a s' before' hb'
      simp only [run_append, n1, n2, List.nil_append] at hin hn ⊢
      obtain ⟨chars', h3, n3, h4⟩ := @ih _ _ { u with inside := .string ((v a).reverse ++ before') }
        (by rw [h1]; trivial) (by rw [h1, h2]; rfl) h2.symm hin hn
      exact ⟨chars', h3, n3, by rw [readParts, hu, hb']; exact h4⟩

/-- A literal whose parts are written in another way holds the texts of these parts. -/
theorem Holds.refill (hm : ∀ a, ∃ w, m a = '\x7b' :: w) (hm' : ∀ a, Spells (m a) (m a))
    (hf : ∀ a, Spells (f a) (v a)) {p : List (Text.Fragment α)} {x : Text}
    (h : Holds (Text.refill m p) x) : ∃ y, Holds (Text.refill f p) y ∧ content v p = some y := by
  let s : Scan := ⟨.string [], .start, .start⟩
  obtain ⟨hin, hn⟩ := h s rfl
  have hs : IsLiteral s.inside := trivial
  have ho : s.inside.outline = s.inside.outline := rfl
  obtain ⟨chars, hin', hn', hread⟩ := run_refill_parts (u := s) hm hm' hf hs ho rfl hin hn
  exact ⟨_, Holds.of_run rfl hin' hn', hread⟩

end Scan

end UploadTemplate.Json
