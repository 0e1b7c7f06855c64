import UploadTemplate.Proofs.Json.Literal
import UploadTemplate.Proofs.Json.Outline
import UploadTemplate.Proofs.Text.Cut

/-!
# The insides of string literals

A JSON text is a row of characters and string literals. Other insides for its literals change what
their tokens hold, and nothing else.

- `Json.insides t`: the insides of the literals of `t`, as they are written.
- `Json.mapInsides g t`: the text with other insides.
- `Scan.literal_induction`: induction along a text, one literal at a time.
- `Scan.lexemes_mapInsides`: the tokens of a text with other insides.
-/

namespace UploadTemplate.Json

/-! ### Finding literals -/

/-- What stands before the closing quotation mark of a literal; `escaped` after a backslash. -/
def insideFrom : Bool → Text → Option Text
  | _, [] => none
  | true, c :: r => (insideFrom false r).map (c :: ·)
  | false, c :: r => if c = '"' then some [] else (insideFrom (c = '\\') r).map (c :: ·)

/-- Finds a literal, with its inside. -/
def literalAt : Text.Finder Text
  | [] => none
  | c :: r =>
    if c = '"' then (insideFrom false r).map fun inside => (inside, inside.length + 2) else none

/-- The insides of the literals of a text, as they are written. -/
def insides (t : Text) : List Text :=
  (Text.cut literalAt t).filterMap fun
    | .char _ => none
    | .found inside => some inside

/-- The text with other insides in its literals. -/
def mapInsides (g : Text → Text) (t : Text) : Text :=
  Text.refill (fun inside => inQuotes (g inside)) (Text.cut literalAt t)

theorem eq_of_insideFrom {escaped : Bool} {t inside : Text}
    (h : insideFrom escaped t = some inside) : ∃ r, t = inside ++ '"' :: r := by
  induction t generalizing escaped inside with
  | nil => cases escaped <;> cases h
  | cons c t ih =>
    have hmap {b : Bool} (h : (insideFrom b t).map (c :: ·) = some inside) :
        ∃ r, c :: t = inside ++ '"' :: r := by
      obtain ⟨inside', h', rfl⟩ := Option.map_eq_some_iff.1 h
      obtain ⟨r, rfl⟩ := ih h'
      exact ⟨r, rfl⟩
    cases escaped with
    | true => exact hmap h
    | false =>
      rw [insideFrom] at h
      split at h
      · cases h
        exact ⟨t, by rw [‹c = '"'›]; rfl⟩
      · exact hmap h

theorem mapInsides_id (t : Text) : mapInsides id t = t := by
  refine Text.refill_cut_eq_self fun u v inside n _ hv => ?_
  cases v with
  | nil => cases hv
  | cons c r =>
    rw [literalAt] at hv
    split at hv
    · obtain ⟨_, h, he⟩ := Option.map_eq_some_iff.1 hv
      cases he
      obtain ⟨r', rfl⟩ := eq_of_insideFrom h
      refine ⟨Nat.succ_pos _, ?_⟩
      have hv : c :: (inside ++ '"' :: r') = inQuotes inside ++ r' := by simp [inQuotes, ‹c = '"'›]
      rw [hv, List.take_left' (by simp [inQuotes])]
      rfl
    · cases hv

section Cutting

variable {t r inside : Text}

theorem inQuotes_append (t r : Text) : inQuotes t ++ r = '"' :: (t ++ '"' :: r) := by
  simp [inQuotes]

theorem cut_literal (h : insideFrom false (inside ++ '"' :: r) = some inside) :
    Text.cut literalAt (inQuotes inside ++ r) = .found inside :: Text.cut literalAt r := by
  refine Text.cut_found (List.cons_ne_nil _ _) ?_
  rw [inQuotes_append, literalAt, if_pos rfl, h]
  simp [inQuotes]

theorem cut_char {c : Char} (h : c ≠ '"') :
    Text.cut literalAt (c :: r) = .char c :: Text.cut literalAt r :=
  Text.cut_none (if_neg h)

theorem mapInsides_literal (g : Text → Text)
    (h : insideFrom false (inside ++ '"' :: r) = some inside) :
    mapInsides g (inQuotes inside ++ r) = inQuotes (g inside) ++ mapInsides g r := by
  unfold mapInsides
  rw [cut_literal h, Text.refill_found]

theorem mapInsides_char (g : Text → Text) {c : Char} (h : c ≠ '"') :
    mapInsides g (c :: r) = c :: mapInsides g r := by
  unfold mapInsides
  rw [cut_char h, Text.refill_char]

theorem insides_literal (h : insideFrom false (inside ++ '"' :: r) = some inside) :
    insides (inQuotes inside ++ r) = inside :: insides r := by
  unfold insides
  rw [cut_literal h]
  rfl

theorem insides_char {c : Char} (h : c ≠ '"') : insides (c :: r) = insides r := by
  unfold insides
  rw [cut_char h]
  rfl

end Cutting

/-! ### What is given out -/

namespace Token

/-- A token without the place of a fault. -/
def placeless : Token → Token
  | .broken ⟨cause, _⟩ quoted => .broken ⟨cause, .start⟩ quoted
  | token => token

/-- A token without the content of a string and the place of a fault. -/
def outline : Token → Token
  | .string _ => .string []
  | token => token.placeless

/-- The content of a string. -/
def text? : Token → Option Text
  | .string s => some s
  | _ => none

theorem outline_placeless (t : Token) : t.placeless.outline = t.outline := by cases t <;> rfl

theorem text?_placeless (t : Token) : t.placeless.text? = t.text? := by cases t <;> rfl

theorem kind?_outline (t : Token) : t.outline.kind? = t.kind? := by
  rcases t with _ | _ | _ | _ | _ | _ | _ | _ | _ | _ | _ | ⟨⟨cause, _⟩, _⟩ <;> try rfl
  cases cause <;> rfl

end Token

/-- Tokens without the contents of strings and the places of faults. -/
def outlines (ls : List Lexeme) : List Token := ls.map fun l => l.token.outline

/-- The contents of strings. -/
def texts (ls : List Lexeme) : List Text := ls.filterMap fun l => l.token.text?

theorem outlines_append (a b : List Lexeme) : outlines (a ++ b) = outlines a ++ outlines b :=
  List.map_append

theorem texts_append (a b : List Lexeme) : texts (a ++ b) = texts a ++ texts b :=
  List.filterMap_append

theorem kinds_eq_map_outlines (ls : List Lexeme) : kinds ls = (outlines ls).map Token.kind? := by
  simp [kinds, outlines, Token.kind?_outline, Function.comp_def]

namespace Scan

/-- What is given out from a state to the end of the text. -/
def lexemes (s : Scan) (t : Text) : List Lexeme := (s.run t).2 ++ (s.run t).1.atEnd

theorem lexemes_append (s : Scan) (t r : Text) :
    s.lexemes (t ++ r) = (s.run t).2 ++ (s.run t).1.lexemes r := by
  simp [lexemes, run_append]

theorem lexemes_cons (s : Scan) (c : Char) (r : Text) :
    s.lexemes (c :: r) = (s.step c).2 ++ (s.step c).1.lexemes r := by
  simp [lexemes, run]

/-- Reading on to the end of the text, nothing but tokens of JSON is given out. -/
def NoFault (s : Scan) (t : Text) : Prop := none ∉ kinds (s.lexemes t)

theorem NoFault.run {s : Scan} {t r : Text} (h : NoFault s (t ++ r)) :
    none ∉ kinds (s.run t).2 ∧ NoFault (s.run t).1 r := by
  unfold NoFault at h
  rw [lexemes_append, kinds_append, List.mem_append, not_or] at h
  exact h

theorem NoFault.step {s : Scan} {c : Char} {r : Text} (h : NoFault s (c :: r)) :
    none ∉ kinds (s.step c).2 ∧ NoFault (s.step c).1 r := by
  unfold NoFault at h
  rw [lexemes_cons, kinds_append, List.mem_append, not_or] at h
  exact h

theorem placeless_numberToken (p q : Position) (chars : Text) :
    (numberToken p chars).placeless = (numberToken q chars).placeless := by
  unfold numberToken
  split <;> rfl

theorem text?_numberToken (p : Position) (chars : Text) : (numberToken p chars).text? = none := by
  unfold numberToken
  split <;> rfl

/-- Places do not matter for what is read. -/
theorem step_inside {s s' : Scan} (h : s.inside = s'.inside) (c : Char) :
    (s.step c).1.inside = (s'.step c).1.inside ∧
      (s.step c).2.map (·.token.placeless) = (s'.step c).2.map (·.token.placeless) := by
  obtain ⟨i, p, q⟩ := s
  obtain ⟨_, p', q'⟩ := s'
  cases h
  cases i <;> simp only [step]
  case blank => rcases opening c with ⟨i, _ | t⟩ <;> simp
  case word token left =>
    rcases left with _ | ⟨d, left⟩
    · exact ⟨rfl, rfl⟩
    · by_cases hc : c = d
      · rcases left with _ | ⟨e, left⟩ <;> simp [hc]
      · simp [hc, Token.placeless]
  case number phase chars =>
    rcases phase.next? c with _ | next
    · simp only
      split
      · rcases opening c with ⟨i, _ | t⟩ <;> simp [placeless_numberToken p p']
      · exact ⟨rfl, rfl⟩
    · exact ⟨rfl, rfl⟩
  case string chars =>
    split
    · exact ⟨rfl, rfl⟩
    · split
      · exact ⟨rfl, rfl⟩
      · split <;> exact ⟨rfl, rfl⟩
  case escape chars =>
    split
    · exact ⟨rfl, rfl⟩
    · rcases escaped c with _ | d <;> exact ⟨rfl, rfl⟩
  case unicode chars high value left =>
    split
    · exact ⟨rfl, rfl⟩
    · split
      · exact ⟨rfl, rfl⟩
      · split <;> exact ⟨rfl, rfl⟩
  case lowEscape => split <;> simp [Token.placeless]
  case lowUnicode => split <;> simp [Token.placeless]
  case stopped => simp

theorem outlines_of_placeless {a b : List Lexeme}
    (h : a.map (·.token.placeless) = b.map (·.token.placeless)) : outlines a = outlines b := by
  have hmap (l : List Lexeme) :
      outlines l = (l.map (·.token.placeless)).map Token.outline := by
    simp [outlines, Token.outline_placeless, Function.comp_def]
  rw [hmap, hmap, h]

theorem texts_of_placeless {a b : List Lexeme}
    (h : a.map (·.token.placeless) = b.map (·.token.placeless)) : texts a = texts b := by
  have hmap (l : List Lexeme) :
      texts l = (l.map (·.token.placeless)).filterMap Token.text? := by
    unfold texts
    rw [List.filterMap_map]
    simp only [Function.comp_def, Token.text?_placeless]
  rw [hmap, hmap, h]

theorem run_inside {s s' : Scan} (h : s.inside = s'.inside) (t : Text) :
    (s.run t).1.inside = (s'.run t).1.inside ∧
      (s.run t).2.map (·.token.placeless) = (s'.run t).2.map (·.token.placeless) := by
  induction t generalizing s s' with
  | nil => exact ⟨h, rfl⟩
  | cons c t ih =>
    obtain ⟨hin, hout⟩ := step_inside h c
    obtain ⟨hin', hout'⟩ := ih hin
    exact ⟨hin', by simp only [run, List.map_append, hout, hout']⟩

/-! ### Reading a literal -/

theorem Holds.of_run {s : Scan} (hs : s.inside = .string []) {t chars : Text}
    (hin : (s.run t).1.inside = .string chars) (hn : (s.run t).2 = []) : Holds t chars.reverse := by
  intro s' hs'
  obtain ⟨hin', hout⟩ := run_inside (hs'.trans hs.symm) t
  rw [hn] at hout
  exact ⟨by rw [hin', hin, List.reverse_reverse], List.map_eq_nil_iff.1 hout⟩

/-- A state inside a literal; `escaped` right after a backslash. -/
def InLiteral : Bool → Inside → Prop
  | false, .string _ | true, .escape _ => True
  | false, .unicode _ _ (some _) _ | false, .lowEscape .. | true, .lowUnicode .. => True
  | _, _ => False

/-- A wrong digit of an escape is reported at the end of the escape. -/
theorem run_unicode_none {s : Scan} {chars : Text} {high : Option Nat} {left : Nat}
    (hs : s.inside = .unicode chars high none left) (t : Text) :
    ((∃ left', (s.run t).1.inside = .unicode chars high none left') ∧ (s.run t).2 = []) ∨
      none ∈ kinds (s.run t).2 := by
  induction t generalizing s left with
  | nil => exact .inl ⟨⟨left, hs⟩, rfl⟩
  | cons c t ih =>
    obtain ⟨_, p, q⟩ := s
    cases hs
    by_cases hc : c.utf8Size < left
    · have hstep : step ⟨.unicode chars high none left, p, q⟩ c =
          (⟨.unicode chars high none (left - c.utf8Size), p, q.after c⟩, []) := if_pos hc
      rw [run, hstep]
      exact ih rfl
    · have hstep : step ⟨.unicode chars high none left, p, q⟩ c =
          (⟨.stopped, p, q.after c⟩, [⟨.broken ⟨.invalidEscape, q.within c left⟩ true, p⟩]) :=
        if_neg hc
      rw [run, hstep]
      exact .inr (by simp [kinds, Token.kind?])

theorem not_noFault_unicode_none {s : Scan} {chars : Text} {high : Option Nat} {left : Nat}
    (hs : s.inside = .unicode chars high none left) (t : Text) : ¬ NoFault s t := by
  intro h
  unfold NoFault lexemes at h
  rw [kinds_append, List.mem_append, not_or] at h
  rcases run_unicode_none hs t with ⟨⟨left', hin⟩, -⟩ | hk
  · apply h.2
    unfold atEnd
    rw [hin]
    exact List.mem_cons_self
  · exact h.1 hk

theorem afterUnicode_inLiteral {chars : Text} {high : Option Nat} {n : Nat} {i : Inside}
    (h : afterUnicode chars high n = .ok i) : InLiteral false i := by
  unfold afterUnicode at h
  split at h
  · split at h
    · cases h
    · split at h <;> cases h <;> trivial
  · split at h
    · cases h
      trivial
    · cases h

theorem inLiteral_step_unicode {chars : Text} {high : Option Nat} {v left : Nat} {p q : Position}
    {c : Char} {r : Text} (hf : NoFault ⟨.unicode chars high (some v) left, p, q⟩ (c :: r)) :
    c ≠ '"' ∧ c ≠ '\\' ∧ (step ⟨.unicode chars high (some v) left, p, q⟩ c).2 = [] ∧
      InLiteral false (step ⟨.unicode chars high (some v) left, p, q⟩ c).1.inside := by
  obtain ⟨hk, hf⟩ := hf.step
  cases hd : Numeral.hexValue c with
  | none =>
    by_cases hc : c.utf8Size < left
    · have hstep : step ⟨.unicode chars high (some v) left, p, q⟩ c =
          (⟨.unicode chars high none (left - c.utf8Size), p, q.after c⟩, []) := by
        simp [step, hd, hc]
      rw [hstep] at hf
      exact absurd hf (not_noFault_unicode_none rfl r)
    · simp [step, hd, hc, kinds, Token.kind?] at hk
  | some d =>
    have hq : c ≠ '"' := by rintro rfl; cases hd
    have hb : c ≠ '\\' := by rintro rfl; cases hd
    refine ⟨hq, hb, ?_⟩
    by_cases hc : c.utf8Size < left
    · simp [step, hd, hc, InLiteral]
    · cases ha : afterUnicode chars high (16 * v + d) with
      | error cause =>
        have hcause : cause = .loneSurrogate := by
          unfold afterUnicode at ha
          repeat' split at ha
          all_goals cases ha
          all_goals rfl
        subst hcause
        simp [step, hd, hc, ha, kinds, Token.kind?] at hk
      | ok i => simpa [step, hd, hc, ha] using afterUnicode_inLiteral ha

/-- In a literal, a character ends it or leads on inside. -/
theorem inLiteral_step {s : Scan} {b : Bool} (h : InLiteral b s.inside) {c : Char} {r : Text}
    (hf : NoFault s (c :: r)) :
    (b = false ∧ c = '"' ∧ ∃ chars, s.inside = .string chars) ∨
      (b = true ∨ c ≠ '"') ∧ (s.step c).2 = [] ∧
        InLiteral (!b && c = '\\') (s.step c).1.inside := by
  have hk := hf.step.1
  obtain ⟨i, p, q⟩ := s
  cases b with
  | false =>
    cases i with
    | string chars =>
      by_cases hq : c = '"'
      · exact .inl ⟨rfl, hq, chars, rfl⟩
      · refine .inr ⟨.inr hq, ?_⟩
        by_cases hb : c = '\\'
        · simp [step, hb, InLiteral]
        · by_cases h32 : c.toNat < 32
          · simp [step, hq, hb, h32, kinds, Token.kind?] at hk
          · simp [step, hq, hb, h32, InLiteral]
    | unicode chars high value left =>
      cases value with
      | none => exact absurd h id
      | some v =>
        obtain ⟨hq, hb, hn, hin⟩ := inLiteral_step_unicode hf
        exact .inr ⟨.inr hq, hn, by simpa [hb] using hin⟩
    | lowEscape chars high =>
      by_cases hb : c = '\\'
      · subst hb
        exact .inr ⟨.inr (by decide), rfl, trivial⟩
      · simp [step, hb, kinds, Token.kind?] at hk
    | blank | word | number | escape | lowUnicode | stopped => exact absurd h id
  | true =>
    cases i with
    | escape chars =>
      refine .inr ⟨.inl rfl, ?_⟩
      by_cases hu : c = 'u'
      · simp [step, hu, InLiteral]
      · cases he : escaped c with
        | none => simp [step, hu, he, kinds, Token.kind?] at hk
        | some d => simp [step, hu, he, InLiteral]
    | lowUnicode chars high =>
      by_cases hu : c = 'u'
      · exact .inr ⟨.inl rfl, by simp [step, hu, InLiteral]⟩
      · simp [step, hu, kinds, Token.kind?] at hk
    | blank | word | number | string | unicode | lowEscape | stopped => exact absurd h id

/-- A literal that is read without a fault has an end. -/
theorem exists_inside {s : Scan} {b : Bool} (h : InLiteral b s.inside) {t : Text}
    (hf : NoFault s t) : ∃ inside r chars, t = inside ++ '"' :: r ∧
      insideFrom b t = some inside ∧ (s.run inside).1.inside = .string chars ∧
        (s.run inside).2 = [] := by
  induction t generalizing s b with
  | nil =>
    exfalso
    apply hf
    unfold lexemes
    obtain ⟨i, p, q⟩ := s
    cases b <;> cases i <;> first | exact absurd h id | exact List.mem_cons_self
  | cons c t ih =>
    rcases inLiteral_step h hf with ⟨rfl, rfl, chars, hs⟩ | ⟨hc, hn, hin⟩
    · exact ⟨[], t, chars, rfl, rfl, hs, rfl⟩
    · obtain ⟨inside, r, chars, rfl, hinside, hchars, hrun⟩ := ih hin hf.step.2
      refine ⟨c :: inside, r, chars, rfl, ?_, hchars, by simp only [run, hn, hrun, List.append_nil]⟩
      cases b with
      | true => rw [insideFrom, show insideFrom false _ = _ from hinside, Option.map_some]
      | false =>
        have hq := hc.resolve_left Bool.false_ne_true
        rw [insideFrom, if_neg hq, show insideFrom (c = '\\') _ = _ from hinside, Option.map_some]

/-! ### Outside literals -/

/-- A state outside every literal. -/
def IsOutside : Inside → Prop
  | .blank | .number .. => True
  | .word token left => token.text? = none ∧ ∀ c ∈ left, Text.isAsciiLetter c = true
  | _ => False

theorem isOutside_opening {c : Char} (h : c ≠ '"') : IsOutside (opening c).1 := by
  fun_cases opening c
  case case8 => exact absurd ‹c = '"'› h
  case case9 | case10 | case11 => exact ⟨rfl, List.all_eq_true.1 rfl⟩
  all_goals trivial

theorem text?_opening (c : Char) : (opening c).2.bind Token.text? = none := by
  fun_cases opening c <;> rfl

/-- Outside literals, a quotation mark opens one, and any other character stays outside. -/
theorem isOutside_step {s : Scan} (h : IsOutside s.inside) {c : Char}
    (hk : none ∉ kinds (s.step c).2) :
    texts (s.step c).2 = [] ∧ (c = '"' → (s.step c).1.inside = .string []) ∧
      (c ≠ '"' → IsOutside (s.step c).1.inside) := by
  have ht := text?_opening c
  have hquote : c = '"' → (opening c).1 = .string [] := by rintro rfl; rfl
  have hother : c ≠ '"' → IsOutside (opening c).1 := isOutside_opening
  obtain ⟨i, p, q⟩ := s
  cases i with
  | blank =>
    simp only [step]
    rcases ho : opening c with ⟨i, _ | token⟩ <;> rw [ho] at ht hquote hother
    · exact ⟨rfl, hquote, hother⟩
    · exact ⟨by simpa [texts] using ht, hquote, hother⟩
  | word token left =>
    rcases left with _ | ⟨d, left⟩
    · simp [step, kinds, Token.kind?] at hk
    by_cases hd : c = d
    · have hq : c ≠ '"' := by
        have hl := h.2 c (hd ▸ List.mem_cons_self)
        rintro rfl
        cases hl
      subst hd
      by_cases hleft : left.isEmpty = true
      · exact ⟨by simp [step, hleft, texts, h.1], (absurd · hq),
          fun _ => by simp [step, hleft, IsOutside]⟩
      · have hin : IsOutside (.word token left) :=
          ⟨h.1, fun e he => h.2 e (List.mem_cons_of_mem c he)⟩
        exact ⟨by simp [step, hleft, texts], (absurd · hq),
          fun _ => by simpa [step, hleft] using hin⟩
    · simp [step, hd, kinds, Token.kind?] at hk
  | number phase chars =>
    cases hn : phase.next? c with
    | some next =>
      have hq : c ≠ '"' := by
        rintro rfl
        cases phase <;> cases hn
      exact ⟨by simp [step, hn, texts], (absurd · hq), fun _ => by simp [step, hn, IsOutside]⟩
    | none =>
      by_cases hp : (phase.isComplete && !(phase = .zero && Text.isAsciiDigit c)) = true
      · simp only [step, hn, if_pos hp]
        rcases ho : opening c with ⟨i, _ | token⟩ <;> rw [ho] at ht hquote hother
        · exact ⟨by simp [texts, text?_numberToken], hquote, hother⟩
        · exact ⟨by simpa [texts, text?_numberToken] using ht, hquote, hother⟩
      · simp only [step, hn, if_neg hp] at hk
        simp [kinds, Token.kind?] at hk
  | string | escape | unicode | lowEscape | lowUnicode | stopped => exact absurd h id

/-- Outside literals a brace is a token. -/
theorem blank_of_brace {s : Scan} (h : IsOutside s.inside) (hk : none ∉ kinds (s.step '\x7b').2) :
    (s.step '\x7b').1.inside = .blank := by
  obtain ⟨i, p, q⟩ := s
  cases i with
  | blank => rfl
  | word token left =>
    exfalso
    rcases left with _ | ⟨d, left⟩
    · simp [step, kinds, Token.kind?] at hk
    · have hd : '\x7b' ≠ d := by
        have hl := h.2 d List.mem_cons_self
        rintro rfl
        cases hl
      simp [step, hd, kinds, Token.kind?] at hk
  | number phase chars =>
    cases phase <;> first | rfl | exact absurd List.mem_cons_self hk
  | string | escape | unicode | lowEscape | lowUnicode | stopped => exact absurd h id

/-- A text without faults is read from state to state: a character outside literals, or a literal
as a whole. -/
theorem literal_induction {P : Scan → Text → Prop} (hnil : ∀ s, IsOutside s.inside → P s [])
    (hchar : ∀ s c r, IsOutside s.inside → c ≠ '"' → NoFault s (c :: r) →
      P (s.step c).1 r → P s (c :: r))
    (hliteral : ∀ s inside r x, IsOutside s.inside → (s.step '"').1.inside = .string [] →
      texts (s.step '"').2 = [] → insideFrom false (inside ++ '"' :: r) = some inside →
      Holds inside x → P (s.run (inQuotes inside)).1 r → P s (inQuotes inside ++ r))
    {s : Scan} (hs : IsOutside s.inside) {t : Text} (hf : NoFault s t) : P s t := by
  induction hn : t.length using Nat.strongRecOn generalizing s t with
  | ind n ih =>
    cases t with
    | nil => exact hnil s hs
    | cons c r =>
      obtain ⟨hk, hf'⟩ := hf.step
      obtain ⟨htexts, hquote, hother⟩ := isOutside_step hs hk
      by_cases hc : c = '"'
      · subst hc
        have hopen := hquote rfl
        have hin : InLiteral false (s.step '"').1.inside := by rw [hopen]; trivial
        obtain ⟨inside, r, chars, rfl, hinside, hchars, hrun⟩ := exists_inside hin hf'
        have hholds := Holds.of_run hopen hchars hrun
        have hclosed := (run_literal hopen hholds).1
        rw [← inQuotes_append] at hf hn ⊢
        refine hliteral s inside r _ hs hopen htexts hinside hholds ?_
        refine ih r.length ?_ (by rw [hclosed]; trivial) ?_ rfl
        · rw [← hn, inQuotes_append, List.length_cons, List.length_append, List.length_cons]
          omega
        · exact hf.run.2
      · exact hchar s c r hs hc hf (ih r.length (by simp [← hn]) (hother hc) hf' rfl)

theorem atEnd_inside {s s' : Scan} (hs : IsOutside s.inside) (h : s.inside = s'.inside) :
    outlines s'.atEnd = outlines s.atEnd ∧ texts s'.atEnd = [] := by
  obtain ⟨i, p, q⟩ := s
  obtain ⟨_, p', q'⟩ := s'
  cases h
  cases i with
  | blank => exact ⟨rfl, rfl⟩
  | word token left => exact ⟨rfl, rfl⟩
  | number phase chars =>
    simp only [atEnd]
    split
    · refine ⟨outlines_of_placeless ?_, by simp [texts, text?_numberToken]⟩
      simp [placeless_numberToken p' p]
    · exact ⟨rfl, rfl⟩
  | string | escape | unicode | lowEscape | lowUnicode | stopped => exact absurd hs id

/-- Other insides leave the tokens of a text as they are, except for what its strings hold. That is
`k` of an inside, where the other inside holds it. -/
theorem lexemes_mapInsides {g : Text → Text} {k : Text → Option Text}
    (hg : ∀ inside x, Holds inside x → ∃ y, Holds (g inside) y ∧ k inside = some y) {s : Scan}
    (hs : IsOutside s.inside) {t : Text} (hf : NoFault s t) {s' : Scan} (h : s.inside = s'.inside) :
    outlines (s'.lexemes (mapInsides g t)) = outlines (s.lexemes t) ∧
      (texts (s'.lexemes (mapInsides g t))).map some = (insides t).map k := by
  refine literal_induction (P := fun s t => ∀ s', s.inside = s'.inside →
    outlines (s'.lexemes (mapInsides g t)) = outlines (s.lexemes t) ∧
      (texts (s'.lexemes (mapInsides g t))).map some = (insides t).map k) ?_ ?_ ?_ hs hf s' h
  · intro s hs s' h
    obtain ⟨houtlines, htexts⟩ := atEnd_inside hs h
    exact ⟨houtlines, congrArg (List.map some) htexts⟩
  · intro s c r hs hc hf ih s' h
    obtain ⟨hin, hout⟩ := step_inside h c
    obtain ⟨houtlines, htexts⟩ := ih _ hin
    have hnone : texts (s'.step c).2 = [] :=
      (texts_of_placeless hout).symm.trans (isOutside_step hs hf.step.1).1
    rw [mapInsides_char g hc, insides_char hc, lexemes_cons, lexemes_cons, outlines_append,
      outlines_append, texts_append, hnone, houtlines, outlines_of_placeless hout]
    exact ⟨rfl, htexts⟩
  · intro s inside r x hs hopen hnone hinside hx ih s' h
    obtain ⟨y, hy, hk⟩ := hg inside x hx
    obtain ⟨hin, hout⟩ := step_inside h '"'
    have hnone' : texts (s'.step '"').2 = [] := (texts_of_placeless hout).symm.trans hnone
    obtain ⟨hblank, p, hl⟩ := run_literal hopen hx
    obtain ⟨hblank', p', hl'⟩ := run_literal (hin.symm.trans hopen) hy
    obtain ⟨houtlines, htexts⟩ := ih _ (hblank.trans hblank'.symm)
    rw [mapInsides_literal g hinside, insides_literal hinside, lexemes_append, lexemes_append, hl,
      hl']
    simp only [outlines_append, texts_append, houtlines, hnone', outlines_of_placeless hout]
    refine ⟨rfl, ?_⟩
    rw [List.map_append, htexts, List.map_cons, hk]
    rfl

end Scan

end UploadTemplate.Json
