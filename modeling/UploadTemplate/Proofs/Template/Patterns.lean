import UploadTemplate.Proofs.Query
import UploadTemplate.Proofs.Template.Dollar
import UploadTemplate.Proofs.Text.Cut
import UploadTemplate.Template.Registry

/-!
# Numbers of patterns

In an older template a call of a regular expression gives the number of its pattern. The numbers are
found in the text of the rewritten template, by the characters before and behind them, and not in
its calls. So the name has to be written in one way, and an opening brace may also be an escaped
one.

- `Dollar.reference?`: the pattern that a text is the number of.
- `inlinePatterns_reference`, `inlinePatterns_cons`: the search comes to a number, or passes on.
- `Document.inlined`: a document with the patterns that are put into it.
- `Document.referring`: a document with patterns in the calls of regular expressions.
- `expand_inlinePatterns`: what a rewritten template with its patterns says, and when that is what
  its calls ask for.
-/

namespace UploadTemplate.Dollar

open Template Document

/-! ### References -/

/-- The pattern that a text is the number of. -/
def reference? (patterns : List Text) (t : Text) : Option Text :=
  if t.all Text.isAsciiDigit then patternAt? patterns t else none

/-- The pattern whose number is all that follows the beginning of a call of a regular expression. -/
def onlyReference? (patterns : List Text) (t : Text) : Option Text :=
  if (patternCall .standard).isPrefixOf t then
    reference? patterns (t.drop (patternCall .standard).length)
  else none

/-- What a call of a regular expression begins with, without its brace. -/
def afterBrace : Text := "regex:"

theorem patternCall_eq : patternCall .standard = '\x7b' :: afterBrace := rfl

variable {patterns : List Text}

theorem onlyReference?_brace (numeral : Text) :
    onlyReference? patterns ('\x7b' :: (afterBrace ++ numeral)) = reference? patterns numeral := by
  have hprefix : patternCall .standard <+: '\x7b' :: (afterBrace ++ numeral) := ⟨numeral, rfl⟩
  rw [onlyReference?, if_pos (List.isPrefixOf_iff_prefix.2 hprefix)]
  rfl

theorem onlyReference?_eq_some {c : Char} {t x : Text}
    (h : onlyReference? patterns (c :: t) = some x) :
    c = '\x7b' ∧ ∃ numeral, t = afterBrace ++ numeral ∧ reference? patterns numeral = some x := by
  unfold onlyReference? at h
  split at h
  · rename_i hprefix
    obtain ⟨numeral, ht⟩ := List.isPrefixOf_iff_prefix.1 hprefix
    rw [← ht, List.drop_left] at h
    obtain ⟨rfl, rfl⟩ := List.cons.inj (patternCall_eq ▸ ht)
    exact ⟨rfl, numeral, rfl, h⟩
  · cases h

theorem reference?_eq_some {t x : Text} (h : reference? patterns t = some x) :
    (∀ c ∈ t, Text.isAsciiDigit c = true) ∧ patternAt? patterns t = some x := by
  unfold reference? at h
  split at h
  · exact ⟨List.all_eq_true.1 ‹_›, h⟩
  · cases h

/-! ### Texts under the marks -/

theorem not_mem_of_all {special : List Char} {t : Text}
    (h : (t.all fun c => c ∉ special) = true) : ∀ c ∈ t, c ∉ special :=
  fun c hc => of_decide_eq_true (List.all_eq_true.1 h c hc)

/-- A text without special characters needs no backslash. -/
theorem Quoted.self {special : List Char} {t : Text} (h : ∀ c ∈ t, c ∉ special) :
    Quoted special t t := by
  induction t with
  | nil => exact .nil
  | cons c t ih =>
    obtain ⟨hc, ht⟩ := List.forall_mem_cons.1 h
    exact .plain hc (ih ht)

/-- The text under the marks. -/
def literals (t : Text) : Text := t.flatMap (literal .standard)

/-- A character that gets no escape. -/
def IsBare (c : Char) : Prop := literal .standard c = [c]

instance (c : Char) : Decidable (IsBare c) := inferInstanceAs (Decidable (_ = _))

/-- A mark that ends a parameter. -/
def IsEnd (c : Char) : Prop := c = '|' ∨ c = '\x7d'

instance (c : Char) : Decidable (IsEnd c) := inferInstanceAs (Decidable (_ ∨ _))

theorem literals_cons (c : Char) (t : Text) :
    literals (c :: t) = literal .standard c ++ literals t := List.flatMap_cons

theorem literals_append (s t : Text) : literals (s ++ t) = literals s ++ literals t :=
  List.flatMap_append

theorem bare_or_escaped (c : Char) : IsBare c ∨ literal .standard c = ['\\', c] := by
  unfold IsBare literal
  split
  · exact .inr rfl
  · exact .inl rfl

theorem isBare_of_isAsciiDigit {c : Char} (h : Text.isAsciiDigit c = true) : IsBare c := by
  refine (bare_or_escaped c).resolve_right fun he => ?_
  unfold literal at he
  split at he
  · rename_i hc
    simp only [Marks.isSpecial, Bool.or_eq_true, decide_eq_true_eq] at hc
    obtain ⟨(((rfl | rfl) | rfl) | rfl) | rfl, -⟩ := hc <;> revert h <;> decide
  · cases he

theorem isBare_afterBrace : ∀ c ∈ afterBrace, IsBare c := by
  have hall : (afterBrace.all fun c => IsBare c) = true := by decide
  exact fun c hc => of_decide_eq_true (List.all_eq_true.1 hall c hc)

theorem not_isBare_of_isEnd {c : Char} (h : IsEnd c) : ¬ IsBare c := by
  rcases h with rfl | rfl <;> decide

theorem ne_escape_of_isEnd {c : Char} (h : IsEnd c) : '\\' ≠ c := by
  rcases h with rfl | rfl <;> decide

theorem literals_of_isBare {t : Text} (h : ∀ c ∈ t, IsBare c) : literals t = t := by
  induction t with
  | nil => rfl
  | cons c t ih =>
    obtain ⟨hc, ht⟩ := List.forall_mem_cons.1 h
    rw [literals_cons, ih ht, hc]
    rfl

/-- Up to the first mark that ends a parameter a text is what it was before. -/
theorem literals_append_end {t u r r' : Text} {c c' : Char} (hc : IsEnd c) (hc' : IsEnd c')
    (hu : ∀ a ∈ u, IsBare a) (h : literals t ++ c :: r = u ++ c' :: r') : t = u := by
  induction t generalizing u with
  | nil =>
    cases u with
    | nil => rfl
    | cons a u =>
      obtain ⟨rfl, -⟩ := List.cons.inj h
      exact absurd (hu c List.mem_cons_self) (not_isBare_of_isEnd hc)
  | cons a t ih =>
    rw [literals_cons] at h
    rcases bare_or_escaped a with ha | ha
    · rw [ha] at h
      cases u with
      | nil =>
        obtain ⟨rfl, -⟩ := List.cons.inj h
        exact absurd ha (not_isBare_of_isEnd hc')
      | cons b u =>
        obtain ⟨rfl, hrest⟩ := List.cons.inj h
        rw [ih (fun d hd => hu d (List.mem_cons_of_mem _ hd)) hrest]
    · rw [ha] at h
      cases u with
      | nil => exact absurd (List.cons.inj h).1 (ne_escape_of_isEnd hc')
      | cons b u =>
        obtain ⟨rfl, -⟩ := List.cons.inj h
        exact absurd (hu _ List.mem_cons_self) (by decide)

theorem rendering_escapeText (t : Text) :
    Rendering .standard .text (letters t) (Marks.standard.escapeText t) := by
  induction t with
  | nil => exact .nil _
  | cons c t ih =>
    rw [Marks.escapeText, List.flatMap_cons, ← Marks.escapeText]
    split
    · exact .escaped c ih
    · rename_i hc
      refine .plain ?_ ih
      simp only [Marks.isSpecial, Bool.or_eq_true, decide_eq_true_eq, not_or] at hc
      simp [needsEscape, hc]

/-! ### The search -/

/-- The beginning of a call of a regular expression with the number of a pattern. -/
def AtReference (patterns : List Text) (t : Text) : Prop :=
  ∃ numeral c r, t = '\x7b' :: (afterBrace ++ (numeral ++ c :: r)) ∧ IsEnd c ∧
    (reference? patterns numeral).isSome = true

theorem inlinePatterns_of_ne {c : Char} (h : c ≠ '\x7b') (r : Text) :
    inlinePatterns .standard patterns (c :: r) = c :: inlinePatterns .standard patterns r := by
  have hprefix : ¬ (patternCall .standard).isPrefixOf (c :: r) = true := by
    rw [List.isPrefixOf_iff_prefix, patternCall_eq, List.cons_prefix_cons]
    exact fun hc => h hc.1.symm
  have hfind : referenceAt .standard patterns (c :: r) = none := if_neg hprefix
  unfold inlinePatterns
  rw [Text.cut_none hfind, Text.refill_char]

theorem inlinePatterns_append {w : Text} (h : '\x7b' ∉ w) (r : Text) :
    inlinePatterns .standard patterns (w ++ r) = w ++ inlinePatterns .standard patterns r := by
  induction w with
  | nil => rfl
  | cons c w ih =>
    obtain ⟨hc, hw⟩ := not_or.1 (mt List.mem_cons.2 h)
    rw [List.cons_append, inlinePatterns_of_ne (Ne.symm hc), ih hw, List.cons_append]

theorem digits_of_isEnd {numeral r : Text} {c : Char}
    (h : ∀ a ∈ numeral, Text.isAsciiDigit a = true) (hc : IsEnd c) :
    (numeral ++ c :: r).takeWhile Text.isAsciiDigit = numeral ∧
      (numeral ++ c :: r).dropWhile Text.isAsciiDigit = c :: r := by
  have hend : Text.isAsciiDigit c = false := by rcases hc with rfl | rfl <;> rfl
  rw [List.takeWhile_append_of_pos h, List.dropWhile_append_of_pos h,
    List.takeWhile_cons_of_neg (by simp [hend]), List.dropWhile_cons_of_neg (by simp [hend]),
    List.append_nil]
  exact ⟨rfl, rfl⟩

theorem referenceAt_brace (t : Text) :
    referenceAt .standard patterns ('\x7b' :: (afterBrace ++ t)) =
    match if ((t.dropWhile Text.isAsciiDigit).head?.any fun c => c = '|' || c = '\x7d') = true then
        patternAt? patterns (t.takeWhile Text.isAsciiDigit) else none with
    | some x => some (patternCall .standard ++ Marks.standard.escapeText x,
        (patternCall .standard).length + (t.takeWhile Text.isAsciiDigit).length)
    | none => some (patternCall .standard, (patternCall .standard).length) := by
  have hprefix : patternCall .standard <+: '\x7b' :: (afterBrace ++ t) := ⟨t, rfl⟩
  unfold referenceAt
  rw [if_pos (List.isPrefixOf_iff_prefix.2 hprefix)]
  rfl

/-- The number of a pattern makes way for the pattern. -/
theorem inlinePatterns_reference {numeral x r : Text} {c : Char}
    (h : reference? patterns numeral = some x) (hc : IsEnd c) :
    inlinePatterns .standard patterns ('\x7b' :: (afterBrace ++ (numeral ++ c :: r))) =
      '\x7b' :: (afterBrace ++ (Marks.standard.escapeText x ++
        inlinePatterns .standard patterns (c :: r))) := by
  obtain ⟨hdigits, hx⟩ := reference?_eq_some h
  obtain ⟨htake, hdrop⟩ := digits_of_isEnd (r := r) hdigits hc
  have hends : ((c :: r).head?.any fun c => c = '|' || c = '\x7d') = true := by
    rcases hc with rfl | rfl <;> rfl
  have hfind : referenceAt .standard patterns ((patternCall .standard ++ numeral) ++ c :: r) =
      some (patternCall .standard ++ Marks.standard.escapeText x,
        (patternCall .standard ++ numeral).length) := by
    rw [List.append_assoc, patternCall_eq, List.cons_append, referenceAt_brace, htake, hdrop,
      if_pos hends, hx, List.length_append]
    rfl
  have hne : patternCall .standard ++ numeral ≠ [] :=
    List.append_ne_nil_of_left_ne_nil (List.cons_ne_nil _ _) _
  have hassoc : '\x7b' :: (afterBrace ++ (numeral ++ c :: r)) =
      (patternCall .standard ++ numeral) ++ c :: r := by
    rw [List.append_assoc]
    rfl
  unfold inlinePatterns
  rw [hassoc, Text.cut_found hne hfind, Text.refill_found, id, List.append_assoc]
  rfl

theorem atReference_of_head {t : Text} {x : Text}
    (hend : ((t.dropWhile Text.isAsciiDigit).head?.any fun c => c = '|' || c = '\x7d') = true)
    (hx : patternAt? patterns (t.takeWhile Text.isAsciiDigit) = some x) :
    AtReference patterns ('\x7b' :: (afterBrace ++ t)) := by
  cases hrest : t.dropWhile Text.isAsciiDigit with
  | nil =>
    rw [hrest] at hend
    cases hend
  | cons c r =>
    rw [hrest] at hend
    have hdigits : (t.takeWhile Text.isAsciiDigit).all Text.isAsciiDigit = true :=
      List.all_takeWhile
    have hreference : reference? patterns (t.takeWhile Text.isAsciiDigit) = some x := by
      rw [reference?, if_pos hdigits, hx]
    refine ⟨t.takeWhile Text.isAsciiDigit, c, r, ?_, by simpa [IsEnd] using hend, ?_⟩
    · rw [← hrest, List.takeWhile_append_dropWhile]
    · rw [hreference]
      rfl

/-- Anywhere else the search passes on, also where a call of a regular expression begins. -/
theorem inlinePatterns_cons {c : Char} {r : Text} (h : ¬ AtReference patterns (c :: r)) :
    inlinePatterns .standard patterns (c :: r) = c :: inlinePatterns .standard patterns r := by
  by_cases hprefix : patternCall .standard <+: c :: r
  · obtain ⟨t, ht⟩ := hprefix
    obtain ⟨rfl, rfl⟩ : '\x7b' = c ∧ afterBrace ++ t = r := List.cons.inj ht
    have hfind : referenceAt .standard patterns (patternCall .standard ++ t) =
        some (patternCall .standard, (patternCall .standard).length) := by
      rw [patternCall_eq, List.cons_append, referenceAt_brace]
      split
      · rename_i x hx
        split at hx
        · exact absurd (atReference_of_head ‹_› hx) h
        · cases hx
      · rfl
    have hcut : Text.cut (referenceAt .standard patterns) ('\x7b' :: (afterBrace ++ t)) =
        .found (patternCall .standard) :: Text.cut (referenceAt .standard patterns) t :=
      Text.cut_found (List.cons_ne_nil _ _) hfind
    have hpass : inlinePatterns .standard patterns (afterBrace ++ t) =
        afterBrace ++ inlinePatterns .standard patterns t := inlinePatterns_append (by decide) t
    unfold inlinePatterns at hpass ⊢
    rw [hcut, Text.refill_found, hpass]
    rfl
  · have hfind : referenceAt .standard patterns (c :: r) = none :=
      if_neg (mt List.isPrefixOf_iff_prefix.1 hprefix)
    unfold inlinePatterns
    rw [Text.cut_none hfind, Text.refill_char]

/-- Without patterns nothing is put in. -/
theorem inlinePatterns_nil (t : Text) : inlinePatterns .standard [] t = t := by
  have hnone (numeral : Text) : reference? [] numeral = none := by
    unfold reference? patternAt?
    split
    · split <;> rfl
    · rfl
  induction t with
  | nil => rfl
  | cons c t ih =>
    have hpass : ¬ AtReference [] (c :: t) := by
      rintro ⟨numeral, _, _, -, -, hsome⟩
      rw [hnone] at hsome
      cases hsome
    rw [inlinePatterns_cons hpass, ih]

/-! ### Texts of calls -/

/-- A text with the pattern in the place of a number at its end that follows the beginning of a call
of a regular expression. -/
def referred (patterns : List Text) : Text → Text
  | [] => []
  | c :: r =>
    match onlyReference? patterns (c :: r) with
    | some x => patternCall .standard ++ x
    | none => c :: referred patterns r

/-- A parameter behind `before` and an argument mark. -/
def firstReferred (patterns : List Text) (before p : Text) : Text :=
  if "\x7bregex".toList <:+ before then (reference? patterns p).getD (referred patterns p)
  else referred patterns p

theorem referred_cons_of_ne {c : Char} (h : c ≠ '\x7b') (r : Text) :
    referred patterns (c :: r) = c :: referred patterns r := by
  have hnone : onlyReference? patterns (c :: r) = none :=
    Option.eq_none_iff_forall_ne_some.2 fun x hx => h (onlyReference?_eq_some hx).1
  rw [referred, hnone]

theorem referred_reference {numeral x : Text} (h : reference? patterns numeral = some x) :
    referred patterns ('\x7b' :: (afterBrace ++ numeral)) = '\x7b' :: (afterBrace ++ x) := by
  rw [referred, onlyReference?_brace, h]
  rfl

theorem isBare_reference {numeral x : Text} (h : reference? patterns numeral = some x) :
    ∀ c ∈ afterBrace ++ numeral, IsBare c := by
  intro c hc
  rcases List.mem_append.1 hc with hc | hc
  · exact isBare_afterBrace c hc
  · exact isBare_of_isAsciiDigit ((reference?_eq_some h).1 c hc)

/-- A text under the marks up to the end of a parameter begins a reference only if it is one. -/
theorem atReference_literals {c : Char} {t r : Text} (hc : IsEnd c)
    (h : AtReference patterns ('\x7b' :: (literals t ++ c :: r))) :
    ∃ numeral x, t = afterBrace ++ numeral ∧ reference? patterns numeral = some x := by
  obtain ⟨numeral, c', r', ht, hc', hsome⟩ := h
  obtain ⟨x, hx⟩ := Option.isSome_iff_exists.1 hsome
  have hrest := (List.cons.inj ht).2
  rw [← List.append_assoc] at hrest
  exact ⟨numeral, x, literals_append_end hc hc' (isBare_reference hx) hrest, hx⟩

theorem literals_reference {numeral x : Text} (h : reference? patterns numeral = some x) :
    literals numeral = numeral :=
  literals_of_isBare fun c hc => isBare_of_isAsciiDigit ((reference?_eq_some h).1 c hc)

theorem literals_afterBrace : literals afterBrace = afterBrace := by decide

theorem inlinePatterns_literal {c : Char} (h : c ≠ '\x7b') (r : Text) :
    inlinePatterns .standard patterns (literal .standard c ++ r) =
      literal .standard c ++ inlinePatterns .standard patterns r := by
  refine inlinePatterns_append ?_ r
  rcases bare_or_escaped c with hc | hc <;> rw [hc] <;> simp [Ne.symm h]

/-- One more character, with its escape if it takes one. -/
theorem rendering_literal {c : Char} {t : Template} {s : Text}
    (h : Rendering .standard .text t s) :
    Rendering .standard .text (.char c :: t) (literal .standard c ++ s) := by
  have hone : Rendering .standard .text (letters [c] ++ t) ([c].flatMap (literal .standard) ++ s) :=
    rendering_literals nofun h
  simpa [letters] using hone

/-- A pattern behind an escaped brace and the beginning of a call. -/
theorem rendering_pattern (x : Text) :
    Rendering .standard .text (letters ('\x7b' :: (afterBrace ++ x)))
      ('\\' :: '\x7b' :: (afterBrace ++ Marks.standard.escapeText x)) := by
  have hpattern : Rendering .standard .text (letters afterBrace ++ letters x)
      (literals afterBrace ++ Marks.standard.escapeText x) :=
    rendering_literals nofun (rendering_escapeText x)
  have hletters : letters ('\x7b' :: (afterBrace ++ x)) =
      .char '\x7b' :: (letters afterBrace ++ letters x) := by simp [letters]
  rw [literals_afterBrace] at hpattern
  rw [hletters]
  exact .escaped '\x7b' hpattern

/-- A parameter, up to the mark at its end. -/
theorem inlinePatterns_literals (patterns : List Text) {c : Char} (hc : IsEnd c) (t r : Text) :
    ∃ w, inlinePatterns .standard patterns (literals t ++ c :: r) =
        w ++ inlinePatterns .standard patterns (c :: r) ∧
      Rendering .standard .text (letters (referred patterns t)) w := by
  induction t with
  | nil => exact ⟨[], rfl, .nil _⟩
  | cons a t ih =>
    obtain ⟨w, hw, hrendering⟩ := ih
    rw [literals_cons, List.append_assoc]
    by_cases ha : a = '\x7b'
    · subst ha
      have hescape : inlinePatterns .standard patterns
          (literal .standard '\x7b' ++ (literals t ++ c :: r)) =
          '\\' :: inlinePatterns .standard patterns ('\x7b' :: (literals t ++ c :: r)) :=
        inlinePatterns_of_ne (by decide) _
      rw [hescape]
      cases honly : onlyReference? patterns ('\x7b' :: t) with
      | some x =>
        obtain ⟨-, numeral, rfl, hx⟩ := onlyReference?_eq_some honly
        refine ⟨'\\' :: '\x7b' :: (afterBrace ++ Marks.standard.escapeText x), ?_, ?_⟩
        · rw [literals_append, literals_reference hx, literals_afterBrace, List.append_assoc,
            inlinePatterns_reference hx hc]
          simp
        · rw [referred_reference hx]
          exact rendering_pattern x
      | none =>
        have hpass : ¬ AtReference patterns ('\x7b' :: (literals t ++ c :: r)) := by
          intro h
          obtain ⟨numeral, x, rfl, hx⟩ := atReference_literals hc h
          rw [onlyReference?_brace, hx] at honly
          cases honly
        rw [inlinePatterns_cons hpass, hw, referred, honly]
        exact ⟨'\\' :: '\x7b' :: w, rfl, .escaped _ hrendering⟩
    · rw [inlinePatterns_literal ha, hw, referred_cons_of_ne ha]
      exact ⟨literal .standard a ++ w, (List.append_assoc _ _ _).symm, rendering_literal hrendering⟩

theorem firstReferred_of_ne {c : Char} (h : c ≠ '\x7b') (n p : Text) :
    firstReferred patterns (c :: n) p = firstReferred patterns n p := by
  have hsuffix : "\x7bregex".toList <:+ c :: n ↔ "\x7bregex".toList <:+ n := by
    rw [List.suffix_cons_iff]
    exact or_iff_right fun he => h (List.cons.inj he).1.symm
  simp only [firstReferred, hsuffix]

theorem firstReferred_brace {n p : Text}
    (h : n = "regex".toList → reference? patterns p = none) :
    firstReferred patterns ('\x7b' :: n) p = firstReferred patterns n p := by
  by_cases hn : n = "regex".toList
  · subst hn
    simp only [firstReferred, h rfl, Option.getD_none, ite_self]
  · have hsuffix : "\x7bregex".toList <:+ '\x7b' :: n ↔ "\x7bregex".toList <:+ n := by
      rw [List.suffix_cons_iff]
      exact or_iff_right fun he => hn (List.cons.inj he).2.symm
    simp only [firstReferred, hsuffix]

/-- A name that an unescaped brace stands before, with the parameter behind it. -/
theorem inlinePatterns_brace {c : Char} (hc : IsEnd c) {n p r : Text} (hn : ':' ∉ n)
    (h : ∃ w, inlinePatterns .standard patterns (literals n ++ ':' :: (literals p ++ c :: r)) =
        literals n ++ ':' :: (w ++ inlinePatterns .standard patterns (c :: r)) ∧
      Rendering .standard .text (letters (firstReferred patterns n p)) w) :
    ∃ w, inlinePatterns .standard patterns
        ('\x7b' :: (literals n ++ ':' :: (literals p ++ c :: r))) =
        '\x7b' :: (literals n ++ ':' :: (w ++ inlinePatterns .standard patterns (c :: r))) ∧
      Rendering .standard .text (letters (firstReferred patterns ('\x7b' :: n) p)) w := by
  have hone : literals n ++ ':' :: (literals p ++ c :: r) = literals (n ++ ':' :: p) ++ c :: r := by
    rw [literals_append, literals_cons, List.append_assoc]
    rfl
  by_cases hat : AtReference patterns ('\x7b' :: (literals n ++ ':' :: (literals p ++ c :: r)))
  · rw [hone] at hat
    obtain ⟨numeral, x, hsplit, hx⟩ := atReference_literals hc hat
    have hregex : ':' ∉ "regex".toList := by decide
    obtain ⟨rfl, rfl⟩ : n = "regex".toList ∧ p = numeral := by
      have hsplit : n ++ ':' :: p = "regex".toList ++ ':' :: numeral := hsplit
      have hpair := Text.splitOnce_append hn p
      rw [hsplit, Text.splitOnce_append hregex] at hpair
      cases hpair
      exact ⟨rfl, rfl⟩
    refine ⟨Marks.standard.escapeText x, ?_, ?_⟩
    · rw [literals_reference hx]
      exact inlinePatterns_reference hx hc
    · rw [firstReferred, if_pos (by decide), hx]
      exact rendering_escapeText x
  · obtain ⟨w, hw, hrendering⟩ := h
    rw [inlinePatterns_cons hat, hw, firstReferred_brace]
    · exact ⟨w, rfl, hrendering⟩
    · rintro rfl
      refine Option.eq_none_iff_forall_ne_some.2 fun x hx => hat ⟨p, c, r, ?_, hc, ?_⟩
      · rw [literals_reference hx]
        rfl
      · rw [hx]
        rfl

theorem inlinePatterns_name {c : Char} (hc : IsEnd c) {n : Text} (hn : ':' ∉ n) (p r : Text) :
    ∃ w, inlinePatterns .standard patterns (literals n ++ ':' :: (literals p ++ c :: r)) =
        literals n ++ ':' :: (w ++ inlinePatterns .standard patterns (c :: r)) ∧
      Rendering .standard .text (letters (firstReferred patterns n p)) w := by
  induction n with
  | nil =>
    obtain ⟨w, hw, hrendering⟩ := inlinePatterns_literals patterns hc p r
    refine ⟨w, ?_, hrendering⟩
    exact (inlinePatterns_of_ne (by decide) _).trans (congrArg _ hw)
  | cons a n ih =>
    have hrest : ':' ∉ n := fun h => hn (List.mem_cons_of_mem a h)
    rw [literals_cons, List.append_assoc]
    by_cases ha : a = '\x7b'
    · subst ha
      obtain ⟨w, hw, hrendering⟩ := inlinePatterns_brace hc hrest (ih hrest)
      refine ⟨w, ?_, hrendering⟩
      exact (inlinePatterns_of_ne (by decide) _).trans (congrArg _ hw)
    · obtain ⟨w, hw, hrendering⟩ := ih hrest
      rw [inlinePatterns_literal ha, hw, firstReferred_of_ne ha]
      exact ⟨w, (List.append_assoc _ _ _).symm, hrendering⟩

/-- The parameters of a call, up to its end; the first of them may be another one by then. -/
theorem renderingAll_inlinePatterns {ps : List Text} {b rest s' : Text} (h : Parameters ps b)
    (hr : toMarksFrom .standard true rest = '\x7d' :: s') :
    ∃ p ps' c r, ps = p :: ps' ∧ IsEnd c ∧
      toMarksFrom .standard true (b ++ rest) = literals p ++ c :: r ∧
      ∀ {q w : Text}, Rendering .standard .text (letters q) w → ∃ w',
        w ++ inlinePatterns .standard patterns (c :: r) =
          w' ++ '\x7d' :: inlinePatterns .standard patterns s' ∧
        RenderingAll .standard ((q :: ps'.map (referred patterns)).map letters) w' := by
  induction h with
  | @last p a hq =>
    refine ⟨p, [], '\x7d', s', rfl, .inr rfl, ?_, fun {q w} hrendering => ⟨w, ?_, .last hrendering⟩⟩
    · rw [toMarksFrom_quoted hq (by decide) (by decide), hr]
      rfl
    · rw [inlinePatterns_of_ne (by decide)]
  | @more p a b ps hq _ ih =>
    obtain ⟨p', ps', c, r, rfl, hc, hb, hmore⟩ := ih
    refine ⟨p, p' :: ps', '|', literals p' ++ c :: r, rfl, .inl rfl, ?_, fun {q w} hrendering => ?_⟩
    · rw [List.append_assoc, toMarksFrom_quoted hq (by decide) (by decide), List.cons_append,
        toMarksFrom_bar, hb]
      rfl
    · obtain ⟨w₁, hw₁, hfirst⟩ := inlinePatterns_literals patterns hc p' r
      obtain ⟨w₂, hw₂, hrest⟩ := hmore hfirst
      refine ⟨w ++ '|' :: w₂, ?_, .more hrendering hrest⟩
      rw [inlinePatterns_of_ne (by decide), hw₁, hw₂]
      simp

/-! ### Texts between calls -/

/-- No mark that ends a parameter comes before the first other mark. -/
def IsOutside (t : Text) : Prop :=
  ∀ u c r, (∀ a ∈ u, IsBare a) → IsEnd c → t ≠ u ++ c :: r

theorem isOutside_nil : IsOutside [] := by
  intro u c r _ _ h
  cases u <;> cases h

theorem isOutside_cons_of_not_isBare {c : Char} (h : ¬ IsBare c) (he : ¬ IsEnd c) (t : Text) :
    IsOutside (c :: t) := by
  intro u c' r hu hc' ht
  cases u with
  | nil => exact he ((List.cons.inj ht).1 ▸ hc')
  | cons a u => exact h ((List.cons.inj ht).1 ▸ hu a List.mem_cons_self)

theorem IsOutside.literals {t r : Text} (h : IsOutside r) : IsOutside (literals t ++ r) := by
  induction t with
  | nil => exact h
  | cons c t ih =>
    rw [literals_cons]
    rcases bare_or_escaped c with hc | hc
    · rw [hc]
      intro u c' r' hu hc' ht
      cases u with
      | nil =>
        obtain ⟨rfl, -⟩ := List.cons.inj ht
        exact not_isBare_of_isEnd hc' hc
      | cons a u =>
        exact ih u c' r' (fun d hd => hu d (List.mem_cons_of_mem a hd)) hc' (List.cons.inj ht).2
    · rw [hc]
      exact isOutside_cons_of_not_isBare (by decide) (by decide) _

theorem isOutside_toMarks {d : Document} {s : Text} (h : Writing d s) :
    IsOutside (toMarks .standard s) := by
  have hopening (t : Text) : IsOutside ('\x7b' :: t) :=
    isOutside_cons_of_not_isBare (by decide) (by decide) t
  unfold toMarks
  induction h with
  | nil => exact isOutside_nil
  | literal hq _ ih =>
    rw [toMarksFrom_quoted hq (by decide) (by decide)]
    exact ih.literals
  | call hi _ _ =>
    rw [List.cons_append, toMarksFrom_dollar]
    exact hopening _
  | unclosed hi =>
    rw [toMarksFrom_dollar]
    exact hopening _

/-- A text in which no reference begins. -/
theorem inlinePatterns_pass {t r : Text}
    (h : ∀ v, v <:+ t → ¬ AtReference patterns ('\x7b' :: (literals v ++ r))) :
    inlinePatterns .standard patterns (literals t ++ r) =
      literals t ++ inlinePatterns .standard patterns r := by
  induction t with
  | nil => rfl
  | cons c t ih =>
    have ih := ih fun v hv => h v (hv.trans (List.suffix_cons c t))
    rw [literals_cons, List.append_assoc, List.append_assoc, ← ih]
    by_cases hc : c = '\x7b'
    · subst hc
      refine (inlinePatterns_of_ne (by decide) _).trans (congrArg _ ?_)
      exact inlinePatterns_cons (h t (List.suffix_cons _ t))
    · exact inlinePatterns_literal hc _

theorem inlinePatterns_outside {t r : Text} (h : IsOutside r) :
    inlinePatterns .standard patterns (literals t ++ r) =
      literals t ++ inlinePatterns .standard patterns r := by
  refine inlinePatterns_pass fun v _ hat => ?_
  obtain ⟨numeral, c, r', ht, hc, hsome⟩ := hat
  obtain ⟨x, hx⟩ := Option.isSome_iff_exists.1 hsome
  have hrest := (List.cons.inj ht).2
  rw [← List.append_assoc] at hrest
  exact h.literals _ c r' (isBare_reference hx) hc hrest

/-! ### Documents -/

/-- The parameters of a call with this name, with the patterns that are put into them. -/
def inlinedParameters (patterns : List Text) (name : Text) : List Text → List Text
  | [] => []
  | p :: ps => firstReferred patterns ('\x7b' :: name) p :: ps.map (referred patterns)

def Part.inlined (patterns : List Text) : Part → Part
  | .literal t => .literal t
  | .call name parameters => .call name (inlinedParameters patterns name parameters)

/-- The document with the patterns that are put into it. -/
def Document.inlined (patterns : List Text) (d : Document) : Document :=
  d.map (Part.inlined patterns)

theorem rendering_inlinedInside (patterns : List Text) {n a rest s' : Text} {ps : List Text}
    {t : Template} (h : Inside n ps a) (hr : toMarksFrom .standard true rest = '\x7d' :: s')
    (ht : Rendering .standard .text t (inlinePatterns .standard patterns s')) :
    Rendering .standard .text
      (.call (letters n) ((inlinedParameters patterns n ps).map letters) :: t)
      (inlinePatterns .standard patterns
        ('\x7b' :: toMarksFrom .standard true (a ++ rest))) := by
  cases h with
  | bare hn hq =>
    have hnone (v : Text) (hv : v <:+ n) :
        ¬ AtReference patterns ('\x7b' :: (literals v ++ '\x7d' :: s')) := by
      intro hat
      obtain ⟨numeral, x, rfl, -⟩ := atReference_literals (.inr rfl) hat
      exact hn (hv.subset (List.mem_append_left _ (by decide)))
    have hliterals : toMarksFrom .standard true (a ++ rest) = literals n ++ '\x7d' :: s' := by
      rw [toMarksFrom_quoted hq (by decide) (by decide), hr]
      rfl
    rw [hliterals, inlinePatterns_cons (hnone n (List.suffix_refl n)), inlinePatterns_pass hnone,
      inlinePatterns_of_ne (by decide)]
    exact .bare (rendering_letters fun _ => hn) ht
  | call hn hq hp =>
    rename_i a b
    obtain ⟨p, ps', c, r, rfl, hc, hb, hmore⟩ := renderingAll_inlinePatterns hp hr
    obtain ⟨w, hw, hfirst⟩ := inlinePatterns_brace hc hn (inlinePatterns_name hc hn p r)
    obtain ⟨w', hw', hparameters⟩ := hmore hfirst
    have hliterals : toMarksFrom .standard true (a ++ ':' :: b ++ rest) =
        literals n ++ ':' :: (literals p ++ c :: r) := by
      rw [List.append_assoc, toMarksFrom_quoted hq (by decide) (by decide), List.cons_append,
        toMarksFrom_colon, hb]
      rfl
    have hcall := Rendering.call (rendering_letters fun _ => hn) hparameters ht
    rw [List.append_assoc] at hcall
    rw [hliterals, hw, hw']
    exact hcall

/-- With its patterns a rewritten template is a way to write the tree of the document with the
patterns that are put into it. -/
theorem rendering_inlinePatterns {d : Document} {s : Text} (h : Writing d s)
    (patterns : List Text) :
    Rendering .standard .text (d.inlined patterns).tree
      (inlinePatterns .standard patterns (toMarks .standard s)) := by
  induction h with
  | nil => exact .nil _
  | @literal t a s d hq hd ih =>
    have hliterals : toMarks .standard (a ++ s) = literals t ++ toMarks .standard s :=
      toMarksFrom_quoted hq (by decide) (by decide) s
    rw [hliterals, inlinePatterns_outside (isOutside_toMarks hd)]
    exact rendering_literals nofun ih
  | @call n a s ps d hi _ ih =>
    unfold toMarks at ih ⊢
    rw [List.cons_append, toMarksFrom_dollar]
    exact rendering_inlinedInside patterns hi (toMarksFrom_dollar .standard true s) ih
  | @unclosed n a ps hi =>
    have hunclosed := rendering_inlinedInside patterns hi (toMarksFrom.eq_1 .standard true)
      (.nil .text)
    rw [List.append_nil] at hunclosed
    unfold toMarks
    rw [toMarksFrom_dollar]
    exact hunclosed

/-- A template that has the tree of a document makes its calls in order and comes to its text. -/
theorem expand_of_tree {ε σ : Type} {d : Document} {s : Text}
    (h : ofText .standard s = d.tree) (call : Caller ε σ) (start : σ) :
    ∃ asked outputs failure last result,
      call.Answers start asked outputs failure last ∧
      (expand .standard call s).run.run start = (result, last) ∧
      (expand .standard call.recorded s).run.run (start, []) = (result, (last, asked)) ∧
      Conclusion d.calls.length (fun _ => d.calls) (d.text ·) asked outputs failure result := by
  have hf := eval_follows call d.tree
  simp only [count_tree, calls_tree, text_tree] at hf
  unfold expand
  rw [h]
  exact hf.run start []

/-! ### Calls of regular expressions -/

/-- Whether a call with this name is one of a regular expression. -/
def namesRegex (name : Text) : Bool :=
  (Registry.standard.get? name).any fun f => f.name = "regex".toList

/-- The parameters of a call with this name, with the pattern that the first one is the number of if
the call is one of a regular expression. -/
def referringParameters (patterns : List Text) (name : Text) : List Text → List Text
  | [] => []
  | p :: ps => (if namesRegex name then (reference? patterns p).getD p else p) :: ps

def Part.referring (patterns : List Text) : Part → Part
  | .literal t => .literal t
  | .call name parameters => .call name (referringParameters patterns name parameters)

/-- The document with patterns in its calls of regular expressions. -/
def Document.referring (patterns : List Text) (d : Document) : Document :=
  d.map (Part.referring patterns)

/-- A call has the beginning of a call of a regular expression just if it is one, and nowhere
else. -/
def Part.IsPlain : Part → Prop
  | .literal _ => True
  | .call name parameters => ("\x7bregex".toList <:+ '\x7b' :: name ↔ namesRegex name = true) ∧
      ∀ p ∈ parameters, ¬ patternCall .standard <:+: p

instance : (p : Part) → Decidable p.IsPlain
  | .literal _ => inferInstanceAs (Decidable True)
  | .call .. => inferInstanceAs (Decidable (_ ∧ _))

def Document.IsPlain (d : Document) : Prop := ∀ p ∈ d, p.IsPlain

instance (d : Document) : Decidable d.IsPlain := List.decidableBAll _ d

theorem referred_of_plain {p : Text} (h : ¬ patternCall .standard <:+: p) :
    referred patterns p = p := by
  induction p with
  | nil => rfl
  | cons c p ih =>
    have hnone : onlyReference? patterns (c :: p) = none :=
      if_neg fun hprefix => h (List.isPrefixOf_iff_prefix.1 hprefix).isInfix
    rw [referred, hnone, ih fun h' => h (h'.trans (List.suffix_cons c p).isInfix)]

theorem inlined_eq_referring {d : Document} (h : d.IsPlain) (patterns : List Text) :
    d.inlined patterns = d.referring patterns := by
  refine List.map_congr_left fun part hpart => ?_
  cases part with
  | literal t => rfl
  | call name parameters =>
    obtain ⟨hname, hparameters⟩ := h _ hpart
    cases parameters with
    | nil => rfl
    | cons p ps =>
      obtain ⟨hp, hps⟩ := List.forall_mem_cons.1 hparameters
      have hrest : ps.map (referred patterns) = ps :=
        (List.map_congr_left fun q hq => referred_of_plain (hps q hq)).trans (List.map_id ps)
      simp only [Part.inlined, Part.referring, inlinedParameters, referringParameters,
        firstReferred, hname, referred_of_plain hp, hrest]

/-- A rewritten template with its patterns makes the calls of the document with the patterns that
are put into it, and comes to its text. These are the patterns of the calls of regular expressions
if no such call is spelled in another way and no other text of a call looks like the beginning of
one. -/
theorem expand_inlinePatterns {ε σ : Type} {d : Document} {s : Text} (h : Writing d s)
    (patterns : List Text) (call : Caller ε σ) (start : σ) :
    (∃ asked outputs failure last result,
      call.Answers start asked outputs failure last ∧
      (expand .standard call
        (inlinePatterns .standard patterns (toMarks .standard s))).run.run start =
        (result, last) ∧
      (expand .standard call.recorded
        (inlinePatterns .standard patterns (toMarks .standard s))).run.run (start, []) =
        (result, (last, asked)) ∧
      Conclusion (d.inlined patterns).calls.length (fun _ => (d.inlined patterns).calls)
        ((d.inlined patterns).text ·) asked outputs failure result) ∧
    (d.IsPlain → d.inlined patterns = d.referring patterns) := by
  have htree := ofText_rendering (rendering_inlinePatterns h patterns)
  exact ⟨expand_of_tree htree call start, fun hd => inlined_eq_referring hd patterns⟩

/-- The number in the first call stays, though its name is one for regular expressions, and the one
in the third call makes way for a pattern, though its name is none. -/
theorem expand_inlinePatterns_spelled :
    let d : Document := [.call "Regex".toList [['1']], .call "regex".toList [['1'], ['1']],
      .call ['f'] ["\x7bregex:1".toList]]
    let patterns : List Text := ["a|\x7bregex:1".toList]
    let call : Caller Nat Nat := fun _ ps => do
      modify (· + 1)
      return ps.headD []
    Writing d "$Regex:1$$regex:1|1$$f:\x7bregex:1$".toList ∧
    d.inlined patterns = [.call "Regex".toList [['1']],
      .call "regex".toList ["a|\x7bregex:1".toList, ['1']],
      .call ['f'] ["\x7bregex:a|\x7bregex:1".toList]] ∧
    d.referring patterns = [.call "Regex".toList ["a|\x7bregex:1".toList],
      .call "regex".toList ["a|\x7bregex:1".toList, ['1']],
      .call ['f'] ["\x7bregex:1".toList]] ∧
    ∃ asked outputs failure last result,
      call.Answers 0 asked outputs failure last ∧
      (expand .standard call (inlinePatterns .standard patterns (toMarks .standard
        "$Regex:1$$regex:1|1$$f:\x7bregex:1$".toList))).run.run 0 = (result, last) ∧
      (expand .standard call.recorded (inlinePatterns .standard patterns (toMarks .standard
        "$Regex:1$$regex:1|1$$f:\x7bregex:1$".toList))).run.run (0, []) =
        (result, (last, asked)) ∧
      Conclusion (d.inlined patterns).calls.length (fun _ => (d.inlined patterns).calls)
        ((d.inlined patterns).text ·) asked outputs failure result := by
  intro d patterns call
  have hone : Parameters [['1']] ['1'] := .last (.self (not_mem_of_all rfl))
  have hspelled : Inside "Regex".toList [['1']] "Regex:1".toList :=
    .call (by decide) (.self (not_mem_of_all rfl)) hone
  have hregex : Inside "regex".toList [['1'], ['1']] "regex:1|1".toList :=
    .call (by decide) (.self (not_mem_of_all rfl)) (.more (.self (not_mem_of_all rfl)) hone)
  have hbrace : Inside ['f'] ["\x7bregex:1".toList] "f:\x7bregex:1".toList :=
    .call (by decide) (.self (not_mem_of_all rfl)) (.last (.self (not_mem_of_all rfl)))
  have hwriting : Writing d "$Regex:1$$regex:1|1$$f:\x7bregex:1$".toList :=
    .call hspelled (.call hregex (.call hbrace .nil))
  exact ⟨hwriting, by decide +kernel, by decide +kernel,
    (expand_inlinePatterns hwriting patterns call 0).1⟩

end UploadTemplate.Dollar
