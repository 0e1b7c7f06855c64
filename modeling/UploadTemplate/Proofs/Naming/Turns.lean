import UploadTemplate.Proofs.Naming.Scan

/-!
# Replacing one token after the other

The tokens of a vocabulary have their turns one after the other. As long as no turn finds a token
that reads what an earlier turn has put in, all turns together come to the text of one scan.

- `Pattern.shown done p`: the pattern after the turns of the tokens with the texts `done`.
- `Undisturbed v p`: no turn reads what an earlier one has put in.
- `cut_shown`: what a turn finds are the occurrences of its token in the pattern.
- `Vocabulary.scan_of_replaceAll`: all turns together.
-/

namespace UploadTemplate.Naming

/-! ### Patterns between two turns -/

/-- What takes the place of an occurrence; nothing if it has no value. -/
def Occurrence.value (o : Occurrence) : Text := o.value?.toOption.getD []

/-- An occurrence after the turns of the tokens with these texts. -/
def Occurrence.shown (done : List Text) (o : Occurrence) : Text :=
  if o.text ∈ done then o.value else o.written

namespace Pattern

/-- The text after the turns of the tokens with these texts. -/
def shown (done : List Text) (p : Pattern) : Text := Text.refill (Occurrence.shown done) p

/-- The text after the turns of all its tokens. -/
def values (p : Pattern) : Text := Text.refill Occurrence.value p

theorem shown_nil (p : Pattern) : p.shown [] = p.source := by
  unfold shown source
  congr 1

theorem shown_append (done : List Text) (p q : Pattern) :
    shown done (p ++ q) = shown done p ++ shown done q := Text.refill_append _ p q

theorem shown_found (done : List Text) (o : Occurrence) (p : Pattern) :
    shown done (.found o :: p) = o.shown done ++ p.shown done := rfl

theorem shown_eq_values {done : List Text} {p : Pattern}
    (h : ∀ o, .found o ∈ p → o.text ∈ done) : p.shown done = p.values := by
  induction p with
  | nil => rfl
  | cons part p ih =>
    have ih := ih fun o ho => h o (List.mem_cons_of_mem part ho)
    cases part with
    | char c => exact congrArg (List.cons c) ih
    | found o =>
      have ho : o.shown done = o.value := if_pos (h o List.mem_cons_self)
      unfold shown values at ih ⊢
      rw [Text.refill_found, Text.refill_found, ho, ih]

/-- Up to the first value the text is still that of the pattern. -/
theorem shown_cases (done : List Text) (p : Pattern) :
    p.shown done = p.source ∨
      ∃ (q : Pattern) (o : Occurrence) (r : Pattern), p = q ++ .found o :: r ∧ o.text ∈ done ∧
        q.shown done = q.source := by
  induction p with
  | nil => exact .inl rfl
  | cons part p ih =>
    by_cases hp : ∃ o, part = .found o ∧ o.text ∈ done
    · obtain ⟨o, rfl, ho⟩ := hp
      exact .inr ⟨[], o, p, rfl, ho, rfl⟩
    · have hpart : shown done [part] = source [part] := by
        cases part with
        | char c => rfl
        | found o =>
          have ho : o.shown done = o.written := if_neg fun ho => hp ⟨o, rfl, ho⟩
          simp [shown, source, Text.refill, ho]
      rcases ih with ih | ⟨q, o, r, rfl, ho, hq⟩
      · left
        rw [← List.singleton_append, shown_append, hpart, ih]
        exact (Text.refill_append _ [part] p).symm
      · refine .inr ⟨part :: q, o, r, rfl, ho, ?_⟩
        rw [← List.singleton_append, shown_append, hpart, hq]
        exact (Text.refill_append _ [part] q).symm

end Pattern

/-! ### Turns that read values -/

/-- Something is found that begins before a value and goes on into it or across it, or that begins
in the value. -/
def Touches {α : Type} (find : Text.Finder α) (before value after : Text) : Prop :=
  (∃ i < before.length, (find (before.drop i ++ value ++ after)).any
    (fun found => before.length - i < found.2) = true) ∨
  ∃ i < value.length, (find (value.drop i ++ after)).isSome = true

section Touching

variable {α : Type} {find : Text.Finder α} {before value after y : Text} {a : α} {n : Nat}

theorem Touches.of_before (hy : y ≠ []) (hs : y <:+ before)
    (h : find (y ++ value ++ after) = some (a, n)) (hn : y.length < n) :
    Touches find before value after := by
  obtain ⟨u, rfl⟩ := hs
  have hpos := List.length_pos_iff.2 hy
  refine .inl ⟨u.length, by rw [List.length_append]; omega, ?_⟩
  rw [List.drop_left, h, List.length_append]
  simpa using hn

theorem Touches.of_value (hy : y ≠ []) (hs : y <:+ value) (h : find (y ++ after) = some (a, n)) :
    Touches find before value after := by
  obtain ⟨u, rfl⟩ := hs
  have hpos := List.length_pos_iff.2 hy
  refine .inr ⟨u.length, by rw [List.length_append]; omega, ?_⟩
  rw [List.drop_left, h]
  rfl

end Touching

/-- The turn of a token after some others reads none of the values in the pattern, which stands
after the text `before`. -/
def Clear (k : Token) (done : List Text) (before : Text) (p : Pattern) : Prop :=
  ∀ (q : Pattern) (o : Occurrence) (r : Pattern), p = q ++ .found o :: r → o.text ∈ done →
    ¬ Touches k.find (before ++ q.shown done) o.value (r.shown done)

def texts (tokens : List Token) : List Text := tokens.map (·.text)

/-- No turn reads what an earlier turn has put in. -/
def Undisturbed (v : Vocabulary) (p : Pattern) : Prop :=
  ∀ (first : List Token) (k : Token) (rest : List Token), v.tokens = first ++ k :: rest →
    Clear k (texts first) [] p

/-- The ways to take a list apart at one of its elements. -/
def splits {α : Type} : List α → List (List α × α × List α)
  | [] => []
  | a :: l => ([], a, l) :: (splits l).map fun (x, b, y) => (a :: x, b, y)

theorem mem_splits {α : Type} {l x y : List α} {b : α} :
    (x, b, y) ∈ splits l ↔ l = x ++ b :: y := by
  induction l generalizing x with
  | nil => simp [splits]
  | cons a l ih =>
    rw [splits, List.mem_cons]
    cases x with
    | nil => simp [eq_comm]
    | cons d x =>
      simp only [List.mem_map, Prod.mk.injEq, List.cons.injEq, List.cons_append, Prod.exists]
      constructor
      · rintro (⟨h, -⟩ | ⟨_, _, _, hm, ⟨rfl, rfl⟩, rfl, rfl⟩)
        · cases h
        · exact ⟨rfl, ih.1 hm⟩
      · rintro ⟨rfl, hl⟩
        exact .inr ⟨_, _, _, ih.2 hl, ⟨rfl, rfl⟩, rfl, rfl⟩

instance {α : Type} (find : Text.Finder α) (before value after : Text) :
    Decidable (Touches find before value after) :=
  inferInstanceAs (Decidable (_ ∨ _))

/-- The turn of a token reads none of the values in the pattern. -/
def isClear (k : Token) (done : List Text) (before : Text) (p : Pattern) : Bool :=
  (splits p).all fun
    | (_, .char _, _) => true
    | (q, .found o, r) => decide (o.text ∈ done →
      ¬ Touches k.find (before ++ Pattern.shown done q) o.value (Pattern.shown done r))

theorem isClear_iff {k : Token} {done : List Text} {before : Text} {p : Pattern} :
    isClear k done before p = true ↔ Clear k done before p := by
  unfold isClear Clear
  rw [List.all_eq_true]
  constructor
  · intro h q o r hp ho
    exact decide_eq_true_iff.1 (h (q, .found o, r) (mem_splits.2 hp)) ho
  · rintro h ⟨q, _ | o, r⟩ hz
    · rfl
    · exact decide_eq_true (h q o r (mem_splits.1 hz))

instance (k : Token) (done : List Text) (before : Text) (p : Pattern) :
    Decidable (Clear k done before p) :=
  decidable_of_iff _ isClear_iff

theorem undisturbed_iff {v : Vocabulary} {p : Pattern} :
    (∀ z ∈ splits v.tokens, Clear z.2.1 (texts z.1) [] p) ↔ Undisturbed v p :=
  ⟨fun h first k rest ht => h (first, k, rest) (mem_splits.2 ht),
    fun h z hz => h z.1 z.2.1 z.2.2 (mem_splits.1 hz)⟩

instance (v : Vocabulary) (p : Pattern) : Decidable (Undisturbed v p) :=
  decidable_of_iff _ undisturbed_iff

namespace Clear

variable {k : Token} {done : List Text} {before : Text} {p : Pattern}

theorem tail {part : Text.Fragment Occurrence} (h : Clear k done before (part :: p)) :
    Clear k done (before ++ Pattern.shown done [part]) p := by
  intro q o r hp ho
  have := h (part :: q) o r (by rw [hp]; rfl) ho
  rwa [← List.singleton_append, Pattern.shown_append, ← List.append_assoc] at this

theorem tail_written {o : Occurrence} (h : Clear k done before (.found o :: p))
    (ho : o.text ∉ done) : Clear k done (before ++ o.written) p := by
  have := h.tail
  rwa [Pattern.shown_found, Occurrence.shown, if_neg ho, show Pattern.shown done [] = [] from rfl,
    List.append_nil] at this

/-- What the turn of a token finds in what is left of the pattern, its source has there too. -/
theorem find_source (h : Clear k done before p) {x : Text} (hx : x ≠ []) (hb : x <:+ before)
    {a : Option Text} {n : Nat} (hf : k.find (x ++ p.shown done) = some (a, n)) :
    ∃ b m, k.find (x ++ p.source) = some (b, m) ∧ (a ≠ none → b = a) := by
  rcases p.shown_cases done with hp | ⟨q, o, r, rfl, ho, hq⟩
  · rw [hp] at hf
    exact ⟨a, n, hf, fun _ => rfl⟩
  · have hshown : Pattern.shown done (q ++ .found o :: r) =
        q.source ++ (o.value ++ r.shown done) := by
      rw [Pattern.shown_append, hq, Pattern.shown_found, Occurrence.shown, if_pos ho]
    have hsource : Pattern.source (q ++ .found o :: r) =
        q.source ++ Pattern.source (.found o :: r) := Text.refill_append _ _ _
    rw [hshown, ← List.append_assoc] at hf
    have hn : n ≤ (x ++ q.source).length := by
      refine Nat.le_of_not_lt fun hlt => h q o r rfl ho ?_
      rw [← List.append_assoc] at hf
      refine .of_before (List.append_ne_nil_of_left_ne_nil hx _) ?_ hf hlt
      obtain ⟨u, rfl⟩ := hb
      exact ⟨u, by rw [hq, List.append_assoc]⟩
    obtain ⟨b, m, hb, -, ha⟩ := Token.find_within hf hn (Pattern.source (.found o :: r))
    exact ⟨b, m, by rw [hsource, ← List.append_assoc]; exact hb, ha⟩

end Clear

/-! ### One turn -/

/-- The fragments of the pattern at the turn of a token: the occurrences of the token, and
characters. -/
def Pattern.fragments (token : Text) (done : List Text) (p : Pattern) :
    List (Text.Fragment (Option Text)) :=
  p.flatMap fun
    | .char c => [.char c]
    | .found o => if o.text = token then [.found o.argument] else (o.shown done).map .char

theorem Pattern.fragments_found (token : Text) (done : List Text) (o : Occurrence) (p : Pattern) :
    fragments token done (.found o :: p) =
      (if o.text = token then [.found o.argument] else (o.shown done).map .char) ++
        p.fragments token done := List.flatMap_cons

theorem text_ne_of_no_beginning {s t : Text} (h : ¬ s <+: t) : s ≠ t :=
  fun e => h (e ▸ List.prefix_refl s)

section Turn

variable {v : Vocabulary} {first rest : List Token} {k : Token}

/-- Of two tokens in order the text of the first is no beginning of the text of the second. -/
theorem Vocabulary.order_of_tokens (ht : v.tokens = first ++ k :: rest) :
    (∀ j ∈ first, ¬ j.text <+: k.text) ∧ ∀ j ∈ rest, ¬ k.text <+: j.text := by
  have h : (first ++ k :: rest).Pairwise fun a b => ¬ a.text <+: b.text := ht ▸ v.order
  obtain ⟨-, h2, h3⟩ := List.pairwise_append.1 h
  exact ⟨fun j hj => h3 j hj k List.mem_cons_self, (List.pairwise_cons.1 h2).1⟩

theorem Vocabulary.first_order (ht : v.tokens = first ++ k :: rest) :
    ∀ i ∈ first, ∀ j ∈ rest, ¬ i.text <+: j.text := by
  have h : (first ++ k :: rest).Pairwise fun a b => ¬ a.text <+: b.text := ht ▸ v.order
  obtain ⟨-, -, h3⟩ := List.pairwise_append.1 h
  exact fun i hi j hj => h3 i hi j (List.mem_cons_of_mem k hj)

/-- At its turn a token finds its own occurrence. -/
theorem find_own {p : Pattern} {o : Occurrence} {done : List Text} {before : Text}
    (hf : o.substitution.find (o.written ++ p.source) = some (o.argument, o.written.length))
    (hne : o.text ≠ []) (ho : o.text ∉ done)
    (hc : Clear o.substitution.toToken done before (.found o :: p)) :
    o.substitution.find (o.written ++ p.shown done) = some (o.argument, o.written.length) := by
  obtain ⟨s, a⟩ := o
  obtain ⟨-, -, ha⟩ := Token.find_eq_some hf
  cases a with
  | some x =>
    obtain ⟨hx, hn⟩ := ha x rfl
    exact Token.find_argument hx hn _
  | none =>
    have hw : Occurrence.written ⟨s, none⟩ = s.text := rfl
    rw [hw] at hf ⊢
    obtain ⟨a, n, ha⟩ := Token.find_text s.toToken (p.shown done)
    obtain ⟨-, hn, -⟩ := Token.find_eq_some ha
    cases a with
    | none => rw [ha, hn]; rfl
    | some x =>
      obtain ⟨b, m, hb, hx⟩ := (hc.tail_written ho).find_source hne
        (List.suffix_append before s.text) ha
      cases hx (by simp)
      cases hf.symm.trans hb

/-- At the turn of a token no other one is taken for it. -/
theorem find_other {p : Pattern} {o : Occurrence} {done : List Text} {before y : Text}
    (hk : k ∈ v.tokens)
    (hmax : ∀ a n, k.find (o.written ++ p.source) = some (a, n) → n ≤ o.written.length)
    (ho : o.text ∉ done) (htail : '%' ∉ o.written.tail) (horder : ¬ k.text <+: o.text)
    (hc : Clear k done before (.found o :: p)) (hy : y ≠ []) (hs : y <:+ o.written) :
    k.find (y ++ p.shown done) = none := by
  refine Option.eq_none_iff_forall_ne_some.2 fun ⟨a, n⟩ hf => ?_
  obtain ⟨⟨r, hr⟩, -, -⟩ := Token.find_eq_some hf
  -- A token begins with the only percent sign of the occurrence, so it begins where that begins.
  obtain ⟨w, hkw, -⟩ := Vocabulary.text_eq hk
  obtain ⟨_, hka, -⟩ := written_eq_append k.text a
  obtain ⟨u, hu⟩ := hs
  have hyw : y = o.written := by
    cases u with
    | nil => exact hu
    | cons d u =>
      refine absurd ?_ htail
      obtain ⟨c, y, rfl⟩ := List.exists_cons_of_ne_nil hy
      rw [hka, hkw] at hr
      rw [← hu, (List.cons.inj hr).1]
      simp
  subst hyw
  -- The longest occurrence covers the token, which then is the beginning of its text.
  obtain ⟨b, m, hb, -⟩ := (hc.tail_written ho).find_source hy (List.suffix_append before _) hf
  have hpre := Token.prefix_of_find hb (List.prefix_append o.written p.source) (hmax b m hb)
  exact horder (prefix_of_prefix_written hpre (v.shape k hk).2.2)

/-- What a token finds at its turn are its occurrences in the pattern. -/
theorem cut_shown (ht : v.tokens = first ++ k :: rest) {p : Pattern} (hp : Scanned v p)
    {before : Text} (hc : Clear k (texts first) before p) :
    Text.cut k.find (p.shown (texts first)) = p.fragments k.text (texts first) := by
  have hk : k ∈ v.tokens := ht ▸ List.mem_append_right first List.mem_cons_self
  obtain ⟨hfirst, hrest⟩ := Vocabulary.order_of_tokens ht
  induction hp generalizing before with
  | nil => rfl
  | @char c p hnone hp ih =>
    have ih := ih hc.tail
    have hfind : k.find (c :: p.shown (texts first)) = none := by
      refine Option.eq_none_iff_forall_ne_some.2 fun ⟨a, n⟩ hf => ?_
      obtain ⟨b, m, hb, -⟩ := hc.tail.find_source (List.cons_ne_nil c [])
        (List.suffix_append before [c]) hf
      cases (hnone k hk).symm.trans hb
    exact (Text.cut_none hfind).trans (congrArg _ ih)
  | @found o p hmem hf hmax hp ih =>
    have ih := ih hc.tail
    rw [Pattern.shown_found, Pattern.fragments_found, ← ih]
    have hotok := Vocabulary.mem_tokens hmem
    rw [ht] at hotok
    rcases List.mem_append.1 hotok with hof | hok
    · -- The turn of this occurrence is over; its value is not read.
      have hdone : o.text ∈ texts first := List.mem_map_of_mem hof
      have hne : o.text ≠ k.text := text_ne_of_no_beginning (hfirst _ hof)
      rw [if_neg hne, Occurrence.shown, if_pos hdone]
      refine Text.cut_pass fun u y hu hy => Option.eq_none_iff_forall_ne_some.2 fun ⟨a, n⟩ hf => ?_
      exact hc [] o p rfl hdone (.of_value hy ⟨u, hu.symm⟩ hf)
    have hdone : o.text ∉ texts first := by
      intro hd
      obtain ⟨j, hj, hjo⟩ := List.mem_map.1 hd
      rcases List.mem_cons.1 hok with hok | hor
      · exact text_ne_of_no_beginning (hfirst j hj) (hjo.trans (congrArg Token.text hok))
      · exact text_ne_of_no_beginning (Vocabulary.first_order ht j hj _ hor) hjo
    rw [Occurrence.shown, if_neg hdone]
    rcases List.mem_cons.1 hok with rfl | hor
    · have hown : o.text = o.substitution.text := rfl
      have hne : o.text ≠ [] := Vocabulary.text_ne_nil hk
      have hpos : 0 < o.written.length :=
        Nat.lt_of_lt_of_le (List.length_pos_iff.2 hne) (Token.length_text_le _ o.argument)
      rw [if_pos hown]
      exact Text.cut_found (List.length_pos_iff.1 hpos) (find_own hf hne hdone hc)
    · have hne : o.text ≠ k.text := (text_ne_of_no_beginning (hrest _ hor)).symm
      rw [if_neg hne]
      refine Text.cut_pass fun u y hu hy => ?_
      exact find_other hk (hmax k hk) hdone (Vocabulary.percent_written hmem hf) (hrest _ hor) hc hy
        ⟨u, hu.symm⟩

end Turn

/-! ### Putting in values -/

theorem ok_of_bind {ε α β : Type} {x : Except ε α} {f : α → Except ε β} {b : β}
    (h : x >>= f = .ok b) : ∃ a, x = .ok a ∧ f a = .ok b := by
  cases x with
  | error e => cases h
  | ok a => exact ⟨a, rfl, h⟩

theorem refillM_chars_append {α : Type} (f : α → Except Error Text) (t : Text)
    (q : List (Text.Fragment α)) :
    Text.refillM f (t.map .char ++ q) = (Text.refillM f q).map (t ++ ·) := by
  induction t with
  | nil => cases h : Text.refillM f q <;> simp [h, Except.map]
  | cons c t ih =>
    rw [List.map_cons, List.cons_append, Text.refillM, ih]
    cases Text.refillM f q <;> rfl

theorem Occurrence.shown_append {done : List Text} {token : Text} {o : Occurrence}
    (h : o.text ≠ token) : o.shown (done ++ [token]) = o.shown done := by
  simp [shown, h]

/-- If the turn of a token comes to an end, its occurrences have values, and show them. -/
theorem shown_of_refillM {s : Substitution} {done : List Text} {p : Pattern}
    (hs : ∀ o, .found o ∈ p → o.text = s.text → o.substitution = s) {out : Text}
    (h : Text.refillM s.value (p.fragments s.text done) = .ok out) :
    (∀ o, .found o ∈ p → o.text = s.text → o.value? = .ok o.value) ∧
      out = p.shown (done ++ [s.text]) := by
  induction p generalizing out with
  | nil =>
    cases h
    exact ⟨fun o ho => (List.not_mem_nil ho).elim, rfl⟩
  | cons part p ih =>
    have ih := fun r => @ih (fun o ho => hs o (List.mem_cons_of_mem part ho)) r
    cases part with
    | char c =>
      obtain ⟨r, hr, hout⟩ := ok_of_bind h
      cases hout
      obtain ⟨hv, rfl⟩ := ih r hr
      exact ⟨fun o ho => hv o (by simpa using ho), rfl⟩
    | found o =>
      rw [Pattern.fragments_found] at h
      by_cases ho : o.text = s.text
      · rw [if_pos ho, List.singleton_append] at h
        obtain ⟨made, hmade, h⟩ := ok_of_bind h
        obtain ⟨r, hr, hout⟩ := ok_of_bind h
        cases hout
        obtain ⟨hv, rfl⟩ := ih r hr
        have hvalue? : o.value? = .ok made := by
          unfold Occurrence.value?
          rw [hs o List.mem_cons_self ho, hmade]
        have hvalue : o.value = made := by
          unfold Occurrence.value
          rw [hvalue?]
          rfl
        constructor
        · intro o' ho' heq
          rcases List.mem_cons.1 ho' with ho' | ho'
          · cases ho'
            rw [hvalue?, hvalue]
          · exact hv o' ho' heq
        · rw [Pattern.shown_found, Occurrence.shown, if_pos (by simp [ho]), hvalue]
      · rw [if_neg ho, refillM_chars_append] at h
        rcases hr : Text.refillM s.value (Pattern.fragments s.text done p) with e | r
        · rw [hr] at h
          cases h
        · rw [hr] at h
          cases h
          obtain ⟨hv, rfl⟩ := ih r hr
          constructor
          · intro o' ho' heq
            rcases List.mem_cons.1 ho' with ho' | ho'
            · cases ho'
              exact absurd heq ho
            · exact hv o' ho' heq
          · rw [Pattern.shown_found, Occurrence.shown_append ho]

theorem fragments_eq_chars {token : Text} (done : List Text) {p : Pattern}
    (h : ∀ o, .found o ∈ p → o.text ≠ token) :
    p.fragments token done = (p.shown done).map .char := by
  induction p with
  | nil => rfl
  | cons part p ih =>
    have ih := ih fun o ho => h o (List.mem_cons_of_mem part ho)
    cases part with
    | char c => exact congrArg _ ih
    | found o =>
      have ho := h o List.mem_cons_self
      rw [Pattern.shown_found, List.map_append, ← ih, Pattern.fragments_found, if_neg ho]

theorem refillM_values {p : Pattern} (h : ∀ o, .found o ∈ p → o.value? = .ok o.value) :
    Text.refillM Occurrence.value? p = .ok p.values := by
  induction p with
  | nil => rfl
  | cons part p ih =>
    have ih := ih fun o ho => h o (List.mem_cons_of_mem part ho)
    cases part with
    | char c =>
      rw [Text.refillM, ih]
      rfl
    | found o =>
      rw [Text.refillM, ih, h o List.mem_cons_self]
      rfl

/-! ### All turns -/

/-- The turn of a token. -/
def Substitution.replace (s : Substitution) (t : Text) : Except Error Text :=
  replaceToken s.text s.accepts s.value t

/-- The turns of all tokens with values. -/
def Vocabulary.replaceAll (v : Vocabulary) (t : Text) : Except Error Text :=
  v.substitutions.foldlM (fun t s => s.replace t) t

theorem Scanned.mem_substitutions {v : Vocabulary} {p : Pattern} (h : Scanned v p) :
    ∀ o, .found o ∈ p → o.substitution ∈ v.substitutions := by
  induction h with
  | nil => exact fun o ho => (List.not_mem_nil ho).elim
  | char _ _ ih => exact fun o ho => ih o (by simpa using ho)
  | found hm _ _ _ ih =>
    intro o ho
    rcases List.mem_cons.1 ho with ho | ho
    · cases ho
      exact hm
    · exact ih o ho

theorem Vocabulary.eq_of_text {v : Vocabulary} {a b : Substitution} (ha : a ∈ v.substitutions)
    (hb : b ∈ v.substitutions) (h : a.text = b.text) : a = b := by
  have horder := List.pairwise_map.1 (List.pairwise_append.1 v.order).1
  obtain ⟨l, r, hl⟩ := List.append_of_mem ha
  rw [hl] at horder hb
  obtain ⟨-, har, hla⟩ := List.pairwise_append.1 horder
  rcases List.mem_append.1 hb with hb | hb
  · exact absurd h.symm (text_ne_of_no_beginning (hla b hb a List.mem_cons_self))
  rcases List.mem_cons.1 hb with rfl | hb
  · rfl
  · exact absurd h (text_ne_of_no_beginning ((List.pairwise_cons.1 har).1 b hb))

/-- The turns of the tokens from some point on. -/
theorem shown_of_foldlM {v : Vocabulary} {first rest : List Substitution}
    (hv : v.substitutions = first ++ rest) {p : Pattern} (hp : Scanned v p)
    (hu : Undisturbed v p) {out : Text}
    (h : rest.foldlM (fun t s => s.replace t) (p.shown (texts (first.map (·.toToken)))) =
      .ok out) :
    (∀ o, .found o ∈ p → o.substitution ∈ rest → o.value? = .ok o.value) ∧
      out = p.shown (texts (v.substitutions.map (·.toToken))) := by
  induction rest generalizing first with
  | nil =>
    cases h
    rw [hv, List.append_nil]
    exact ⟨fun o _ ho => (List.not_mem_nil ho).elim, rfl⟩
  | cons s rest ih =>
    rw [List.foldlM_cons] at h
    obtain ⟨t, ht, h⟩ := ok_of_bind h
    have hsplit : v.tokens = first.map (·.toToken) ++ s.toToken ::
        (rest.map (·.toToken) ++ v.later) := by
      simp [Vocabulary.tokens, hv]
    have hcut := cut_shown hsplit hp (hu _ _ _ hsplit)
    have hmem : s ∈ v.substitutions := hv ▸ List.mem_append_right first List.mem_cons_self
    unfold Substitution.replace replaceToken at ht
    obtain ⟨hvalues, rfl⟩ := shown_of_refillM
      (fun o ho => Vocabulary.eq_of_text (hp.mem_substitutions o ho) hmem) (hcut ▸ ht)
    have hfirst : texts (first.map (·.toToken)) ++ [s.text] =
        texts ((first ++ [s]).map (·.toToken)) := by
      simp [texts]
    rw [hfirst] at h
    obtain ⟨hrest, hout⟩ := ih (by rw [hv, List.append_assoc]; rfl) h
    refine ⟨fun o ho hs => ?_, hout⟩
    rcases List.mem_cons.1 hs with hs | hs
    · exact hvalues o ho (by rw [Occurrence.text, hs])
    · exact hrest o ho hs

theorem Scanned.shown_eq_values {v : Vocabulary} {p : Pattern} (h : Scanned v p)
    (more : List Token) :
    p.shown (texts (v.substitutions.map (·.toToken) ++ more)) = p.values := by
  refine Pattern.shown_eq_values fun o ho => ?_
  have ho := List.mem_map_of_mem (f := (·.toToken)) (h.mem_substitutions o ho)
  exact List.mem_map_of_mem (List.mem_append_left more ho)

/-- The later tokens do not come about. -/
theorem absent_of_undisturbed {v : Vocabulary} {p : Pattern} (hp : Scanned v p)
    (hu : Undisturbed v p) {k : Token} (hk : k ∈ v.later) : ¬ k.text <:+: p.values := by
  obtain ⟨l, r, hl⟩ := List.append_of_mem hk
  have hsplit : v.tokens = (v.substitutions.map (·.toToken) ++ l) ++ k :: r := by
    simp [Vocabulary.tokens, hl]
  have hcut := cut_shown hsplit hp (hu _ _ _ hsplit)
  obtain ⟨hfirst, -⟩ := Vocabulary.order_of_tokens hsplit
  rw [fragments_eq_chars, hp.shown_eq_values] at hcut
  · rintro ⟨u, w, huw⟩
    have hne := Vocabulary.text_ne_nil (List.mem_append_right _ hk : k ∈ v.tokens)
    have hnone := Text.find_eq_none_of_cut hcut (by rw [← huw, List.append_assoc])
      (List.append_ne_nil_of_left_ne_nil hne w)
    obtain ⟨a, n, hf⟩ := Token.find_text k w
    cases hnone.symm.trans hf
  · intro o ho e
    have ho := List.mem_map_of_mem (f := (·.toToken)) (hp.mem_substitutions o ho)
    exact text_ne_of_no_beginning (hfirst _ (List.mem_append_left l ho)) e

/-- If no turn reads what an earlier one has put in, all turns come to the text of one scan. -/
theorem Vocabulary.scan_of_replaceAll {v : Vocabulary} {t out : Text}
    (hl : ∀ k ∈ v.later, ¬ k.text <:+: t) (hu : Undisturbed v (v.pattern t))
    (h : v.replaceAll t = .ok out) :
    v.scan t = .ok out ∧ ∀ k ∈ v.later, ¬ k.text <:+: out := by
  obtain ⟨hp, hsource⟩ := scanned_pattern hl
  have hstart : t = (v.pattern t).shown (texts (([] : List Substitution).map (·.toToken))) :=
    hsource.symm.trans (Pattern.shown_nil _).symm
  unfold Vocabulary.replaceAll at h
  rw [hstart] at h
  obtain ⟨hvalues, hout⟩ := shown_of_foldlM rfl hp hu h
  have hall := hp.shown_eq_values []
  rw [List.append_nil] at hall
  rw [hall] at hout
  subst hout
  exact ⟨refillM_values fun o ho => hvalues o ho (hp.mem_substitutions o ho),
    fun k hk => absent_of_undisturbed hp hu hk⟩

end UploadTemplate.Naming
