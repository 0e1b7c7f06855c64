import UploadTemplate.Proofs.Naming.Absent

/-!
# Reading a pattern once

A vocabulary is a list of tokens with their values. One scan of a text takes at each position the
longest token that stands there, with its argument, and puts its value in its place; the values
are not read again.

- `Vocabulary.scan v t`: the text after one scan.
- `Scanned v p`: `p` are the characters and the occurrences that a scan finds.
- `Token.find_within`: what a token finds depends on the characters that it takes.
-/

namespace UploadTemplate.Naming

/-- What may stand in a text: a fixed text, and an argument in braces after it that is accepted. -/
structure Token where
  text : Text
  accepts : Text → Bool

def Token.find (k : Token) : Text.Finder (Option Text) := tokenWith k.text k.accepts

/-- A token with what takes its place. -/
structure Substitution extends Token where
  value : Option Text → Except Error Text

/-- A token with the argument that stands after it. -/
structure Occurrence where
  substitution : Substitution
  argument : Option Text

/-- A token and its argument as they are written. -/
def written (token : Text) : Option Text → Text
  | none => token
  | some a => token ++ '\x7b' :: a ++ ['\x7d']

theorem written_eq_append (token : Text) (a : Option Text) :
    ∃ w, written token a = token ++ w ∧ (w = [] ∨ w.head? = some '\x7b') := by
  cases a with
  | none => exact ⟨[], (List.append_nil _).symm, .inl rfl⟩
  | some a => exact ⟨'\x7b' :: a ++ ['\x7d'], List.append_assoc _ _ _, .inr rfl⟩

namespace Occurrence

def text (o : Occurrence) : Text := o.substitution.text

def written (o : Occurrence) : Text := Naming.written o.text o.argument

def value? (o : Occurrence) : Except Error Text := o.substitution.value o.argument

end Occurrence

/-- The longest occurrence of a token at the beginning of a text. -/
def longest : List Substitution → Text.Finder Occurrence
  | [], _ => none
  | v :: vocabulary, t =>
    match v.find t, longest vocabulary t with
    | none, best => best
    | some (a, n), none => some (⟨v, a⟩, n)
    | some (a, n), some (o, m) => if n < m then some (o, m) else some (⟨v, a⟩, n)

/-! ### Finding one token -/

theorem braced?_append {a : Text} (h : '\x7d' ∉ a) (r : Text) :
    braced? ('\x7b' :: a ++ '\x7d' :: r) = some a := by
  have ha : ∀ c ∈ a, (c != '\x7d') = true := fun c hc => by
    simpa using fun e : c = '\x7d' => h (e ▸ hc)
  rw [List.cons_append, braced?, if_pos (by simp), List.takeWhile_append_of_pos ha]
  simp

theorem braced?_eq_some {t a : Text} (h : braced? t = some a) :
    '\x7d' ∉ a ∧ ∃ r, t = '\x7b' :: a ++ '\x7d' :: r := by
  unfold braced? at h
  split at h
  · rename_i r
    split at h
    · rename_i hm
      obtain ⟨b, w, rfl, hb⟩ := List.eq_append_cons_of_mem hm
      have hr := braced?_append hb w
      rw [List.cons_append, braced?, if_pos (by simp)] at hr
      rw [hr] at h
      cases h
      exact ⟨hb, w, rfl⟩
    · cases h
  · cases h

namespace Token

variable {k : Token} {a : Option Text} {n : Nat}

theorem find_eq_some {t : Text} (h : k.find t = some (a, n)) :
    (∃ r, t = written k.text a ++ r) ∧ n = (written k.text a).length ∧
      ∀ x, a = some x → k.accepts x = true ∧ '\x7d' ∉ x := by
  unfold find tokenWith at h
  split at h
  case isFalse => cases h
  rename_i hp
  obtain ⟨r, rfl⟩ := List.isPrefixOf_iff_prefix.1 hp
  rw [List.drop_left] at h
  rcases hb : (braced? r).filter k.accepts with _ | x
  · simp only [hb] at h
    cases h
    exact ⟨⟨r, rfl⟩, rfl, fun x hx => by cases hx⟩
  · simp only [hb] at h
    cases h
    obtain ⟨hb, hx⟩ := Option.filter_eq_some_iff.1 hb
    obtain ⟨hn, w, rfl⟩ := braced?_eq_some hb
    refine ⟨⟨w, ?_⟩, ?_, ?_⟩
    · simp [written]
    · simp [written]
      omega
    · rintro y ⟨⟩
      exact ⟨hx, hn⟩

theorem find_argument {x : Text} (hx : k.accepts x = true) (hn : '\x7d' ∉ x) (r : Text) :
    k.find (written k.text (some x) ++ r) = some (some x, (written k.text (some x)).length) := by
  have hw : written k.text (some x) ++ r = k.text ++ ('\x7b' :: x ++ '\x7d' :: r) := by
    simp [written]
  unfold find tokenWith
  rw [hw, if_pos (List.isPrefixOf_iff_prefix.2 ⟨_, rfl⟩), List.drop_left, braced?_append hn,
    Option.filter_some, if_pos hx]
  simp [written]
  omega

theorem find_text (k : Token) (r : Text) : ∃ a n, k.find (k.text ++ r) = some (a, n) := by
  unfold find tokenWith
  rw [if_pos (List.isPrefixOf_iff_prefix.2 ⟨_, rfl⟩)]
  split
  · exact ⟨_, _, rfl⟩
  · exact ⟨_, _, rfl⟩

theorem length_text_le (k : Token) (a : Option Text) :
    k.text.length ≤ (written k.text a).length := by
  cases a <;> simp [written]

/-- What a token finds within a piece of text it finds there whatever follows; an argument may be
added, if there was none. -/
theorem find_within {x y : Text} (h : k.find (x ++ y) = some (a, n)) (hn : n ≤ x.length)
    (z : Text) :
    ∃ b m, k.find (x ++ z) = some (b, m) ∧ n ≤ m ∧ (a ≠ none → b = a) := by
  obtain ⟨⟨r, hr⟩, rfl, ha⟩ := find_eq_some h
  obtain ⟨w, rfl⟩ : written k.text a <+: x :=
    List.prefix_of_prefix_length_le ⟨r, hr.symm⟩ (List.prefix_append x y) hn
  rw [List.append_assoc]
  cases a with
  | none =>
    obtain ⟨b, m, hb⟩ := find_text k (w ++ z)
    obtain ⟨-, rfl, -⟩ := find_eq_some hb
    exact ⟨b, _, hb, length_text_le k b, fun h => absurd rfl h⟩
  | some x =>
    obtain ⟨hx, hm⟩ := ha x rfl
    exact ⟨_, _, find_argument hx hm (w ++ z), Nat.le_refl _, fun _ => rfl⟩

/-- What is found within a piece of text begins with the token. -/
theorem prefix_of_find {t u : Text} (h : k.find t = some (a, n)) (hu : u <+: t)
    (hn : n ≤ u.length) : k.text <+: u := by
  obtain ⟨⟨r, rfl⟩, rfl, -⟩ := find_eq_some h
  obtain ⟨w, hw⟩ := written_eq_append k.text a
  have hk : k.text <+: written k.text a := ⟨w, hw.1.symm⟩
  exact hk.trans (List.prefix_of_prefix_length_le (List.prefix_append _ r) hu hn)

end Token

/-- A text without braces that begins an occurrence begins its token. -/
theorem prefix_of_prefix_written {s token : Text} {a : Option Text} (h : s <+: written token a)
    (hs : '\x7b' ∉ s) : s <+: token := by
  obtain ⟨w, hw, hbrace⟩ := written_eq_append token a
  obtain ⟨t, ht⟩ := h
  rw [hw] at ht
  rcases List.append_eq_append_iff.1 ht with ⟨z, hz, -⟩ | ⟨_ | ⟨c, z⟩, hz, hwz⟩
  · exact ⟨z, hz.symm⟩
  · exact ⟨[], by rw [hz]; simp⟩
  · subst hwz
    have hc : c = '\x7b' := by simpa using hbrace
    exact absurd (by rw [hz, hc]; simp) hs

/-! ### Finding the longest token -/

theorem longest_eq_none {vocabulary : List Substitution} {t : Text}
    (h : longest vocabulary t = none) : ∀ v ∈ vocabulary, v.find t = none := by
  induction vocabulary with
  | nil => simp
  | cons v vocabulary ih =>
    unfold longest at h
    rcases hv : v.find t with _ | ⟨a, n⟩ <;> simp only [hv] at h
    · exact List.forall_mem_cons.2 ⟨hv, ih h⟩
    · rcases hl : longest vocabulary t with _ | ⟨o, m⟩ <;> simp only [hl] at h
      · cases h
      · split at h <;> cases h

theorem longest_eq_some {vocabulary : List Substitution} {t : Text} {o : Occurrence} {n : Nat}
    (h : longest vocabulary t = some (o, n)) :
    o.substitution ∈ vocabulary ∧ o.substitution.find t = some (o.argument, n) ∧
      ∀ v ∈ vocabulary, ∀ a m, v.find t = some (a, m) → m ≤ n := by
  induction vocabulary generalizing o n with
  | nil => cases h
  | cons v vocabulary ih =>
    unfold longest at h
    rcases hv : v.find t with _ | ⟨a, k⟩ <;> simp only [hv] at h
    · obtain ⟨hm, hf, hmax⟩ := ih h
      refine ⟨List.mem_cons_of_mem v hm, hf, List.forall_mem_cons.2 ⟨fun b m hb => ?_, hmax⟩⟩
      cases hv.symm.trans hb
    · rcases hl : longest vocabulary t with _ | ⟨o', m⟩ <;> simp only [hl] at h
      · cases h
        refine ⟨List.mem_cons_self, hv, List.forall_mem_cons.2 ⟨fun b m hb => ?_, ?_⟩⟩
        · cases hv.symm.trans hb
          exact Nat.le_refl _
        · intro w hw b m hb
          cases (longest_eq_none hl w hw).symm.trans hb
      · obtain ⟨hm, hf, hmax⟩ := ih hl
        split at h
        · rename_i hlt
          cases h
          refine ⟨List.mem_cons_of_mem v hm, hf, List.forall_mem_cons.2 ⟨fun b i hb => ?_, hmax⟩⟩
          cases hv.symm.trans hb
          exact Nat.le_of_lt hlt
        · rename_i hlt
          cases h
          refine ⟨List.mem_cons_self, hv, List.forall_mem_cons.2 ⟨fun b i hb => ?_, ?_⟩⟩
          · cases hv.symm.trans hb
            exact Nat.le_refl _
          · intro w hw b i hb
            exact Nat.le_trans (hmax w hw b i hb) (Nat.le_of_not_lt hlt)

/-- A pattern as a scan reads it. -/
abbrev Pattern := List (Text.Fragment Occurrence)

/-- The text that a scan has read. -/
def Pattern.source (p : Pattern) : Text := Text.refill Occurrence.written p

/-- Tokens with values in the order in which they are replaced, and tokens that are replaced after
them. Where one token begins with another the longer one comes first. -/
structure Vocabulary where
  substitutions : List Substitution
  later : List Token
  shape : ∀ k ∈ substitutions.map (·.toToken) ++ later,
    k.text.head? = some '%' ∧ '%' ∉ k.text.tail ∧ '\x7b' ∉ k.text
  order : (substitutions.map (·.toToken) ++ later).Pairwise fun a b => ¬ a.text <+: b.text
  arguments : ∀ v ∈ substitutions, ∀ a, v.accepts a = true → '%' ∉ a

namespace Vocabulary

def tokens (v : Vocabulary) : List Token := v.substitutions.map (·.toToken) ++ v.later

/-- The characters and the longest tokens of a text, from left to right. -/
def pattern (v : Vocabulary) (t : Text) : Pattern := Text.cut (longest v.substitutions) t

/-- The text after one scan, each token replaced by its value. -/
def scan (v : Vocabulary) (t : Text) : Except Error Text :=
  Text.refillM Occurrence.value? (v.pattern t)

theorem text_eq {v : Vocabulary} {k : Token} (h : k ∈ v.tokens) :
    ∃ w, k.text = '%' :: w ∧ '%' ∉ w := by
  obtain ⟨h1, h2, -⟩ := v.shape k h
  obtain ⟨w, hw⟩ := List.head?_eq_some_iff.1 h1
  exact ⟨w, hw, by rwa [hw] at h2⟩

theorem text_ne_nil {v : Vocabulary} {k : Token} (h : k ∈ v.tokens) : k.text ≠ [] := by
  obtain ⟨w, hw, -⟩ := text_eq h
  rw [hw]
  exact List.cons_ne_nil _ _

theorem mem_tokens {v : Vocabulary} {s : Substitution} (h : s ∈ v.substitutions) :
    s.toToken ∈ v.tokens :=
  List.mem_append_left _ (List.mem_map_of_mem h)

/-- After the percent sign of an occurrence there is no other one. -/
theorem percent_written {v : Vocabulary} {o : Occurrence} (hm : o.substitution ∈ v.substitutions)
    {t : Text} {n : Nat} (hf : o.substitution.find t = some (o.argument, n)) :
    '%' ∉ o.written.tail := by
  obtain ⟨s, a⟩ := o
  obtain ⟨w, hw, hn⟩ := text_eq (mem_tokens hm)
  obtain ⟨-, -, ha⟩ := Token.find_eq_some hf
  have hwritten : Occurrence.written ⟨s, a⟩ = written ('%' :: w) a := congrArg (written · a) hw
  rw [hwritten]
  cases a with
  | none => exact hn
  | some x =>
    have hx := v.arguments s hm x (ha x rfl).1
    simp [written, hn, hx]

end Vocabulary

/-- What a scan finds: no token where it leaves a character, and the longest one elsewhere. -/
inductive Scanned (v : Vocabulary) : Pattern → Prop where
  | nil : Scanned v []
  | char {c : Char} {p : Pattern} : (∀ k ∈ v.tokens, k.find (c :: p.source) = none) →
      Scanned v p → Scanned v (.char c :: p)
  | found {o : Occurrence} {p : Pattern} : o.substitution ∈ v.substitutions →
      o.substitution.find (o.written ++ p.source) = some (o.argument, o.written.length) →
      (∀ k ∈ v.tokens, ∀ a n, k.find (o.written ++ p.source) = some (a, n) →
        n ≤ o.written.length) →
      Scanned v p → Scanned v (.found o :: p)

/-- A text without the later tokens, as it is scanned. -/
theorem scanned_pattern {v : Vocabulary} {t : Text} (h : ∀ k ∈ v.later, ¬ k.text <:+: t) :
    Scanned v (v.pattern t) ∧ (v.pattern t).source = t := by
  unfold Vocabulary.pattern
  induction hn : t.length using Nat.strongRecOn generalizing t with
  | ind l ih =>
    have hlater : ∀ k ∈ v.later, k.find t = none := fun k hk =>
      tokenWith_eq_none fun hp => h k hk hp.isInfix
    cases t with
    | nil => exact ⟨.nil, rfl⟩
    | cons c r =>
      rcases hl : longest v.substitutions (c :: r) with _ | ⟨o, n⟩
      · obtain ⟨hs, hr⟩ := ih r.length (by simp [← hn])
          (fun k hk hi => h k hk (List.infix_cons_iff.2 (.inr hi))) rfl
        rw [Text.cut_none hl]
        refine ⟨.char (fun k hk => ?_) hs, congrArg (List.cons c) hr⟩
        rw [hr]
        rcases List.mem_append.1 hk with hk | hk
        · obtain ⟨s, hs, rfl⟩ := List.mem_map.1 hk
          exact longest_eq_none hl s hs
        · exact hlater k hk
      · obtain ⟨hm, hf, hmax⟩ := longest_eq_some hl
        obtain ⟨⟨w, hw⟩, hlen, -⟩ := Token.find_eq_some hf
        have hw : c :: r = o.written ++ w := hw
        have hpos : 0 < o.written.length :=
          Nat.lt_of_lt_of_le
            (List.length_pos_iff.2 (Vocabulary.text_ne_nil (Vocabulary.mem_tokens hm)))
            (Token.length_text_le _ o.argument)
        have hlt : w.length < l := by
          rw [← hn, hw, List.length_append]
          omega
        rw [hw] at hl hf hmax hlater h ⊢
        rw [hlen] at hl hf hmax
        obtain ⟨hs, hr⟩ := ih w.length hlt
          (fun k hk hi => h k hk (hi.trans (List.suffix_append _ w).isInfix)) rfl
        rw [Text.cut_found (List.length_pos_iff.1 hpos) hl]
        refine ⟨.found hm (hr.symm ▸ hf) (fun k hk a n ha => ?_) hs,
          congrArg (o.written ++ ·) hr⟩
        rw [hr] at ha
        rcases List.mem_append.1 hk with hk | hk
        · obtain ⟨s, hs, rfl⟩ := List.mem_map.1 hk
          exact hmax s hs a n ha
        · cases (hlater k hk).symm.trans ha

end UploadTemplate.Naming
