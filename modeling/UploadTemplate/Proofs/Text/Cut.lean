import UploadTemplate.Text.Cut

/-!
# Cutting and refilling

A text that is made of pieces is cut piece by piece, if the finder is known at each of them.

- `cut_found`, `cut_pass`: the cut at an occurrence, and where nothing begins.
- `refill_cut_eq_self`: replacing occurrences by themselves changes nothing.
- `replace_induction`: induction along the search for a token.
-/

namespace UploadTemplate.Text

variable {α : Type} {find : Finder α}

/-! ### Refilling -/

theorem refill_char (f : α → Text) (c : Char) (r : List (Fragment α)) :
    refill f (.char c :: r) = c :: refill f r := rfl

theorem refill_found (f : α → Text) (a : α) (r : List (Fragment α)) :
    refill f (.found a :: r) = f a ++ refill f r := rfl

theorem refill_append (f : α → Text) (p q : List (Fragment α)) :
    refill f (p ++ q) = refill f p ++ refill f q := by
  simp [refill]

theorem refill_chars (f : α → Text) (t : Text) : refill f (t.map .char) = t := by
  induction t with
  | nil => rfl
  | cons c t ih => rw [List.map_cons, refill_char, ih]

/-! ### Cutting -/

theorem cut_none {c : Char} {r : Text} (h : find (c :: r) = none) :
    cut find (c :: r) = .char c :: cut find r := by
  unfold cut
  rw [cutAfter, h]

theorem cut_some {c : Char} {r : Text} {a : α} {n : Nat} (h : find (c :: r) = some (a, n)) :
    cut find (c :: r) = .found a :: cut find (r.drop (n - 1)) := by
  rw [← cutAfter_eq_drop]
  unfold cut
  rw [cutAfter, h]

/-- An occurrence at the beginning, as long as the piece before the rest. -/
theorem cut_found {w r : Text} {a : α} (hw : w ≠ []) (h : find (w ++ r) = some (a, w.length)) :
    cut find (w ++ r) = .found a :: cut find r := by
  obtain ⟨c, w, rfl⟩ := List.exists_cons_of_ne_nil hw
  rw [List.cons_append] at h ⊢
  rw [cut_some h, List.length_cons, Nat.add_sub_cancel, List.drop_left]

/-- A piece in which no occurrence begins. -/
theorem cut_pass {w r : Text} (h : ∀ u v, w = u ++ v → v ≠ [] → find (v ++ r) = none) :
    cut find (w ++ r) = w.map .char ++ cut find r := by
  induction w with
  | nil => rfl
  | cons c w ih =>
    have hn : find (c :: (w ++ r)) = none := h [] (c :: w) rfl (List.cons_ne_nil c w)
    have ih := ih fun u v hw => h (c :: u) v (by rw [hw, List.cons_append])
    rw [List.cons_append, cut_none hn, ih, List.map_cons, List.cons_append]

/-- A text in which no occurrence begins. -/
theorem cut_eq_chars {t : Text} (h : ∀ u v, t = u ++ v → v ≠ [] → find v = none) :
    cut find t = t.map .char := by
  have := @cut_pass α find t [] fun u v ht hv => by rw [List.append_nil]; exact h u v ht hv
  simpa [cut, cutAfter] using this

theorem find_eq_none_of_cut {t : Text} (h : cut find t = t.map .char) {u v : Text}
    (ht : t = u ++ v) (hv : v ≠ []) : find v = none := by
  induction u generalizing t with
  | nil =>
    obtain ⟨c, r, rfl⟩ := List.exists_cons_of_ne_nil hv
    subst ht
    cases hf : find (c :: r) with
    | none => rfl
    | some found =>
      rw [List.nil_append, cut_some hf] at h
      cases (List.cons.inj h).1
  | cons c u ih =>
    subst ht
    rcases hf : find (c :: (u ++ v)) with _ | ⟨a, n⟩
    · rw [List.cons_append, cut_none hf] at h
      exact ih (List.cons.inj h).2 rfl
    · rw [List.cons_append, cut_some hf] at h
      cases (List.cons.inj h).1

/-- What is said about an occurrence may be put in its place at once or later. -/
theorem refill_cut_map (find : Finder α) (f : α → Text) (t : Text) :
    refill id (cut (fun t => (find t).map fun p => (f p.1, p.2)) t) = refill f (cut find t) := by
  unfold cut
  generalize 0 = skip
  induction t generalizing skip with
  | nil => cases skip <;> rfl
  | cons c r ih =>
    cases skip with
    | succ skip => exact ih skip
    | zero =>
      rw [cutAfter, cutAfter]
      rcases find (c :: r) with _ | ⟨a, n⟩
      · exact congrArg (c :: ·) (ih 0)
      · exact congrArg (f a ++ ·) (ih (n - 1))

/-- A text after which nothing is found that has begun before. -/
theorem cut_append {w x : Text} (h : ∀ v, find (v ++ x) = find v)
    (hw : ∀ v a n, find v = some (a, n) → n ≤ v.length) :
    cut find (w ++ x) = cut find w ++ cut find x := by
  induction hn : w.length using Nat.strongRecOn generalizing w with
  | ind l ih =>
    cases w with
    | nil => rfl
    | cons c w =>
      rw [List.length_cons] at hn
      have hfind : find (c :: (w ++ x)) = find (c :: w) := h (c :: w)
      rcases hf : find (c :: w) with _ | ⟨a, n⟩
      · rw [cut_none hf, List.cons_append, cut_none (hfind.trans hf), ih w.length (by omega) rfl]
        rfl
      · have hlen := hw _ _ _ hf
        rw [List.length_cons] at hlen
        rw [cut_some hf, List.cons_append, cut_some (hfind.trans hf),
          List.drop_append_of_le_length (by omega),
          ih (w.drop (n - 1)).length (by rw [List.length_drop]; omega) rfl]
        rfl

/-- Occurrences that stand for what they take. -/
theorem refill_cut_eq_self {f : α → Text} {t : Text}
    (h : ∀ u v a n, t = u ++ v → find v = some (a, n) → 0 < n ∧ f a = v.take n) :
    refill f (cut find t) = t := by
  induction hn : t.length using Nat.strongRecOn generalizing t with
  | ind l ih =>
    cases t with
    | nil => rfl
    | cons c r =>
      cases hc : find (c :: r) with
      | none =>
        rw [cut_none hc, refill_char]
        rw [ih r.length (by simp [← hn]) (fun u v a n hr => h (c :: u) v a n (by rw [hr]; rfl)) rfl]
      | some p =>
        obtain ⟨a, n⟩ := p
        obtain ⟨hpos, hf⟩ := h [] (c :: r) a n rfl hc
        obtain ⟨n, rfl⟩ : ∃ k, n = k + 1 := ⟨n - 1, by omega⟩
        rw [cut_some hc, refill_found, hf, Nat.add_sub_cancel]
        rw [ih (r.drop n).length (by rw [List.length_drop, ← hn, List.length_cons]; omega) _ rfl]
        · rw [List.take_succ_cons, List.cons_append, List.take_append_drop]
        · intro u v a' n' hr
          refine h (c :: r.take n ++ u) v a' n' ?_
          rw [List.append_assoc, ← hr, List.cons_append, List.take_append_drop]

/-! ### Fixed tokens -/

theorem tokenAt_eq_none {token t : Text} (h : ¬ token <+: t) : tokenAt token t = none := by
  unfold tokenAt
  rw [if_neg (by simpa using h)]

/-- A text in which the token does not occur keeps its characters, whatever else the finder says
about the token. -/
theorem cut_of_absent {token t : Text} (h : ¬ token <:+: t)
    (hf : ∀ v, ¬ token <+: v → find v = none) : cut find t = t.map .char := by
  refine cut_eq_chars fun u v ht _ => hf v fun ⟨w, hw⟩ => h ⟨u, w, ?_⟩
  rw [ht, ← hw, List.append_assoc]

theorem replace_of_absent {token t : Text} (h : ¬ token <:+: t) (value : Text) :
    replace token value t = t := by
  unfold replace
  rw [cut_of_absent h fun v hv => tokenAt_eq_none hv, refill_chars]

@[simp] theorem replace_nil (token value : Text) : replace token value [] = [] := rfl

theorem replace_char {token value r : Text} {c : Char} (h : ¬ token <+: c :: r) :
    replace token value (c :: r) = c :: replace token value r := by
  unfold replace
  rw [cut_none (tokenAt_eq_none h), refill_char]

theorem replace_token {token : Text} (h : token ≠ []) (value r : Text) :
    replace token value (token ++ r) = value ++ replace token value r := by
  have hfind : tokenAt token (token ++ r) = some ((), token.length) := by
    unfold tokenAt
    rw [if_pos (by simp)]
  unfold replace
  rw [cut_found h hfind, refill_found]

/-- A text is searched from left to right: at an occurrence, or one character on. -/
@[elab_as_elim]
theorem replace_induction {P : Text → Prop} {token : Text} (ht : token ≠ []) (hnil : P [])
    (hchar : ∀ c r, ¬ token <+: c :: r → P r → P (c :: r))
    (htoken : ∀ r, P r → P (token ++ r)) (t : Text) : P t := by
  induction hn : t.length using Nat.strongRecOn generalizing t with
  | ind n ih =>
    cases t with
    | nil => exact hnil
    | cons c r =>
      by_cases h : token <+: c :: r
      · obtain ⟨r', hr⟩ := h
        have hlen : 0 < token.length := List.length_pos_iff.2 ht
        have hlt : r'.length < n := by
          rw [← hn, ← hr, List.length_append]
          omega
        exact hr ▸ htoken r' (ih r'.length hlt r' rfl)
      · exact hchar c r h (ih r.length (by rw [← hn]; exact Nat.lt_succ_self _) r rfl)

/-- Where the token stands, the text shows which of two values of one length replaced it. -/
theorem replace_inj {token v w t : Text} (ht : token ≠ []) (hlen : v.length = w.length)
    (hi : token <:+: t) (h : replace token v t = replace token w t) : v = w := by
  induction t using replace_induction ht with
  | hnil => exact absurd (List.infix_nil.1 hi) ht
  | hchar c r hc ih =>
    rw [replace_char hc, replace_char hc] at h
    exact ih ((List.infix_cons_iff.1 hi).resolve_left hc) (List.cons.inj h).2
  | htoken r ih =>
    rw [replace_token ht, replace_token ht] at h
    exact (List.append_inj h hlen).1

theorem contains_iff {token t : Text} : contains token t = true ↔ token <:+: t := by
  induction t with
  | nil => simp [contains]
  | cons c t ih =>
    rw [contains, Bool.or_eq_true, ih, List.isPrefixOf_iff_prefix, List.infix_cons_iff]

/-- A token occurs only where its first character does. -/
theorem absent_of_not_mem {c : Char} {token t : Text} (hc : c ∈ token) (ht : c ∉ t) :
    ¬ token <:+: t :=
  fun h => ht (h.subset hc)

/-- A token does not reach to a character that it does not have. -/
theorem prefix_append_cons_iff {c : Char} {token w r : Text} (h : c ∉ token) :
    token <+: w ++ c :: r ↔ token <+: w := by
  induction token generalizing w with
  | nil => simp
  | cons d token ih =>
    simp only [List.mem_cons, not_or] at h
    cases w with
    | nil => simp [List.cons_prefix_cons, Ne.symm h.1]
    | cons e w => rw [List.cons_append, List.cons_prefix_cons, List.cons_prefix_cons, ih h.2]

/-- A token does not begin in characters that are not its first one. -/
theorem infix_append_iff {c : Char} {w t x : Text} (h : c ∉ t) :
    c :: w <:+: t ++ x ↔ c :: w <:+: x := by
  induction t with
  | nil => rfl
  | cons d t ih =>
    simp only [List.mem_cons, not_or] at h
    rw [List.cons_append, List.infix_cons_iff, ih h.2, List.cons_prefix_cons]
    exact ⟨fun hi => hi.resolve_left fun hp => h.1 hp.1, .inr⟩

/-! ### What has been found -/

/-- What the finder said about the occurrences, from left to right. -/
def found (parts : List (Fragment α)) : List α :=
  parts.filterMap fun
    | .char _ => none
    | .found a => some a

section Failing

variable {ε : Type} {f : α → Except ε Text} {fails : α → Bool} {parts : List (Fragment α)}

theorem exists_refillM_of_find?_none (hok : ∀ a, fails a = false → ∃ t, f a = .ok t)
    (h : (found parts).find? fails = none) : ∃ t, refillM f parts = .ok t := by
  induction parts with
  | nil => exact ⟨[], rfl⟩
  | cons part parts ih =>
    cases part with
    | char c =>
      obtain ⟨rest, hrest⟩ := ih h
      exact ⟨c :: rest, by rw [refillM, hrest]; rfl⟩
    | found a =>
      obtain ⟨ha, hparts⟩ : fails a = false ∧ (found parts).find? fails = none := by
        have hcons : (a :: found parts).find? fails = none := h
        rw [List.find?_cons] at hcons
        split at hcons
        · cases hcons
        · exact ⟨by assumption, hcons⟩
      obtain ⟨made, hmade⟩ := hok a ha
      obtain ⟨rest, hrest⟩ := ih hparts
      exact ⟨made ++ rest, by rw [refillM, hmade, hrest]; rfl⟩

/-- The first replacement that fails is the failure. -/
theorem refillM_of_find?_some (hok : ∀ a, fails a = false → ∃ t, f a = .ok t) {a : α} {e : ε}
    (he : f a = .error e) (h : (found parts).find? fails = some a) :
    refillM f parts = .error e := by
  induction parts with
  | nil => cases h
  | cons part parts ih =>
    cases part with
    | char c => rw [refillM, ih h]; rfl
    | found b =>
      have hcons : (b :: found parts).find? fails = some a := h
      rw [List.find?_cons] at hcons
      split at hcons
      · cases hcons
        rw [refillM, he]
        rfl
      · rename_i hb
        obtain ⟨made, hmade⟩ := hok b hb
        rw [refillM, hmade, ih hcons]
        rfl

end Failing

section Monadic

variable {m : Type → Type} [Monad m] [LawfulMonad m]

theorem refillM_chars (f : α → m Text) (t : Text) : refillM f (t.map .char) = pure t := by
  induction t with
  | nil => rfl
  | cons c t ih => rw [List.map_cons, refillM, ih, pure_bind]

theorem refillM_append (f : α → m Text) (p q : List (Fragment α)) :
    refillM f (p ++ q) = (do
      let first ← refillM f p
      let rest ← refillM f q
      pure (first ++ rest)) := by
  induction p with
  | nil => simp only [List.nil_append, refillM, pure_bind, bind_pure]
  | cons part p ih =>
    cases part <;>
      simp only [List.cons_append, refillM, ih, bind_assoc, pure_bind, List.append_assoc]

/-- Parts with a text between any two of them. -/
theorem refillM_intercalate (f : α → m Text) (a : Text) (parts : List (List (Fragment α))) :
    refillM f (List.intercalate (a.map .char) parts) =
      List.intercalate a <$> parts.mapM (refillM f) := by
  induction parts with
  | nil => simp [refillM]
  | cons p parts ih =>
    cases parts with
    | nil => simp
    | cons q parts =>
      rw [List.intercalate_cons_cons, refillM_append, refillM_append, refillM_chars, ih]
      simp only [List.mapM_cons, map_eq_pure_bind, bind_assoc, pure_bind,
        List.intercalate_cons_cons]

end Monadic

end UploadTemplate.Text
