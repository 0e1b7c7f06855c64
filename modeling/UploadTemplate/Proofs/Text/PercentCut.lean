import UploadTemplate.Proofs.Text.Percent

/-!
# Percent-coded text that is cut

A text is whole if every percent sign in it begins an escape of two hexadecimal digits. Cutting a
whole text may tear its last escape; what is left before that is whole again, and stands for some
of the bytes.

- `Percent.IsWhole`: every percent sign begins an escape.
- `Percent.IsWhole.decodeBytes_append`: the bytes of a whole text with another one behind it.
- `Percent.IsTorn`: what is left of an escape that has been cut.
- `Percent.IsWhole.take`: the beginning of a whole text.
-/

namespace UploadTemplate.Percent

/-- Every percent sign begins an escape of two hexadecimal digits. -/
def IsWhole (t : Text) : Prop :=
  ∀ a b, t = a ++ '%' :: b → ∃ hi lo r, b = hi :: lo :: r ∧ (byte? hi lo).isSome = true

variable {t w : Text} {c hi lo : Char}

theorem hexValue_of_byte? (h : (byte? hi lo).isSome = true) :
    (Numeral.hexValue hi).isSome = true ∧ (Numeral.hexValue lo).isSome = true := by
  unfold byte? at h
  cases hhi : Numeral.hexValue hi <;> cases hlo : Numeral.hexValue lo <;> simp [hhi, hlo] at h ⊢

theorem ne_percent_of_byte? (h : (byte? hi lo).isSome = true) : hi ≠ '%' ∧ lo ≠ '%' := by
  have hvalue : (Numeral.hexValue '%').isSome = false := by decide
  obtain ⟨hhi, hlo⟩ := hexValue_of_byte? h
  constructor
  · rintro rfl
    rw [hvalue] at hhi
    cases hhi
  · rintro rfl
    rw [hvalue] at hlo
    cases hlo

theorem isWhole_of_no_percent (h : '%' ∉ t) : IsWhole t := by
  intro a b hab
  exact absurd (by rw [hab]; simp) h

theorem IsWhole.tail (h : IsWhole (c :: t)) : IsWhole t :=
  fun a b hab => h (c :: a) b (by rw [hab, List.cons_append])

theorem isWhole_cons (hc : c ≠ '%') (h : IsWhole t) : IsWhole (c :: t) := by
  intro a b hab
  cases a with
  | nil => exact absurd (List.cons.inj hab).1 hc
  | cons d a => exact h a b (List.cons.inj hab).2

theorem isWhole_escape (hb : (byte? hi lo).isSome = true) (h : IsWhole t) :
    IsWhole ('%' :: hi :: lo :: t) := by
  intro a b hab
  cases a with
  | nil => exact ⟨hi, lo, t, (List.cons.inj hab).2.symm, hb⟩
  | cons d a =>
    obtain ⟨hhi, hlo⟩ := ne_percent_of_byte? hb
    exact isWhole_cons hhi (isWhole_cons hlo h) a b (List.cons.inj hab).2

/-- A whole text is made of escapes and of characters that are no percent signs. -/
@[elab_as_elim]
theorem IsWhole.induction {P : (t : Text) → IsWhole t → Prop}
    (hnil : P [] (isWhole_of_no_percent List.not_mem_nil))
    (hplain : ∀ c r (hc : c ≠ '%') (hr : IsWhole r), P r hr → P (c :: r) (isWhole_cons hc hr))
    (hescape : ∀ hi lo r (hb : (byte? hi lo).isSome = true) (hr : IsWhole r), P r hr →
      P ('%' :: hi :: lo :: r) (isWhole_escape hb hr))
    (h : IsWhole t) : P t h := by
  induction hn : t.length using Nat.strongRecOn generalizing t with
  | ind n ih =>
    cases t with
    | nil => exact hnil
    | cons c r =>
      by_cases hc : c = '%'
      · obtain ⟨hi, lo, r', rfl, hb⟩ := h [] r (by rw [hc, List.nil_append])
        subst hc
        refine hescape hi lo r' hb h.tail.tail.tail (ih r'.length ?_ h.tail.tail.tail rfl)
        simp only [List.length_cons] at hn
        omega
      · have hlt : r.length < n := by rw [← hn]; exact Nat.lt_succ_self _
        exact hplain c r hc h.tail (ih r.length hlt h.tail rfl)

theorem IsWhole.append (ht : IsWhole t) (hw : IsWhole w) : IsWhole (t ++ w) := by
  induction ht using IsWhole.induction with
  | hnil => exact hw
  | hplain c r hc _ ih => exact isWhole_cons hc ih
  | hescape hi lo r hb _ ih => exact isWhole_escape hb ih

/-! ### Bytes -/

theorem decodeBytes_escaped {b : UInt8} (h : byte? hi lo = some b) (r : Text) :
    decodeBytes ('%' :: hi :: lo :: r) = b :: decodeBytes r := by
  rw [decodeBytes, h]

/-- An escape does not reach from a whole text into the text behind it. -/
theorem IsWhole.decodeBytes_append (h : IsWhole t) (w : Text) :
    decodeBytes (t ++ w) = decodeBytes t ++ decodeBytes w := by
  induction h using IsWhole.induction with
  | hnil => rfl
  | hplain c r hc _ ih =>
    rw [List.cons_append, decodeBytes_plain hc, decodeBytes_plain hc, ih, List.append_assoc]
  | hescape hi lo r hb _ ih =>
    obtain ⟨b, hb⟩ := Option.isSome_iff_exists.1 hb
    simp only [List.cons_append]
    rw [decodeBytes_escaped hb, decodeBytes_escaped hb, ih, List.cons_append]

theorem decodeBytes_ne_nil (h : t ≠ []) : decodeBytes t ≠ [] := by
  obtain ⟨c, r, rfl⟩ := List.exists_cons_of_ne_nil h
  have hne (d : Char) (bytes : Bytes) : String.utf8EncodeChar d ++ bytes ≠ [] :=
    List.append_ne_nil_of_left_ne_nil String.utf8EncodeChar_ne_nil bytes
  rw [decodeBytes.eq_def]
  split
  · contradiction
  · split
    · exact List.cons_ne_nil _ _
    · exact hne _ _
  · exact hne _ _

/-- Two beginnings of a text that are whole and stand for the same bytes are the same. -/
theorem IsWhole.eq_of_prefix {s : Text} (ht : IsWhole t) (hw : IsWhole w) (hts : t <+: s)
    (hws : w <+: s) (h : decodeBytes t = decodeBytes w) : t = w := by
  have heq {u v : Text} (hu : IsWhole u) (huv : u <+: v) (h : decodeBytes u = decodeBytes v) :
      u = v := by
    obtain ⟨x, rfl⟩ := huv
    have hx : decodeBytes x = [] := by
      rw [hu.decodeBytes_append] at h
      exact List.self_eq_append_right.1 h
    cases x with
    | nil => exact (List.append_nil u).symm
    | cons c x => exact absurd hx (decodeBytes_ne_nil (List.cons_ne_nil c x))
  rcases List.prefix_or_prefix_of_prefix hts hws with htw | hwt
  · exact heq ht htw h
  · exact (heq hw hwt h.symm).symm

/-! ### Cuts -/

/-- Nothing, or an escape without its last digit or both. -/
def IsTorn (t : Text) : Prop :=
  t = [] ∨ t = ['%'] ∨ ∃ hi, (Numeral.hexValue hi).isSome = true ∧ t = ['%', hi]

/-- The beginning of a whole text is whole up to an escape that it may cut. -/
theorem IsWhole.take (h : IsWhole t) (n : Nat) :
    ∃ whole torn, t.take n = whole ++ torn ∧ IsWhole whole ∧ IsTorn torn := by
  induction h using IsWhole.induction generalizing n with
  | hnil => exact ⟨[], [], by simp, isWhole_of_no_percent List.not_mem_nil, .inl rfl⟩
  | hplain c r hc _ ih =>
    cases n with
    | zero => exact ⟨[], [], rfl, isWhole_of_no_percent List.not_mem_nil, .inl rfl⟩
    | succ n =>
      obtain ⟨whole, torn, hr, hwhole, htorn⟩ := ih n
      exact ⟨c :: whole, torn, by rw [List.take_succ_cons, hr, List.cons_append],
        isWhole_cons hc hwhole, htorn⟩
  | hescape hi lo r hb _ ih =>
    have hnil : IsWhole [] := isWhole_of_no_percent List.not_mem_nil
    match n with
    | 0 => exact ⟨[], [], rfl, hnil, .inl rfl⟩
    | 1 => exact ⟨[], ['%'], rfl, hnil, .inr (.inl rfl)⟩
    | 2 => exact ⟨[], ['%', hi], rfl, hnil, .inr (.inr ⟨hi, (hexValue_of_byte? hb).1, rfl⟩)⟩
    | n + 3 =>
      obtain ⟨whole, torn, hr, hwhole, htorn⟩ := ih n
      exact ⟨'%' :: hi :: lo :: whole, torn,
        by simp only [List.take_succ_cons, hr, List.cons_append], isWhole_escape hb hwhole, htorn⟩

/-! ### Encoded text -/

theorem isWhole_escapes (bytes : Bytes) : IsWhole (bytes.flatMap escape) := by
  induction bytes with
  | nil => exact isWhole_of_no_percent List.not_mem_nil
  | cons b bytes ih =>
    rw [List.flatMap_cons]
    exact isWhole_escape (by rw [byte?_escape]; rfl) ih

theorem isWhole_encodeChar (c : Char) : IsWhole (encodeChar c) := by
  unfold encodeChar
  split
  · rename_i hc
    refine isWhole_of_no_percent fun h => ?_
    rw [← List.mem_singleton.1 h] at hc
    cases hc
  · exact isWhole_escapes _

end UploadTemplate.Percent
