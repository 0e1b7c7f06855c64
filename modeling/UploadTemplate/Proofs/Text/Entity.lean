import UploadTemplate.Proofs.Text.Cut
import UploadTemplate.Text.Cut
import UploadTemplate.Text.Entity

/-!
# Entities and back

An encoded text has none of the characters that mean something in XML, but for the ampersands with
which its entities begin. Reading its entities gives the text back.

- `Entity.predefined`: the five entities that every XML document has.
- `Entity.decode`: a text with its entities read.
- `Entity.IsWhole`: every ampersand begins an entity.
- `Entity.decode_encode`, `Entity.isWhole_encode`: what encoding does.
-/

namespace UploadTemplate.Entity

/-- The characters with predefined entities. -/
def predefined : List (Char × Text) :=
  [('<', "&lt;"), ('>', "&gt;"), ('&', "&amp;"), ('\x27', "&apos;"), ('"', "&quot;")]

/-- Finds an entity, with its character. -/
def entityAt : Text.Finder Char := fun t =>
  (predefined.find? fun e => e.2.isPrefixOf t).map fun e => (e.1, e.2.length)

/-- The text with its entities read. -/
def decode (t : Text) : Text := Text.refill (fun c => [c]) (Text.cut entityAt t)

/-- Every ampersand begins an entity. -/
def IsWhole (t : Text) : Prop :=
  ∀ a b, t = a ++ '&' :: b → ∃ e ∈ predefined, e.2 <+: '&' :: b

/-! ### Entities -/

theorem form_of_mem : ∀ e ∈ predefined, e.2 = '&' :: e.2.tail ∧ '&' ∉ e.2.tail ∧
    '<' ∉ e.2 ∧ '>' ∉ e.2 ∧ '"' ∉ e.2 ∧ '\x27' ∉ e.2 := by
  decide

/-- No entity begins another one. -/
theorem eq_of_begins : ∀ e ∈ predefined, ∀ e' ∈ predefined, e.2 <+: e'.2 → e = e' := by
  decide

theorem encodeChar_cases (c : Char) :
    (c, encodeChar c) ∈ predefined ∨ (∀ e ∈ predefined, c ≠ e.1) ∧ encodeChar c = [c] := by
  unfold encodeChar
  split
  · exact .inl (‹c = '<'› ▸ by decide)
  split
  · exact .inl (‹c = '>'› ▸ by decide)
  split
  · exact .inl (‹c = '&'› ▸ by decide)
  split
  · exact .inl (‹c = '\x27'› ▸ by decide)
  split
  · exact .inl (‹c = '"'› ▸ by decide)
  · exact .inr ⟨by simp_all [predefined], rfl⟩

/-- A character that is no special one is not an ampersand either. -/
theorem ne_of_forall_ne {c : Char} (h : ∀ e ∈ predefined, c ≠ e.1) :
    c ≠ '&' ∧ c ≠ '<' ∧ c ≠ '>' ∧ c ≠ '"' ∧ c ≠ '\x27' := by
  simp only [predefined, List.forall_mem_cons] at h
  exact ⟨h.2.2.1, h.1, h.2.1, h.2.2.2.2.1, h.2.2.2.1⟩

/-! ### Reading -/

theorem entityAt_of_mem {e : Char × Text} (he : e ∈ predefined) (r : Text) :
    entityAt (e.2 ++ r) = some (e.1, e.2.length) := by
  have hfound : (predefined.find? fun e' => e'.2.isPrefixOf (e.2 ++ r)).isSome = true :=
    List.find?_isSome.2 ⟨e, he, List.isPrefixOf_iff_prefix.2 (List.prefix_append e.2 r)⟩
  obtain ⟨e', hfind⟩ := Option.isSome_iff_exists.1 hfound
  have he' : e' ∈ predefined := List.mem_of_find?_eq_some hfind
  have hprefix : e'.2 <+: e.2 ++ r := by simpa using List.find?_some hfind
  have heq : e' = e := by
    rcases List.prefix_or_prefix_of_prefix hprefix (List.prefix_append e.2 r) with h | h
    · exact eq_of_begins e' he' e he h
    · exact (eq_of_begins e he e' he' h).symm
  rw [entityAt, hfind, heq, Option.map_some]

theorem entityAt_eq_none {c : Char} (h : c ≠ '&') (r : Text) : entityAt (c :: r) = none := by
  rw [entityAt, Option.map_eq_none_iff, List.find?_eq_none]
  intro e he hprefix
  rw [(form_of_mem e he).1, List.isPrefixOf_iff_prefix, List.cons_prefix_cons] at hprefix
  exact h hprefix.1.symm

theorem decode_encodeChar (c : Char) (r : Text) : decode (encodeChar c ++ r) = c :: decode r := by
  unfold decode
  rcases encodeChar_cases c with h | ⟨hne, hplain⟩
  · have hcons : encodeChar c ≠ [] := fun hnil => by
      have hform := (form_of_mem _ h).1
      rw [hnil] at hform
      cases hform
    rw [Text.cut_found hcons (entityAt_of_mem h r), Text.refill_found, List.singleton_append]
  · rw [hplain, List.singleton_append, Text.cut_none (entityAt_eq_none (ne_of_forall_ne hne).1 r),
      Text.refill_char]

theorem encode_cons (c : Char) (t : Text) : encode (c :: t) = encodeChar c ++ encode t :=
  List.flatMap_cons

theorem decode_encode (t : Text) : decode (encode t) = t := by
  induction t with
  | nil => rfl
  | cons c t ih => rw [encode_cons, decode_encodeChar, ih]

/-! ### The characters of encoded text -/

theorem ne_of_mem_encode {t : Text} {c : Char} (h : c ∈ encode t) :
    c ≠ '<' ∧ c ≠ '>' ∧ c ≠ '"' ∧ c ≠ '\x27' := by
  obtain ⟨d, -, hc⟩ := List.mem_flatMap.1 h
  rcases encodeChar_cases d with hd | ⟨hne, hplain⟩
  · obtain ⟨-, -, hlt, hgt, hquote, hapostrophe⟩ := form_of_mem _ hd
    refine ⟨?_, ?_, ?_, ?_⟩
    · exact fun h => hlt (h ▸ hc)
    · exact fun h => hgt (h ▸ hc)
    · exact fun h => hquote (h ▸ hc)
    · exact fun h => hapostrophe (h ▸ hc)
  · rw [hplain] at hc
    rw [List.mem_singleton.1 hc]
    exact (ne_of_forall_ne hne).2

theorem isWhole_cons {c : Char} {t : Text} (hc : c ≠ '&') (h : IsWhole t) : IsWhole (c :: t) := by
  intro a b hab
  cases a with
  | nil => exact absurd (List.cons.inj hab).1 hc
  | cons d a => exact h a b (List.cons.inj hab).2

theorem isWhole_append {w t : Text} (hw : '&' ∉ w) (h : IsWhole t) : IsWhole (w ++ t) := by
  induction w with
  | nil => exact h
  | cons c w ih =>
    obtain ⟨hc, hw⟩ := not_or.1 (mt List.mem_cons.2 hw)
    exact isWhole_cons (Ne.symm hc) (ih hw)

theorem isWhole_entity {e : Char × Text} (he : e ∈ predefined) {t : Text} (h : IsWhole t) :
    IsWhole (e.2 ++ t) := by
  obtain ⟨hamp, htail, -⟩ := form_of_mem e he
  intro a b hab
  cases a with
  | nil => exact ⟨e, he, t, hab⟩
  | cons d a =>
    rw [hamp, List.cons_append, List.cons_append] at hab
    exact isWhole_append htail h a b (List.cons.inj hab).2

theorem isWhole_encode (t : Text) : IsWhole (encode t) := by
  induction t with
  | nil =>
    intro a b hab
    cases a <;> cases hab
  | cons c t ih =>
    rw [encode_cons]
    rcases encodeChar_cases c with h | ⟨hne, hplain⟩
    · exact isWhole_entity h ih
    · rw [hplain]
      exact isWhole_cons (ne_of_forall_ne hne).1 ih

end UploadTemplate.Entity
