import Mathlib.Data.List.TakeWhile
import UploadTemplate.Text

/-!
# Texts in pieces

A text is cut at every mark or at the first one, and the blanks at its ends are taken off. What is
put behind a text belongs to its last piece, unless it begins with a mark.

- `Text.split_append_mark`, `split_intercalate`, `splitOnce_append`: cutting undoes joining.
- `Text.intercalate_split`, `not_mem_of_mem_split`: joining undoes cutting.
- `Text.exists_split_append`: what belongs to the last piece.
- `Text.trim_append_blanks`, `Text.trim_eq_self`: blanks at the end, and none at the ends.
-/

namespace UploadTemplate.Text

variable {mark : Char} {t : Text}

/-! ### Marks -/

theorem split_append_mark (mark : Char) (t r : Text) :
    split mark (t ++ mark :: r) = split mark t ++ split mark r := by
  induction t with
  | nil => simp [split]
  | cons c t ih =>
    rw [List.cons_append, split, split, ih]
    split
    · rfl
    · obtain ⟨piece, rest, hsplit⟩ := List.exists_cons_of_ne_nil (split_ne_nil mark t)
      rw [hsplit]
      rfl

theorem split_of_not_mem (h : mark ∉ t) : split mark t = [t] := by
  induction t with
  | nil => rfl
  | cons c t ih =>
    obtain ⟨hc, ht⟩ := not_or.1 (mt List.mem_cons.2 h)
    rw [split, if_neg (Ne.symm hc), ih ht]

theorem split_append (h : mark ∉ t) (r : Text) :
    split mark (t ++ mark :: r) = t :: split mark r := by
  rw [split_append_mark, split_of_not_mem h, List.singleton_append]

/-- What is put behind a text and has no mark belongs to the last piece. -/
theorem exists_split_append (mark : Char) (t : Text) : ∃ before last,
    ∀ r, mark ∉ r → split mark (t ++ r) = before ++ [last ++ r] := by
  induction t with
  | nil => exact ⟨[], [], fun r hr => split_of_not_mem hr⟩
  | cons c t ih =>
    obtain ⟨before, last, ih⟩ := ih
    by_cases hc : c = mark
    · refine ⟨[] :: before, last, fun r hr => ?_⟩
      rw [List.cons_append, split, if_pos hc, ih r hr, List.cons_append]
    · cases before with
      | nil =>
        refine ⟨[], c :: last, fun r hr => ?_⟩
        rw [List.cons_append, split, if_neg hc, ih r hr]
        rfl
      | cons piece before =>
        refine ⟨(c :: piece) :: before, last, fun r hr => ?_⟩
        rw [List.cons_append, split, if_neg hc, ih r hr]
        rfl

theorem mem_split {c : Char} (h : c ∈ t) (hc : c ≠ mark) :
    ∃ piece ∈ split mark t, c ∈ piece := by
  induction t with
  | nil => cases h
  | cons d t ih =>
    rw [split]
    split
    · rename_i hd
      have ht : c ∈ t := (List.mem_cons.1 h).resolve_left fun e => hc (e.trans hd)
      obtain ⟨piece, hp, hm⟩ := ih ht
      exact ⟨piece, List.mem_cons_of_mem _ hp, hm⟩
    · split
      · rename_i hs
        exact absurd hs (split_ne_nil mark t)
      · rename_i piece rest hs
        rcases List.mem_cons.1 h with rfl | h
        · exact ⟨_, List.mem_cons_self, List.mem_cons_self⟩
        · obtain ⟨q, hq, hm⟩ := ih h
          rw [hs] at hq
          rcases List.mem_cons.1 hq with rfl | hq
          · exact ⟨_, List.mem_cons_self, List.mem_cons_of_mem d hm⟩
          · exact ⟨q, List.mem_cons_of_mem _ hq, hm⟩

theorem split_intercalate {pieces : List Text} (hne : pieces ≠ [])
    (h : ∀ piece ∈ pieces, mark ∉ piece) :
    split mark (List.intercalate [mark] pieces) = pieces := by
  induction pieces with
  | nil => exact absurd rfl hne
  | cons piece pieces ih =>
    obtain ⟨hpiece, hpieces⟩ := List.forall_mem_cons.1 h
    cases pieces with
    | nil => rw [List.intercalate_singleton, split_of_not_mem hpiece]
    | cons next rest =>
      rw [List.intercalate_cons_cons, List.append_assoc, List.singleton_append,
        split_append hpiece, ih (List.cons_ne_nil _ _) hpieces]

theorem not_mem_of_mem_split {piece : Text} (h : piece ∈ split mark t) : mark ∉ piece := by
  induction t generalizing piece with
  | nil =>
    rw [List.mem_singleton.1 h]
    exact List.not_mem_nil
  | cons c t ih =>
    rw [split] at h
    split at h
    · rcases List.mem_cons.1 h with rfl | h
      · exact List.not_mem_nil
      · exact ih h
    · rename_i hc
      obtain ⟨first, rest, hsplit⟩ := List.exists_cons_of_ne_nil (split_ne_nil mark t)
      rw [hsplit] at h ih
      rcases List.mem_cons.1 h with rfl | h
      · exact List.not_mem_cons_of_ne_of_not_mem (Ne.symm hc) (ih List.mem_cons_self)
      · exact ih (List.mem_cons_of_mem first h)

/-- Joining undoes cutting. -/
theorem intercalate_split (mark : Char) (t : Text) :
    List.intercalate [mark] (split mark t) = t := by
  induction t with
  | nil => rfl
  | cons c t ih =>
    obtain ⟨first, rest, hsplit⟩ := List.exists_cons_of_ne_nil (split_ne_nil mark t)
    rw [split]
    split
    · rename_i hc
      rw [hsplit, List.intercalate_cons_cons, ← hsplit, ih, hc]
      rfl
    · rw [hsplit] at ih ⊢
      rw [← ih]
      cases rest with
      | nil => simp
      | cons next rest => simp [List.intercalate_cons_cons]

theorem splitOnce_append (h : mark ∉ t) (r : Text) :
    splitOnce mark (t ++ mark :: r) = some (t, r) := by
  induction t with
  | nil => rw [List.nil_append, splitOnce, if_pos rfl]
  | cons c t ih =>
    obtain ⟨hc, ht⟩ := not_or.1 (mt List.mem_cons.2 h)
    rw [List.cons_append, splitOnce, if_neg (Ne.symm hc), ih ht, Option.map_some]

/-! ### Blanks -/

theorem trimStart_eq_self (h : ∀ c ∈ t.head?, isBlank c = false) : trimStart t = t := by
  cases t with
  | nil => rfl
  | cons c t => exact List.dropWhile_cons_of_neg (by simp [h c rfl])

theorem trimEnd_eq_self (h : ∀ c ∈ t.getLast?, isBlank c = false) : trimEnd t = t := by
  have hreverse : trimStart t.reverse = t.reverse :=
    trimStart_eq_self fun c hc => h c (by rwa [List.head?_reverse] at hc)
  exact (congrArg List.reverse hreverse).trans t.reverse_reverse

theorem trim_eq_self (hfirst : ∀ c ∈ t.head?, isBlank c = false)
    (hlast : ∀ c ∈ t.getLast?, isBlank c = false) : trim t = t := by
  rw [trim, trimStart_eq_self hfirst, trimEnd_eq_self hlast]

/-- Blanks at the end are all that is lost there. -/
theorem exists_trimEnd_append (t : Text) :
    ∃ blanks, (∀ c ∈ blanks, isBlank c = true) ∧ t = trimEnd t ++ blanks := by
  refine ⟨(t.reverse.takeWhile isBlank).reverse, fun c hc => ?_, ?_⟩
  · exact List.mem_takeWhile_imp (p := isBlank) (List.mem_reverse.1 hc)
  · rw [trimEnd, ← List.reverse_append, List.takeWhile_append_dropWhile, List.reverse_reverse]

theorem trimStart_append (t r : Text) :
    trimStart (t ++ r) = if (trimStart t).isEmpty then trimStart r else trimStart t ++ r :=
  List.dropWhile_append

theorem trimEnd_append_blanks {blanks : Text} (h : ∀ c ∈ blanks, isBlank c = true) (t : Text) :
    trimEnd (t ++ blanks) = trimEnd t := by
  have hnil : trimStart blanks.reverse = [] :=
    List.dropWhile_eq_nil_iff.2 fun c hc => h c (List.mem_reverse.1 hc)
  have hreverse : trimStart (blanks.reverse ++ t.reverse) = trimStart t.reverse := by
    rw [trimStart_append, hnil]
    rfl
  rw [trimEnd, List.reverse_append]
  exact congrArg List.reverse hreverse

theorem trim_append_blanks {blanks : Text} (h : ∀ c ∈ blanks, isBlank c = true) (t : Text) :
    trim (t ++ blanks) = trim t := by
  have hnil : trimStart blanks = [] := List.dropWhile_eq_nil_iff.2 h
  rw [trim, trim, trimStart_append]
  split
  · rename_i ht
    rw [hnil, List.isEmpty_iff.1 ht]
  · exact trimEnd_append_blanks h _

theorem mem_dropWhile {p : Char → Bool} {c : Char} (h : c ∈ t) (hc : p c = false) :
    c ∈ t.dropWhile p := by
  induction t with
  | nil => cases h
  | cons d t ih =>
    rw [List.dropWhile_cons]
    split
    · rename_i hd
      refine ih ((List.mem_cons.1 h).resolve_left ?_)
      rintro rfl
      rw [hc] at hd
      cases hd
    · exact h

theorem mem_trim {c : Char} (h : c ∈ t) (hc : isBlank c = false) : c ∈ trim t := by
  unfold trim trimEnd trimStart
  have h1 : c ∈ (t.dropWhile isBlank).reverse := List.mem_reverse.2 (mem_dropWhile h hc)
  exact List.mem_reverse.2 (mem_dropWhile h1 hc)

end UploadTemplate.Text
