import UploadTemplate.Proofs.Template.Dollar
import UploadTemplate.Proofs.Template.Unmarked

/-!
# Written documents

A document is written with backslashes where they are needed and nowhere else. Then every dollar
sign with a backslash before it belongs to a text, and every other one begins or ends a call.

- `Dollar.quote`, `Dollar.inside`, `Document.written`: texts, calls and documents as they are
  written.
- `writing_written`: this is a way to write a document.
- `quote_eq_dollar`: a dollar sign in a written text.
- `ofText_toMarks_literal`, `ofText_toMarks_call`: the tree of a rewritten template, part by part.
-/

namespace UploadTemplate.Dollar

open Template Document

/-! ### Texts -/

/-- The text with a backslash before its special characters. -/
def quote (special : List Char) (t : Text) : Text :=
  t.flatMap fun c => if c ∈ special then ['\\', c] else [c]

variable {special : List Char} {n t : Text} {ps : List Text}

theorem quote_append (special : List Char) (s t : Text) :
    quote special (s ++ t) = quote special s ++ quote special t := List.flatMap_append

theorem quote_of_mem {c : Char} (h : c ∈ special) (t : Text) :
    quote special (c :: t) = '\\' :: c :: quote special t := by
  rw [quote, List.flatMap_cons, if_pos h]
  rfl

theorem quote_of_not_mem {c : Char} (h : c ∉ special) (t : Text) :
    quote special (c :: t) = c :: quote special t := by
  rw [quote, List.flatMap_cons, if_neg h]
  rfl

theorem quoted_quote (special : List Char) (t : Text) : Quoted special t (quote special t) := by
  induction t with
  | nil => exact .nil
  | cons c t ih =>
    by_cases h : c ∈ special
    · rw [quote_of_mem h]
      exact .escaped c ih
    · rw [quote_of_not_mem h]
      exact .plain h ih

theorem quote_self (h : ∀ c ∈ t, c ∉ special) : quote special t = t := by
  induction t with
  | nil => rfl
  | cons c t ih =>
    obtain ⟨hc, ht⟩ := List.forall_mem_cons.1 h
    rw [quote_of_not_mem hc, ih ht]

/-- A text that is written without backslashes is written as it is. -/
theorem quote_eq_self (h : '\\' ∉ quote special t) : quote special t = t := by
  induction t with
  | nil => rfl
  | cons c t ih =>
    by_cases hc : c ∈ special
    · rw [quote_of_mem hc] at h
      exact absurd List.mem_cons_self h
    · rw [quote_of_not_mem hc] at h ⊢
      rw [ih fun hm => h (List.mem_cons_of_mem c hm)]

/-- A dollar sign in a written text is one of the text, behind a backslash. -/
theorem quote_eq_dollar (hs : specialOutside ⊆ special) {x y : Text}
    (h : quote special t = x ++ '$' :: y) :
    ∃ u v, t = u ++ '$' :: v ∧ x = quote special u ++ ['\\'] ∧ y = quote special v := by
  have hdollar : '$' ∈ special := hs (by decide)
  induction t generalizing x with
  | nil => cases x <;> cases h
  | cons c t ih =>
    by_cases hc : c ∈ special
    · rw [quote_of_mem hc] at h
      rcases x with _ | ⟨b, _ | ⟨b', x⟩⟩
      · cases (List.cons.inj h).1
      · obtain ⟨hb, hrest⟩ := List.cons.inj h
        obtain ⟨rfl, hy⟩ := List.cons.inj hrest
        exact ⟨[], t, rfl, by rw [← hb]; rfl, hy.symm⟩
      · obtain ⟨hb, hrest⟩ := List.cons.inj h
        obtain ⟨hb', hrest⟩ := List.cons.inj hrest
        obtain ⟨u, v, rfl, rfl, hv⟩ := ih hrest
        exact ⟨c :: u, v, rfl, by rw [quote_of_mem hc, ← hb, ← hb']; rfl, hv⟩
    · rw [quote_of_not_mem hc] at h
      cases x with
      | nil => exact absurd ((List.cons.inj h).1 ▸ hdollar) hc
      | cons b x =>
        obtain ⟨hb, hrest⟩ := List.cons.inj h
        obtain ⟨u, v, rfl, rfl, hv⟩ := ih hrest
        exact ⟨c :: u, v, rfl, by rw [quote_of_not_mem hc, ← hb]; rfl, hv⟩

/-! ### Calls -/

/-- A call as it is written, without the dollar signs around it. -/
def inside (name : Text) : List Text → Text
  | [] => quote specialInside name
  | p :: ps => quote specialInside name ++
      ':' :: (quote specialInside p ++ ps.flatMap fun q => '|' :: quote specialInside q)

theorem inside_append (s n : Text) (ps : List Text) :
    inside (s ++ n) ps = quote specialInside s ++ inside n ps := by
  cases ps <;> simp [inside, quote_append]

/-- The last parameter of a call stands behind a mark. -/
theorem inside_concat (n : Text) (ps : List Text) : ∃ x c, (c = ':' ∨ c = '|') ∧
    ∀ p, inside n (ps ++ [p]) = x ++ c :: quote specialInside p := by
  cases ps with
  | nil => exact ⟨quote specialInside n, ':', .inl rfl, fun p => by simp [inside]⟩
  | cons q ps => exact ⟨inside n (q :: ps), '|', .inr rfl, fun p => by simp [inside]⟩

theorem inside_inside (hn : ':' ∉ n) (ps : List Text) : Inside n ps (inside n ps) := by
  have hparameters (p : Text) (ps : List Text) : Parameters (p :: ps)
      (quote specialInside p ++ ps.flatMap fun q => '|' :: quote specialInside q) := by
    induction ps generalizing p with
    | nil => simpa using Parameters.last (quoted_quote _ p)
    | cons q ps ih => exact .more (quoted_quote _ p) (ih q)
  cases ps with
  | nil => exact .bare hn (quoted_quote _ n)
  | cons p ps => exact .call hn (quoted_quote _ n) (hparameters p ps)

/-! ### Documents -/

def Part.written : Part → Text
  | .literal t => quote specialOutside t
  | .call n ps => '$' :: (inside n ps ++ ['$'])

/-- A document as it is written. -/
def Document.written (d : Document) : Text := d.flatMap Part.written

theorem written_literal (t : Text) (d : Document) :
    Document.written (.literal t :: d) = quote specialOutside t ++ d.written := rfl

theorem written_call (n : Text) (ps : List Text) (d : Document) :
    Document.written (.call n ps :: d) = '$' :: (inside n ps ++ '$' :: d.written) := by
  simp [Document.written, Part.written]

/-- The name of a call has no colon. -/
def Part.IsWritable : Part → Prop
  | .literal _ => True
  | .call n _ => ':' ∉ n

instance : (p : Part) → Decidable p.IsWritable
  | .literal _ => inferInstanceAs (Decidable True)
  | .call n _ => inferInstanceAs (Decidable (':' ∉ n))

def Document.IsWritable (d : Document) : Prop := ∀ p ∈ d, p.IsWritable

instance (d : Document) : Decidable d.IsWritable := List.decidableBAll _ d

theorem writing_written {d : Document} (h : d.IsWritable) : Writing d d.written := by
  induction d with
  | nil => exact .nil
  | cons p d ih =>
    obtain ⟨hp, hd⟩ := List.forall_mem_cons.1 h
    cases p with
    | literal t => exact .literal (quoted_quote _ t) (ih hd)
    | call n ps =>
      rw [written_call]
      exact .call (inside_inside hp ps) (ih hd)

/-! ### Trees -/

theorem ofText_toMarks_literal (t s : Text) :
    ofText .standard (toMarks .standard (quote specialOutside t ++ s)) =
      letters t ++ ofText .standard (toMarks .standard s) := by
  have hmarks : toMarks .standard (quote specialOutside t ++ s) =
      t.flatMap (literal .standard) ++ toMarks .standard s :=
    toMarksFrom_quoted (quoted_quote _ t) (by decide) (by decide) s
  rw [hmarks, ofText_append (rendering_letters nofun)]

theorem ofText_toMarks_call {n a : Text} {ps : List Text} (h : Inside n ps a) (s : Text) :
    ofText .standard (toMarks .standard ('$' :: (a ++ '$' :: s))) =
      .call (letters n) (ps.map letters) :: ofText .standard (toMarks .standard s) := by
  have hclose : toMarksFrom .standard true ('$' :: s) = '\x7d' :: toMarks .standard s :=
    toMarksFrom_dollar .standard true s
  have hopen : toMarks .standard ('$' :: (a ++ '$' :: s)) =
      '\x7b' :: toMarksFrom .standard true (a ++ '$' :: s) :=
    toMarksFrom_dollar .standard false _
  cases h with
  | bare hn hq =>
    have hrendering := Rendering.bare (m := .standard) (rendering_letters fun _ => hn) (.nil .text)
    rw [hopen, toMarksFrom_quoted hq (by decide) (by decide), hclose]
    simpa [Marks.standard] using ofText_append hrendering (toMarks .standard s)
  | call hn hq hp =>
    obtain ⟨b', hb, hps⟩ := renderingAll_toMarks hp ('$' :: s)
    have hrendering := Rendering.call (rendering_letters fun _ => hn) hps (.nil .text)
    rw [hopen, List.append_assoc, toMarksFrom_quoted hq (by decide) (by decide), List.cons_append,
      toMarksFrom_colon, hb, hclose]
    simpa [Marks.standard] using ofText_append hrendering (toMarks .standard s)

end UploadTemplate.Dollar
