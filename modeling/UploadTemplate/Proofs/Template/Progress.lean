import UploadTemplate.Proofs.Template.Rendering

/-!
# Reading character by character

A template text is read from left to right, so a text that is put together of parts is read part by
part. What decides how a part is read are the open calls; of the text around all of them only what
stands in it so far is remembered.

- `Progress.after`: how far reading has come after a text.
- `readFrom_eq_after`: reading is one step for each character.
- `Progress.Within`: at most so many spans are open, and the next character has no escape before it.
- `Progress.Alike`: the same calls are open. This is kept, whatever is read.
-/

namespace UploadTemplate.Template

/-! ### Steps -/

/-- How far reading has come. -/
inductive Progress where
  /-- Between two characters. -/
  | reading (st : Reading)
  /-- Behind an escape. -/
  | escaped (st : Reading)
  /-- Behind the mark that ends the outermost span, which is the first character of the rest. -/
  | ended (st : Reading) (rest : Text)

namespace Progress

def state : Progress → Reading
  | reading st | escaped st | ended st _ => st

/-- What has not been read because the outermost span has ended. -/
def rest : Progress → Text
  | reading _ | escaped _ => []
  | ended _ r => r

/-- A mark has left a state, or has ended the outermost span. -/
def resume (st : Reading) (c : Char) : Option Reading → Progress
  | some next => reading next
  | none => ended st [c]

/-- One more character. -/
def step (m : Marks) : Progress → Char → Progress
  | ended st r, c => ended st (r ++ [c])
  | escaped st, c => reading (st.push (.char c))
  | reading st, c =>
    if c = m.escape then escaped st
    else if c = m.opening then reading st.openCall
    else if c = m.closing then resume st c st.close?
    else if c = m.separator then resume st c st.separate?
    else if c = m.argument then reading (st.argument c)
    else reading (st.push (.char c))

def after (m : Marks) (p : Progress) (t : Text) : Progress := t.foldl (step m) p

/-- How reading a template begins. -/
def start : Progress := reading SpanKind.text.start

variable {m : Marks}

@[simp] theorem after_nil (p : Progress) : after m p [] = p := rfl

theorem after_cons (p : Progress) (c : Char) (t : Text) :
    after m p (c :: t) = after m (step m p c) t := rfl

theorem after_append (p : Progress) (s t : Text) :
    after m p (s ++ t) = after m (after m p s) t :=
  List.foldl_append

@[simp] theorem after_ended (st : Reading) (r t : Text) :
    after m (ended st r) t = ended st (r ++ t) := by
  induction t generalizing r with
  | nil => rw [List.append_nil, after_nil]
  | cons c t ih => rw [after_cons, step, ih, List.append_assoc, List.singleton_append]

theorem after_resume (st : Reading) (c : Char) (next : Option Reading) (t : Text) :
    after m (resume st c next) t =
      match next with
      | some next => after m (reading next) t
      | none => ended st (c :: t) := by
  cases next with
  | none => exact after_ended st [c] t
  | some next => rfl

end Progress

open Progress

variable {m : Marks}

theorem readFrom_eq_after (st : Reading) (t : Text) :
    readFrom m st t = ((after m (reading st) t).state, (after m (reading st) t).rest) := by
  fun_induction readFrom m st t with
  | case1 st => rfl
  | case2 st => simp [after_cons, step, state, Progress.rest]
  | case3 st d r ih => rw [ih, after_cons, step, if_pos rfl, after_cons, step]
  | case4 st r he ih => rw [ih, after_cons, step, if_neg he, if_pos rfl]
  | case5 st r next hc he ho ih =>
    rw [ih, after_cons, step, if_neg he, if_neg ho, if_pos rfl, hc, after_resume]
  | case6 st r hc he ho =>
    rw [after_cons, step, if_neg he, if_neg ho, if_pos rfl, hc, after_resume]
    rfl
  | case7 st r next hc he ho hcl ih =>
    rw [ih, after_cons, step, if_neg he, if_neg ho, if_neg hcl, if_pos rfl, hc, after_resume]
  | case8 st r hc he ho hcl =>
    rw [after_cons, step, if_neg he, if_neg ho, if_neg hcl, if_pos rfl, hc, after_resume]
    rfl
  | case9 st r he ho hcl hs ih =>
    rw [ih, after_cons, step, if_neg he, if_neg ho, if_neg hcl, if_neg hs, if_pos rfl]
  | case10 st c r he ho hcl hs ha ih =>
    rw [ih, after_cons, step, if_neg he, if_neg ho, if_neg hcl, if_neg hs, if_neg ha]

theorem span_eq_after (t : Text) :
    span m .text t = ((after m start t).state.finish, (after m start t).rest) := by
  unfold span
  rw [readFrom_eq_after]
  rfl

theorem ofText_eq_after (t : Text) : ofText m t = (after m start t).state.finish := by
  rw [ofText, span_eq_after]

namespace Progress

theorem resume_eq_ended {st st' : Reading} {c : Char} {next : Option Reading} {r : Text}
    (h : resume st c next = ended st' r) : r = [c] := by
  cases next with
  | none => cases h; rfl
  | some next => cases h

/-- A step ends the outermost span at a closing mark or a separator. -/
theorem step_eq_ended {st st' : Reading} {c : Char} {r : Text}
    (h : step m (reading st) c = ended st' r) : r = [c] ∧ (c = m.closing ∨ c = m.separator) := by
  rw [step] at h
  split at h
  · cases h
  split at h
  · cases h
  split at h
  · exact ⟨resume_eq_ended h, .inl ‹_›⟩
  split at h
  · exact ⟨resume_eq_ended h, .inr ‹_›⟩
  split at h <;> cases h

theorem exists_of_ended {p : Progress} {st : Reading} {t r : Text}
    (hp : ∀ st r, p ≠ ended st r) (h : after m p t = ended st r) :
    ∃ u c v, t = u ++ c :: v ∧ r = c :: v ∧ (c = m.closing ∨ c = m.separator) := by
  induction t generalizing p with
  | nil => exact absurd h (hp st r)
  | cons c t ih =>
    rw [after_cons] at h
    cases hs : step m p c with
    | ended st' r' =>
      rw [hs, after_ended] at h
      cases p with
      | ended => exact absurd rfl (hp _ _)
      | escaped => cases hs
      | reading =>
        obtain ⟨rfl, hc⟩ := step_eq_ended hs
        cases h
        exact ⟨[], c, t, rfl, rfl, hc⟩
    | reading st' =>
      obtain ⟨u, d, v, rfl, hr, hd⟩ := ih (fun _ _ => by rw [hs]; nofun) h
      exact ⟨c :: u, d, v, rfl, hr, hd⟩
    | escaped st' =>
      obtain ⟨u, d, v, rfl, hr, hd⟩ := ih (fun _ _ => by rw [hs]; nofun) h
      exact ⟨c :: u, d, v, rfl, hr, hd⟩

/-! ### Open spans -/

/-- The next character is read without an escape, in at most `n` spans inside the outermost one; or
it is not read at all. -/
def Within (n : Nat) : Progress → Prop
  | reading st => st.outer.length ≤ n
  | escaped _ => False
  | ended .. => True

instance (n : Nat) : (p : Progress) → Decidable (p.Within n)
  | reading st => inferInstanceAs (Decidable (st.outer.length ≤ n))
  | escaped _ => inferInstanceAs (Decidable False)
  | ended .. => inferInstanceAs (Decidable True)

theorem within_resume {st : Reading} {c : Char} {next : Option Reading} {n : Nat}
    (h : ∀ st' ∈ next, st'.outer.length ≤ n) : (resume st c next).Within n := by
  cases next with
  | none => trivial
  | some next => exact h next rfl

theorem length_close? {st st' : Reading} (h : st.close? = some st') :
    st'.outer.length = st.outer.length - 1 := by
  obtain ⟨inner, _ | ⟨f, outer⟩⟩ := st <;> cases h
  rfl

theorem length_separate? {st st' : Reading} (h : st.separate? = some st') :
    st'.outer.length ≤ st.outer.length := by
  unfold Reading.separate? at h
  split at h
  · cases h
    exact Nat.le_refl _
  · rw [length_close? h]
    exact Nat.sub_le _ _

theorem outer_argument (c : Char) (st : Reading) : (st.argument c).outer = st.outer := by
  unfold Reading.argument
  split <;> rfl

theorem Within.opening {p : Progress} {n : Nat} (h : p.Within n) :
    (step m p m.opening).Within (n + 1) := by
  cases p with
  | reading st =>
    rw [step, if_neg (by grind [marks_ne m]), if_pos rfl]
    exact Nat.succ_le_succ h
  | escaped st => exact h.elim
  | ended st r => trivial

theorem Within.closing {p : Progress} {n : Nat} (h : p.Within n) :
    (step m p m.closing).Within (n - 1) := by
  cases p with
  | reading st =>
    rw [step, if_neg (by grind [marks_ne m]), if_neg (by grind [marks_ne m]), if_pos rfl]
    refine within_resume fun st' hst => ?_
    rw [length_close? hst]
    exact Nat.sub_le_sub_right h 1
  | escaped st => exact h.elim
  | ended st r => trivial

/-- An escaped character changes no span. -/
theorem Within.pair {p : Progress} {n : Nat} (h : p.Within n) (c : Char) :
    (after m p [m.escape, c]).Within n := by
  cases p with
  | reading st =>
    rw [after_cons, step, if_pos rfl]
    exact h
  | escaped st => exact h.elim
  | ended st r => exact after_ended (m := m) st r _ ▸ trivial

/-- Of the other characters a separator alone may end a span, and none begins one. -/
theorem Within.other {p : Progress} {n : Nat} (h : p.Within n) {c : Char} (he : c ≠ m.escape)
    (ho : c ≠ m.opening) : (step m p c).Within n := by
  cases p with
  | reading st =>
    rw [step, if_neg he, if_neg ho]
    split
    · exact within_resume fun st' hst => by
        rw [length_close? hst]
        exact Nat.le_trans (Nat.sub_le _ _) h
    split
    · exact within_resume fun st' hst => Nat.le_trans (length_separate? hst) h
    split
    · rw [Within, outer_argument]
      exact h
    · exact h
  | escaped st => exact h.elim
  | ended st r => trivial

end Progress

/-! ### Spans around which different texts stand -/

/-- Two states with the same open calls. The pieces of the texts around these calls, newest first,
are related by `R`. -/
inductive Reading.Alike (R : Template → Template → Prop) : Reading → Reading → Prop
  | bottom {ps qs : Template} : R ps qs → Alike R ⟨.text ps, []⟩ ⟨.text qs, []⟩
  | above {ps qs : Template} (f : Frame) (fs : List Frame) : R ps qs →
      Alike R ⟨f, fs ++ [.text ps]⟩ ⟨f, fs ++ [.text qs]⟩

section Alike

variable {R : Template → Template → Prop}

/-- What `R` says about the pieces of two texts it says also if one more piece is added to both. -/
def KeptByPush (R : Template → Template → Prop) : Prop :=
  ∀ p ps qs, R ps qs → R (p :: ps) (p :: qs)

theorem KeptByPush.append (hR : KeptByPush R) {ps qs : Template} (h : R ps qs) :
    ∀ new : Template, R (new ++ ps) (new ++ qs)
  | [] => h
  | p :: new => hR p _ _ (hR.append h new)

theorem Frame.absorb_text (f : Frame) (ps : Template) :
    f.absorb (.text ps) = .text (f.pieces ++ ps) := by
  unfold absorb
  induction f.pieces with
  | nil => rfl
  | cons p r ih => rw [List.foldr_cons, ih, push, List.cons_append]

namespace Reading.Alike

variable {st st' : Reading}

theorem push (hR : KeptByPush R) (h : st.Alike R st') (p : Piece) :
    (st.push p).Alike R (st'.push p) := by
  cases h with
  | bottom h => exact .bottom (hR p _ _ h)
  | above f fs h => exact .above (f.push p) fs h

theorem openCall (h : st.Alike R st') : st.openCall.Alike R st'.openCall := by
  cases h with
  | bottom h => exact .above (.name []) [] h
  | above f fs h => exact .above (.name []) (f :: fs) h

theorem close? (hR : KeptByPush R) (h : st.Alike R st') :
    Option.Rel (Alike R) st.close? st'.close? := by
  cases h with
  | bottom h => exact .none
  | above f fs h =>
    cases fs with
    | nil =>
      refine .some ?_
      rw [Frame.absorb_text, Frame.absorb_text]
      exact .bottom (hR.append h f.pieces)
    | cons g fs => exact .some (.above (f.absorb g) fs h)

theorem separate? (hR : KeptByPush R) (h : st.Alike R st') :
    Option.Rel (Alike R) st.separate? st'.separate? := by
  cases h with
  | bottom h => exact .none
  | above f fs h =>
    cases f with
    | parameter n before ps => exact .some (.above _ fs h)
    | text | name => exact close? hR (.above _ fs h)

theorem argument (hR : KeptByPush R) (h : st.Alike R st') (c : Char) :
    (st.argument c).Alike R (st'.argument c) := by
  cases h with
  | bottom h => exact .bottom (hR _ _ _ h)
  | above f fs h => cases f <;> exact .above _ fs h

theorem eq_text (h : st.Alike R st') (ho : st.outer = []) : ∃ ps, st = ⟨.text ps, []⟩ := by
  cases h with
  | bottom h => exact ⟨_, rfl⟩
  | above f fs h => simp at ho

/-- Ending all spans adds the same pieces to both texts. -/
theorem finish (hR : KeptByPush R) (h : st.Alike R st') :
    ∃ ps qs, R ps qs ∧ st.finish = ps.reverse ∧ st'.finish = qs.reverse := by
  cases h with
  | bottom h => exact ⟨_, _, h, rfl, rfl⟩
  | above f fs h =>
    refine ⟨_, _, hR.append h (fs.foldl Frame.absorb f).pieces, ?_, ?_⟩ <;>
      simp only [Reading.finish, List.foldl_append, List.foldl_cons, List.foldl_nil,
        Frame.absorb_text, Frame.pieces]

end Reading.Alike

namespace Progress

/-- Reading goes on in both texts with the same calls open, or it has ended in both. -/
inductive Alike (R : Template → Template → Prop) : Progress → Progress → Prop
  | reading {st st' : Reading} : st.Alike R st' → Alike R (reading st) (reading st')
  | escaped {st st' : Reading} : st.Alike R st' → Alike R (escaped st) (escaped st')
  | ended {st st' : Reading} (rest rest' : Text) : st.Alike R st' →
      Alike R (ended st rest) (ended st' rest')

theorem Alike.resume {st st' : Reading} (h : st.Alike R st') (c : Char)
    {next next' : Option Reading} (hn : Option.Rel (Reading.Alike R) next next') :
    (resume st c next).Alike R (resume st' c next') := by
  cases hn with
  | none => exact .ended [c] [c] h
  | some hn => exact .reading hn

theorem Alike.step {p q : Progress} (hR : KeptByPush R) (h : p.Alike R q) (c : Char) :
    (p.step m c).Alike R (q.step m c) := by
  cases h with
  | ended rest rest' h => exact .ended _ _ h
  | escaped h => exact .reading (h.push hR _)
  | reading h =>
    rw [Progress.step, Progress.step]
    split
    · exact .escaped h
    split
    · exact .reading h.openCall
    split
    · exact .resume h c (h.close? hR)
    split
    · exact .resume h c (h.separate? hR)
    split
    · exact .reading (h.argument hR c)
    · exact .reading (h.push hR _)

theorem Alike.after {p q : Progress} (hR : KeptByPush R) (h : p.Alike R q) (t : Text) :
    (p.after m t).Alike R (q.after m t) := by
  induction t generalizing p q with
  | nil => exact h
  | cons c t ih => exact ih (h.step hR c)

theorem Alike.state {p q : Progress} (h : p.Alike R q) : p.state.Alike R q.state := by
  cases h <;> assumption

/-! ### The text around all calls -/

/-- Outside every call reading stands in the text of the template. -/
theorem eq_text_of_within {t : Text} (h : (after m start t).Within 0) :
    (∃ ps, after m start t = reading ⟨.text ps, []⟩) ∨ ∃ st r, after m start t = ended st r := by
  have hself : (after m start t).Alike Eq (after m start t) :=
    Alike.after (R := Eq) (fun p _ _ => congrArg (p :: ·)) (.reading (.bottom rfl)) t
  cases hp : after m start t with
  | escaped st =>
    rw [hp] at h
    exact h.elim
  | ended st r => exact .inr ⟨st, r, rfl⟩
  | reading st =>
    rw [hp] at h hself
    obtain ⟨ps, rfl⟩ := hself.state.eq_text (List.length_eq_zero_iff.1 (Nat.le_zero.1 h))
    exact .inl ⟨ps, rfl⟩

/-- There the argument mark is a character like the others. -/
theorem step_text {c : Char} (he : c ≠ m.escape) (ho : c ≠ m.opening) (hc : c ≠ m.closing)
    (hs : c ≠ m.separator) (ps : Template) :
    step m (reading ⟨.text ps, []⟩) c = reading ⟨.text (.char c :: ps), []⟩ := by
  rw [step, if_neg he, if_neg ho, if_neg hc, if_neg hs]
  split <;> rfl

end Progress

end Alike

end UploadTemplate.Template
