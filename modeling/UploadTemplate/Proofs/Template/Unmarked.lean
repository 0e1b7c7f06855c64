import UploadTemplate.Proofs.Template.Dollar
import UploadTemplate.Proofs.Template.Inserted

/-!
# Texts that stand for themselves

Reading makes a call of every opening mark that it comes to, and takes away the escapes and the
marks at which it ends. So a template text stands for itself only if it has no marks.

- `ofText_append`: what is written whole is read for itself.
- `Reading.begun`: the calls that have been begun. None of them is ever undone.
- `count_opening`: an opening mark makes a call.
- `ofText_eq_letters_iff`: the texts that stand for themselves.
-/

namespace UploadTemplate.Template

open Progress
open Dollar.Document (letters)

variable {m : Marks}

/-! ### One text behind another -/

/-- What is written whole is read for itself, and so is the text behind it. -/
theorem ofText_append {t : Template} {s : Text} (h : Rendering m .text t s) (r : Text) :
    ofText m (s ++ r) = t ++ ofText m r := by
  have hread : ofText m (s ++ r) = (after m (reading ⟨.text t.reverse, []⟩) r).state.finish := by
    have hs := readFrom_rendering h [] r (f := .text []) rfl
    rw [Frame.pushAll_text, List.append_nil, readFrom_eq_after, readFrom_eq_after] at hs
    rw [ofText_eq_after]
    exact congrArg Reading.finish (Prod.mk.inj hs).1
  let R (ps qs : Template) : Prop := qs = ps ++ t.reverse
  have hR : KeptByPush R := fun p _ _ => congrArg (p :: ·)
  have halike : (after m start r).Alike R (after m (reading ⟨.text t.reverse, []⟩) r) :=
    Alike.after hR (.reading (.bottom rfl)) r
  obtain ⟨ps, _, rfl, hps, hqs⟩ := halike.state.finish hR
  rw [hread, hqs, ofText_eq_after, hps, List.reverse_append, List.reverse_reverse]

theorem ofText_plain {c : Char}
    (h : c ≠ m.escape ∧ c ≠ m.opening ∧ c ≠ m.closing ∧ c ≠ m.separator) (r : Text) :
    ofText m (c :: r) = .char c :: ofText m r := by
  have hc : needsEscape m .text c = false := by simp [needsEscape, h]
  exact ofText_append (.plain hc (.nil _)) r

theorem ofText_escaped (c : Char) (r : Text) :
    ofText m (m.escape :: c :: r) = .char c :: ofText m r :=
  ofText_append (.escaped c (.nil _)) r

theorem ofText_ending {c : Char} (h : c = m.closing ∨ c = m.separator) (r : Text) :
    ofText m (c :: r) = [] := by
  have hend : step m start c = ended ⟨.text [], []⟩ [c] := by
    rw [start, step]
    rcases h with rfl | rfl <;> simp [marks_ne m] <;> rfl
  rw [ofText_eq_after, after_cons, hend, after_ended]
  rfl

/-! ### Calls that have been begun -/

theorem count_reverse (t : Template) : count t.reverse = count t := by
  induction t with
  | nil => rfl
  | cons p t ih => rw [List.reverse_cons, count_append, ih, count, count, count]; omega

theorem countAll_append (s t : List Template) : countAll (s ++ t) = countAll s + countAll t := by
  induction s with
  | nil => simp [countAll]
  | cons p s ih => simp [countAll, ih, Nat.add_assoc]

theorem countAll_reverse (t : List Template) : countAll t.reverse = countAll t := by
  induction t with
  | nil => rfl
  | cons p t ih =>
    rw [List.reverse_cons, countAll_append, ih, countAll, countAll, countAll]
    omega

/-- The calls in a frame, with the one that the frame itself is. -/
def Frame.begun : Frame → Nat
  | .text ps => count ps
  | .name ps => count ps + 1
  | .parameter n before ps => count n + countAll before + count ps + 1

namespace Frame

/-- The calls in several frames. -/
def begunAll : List Frame → Nat
  | [] => 0
  | f :: r => f.begun + begunAll r

theorem count_pieces (f : Frame) : count f.pieces = f.begun := by
  cases f with
  | text ps => rfl
  | name ps => simp [pieces, begun, count, countPiece, countAll, count_reverse]
  | parameter n before ps =>
    simp [pieces, begun, count, countPiece, countAll, countAll_append, countAll_reverse,
      count_reverse]
    omega

theorem begun_push (f : Frame) (p : Piece) : (f.push p).begun = f.begun + countPiece p := by
  cases f <;> simp only [push, begun, count] <;> omega

theorem begun_absorb (inner outer : Frame) :
    (inner.absorb outer).begun = inner.begun + outer.begun := by
  rw [← inner.count_pieces, absorb]
  induction inner.pieces with
  | nil => simp [count]
  | cons p ps ih => rw [List.foldr_cons, begun_push, ih, count]; omega

end Frame

/-- The calls that have been begun. -/
def Reading.begun (st : Reading) : Nat := st.inner.begun + Frame.begunAll st.outer

namespace Reading

variable {st st' : Reading}

theorem begun_push (p : Piece) (st : Reading) : (st.push p).begun = st.begun + countPiece p := by
  rw [push, begun, begun, Frame.begun_push]
  exact Nat.add_right_comm _ _ _

theorem begun_openCall (st : Reading) : st.openCall.begun = st.begun + 1 := by
  simp [openCall, begun, Frame.begun, Frame.begunAll, count]
  omega

theorem begun_close? (h : st.close? = some st') : st'.begun = st.begun := by
  obtain ⟨inner, _ | ⟨outer, rest⟩⟩ := st <;> cases h
  simp [begun, Frame.begunAll, Frame.begun_absorb, Nat.add_assoc]

theorem begun_separate? (h : st.separate? = some st') : st'.begun = st.begun := by
  obtain ⟨inner, outer⟩ := st
  cases inner with
  | text ps => exact begun_close? h
  | name ps => exact begun_close? h
  | parameter n before ps =>
    cases h
    simp [begun, Frame.begun, countAll, count, count_reverse]
    omega

theorem begun_argument (c : Char) (st : Reading) : (st.argument c).begun = st.begun := by
  obtain ⟨_ | _ | _, outer⟩ := st <;>
    simp [argument, push, Frame.push, begun, Frame.begun, count, countPiece, countAll,
      count_reverse]

/-- The calls of a template are those that were begun when it was read. -/
theorem count_finish (st : Reading) : count st.finish = st.begun := by
  obtain ⟨inner, outer⟩ := st
  rw [finish, count_reverse, Frame.count_pieces]
  simp only [begun]
  induction outer generalizing inner with
  | nil => rfl
  | cons f outer ih =>
    rw [List.foldl_cons, ih, Frame.begun_absorb, Frame.begunAll]
    omega

end Reading

namespace Progress

/-- Reading on undoes no call. -/
theorem begun_le_step (p : Progress) (c : Char) : p.state.begun ≤ (p.step m c).state.begun := by
  cases p with
  | ended st r => exact Nat.le_refl _
  | escaped st => exact Nat.le.intro (Reading.begun_push _ st).symm
  | reading st =>
    have hresume {next : Option Reading} (h : ∀ st', next = some st' → st'.begun = st.begun) :
        st.begun ≤ (resume st c next).state.begun := by
      cases next with
      | none => exact Nat.le_refl _
      | some next => exact Nat.le_of_eq (h next rfl).symm
    rw [step]
    split
    · exact Nat.le_refl _
    split
    · exact Nat.le.intro (Reading.begun_openCall st).symm
    split
    · exact hresume fun _ => Reading.begun_close?
    split
    · exact hresume fun _ => Reading.begun_separate?
    split
    · exact Nat.le_of_eq (Reading.begun_argument c st).symm
    · exact Nat.le.intro (Reading.begun_push _ st).symm

theorem begun_le_after (p : Progress) (t : Text) : p.state.begun ≤ (p.after m t).state.begun := by
  induction t generalizing p with
  | nil => exact Nat.le_refl _
  | cons c t ih => exact Nat.le_trans (p.begun_le_step c) (ih _)

end Progress

/-- An opening mark makes a call, whatever follows. -/
theorem count_opening (r : Text) : 0 < count (ofText m (m.opening :: r)) := by
  have hopen : step m start m.opening = reading ⟨.name [], [.text []]⟩ := by
    rw [start, step, if_neg (by grind [marks_ne m]), if_pos rfl]
    rfl
  rw [ofText_eq_after, Reading.count_finish, after_cons, hopen]
  exact begun_le_after (reading ⟨.name [], [.text []]⟩) r

/-! ### Templates without calls -/

theorem eq_letters_of_count {t : Template} (h : count t = 0) : ∃ u, t = letters u := by
  induction t with
  | nil => exact ⟨[], rfl⟩
  | cons p t ih =>
    rw [count] at h
    obtain ⟨u, rfl⟩ := ih (by omega)
    cases p with
    | char c => exact ⟨c :: u, rfl⟩
    | call n ps => rw [countPiece] at h; omega

theorem ofText_literal {t : Text} (h : IsLiteral m t) : ofText m t = letters t := by
  induction t with
  | nil => rfl
  | cons c t ih =>
    obtain ⟨hc, ht⟩ := List.forall_mem_cons.1 h
    rw [ofText_plain hc, ih ht]
    rfl

/-- A text that is read as characters alone has no marks, or fewer of them are read. -/
theorem isLiteral_or_lt {t u : Text} (h : ofText m t = letters u) :
    (u = t ∧ IsLiteral m t) ∨ u.length < t.length := by
  match t with
  | [] =>
    have hu : u = [] := List.map_eq_nil_iff.1 (h.symm.trans rfl)
    exact .inl ⟨hu, nofun⟩
  | c :: r =>
    by_cases he : c = m.escape
    · -- Whatever is read behind the escape, the escape itself is not.
      refine .inr ?_
      cases r with
      | nil =>
        rw [he, ofText, span, readFrom, if_pos rfl] at h
        have hu : u = [] := List.map_eq_nil_iff.1 (h.symm.trans rfl)
        rw [hu]
        exact Nat.one_pos
      | cons d r =>
        rw [he, ofText_escaped] at h
        obtain ⟨_, u, rfl, -, hr⟩ := List.map_eq_cons_iff.1 h.symm
        rcases isLiteral_or_lt hr.symm with ⟨rfl, -⟩ | hlt
        · exact Nat.lt_succ_self _
        · simp only [List.length_cons]
          omega
    by_cases ho : c = m.opening
    · have hcalls := count_opening (m := m) r
      rw [← ho, h, Dollar.count_letters] at hcalls
      cases hcalls
    by_cases hc : c = m.closing ∨ c = m.separator
    · rw [ofText_ending hc] at h
      rw [List.map_eq_nil_iff.1 h.symm]
      exact .inr (Nat.succ_pos _)
    · have hplain := And.intro he (And.intro ho (not_or.1 hc))
      rw [ofText_plain hplain] at h
      obtain ⟨_, u, rfl, ⟨⟩, hr⟩ := List.map_eq_cons_iff.1 h.symm
      rcases isLiteral_or_lt hr.symm with ⟨rfl, hlit⟩ | hlt
      · exact .inl ⟨rfl, List.forall_mem_cons.2 ⟨hplain, hlit⟩⟩
      · exact .inr (Nat.succ_lt_succ hlt)
termination_by t.length

/-- A text stands for itself if and only if it has no marks. -/
theorem ofText_eq_letters_iff {t : Text} : ofText m t = letters t ↔ IsLiteral m t :=
  ⟨fun h => ((isLiteral_or_lt h).resolve_right (Nat.lt_irrefl _)).2, ofText_literal⟩

end UploadTemplate.Template
