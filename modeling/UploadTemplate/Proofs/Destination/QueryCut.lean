import UploadTemplate.Destination
import UploadTemplate.Proofs.Computation
import UploadTemplate.Proofs.Template.Parallel
import UploadTemplate.Proofs.Template.Progress

/-!
# Cutting the query off a URL template

The query of a URL template is found by counting marks, while the template is read with a stack of
open calls. There are never more open calls than the count says, so where it is zero none is open.

- `Destination.cutQueryAt_eq_some`: at the cut no call is open.
- `Template.ofText_cutQuery`: the tree of the template consists of those of the two parts, unless
  its text ends at the question mark or before.
- `Template.outcome_cutQuery`: so do its text and its calls.
-/

namespace UploadTemplate

namespace Destination

open Template

variable {m : Marks} {depth : Nat} {url pre query : Text}

/-- The text is cut at a question mark that is no escape and neither begins nor ends a call. There
no call is open, if there were no more of them than `depth` at the beginning. -/
theorem cutQueryAt_eq_some (h : cutQueryAt m depth url = some (pre, query)) :
    url = pre ++ '?' :: query ∧ ('?' ≠ m.escape ∧ '?' ≠ m.opening ∧ '?' ≠ m.closing) ∧
      ∀ p : Progress, p.Within depth → (p.after m pre).Within 0 := by
  fun_induction cutQueryAt m depth url generalizing pre with
  | case1 => cases h
  | case2 => cases h
  | case3 depth d r ih =>
    obtain ⟨⟨before, _⟩, hr, ⟨⟩⟩ := Option.map_eq_some_iff.1 h
    obtain ⟨rfl, hmark, hp⟩ := ih hr
    exact ⟨rfl, hmark, fun p h => hp _ (h.pair d)⟩
  | case4 depth r he ih =>
    obtain ⟨⟨before, _⟩, hr, ⟨⟩⟩ := Option.map_eq_some_iff.1 h
    obtain ⟨rfl, hmark, hp⟩ := ih hr
    exact ⟨rfl, hmark, fun p h => hp _ h.opening⟩
  | case5 depth r he ho ih =>
    obtain ⟨⟨before, _⟩, hr, ⟨⟩⟩ := Option.map_eq_some_iff.1 h
    obtain ⟨rfl, hmark, hp⟩ := ih hr
    exact ⟨rfl, hmark, fun p h => hp _ h.closing⟩
  | case6 depth c r he ho hc hq =>
    obtain ⟨rfl, rfl⟩ := hq
    cases h
    exact ⟨rfl, ⟨he, ho, hc⟩, fun p h => h⟩
  | case7 depth c r he ho hc hq ih =>
    obtain ⟨⟨before, _⟩, hr, ⟨⟩⟩ := Option.map_eq_some_iff.1 h
    obtain ⟨rfl, hmark, hp⟩ := ih hr
    exact ⟨rfl, hmark, fun p h => hp _ (h.other he ho)⟩

end Destination

/-- The caller whose answers depend on the names and the parameters of the calls alone. -/
def Caller.ofAnswer {ε : Type} (answer : Text → List Text → Except ε Text) : Caller ε Unit :=
  fun name parameters => ExceptT.mk (pure (answer name parameters))

namespace Template

variable {m : Marks} {url pre query : Text}

/-! ### Trees -/

open Progress in
/-- The tree of the text is that of the text before the cut, where reading ends there or before; and
else the question mark and the tree of the query follow it. -/
theorem ofText_cutQuery (h : Destination.cutQuery m url = some (pre, query)) :
    (∃ u c v, url = u ++ c :: v ∧ u.length ≤ pre.length ∧ (c = m.closing ∨ c = m.separator) ∧
      (span m .text url).2 = c :: v ∧ ofText m url = ofText m pre) ∨
    ((span m .text pre).2 = [] ∧
      ofText m url = ofText m pre ++ .char '?' :: ofText m query) := by
  obtain ⟨rfl, ⟨he, ho, hc⟩, hwithin⟩ := Destination.cutQueryAt_eq_some h
  simp only [span_eq_after, ofText_eq_after, after_append, after_cons]
  obtain ⟨ps, hpre⟩ | ⟨st, r, hpre⟩ := eq_text_of_within (hwithin start (Nat.le_refl 0))
  · rw [hpre]
    by_cases hs : '?' = m.separator
    · -- The question mark is itself the mark that ends the text.
      have hstep : step m (reading ⟨.text ps, []⟩) '?' = ended ⟨.text ps, []⟩ ['?'] := by
        rw [step, if_neg he, if_neg ho, if_neg hc, if_pos hs]
        rfl
      rw [hstep, after_ended]
      exact .inl ⟨pre, '?', query, rfl, Nat.le_refl _, .inr hs, rfl, rfl⟩
    · rw [step_text he ho hc hs]
      let R (qs qs' : Template) : Prop := qs' = qs ++ .char '?' :: ps
      have hR : KeptByPush R := fun p _ _ => congrArg (p :: ·)
      have hquery : (after m start query).Alike R
          (after m (reading ⟨.text (.char '?' :: ps), []⟩) query) :=
        Alike.after hR (.reading (.bottom rfl)) query
      obtain ⟨qs, _, rfl, hqs, hqs'⟩ := hquery.state.finish hR
      refine .inr ⟨rfl, ?_⟩
      rw [hqs, hqs']
      simp [state, Reading.finish, Frame.pieces]
  · obtain ⟨u, c, v, rfl, rfl, hcv⟩ := exists_of_ended (fun _ _ h => by cases h) hpre
    rw [hpre, step, after_ended]
    refine .inl ⟨u, c, v ++ '?' :: query, ?_, ?_, hcv, ?_, rfl⟩ <;> simp [Progress.rest]

/-! ### Evaluation -/

theorem eval_append {n : Type → Type} [Monad n] [LawfulMonad n] (call : Text → List Text → n Text)
    (s t : Template) :
    eval call (s ++ t) = (do
      let before ← eval call s
      let behind ← eval call t
      pure (before ++ behind)) := by
  induction s with
  | nil => simp only [List.nil_append, eval, pure_bind, bind_pure]
  | cons p s ih => simp only [List.cons_append, eval, ih, bind_assoc, pure_bind, List.append_assoc]

theorem eval_char_append {n : Type → Type} [Monad n] [LawfulMonad n]
    (call : Text → List Text → n Text) (s t : Template) (c : Char) :
    eval call (s ++ .char c :: t) = (do
      let before ← eval call s
      let behind ← eval call t
      pure (before ++ c :: behind)) := by
  simp only [eval_append, eval, evalPiece, bind_assoc, pure_bind, List.singleton_append]

variable {ε σ : Type}

/-- What has been written down before a template stands in front of the calls of the template. -/
theorem run_recorded_append (call : Caller ε σ) (t : Template) (s : σ) (before : List Call) :
    (eval call.recorded t).run.run (s, before) =
      (((eval call.recorded t).run.run (s, [])).1, ((eval call.recorded t).run.run (s, [])).2.1,
        before ++ ((eval call.recorded t).run.run (s, [])).2.2) := by
  let R : Parallel (ExceptT ε (StateM (σ × List Call))) (ExceptT ε (StateM (σ × List Call))) :=
    .project fun st => (st.1, before ++ st.2)
  have hcall (name : Text) (parameters : List Text) :
      R.Holds (call.recorded name parameters) (call.recorded name parameters) := by
    intro ⟨s, log⟩
    rw [Caller.run_recorded, Caller.run_recorded, List.append_assoc]
  have hrun := eval_parallel R hcall t (s, [])
  simp only [List.append_nil] at hrun
  exact hrun

/-- What a template comes to, its text or the first error, with the calls made until then. -/
structure Outcome (ε : Type) where
  text : Except ε Text
  calls : List Call

/-- One template after another, with a character between them. After an error in the first one the
second one is not evaluated. -/
def Outcome.andThen (first : Outcome ε) (c : Char) (second : Outcome ε) : Outcome ε :=
  match first with
  | ⟨.error e, calls⟩ => ⟨.error e, calls⟩
  | ⟨.ok text, calls⟩ => ⟨second.text.map fun rest => text ++ c :: rest, calls ++ second.calls⟩

/-- The outcome of a template text, if what a call gives depends on its name and parameters. -/
def outcome (m : Marks) (answer : Text → List Text → Except ε Text) (t : Text) : Outcome ε :=
  let (text, _, calls) := (expand m (Caller.ofAnswer answer).recorded t).run.run ((), [])
  ⟨text, calls⟩

/-- Cutting the query off a URL template cuts no call. Either reading the template ends at a mark
before the question mark, or at the question mark itself, and what follows is not looked at. Or the
template is what stands before the question mark, the question mark and the query: its calls are
those of the first and then those of the second, unless one of the first fails. -/
theorem outcome_cutQuery (answer : Text → List Text → Except ε Text)
    (h : Destination.cutQuery m url = some (pre, query)) :
    (∃ u c v, url = u ++ c :: v ∧ u.length ≤ pre.length ∧ (c = m.closing ∨ c = m.separator) ∧
      (span m .text url).2 = c :: v ∧ outcome m answer url = outcome m answer pre) ∨
    ((span m .text pre).2 = [] ∧
      outcome m answer url = (outcome m answer pre).andThen '?' (outcome m answer query)) := by
  unfold outcome expand
  rcases ofText_cutQuery h with ⟨u, c, v, hurl, hlen, hc, hrest, htree⟩ | ⟨hrest, htree⟩
  · exact .inl ⟨u, c, v, hurl, hlen, hc, hrest, by rw [htree]⟩
  · refine .inr ⟨hrest, ?_⟩
    rw [htree, eval_char_append, Computation.run_bind]
    rcases (eval (Caller.ofAnswer answer).recorded (ofText m pre)).run.run ((), []) with
      ⟨e | text, -, calls⟩
    · rfl
    · simp only
      rw [Computation.run_bind, run_recorded_append]
      rcases (eval (Caller.ofAnswer answer).recorded (ofText m query)).run.run ((), []) with
        ⟨e | rest, -, calls'⟩ <;> rfl

/-- A question mark in a parameter, one behind the call, and a call in the query. -/
theorem outcome_cutQuery_parameter :
    let url : Text := "u/\x7bf:?\x7d?q=\x7bg\x7d"
    let pre : Text := "u/\x7bf:?\x7d"
    let query : Text := "q=\x7bg\x7d"
    let answer (name : Text) (parameters : List Text) : Except Nat Text :=
      .ok (name ++ parameters.flatten)
    Destination.cutQuery .standard url = some (pre, query) ∧
    ((∃ u c v, url = u ++ c :: v ∧ u.length ≤ pre.length ∧
      (c = Marks.standard.closing ∨ c = Marks.standard.separator) ∧
      (span .standard .text url).2 = c :: v ∧
      outcome .standard answer url = outcome .standard answer pre) ∨
    ((span .standard .text pre).2 = [] ∧
      outcome .standard answer url =
        (outcome .standard answer pre).andThen '?' (outcome .standard answer query))) := by
  intro url pre query answer
  have hcut : Destination.cutQuery .standard url = some (pre, query) := by decide +kernel
  exact ⟨hcut, outcome_cutQuery answer hcut⟩

end Template

end UploadTemplate
