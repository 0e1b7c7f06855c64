import UploadTemplate.Proofs.Computation
import UploadTemplate.Proofs.Template.Progress
import UploadTemplate.Proofs.Text.Cut
import UploadTemplate.Template.Interpret

/-!
# Texts inserted between calls

A template text may have gaps for a text that is put in. If every gap lies outside all calls and the
inserted text has no marks of its own, it changes no call: the template makes the calls that it
makes when nothing is put in.

- `Gapped`: a text with gaps.
- `Template.HasFreeGaps`: every gap lies outside all calls.
- `Template.outerCalls_fill`: the calls of a template with filled gaps.
- `Template.eval_outerCalls`: what a template makes depends on its outermost calls alone.
-/

namespace UploadTemplate

/-- A text with gaps. -/
abbrev Gapped := List (Text.Fragment Unit)

/-- The text with something in all of its gaps. -/
def Gapped.fill (a : Text) (g : Gapped) : Text := Text.refill (fun _ => a) g

def Piece.isCall : Piece → Bool
  | .char _ => false
  | .call .. => true

namespace Template

/-! ### Outermost calls -/

/-- The template without its literal characters. -/
def outerCalls (t : Template) : Template := t.filter Piece.isCall

/-- Literal characters do not matter for what is asked for. -/
theorem eval_outerCalls {n : Type → Type} [Monad n] [LawfulMonad n]
    (call : Text → List Text → n Text) (t : Template) :
    (fun _ => ()) <$> eval call (outerCalls t) = (fun _ => ()) <$> eval call t := by
  unfold outerCalls
  induction t with
  | nil => rfl
  | cons p r ih =>
    cases p with
    | char c =>
      rw [List.filter_cons_of_neg (by simp [Piece.isCall]), ih]
      simp only [eval, evalPiece, pure_bind, map_eq_pure_bind, bind_assoc]
    | call name parameters =>
      rw [List.filter_cons_of_pos rfl]
      simp only [eval, map_eq_pure_bind, bind_assoc, pure_bind] at ih ⊢
      exact congrArg _ (funext fun _ => ih)

/-! ### Gaps -/

open Progress

/-- Wherever reading comes to a gap, no call is open and no escape is pending. -/
def HasFreeGaps (m : Marks) : Progress → Gapped → Prop
  | _, [] => True
  | p, .char c :: g => HasFreeGaps m (p.step m c) g
  | p, .found () :: g => p.Within 0 ∧ HasFreeGaps m p g

instance decidableHasFreeGaps (m : Marks) :
    (p : Progress) → (g : Gapped) → Decidable (HasFreeGaps m p g)
  | _, [] => inferInstanceAs (Decidable True)
  | p, .char c :: g => decidableHasFreeGaps m (p.step m c) g
  | p, .found () :: g =>
    have := decidableHasFreeGaps m p g
    inferInstanceAs (Decidable (p.Within 0 ∧ HasFreeGaps m p g))

/-- A text that is read as itself outside all calls. -/
def IsLiteral (m : Marks) (a : Text) : Prop :=
  ∀ c ∈ a, c ≠ m.escape ∧ c ≠ m.opening ∧ c ≠ m.closing ∧ c ≠ m.separator

instance (m : Marks) (a : Text) : Decidable (IsLiteral m a) :=
  List.decidableBAll _ a

/-- The texts around the open calls have the same calls in them. -/
def SameCalls (ps qs : Template) : Prop := outerCalls ps = outerCalls qs

theorem keptByPush_sameCalls : KeptByPush SameCalls := fun p ps qs h => by
  unfold SameCalls outerCalls at h ⊢
  rw [List.filter_cons, List.filter_cons, h]

variable {m : Marks} {a : Text}

/-- A literal text changes nothing where no call is open. -/
theorem alike_after_literal {p q : Progress} (h : p.Alike SameCalls q) (hp : p.Within 0)
    (ha : IsLiteral m a) : p.Alike SameCalls (after m q a) := by
  induction a generalizing q with
  | nil => exact h
  | cons c a ih =>
    obtain ⟨he, ho, hc, hs⟩ := ha c List.mem_cons_self
    refine ih ?_ fun d hd => ha d (.tail _ hd)
    cases h with
    | escaped h => exact hp.elim
    | ended r r' h => exact .ended _ _ h
    | reading h =>
      have houter := List.length_eq_zero_iff.1 (Nat.le_zero.1 hp)
      cases h with
      | above f fs h => simp at houter
      | bottom h =>
        rw [step_text he ho hc hs]
        exact .reading (.bottom h)

theorem alike_after_fill {p q : Progress} (h : p.Alike SameCalls q) {g : Gapped}
    (hg : HasFreeGaps m p g) (ha : IsLiteral m a) :
    (after m p (g.fill [])).Alike SameCalls (after m q (g.fill a)) := by
  induction g generalizing p q with
  | nil => exact h
  | cons part g ih =>
    cases part with
    | char c => exact ih (h.step keptByPush_sameCalls c) hg
    | found u =>
      have hfill : Gapped.fill a (.found u :: g) = a ++ Gapped.fill a g := rfl
      rw [hfill, after_append]
      exact ih (alike_after_literal h hg.1 ha) hg.2

/-- A literal text in free gaps changes no call. -/
theorem outerCalls_fill {g : Gapped} (hg : HasFreeGaps m start g) (ha : IsLiteral m a) :
    outerCalls (ofText m (g.fill a)) = outerCalls (ofText m (g.fill [])) := by
  have hstart : start.Alike SameCalls start := .reading (.bottom rfl)
  have halike := (alike_after_fill hstart hg ha).state
  obtain ⟨ps, qs, hR, hps, hqs⟩ := halike.finish keptByPush_sameCalls
  rw [ofText_eq_after, ofText_eq_after, hps, hqs]
  unfold SameCalls outerCalls at hR
  simp only [outerCalls, List.filter_reverse, hR]

/-- The calls of a template are made without its literal characters. -/
theorem run_eval_of_outerCalls {ε σ : Type} (call : Text → List Text → ExceptT ε (StateM σ) Text)
    {s t : Template} (h : outerCalls s = outerCalls t) (start : σ) :
    ((eval call s).run.run start).2 = ((eval call t).run.run start).2 := by
  have hrun (t : Template) : ((eval call t).run.run start).2 =
      (((fun _ => ()) <$> eval call (outerCalls t)).run.run start).2 := by
    rw [eval_outerCalls, Computation.run_map]
  rw [hrun s, hrun t, h]

end Template

end UploadTemplate
