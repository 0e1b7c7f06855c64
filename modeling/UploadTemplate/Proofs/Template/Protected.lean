import UploadTemplate.Proofs.Naming.Title
import UploadTemplate.Proofs.Template.Escaped
import UploadTemplate.Proofs.Template.Rendering

/-!
# Protected texts

A text with an escape before every mark and every percent sign comes through a template as it is.
Its percent signs stand outside every run, so no name token is seen in it, and its marks are read as
characters.

- `Marks.protect`: the text with its escapes.
- `Escaped.not_mem_of_run_protect`: the runs of a protected text have no percent sign.
- `Interpreter.interpretNamed_protect`: a protected text stands for itself.
-/

namespace UploadTemplate

/-- The text with an escape before every mark and every percent sign in it. -/
def Marks.protect (m : Marks) (t : Text) : Text :=
  t.flatMap fun c => if m.isSpecial c || c = '%' then [m.escape, c] else [c]

/-! ### Runs -/

namespace Escaped

/-- What the runs of a list of parts do not have, they do not have with another character before
them. -/
theorem not_mem_of_run_consChar {c d : Char} (hc : d ≠ c) {parts : List Part}
    (h : ∀ u, .run u ∈ parts → d ∉ u) : ∀ u, .run u ∈ consChar c parts → d ∉ u := by
  intro u hu
  rcases consChar_cases c parts with ⟨t, r, rfl, hcons⟩ | ⟨-, hcons⟩
  · rw [hcons] at hu
    rcases List.mem_cons.1 hu with hu | hu
    · cases hu
      simp only [List.mem_cons, not_or]
      exact ⟨hc, h t List.mem_cons_self⟩
    · exact h u (List.mem_cons_of_mem _ hu)
  · rw [hcons] at hu
    rcases List.mem_cons.1 hu with hu | hu
    · cases hu
      simpa using hc
    · exact h u hu

theorem not_mem_of_run_protect (m : Marks) (t : Text) :
    ∀ u, .run u ∈ cut m.escape (m.protect t) → '%' ∉ u := by
  induction t with
  | nil => nofun
  | cons c t ih =>
    rw [Marks.protect, List.flatMap_cons, ← Marks.protect]
    split
    · intro u hu
      rw [List.cons_append, List.singleton_append, cut_pair] at hu
      exact ih u ((List.mem_cons.1 hu).resolve_left nofun)
    · rename_i hc
      simp only [Bool.or_eq_true, decide_eq_true_eq, not_or, Marks.isSpecial] at hc
      rw [List.singleton_append, cut_char hc.1.2]
      exact not_mem_of_run_consChar (Ne.symm hc.2) ih

end Escaped

/-! ### Reading -/

namespace Template

theorem rendering_protect (m : Marks) (t : Text) :
    Rendering m .text (t.map .char) (m.protect t) := by
  induction t with
  | nil => exact .nil _
  | cons c t ih =>
    rw [Marks.protect, List.flatMap_cons, ← Marks.protect]
    split
    · exact .escaped c ih
    · rename_i hc
      simp only [Bool.or_eq_true, decide_eq_true_eq, not_or, Marks.isSpecial] at hc
      refine .plain ?_ ih
      simp [needsEscape, hc]

theorem eval_chars {n : Type → Type} [Monad n] [LawfulMonad n]
    (call : Text → List Text → n Text) (t : Text) : eval call (t.map .char) = pure t := by
  induction t with
  | nil => rfl
  | cons c t ih =>
    rw [List.map_cons, eval, ih, evalPiece, pure_bind, pure_bind]
    rfl

/-- Whoever answers the calls, a protected text is its characters. -/
theorem expand_protect {n : Type → Type} [Monad n] [LawfulMonad n] (m : Marks)
    (call : Text → List Text → n Text) (t : Text) : expand m call (m.protect t) = pure t := by
  rw [expand, ofText_rendering (rendering_protect m t), eval_chars]

end Template

namespace Interpreter

/-- A protected text stands for itself, whatever the functions and the names are. It makes no calls,
and it moves neither the counter nor the draws. -/
theorem interpretNamed_protect (i : Interpreter) {n : Namer} (hk : n.kind = .text)
    (hl : n.maxName = none) (t : Text) (before : Session) :
    (i.interpretNamed n (i.marks.protect t)).run.run before = (.ok t, before) ∧
      i.dispatched n (i.marks.protect t) before = [] := by
  have hexpand : (n.expandKeepingEscapes i.marks.escape (i.marks.protect t)).run.run before =
      (.ok (i.marks.protect t), before) := by
    rw [Namer.expandKeepingEscapes_of_plain_runs hk hl (Escaped.not_mem_of_run_protect i.marks t)]
    rfl
  have hconversation : i.conversation n (i.marks.protect t) before = (.ok t, before, []) := by
    unfold conversation
    simp only [hexpand, Template.expand_protect]
    rfl
  rw [run_interpretNamed_eq_conversation, dispatched, hconversation]
  exact ⟨rfl, rfl⟩

/-- The percent sign is the escape, and the text is full of marks and tokens. -/
theorem interpretNamed_protect_percent :
    let m : Marks := ⟨'<', '>', ':', '|', '%', by decide⟩
    let i : Interpreter := ⟨.standard, ⟨none, some "x", none⟩, m, .url⟩
    let n : Namer := { Namer.standard ⟨.empty, ⟨[]⟩, ⟨0, 0, 0⟩⟩ with title := some "%i" }
    let before : Session := ⟨4, ⟨fun _ => 0, 0⟩⟩
    n.kind = .text ∧ n.maxName = none ∧
      m.protect "<input>%i:%%t" = "%<input%>%%i%:%%%%t".toList ∧
      (i.interpretNamed n "%<input%>%%i%:%%%%t").run.run before =
        (.ok "<input>%i:%%t".toList, before) ∧
      i.dispatched n "%<input%>%%i%:%%%%t" before = [] := by
  intro m i n before
  exact ⟨rfl, rfl, rfl, interpretNamed_protect i rfl rfl "<input>%i:%%t" before⟩

end Interpreter

end UploadTemplate
