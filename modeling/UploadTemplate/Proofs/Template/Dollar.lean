import UploadTemplate.Proofs.Template.Rendering
import UploadTemplate.Template.Dollar

/-!
# Meaning between dollar signs

What an older template says is a document: literal texts and calls, which are not nested. Put into
marks, every way to write a document becomes a way to write its tree, so that it makes the same
calls and comes to the same text.

- `Dollar.Writing d s`: `s` is a way to write the document `d` with dollar signs.
- `rendering_toMarks`: put into marks it is a rendering of the tree of `d`.
- `expand_toMarks`: it makes the calls of `d` and comes to the text of `d`.
-/

namespace UploadTemplate.Dollar

/-! ### Documents -/

/-- A part of an older template. -/
inductive Part where
  | literal (t : Text)
  | call (name : Text) (parameters : List Text)
  deriving DecidableEq, Repr

abbrev Document := List Part

namespace Document

/-- The calls of a document in order. -/
def calls : Document → List Call
  | [] => []
  | .literal _ :: r => calls r
  | .call name parameters :: r => (name, parameters) :: calls r

/-- The literal texts and what the calls give. -/
def text (outputs : List Text) : Document → Text
  | [] => []
  | .literal t :: r => t ++ text outputs r
  | .call _ _ :: r => outputs.headD [] ++ text outputs.tail r

/-- A text as a template without calls. -/
def letters (t : Text) : Template := t.map Piece.char

/-- A document as a template. -/
def tree : Document → Template
  | [] => []
  | .literal t :: r => letters t ++ tree r
  | .call name parameters :: r => .call (letters name) (parameters.map letters) :: tree r

end Document

/-! ### Writing them -/

/-- The ways to write a text if these characters need a backslash before them. -/
inductive Quoted (special : List Char) : Text → Text → Prop where
  | nil : Quoted special [] []
  | plain {c : Char} {t s : Text} : c ∉ special → Quoted special t s →
      Quoted special (c :: t) (c :: s)
  | escaped {t s : Text} (c : Char) : Quoted special t s →
      Quoted special (c :: t) ('\\' :: c :: s)

/-- What needs a backslash outside calls. -/
def specialOutside : List Char := ['$', '\\']

/-- What needs a backslash inside a call. -/
def specialInside : List Char := ['$', '\\', '|']

/-- The ways to write one or more parameters. -/
inductive Parameters : List Text → Text → Prop where
  | last {p a : Text} : Quoted specialInside p a → Parameters [p] a
  | more {p a b : Text} {ps : List Text} : Quoted specialInside p a → Parameters ps b →
      Parameters (p :: ps) (a ++ '|' :: b)

/-- The ways to write a call, without the dollar signs around it. -/
inductive Inside : Text → List Text → Text → Prop where
  | bare {n a : Text} : ':' ∉ n → Quoted specialInside n a → Inside n [] a
  | call {n a b : Text} {ps : List Text} : ':' ∉ n → Quoted specialInside n a →
      Parameters ps b → Inside n ps (a ++ ':' :: b)

/-- The ways to write a document. The last dollar sign may be missing. -/
inductive Writing : Document → Text → Prop where
  | nil : Writing [] []
  | literal {t a s : Text} {d : Document} : Quoted specialOutside t a → Writing d s →
      Writing (.literal t :: d) (a ++ s)
  | call {n a s : Text} {ps : List Text} {d : Document} : Inside n ps a → Writing d s →
      Writing (.call n ps :: d) ('$' :: a ++ '$' :: s)
  | unclosed {n a : Text} {ps : List Text} : Inside n ps a → Writing [.call n ps] ('$' :: a)

/-! ### Putting them into marks -/

open Template Document

theorem toMarksFrom_dollar (m : Marks) (inCall : Bool) (r : Text) :
    toMarksFrom m inCall ('$' :: r) =
      (if inCall then m.closing else m.opening) :: toMarksFrom m (!inCall) r := by
  rw [toMarksFrom.eq_def]
  simp

theorem toMarksFrom_bar (r : Text) :
    toMarksFrom .standard true ('|' :: r) = '|' :: toMarksFrom .standard true r := by
  rw [toMarksFrom.eq_def]
  simp [Marks.standard]

theorem toMarksFrom_colon (inCall : Bool) (r : Text) :
    toMarksFrom .standard inCall (':' :: r) = ':' :: toMarksFrom .standard inCall r := by
  rw [toMarksFrom.eq_def]
  simp [Marks.standard, literal]

theorem toMarksFrom_quoted {special : List Char} {t a : Text} (h : Quoted special t a)
    {inCall : Bool} (hs : specialOutside ⊆ special) (hc : inCall = true → '|' ∈ special)
    (rest : Text) :
    toMarksFrom .standard inCall (a ++ rest) =
      t.flatMap (literal .standard) ++ toMarksFrom .standard inCall rest := by
  induction h with
  | nil => rfl
  | escaped c h ih => rw [List.flatMap_cons, List.append_assoc, ← ih]; rfl
  | @plain c t s hm h ih =>
    have h1 : c ≠ '\\' := fun e => hm (hs (by simp [e, specialOutside]))
    have h2 : c ≠ '$' := fun e => hm (hs (by simp [e, specialOutside]))
    have h3 : ¬ (c = Marks.standard.separator ∧ inCall = true) := fun e => hm (e.1 ▸ hc e.2)
    rw [List.flatMap_cons, List.append_assoc, ← ih, List.cons_append, toMarksFrom.eq_def]
    simp only [h1, h2, h3, if_false]

theorem needsEscape_of_literal {m : Marks} {kind : SpanKind} {c : Char}
    (hc : ¬ (m.isSpecial c = true ∧ c ≠ m.argument)) (hn : kind = .name → c ≠ m.argument) :
    needsEscape m kind c = false := by
  by_cases ha : c = m.argument
  · have hk : kind ≠ .name := fun e => hn e ha
    subst ha
    simp [needsEscape, marks_ne m, hk]
  · have hs : m.isSpecial c = false := by simpa [ha] using hc
    simp only [Marks.isSpecial, Bool.or_eq_false_iff, decide_eq_false_iff_not] at hs
    simp [needsEscape, hs]

/-- A text under the marks is a rendering of itself. In the name of a call that takes a text
without the argument mark, which gets no escape. -/
theorem rendering_literals {m : Marks} {kind : SpanKind} {t s : Text} {r : List Piece}
    (hn : kind = .name → m.argument ∉ t) (h : Rendering m kind r s) :
    Rendering m kind (letters t ++ r) (t.flatMap (literal m) ++ s) := by
  induction t with
  | nil => exact h
  | cons c t ih =>
    have ih := ih fun e hm => hn e (List.mem_cons_of_mem c hm)
    rw [List.flatMap_cons, List.append_assoc]
    unfold literal
    split
    · exact .escaped c ih
    · rename_i hc
      have hc : needsEscape m kind c = false :=
        needsEscape_of_literal hc fun e ha => hn e (ha ▸ List.mem_cons_self)
      exact .plain hc ih

theorem rendering_letters {m : Marks} {kind : SpanKind} {t : Text}
    (hn : kind = .name → m.argument ∉ t) :
    Rendering m kind (letters t) (t.flatMap (literal m)) := by
  simpa using rendering_literals hn (.nil kind)

theorem renderingAll_toMarks {ps : List Text} {b : Text} (h : Parameters ps b) (rest : Text) :
    ∃ b', toMarksFrom .standard true (b ++ rest) = b' ++ toMarksFrom .standard true rest ∧
      RenderingAll .standard (ps.map letters) b' := by
  induction h with
  | last hq =>
    refine ⟨_, toMarksFrom_quoted hq (by decide) (by decide) rest, .last ?_⟩
    exact rendering_letters (by simp)
  | more hq _ ih =>
    obtain ⟨b', hb, hr⟩ := ih
    refine ⟨_, ?_, .more (rendering_letters (by simp)) hr⟩
    rw [List.append_assoc, toMarksFrom_quoted hq (by decide) (by decide), List.append_assoc,
      List.cons_append, List.cons_append, toMarksFrom_bar, hb]
    rfl

/-- A call becomes a call. Its end is where the text goes on outside of it. -/
theorem rendering_inside {kind : SpanKind} {n a rest s' : Text} {ps : List Text} {t : List Piece}
    (h : Inside n ps a) (hr : toMarksFrom .standard true rest = '\x7d' :: s')
    (ht : Rendering .standard kind t s') :
    Rendering .standard kind (.call (letters n) (ps.map letters) :: t)
      ('\x7b' :: toMarksFrom .standard true (a ++ rest)) := by
  cases h with
  | bare hn hq =>
    rw [toMarksFrom_quoted hq (by decide) (by decide), hr]
    exact .bare (rendering_letters fun _ => hn) ht
  | call hn hq hp =>
    obtain ⟨b', hb, hps⟩ := renderingAll_toMarks hp rest
    rw [List.append_assoc, toMarksFrom_quoted hq (by decide) (by decide), List.cons_append,
      toMarksFrom_colon, hb, hr]
    have := Rendering.call (rendering_letters fun _ => hn) hps ht
    rw [List.append_assoc] at this
    exact this

/-- Put into marks, a way to write a document is a way to write its tree. -/
theorem rendering_toMarks {d : Document} {s : Text} (h : Writing d s) :
    Rendering .standard .text d.tree (toMarks .standard s) := by
  unfold toMarks
  induction h with
  | nil => exact .nil _
  | literal hq _ ih =>
    rw [toMarksFrom_quoted hq (by decide) (by decide)]
    exact rendering_literals (by simp) ih
  | @call n a s ps d hi _ ih =>
    rw [List.cons_append, toMarksFrom_dollar]
    exact rendering_inside hi (toMarksFrom_dollar .standard true s) ih
  | @unclosed n a ps hi =>
    have := rendering_inside hi (toMarksFrom.eq_1 .standard true) (.nil .text)
    rw [List.append_nil] at this
    rw [toMarksFrom_dollar]
    exact this

/-! ### The meaning of a document -/

theorem count_letters (t : Text) : count (letters t) = 0 := by
  induction t with
  | nil => rfl
  | cons c t ih => simpa [letters, count, countPiece] using ih

theorem text_letters (outputs : List Text) (t : Text) :
    Template.text outputs (letters t) = t := by
  induction t with
  | nil => rfl
  | cons c t ih => simpa [letters, Template.text, pieceText, countPiece] using ih

theorem calls_letters (outputs : List Text) (t : Text) :
    Template.calls outputs (letters t) = [] := by
  induction t with
  | nil => rfl
  | cons c t ih => simpa [letters, Template.calls, pieceCalls, countPiece] using ih

theorem countAll_letters (ps : List Text) : countAll (ps.map letters) = 0 := by
  induction ps with
  | nil => rfl
  | cons p ps ih => simp [countAll, count_letters, ih]

theorem texts_letters (outputs : List Text) (ps : List Text) :
    texts outputs (ps.map letters) = ps := by
  induction ps generalizing outputs with
  | nil => rfl
  | cons p ps ih => simp [texts, text_letters, ih]

theorem callsAll_letters (outputs : List Text) (ps : List Text) :
    callsAll outputs (ps.map letters) = [] := by
  induction ps generalizing outputs with
  | nil => rfl
  | cons p ps ih => simp [callsAll, calls_letters, ih]

theorem count_tree (d : Document) : count d.tree = d.calls.length := by
  induction d with
  | nil => rfl
  | cons p d ih =>
    cases p with
    | literal t => simp [tree, Document.calls, count_append, count_letters, ih]
    | call n ps =>
      simp [tree, Document.calls, count, countPiece, count_letters, countAll_letters, ih]
      omega

theorem calls_tree (outputs : List Text) (d : Document) :
    Template.calls outputs d.tree = d.calls := by
  induction d generalizing outputs with
  | nil => rfl
  | cons p d ih =>
    cases p with
    | literal t => simp [tree, Document.calls, Template.calls_append, calls_letters, ih]
    | call n ps =>
      simp [tree, Document.calls, Template.calls, pieceCalls, calls_letters, callsAll_letters,
        text_letters, texts_letters, ih]

theorem text_tree (outputs : List Text) (d : Document) :
    Template.text outputs d.tree = d.text outputs := by
  induction d generalizing outputs with
  | nil => rfl
  | cons p d ih =>
    cases p with
    | literal t =>
      simp [tree, Document.text, Template.text_append, text_letters, count_letters, ih]
    | call n ps =>
      simp [tree, Document.text, Template.text, pieceText, countPiece, count_letters,
        countAll_letters, ih]

/-- Put into marks, a way to write a document makes the calls of the document in order and comes to
its literal texts and what the calls give; the first call that fails is the last that is made. -/
theorem expand_toMarks {ε σ : Type} {d : Document} {s : Text} (h : Writing d s)
    (call : Caller ε σ) (start : σ) :
    ∃ asked outputs failure last result,
      call.Answers start asked outputs failure last ∧
      (expand .standard call (toMarks .standard s)).run.run start = (result, last) ∧
      (expand .standard call.recorded (toMarks .standard s)).run.run (start, []) =
        (result, (last, asked)) ∧
      Conclusion d.calls.length (fun _ => d.calls) (d.text ·) asked outputs failure result := by
  have hf := eval_follows call d.tree
  simp only [count_tree, calls_tree, text_tree] at hf
  unfold expand
  rw [ofText_rendering (rendering_toMarks h)]
  exact hf.run start []

/-- A brace and a bar outside the calls, a colon and a bar inside a parameter, an empty parameter,
and a last call that is not closed. -/
theorem expand_toMarks_unclosed :
    let d : Document :=
      [.literal ['\x7b'], .call ['f'] [[':', '|'], []], .literal ['|'], .call ['k'] []]
    let call : Caller Nat Nat := fun name _ => do
      modify (· + 1)
      if name = ['f'] then return ['$'] else throw 5
    Writing d "\x7b$f::\\||$\\|$k".toList ∧
    ∃ asked outputs failure last result,
      call.Answers 0 asked outputs failure last ∧
      (expand .standard call (toMarks .standard "\x7b$f::\\||$\\|$k".toList)).run.run 0 =
        (result, last) ∧
      (expand .standard call.recorded (toMarks .standard "\x7b$f::\\||$\\|$k".toList)).run.run
        (0, []) = (result, (last, asked)) ∧
      Conclusion d.calls.length (fun _ => d.calls) (d.text ·) asked outputs failure result := by
  intro d call
  have hp : Parameters [[':', '|'], []] ":\\||".toList :=
    .more (.plain (by decide) (.escaped '|' .nil)) (.last .nil)
  have hf : Inside ['f'] [[':', '|'], []] "f::\\||".toList :=
    .call (by decide) (.plain (by decide) .nil) hp
  have hk : Inside ['k'] [] ['k'] := .bare (by decide) (.plain (by decide) .nil)
  have h : Writing d "\x7b$f::\\||$\\|$k".toList :=
    .literal (.plain (by decide) .nil) (.call hf (.literal (.escaped '|' .nil) (.unclosed hk)))
  exact ⟨h, expand_toMarks h call 0⟩

end UploadTemplate.Dollar
