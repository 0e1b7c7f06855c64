import UploadTemplate.Proofs.Template.Calls

/-!
# Written templates

A tree can be written as text in many ways, since most characters may take an escape that they do
not need. Reading any of them gives the tree back.

- `Rendering m kind t s`: `s` is a way to write `t` in a span of this kind.
- `ofText_rendering`: the tree of such a text is `t`.
- `expand_rendering`: expanding it makes the calls of `t` and comes to its text.
-/

namespace UploadTemplate.Template

variable {m : Marks}

/-! ### The marks of a text, one by one -/

/-- The kind of span that is read in a frame. A parameter is read as plain text. -/
def Frame.kind : Frame → SpanKind
  | .name _ => .name
  | .text _ | .parameter .. => .text

/-- Whether a literal character needs an escape in a span. -/
def needsEscape (m : Marks) (kind : SpanKind) (c : Char) : Bool :=
  c = m.opening || c = m.closing || c = m.separator || c = m.escape ||
    (kind = .name && c = m.argument)

/-- The marks that are tested before one are not that one. -/
theorem marks_ne (m : Marks) :
    (m.opening ≠ m.escape ∧ m.closing ≠ m.escape ∧ m.separator ≠ m.escape ∧
      m.argument ≠ m.escape) ∧
    (m.closing ≠ m.opening ∧ m.separator ≠ m.opening ∧ m.argument ≠ m.opening) ∧
    (m.separator ≠ m.closing ∧ m.argument ≠ m.closing) ∧ m.argument ≠ m.separator := by
  have := m.distinct
  simp only [List.nodup_cons, List.mem_cons, not_or] at this
  grind

theorem readFrom_escape (st : Reading) (c : Char) (r : Text) :
    readFrom m st (m.escape :: c :: r) = readFrom m (st.push (.char c)) r := by
  rw [readFrom, if_pos rfl]

theorem readFrom_opening (st : Reading) (r : Text) :
    readFrom m st (m.opening :: r) = readFrom m st.openCall r := by
  rw [readFrom.eq_def]
  simp [marks_ne m]

theorem readFrom_closing {st st' : Reading} (h : st.close? = some st') (r : Text) :
    readFrom m st (m.closing :: r) = readFrom m st' r := by
  rw [readFrom.eq_def]
  simp [marks_ne m, h]

theorem readFrom_separator {st st' : Reading} (h : st.separate? = some st') (r : Text) :
    readFrom m st (m.separator :: r) = readFrom m st' r := by
  rw [readFrom.eq_def]
  simp [marks_ne m, h]

theorem readFrom_argument (st : Reading) (r : Text) :
    readFrom m st (m.argument :: r) = readFrom m (st.argument m.argument) r := by
  rw [readFrom.eq_def]
  simp [marks_ne m]

theorem readFrom_plain {st : Reading} {c : Char} (h : needsEscape m st.inner.kind c = false)
    (r : Text) : readFrom m st (c :: r) = readFrom m (st.push (.char c)) r := by
  simp only [needsEscape, Bool.or_eq_false_iff, decide_eq_false_iff_not] at h
  obtain ⟨⟨⟨⟨h1, h2⟩, h3⟩, h4⟩, h5⟩ := h
  rw [readFrom.eq_def]
  simp only [h1, h2, h3, h4, if_false]
  split
  · rename_i he
    subst he
    obtain ⟨_ | _ | _, outer⟩ := st <;> simp_all [Frame.kind, Reading.argument]
  · rfl

/-! ### Renderings -/

mutual

/-- The ways to write a list of pieces in a span of a kind. -/
inductive Rendering (m : Marks) : SpanKind → List Piece → Text → Prop where
  | nil (kind : SpanKind) : Rendering m kind [] []
  | plain {kind : SpanKind} {c : Char} {t : List Piece} {s : Text} :
      needsEscape m kind c = false → Rendering m kind t s →
      Rendering m kind (.char c :: t) (c :: s)
  | escaped {kind : SpanKind} {t : List Piece} {s : Text} (c : Char) : Rendering m kind t s →
      Rendering m kind (.char c :: t) (m.escape :: c :: s)
  | bare {kind : SpanKind} {name t : List Piece} {a s : Text} : Rendering m .name name a →
      Rendering m kind t s →
      Rendering m kind (.call name [] :: t) (m.opening :: a ++ m.closing :: s)
  | call {kind : SpanKind} {name t : List Piece} {parameters : List (List Piece)}
      {a b s : Text} : Rendering m .name name a → RenderingAll m parameters b →
      Rendering m kind t s →
      Rendering m kind (.call name parameters :: t)
        (m.opening :: a ++ m.argument :: b ++ m.closing :: s)

/-- The ways to write one or more parameters. -/
inductive RenderingAll (m : Marks) : List (List Piece) → Text → Prop where
  | last {p : List Piece} {a : Text} : Rendering m .text p a → RenderingAll m [p] a
  | more {p : List Piece} {ps : List (List Piece)} {a b : Text} : Rendering m .text p a →
      RenderingAll m ps b → RenderingAll m (p :: ps) (a ++ m.separator :: b)

end

/-! ### Reading them -/

namespace Frame

/-- The frame after a list of pieces. -/
def pushAll (t : Template) (f : Frame) : Frame := t.foldl (fun f p => f.push p) f

theorem kind_push (p : Piece) (f : Frame) : (f.push p).kind = f.kind := by
  cases f <;> rfl

theorem pushAll_text (t ps : Template) : (text ps).pushAll t = text (t.reverse ++ ps) := by
  induction t generalizing ps with
  | nil => rfl
  | cons p r ih => simpa [pushAll, push] using ih (p :: ps)

theorem pushAll_name (t ps : Template) : (name ps).pushAll t = name (t.reverse ++ ps) := by
  induction t generalizing ps with
  | nil => rfl
  | cons p r ih => simpa [pushAll, push] using ih (p :: ps)

theorem pushAll_parameter (n : Template) (before : List Template) (t ps : Template) :
    (parameter n before ps).pushAll t = parameter n before (t.reverse ++ ps) := by
  induction t generalizing ps with
  | nil => rfl
  | cons p r ih => simpa [pushAll, push] using ih (p :: ps)

end Frame

theorem argument_name (c : Char) (n : Template) (outer : List Frame) :
    Reading.argument c ⟨.name n, outer⟩ = ⟨.parameter n.reverse [] [], outer⟩ := rfl

theorem close?_name (n : Template) (f : Frame) (outer : List Frame) :
    Reading.close? ⟨.name n, f :: outer⟩ = some ⟨f.push (.call n.reverse []), outer⟩ := by
  simp [Reading.close?, Frame.absorb, Frame.pieces]

theorem close?_parameter (n p : Template) (before : List Template) (f : Frame)
    (outer : List Frame) :
    Reading.close? ⟨.parameter n before p, f :: outer⟩ =
      some ⟨f.push (.call n (before.reverse ++ [p.reverse])), outer⟩ := by
  simp [Reading.close?, Frame.absorb, Frame.pieces]

mutual

/-- Reading goes through a rendering, whatever follows it, and pushes its pieces. -/
theorem readFrom_rendering {kind : SpanKind} {t : List Piece} {s : Text} :
    Rendering m kind t s → ∀ {f : Frame} (outer : List Frame) (rest : Text), f.kind = kind →
      readFrom m ⟨f, outer⟩ (s ++ rest) = readFrom m ⟨f.pushAll t, outer⟩ rest
  | .nil _, _, _, _, _ => rfl
  | .plain hc h, f, outer, rest, hf => by
    rw [List.cons_append, readFrom_plain (by rw [hf]; exact hc)]
    exact readFrom_rendering h outer rest (by rw [Frame.kind_push, hf])
  | .escaped c h, f, outer, rest, hf => by
    rw [List.cons_append, List.cons_append, readFrom_escape]
    exact readFrom_rendering h outer rest (by rw [Frame.kind_push, hf])
  | .bare hn h, f, outer, rest, hf => by
    rw [List.append_assoc, List.cons_append, List.cons_append, readFrom_opening]
    rw [Reading.openCall, readFrom_rendering hn (f :: outer) _ rfl, Frame.pushAll_name,
      List.append_nil]
    rw [readFrom_closing (close?_name _ f outer), List.reverse_reverse]
    exact readFrom_rendering h outer rest (by rw [Frame.kind_push, hf])
  | .call hn hp h, f, outer, rest, hf => by
    simp only [List.append_assoc, List.cons_append]
    rw [readFrom_opening, Reading.openCall, readFrom_rendering hn (f :: outer) _ rfl,
      Frame.pushAll_name, List.append_nil]
    rw [readFrom_argument, argument_name, List.reverse_reverse,
      readFrom_renderingAll hp f outer _ []]
    exact readFrom_rendering h outer rest (by rw [Frame.kind_push, hf])

/-- Reading goes through the parameters of a call and its closing mark. -/
theorem readFrom_renderingAll {ps : List (List Piece)} {b : Text} : RenderingAll m ps b →
    ∀ {n : Template} (f : Frame) (outer : List Frame) (rest : Text) (before : List Template),
      readFrom m ⟨.parameter n before [], f :: outer⟩ (b ++ m.closing :: rest) =
        readFrom m ⟨f.push (.call n (before.reverse ++ ps)), outer⟩ rest
  | .last h, n, f, outer, rest, before => by
    rw [readFrom_rendering h (f :: outer) _ rfl, Frame.pushAll_parameter, List.append_nil]
    rw [readFrom_closing (close?_parameter n _ before f outer), List.reverse_reverse]
  | .more h hp, n, f, outer, rest, before => by
    rw [List.append_assoc, List.cons_append, readFrom_rendering h (f :: outer) _ rfl,
      Frame.pushAll_parameter, List.append_nil]
    rw [readFrom_separator rfl, List.reverse_reverse, readFrom_renderingAll hp f outer rest]
    rw [List.reverse_cons, List.append_assoc, List.singleton_append]

end

theorem ofText_rendering {t : Template} {s : Text} (h : Rendering m .text t s) :
    ofText m s = t := by
  have hr : readFrom m ⟨.text [], []⟩ (s ++ []) = readFrom m ⟨Frame.pushAll t (.text []), []⟩ [] :=
    readFrom_rendering h [] [] rfl
  rw [List.append_nil, Frame.pushAll_text, List.append_nil] at hr
  unfold ofText span SpanKind.start
  simp only
  rw [hr]
  simp [readFrom, Reading.finish, Frame.pieces]

/-- Expanding a way to write `t` asks for the calls of `t` in post-order, each once, and comes to
its literals and what the calls give; the first call that fails is the last that is made. -/
theorem expand_rendering {ε σ : Type} {t : Template} {s : Text} (h : Rendering m .text t s)
    (call : Caller ε σ) (start : σ) :
    ∃ asked outputs failure last result,
      call.Answers start asked outputs failure last ∧
      (expand m call s).run.run start = (result, last) ∧
      (expand m call.recorded s).run.run (start, []) = (result, (last, asked)) ∧
      Conclusion (count t) (calls · t) (text · t) asked outputs failure result := by
  unfold expand
  rw [ofText_rendering h]
  exact (eval_follows call t).run start []

/-- A call whose name is what another call gives, with an escaped mark as its first parameter and
an empty second one. -/
theorem expand_rendering_nested :
    let m : Marks := ⟨'<', '>', '=', ',', '^', by decide⟩
    let t : Template := [.char 'a', .call [.call [.char 'k'] []] [[.char '>'], []]]
    let call : Caller Nat Nat := fun name _ => do
      modify (· + 1)
      if name = "k".toList then return "<k>".toList else throw 5
    Rendering m .text t "a<<k>=^>,>".toList ∧
    ∃ asked outputs failure last result,
      call.Answers 0 asked outputs failure last ∧
      (expand m call "a<<k>=^>,>".toList).run.run 0 = (result, last) ∧
      (expand m call.recorded "a<<k>=^>,>".toList).run.run (0, []) = (result, (last, asked)) ∧
      Conclusion (count t) (calls · t) (text · t) asked outputs failure result := by
  intro m t call
  have hk : Rendering m .name [.call [.char 'k'] []] "<k>".toList :=
    .bare (.plain rfl (.nil _)) (.nil _)
  have hp : RenderingAll m [[.char '>'], []] "^>,".toList :=
    .more (.escaped _ (.nil _)) (.last (.nil _))
  have h : Rendering m .text t "a<<k>=^>,>".toList := .plain rfl (.call hk hp (.nil _))
  exact ⟨h, expand_rendering h call 0⟩

end UploadTemplate.Template
