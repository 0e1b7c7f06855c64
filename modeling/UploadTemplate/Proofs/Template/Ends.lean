import UploadTemplate.Proofs.Template.Unmarked

/-!
# Where spans end

A span ends at the first closing mark or separator that no call inside it takes, or else with the
text. Every opening mark before its end begins a call, unless it is escaped, and whatever is still
open at the end of a text is closed there.

- `Escaped.IsComplete`: every escape in a text has its character.
- `Escaped.countBare`: how often a character stands in a text without an escape.
- `Progress.Accounts`: what reading has come to, in terms of the text that it has read.
- `EndsAt`: where a span ends, and with what.
- `span_asks_openings`: a span asks its caller once for every opening mark in it.
- `expand_append_closing`: closing marks at the end of a text change nothing.
-/

namespace UploadTemplate

/-! ### Escapes at the end of a text -/

namespace Escaped

/-- How many escapes stand at the end of a text. -/
def trailing (escape : Char) (t : Text) : Nat := (t.reverse.takeWhile (· == escape)).length

/-- The escapes at the end of the text are pairs, so a character behind it has no escape. -/
def IsComplete (escape : Char) (t : Text) : Prop := trailing escape t % 2 = 0

instance (escape : Char) (t : Text) : Decidable (IsComplete escape t) :=
  inferInstanceAs (Decidable (_ = _))

/-- How often a character stands in a text without an escape before it. -/
def countBare (escape c : Char) (t : Text) : Nat :=
  (List.range t.length).countP fun i => t[i]? == some c && decide (IsComplete escape (t.take i))

theorem trailing_concat (escape : Char) (t : Text) (c : Char) :
    trailing escape (t ++ [c]) = if c = escape then trailing escape t + 1 else 0 := by
  rw [trailing, List.reverse_append, List.reverse_singleton, List.singleton_append,
    List.takeWhile_cons]
  by_cases h : c = escape <;> simp [h, trailing]

theorem isComplete_nil (escape : Char) : IsComplete escape [] := rfl

theorem isComplete_concat {escape : Char} {t : Text} {c : Char} :
    IsComplete escape (t ++ [c]) ↔ (c = escape → ¬ IsComplete escape t) := by
  unfold IsComplete
  rw [trailing_concat]
  by_cases h : c = escape
  · simp only [h, if_true, forall_const]
    omega
  · simp [h]

theorem countBare_concat (escape c : Char) (t : Text) (d : Char) :
    countBare escape c (t ++ [d]) =
      countBare escape c t + if d = c ∧ IsComplete escape t then 1 else 0 := by
  unfold countBare
  rw [List.length_append, List.length_singleton, List.range_succ, List.countP_append]
  congr 1
  · refine List.countP_congr fun i hi => ?_
    have hlt : i < t.length := List.mem_range.1 hi
    rw [List.getElem?_append_left hlt, List.take_append_of_le_length (Nat.le_of_lt hlt)]
  · simp [List.countP_cons]

end Escaped

/-! ### Callers that never fail -/

namespace Caller

variable {ε σ : Type} {call : Caller ε σ}

/-- The caller has a text for every call, whatever its state. -/
def NeverFails (call : Caller ε σ) : Prop :=
  ∀ name parameters s, ∃ output last, (call name parameters).run.run s = (.ok output, last)

variable {s last : σ} {asked : List Call} {outputs : List Text} {failure : Option ε}

theorem Answers.failure_eq_none (h : call.Answers s asked outputs failure last)
    (hcall : call.NeverFails) : failure = none := by
  induction h with
  | nothing => rfl
  | answer _ _ ih => exact ih
  | @failure s last c e hc =>
    obtain ⟨output, between, hok⟩ := hcall c.1 c.2 s
    cases hok.symm.trans hc

theorem Answers.length_asked (h : call.Answers s asked outputs none last) :
    asked.length = outputs.length := by
  generalize hf : (none : Option ε) = f at h
  induction h with
  | nothing => rfl
  | answer _ _ ih => rw [List.length_cons, List.length_cons, ih hf]
  | failure => cases hf

end Caller

namespace Template

variable {m : Marks} {kind : SpanKind}

/-! ### The outermost span -/

/-- A frame that becomes a call when it ends. -/
def Frame.isCall : Frame → Bool
  | .text _ => false
  | .name _ | .parameter .. => true

namespace Frame

theorem isCall_push (f : Frame) (p : Piece) : (f.push p).isCall = f.isCall := by
  cases f <;> rfl

theorem isCall_absorb (inner outer : Frame) : (inner.absorb outer).isCall = outer.isCall := by
  unfold absorb
  induction inner.pieces with
  | nil => rfl
  | cons p ps ih => rw [List.foldr_cons, isCall_push, ih]

theorem exists_call_of_isCall {f : Frame} (h : f.isCall = true) :
    ∃ name parameters, f.pieces = [.call name parameters] := by
  cases f with
  | text ps => cases h
  | name ps => exact ⟨_, _, rfl⟩
  | parameter n before ps => exact ⟨_, _, rfl⟩

end Frame

namespace Reading

/-- Whether the outermost span is that of a call. -/
def isCall (st : Reading) : Bool := (st.outer.getLastD st.inner).isCall

variable {st st' : Reading}

theorem isCall_congr {f g : Frame} (h : f.isCall = g.isCall) (fs : List Frame) :
    isCall ⟨f, fs⟩ = isCall ⟨g, fs⟩ := by
  cases fs with
  | nil => exact h
  | cons k fs => rfl

theorem isCall_cons (f g : Frame) (fs : List Frame) : isCall ⟨f, g :: fs⟩ = isCall ⟨g, fs⟩ := by
  rw [isCall, List.getLastD_cons, isCall]

theorem isCall_push (p : Piece) (st : Reading) : (st.push p).isCall = st.isCall :=
  isCall_congr (st.inner.isCall_push p) st.outer

theorem isCall_openCall (st : Reading) : st.openCall.isCall = st.isCall := isCall_cons _ _ _

theorem isCall_close? (h : st.close? = some st') : st'.isCall = st.isCall := by
  obtain ⟨inner, _ | ⟨outer, rest⟩⟩ := st <;> cases h
  rw [isCall_cons]
  exact isCall_congr (inner.isCall_absorb outer) rest

theorem isCall_separate? (h : st.separate? = some st') : st'.isCall = st.isCall := by
  obtain ⟨inner, outer⟩ := st
  cases inner with
  | text ps => exact isCall_close? h
  | name ps => exact isCall_close? h
  | parameter n before ps =>
    cases h
    exact isCall_congr (f := .parameter n _ []) (g := .parameter n before ps) rfl outer

theorem isCall_argument (c : Char) (st : Reading) : (st.argument c).isCall = st.isCall := by
  obtain ⟨inner, outer⟩ := st
  cases inner with
  | text ps => exact isCall_push (.char c) _
  | name ps => exact isCall_congr (f := .parameter _ [] []) (g := .name ps) rfl outer
  | parameter n before ps => exact isCall_push (.char c) _

theorem exists_call_finish (h : st.isCall = true) :
    ∃ name parameters, st.finish = [.call name parameters] := by
  obtain ⟨inner, outer⟩ := st
  have hframe : (outer.foldl (fun inner outer => inner.absorb outer) inner).isCall = true := by
    induction outer generalizing inner with
    | nil => exact h
    | cons f outer ih =>
      rw [isCall_cons, ← isCall_congr (inner.isCall_absorb f)] at h
      exact ih _ h
  obtain ⟨name, parameters, hpieces⟩ := Frame.exists_call_of_isCall hframe
  exact ⟨name, parameters, by rw [finish, hpieces, List.reverse_singleton]⟩

/-! ### What has been read -/

/-- What reading a text has come to in a span: the span keeps its kind, and every opening mark
without an escape has begun a call. -/
structure Accounts (m : Marks) (kind : SpanKind) (t : Text) (st : Reading) : Prop where
  isCall : st.isCall = (kind = .name)
  begun : st.begun = kind.start.begun + Escaped.countBare m.escape m.opening t

/-- One more character begins one more call if it is an opening mark without an escape. -/
theorem Accounts.concat {t : Text} {c : Char} (h : st.Accounts m kind t)
    (hkind : st'.isCall = st.isCall)
    (hbegun : st'.begun =
      st.begun + if c = m.opening ∧ Escaped.IsComplete m.escape t then 1 else 0) :
    st'.Accounts m kind (t ++ [c]) where
  isCall := by rw [hkind, h.isCall]
  begun := by rw [hbegun, h.begun, Escaped.countBare_concat, Nat.add_assoc]

/-- The outermost span ends at `c`, which no call inside it takes. A parameter goes on behind a
separator. -/
structure EndsWith (m : Marks) (st : Reading) (c : Char) : Prop where
  outer : st.outer = []
  mark : c = m.closing ∨ c = m.separator
  parameter : ∀ n before ps, st.inner = .parameter n before ps → c ≠ m.separator

/-- A call that has parameters does not end at a separator. -/
theorem EndsWith.ne_separator {c : Char} (h : st.EndsWith m c) (hkind : st.isCall = true)
    {name : Template} {parameters : List Template} (hcall : st.finish = [.call name parameters])
    (hp : parameters ≠ []) : c ≠ m.separator := by
  obtain ⟨inner, outer⟩ := st
  obtain rfl : outer = [] := h.outer
  cases inner with
  | text ps => cases hkind
  | name ps =>
    cases hcall
    exact absurd rfl hp
  | parameter n before ps => exact h.parameter n before ps rfl

theorem outer_of_close? (h : st.close? = none) : st.outer = [] := by
  obtain ⟨inner, _ | ⟨outer, rest⟩⟩ := st
  · rfl
  · cases h

theorem endsWith_closing (h : st.close? = none) : st.EndsWith m m.closing where
  outer := outer_of_close? h
  mark := .inl rfl
  parameter _ _ _ _ := fun hc => (marks_ne m).2.2.1.1 hc.symm

theorem endsWith_separator (h : st.separate? = none) : st.EndsWith m m.separator := by
  obtain ⟨inner, outer⟩ := st
  cases inner with
  | parameter n before ps => cases h
  | text ps => exact ⟨outer_of_close? h, .inr rfl, nofun⟩
  | name ps => exact ⟨outer_of_close? h, .inr rfl, nofun⟩

/-- Ending all spans ends the innermost one first. -/
theorem finish_close? (h : st.close? = some st') : st'.finish = st.finish := by
  obtain ⟨inner, _ | ⟨outer, rest⟩⟩ := st <;> cases h
  rfl

end Reading

namespace Progress

/-- How far reading a span has come after a text. -/
inductive Accounts (m : Marks) (kind : SpanKind) : Text → Progress → Prop
  | reading {t : Text} {st : Reading} : Escaped.IsComplete m.escape t → st.Accounts m kind t →
      Accounts m kind t (reading st)
  | escaped {t : Text} {st : Reading} : ¬ Escaped.IsComplete m.escape t → st.Accounts m kind t →
      Accounts m kind t (escaped st)
  | ended {t : Text} {st : Reading} {c : Char} (rest : Text) : Escaped.IsComplete m.escape t →
      st.Accounts m kind t → st.EndsWith m c →
      Accounts m kind (t ++ c :: rest) (ended st (c :: rest))

variable {t : Text} {st : Reading} {p : Progress} {c : Char}

/-- A mark ends the outermost span, or reading goes on with the calls that have been begun. -/
theorem Accounts.resume {next : Option Reading} (ht : Escaped.IsComplete m.escape t)
    (hst : st.Accounts m kind t) (hc : c = m.closing ∨ c = m.separator)
    (hkind : ∀ st', next = some st' → st'.isCall = st.isCall)
    (hbegun : ∀ st', next = some st' → st'.begun = st.begun)
    (hends : next = none → st.EndsWith m c) : Accounts m kind (t ++ [c]) (resume st c next) := by
  have he : c ≠ m.escape := by grind [marks_ne m]
  have ho : c ≠ m.opening := by grind [marks_ne m]
  cases next with
  | none => exact .ended [] ht hst (hends rfl)
  | some st' =>
    have hcomplete : Escaped.IsComplete m.escape (t ++ [c]) :=
      Escaped.isComplete_concat.2 fun h => absurd h he
    refine .reading hcomplete (hst.concat (hkind st' rfl) ?_)
    rw [hbegun st' rfl, if_neg fun h => ho h.1]
    rfl

theorem Accounts.step (h : Accounts m kind t p) (c : Char) :
    Accounts m kind (t ++ [c]) (p.step m c) := by
  cases h with
  | ended rest ht hst hends =>
    rw [List.append_assoc]
    exact .ended (rest ++ [c]) ht hst hends
  | escaped ht hst =>
    have hcomplete : Escaped.IsComplete m.escape (_ ++ [c]) :=
      Escaped.isComplete_concat.2 fun _ => ht
    refine .reading hcomplete (hst.concat (Reading.isCall_push _ _) ?_)
    rw [Reading.begun_push, if_neg fun h => ht h.2]
    rfl
  | @reading t st ht hst =>
    rw [Progress.step]
    split
    · rename_i he
      refine .escaped (fun h => Escaped.isComplete_concat.1 h he ht) (hst.concat rfl ?_)
      rw [if_neg fun h => (marks_ne m).1.1 (h.1.symm.trans he)]
      rfl
    have hcomplete : Escaped.IsComplete m.escape (t ++ [c]) :=
      Escaped.isComplete_concat.2 fun he => absurd he ‹_›
    split
    · rename_i ho
      refine .reading hcomplete (hst.concat (Reading.isCall_openCall st) ?_)
      rw [Reading.begun_openCall, if_pos ⟨ho, ht⟩]
    have hopening : ¬ (c = m.opening ∧ Escaped.IsComplete m.escape t) := fun h => absurd h.1 ‹_›
    split
    · rename_i hc
      refine .resume ht hst (.inl hc) (fun _ => Reading.isCall_close?)
        (fun _ => Reading.begun_close?) fun h => ?_
      exact hc ▸ Reading.endsWith_closing h
    split
    · rename_i hs
      refine .resume ht hst (.inr hs) (fun _ => Reading.isCall_separate?)
        (fun _ => Reading.begun_separate?) fun h => ?_
      exact hs ▸ Reading.endsWith_separator h
    split
    · refine .reading hcomplete (hst.concat (Reading.isCall_argument c st) ?_)
      rw [Reading.begun_argument, if_neg hopening]
      rfl
    · refine .reading hcomplete (hst.concat (Reading.isCall_push _ _) ?_)
      rw [Reading.begun_push, if_neg hopening]
      rfl

theorem Accounts.after (h : Accounts m kind t p) (u : Text) :
    Accounts m kind (t ++ u) (p.after m u) := by
  induction u generalizing t p with
  | nil => rwa [List.append_nil]
  | cons c u ih =>
    rw [after_cons, ← List.singleton_append, ← List.append_assoc]
    exact ih (h.step c)

/-- What reading a span from its beginning has come to. -/
theorem accounts_after (m : Marks) (kind : SpanKind) (t : Text) :
    Accounts m kind t ((reading kind.start).after m t) := by
  have hkind : kind.start.isCall = (kind = .name) := by
    cases kind <;> simp [SpanKind.start, Reading.isCall, Frame.isCall]
  have hstart : Accounts m kind [] (reading kind.start) :=
    .reading (Escaped.isComplete_nil _) ⟨hkind, rfl⟩
  exact hstart.after t

end Progress

open Progress

theorem span_eq_state (m : Marks) (kind : SpanKind) (t : Text) :
    span m kind t = (((reading kind.start).after m t).state.finish,
      ((reading kind.start).after m t).rest) := by
  unfold span
  rw [readFrom_eq_after]

/-- A span that begins at `start` in a text ends at `stop` and comes to these pieces. -/
structure EndsAt (m : Marks) (kind : SpanKind) (text : Text) (start stop : Nat)
    (pieces : Template) : Prop where
  span : span m kind (text.drop start) = (pieces, text.drop stop)
  start_le : start ≤ stop
  le_length : stop ≤ text.length
  /-- What stands at the end of the span, unless this is the end of the text. -/
  mark : stop = text.length ∨ ∃ c, text[stop]? = some c ∧ (c = m.closing ∨ c = m.separator) ∧
    Escaped.IsComplete m.escape (text.extract start stop)
  /-- The span of a call is that call, and its parameters go on behind a separator. -/
  call : kind = .name → ∃ name parameters, pieces = [.call name parameters] ∧
    (parameters ≠ [] → text[stop]? ≠ some m.separator)

theorem Reading.count_finish_of_accounts {st : Reading} {t : Text} (h : st.Accounts m kind t) :
    count st.finish = Escaped.countBare m.escape m.opening t + if kind = .name then 1 else 0 := by
  rw [count_finish, h.begun, Nat.add_comm]
  cases kind <;> rfl

/-- Where a span ends, and how many calls are in it. -/
theorem exists_endsAt (m : Marks) (kind : SpanKind) {text : Text} {start : Nat}
    (hstart : start ≤ text.length) : ∃ pieces stop, EndsAt m kind text start stop pieces ∧
      count pieces = Escaped.countBare m.escape m.opening (text.extract start stop) +
        if kind = .name then 1 else 0 := by
  have hspan := span_eq_state m kind (text.drop start)
  have haccounts := accounts_after m kind (text.drop start)
  generalize (reading kind.start).after m (text.drop start) = p at hspan haccounts
  -- Reading that has not ended has come to the end of the text.
  have hall {st : Reading} (hst : st.Accounts m kind (text.drop start))
      (hspan : span m kind (text.drop start) = (st.finish, [])) :
      ∃ pieces stop, EndsAt m kind text start stop pieces ∧
        count pieces = Escaped.countBare m.escape m.opening (text.extract start stop) +
          if kind = .name then 1 else 0 := by
    refine ⟨st.finish, text.length, ⟨?_, hstart, Nat.le_refl _, .inl rfl, fun hkind => ?_⟩, ?_⟩
    · rw [hspan, List.drop_length]
    · obtain ⟨name, parameters, hcall⟩ := st.exists_call_finish (by simp [hst.isCall, hkind])
      exact ⟨name, parameters, hcall, fun _ => by simp⟩
    · have hextract : text.extract start text.length = text.drop start := by
        rw [List.extract_eq_take_drop, ← List.length_drop, List.take_length]
      rw [hextract, st.count_finish_of_accounts hst]
  generalize hu : text.drop start = u at hspan haccounts
  cases haccounts with
  | reading ht hst => exact hall (hu ▸ hst) (hu ▸ hspan)
  | escaped ht hst => exact hall (hu ▸ hst) (hu ▸ hspan)
  | @ended t st c rest ht hst hends =>
    have hdrop : text.drop (start + t.length) = c :: rest := by
      rw [← List.drop_drop, hu, List.drop_left]
    have hextract : text.extract start (start + t.length) = t := by
      rw [List.extract_eq_take_drop, hu, Nat.add_sub_cancel_left, List.take_left]
    have hat : text[start + t.length]? = some c := by
      rw [← List.head?_drop, hdrop, List.head?_cons]
    have hlt : start + t.length < text.length := (List.getElem?_eq_some_iff.1 hat).1
    refine ⟨st.finish, start + t.length, ⟨?_, Nat.le_add_right _ _, Nat.le_of_lt hlt,
      .inr ⟨c, hat, hends.mark, by rwa [hextract]⟩, fun hkind => ?_⟩, ?_⟩
    · rw [hu, hspan, hdrop]
      rfl
    · have hcalls : st.isCall = true := by simp [hst.isCall, hkind]
      obtain ⟨name, parameters, hcall⟩ := st.exists_call_finish hcalls
      refine ⟨name, parameters, hcall, fun hp hsep => ?_⟩
      exact hends.ne_separator hcalls hcall hp (Option.some.inj (hat.symm.trans hsep))
    · rw [hextract, st.count_finish_of_accounts hst]

/-! ### Calls -/

/-- A span ends within the text, at its end or at a closing mark or separator that is not escaped,
and a call that has parameters does not end at a separator. A caller that never fails is asked once
for every opening mark that is not escaped in what the span has read, and for the call that the span
is itself. A span of plain text from the beginning is what expanding the text evaluates. -/
theorem span_asks_openings {ε σ : Type} (m : Marks) (kind : SpanKind) {text : Text} {start : Nat}
    (hstart : start ≤ text.length) {call : Caller ε σ} (hcall : call.NeverFails) (s : σ) :
    ∃ pieces stop output last asked, EndsAt m kind text start stop pieces ∧
      (eval call pieces).run.run s = (.ok output, last) ∧
      (eval call.recorded pieces).run.run (s, []) = (.ok output, (last, asked)) ∧
      asked.length = Escaped.countBare m.escape m.opening (text.extract start stop) +
        (if kind = .name then 1 else 0) ∧
      (kind = .text → start = 0 → expand m call.recorded text = eval call.recorded pieces) := by
  obtain ⟨pieces, stop, hends, hcount⟩ := exists_endsAt m kind hstart
  obtain ⟨asked, outputs, failure, last, result, hanswers, hrun, hrecorded, hconclusion⟩ :=
    (eval_follows call pieces).run s []
  obtain rfl := hanswers.failure_eq_none hcall
  cases hconclusion with
  | finished hlength =>
    refine ⟨pieces, stop, _, last, asked, hends, hrun, hrecorded, ?_, ?_⟩
    · rw [hanswers.length_asked, hlength, hcount]
    · rintro rfl rfl
      have hspan := hends.span
      rw [List.drop_zero] at hspan
      rw [expand, ofText, hspan]

/-- The span of a call, with an escaped mark in its name, a call in its first parameter and more
text behind it. -/
theorem span_asks_openings_inside :
    let text : Text := "a\x7bf\\\x7b:\x7bg\x7d|b\x7dc"
    let call : Caller Nat Nat := fun name parameters => do
      modify (· + 1)
      return name ++ parameters.flatten
    2 ≤ text.length ∧ call.NeverFails ∧
    ∃ pieces stop output last asked, EndsAt .standard .name text 2 stop pieces ∧
      (eval call pieces).run.run 0 = (.ok output, last) ∧
      (eval call.recorded pieces).run.run (0, []) = (.ok output, (last, asked)) ∧
      asked.length = Escaped.countBare '\\' '\x7b' (text.extract 2 stop) + 1 := by
  intro text call
  have hstart : 2 ≤ text.length := by decide
  have hcall : call.NeverFails := fun name parameters s => ⟨_, _, rfl⟩
  obtain ⟨pieces, stop, output, last, asked, hends, hrun, hrecorded, hlength, -⟩ :=
    span_asks_openings .standard .name hstart hcall 0
  exact ⟨hstart, hcall, pieces, stop, output, last, asked, hends, hrun, hrecorded, hlength⟩

/-! ### Closing marks at the end -/

/-- What is open at the end of a text is closed there, so a closing mark that is not escaped changes
nothing. -/
theorem ofText_concat_closing {t : Text} (h : Escaped.IsComplete m.escape t) :
    ofText m (t ++ [m.closing]) = ofText m t := by
  rw [ofText_eq_after, ofText_eq_after, after_append]
  have haccounts := accounts_after m .text t
  rw [← Progress.start] at haccounts
  generalize Progress.start.after m t = p at haccounts
  cases haccounts with
  | ended rest ht hst hends => rw [after_ended]; rfl
  | escaped ht hst => exact absurd h ht
  | @reading t st ht hst =>
    rw [after_cons, step, if_neg (marks_ne m).1.2.1, if_neg (marks_ne m).2.1.1, if_pos rfl]
    cases hclose : st.close? with
    | none => rfl
    | some st' => exact Reading.finish_close? hclose

theorem ofText_append_closing {t : Text} (h : Escaped.IsComplete m.escape t) (n : Nat) :
    ofText m (t ++ List.replicate n m.closing) = ofText m t := by
  have hclosed : Escaped.IsComplete m.escape (t ++ List.replicate n m.closing) ∧
      ofText m (t ++ List.replicate n m.closing) = ofText m t := by
    induction n with
    | zero => simpa using h
    | succ n ih =>
      rw [List.replicate_succ', ← List.append_assoc, ofText_concat_closing ih.1]
      exact ⟨Escaped.isComplete_concat.2 fun he => absurd he (marks_ne m).1.2.1, ih.2⟩
  exact hclosed.2

/-- Whoever answers the calls, and whether some of them fail or not: closing marks at the end of a
text, in which every escape has its character, change neither the calls nor the text that they
come to. -/
theorem expand_append_closing (m : Marks) {t : Text} (h : Escaped.IsComplete m.escape t) (n : Nat)
    {ε σ : Type} (call : Caller ε σ) :
    expand m call (t ++ List.replicate n m.closing) = expand m call t ∧
      expand m call.recorded (t ++ List.replicate n m.closing) = expand m call.recorded t := by
  unfold expand
  rw [ofText_append_closing h]
  exact ⟨rfl, rfl⟩

/-- A parameter and a call in it are open, and the last escape is escaped itself. -/
theorem expand_append_closing_nested :
    let t : Text := "\x7bf:a|\x7bg\\\\"
    let call : Caller Nat Nat := fun name _ => do
      modify (· + 1)
      if name = ['f'] then throw 5 else return name
    Escaped.IsComplete '\\' t ∧
    expand .standard call (t ++ "\x7d\x7d\x7d".toList) = expand .standard call t ∧
    expand .standard call.recorded (t ++ "\x7d\x7d\x7d".toList) =
      expand .standard call.recorded t := by
  intro t call
  have ht : Escaped.IsComplete Marks.standard.escape t := by decide
  exact ⟨ht, expand_append_closing .standard ht 3 call⟩

end Template

end UploadTemplate
