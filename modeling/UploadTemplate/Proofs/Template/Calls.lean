import UploadTemplate.Template.Tree

/-!
# The calls of a template

Evaluation asks someone for the text of every call. Here the calls of a tree are written down
without evaluating it: they come in post-order, those inside a name before those inside the
parameters and the call itself after both, and each depends on what the earlier ones gave.

- `Template.calls`, `Template.text`: the calls of a tree and its text, if the calls give these
  outputs in this order.
- `Caller.Answers`: a conversation with a caller, which ends with its first error.
- `Conclusion`: how a tree fares in a conversation.
- `Template.eval_follows`: evaluation is that conversation.
-/

namespace UploadTemplate

/-- A call as the caller sees it: its name and its parameters. -/
abbrev Call := Text × List Text

/-- Gives texts for calls. It may fail, and it may keep a state. -/
abbrev Caller (ε σ : Type) := Text → List Text → ExceptT ε (StateM σ) Text

namespace Caller

variable {ε σ : Type}

/-- `call`, asked for the calls in this order, gives the outputs in this order; the error, if there
is one, is that of the last call. -/
inductive Answers (call : Caller ε σ) : σ → List Call → List Text → Option ε → σ → Prop where
  | nothing (s : σ) : Answers call s [] [] none s
  | answer {s s' last : σ} {c : Call} {asked : List Call} {out : Text} {outputs : List Text}
      {failure : Option ε} : (call c.1 c.2).run s = (.ok out, s') →
      Answers call s' asked outputs failure last →
      Answers call s (c :: asked) (out :: outputs) failure last
  | failure {s last : σ} {c : Call} {e : ε} : (call c.1 c.2).run s = (.error e, last) →
      Answers call s [c] [] (some e) last

variable {call : Caller ε σ} {s s' last : σ} {asked asked' : List Call}
  {outputs outputs' : List Text} {failure : Option ε}

theorem Answers.append (h : call.Answers s asked outputs none s')
    (h' : call.Answers s' asked' outputs' failure last) :
    call.Answers s (asked ++ asked') (outputs ++ outputs') failure last := by
  generalize hn : (none : Option ε) = f at h
  induction h with
  | nothing => exact h'
  | answer hc _ ih => exact .answer hc (ih h' hn)
  | failure => cases hn

/-- A conversation that fails does so with its last call; the calls before it are answered. -/
theorem Answers.of_failure {e : ε} (h : call.Answers s asked outputs (some e) last) :
    ∃ before c between, asked = before ++ [c] ∧ call.Answers s before outputs none between ∧
      (call c.1 c.2).run between = (.error e, last) := by
  generalize hf : some e = f at h
  induction h with
  | nothing => cases hf
  | answer hc _ ih =>
    obtain ⟨before, c, between, rfl, hbefore, hlast⟩ := ih hf
    exact ⟨_ :: before, c, between, rfl, .answer hc hbefore, hlast⟩
  | failure hc =>
    cases hf
    exact ⟨[], _, _, rfl, .nothing _, hc⟩

/-- What every call keeps, a conversation keeps. -/
theorem Answers.keeps {P : σ → Prop} (hP : ∀ {name parameters s r s'},
    (call name parameters).run.run s = (r, s') → P s → P s')
    (h : call.Answers s asked outputs failure last) (hs : P s) : P last := by
  induction h with
  | nothing => exact hs
  | answer hc _ ih => exact ih (hP hc hs)
  | failure hc => exact hP hc hs

/-- The caller that also writes down what it is asked. -/
def recorded (call : Caller ε σ) : Caller ε (σ × List Call) := fun name parameters =>
  ExceptT.mk fun (s, log) =>
    let (r, s) := (call name parameters).run s
    (r, (s, log ++ [(name, parameters)]))

theorem run_recorded (call : Caller ε σ) (name : Text) (parameters : List Text) (s : σ)
    (log : List Call) :
    (call.recorded name parameters).run.run (s, log) =
      (((call name parameters).run.run s).1, ((call name parameters).run.run s).2,
        log ++ [(name, parameters)]) := rfl

end Caller

namespace Template

/-! ### Post-order -/

mutual

/-- The number of calls in a piece, itself included. -/
def countPiece : Piece → Nat
  | .char _ => 0
  | .call name parameters => count name + countAll parameters + 1

def count : List Piece → Nat
  | [] => 0
  | p :: r => countPiece p + count r

def countAll : List (List Piece) → Nat
  | [] => 0
  | t :: r => count t + countAll r

end

/-- The text of a piece whose calls give `outputs`; the last of them is that of the piece. -/
def pieceText (outputs : List Text) : Piece → Text
  | .char c => [c]
  | .call name parameters => (outputs.drop (count name + countAll parameters)).headD []

/-- The literal characters and what the calls give. -/
def text (outputs : List Text) : List Piece → Text
  | [] => []
  | p :: r => pieceText outputs p ++ text (outputs.drop (countPiece p)) r

def texts (outputs : List Text) : List (List Piece) → List Text
  | [] => []
  | t :: r => text outputs t :: texts (outputs.drop (count t)) r

mutual

def pieceCalls (outputs : List Text) : Piece → List Call
  | .char _ => []
  | .call name parameters =>
    calls outputs name ++ callsAll (outputs.drop (count name)) parameters ++
      [(text outputs name, texts (outputs.drop (count name)) parameters)]

/-- The calls of a template in post-order, with the texts of their names and parameters. -/
def calls (outputs : List Text) : List Piece → List Call
  | [] => []
  | p :: r => pieceCalls outputs p ++ calls (outputs.drop (countPiece p)) r

def callsAll (outputs : List Text) : List (List Piece) → List Call
  | [] => []
  | t :: r => calls outputs t ++ callsAll (outputs.drop (count t)) r

end

theorem count_append (s t : Template) : count (s ++ t) = count s + count t := by
  induction s with
  | nil => simp [count]
  | cons p s ih => simp [count, ih, Nat.add_assoc]

theorem text_append (outputs : List Text) (s t : Template) :
    text outputs (s ++ t) = text outputs s ++ text (outputs.drop (count s)) t := by
  induction s generalizing outputs with
  | nil => simp [text, count]
  | cons p s ih => simp [text, count, ih]

theorem calls_append (outputs : List Text) (s t : Template) :
    calls outputs (s ++ t) = calls outputs s ++ calls (outputs.drop (count s)) t := by
  induction s generalizing outputs with
  | nil => simp [calls, count]
  | cons p s ih => simp [calls, count, ih]

example :
    calls [['x'], ['y']] [.call [.call [.char 'n'] []] [[.call [.char 'p'] [], .char 'b']]] =
      [(['n'], []), (['p'], []), (['x'], [['y', 'b']])] := by decide

end Template

/-! ### Conversations -/

/-- How something fares that makes `n` calls, which are `calls outputs` if they give `outputs`, and
comes to `value outputs`. Either it is asked for all of them, or for those up to the first that
fails. -/
inductive Conclusion {ε α : Type} (n : Nat) (calls : List Text → List Call) (value : List Text → α)
    (asked : List Call) (outputs : List Text) : Option ε → Except ε α → Prop where
  | finished : outputs.length = n → asked = calls outputs →
      Conclusion n calls value asked outputs none (.ok (value outputs))
  | failed (e : ε) : outputs.length < n → asked <+: calls outputs →
      Conclusion n calls value asked outputs (some e) (.error e)

variable {ε σ α β : Type} {call : Caller ε σ}

/-- A computation that fares as `n`, `calls` and `value` say, whatever the state, beside the same
computation with its calls recorded. Calls and value depend on the first `n` outputs alone. -/
structure Follows (call : Caller ε σ) (x : ExceptT ε (StateM σ) α)
    (logged : ExceptT ε (StateM (σ × List Call)) α) (n : Nat) (calls : List Text → List Call)
    (value : List Text → α) : Prop where
  calls_append : ∀ {outputs : List Text} (more : List Text), n ≤ outputs.length →
    calls (outputs ++ more) = calls outputs
  value_append : ∀ {outputs : List Text} (more : List Text), n ≤ outputs.length →
    value (outputs ++ more) = value outputs
  run : ∀ (s : σ) (log : List Call), ∃ asked outputs failure last result,
    call.Answers s asked outputs failure last ∧
    x.run.run s = (result, last) ∧
    logged.run.run (s, log) = (result, (last, log ++ asked)) ∧
    Conclusion n calls value asked outputs failure result

namespace Follows

theorem pure (a : α) :
    Follows call (Pure.pure a) (Pure.pure a) 0 (fun _ => []) (fun _ => a) where
  calls_append _ _ := rfl
  value_append _ _ := rfl
  run s log := ⟨[], [], none, s, .ok a, .nothing s, rfl, by simp; rfl, .finished rfl rfl⟩

theorem ask (name : Text) (parameters : List Text) :
    Follows call (call name parameters) (call.recorded name parameters) 1
      (fun _ => [(name, parameters)]) (fun outputs => outputs.headD []) where
  calls_append _ _ := rfl
  value_append {outputs} more h := by
    cases outputs with
    | nil => cases h
    | cons o r => rfl
  run s log := by
    rcases h : (call name parameters).run.run s with ⟨r, s'⟩
    have hr : (call.recorded name parameters).run.run (s, log) =
        (r, (s', log ++ [(name, parameters)])) := by
      unfold Caller.recorded
      rw [ExceptT.run_mk]
      simp only [StateT.run] at h ⊢
      rw [h]
    cases r with
    | error e =>
      exact ⟨[(name, parameters)], [], some e, s', _, .failure h, rfl, hr,
        .failed e Nat.one_pos (List.prefix_refl _)⟩
    | ok out =>
      exact ⟨[(name, parameters)], [out], none, s', _, .answer h (.nothing s'), rfl, hr,
        .finished rfl rfl⟩

/-- One computation after another: their calls one after the other, the later ones with the
outputs that the earlier ones left. -/
theorem bind {x : ExceptT ε (StateM σ) α} {logged : ExceptT ε (StateM (σ × List Call)) α}
    {f : α → ExceptT ε (StateM σ) β} {g : α → ExceptT ε (StateM (σ × List Call)) β} {n n' : Nat}
    {calls : List Text → List Call} {calls' : α → List Text → List Call}
    {value : List Text → α} {value' : α → List Text → β}
    (hx : Follows call x logged n calls value)
    (hf : ∀ a, Follows call (f a) (g a) n' (calls' a) (value' a)) :
    Follows call (x >>= f) (logged >>= g) (n + n')
      (fun outputs => calls outputs ++ calls' (value outputs) (outputs.drop n))
      (fun outputs => value' (value outputs) (outputs.drop n)) where
  calls_append {outputs} more h := by
    have hn : n ≤ outputs.length := by omega
    have hn' : n' ≤ (outputs.drop n).length := by rw [List.length_drop]; omega
    rw [hx.calls_append more hn, hx.value_append more hn, List.drop_append_of_le_length hn,
      (hf _).calls_append more hn']
  value_append {outputs} more h := by
    have hn : n ≤ outputs.length := by omega
    have hn' : n' ≤ (outputs.drop n).length := by rw [List.length_drop]; omega
    rw [hx.value_append more hn, List.drop_append_of_le_length hn, (hf _).value_append more hn']
  run s log := by
    obtain ⟨asked, outputs, failure, s1, r, ha, hr, hl, ho⟩ := hx.run s log
    cases ho with
    | failed e hlt hp =>
      refine ⟨asked, outputs, some e, s1, .error e, ha, ?_, ?_, .failed e (by omega) ?_⟩
      · rw [ExceptT.run_bind, StateT.run_bind, hr]
        rfl
      · rw [ExceptT.run_bind, StateT.run_bind, hl]
        rfl
      · exact hp.trans (List.prefix_append _ _)
    | finished hlen hc =>
      obtain ⟨asked', outputs', failure', s2, r', ha', hr', hl', ho'⟩ :=
        (hf (value outputs)).run s1 (log ++ asked)
      have hd : (outputs ++ outputs').drop n = outputs' := by rw [← hlen, List.drop_left]
      have hc' : calls (outputs ++ outputs') = asked := by
        rw [hx.calls_append outputs' (Nat.le_of_eq hlen.symm), hc]
      have hv : value (outputs ++ outputs') = value outputs :=
        hx.value_append outputs' (Nat.le_of_eq hlen.symm)
      refine ⟨asked ++ asked', outputs ++ outputs', failure', s2, r', ha.append ha', ?_, ?_, ?_⟩
      · rw [ExceptT.run_bind, StateT.run_bind, hr]
        exact hr'
      · rw [ExceptT.run_bind, StateT.run_bind, hl, ← List.append_assoc]
        exact hl'
      · cases ho' with
        | failed e hlt' hp' =>
          refine .failed e (by rw [List.length_append]; omega) ?_
          rw [hd, hc', hv]
          exact (List.prefix_append_right_inj _).2 hp'
        | finished hlen' he =>
          rw [show value' (value outputs) outputs' =
            value' (value (outputs ++ outputs')) ((outputs ++ outputs').drop n) by rw [hd, hv]]
          refine .finished (by rw [List.length_append]; omega) ?_
          rw [hd, hc', hv, he]

end Follows

/-! ### Evaluation -/

namespace Template

mutual

theorem evalPiece_follows (call : Caller ε σ) : ∀ p : Piece,
    Follows call (evalPiece call p) (evalPiece call.recorded p) (countPiece p) (pieceCalls · p)
      (pieceText · p)
  | .char c => .pure [c]
  | .call name parameters => by
    have h := (eval_follows call name).bind fun name =>
      (evalAll_follows call parameters).bind fun parameters => .ask name parameters
    simpa only [evalPiece, countPiece, pieceCalls, pieceText, List.drop_drop, Nat.add_assoc,
      List.append_assoc] using h

theorem eval_follows (call : Caller ε σ) : ∀ t : List Piece,
    Follows call (eval call t) (eval call.recorded t) (count t) (calls · t) (text · t)
  | [] => .pure []
  | p :: r => by
    have h := (evalPiece_follows call p).bind fun first =>
      (eval_follows call r).bind fun rest => .pure (first ++ rest)
    simpa only [eval, count, calls, text, Nat.add_zero, List.append_nil] using h

theorem evalAll_follows (call : Caller ε σ) : ∀ ts : List (List Piece),
    Follows call (evalAll call ts) (evalAll call.recorded ts) (countAll ts) (callsAll · ts)
      (texts · ts)
  | [] => .pure []
  | t :: r => by
    have h := (eval_follows call t).bind fun first =>
      (evalAll_follows call r).bind fun rest => .pure (first :: rest)
    simpa only [evalAll, countAll, callsAll, texts, Nat.add_zero, List.append_nil] using h

end

end Template

end UploadTemplate
