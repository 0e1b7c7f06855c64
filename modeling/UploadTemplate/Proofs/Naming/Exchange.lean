import Mathlib.Logic.Relation
import UploadTemplate.Proofs.Naming.Replacement

/-!
# Exchanges

While a name is expanded, its text changes in single exchanges: a token goes out with its argument,
and its value comes in. What is put in takes part in later exchanges.

- `Namer.exchanges`: the exchanges in the expansion of a text.
- `Step`, `Steps`: how a text changes by one exchange or by several of them.
- `Namer.steps_expandKeepingEscapes`: an expansion goes from its text to its result in these
  exchanges.
-/

namespace UploadTemplate

namespace Naming

/-- What is taken out of a text, and what is put in. -/
structure Exchange where
  token : Text
  argument : Option Text
  value : Text
  deriving DecidableEq

/-- A computation that also writes down the exchanges. -/
abbrev Noted (α : Type) := ExceptT Error (StateM (Draws × List Exchange)) α

/-- The value, which is written down if there is one. -/
def Replacement.noted (k : Replacement) (a : Option Text) : Noted Text :=
  ExceptT.mk fun (d, log) =>
    let (r, d) := (k.value a).run.run d
    (r, (d, log ++ (r.toOption.map fun v => ⟨k.text, a, v⟩).toList))

theorem Replacement.run_noted (k : Replacement) (a : Option Text) (d : Draws)
    (log : List Exchange) :
    (k.noted a).run.run (d, log) = (((k.value a).run.run d).1, ((k.value a).run.run d).2,
      log ++ (((k.value a).run.run d).1.toOption.map fun v => ⟨k.text, a, v⟩).toList) := rfl

/-! ### Steps -/

/-- One exchange somewhere in a text. -/
inductive Step (P : Exchange → Prop) : Text → Text → Prop
  | intro (u : Text) (e : Exchange) (v : Text) : P e →
      Step P (u ++ written e.token e.argument ++ v) (u ++ e.value ++ v)

abbrev Steps (P : Exchange → Prop) : Text → Text → Prop := Relation.ReflTransGen (Step P)

variable {P Q : Exchange → Prop}

namespace Steps

/-- Exchanges in a part of a text. -/
theorem within {s t : Text} (h : Steps P s t) (u v : Text) :
    Steps P (u ++ s ++ v) (u ++ t ++ v) := by
  refine h.lift (fun x => u ++ x ++ v) ?_
  rintro _ _ ⟨u', e, v', he⟩
  have hstep := Step.intro (u ++ u') e (v' ++ v) he
  simpa only [Function.onFun, List.append_assoc] using hstep

theorem append {s t s' t' : Text} (h : Steps P s t) (h' : Steps P s' t') :
    Steps P (s ++ s') (t ++ t') := by
  have h1 := h.within [] s'
  have h2 := h'.within t []
  rw [List.nil_append, List.nil_append] at h1
  rw [List.append_nil, List.append_nil] at h2
  exact h1.trans h2

theorem cons (c : Char) {s t : Text} (h : Steps P s t) : Steps P (c :: s) (c :: t) :=
  append (s := [c]) .refl h

theorem mono {s t : Text} (h : Steps P s t) (hPQ : ∀ e, P e → Q e) : Steps Q s t := by
  refine h.lift id ?_
  rintro _ _ ⟨u, e, v, he⟩
  exact .intro u e v (hPQ e he)

theorem exchange (e : Exchange) (he : P e) : Steps P (written e.token e.argument) e.value := by
  have := Step.intro [] e [] he
  rw [List.nil_append, List.nil_append, List.append_nil, List.append_nil] at this
  exact .single this

end Steps

/-! ### Notes -/

/-- What a noted computation comes to is as `post` says, if all that it has written down is as `P`
says. What has been written down stays. -/
def Sound {α : Type} (P : Exchange → Prop) (post : α → Prop) (x : Noted α) : Prop :=
  ∀ s a s', x.run.run s = (.ok a, s') → s.2 <+: s'.2 ∧ ((∀ e ∈ s'.2, P e) → post a)

namespace Sound

variable {α β : Type} {post : α → Prop} {post' : β → Prop}

theorem pure {a : α} (h : post a) : Sound P post (Pure.pure a) := by
  rintro s _ _ ⟨⟩
  exact ⟨List.prefix_refl _, fun _ => h⟩

theorem bind {x : Noted α} {f : α → Noted β} (hx : Sound P post x)
    (hf : ∀ a, Sound P (fun b => post a → post' b) (f a)) : Sound P post' (x >>= f) := by
  intro s b s' h
  obtain ⟨a, between, ha, hb⟩ := Computation.run_of_bind h
  obtain ⟨hlog, hpost⟩ := hx _ _ _ ha
  obtain ⟨hlog', hpost'⟩ := hf a _ _ _ hb
  exact ⟨hlog.trans hlog', fun hP => hpost' hP (hpost fun e he => hP e (hlog'.subset he))⟩

theorem mono {x : Noted α} {post' : α → Prop} (h : Sound P post x) (hp : ∀ a, post a → post' a) :
    Sound P post' x := fun s a s' hrun =>
  (h s a s' hrun).imp_right fun hpost hP => hp a (hpost hP)

/-- An exchange for a token that is written down. -/
abbrev Of (P : Exchange → Prop) (token : Text) (e : Exchange) : Prop := P e ∧ e.token = token

theorem noted (k : Replacement) (a : Option Text) :
    Sound P (Steps (Of P k.text) (written k.text a)) (k.noted a) := by
  rintro ⟨d, log⟩ v s' h
  rw [Replacement.run_noted] at h
  generalize (k.value a).run.run d = ran at h
  obtain ⟨e | w, d'⟩ := ran <;> cases h
  refine ⟨List.prefix_append _ _, fun hP => ?_⟩
  exact Steps.exchange ⟨k.text, a, v⟩ ⟨hP _ (List.mem_append_right _ List.mem_cons_self), rfl⟩

theorem refillM (k : Replacement) (parts : List (Text.Fragment (Option Text))) :
    Sound P (Steps (Of P k.text) (Text.refill (written k.text) parts))
      (Text.refillM k.noted parts) := by
  induction parts with
  | nil => exact pure .refl
  | cons part parts ih =>
    cases part with
    | char c => exact ih.bind fun rest => pure fun hrest => hrest.cons c
    | found a =>
      exact (noted k a).bind fun made => ih.bind fun rest => pure fun hrest hmade =>
        hmade.append hrest

theorem replaceToken {k : Replacement} (hk : k.text ≠ []) (t : Text) :
    Sound P (Steps (Of P k.text) t) (Naming.replaceToken k.text k.accepts k.noted t) := by
  have hself : Text.refill (written k.text) (Text.cut k.find t) = t := by
    refine Text.refill_cut_eq_self fun u v a n _ h => ?_
    obtain ⟨⟨r, rfl⟩, rfl, -⟩ := Token.find_eq_some h
    have hlen := Token.length_text_le k.toToken a
    exact ⟨Nat.lt_of_lt_of_le (List.length_pos_iff.2 hk) hlen, List.take_left.symm⟩
  have h := refillM (P := P) k (Text.cut k.find t)
  rwa [hself] at h

theorem foldlM {l : List Replacement} (hl : ∀ k ∈ l, k.text ≠ []) (t : Text) :
    Sound P (Steps (fun e => ∃ k ∈ l, Of P k.text e) t)
      (l.foldlM (fun t k => Naming.replaceToken k.text k.accepts k.noted t) t) := by
  induction l generalizing t with
  | nil => exact pure .refl
  | cons k l ih =>
    rw [List.foldlM_cons]
    refine (replaceToken (hl k List.mem_cons_self) t).bind fun u => ?_
    refine (ih (fun k hk => hl k (.tail _ hk)) u).mono fun v h h' => ?_
    exact (h'.mono fun e he => ⟨k, List.mem_cons_self, he⟩).trans
      (h.mono fun e ⟨k, hk, he⟩ => ⟨k, .tail _ hk, he⟩)

/-- Escaped characters, with their escapes, are left as they are. -/
theorem mapParts {f : Text → Noted Text} (hf : ∀ t, Sound P (Steps Q t) (f t)) (escape : Char)
    (parts : List Escaped.Part) :
    Sound P (Steps Q (Escaped.join escape parts)) (Escaped.mapParts escape f parts) := by
  induction parts with
  | nil => exact pure .refl
  | cons part parts ih =>
    cases part with
    | run t => exact (hf t).bind fun made => ih.bind fun rest => pure fun hrest hmade =>
        hmade.append hrest
    | pair c => exact ih.bind fun rest => pure fun hrest => (hrest.cons c).cons escape
    | lone => exact ih.bind fun rest => pure fun hrest => hrest.cons escape

end Sound

end Naming

open Naming

namespace Namer

/-- The exchanges in the expansion of a text, in their order. -/
def exchanges (n : Namer) (escape : Char) (t : Text) (before : Session) : List Exchange :=
  ((Escaped.mapRuns escape (replaceWith Replacement.noted n (n.shared t before.counter)) t).run.run
    (before.draws, [])).2.2

theorem replaceWith_parallel {m m' : Type → Type} [Monad m] [Monad m'] (R : Parallel m m')
    {value : Replacement → Option Text → m Text} {value' : Replacement → Option Text → m' Text}
    (h : ∀ k a, R.Holds (value k a) (value' k a)) (n : Namer) (s : Shared) (t : Text) :
    R.Holds (replaceWith value n s t) (replaceWith value' n s t) :=
  R.bind (R.foldlM (fun k _ t => replaceToken_parallel R (h k) k.text k.accepts t) t) fun made =>
    R.pure (truncate n.maxName (n.kind.sanitize made))

theorem sound_replaceWith {P : Exchange → Prop} {n : Namer} (hk : n.kind = .text)
    (hl : n.maxName = none) (s : Shared) (t : Text) :
    Sound P (Steps (fun e => ∃ k ∈ n.replacements s, Sound.Of P k.text e) t)
      (replaceWith Replacement.noted n s t) := by
  refine (Sound.foldlM (fun k h => text_ne_nil_of_replacements h) t).bind fun made => ?_
  rw [hk, hl]
  exact .pure id

/-- An expansion without a length limit goes from its text to its result in its exchanges, all of
them for tokens of the namer. -/
theorem steps_expandKeepingEscapes {n : Namer} (hk : n.kind = .text) (hl : n.maxName = none)
    {escape : Char} {t made : Text} {before after : Session}
    (h : (n.expandKeepingEscapes escape t).run.run before = (.ok made, after)) :
    Steps (fun e => ∃ k ∈ n.replacements (n.shared t before.counter),
      e ∈ n.exchanges escape t before ∧ e.token = k.text) t made := by
  let R : Parallel (Drawing Error) Noted := .project Prod.fst
  have hvalue : ∀ (k : Replacement) a, R.Holds (k.value a) (k.noted a) := fun _ _ _ => rfl
  have hnoted := Escaped.mapParts_parallel R
    (replaceWith_parallel R hvalue n (n.shared t before.counter)) escape (Escaped.cut escape t)
    (before.draws, [])
  have hrun := n.run_expandKeepingEscapes_eq escape t before
  rw [h] at hrun
  have hmade := (Prod.mk.inj (hnoted.symm.trans hrun)).1
  have hsound := Sound.mapParts (sound_replaceWith (P := (· ∈ n.exchanges escape t before)) hk hl
    (n.shared t before.counter)) escape (Escaped.cut escape t)
  rw [Escaped.join_cut] at hsound
  exact (hsound (before.draws, []) made _ (Prod.ext hmade rfl)).2 fun e he => he

end Namer

end UploadTemplate
